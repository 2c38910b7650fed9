import SkyeyeStarlet.Blocks
import SkyeyeStarlet.Library.Runs

/-!
Register banking refines the architecture.  `ArchState` is the architectural
register file with one cell for each register that the architecture has; writes,
mode changes and the user bank transfers act on it without copying anything.
-/

namespace SkyeyeStarlet

variable {Mem : Type}

structure ArchState (Mem : Type) where
  cells : Bank → RegNum → ARMword
  mode : ModeNum
  mem : Mem

def ArchState.read (arch : ArchState Mem) (bank : Bank) (number : RegNum) : ARMword :=
  arch.cells (registerRow bank number) number

def ArchState.write (arch : ArchState Mem) (bank : Bank) (number : RegNum) (value : ARMword) :
    ArchState Mem :=
  { arch with
    cells := Function.update arch.cells (registerRow bank number)
      (Function.update (arch.cells (registerRow bank number)) number value) }

def ArchState.writeUser (arch : ArchState Mem) : List Nat → List ARMword → ArchState Mem
  | index :: rest, word :: words =>
      (arch.write .userbank (BitVec.ofNat 4 index) word).writeUser rest words
  | _, _ => arch

theorem ArchState.read_write (arch : ArchState Mem) (bank current : Bank)
    (number written : RegNum) (value : ARMword) :
    (arch.write current written value).read bank number =
      if number = written ∧ registerRow bank number = registerRow current number then value
      else arch.read bank number := by
  by_cases same : number = written
  · subst same
    by_cases shared : registerRow bank number = registerRow current number
    · simp [ArchState.read, ArchState.write, shared]
    · simp [ArchState.read, ArchState.write, shared]
  · by_cases shared : registerRow bank number = registerRow current written
    · simp [ArchState.read, ArchState.write, same, shared]
    · simp [ArchState.read, ArchState.write, same, shared]

inductive BankEvent where
  | writeReg (number : RegNum) (value : ARMword)
  | setCPSR (value : ARMword)
  | loadUser (instr : ARMword)
  | storeUser (instr : ARMword)

def bankStep (bus : Bus Mem) (state : ARMulState Mem) : BankEvent → ARMulState Mem
  | .writeReg number value => state.setReg number value
  | .setCPSR value => armulSetCPSR state value
  | .loadUser instr => blockTransfer bus state instr
  | .storeUser instr => blockTransfer bus state instr

def archStep (bus : Bus Mem) (arch : ArchState Mem) : BankEvent → ArchState Mem
  | .writeReg number value => arch.write (modeToBank arch.mode) number value
  | .setCPSR value => { arch with mode := value.setWidth 5 }
  | .loadUser instr =>
      let start := blockStart instr (arch.read (modeToBank arch.mode) (lhsReg instr))
      let run := readBlock bus arch.mode (listedRegs instr).length start arch.mem
      { arch.writeUser (listedRegs instr) run.words with mem := run.mem }
  | .storeUser instr =>
      let start := blockStart instr (arch.read (modeToBank arch.mode) (lhsReg instr))
      let words := (listedRegs instr).map fun index => arch.read .userbank (BitVec.ofNat 4 index)
      { arch with mem := (writeBlock bus arch.mode words start arch.mem).mem }

def userForm (instr : ARMword) : Bool :=
  instr.getLsbD 22 && !instr.getLsbD 21 && !(listedRegs instr).isEmpty

/-- Status words select a valid mode, and user bank transfers do not fault. -/
def BankAllowed (bus : Bus Mem) (state : ARMulState Mem) : BankEvent → Prop
  | .writeReg _ _ => True
  | .setCPSR value => validMode (value.setWidth 5) = true
  | .loadUser instr =>
      userForm instr = true ∧ instr.getLsbD 20 = true ∧ instr.getLsbD 15 = false ∧
        (readBlock bus state.mode (listedRegs instr).length
          (blockStart instr (state.reg (lhsReg instr))) state.mem).failed = false
  | .storeUser instr =>
      userForm instr = true ∧ instr.getLsbD 20 = false ∧
        (writeBlock bus state.mode
          ((listedRegs instr).map fun index => bankedReg state.file .userbank (BitVec.ofNat 4 index))
          (blockStart instr (state.reg (lhsReg instr))) state.mem).failed = false

structure Refines (state : ARMulState Mem) (arch : ArchState Mem) : Prop where
  coherent : Coherent32 state
  isV4 : state.isV4 = true
  clear : state.aborted = 0#32
  mode : arch.mode = state.mode
  mem : arch.mem = state.mem
  cells : ∀ bank number, bankedReg state.file bank number = arch.read bank number

theorem Refines.reg {state : ARMulState Mem} {arch : ArchState Mem} (refines : Refines state arch)
    (number : RegNum) : state.reg number = arch.read (modeToBank arch.mode) number := by
  rw [refines.mode, ← refines.coherent.live, ← refines.cells]
  exact (bankedReg_current state.file number).symm

theorem setListed_writeUser {file : Registers} {arch : ArchState Mem}
    (user : file.bank = .userbank) {list : List Nat} (small : ∀ index ∈ list, index < 16)
    (words : List ARMword)
    (cells : ∀ bank number, bankedReg file bank number = arch.read bank number) :
    ∀ bank number, bankedReg (setListed file list words) bank number =
      (arch.writeUser list words).read bank number := by
  induction list generalizing file arch words with
  | nil => exact cells
  | cons index rest ih =>
      cases words with
      | nil => exact cells
      | cons word later =>
          have bound := small index (by simp)
          refine ih ((setRawReg_bank file index word).trans user)
            (fun other member => small other (by simp [member])) later ?_
          intro bank number
          rw [setRawReg, if_pos bound, bankedReg_set, ArchState.read_write, user, cells]

theorem writeUser_mode (arch : ArchState Mem) (list : List Nat) (words : List ARMword) :
    (arch.writeUser list words).mode = arch.mode := by
  induction list generalizing arch words with
  | nil => rfl
  | cons index rest ih =>
      cases words with
      | nil => rfl
      | cons word later => exact ih _ later

theorem userForm_cases {instr : ARMword} (form : userForm instr = true) :
    instr.getLsbD 22 = true ∧ instr.getLsbD 21 = false ∧ listedRegs instr ≠ [] := by
  simp only [userForm, Bool.and_eq_true, Bool.not_eq_true', List.isEmpty_eq_false_iff] at form
  exact ⟨form.1.1, form.1.2, form.2⟩

theorem loadUser_eq {bus : Bus Mem} {state : ARMulState Mem} (isV4 : state.isV4 = true)
    (clear : state.aborted = 0#32) {instr : ARMword} (form : userForm instr = true)
    (load : instr.getLsbD 20 = true) (noPc : instr.getLsbD 15 = false)
    (reads : (readBlock bus state.mode (listedRegs instr).length
      (blockStart instr (state.reg (lhsReg instr))) state.mem).failed = false) :
    let run := readBlock bus state.mode (listedRegs instr).length
      (blockStart instr (state.reg (lhsReg instr))) state.mem
    blockTransfer bus state instr =
      { state with
        file := ownFile (setListed (userFile state) (listedRegs instr) run.words) state.mode
        mem := run.mem
        abortSig := false } := by
  obtain ⟨sBit, noWriteback, nonempty⟩ := userForm_cases form
  have loads := loadAll_eq bus false nonempty (blockStart instr (state.reg (lhsReg instr)))
    { state with file := userFile state } clear
  simp only [reads, abortCode, Bool.false_eq_true, if_false] at loads
  simp only [blockTransfer, sBit, load, loadSMult, bususedincpcs_v4 isV4, noPc, toUserBank_eq, loads,
    writeBack_none noWriteback, Bool.false_and, Bool.false_eq_true, if_true, if_false, toOwnBank_eq]
  rw [clear]

theorem storeUser_eq {bus : Bus Mem} {state : ARMulState Mem} (isV4 : state.isV4 = true)
    (clear : state.aborted = 0#32) {instr : ARMword} (form : userForm instr = true)
    (store : instr.getLsbD 20 = false)
    (writes : (writeBlock bus state.mode ((listedRegs instr).map (rawReg (userFile state)))
      (blockStart instr (state.reg (lhsReg instr))) state.mem).failed = false) :
    let run := writeBlock bus state.mode ((listedRegs instr).map (rawReg (userFile state)))
      (blockStart instr (state.reg (lhsReg instr))) state.mem
    blockTransfer bus state instr =
      { state with
        file := ownFile (userFile state) state.mode
        mem := run.mem
        abortSig := false
        nextInstr := state.nextInstr ||| 1#8 } := by
  obtain ⟨sBit, noWriteback, nonempty⟩ := userForm_cases form
  have stores := storeAll_eq bus nonempty (blockStart instr (state.reg (lhsReg instr)))
    { state with file := userFile state, nextInstr := state.nextInstr ||| 1#8 } clear
  simp only [writes, abortCode, Bool.false_eq_true, if_false] at stores
  simp only [blockTransfer, sBit, store, storeSMult, bususedincpcn_v4 isV4, toUserBank_eq]
  rw [show userFile { state with nextInstr := state.nextInstr ||| 1#8 } = userFile state from rfl]
  simp only [stores, if_true, writeBackLate_none noWriteback, toOwnBank_eq]
  rw [clear]

theorem userWords_eq {state : ARMulState Mem} (coherent : Coherent32 state) {list : List Nat}
    (small : ∀ index ∈ list, index < 16) :
    list.map (rawReg (userFile state)) =
      list.map fun index => bankedReg state.file .userbank (BitVec.ofNat 4 index) := by
  apply List.map_congr_left
  intro index member
  rw [rawReg, if_pos (small index member), ← bankedReg_userFile coherent,
    ← userFile_bank state, bankedReg_current]

theorem refines_writeReg {state : ARMulState Mem} {arch : ArchState Mem}
    (refines : Refines state arch) (number : RegNum) (value : ARMword) :
    Refines (state.setReg number value) (arch.write (modeToBank arch.mode) number value) := by
  refine ⟨⟨refines.coherent.prog32, refines.coherent.valid, refines.coherent.live⟩, refines.isV4,
    refines.clear, refines.mode, refines.mem, ?_⟩
  intro bank other
  rw [ArchState.read_write, refines.mode, ← refines.coherent.live, ← refines.cells]
  exact bankedReg_set state.file number value bank other

theorem refines_setCPSR {state : ARMulState Mem} {arch : ArchState Mem}
    (refines : Refines state arch) {value : ARMword}
    (selects : validMode (value.setWidth 5) = true) :
    Refines (armulSetCPSR state value) { arch with mode := value.setWidth 5 } := by
  have coherent := refines.coherent
  let taken : ARMulState Mem := { state with cpsr := value }
  have altered := armulCPSRAltered_eq (show taken.prog32Sig = true from coherent.prog32)
    coherent.valid selects
  rw [armulSetCPSR, altered]
  refine ⟨⟨coherent.prog32, selects, enterFile_bank coherent.live _⟩, refines.isV4, refines.clear,
    rfl, refines.mem, ?_⟩
  intro bank number
  exact (bankedReg_enterFile coherent.live coherent.valid selects bank number).trans
    (refines.cells bank number)

theorem refines_loadUser {bus : Bus Mem} {state : ARMulState Mem} {arch : ArchState Mem}
    (refines : Refines state arch) {instr : ARMword}
    (allowed : BankAllowed bus state (.loadUser instr)) :
    Refines (blockTransfer bus state instr) (archStep bus arch (.loadUser instr)) := by
  obtain ⟨form, load, noPc, reads⟩ := allowed
  have coherent := refines.coherent
  have listBank : (setListed (userFile state) (listedRegs instr)
      (readBlock bus state.mode (listedRegs instr).length
        (blockStart instr (state.reg (lhsReg instr))) state.mem).words).bank = .userbank := by
    rw [setListed_bank, userFile_bank]
  rw [loadUser_eq refines.isV4 refines.clear form load noPc reads, archStep, ← refines.reg,
    refines.mem, refines.mode]
  refine ⟨⟨coherent.prog32, coherent.valid, ownFile_bank listBank _⟩, refines.isV4, refines.clear,
    ?_, rfl, ?_⟩
  · exact (writeUser_mode arch _ _).trans refines.mode
  · intro bank number
    rw [bankedReg_ownFile listBank coherent.valid]
    exact setListed_writeUser (userFile_bank state) (fun _ => mem_listedRegs_lt) _
      (fun bank number => (bankedReg_userFile coherent bank number).trans (refines.cells bank number))
      bank number

theorem refines_storeUser {bus : Bus Mem} {state : ARMulState Mem} {arch : ArchState Mem}
    (refines : Refines state arch) {instr : ARMword}
    (allowed : BankAllowed bus state (.storeUser instr)) :
    Refines (blockTransfer bus state instr) (archStep bus arch (.storeUser instr)) := by
  obtain ⟨form, store, writes⟩ := allowed
  have coherent := refines.coherent
  have small : ∀ index ∈ listedRegs instr, index < 16 := fun _ => mem_listedRegs_lt
  have words := userWords_eq coherent small
  rw [← words] at writes
  have archWords : ((listedRegs instr).map fun index => arch.read .userbank (BitVec.ofNat 4 index)) =
      (listedRegs instr).map (rawReg (userFile state)) := by
    rw [words]
    exact List.map_congr_left fun index _ => (refines.cells _ _).symm
  rw [storeUser_eq refines.isV4 refines.clear form store writes, archStep, ← refines.reg,
    refines.mem, refines.mode, archWords]
  refine ⟨⟨coherent.prog32, coherent.valid, ownFile_bank (userFile_bank state) _⟩, refines.isV4,
    refines.clear, rfl, rfl, ?_⟩
  intro bank number
  exact (bankedReg_ownFile (userFile_bank state) coherent.valid bank number).trans
    ((bankedReg_userFile coherent bank number).trans (refines.cells bank number))

theorem bankStep_refines (bus : Bus Mem) (state : ARMulState Mem) (arch : ArchState Mem)
    (event : BankEvent) (refines : Refines state arch) (allowed : BankAllowed bus state event) :
    Refines (bankStep bus state event) (archStep bus arch event) := by
  cases event with
  | writeReg number value => exact refines_writeReg refines number value
  | setCPSR value => exact refines_setCPSR refines allowed
  | loadUser instr => exact refines_loadUser refines allowed
  | storeUser instr => exact refines_storeUser refines allowed

def archOf (state : ARMulState Mem) : ArchState Mem :=
  { cells := fun row number =>
      if row = registerRow state.file.bank number then state.file.reg number
      else state.file.regBank row number
    mode := state.mode
    mem := state.mem }

/-- After any run of register writes, mode changes and user bank transfers the live
registers are those of the architectural file in the current mode, every bank holds
its own registers, and the bank of the mode is the live one. -/
theorem banking_refines (bus : Bus Mem) (state : ARMulState Mem) (coherent : Coherent32 state)
    (isV4 : state.isV4 = true) (clear : state.aborted = 0#32) (events : List BankEvent)
    (allowed : Runs.AllSteps (bankStep bus) (BankAllowed bus) state events) :
    let final := Runs.run (bankStep bus) state events
    let arch := Runs.run (archStep bus) (archOf state) events
    (∀ number, final.reg number = arch.read (modeToBank final.mode) number) ∧
      (∀ bank number, bankedReg final.file bank number = arch.read bank number) ∧
      final.mode = arch.mode ∧ final.file.bank = modeToBank final.mode ∧ final.mem = arch.mem := by
  intro final arch
  have refines : Refines final arch :=
    Runs.run_simulation_of_allowed (bankStep bus) (archStep bus) Refines (BankAllowed bus)
      (bankStep_refines bus) state (archOf state) ⟨coherent, isV4, clear, rfl, rfl, fun _ _ => rfl⟩
      events allowed
  refine ⟨?_, refines.cells, refines.mode.symm, refines.coherent.live, refines.mem.symm⟩
  intro number
  rw [refines.reg number, refines.mode]

/-- In supervisor mode set the stack pointer, enter fast interrupt mode and load the
user stack pointer and link register from address zero. -/
def bankingEvents : List BankEvent :=
  [.writeReg 13#4 0x7000#32, .setCPSR 0xd1#32, .loadUser 0xe8d06000#32]

def bankingState : ARMulState FlatMemory :=
  coreAt svc32mode false 0x8000#32 (flatMemory fun address => address + 0x40#32)

theorem bankingEvents_allowed :
    Runs.AllSteps (bankStep flatBus) (BankAllowed flatBus) bankingState bankingEvents := by
  refine ⟨trivial, ?_, ?_, trivial⟩
  · show validMode _ = true
    decide
  · refine ⟨by decide, by decide, by decide, ?_⟩
    decide +kernel

theorem banking_refines_fiq :
    let final := Runs.run (bankStep flatBus) bankingState bankingEvents
    bankedReg final.file .userbank 14#4 = 0x44#32 ∧ bankedReg final.file .svcbank 13#4 = 0x7000#32 ∧
      final.file.bank = modeToBank final.mode := by
  have refines := banking_refines flatBus bankingState (coreAt_coherent (by decide) _ _ _) rfl rfl
    bankingEvents bankingEvents_allowed
  have user : (Runs.run (archStep flatBus) (archOf bankingState) bankingEvents).read .userbank 14#4 =
      0x44#32 := by
    decide +kernel
  have supervisor : (Runs.run (archStep flatBus) (archOf bankingState) bankingEvents).read .svcbank
      13#4 = 0x7000#32 := by
    decide +kernel
  rw [← user, ← supervisor]
  exact ⟨refines.2.1 .userbank 14#4, refines.2.1 .svcbank 13#4, refines.2.2.2.1⟩

end SkyeyeStarlet
