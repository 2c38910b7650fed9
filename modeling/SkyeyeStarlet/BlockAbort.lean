import SkyeyeStarlet.Blocks

/-!
Data aborts in the middle of a block transfer.  An abort is precise when the
handler finds the registers of every mode, and the base register of the
interrupted one, as the instruction that is to be run again needs them.
-/

namespace SkyeyeStarlet

variable {Mem : Type}

def storedFile (state : ARMulState Mem) (instr : ARMword) : Registers :=
  if instr.getLsbD 22 then userFile state else state.file

def FaultsAt (bus : Bus Mem) (state : ARMulState Mem) (instr : ARMword) (count : Nat) : Prop :=
  let start := blockStart instr (state.reg (lhsReg instr))
  if instr.getLsbD 20 then
    let run := readBlock bus state.mode (listedRegs instr).length start state.mem
    run.failed = true ∧ run.words.length = count
  else
    let words := (listedRegs instr).map (rawReg (storedFile state instr))
    let run := writeBlock bus state.mode words start state.mem
    run.failed = true ∧ run.count = count

def loadedBank (mode : ModeNum) (instr : ARMword) : Bank :=
  if instr.getLsbD 22 && !instr.getLsbD 15 then .userbank else modeToBank mode

def LoadedBefore (mode : ModeNum) (instr : ARMword) (count : Nat) (bank : Bank)
    (number : RegNum) : Prop :=
  instr.getLsbD 20 = true ∧ number.toNat ∈ (listedRegs instr).take count ∧
    registerRow bank number = registerRow (loadedBank mode instr) number

def IsBase (mode : ModeNum) (instr : ARMword) (bank : Bank) (number : RegNum) : Prop :=
  number = lhsReg instr ∧ registerRow bank number = registerRow (modeToBank mode) number

structure PreciseBlockAbort (bus : Bus Mem) (state final : ARMulState Mem) (instr pc : ARMword)
    (count : Nat) : Prop where
  entered : AbortEntered bus.highVectors state final pc
  registers : ∀ bank number, number ≠ 15#4 → ¬(bank = .abortbank ∧ number = 14#4) →
    ¬LoadedBefore state.mode instr count bank number → ¬IsBase state.mode instr bank number →
    bankedReg final.file bank number = bankedReg state.file bank number
  base :
    let base := state.reg (lhsReg instr)
    let now := bankedReg final.file (modeToBank state.mode) (lhsReg instr)
    now = base ∨ instr.getLsbD 21 = true ∧ state.lateabtSig = true ∧ now = blockBase instr base

def baseLoaded (instr : ARMword) (count : Nat) : Bool :=
  ((listedRegs instr).take count).contains (lhsReg instr).toNat

/-- When a fault at word `count` leaves an instruction that can be run again. -/
def restartable (mode : ModeNum) (late : Bool) (instr : ARMword) (count : Nat) : Bool :=
  !(mode == abort32mode && lhsReg instr == 14#4) &&
    match instr.getLsbD 20, instr.getLsbD 22 with
    | false, false => true
    | false, true => modeToBank mode == .userbank
    | true, false => !baseLoaded instr count
    | true, true =>
        instr.getLsbD 15 && mode == abort32mode &&
          (!baseLoaded instr count || instr.getLsbD 21 && late)

/-- Every fault at word `count` of the instruction is precise, whatever the registers,
the memory and its contents. -/
def BlockAbortsPrecisely (mode : ModeNum) (late : Bool) (instr : ARMword) (count : Nat) : Prop :=
  ∀ (Mem : Type) (bus : Bus Mem) (state : ARMulState Mem) (pc : ARMword),
    Coherent32 state → state.isV4 = true → state.aborted = 0#32 → state.mode = mode →
    state.lateabtSig = late → state.reg 15#4 = pc + 2#32 * insnSize state →
    FaultsAt bus state instr count →
    PreciseBlockAbort bus state (blockTransfer bus state instr) instr pc count

theorem bankedReg_setListed {file : Registers} {list : List Nat} (small : ∀ index ∈ list, index < 16)
    (words : List ARMword) {bank : Bank} {number : RegNum}
    (kept : ¬(number.toNat ∈ list.take words.length ∧
      registerRow bank number = registerRow file.bank number)) :
    bankedReg (setListed file list words) bank number = bankedReg file bank number := by
  induction list generalizing file words with
  | nil => rfl
  | cons index rest ih =>
      cases words with
      | nil => rfl
      | cons word later =>
          have bound := small index (by simp)
          have rowBank : (setRawReg file index word).bank = file.bank := setRawReg_bank _ _ _
          rw [setListed, ih (fun other member => small other (by simp [member])) later]
          · rw [setRawReg, if_pos bound, bankedReg_set, if_neg]
            rintro ⟨same, shared⟩
            apply kept
            refine ⟨?_, shared⟩
            rw [same]
            simp [Nat.mod_eq_of_lt bound]
          · rw [rowBank]
            rintro ⟨member, shared⟩
            exact kept ⟨by simp [member], shared⟩

theorem bankedReg_setListed_const {file : Registers} {list : List Nat}
    (small : ∀ index ∈ list, index < 16) {words : List ARMword} {value : ARMword}
    (constant : ∀ word ∈ words, word = value) {bank : Bank} {number : RegNum}
    (loaded : number.toNat ∈ list.take words.length)
    (shared : registerRow bank number = registerRow file.bank number) :
    bankedReg (setListed file list words) bank number = value := by
  induction list generalizing file words with
  | nil => simp at loaded
  | cons index rest ih =>
      cases words with
      | nil => simp at loaded
      | cons word later =>
          have bound := small index (by simp)
          have rowBank : (setRawReg file index word).bank = file.bank := setRawReg_bank _ _ _
          have tailSmall : ∀ other ∈ rest, other < 16 := fun other member => small other (by simp [member])
          rw [setListed]
          by_cases again : number.toNat ∈ rest.take later.length
          · exact ih tailSmall (fun other member => constant other (by simp [member])) again
              (by rw [rowBank]; exact shared)
          · have first : number = BitVec.ofNat 4 index := by
              have here : number.toNat = index := by
                simpa [again] using loaded
              rw [← here, BitVec.ofNat_toNat, BitVec.setWidth_eq]
            rw [bankedReg_setListed tailSmall later (fun both => again both.1), setRawReg,
              if_pos bound, bankedReg_set, if_pos ⟨first, shared⟩]
            exact constant word (by simp)

theorem readBlock_failed_length {bus : Bus Mem} {mode : ModeNum} {count : Nat} {address : ARMword}
    {mem : Mem} (failed : (readBlock bus mode count address mem).failed = true) :
    (readBlock bus mode count address mem).words.length < count := by
  induction count generalizing address mem with
  | zero => simp [readBlock] at failed
  | succ count ih =>
      simp only [readBlock] at failed ⊢
      split at failed
      · rename_i ok
        simp only [ok, if_true, List.length_cons]
        have shorter := ih failed
        omega
      · rename_i fault
        simp only [fault, if_false, List.length_nil]
        omega

theorem pc_not_loaded {instr : ARMword} {count : Nat} (bound : count < (listedRegs instr).length) :
    15 ∉ (listedRegs instr).take count := by
  intro loaded
  have sorted : (listedRegs instr).Pairwise (· < ·) := List.pairwise_lt_range.filter _
  rw [← List.take_append_drop count (listedRegs instr), List.pairwise_append] at sorted
  obtain ⟨index, member⟩ : ∃ index, index ∈ (listedRegs instr).drop count := by
    apply List.exists_mem_of_ne_nil
    intro empty
    have none := List.drop_eq_nil_iff.mp empty
    omega
  have later := sorted.2.2 15 loaded index member
  have small := mem_listedRegs_lt (List.mem_of_mem_drop member)
  omega

def lateFile (instr wbBase : ARMword) (late : Bool) (file : Registers) : Registers :=
  if instr.getLsbD 21 && late then file.set (lhsReg instr) wbBase else file

theorem writeBackLate_abort {instr : ARMword} (notPc : lhsReg instr ≠ 15#4) (wbBase : ARMword)
    {state : ARMulState Mem} (aborts : state.abortSig = true) (aborted : state.aborted = 16#32) :
    writeBackLate instr wbBase state =
      { state with file := lateFile instr wbBase state.lateabtSig state.file } := by
  by_cases written : (instr.getLsbD 21 && state.lateabtSig) = true
  · obtain ⟨writeback, late⟩ := (Bool.and_eq_true _ _).mp written
    rw [writeBackLate, if_neg (by rw [late]; simp), writeBack,
      if_pos (by rw [writeback]; simpa using notPc), lateFile, if_pos written]
    rfl
  · rw [lateFile, if_neg written, writeBackLate, writeBack]
    cases late : state.lateabtSig with
    | false =>
        rw [if_pos (by rw [aborts, aborted]; rfl), ← late]
    | true =>
        rw [late, Bool.and_true, Bool.not_eq_true] at written
        rw [if_neg (by simp), if_neg (by rw [written]; simp), ← late]

theorem lateFile_bank (instr wbBase : ARMword) (late : Bool) (file : Registers) :
    (lateFile instr wbBase late file).bank = file.bank := by
  unfold lateFile
  split <;> rfl

theorem lateFile_reg {instr : ARMword} {number : RegNum} (notBase : number ≠ lhsReg instr)
    (wbBase : ARMword) (late : Bool) (file : Registers) :
    (lateFile instr wbBase late file).reg number = file.reg number := by
  unfold lateFile
  split
  · exact Function.update_of_ne notBase _ _
  · rfl

theorem bankedReg_lateFile (instr wbBase : ARMword) (late : Bool) (file : Registers) (bank : Bank)
    (number : RegNum) :
    bankedReg (lateFile instr wbBase late file) bank number =
      if (instr.getLsbD 21 && late) = true ∧ number = lhsReg instr ∧
          registerRow bank number = registerRow file.bank number then wbBase
      else bankedReg file bank number := by
  unfold lateFile
  by_cases written : (instr.getLsbD 21 && late) = true
  · rw [if_pos written, bankedReg_set]
    simp only [written, true_and]
  · rw [if_neg written, if_neg (fun both => written both.1)]

/-- A state that transfers led to from `state`, with the given register file. -/
structure FaultedWith (state faulted : ARMulState Mem) (file : Registers) : Prop where
  file : faulted.file = file
  mode : faulted.mode = state.mode
  flags : faulted.flags = state.flags
  spsr : faulted.spsr = state.spsr
  prog32 : faulted.prog32Sig = state.prog32Sig

structure KeptFile (state : ARMulState Mem) (instr : ARMword) (count : Nat) (file : Registers) :
    Prop where
  bank : file.bank = state.file.bank
  pc : file.reg 15#4 = state.reg 15#4
  registers : ∀ bank number, number ≠ 15#4 → ¬LoadedBefore state.mode instr count bank number →
    ¬IsBase state.mode instr bank number →
    bankedReg file bank number = bankedReg state.file bank number

structure RestartFile (state : ARMulState Mem) (instr : ARMword) (count : Nat) (file : Registers) :
    Prop extends KeptFile state instr count file where
  base :
    let base := state.reg (lhsReg instr)
    let now := bankedReg file (modeToBank state.mode) (lhsReg instr)
    now = base ∨ instr.getLsbD 21 = true ∧ state.lateabtSig = true ∧ now = blockBase instr base

theorem FaultedWith.coherent {state faulted : ARMulState Mem} {file : Registers}
    (faults : FaultedWith state faulted file) (coherent : Coherent32 state)
    (bank : file.bank = state.file.bank) : Coherent32 faulted := by
  refine ⟨faults.prog32.trans coherent.prog32, ?_, ?_⟩
  · rw [faults.mode]
    exact coherent.valid
  · rw [faults.file, bank, faults.mode]
    exact coherent.live

theorem bank_abort_iff {mode : ModeNum} (valid : validMode mode = true) :
    modeToBank mode = .abortbank ↔ mode = abort32mode := by
  revert mode
  decide

theorem bankedReg_takeAbort (bus : Bus Mem) {faulted : ARMulState Mem}
    (coherent : Coherent32 faulted) (bank : Bank) {number : RegNum} (notPc : number ≠ 15#4)
    (notLink : ¬(bank = .abortbank ∧ number = 14#4)) :
    bankedReg (takeAbort bus faulted).file bank number = bankedReg faulted.file bank number := by
  exact bankedReg_abort coherent (show Vector.is32 .dataAbortV = true from rfl) bank notPc notLink

theorem preciseBlockAbort_of_faulted {bus : Bus Mem} {state faulted : ARMulState Mem}
    (coherent : Coherent32 state) {instr pc : ARMword} {count : Nat}
    (pipelined : state.reg 15#4 = pc + 2#32 * insnSize state) (basePc : lhsReg instr ≠ 15#4)
    (baseLink : ¬(state.mode = abort32mode ∧ lhsReg instr = 14#4)) {file : Registers}
    (faults : FaultedWith state faulted file) (restart : RestartFile state instr count file) :
    PreciseBlockAbort bus state (takeAbort bus faulted) instr pc count := by
  have faulted32 := faults.coherent coherent restart.bank
  have sizes : insnSize faulted = insnSize state := by
    rw [insnSize, insnSize, ARMulState.tFlag, ARMulState.tFlag, faults.flags]
  have faultedPc : faulted.reg 15#4 = pc + 2#32 * insnSize faulted := by
    rw [sizes, ← pipelined, ← restart.pc, ← faults.file]
    rfl
  refine ⟨abortEntered_of_kept faulted32 faults.flags faults.mode faults.spsr faultedPc, ?_, ?_⟩
  · intro bank number notPc notLink notLoaded notBase
    rw [bankedReg_takeAbort bus faulted32 bank notPc notLink, faults.file]
    exact restart.registers bank number notPc notLoaded notBase
  · have notLink : ¬(modeToBank state.mode = .abortbank ∧ lhsReg instr = 14#4) := by
      rw [bank_abort_iff coherent.valid]
      exact baseLink
    rw [bankedReg_takeAbort bus faulted32 _ basePc notLink, faults.file]
    exact restart.base

theorem keptFile_self (state : ARMulState Mem) (instr : ARMword) (count : Nat) :
    KeptFile state instr count state.file := by
  exact ⟨rfl, rfl, fun _ _ _ _ _ => rfl⟩

theorem keptFile_setListed {state : ARMulState Mem} (coherent : Coherent32 state) {instr : ARMword}
    (load : instr.getLsbD 20 = true) (ownBank : loadedBank state.mode instr = modeToBank state.mode)
    {words : List ARMword} (bound : words.length < (listedRegs instr).length) :
    KeptFile state instr words.length (setListed state.file (listedRegs instr) words) := by
  have small : ∀ index ∈ listedRegs instr, index < 16 := fun _ => mem_listedRegs_lt
  refine ⟨setListed_bank _ _ _, ?_, ?_⟩
  · have kept : bankedReg (setListed state.file (listedRegs instr) words) state.file.bank 15#4 =
        bankedReg state.file state.file.bank 15#4 :=
      bankedReg_setListed small words (fun both => pc_not_loaded bound both.1)
    rw [← bankedReg_current, setListed_bank, kept]
    exact bankedReg_current state.file 15#4
  · intro bank number _ notLoaded _
    apply bankedReg_setListed small
    rintro ⟨member, shared⟩
    exact notLoaded ⟨load, member, by rw [ownBank, shared, coherent.live]⟩

theorem restartFile_late {state : ARMulState Mem} (coherent : Coherent32 state) {instr : ARMword}
    (basePc : lhsReg instr ≠ 15#4) {count : Nat} {file : Registers}
    (kept : KeptFile state instr count file)
    (base : (instr.getLsbD 21 && state.lateabtSig) = false →
      bankedReg file (modeToBank state.mode) (lhsReg instr) = state.reg (lhsReg instr)) :
    RestartFile state instr count (lateFile instr (blockBase instr (state.reg (lhsReg instr)))
      state.lateabtSig file) := by
  have live : file.bank = modeToBank state.mode := kept.bank.trans coherent.live
  refine ⟨⟨(lateFile_bank _ _ _ _).trans kept.bank, ?_, ?_⟩, ?_⟩
  · exact (lateFile_reg (Ne.symm basePc) _ _ _).trans kept.pc
  · intro bank number notPc notLoaded notBase
    rw [bankedReg_lateFile, if_neg]
    · exact kept.registers bank number notPc notLoaded notBase
    · rintro ⟨_, same, shared⟩
      exact notBase ⟨same, by rw [shared, live]⟩
  · cases written : instr.getLsbD 21 && state.lateabtSig with
    | false =>
        left
        rw [bankedReg_lateFile, if_neg (by rw [written]; simp)]
        exact base written
    | true =>
        right
        obtain ⟨writeback, late⟩ := (Bool.and_eq_true _ _).mp written
        refine ⟨writeback, late, ?_⟩
        rw [bankedReg_lateFile, if_pos ⟨written, rfl, by rw [live]⟩]

section Faulted

variable {bus : Bus Mem} {state : ARMulState Mem} {instr : ARMword} {address : ARMword}

theorem loadMult_faulted (isV4 : state.isV4 = true) (clear : state.aborted = 0#32)
    (nonempty : listedRegs instr ≠ []) (wbBase : ARMword)
    (failed : (readBlock bus state.mode (listedRegs instr).length address state.mem).failed = true) :
    let run := readBlock bus state.mode (listedRegs instr).length address state.mem
    ∃ faulted, FaultedWith state faulted (setListed state.file (listedRegs instr) run.words) ∧
      loadMult bus state instr address wbBase = takeAbort bus faulted := by
  intro run
  have loads := loadAll_eq bus true nonempty address state clear
  simp only [failed, abortCode, if_true] at loads
  refine ⟨{ state with
    file := setListed state.file (listedRegs instr) run.words
    mem := run.mem
    abortSig := true
    aborted := 16#32 }, ⟨rfl, rfl, rfl, rfl, rfl⟩, ?_⟩
  simp only [loadMult, bususedincpcs_v4 isV4, loads]
  exact if_neg (show ¬16#32 = 0#32 by decide)

theorem storeMult_faulted (isV4 : state.isV4 = true) (clear : state.aborted = 0#32)
    (nonempty : listedRegs instr ≠ []) (basePc : lhsReg instr ≠ 15#4) (wbBase : ARMword)
    (failed : (writeBlock bus state.mode ((listedRegs instr).map (rawReg state.file)) address
      state.mem).failed = true) :
    ∃ faulted, FaultedWith state faulted (lateFile instr wbBase state.lateabtSig state.file) ∧
      storeMult bus state instr address wbBase = takeAbort bus faulted := by
  obtain ⟨next, started⟩ : ∃ next, (if state.tFlag then state else bususedincpcn state) =
      { state with nextInstr := next } := by
    split
    · exact ⟨state.nextInstr, rfl⟩
    · exact ⟨_, bususedincpcn_v4 isV4⟩
  have stores := storeAll_eq bus nonempty address { state with nextInstr := next } clear
  simp only [failed, abortCode, if_true] at stores
  refine ⟨{ state with
    file := lateFile instr wbBase state.lateabtSig state.file
    mem := (writeBlock bus state.mode ((listedRegs instr).map (rawReg state.file)) address
      state.mem).mem
    nextInstr := next
    abortSig := true
    aborted := 16#32 }, ⟨rfl, rfl, rfl, rfl, rfl⟩, ?_⟩
  simp only [storeMult, started, stores]
  rw [writeBackLate_abort basePc wbBase rfl rfl]
  exact if_neg (show ¬16#32 = 0#32 by decide)

theorem storeSMult_faulted (isV4 : state.isV4 = true) (clear : state.aborted = 0#32)
    (nonempty : listedRegs instr ≠ []) (basePc : lhsReg instr ≠ 15#4) (wbBase : ARMword)
    (failed : (writeBlock bus state.mode ((listedRegs instr).map (rawReg (userFile state))) address
      state.mem).failed = true) :
    ∃ faulted, FaultedWith state faulted (lateFile instr wbBase state.lateabtSig (userFile state)) ∧
      storeSMult bus state instr address wbBase = takeAbort bus faulted := by
  have stores := storeAll_eq bus nonempty address
    { state with file := userFile state, nextInstr := state.nextInstr ||| 1#8 } clear
  simp only [failed, abortCode, if_true] at stores
  refine ⟨{ state with
    file := lateFile instr wbBase state.lateabtSig (userFile state)
    mem := (writeBlock bus state.mode ((listedRegs instr).map (rawReg (userFile state))) address
      state.mem).mem
    nextInstr := state.nextInstr ||| 1#8
    abortSig := true
    aborted := 16#32 }, ⟨rfl, rfl, rfl, rfl, rfl⟩, ?_⟩
  simp only [storeSMult, bususedincpcn_v4 isV4, toUserBank_eq]
  rw [show userFile { state with nextInstr := state.nextInstr ||| 1#8 } = userFile state from rfl]
  simp only [stores]
  rw [if_neg (show ¬16#32 = 0#32 by decide), writeBackLate_abort basePc wbBase rfl rfl]
  exact if_neg (show ¬16#32 = 0#32 by decide)

def loadedFile (state : ARMulState Mem) (instr : ARMword) : Registers :=
  if instr.getLsbD 15 then state.file else userFile state

theorem loadSMult_faulted (prog32 : state.prog32Sig = true) (valid : validMode state.mode = true)
    (isV4 : state.isV4 = true) (clear : state.aborted = 0#32)
    (nonempty : listedRegs instr ≠ []) (basePc : lhsReg instr ≠ 15#4) (wbBase : ARMword)
    (failed : (readBlock bus state.mode (listedRegs instr).length address state.mem).failed = true) :
    let run := readBlock bus state.mode (listedRegs instr).length address state.mem
    ∃ faulted, FaultedWith state faulted (lateFile instr wbBase state.lateabtSig
        (setListed (loadedFile state instr) (listedRegs instr) run.words)) ∧
      loadSMult bus state instr address wbBase =
        if instr.getLsbD 15 then returnFromList (takeAbort bus faulted)
        else toOwnBank (takeAbort bus faulted) := by
  intro run
  have switched : (if instr.getLsbD 15 then state else toUserBank state) =
      { state with file := loadedFile state instr } := by
    rw [toUserBank_eq]
    unfold loadedFile
    split <;> rfl
  have loads := loadAll_eq bus false nonempty address { state with file := loadedFile state instr }
    clear
  simp only [failed, abortCode, if_true] at loads
  have entered (faulted : ARMulState Mem) (same : faulted.prog32Sig = true)
      (sameMode : validMode faulted.mode = true) : (takeAbort bus faulted).aborted = 0#32 := by
    rw [takeAbort, armulAbort_eq bus.highVectors same sameMode rfl]
  have ending (taken : ARMulState Mem) (cleared : taken.aborted = 0#32) :
      (let returned :=
        if instr.getLsbD 15 && taken.aborted == 0#32 then returnFromList taken else taken
      if instr.getLsbD 15 then returned else toOwnBank returned) =
      if instr.getLsbD 15 then returnFromList taken else toOwnBank taken := by
    rw [cleared]
    cases instr.getLsbD 15 <;> rfl
  refine ⟨{ state with
    file := lateFile instr wbBase state.lateabtSig
      (setListed (loadedFile state instr) (listedRegs instr) run.words)
    mem := run.mem
    abortSig := true
    aborted := 16#32 }, ⟨rfl, rfl, rfl, rfl, rfl⟩, ?_⟩
  simp only [loadSMult, bususedincpcs_v4 isV4, switched, loads]
  rw [if_neg (show ¬16#32 = 0#32 by decide), writeBackLate_abort basePc wbBase rfl rfl]
  exact ending _ (entered _ prog32 valid)

end Faulted

theorem base_current {state : ARMulState Mem} (coherent : Coherent32 state) (number : RegNum) :
    bankedReg state.file (modeToBank state.mode) number = state.reg number := by
  rw [← coherent.live]
  exact bankedReg_current state.file number

theorem base_not_loaded {state : ARMulState Mem} (coherent : Coherent32 state) {instr : ARMword}
    {words : List ARMword} (kept : baseLoaded instr words.length = false) :
    bankedReg (setListed state.file (listedRegs instr) words) (modeToBank state.mode)
      (lhsReg instr) = state.reg (lhsReg instr) := by
  rw [bankedReg_setListed (fun _ => mem_listedRegs_lt) words]
  · exact base_current coherent _
  · rintro ⟨member, _⟩
    simp [baseLoaded, member] at kept

theorem returnFromList_eq {state entered : ARMulState Mem} {highVectors : Mem → Bool}
    {pc : ARMword} (valid : validMode state.mode = true) (prog32 : entered.prog32Sig = true)
    (handler : AbortEntered highVectors state entered pc) :
    returnFromList entered =
      let file := enterFile entered.file abort32mode state.mode
      { enterMode entered state.mode with
        file := file.set 15#4 (alignPc state.tFlag (file.reg 15#4))
        flags := state.flags
        cpsr := armulGetCPSR state
        nextInstr := entered.nextInstr ||| 4#8 } := by
  have saved : armulGetSPSR entered entered.mode = armulGetCPSR state := by
    rw [handler.mode]
    exact handler.saved
  let taken : ARMulState Mem := { entered with cpsr := armulGetCPSR state }
  have selects : taken.cpsr.setWidth 5 = state.mode := packCPSR_mode _ _
  have inAbort : validMode taken.mode = true := by
    rw [show taken.mode = abort32mode from handler.mode]
    rfl
  have altered := armulCPSRAltered_eq (show taken.prog32Sig = true from prog32) inAbort
    (by rw [selects]; exact valid)
  rw [selects, show unpackFlags taken.cpsr = state.flags from unpackFlags_packCPSR _ _] at altered
  have notUser : inUserMode entered.mode = false := by
    rw [handler.mode]
    rfl
  simp only [returnFromList, notUser, saved, Bool.false_eq_true, if_false]
  rw [show armulCPSRAltered { entered with cpsr := armulGetCPSR state } = _ from altered,
    ← handler.mode]
  rfl

theorem alignPc_vectorAddress (thumb : Bool) (highVectors : Mem → Bool) (mem : Mem)
    (vector : Vector) :
    alignPc thumb (vectorAddress highVectors mem vector) = vectorAddress highVectors mem vector := by
  unfold vectorAddress
  cases thumb <;> cases highVectors mem <;> cases vector <;> rfl

theorem PreciseBlockAbort.returnFromList {bus : Bus Mem} {state entered : ARMulState Mem}
    {instr pc : ARMword} {count : Nat} (abortMode : state.mode = abort32mode)
    (prog32 : entered.prog32Sig = true)
    (precise : PreciseBlockAbort bus state entered instr pc count) :
    PreciseBlockAbort bus state (returnFromList entered) instr pc count := by
  have handler := precise.entered
  have aligned : alignPc state.tFlag (entered.reg 15#4) = entered.reg 15#4 := by
    rw [handler.vector]
    exact alignPc_vectorAddress _ _ _ _
  have same : enterFile entered.file abort32mode state.mode = entered.file := by
    rw [abortMode, enterFile, if_pos rfl]
  have setSame : entered.file.set 15#4 (entered.reg 15#4) = entered.file := by
    unfold Registers.set ARMulState.reg
    rw [Function.update_eq_self]
  have valid : validMode state.mode = true := by
    rw [abortMode]
    rfl
  rw [returnFromList_eq valid prog32 handler]
  simp only [same]
  rw [show alignPc state.tFlag (entered.file.reg 15#4) = _ from aligned, setSame]
  exact ⟨⟨abortMode, handler.bank, handler.vector, handler.saved, handler.others, handler.link⟩,
    precise.registers, precise.base⟩

section Precise

variable {bus : Bus Mem} {state : ARMulState Mem} {instr pc : ARMword} {count : Nat}

theorem storeMult_precise (coherent : Coherent32 state) (isV4 : state.isV4 = true)
    (clear : state.aborted = 0#32) (pipelined : state.reg 15#4 = pc + 2#32 * insnSize state)
    (nonempty : listedRegs instr ≠ []) (basePc : lhsReg instr ≠ 15#4)
    (baseLink : ¬(state.mode = abort32mode ∧ lhsReg instr = 14#4))
    (store : instr.getLsbD 20 = false) (plain : instr.getLsbD 22 = false)
    (faults : FaultsAt bus state instr count) :
    PreciseBlockAbort bus state (blockTransfer bus state instr) instr pc count := by
  simp only [FaultsAt, storedFile, store, plain, Bool.false_eq_true, if_false] at faults
  obtain ⟨faulted, reaches, final⟩ := storeMult_faulted isV4 clear nonempty basePc
    (blockBase instr (state.reg (lhsReg instr))) faults.1
  simp only [blockTransfer, plain, store, final]
  exact preciseBlockAbort_of_faulted coherent pipelined basePc baseLink reaches
    (restartFile_late coherent basePc (keptFile_self state instr count)
      (fun _ => base_current coherent _))

theorem storeSMult_precise (coherent : Coherent32 state) (isV4 : state.isV4 = true)
    (clear : state.aborted = 0#32) (pipelined : state.reg 15#4 = pc + 2#32 * insnSize state)
    (nonempty : listedRegs instr ≠ []) (basePc : lhsReg instr ≠ 15#4)
    (baseLink : ¬(state.mode = abort32mode ∧ lhsReg instr = 14#4))
    (store : instr.getLsbD 20 = false) (sForm : instr.getLsbD 22 = true)
    (userMode : modeToBank state.mode = .userbank) (faults : FaultsAt bus state instr count) :
    PreciseBlockAbort bus state (blockTransfer bus state instr) instr pc count := by
  have user : userFile state = state.file := by
    rw [userFile, if_pos (coherent.live.trans userMode)]
  simp only [FaultsAt, storedFile, store, sForm, Bool.false_eq_true, if_false, if_true] at faults
  obtain ⟨faulted, reaches, final⟩ := storeSMult_faulted isV4 clear nonempty basePc
    (blockBase instr (state.reg (lhsReg instr))) faults.1
  rw [user] at reaches
  simp only [blockTransfer, sForm, store, final]
  exact preciseBlockAbort_of_faulted coherent pipelined basePc baseLink reaches
    (restartFile_late coherent basePc (keptFile_self state instr count)
      (fun _ => base_current coherent _))

theorem loadMult_precise (coherent : Coherent32 state) (isV4 : state.isV4 = true)
    (clear : state.aborted = 0#32) (pipelined : state.reg 15#4 = pc + 2#32 * insnSize state)
    (nonempty : listedRegs instr ≠ []) (basePc : lhsReg instr ≠ 15#4)
    (baseLink : ¬(state.mode = abort32mode ∧ lhsReg instr = 14#4))
    (load : instr.getLsbD 20 = true) (plain : instr.getLsbD 22 = false)
    (baseKept : baseLoaded instr count = false) (faults : FaultsAt bus state instr count) :
    PreciseBlockAbort bus state (blockTransfer bus state instr) instr pc count := by
  simp only [FaultsAt, load, if_true] at faults
  obtain ⟨failed, rfl⟩ := faults
  obtain ⟨faulted, reaches, final⟩ := loadMult_faulted isV4 clear nonempty
    (blockBase instr (state.reg (lhsReg instr))) failed
  have own : loadedBank state.mode instr = modeToBank state.mode := by
    rw [loadedBank, plain]
    rfl
  have kept := keptFile_setListed coherent load own (readBlock_failed_length failed)
  simp only [blockTransfer, plain, load, final]
  exact preciseBlockAbort_of_faulted coherent pipelined basePc baseLink reaches
    ⟨kept, Or.inl (base_not_loaded coherent baseKept)⟩

theorem loadSMult_precise (coherent : Coherent32 state) (isV4 : state.isV4 = true)
    (clear : state.aborted = 0#32) (pipelined : state.reg 15#4 = pc + 2#32 * insnSize state)
    (nonempty : listedRegs instr ≠ []) (basePc : lhsReg instr ≠ 15#4)
    (baseLink : ¬(state.mode = abort32mode ∧ lhsReg instr = 14#4))
    (load : instr.getLsbD 20 = true) (sForm : instr.getLsbD 22 = true)
    (listsPc : instr.getLsbD 15 = true) (abortMode : state.mode = abort32mode)
    (baseKept : (instr.getLsbD 21 && state.lateabtSig) = false → baseLoaded instr count = false)
    (faults : FaultsAt bus state instr count) :
    PreciseBlockAbort bus state (blockTransfer bus state instr) instr pc count := by
  simp only [FaultsAt, load, if_true] at faults
  obtain ⟨failed, rfl⟩ := faults
  obtain ⟨faulted, reaches, final⟩ := loadSMult_faulted coherent.prog32 coherent.valid isV4 clear
    nonempty basePc (blockBase instr (state.reg (lhsReg instr))) failed
  rw [loadedFile, if_pos listsPc] at reaches
  have own : loadedBank state.mode instr = modeToBank state.mode := by
    rw [loadedBank, listsPc, Bool.not_true, Bool.and_false]
    rfl
  have kept := keptFile_setListed coherent load own (readBlock_failed_length failed)
  have restart := restartFile_late coherent basePc kept
    (fun unwritten => base_not_loaded coherent (baseKept unwritten))
  have precise : PreciseBlockAbort bus state (takeAbort bus faulted) instr pc _ :=
    preciseBlockAbort_of_faulted coherent pipelined basePc baseLink reaches restart
  have entered32 := armulAbort_coherent bus.highVectors (reaches.coherent coherent restart.bank)
    (show Vector.is32 .dataAbortV = true from rfl)
  simp only [blockTransfer, sForm, load, final, listsPc, if_true]
  exact precise.returnFromList abortMode entered32.prog32

end Precise

theorem blockAborts_of_restartable {mode : ModeNum} {late : Bool} {instr : ARMword} {count : Nat}
    (nonempty : listedRegs instr ≠ []) (basePc : lhsReg instr ≠ 15#4)
    (can : restartable mode late instr count = true) :
    BlockAbortsPrecisely mode late instr count := by
  intro Mem bus state pc coherent isV4 clear modeEq lateEq pipelined faults
  subst modeEq lateEq
  obtain ⟨notLink, form⟩ := (Bool.and_eq_true _ _).mp can
  have baseLink : ¬(state.mode = abort32mode ∧ lhsReg instr = 14#4) := by
    rintro ⟨inAbort, link⟩
    rw [inAbort, link] at notLink
    exact absurd notLink (by decide)
  cases load : instr.getLsbD 20 with
  | false =>
      cases sForm : instr.getLsbD 22 with
      | false =>
          exact storeMult_precise coherent isV4 clear pipelined nonempty basePc baseLink load sForm
            faults
      | true =>
          simp only [load, sForm, beq_iff_eq] at form
          exact storeSMult_precise coherent isV4 clear pipelined nonempty basePc baseLink load sForm
            form faults
  | true =>
      cases sForm : instr.getLsbD 22 with
      | false =>
          simp only [load, sForm, Bool.not_eq_true'] at form
          exact loadMult_precise coherent isV4 clear pipelined nonempty basePc baseLink load sForm
            form faults
      | true =>
          simp only [load, sForm, Bool.and_eq_true, Bool.or_eq_true, Bool.not_eq_true', beq_iff_eq]
            at form
          obtain ⟨⟨listsPc, abortMode⟩, baseKept⟩ := form
          refine loadSMult_precise coherent isV4 clear pipelined nonempty basePc baseLink load sForm
            listsPc abortMode ?_ faults
          intro unwritten
          refine baseKept.resolve_right ?_
          rintro ⟨writeback, late⟩
          rw [writeback, late] at unwritten
          cases unwritten

end SkyeyeStarlet
