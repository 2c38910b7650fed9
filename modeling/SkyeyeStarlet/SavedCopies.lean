import SkyeyeStarlet.AbortTaken
import SkyeyeStarlet.StateCore

/-!
The copies that the answer to `MSG_STATE` shows: `Cpsr` beside the flags and the mode, and the
rows of `RegBank` beside the registers that are live.  An instruction brings a copy up to date
when it writes the status word or switches banks; this module tells the instructions that leave
no copy behind.
-/

namespace SkyeyeStarlet

variable {Mem : Type}

section Conditions

/-- All modes have the register in common. -/
def Unbanked (number : RegNum) : Prop :=
  regClass number = .shared

/-- A register that is written while `bank` is live is saved by the switch to `target`, or has
no copy. -/
def Spared (bank target : Bank) (number : RegNum) : Prop :=
  registerRow target number = registerRow bank number → Unbanked number

/-- The word names one of the seven modes, and has none of the bits that the emulator does not
keep. -/
structure StatusFits (word : ARMword) : Prop where
  mode : validMode (word.setWidth 5) = true
  unkept : word.extractLsb' 8 19 = 0#19

/-- `MUL` and `MLA` to register 15 do nothing, and so does a long multiply to registers that
`Multiply64` refuses. -/
def MultiplySpares (instr : ARMword) : Prop :=
  let hi : RegNum := instr.extractLsb' 16 4
  let lo : RegNum := instr.extractLsb' 12 4
  if instr.getLsbD 23 then
    instr.getLsbD 20 = false ∧
      (instr.getLsbD 21 = true ∨ multiply64Legal instr = true → Unbanked hi ∧ Unbanked lo)
  else
    Unbanked hi ∧
      (instr.getLsbD 20 = true → hi = 15#4 ∧ (instr.extractLsb' 0 4 : RegNum) ≠ 15#4)

/-- The shifter leaves the carry alone. -/
def CarryKept (state : ARMulState Mem) (instr : ARMword) : Prop :=
  if instr.getLsbD 25 then instr.extractLsb' 8 4 = 0#4
  else instr.extractLsb' 4 8 = 0#8 ∨
    (shiftOperand (if instr.getLsbD 4 then incpc state else state) instr).carry = none

/-- With the S bit, only a result in register 15 sets no flags: it restores the saved status,
and in the user bank does nothing more. -/
def FlagsSpare (state : ARMulState Mem) (instr : ARMword) : Prop :=
  destReg instr = 15#4 ∧
    if state.file.bank = .userbank then
      (opcodeOf instr).arithmetic = false ∧ CarryKept state instr
    else StatusFits (state.spsr state.file.bank)

/-- Case `0x12`: `BKPT`, `BX` and `MSR`, but not `BLX`. -/
def MsrSpares (state : ARMulState Mem) (instr : ARMword) : Prop :=
  (state.isV5 && instr.extractLsb' 4 4 == 3#4) = false ∧
    (instr.extractLsb' 4 24 ≠ 0x12fff1#24 → (state.isV5 && instr.extractLsb' 4 4 == 7#4) = false →
      destReg instr = 15#4 →
        StatusFits (fixedCPSR (dpRegRHS state instr).1 instr
          ((dpRegRHS state instr).2 &&& ~~~0x20#32)))

def StatusSpares (state : ARMulState Mem) (instr : ARMword) : Prop :=
  match instr.getLsbD 25, instr.getLsbD 22, instr.getLsbD 21 with
  | false, _, false =>
      instr.extractLsb' 0 12 = 0#12 ∧ lhsReg instr = 15#4 → Unbanked (destReg instr)
  | false, false, true => MsrSpares state instr
  | false, true, true =>
      (state.isV5 && instr.extractLsb' 4 8 == 0xf1#8 && instr.extractLsb' 16 4 == 15#4) = true →
        Unbanked (destReg instr)
  | true, _, false => True
  | true, false, true => destReg instr = 15#4 → StatusFits (fixedCPSR state instr (dpImmRHS instr))
  | true, true, true => True

def DataSpares (state : ARMulState Mem) (instr : ARMword) : Prop :=
  if isMultiply instr then MultiplySpares instr
  else if instr.extractLsb' 23 2 = 2#2 then
    if instr.getLsbD 20 then
      destReg instr = 15#4 ∧ StatusFits (armulGetSPSR state state.mode)
    else StatusSpares state instr
  else if instr.getLsbD 20 then FlagsSpare state instr
  else Unbanked (destReg instr)

def BaseSpared (instr : ARMword) : Prop :=
  instr.getLsbD 24 = false ∨ instr.getLsbD 21 = true → Unbanked (lhsReg instr)

def TransferSpares (instr : ARMword) : Transfer → Prop
  | .single | .half =>
      (instr.getLsbD 20 = true → Unbanked (destReg instr)) ∧ BaseSpared instr
  | .loadDouble =>
      (Unbanked (destReg instr) ∧ Unbanked (destReg instr + 1#4)) ∧ BaseSpared instr
  | .storeDouble => BaseSpared instr
  | .swapWord | .swapByte => Unbanked (destReg instr)

/-- The bank that is live while a list is loaded. -/
def loadBank (state : ARMulState Mem) (instr : ARMword) : Bank :=
  if instr.getLsbD 22 && !instr.getLsbD 15 then .userbank else modeToBank state.mode

/-- The bank that is live behind it. -/
def leftBank (state : ARMulState Mem) (instr : ARMword) : Bank :=
  if instr.getLsbD 22 && instr.getLsbD 15 && !inUserMode state.mode then
    modeToBank ((armulGetSPSR state state.mode).setWidth 5)
  else modeToBank state.mode

structure LoadSpares (state : ARMulState Mem) (instr : ARMword) : Prop where
  listed : ∀ index < 16, instr.getLsbD index = true →
    Spared (loadBank state instr) (leftBank state instr) (BitVec.ofNat 4 index)
  base : instr.getLsbD 21 = true →
    Spared (loadBank state instr) (leftBank state instr) (lhsReg instr)
  status : (instr.getLsbD 22 && instr.getLsbD 15 && !inUserMode state.mode) = true →
    StatusFits (armulGetSPSR state state.mode)

def BlockSpares (state : ARMulState Mem) (instr : ARMword) : Prop :=
  if instr.getLsbD 20 then LoadSpares state instr
  else instr.getLsbD 21 = true → Unbanked (lhsReg instr)

/-- The coprocessor takes the instruction and raises no exception. -/
def Answer.Accepts : Answer Mem → Prop
  | .done _ none => True
  | _ => False

def RegisterSpares (cops : Coprocessors Mem) (state : ARMulState Mem) (instr : ARMword) : Prop :=
  if instr.getLsbD 4 then
    if instr.getLsbD 20 then
      (cops.mrc instr state.mem).1.Accepts ∧ destReg instr ≠ 15#4 ∧ Unbanked (destReg instr)
    else
      let source :=
        if destReg instr = 15#4 then state.reg 15#4 + insnSize state
        else state.reg (destReg instr)
      (cops.mcr instr source state.mem).Accepts
  else (cops.cdp instr state.mem).Accepts

/-- A load or store that takes no data abort. -/
def Proceeds (bus : Bus Mem) (cops : Coprocessors Mem) (state : ARMulState Mem)
    (instr : ARMword) : Prop :=
  ∃ attempt, attemptOf bus cops state instr = some attempt ∧ attempt.taken = false

/-- The word at the main switch enters no exception, sets no flags unless it writes the status
word, and writes no register whose copy it leaves behind. -/
def WordSpares (bus : Bus Mem) (cops : Coprocessors Mem) (state : ARMulState Mem)
    (word : ARMword) : Prop :=
  match transferOf word with
  | some kind => Proceeds bus cops state word ∧ TransferSpares word kind
  | none =>
      match word.extractLsb' 25 3 with
      | 0#3 | 1#3 => DataSpares state word
      | 2#3 | 3#3 => word.extractLsb' 0 28 = 0x7ffdefe#28
      | 4#3 => Proceeds bus cops state word ∧ BlockSpares state word
      | 5#3 => word.getLsbD 24 = false
      | 6#3 =>
          Proceeds bus cops state word ∧ (cops.transfer word state.mem).Accepts ∧
            (word.getLsbD 21 = true → Unbanked (lhsReg word))
      | _ =>
          if word.getLsbD 24 then semihostingWord word = true
          else RegisterSpares cops state word

/-- A word that does not come to the main switch: of the condition `NV`, `BLX` writes the link
register, and all but the preloads are undefined. -/
def UnswitchedSpares (state : ARMulState Mem) (instr : ARMword) : Prop :=
  instr.extractLsb' 28 4 = 0xf#4 → state.isV5 = true →
    instr.extractLsb' 25 3 ≠ 5#3 ∧ instr &&& 0xfc70f000#32 = 0xf450f000#32

def InstrSpares (bus : Bus Mem) (cops : Coprocessors Mem) (state : ARMulState Mem)
    (pc instr : ARMword) : Prop :=
  match switchedWord state pc instr with
  | some word => WordSpares bus cops state word
  | none =>
      if state.tFlag then
        match armulThumbDecode state pc instr with
        | .undefined => semihostingWord instr = true
        | .branched _ =>
            (thumbHalves state.bigendSig instr).1.extractLsb' 11 5 ∉ [29#5, 30#5, 31#5]
        | .decoded word => UnswitchedSpares state word
      else UnswitchedSpares state instr

/-- A round that takes no exception either. -/
def RoundSpares (bus : Bus Mem) (cops : Coprocessors Mem) (emulator : Emulator Mem)
    (round : Round Mem) : Prop :=
  running emulator.cpu = true →
    pendingException (primePipe bus emulator).cpu round = none ∧
      InstrSpares bus cops ((primePipe bus emulator).executing round) (primePipe bus emulator).pc
        (primePipe bus emulator).instr

end Conditions

section Rules

def RowsMirrored (file : Registers) (target : Bank) : Prop :=
  BankedFile.Mirrored registerRow (fun number => ¬Unbanked number) file.reg file.regBank file.bank
    target

/-- A processor before version 5E in a mode, with the registers of `bank` live and those of
`target` to come. -/
structure Standing (mode : ModeNum) (bank target : Bank) (state : ARMulState Mem) : Prop where
  prog32 : state.prog32Sig = true
  before5e : state.isV5e = false
  mode : state.mode = mode
  bank : state.file.bank = bank
  rows : RowsMirrored state.file target

structure UpToDate (mode : ModeNum) (bank target : Bank) (state : ARMulState Mem) : Prop
    extends Standing mode bank target state where
  cpsr : state.cpsr = armulGetCPSR state

/-- No copy is behind. -/
structure InStep (state : ARMulState Mem) : Prop where
  valid : validMode state.mode = true
  upToDate : UpToDate state.mode (modeToBank state.mode) (modeToBank state.mode) state

variable {mode : ModeNum} {bank target : Bank} {state after : ARMulState Mem}

theorem UpToDate.inStep (upToDate : UpToDate mode (modeToBank mode) (modeToBank mode) state)
    (valid : validMode mode = true) : InStep state := by
  obtain rfl := upToDate.mode
  exact ⟨valid, upToDate⟩

theorem unbanked_spared {number : RegNum} (unbanked : Unbanked number) :
    Spared bank target number := by
  exact fun _ => unbanked

theorem unbanked_pc : Unbanked 15#4 := by
  rfl

theorem Standing.setReg (standing : Standing mode bank target state) {number : RegNum}
    (spared : Spared bank target number) (value : ARMword) :
    Standing mode bank target (state.setReg number value) := by
  obtain ⟨prog32, before5e, rfl, rfl, rows⟩ := standing
  refine ⟨prog32, before5e, rfl, rfl, ?_⟩
  exact rows.update (fun banked shared => banked (spared shared)) value

theorem UpToDate.setReg (upToDate : UpToDate mode bank target state) {number : RegNum}
    (spared : Spared bank target number) (value : ARMword) :
    UpToDate mode bank target (state.setReg number value) := by
  exact ⟨upToDate.toStanding.setReg spared value, upToDate.cpsr⟩

theorem UpToDate.setUnbanked (upToDate : UpToDate mode bank target state) {number : RegNum}
    (unbanked : Unbanked number) (value : ARMword) :
    UpToDate mode bank target (state.setReg number value) := by
  exact upToDate.setReg (unbanked_spared unbanked) value

theorem standing_passive :
    Passive (Standing mode bank target : ARMulState Mem → Prop) := by
  constructor
  · intro before after standing same
    have file := congrArg (fun situation => situation.status.view.file) same
    have inMode := congrArg (fun situation => situation.status.view.mode) same
    have prog32 := congrArg (fun situation => situation.status.view.prog32Sig) same
    have isV5e := congrArg Situation.isV5e same
    simp only [ARMulState.situation, ARMulState.status, ARMulState.view] at file inMode prog32 isV5e
    refine ⟨prog32.trans standing.prog32, isV5e.trans standing.before5e,
      inMode.trans standing.mode, ?_, ?_⟩
    · rw [file]
      exact standing.bank
    · rw [file]
      exact standing.rows
  · intro state value standing
    exact standing.setReg (unbanked_spared unbanked_pc) value

theorem upToDate_passive :
    Passive (UpToDate mode bank target : ARMulState Mem → Prop) := by
  constructor
  · intro before after upToDate same
    have inMode := congrArg (fun situation => situation.status.view.mode) same
    have cpsr := congrArg (fun situation => situation.status.cpsr) same
    have flags := congrArg Situation.flags same
    simp only [ARMulState.situation, ARMulState.status, ARMulState.view] at inMode cpsr flags
    refine ⟨standing_passive.same upToDate.toStanding same, ?_⟩
    rw [cpsr, upToDate.cpsr, armulGetCPSR, armulGetCPSR, flags, inMode]
  · intro state value upToDate
    exact upToDate.setUnbanked unbanked_pc value

theorem Standing.reflag (standing : Standing mode bank target state) {flags : Flags} :
    Standing mode bank target { state with flags } := by
  exact ⟨standing.prog32, standing.before5e, standing.mode, standing.bank, standing.rows⟩

theorem Standing.toward (standing : Standing mode bank bank state) (target : Bank) :
    Standing mode bank target state := by
  obtain ⟨prog32, before5e, inMode, rfl, rows⟩ := standing
  exact ⟨prog32, before5e, inMode, rfl, rows.toward target⟩

theorem UpToDate.toward (upToDate : UpToDate mode bank bank state) (target : Bank) :
    UpToDate mode bank target state := by
  exact ⟨upToDate.toStanding.toward target, upToDate.cpsr⟩

theorem InStep.same (inStep : InStep state)
    (upToDate : UpToDate state.mode (modeToBank state.mode) (modeToBank state.mode) after) :
    InStep after := by
  exact upToDate.inStep inStep.valid

theorem inStep_passive : Passive (InStep : ARMulState Mem → Prop) := by
  constructor
  · intro before after inStep same
    exact inStep.same (upToDate_passive.same inStep.upToDate same)
  · intro state value inStep
    exact inStep.same (upToDate_passive.setPc value inStep.upToDate)

theorem UpToDate.writeR15Branch (upToDate : UpToDate mode bank target state) (src : ARMword) :
    UpToDate mode bank target (writeR15Branch state src) := by
  have moved := upToDate.toStanding.setReg (unbanked_spared unbanked_pc)
    (alignPc (src.getLsbD 0) src)
  exact ⟨⟨moved.prog32, moved.before5e, moved.mode, moved.bank, moved.rows⟩, rfl⟩

theorem UpToDate.writeDest (upToDate : UpToDate mode bank target state) {instr : ARMword}
    (unbanked : Unbanked (destReg instr)) (value : ARMword) :
    UpToDate mode bank target (writeDest state instr value) := by
  unfold SkyeyeStarlet.writeDest
  split
  · exact upToDate_passive.writeR15 value upToDate
  · exact upToDate.setUnbanked unbanked value

theorem UpToDate.writeDestB (upToDate : UpToDate mode bank target state) {instr : ARMword}
    (unbanked : Unbanked (destReg instr)) (value : ARMword) :
    UpToDate mode bank target (writeDestB state instr value) := by
  unfold SkyeyeStarlet.writeDestB
  split
  · exact upToDate.writeR15Branch value
  · exact upToDate.setUnbanked unbanked value

end Rules

section Switches

variable {mode newmode : ModeNum} {target : Bank} {state : ARMulState Mem} {file : Registers}

theorem RowsMirrored.switchMode {oldmode : ModeNum}
    (rows : RowsMirrored file (modeToBank newmode)) (live : file.bank = modeToBank oldmode)
    (oldReal : modeToBank oldmode ≠ .dummybank) (newReal : modeToBank newmode ≠ .dummybank) :
    RowsMirrored (armulSwitchMode file oldmode newmode) (modeToBank newmode) := by
  unfold RowsMirrored at rows ⊢
  rw [armulSwitchMode_bank]
  simp only [armulSwitchMode]
  rw [live] at rows
  by_cases same : modeToBank oldmode = modeToBank newmode
  · rw [if_pos same]
    rw [same] at rows
    exact rows
  · rw [if_neg same]
    exact rows.switch (restoreBank_read file oldReal newReal same)
      fun _ banked => saveBank_kept file oldReal same banked

theorem packCPSR_unkept (flags : Flags) (mode : ModeNum) :
    (packCPSR flags mode).extractLsb' 8 19 = 0#19 := by
  apply BitVec.eq_of_getLsbD_eq
  intro index bound
  interval_cases index <;> simp [packCPSR, Flags.ecc, Flags.eint, flagWord]

theorem unkept_bit {word : ARMword} (unkept : word.extractLsb' 8 19 = 0#19) {index : Nat}
    (first : 8 ≤ index) (last : index < 27) : word.getLsbD index = false := by
  have bit := congrArg (fun bits : BitVec 19 => bits.getLsbD (index - 8)) unkept
  simp only [BitVec.getLsbD_extractLsb', BitVec.getLsbD_zero] at bit
  rw [show 8 + (index - 8) = index by omega, decide_eq_true (by omega), Bool.true_and] at bit
  exact bit

theorem packCPSR_unpackFlags {word : ARMword} (unkept : word.extractLsb' 8 19 = 0#19) :
    packCPSR (unpackFlags word) (word.setWidth 5) = word := by
  apply BitVec.eq_of_getLsbD_eq
  intro index bound
  by_cases inside : 8 ≤ index ∧ index < 27
  · rw [unkept_bit unkept inside.1 inside.2,
      unkept_bit (packCPSR_unkept _ _) inside.1 inside.2]
  · have outside : index < 8 ∨ 27 ≤ index := by
      omega
    rcases outside with low | high
    · interval_cases index <;> simp [packCPSR, unpackFlags, Flags.ecc, Flags.eint, flagWord]
    · interval_cases index <;> simp [packCPSR, unpackFlags, Flags.ecc, Flags.eint, flagWord]

theorem Standing.altered {word : ARMword}
    (standing : Standing mode (modeToBank mode) (modeToBank (word.setWidth 5)) state)
    (valid : validMode mode = true) (fits : StatusFits word) :
    InStep (armulCPSRAltered { state with cpsr := word }) := by
  obtain ⟨prog32, before5e, rfl, live, rows⟩ := standing
  have entered : armulCPSRAltered { state with cpsr := word } =
      { enterMode { state with cpsr := word } (word.setWidth 5) with flags := unpackFlags word } :=
    armulCPSRAltered_eq prog32 valid fits.mode
  rw [entered]
  refine ⟨fits.mode, ⟨⟨prog32, before5e, rfl, enterFile_bank live _, ?_⟩, ?_⟩⟩
  · show RowsMirrored (enterFile state.file state.mode (word.setWidth 5)) _
    unfold enterFile
    split
    · exact rows
    · exact rows.switchMode live (validMode_real valid) (validMode_real fits.mode)
  · exact (packCPSR_unpackFlags fits.unkept).symm

theorem UpToDate.altered (upToDate : UpToDate mode (modeToBank mode) (modeToBank mode) state)
    (valid : validMode mode = true) {word : ARMword} (fits : StatusFits word) :
    InStep (armulCPSRAltered { state with cpsr := word }) := by
  exact (upToDate.toward _).toStanding.altered valid fits

end Switches

section DataProcessing

variable {mode : ModeNum} {bank target : Bank} {state : ARMulState Mem} {instr : ARMword}

theorem UpToDate.multiplied64 (upToDate : UpToDate mode bank target state)
    (spares : multiply64Legal instr = true →
      Unbanked (instr.extractLsb' 16 4) ∧ Unbanked (instr.extractLsb' 12 4)) :
    UpToDate mode bank target (multiplied64 state instr).1 := by
  unfold SkyeyeStarlet.multiplied64
  split
  · rename_i legal
    obtain ⟨hi, lo⟩ := spares legal
    exact (upToDate.setUnbanked lo _).setUnbanked hi _
  · exact upToDate

theorem UpToDate.multiplyCase (upToDate : UpToDate mode bank target state)
    (spares : MultiplySpares instr) : UpToDate mode bank target (multiplyCase state instr) := by
  unfold MultiplySpares at spares
  unfold SkyeyeStarlet.multiplyCase
  dsimp only at spares
  split at spares
  · rename_i long
    obtain ⟨flags, registers⟩ := spares
    have moved := upToDate.multiplied64 fun legal => registers (Or.inr legal)
    rw [long]
    split
    · contradiction
    · simp only [multiply64, scc64, flags, Bool.false_eq_true, if_false]
      exact moved
    · rename_i accumulates
      obtain ⟨hi, lo⟩ := registers (Or.inl accumulates)
      simp only [multiplyAdd64, scc64, flags, Bool.false_eq_true, if_false]
      exact (moved.setUnbanked lo _).setUnbanked hi _
  · rename_i short
    obtain ⟨dest, flags⟩ := spares
    rw [Bool.not_eq_true] at short
    rw [short]
    dsimp only
    unfold SkyeyeStarlet.multiply
    dsimp only
    split
    · exact upToDate
    · rename_i writes
      split
      · rename_i sets
        obtain ⟨pc, other⟩ := flags sets
        exact absurd ⟨by rw [pc]; exact other, pc⟩ writes
      · exact upToDate.setUnbanked dest _

theorem UpToDate.mrsCase (upToDate : UpToDate mode bank target state)
    (spares : instr.extractLsb' 0 12 = 0#12 ∧ lhsReg instr = 15#4 → Unbanked (destReg instr)) :
    UpToDate mode bank target (mrsCase state instr) := by
  unfold SkyeyeStarlet.mrsCase
  rw [upToDate.before5e, Bool.false_and, Bool.false_and, if_neg Bool.false_ne_true,
    if_neg Bool.false_ne_true]
  split
  · rename_i moves
    exact upToDate.setUnbanked (spares moves) _
  · exact upToDate

theorem UpToDate.fixSPSR (upToDate : UpToDate mode bank target state) (rhs : ARMword) :
    UpToDate mode bank target (armulFixSPSR state instr rhs) := by
  unfold armulFixSPSR
  dsimp only
  split
  · exact ⟨⟨upToDate.prog32, upToDate.before5e, upToDate.mode, upToDate.bank, upToDate.rows⟩,
      upToDate.cpsr⟩
  · exact upToDate

theorem UpToDate.clzCase (upToDate : UpToDate mode bank target state)
    (spares : (state.isV5 && instr.extractLsb' 4 8 == 0xf1#8 &&
      instr.extractLsb' 16 4 == 15#4) = true → Unbanked (destReg instr)) :
    UpToDate mode bank target (clzCase state instr) := by
  unfold SkyeyeStarlet.clzCase
  rw [upToDate.before5e, Bool.false_and, Bool.false_and, if_neg Bool.false_ne_true,
    if_neg Bool.false_ne_true]
  split
  · rename_i counts
    exact upToDate.setUnbanked (spares counts) _
  · split
    · exact UpToDate.fixSPSR (upToDate_passive.dpRegRHS instr upToDate) _
    · exact upToDate

theorem InStep.msrCase (inStep : InStep state) (pc : ARMword) (spares : MsrSpares state instr) :
    InStep (msrCase state pc instr) := by
  have upToDate := inStep.upToDate
  obtain ⟨links, writes⟩ := spares
  unfold SkyeyeStarlet.msrCase
  rw [links, upToDate.before5e, Bool.false_and, Bool.false_and, if_neg Bool.false_ne_true,
    if_neg Bool.false_ne_true, if_neg Bool.false_ne_true]
  split
  · exact inStep.same (upToDate.writeR15Branch _)
  · rename_i notExchange
    split
    · exact inStep_passive.same inStep rfl
    · rename_i notBreakpoint
      split
      · rename_i pcField
        have shifted := upToDate_passive.dpRegRHS instr upToDate
        exact shifted.altered inStep.valid
          (writes notExchange (Bool.eq_false_iff.mpr notBreakpoint) pcField)
      · exact inStep

theorem InStep.statusCase (inStep : InStep state) (pc : ARMword)
    (spares : StatusSpares state instr) : InStep (statusCase state pc instr) := by
  have upToDate := inStep.upToDate
  unfold StatusSpares at spares
  unfold SkyeyeStarlet.statusCase
  split <;> simp only [*] at spares
  · exact inStep.same (upToDate.mrsCase spares)
  · exact inStep.msrCase pc spares
  · exact inStep.same (upToDate.clzCase spares)
  · exact inStep
  · split
    · rename_i pcField
      exact upToDate.altered inStep.valid (spares pcField)
    · exact inStep
  · split
    · exact inStep.same (upToDate.fixSPSR _)
    · exact inStep

theorem UpToDate.carryRHS (upToDate : UpToDate mode bank target state)
    (kept : CarryKept state instr) : UpToDate mode bank target (carryRHS state instr).1 := by
  have started := upToDate_passive.shiftStarted instr upToDate
  unfold CarryKept at kept
  unfold SkyeyeStarlet.carryRHS
  split
  · rename_i immediate
    rw [if_pos immediate] at kept
    rw [dpsImmRHS, if_pos kept]
    exact upToDate
  · rename_i shifted
    rw [if_neg shifted] at kept
    unfold dpsRegRHS
    split
    · exact upToDate
    · rename_i shifts
      have carry := kept.resolve_left shifts
      dsimp only
      rw [carry]
      exact started

theorem Standing.carryRHS (standing : Standing mode bank target state) (instr : ARMword) :
    Standing mode bank target (carryRHS state instr).1 := by
  have started := standing_passive.shiftStarted instr standing
  unfold SkyeyeStarlet.carryRHS
  split
  · unfold dpsImmRHS
    split
    · exact standing
    · exact standing.reflag
  · unfold dpsRegRHS
    split
    · exact standing
    · dsimp only
      split
      · exact started
      · exact started.reflag

theorem Standing.opcodeFlags (standing : Standing mode bank target state) (opcode : Opcode)
    (lhs rhs dest : ARMword) : Standing mode bank target (opcode.flags state lhs rhs dest) := by
  have adds : Standing mode bank target (addFlags state lhs rhs dest) := by
    unfold addFlags
    split
    · exact standing.reflag
    · exact standing.reflag
  have subs (left right : ARMword) : Standing mode bank target (subFlags state left right dest) := by
    unfold subFlags
    split
    · exact standing.reflag
    · exact standing.reflag
  cases opcode <;> first | exact standing | exact adds | exact subs _ _

theorem InStep.writeSDest {after : ARMulState Mem} (inStep : InStep state)
    (standing : Standing state.mode (modeToBank state.mode) (modeToBank state.mode) after)
    (saved : after.spsr = state.spsr) (pc : destReg instr = 15#4)
    (fits : if state.file.bank = .userbank then
        UpToDate state.mode (modeToBank state.mode) (modeToBank state.mode) after
      else StatusFits (state.spsr state.file.bank)) (value : ARMword) :
    InStep (writeSDest after instr value) := by
  have live : after.file.bank = state.file.bank :=
    standing.bank.trans inStep.upToDate.bank.symm
  rw [← saved, ← live] at fits
  rw [SkyeyeStarlet.writeSDest, if_pos pc, writeSR15]
  split at fits
  · rename_i user
    rw [if_pos user]
    exact inStep.same (upToDate_passive.flushpipe (upToDate_passive.setPc _ fits))
  · rename_i banked
    rw [if_neg banked]
    have returned := (standing.toward _).altered inStep.valid fits
    exact inStep_passive.flushpipe (inStep_passive.setPc _ returned)

theorem spsr_stable (saved : Bank → ARMword) :
    Stable fun state : ARMulState Mem => state.spsr = saved := by
  refine { status := ?_, setReg := ?_, exchange := ?_ }
  · intro before after holds same
    exact (congrArg (fun status => status.view.spsr) same).trans holds
  · exact fun _ _ holds => holds
  · exact fun _ holds => holds

theorem InStep.dataFlags (inStep : InStep state) (spares : FlagsSpare state instr) :
    InStep (dataFlags state instr) := by
  have upToDate := inStep.upToDate
  have stable : Stable fun after : ARMulState Mem => after.spsr = state.spsr :=
    spsr_stable state.spsr
  obtain ⟨pc, spares⟩ := spares
  unfold SkyeyeStarlet.dataFlags
  split
  · rename_i arithmetic
    have shifted := upToDate_passive.plainRHS instr upToDate
    refine inStep.writeSDest (shifted.toStanding.opcodeFlags _ _ _ _)
      (stable.opcodeFlags _ _ _ _ (stable.plainRHS instr rfl)) pc ?_ _
    split at spares
    · rw [arithmetic] at spares
      exact absurd spares.1 (by decide)
    · rename_i banked
      rw [if_neg banked]
      exact spares
  · refine inStep.writeSDest (upToDate.toStanding.carryRHS instr) (stable.carryRHS instr rfl) pc
      ?_ _
    split at spares
    · rename_i user
      rw [if_pos user]
      exact upToDate.carryRHS spares.2
    · rename_i banked
      rw [if_neg banked]
      exact spares

theorem InStep.dataProcessing (inStep : InStep state) (pc : ARMword)
    (spares : DataSpares state instr) : InStep (dataProcessing state pc instr) := by
  have upToDate := inStep.upToDate
  unfold DataSpares at spares
  unfold SkyeyeStarlet.dataProcessing
  split
  · rename_i multiplies
    rw [if_pos multiplies] at spares
    exact inStep.same (upToDate.multiplyCase spares)
  · rename_i other
    rw [if_neg other] at spares
    split
    · rename_i tests
      rw [if_pos tests] at spares
      split
      · rename_i sets
        rw [if_pos sets] at spares
        rw [dataTest, if_pos spares.1]
        exact upToDate.altered inStep.valid spares.2
      · rename_i plain
        rw [if_neg plain] at spares
        exact inStep.statusCase pc spares
    · rename_i computes
      rw [if_neg computes] at spares
      split
      · rename_i sets
        rw [if_pos sets] at spares
        exact inStep.dataFlags spares
      · rename_i plain
        rw [if_neg plain] at spares
        exact inStep.same ((upToDate_passive.plainRHS instr upToDate).writeDest spares _)

end DataProcessing

section Transfers

variable {bus : Bus Mem} {mode : ModeNum} {bank target : Bank} {state : ARMulState Mem}
  {instr : ARMword}

theorem clear_aborted {attempt : Attempt Mem} (clear : attempt.taken = false) :
    attempt.tested.aborted = 0#32 := by
  simp only [Attempt.taken, Bool.or_eq_false_iff] at clear
  exact bne_eq_false_iff_eq.mp clear.2

theorem UpToDate.indexedTransfer {size : AccessSize}
    {access : ARMulState Mem → ARMword → ARMword → ARMulState Mem × Bool}
    (upToDate : UpToDate mode bank target state)
    (accesses : Accesses bus (UpToDate mode bank target) size access state instr)
    (offset : ARMulState Mem → ARMword → ARMword) (base : BaseSpared instr)
    (clear : (indexedAttempt bus offset size state instr).taken = false) :
    UpToDate mode bank target (indexedTransfer offset access state instr) := by
  have accessed := (accesses.attempted upToDate_passive offset upToDate).clear clear
  exact indexedTransfer_clear (fun writes _ _ holds => holds.setUnbanked (base writes) _) accessed

theorem UpToDate.singleTransfer (upToDate : UpToDate mode bank target state)
    (dest : instr.getLsbD 20 = true → Unbanked (destReg instr)) (base : BaseSpared instr)
    (clear : (indexedAttempt bus singleOffset (singleSize instr) (singleStarted state instr)
      instr).taken = false) : UpToDate mode bank target (singleTransfer bus state instr) := by
  have accesses (state : ARMulState Mem) : Accesses bus (UpToDate mode bank target)
      (singleSize instr) (singleAccess bus) state instr :=
    accesses_single bus state (fun load _ _ holds => holds.writeDest (dest load) _)
      fun load _ _ holds => holds.writeDestB (dest load) _
  unfold SkyeyeStarlet.singleTransfer
  unfold singleStarted at clear
  split
  · rename_i user
    rw [if_pos user] at clear
    have started : UpToDate mode bank target { state with ntransSig := false } :=
      upToDate_passive.same upToDate rfl
    exact upToDate_passive.same (started.indexedTransfer (accesses _) singleOffset base clear) rfl
  · rename_i own
    rw [if_neg own] at clear
    exact upToDate.indexedTransfer (accesses _) singleOffset base clear

theorem UpToDate.doubleWriteBack (upToDate : UpToDate mode bank target state)
    (base : BaseSpared instr) (address : DoubleAddress) :
    UpToDate mode bank target (doubleWriteBack state instr address) := by
  unfold SkyeyeStarlet.doubleWriteBack
  split
  · rename_i writes
    rw [Bool.or_eq_true, Bool.not_eq_true'] at writes
    exact upToDate.setUnbanked (base writes) _
  · exact upToDate

theorem UpToDate.handleLoadDouble (upToDate : UpToDate mode bank target state) (traps : Traps Mem)
    {attempt : Attempt Mem} (attempts : loadDoubleAttempt bus state instr = some attempt)
    (clear : attempt.taken = false) (first : Unbanked (destReg instr))
    (second : Unbanked (destReg instr + 1#4)) (base : BaseSpared instr) :
    UpToDate mode bank target (handleLoadDouble bus traps state instr) := by
  have started := upToDate_passive.bususedincpcs upToDate
  have aborted := clear_aborted clear
  unfold loadDoubleAttempt at attempts
  unfold SkyeyeStarlet.handleLoadDouble
  dsimp only at attempts ⊢
  split at attempts
  · rename_i accepted
    cases attempts
    rw [if_pos accepted, if_pos aborted]
    have read (low high : ARMword) := upToDate_passive.read bus .word high
      (upToDate_passive.read bus .word low started)
    exact (((read _ _).setUnbanked first _).setUnbanked second _).doubleWriteBack base _
  · cases attempts

theorem UpToDate.handleStoreDouble (upToDate : UpToDate mode bank target state) (traps : Traps Mem)
    {attempt : Attempt Mem} (attempts : storeDoubleAttempt bus state instr = some attempt)
    (clear : attempt.taken = false) (base : BaseSpared instr) :
    UpToDate mode bank target (handleStoreDouble bus traps state instr) := by
  have started := upToDate_passive.bususedincpcs upToDate
  have aborted := clear_aborted clear
  unfold storeDoubleAttempt at attempts
  unfold SkyeyeStarlet.handleStoreDouble
  dsimp only at attempts ⊢
  split at attempts
  · rename_i accepted
    cases attempts
    rw [if_pos accepted, if_pos aborted]
    exact UpToDate.doubleWriteBack
      (upToDate_passive.write bus .word _ _ (upToDate_passive.write bus .word _ _ started)) base _
  · cases attempts

theorem UpToDate.swapEnd {size : AccessSize}
    {swap : ARMulState Mem → ARMword → ARMword → ARMulState Mem × ARMword}
    (upToDate : UpToDate mode bank target (swapAttempt bus size state instr swap).tested)
    (clear : (swapAttempt bus size state instr swap).taken = false)
    (dest : Unbanked (destReg instr)) (value : ARMword) :
    UpToDate mode bank target (swapEnd bus
      ((swapAttempt bus size state instr swap).tested.setReg (destReg instr) value)) := by
  have moved := upToDate.setUnbanked dest value
  simp only [SkyeyeStarlet.swapEnd]
  split
  · rename_i faulted
    exact absurd (faulted.symm.trans clear) (by decide)
  · exact moved

theorem UpToDate.dataTransfer (upToDate : UpToDate mode bank target state) (traps : Traps Mem)
    {kind : Transfer} {attempt : Attempt Mem}
    (attempts : transferAttempt bus state instr kind = some attempt)
    (clear : attempt.taken = false) (spares : TransferSpares instr kind) :
    UpToDate mode bank target (dataTransfer bus traps state instr kind) := by
  have started := upToDate_passive.bususedincpcs upToDate
  cases kind with
  | single =>
      cases attempts
      exact upToDate.singleTransfer spares.1 spares.2 clear
  | half =>
      cases attempts
      exact upToDate.indexedTransfer (accesses_half bus state
        fun load _ _ holds => holds.writeDest (spares.1 load) _) getLS7RHS spares.2 clear
  | loadDouble =>
      exact upToDate.handleLoadDouble traps attempts clear spares.1.1 spares.1.2 spares.2
  | storeDouble => exact upToDate.handleStoreDouble traps attempts clear spares
  | swapWord =>
      cases attempts
      have swapped : UpToDate mode bank target
          (swapAttempt bus .word state instr (armulSwapWord bus)).tested :=
        upToDate_passive.same (upToDate_passive.read bus .word (lhsValue state instr) started) rfl
      exact swapped.swapEnd clear spares _
  | swapByte =>
      cases attempts
      have swapped : UpToDate mode bank target
          (swapAttempt bus .byte state instr (armulSwapByte bus)).tested :=
        upToDate_passive.write bus .byte _ _
          (upToDate_passive.read bus .byte (lhsValue state instr) started)
      exact swapped.swapEnd clear spares _

end Transfers

section Blocks

variable {bus : Bus Mem} {mode : ModeNum} {bank target : Bank} {state : ARMulState Mem}
  {instr wbBase : ARMword}

/-- With an empty list the search ends at bit 20 of a load at the latest, and a register below
5 of the user row is written, which has no copy. -/
theorem firstListed_load (load : instr.getLsbD 20 = true) :
    instr.getLsbD (firstListed instr) = true ∧ firstListed instr ≤ 20 := by
  obtain ⟨set, unset⟩ := firstListed_first (by decide) load
  refine ⟨set, ?_⟩
  by_contra later
  rw [unset 20 (by omega)] at load
  exact Bool.false_ne_true load

theorem UpToDate.rawReg (upToDate : UpToDate mode bank target state) {index : Nat}
    (spared : index < 16 → Spared bank target (BitVec.ofNat 4 index)) (inside : index ≤ 20)
    (value : ARMword) :
    UpToDate mode bank target { state with file := setRawReg state.file index value } := by
  unfold setRawReg
  split
  · rename_i register
    exact upToDate.setReg (spared register) value
  · rename_i beyond
    have unbanked : Unbanked (BitVec.ofNat 4 (index - 16)) := by
      interval_cases index <;> rfl
    obtain ⟨⟨prog32, before5e, inMode, live, rows⟩, cpsr⟩ := upToDate
    refine ⟨⟨prog32, before5e, inMode, live, ?_⟩, cpsr⟩
    intro number banked shared
    have other : number ≠ BitVec.ofNat 4 (index - 16) := by
      rintro rfl
      exact banked unbanked
    have kept : Function.update state.file.regBank .userbank
        (Function.update (state.file.regBank .userbank) (BitVec.ofNat 4 (index - 16)) value)
          (registerRow state.file.bank number) number =
        state.file.regBank (registerRow state.file.bank number) number := by
      by_cases user : registerRow state.file.bank number = .userbank
      · rw [user, Function.update_self, Function.update_of_ne other]
      · rw [Function.update_of_ne user]
    exact kept.trans (rows number banked shared)

theorem UpToDate.loadListed (upToDate : UpToDate mode bank target state) {index : Nat}
    (spared : index < 16 → Spared bank target (BitVec.ofNat 4 index)) (inside : index ≤ 20)
    (sticky : Bool) (address : ARMword) :
    UpToDate mode bank target (loadListed bus sticky state index address) := by
  have read := upToDate_passive.read bus .word address upToDate
  unfold SkyeyeStarlet.loadListed
  dsimp only
  split
  · exact read.rawReg spared inside _
  · split
    · exact upToDate_passive.same read rfl
    · exact read

theorem UpToDate.loadAll (upToDate : UpToDate mode bank target state) (bus : Bus Mem)
    (load : instr.getLsbD 20 = true)
    (listed : ∀ index < 16, instr.getLsbD index = true → Spared bank target (BitVec.ofNat 4 index))
    (sticky : Bool) (address : ARMword) :
    UpToDate mode bank target (transferAll (SkyeyeStarlet.loadListed bus sticky)
      (SkyeyeStarlet.loadListed bus true) instr address state) := by
  obtain ⟨set, inside⟩ := firstListed_load load
  refine transferAll_listed ?_ ?_ upToDate
  · intro state address holds
    exact holds.loadListed (fun register => listed _ register set) inside sticky address
  · intro index later state address holds
    obtain ⟨register, found⟩ := List.mem_filter.mp later
    have below := List.mem_range.mp register
    rw [Bool.and_eq_true] at found
    exact holds.loadListed (fun _ => listed index below found.2) (by omega) true address

theorem UpToDate.storeAll (upToDate : UpToDate mode bank target state) (bus : Bus Mem)
    (instr address : ARMword) :
    UpToDate mode bank target (transferAll (storeListed bus) (storeListed bus) instr address
      state) := by
  exact transferAll_kept (upToDate_passive.storeListed bus) (upToDate_passive.storeListed bus) upToDate

theorem UpToDate.writeBack (upToDate : UpToDate mode bank target state)
    (base : instr.getLsbD 21 = true → Spared bank target (lhsReg instr)) :
    UpToDate mode bank target (writeBack instr wbBase state) := by
  unfold SkyeyeStarlet.writeBack
  split
  · rename_i writes
    rw [Bool.and_eq_true] at writes
    exact upToDate.setReg (base writes.1) _
  · exact upToDate

theorem UpToDate.writeBackLate (upToDate : UpToDate mode bank target state)
    (base : instr.getLsbD 21 = true → Spared bank target (lhsReg instr)) :
    UpToDate mode bank target (writeBackLate instr wbBase state) := by
  unfold SkyeyeStarlet.writeBackLate
  split
  · exact upToDate
  · exact upToDate.writeBack base

theorem UpToDate.toUserBank (upToDate : UpToDate mode (modeToBank mode) (modeToBank mode) state)
    (valid : validMode mode = true) :
    UpToDate mode .userbank .userbank (toUserBank state) := by
  rw [toUserBank_eq]
  obtain ⟨⟨prog32, before5e, rfl, live, rows⟩, cpsr⟩ := upToDate
  refine ⟨⟨prog32, before5e, rfl, userFile_bank state, ?_⟩, cpsr⟩
  have toward := rows
  rw [← live] at toward
  show RowsMirrored (userFile state) .userbank
  unfold userFile
  split
  · rename_i user
    rw [user] at toward
    exact toward
  · exact RowsMirrored.switchMode (toward.toward .userbank) live (validMode_real valid) (by decide)

theorem UpToDate.toOwnBank (upToDate : UpToDate mode .userbank (modeToBank mode) state)
    (valid : validMode mode = true) :
    UpToDate mode (modeToBank mode) (modeToBank mode) (toOwnBank state) := by
  rw [toOwnBank_eq]
  obtain ⟨⟨prog32, before5e, rfl, live, rows⟩, cpsr⟩ := upToDate
  refine ⟨⟨prog32, before5e, rfl, ownFile_bank live _, ?_⟩, cpsr⟩
  show RowsMirrored (ownFile state.file state.mode) _
  unfold ownFile
  split
  · exact rows
  · exact rows.switchMode (show state.file.bank = modeToBank user26mode from live) (by decide)
      (validMode_real valid)

def Saves (word : ARMword) (state : ARMulState Mem) : Prop :=
  armulGetSPSR state state.mode = word

variable {word : ARMword}

theorem saves_passive : Passive (Saves word : ARMulState Mem → Prop) := by
  constructor
  · intro before after saves same
    have inMode := congrArg (fun situation => situation.status.view.mode) same
    have saved := congrArg (fun situation => situation.status.view.spsr) same
    have flags := congrArg Situation.flags same
    simp only [ARMulState.situation, ARMulState.status, ARMulState.view] at inMode saved flags
    rw [← saves, Saves, armulGetSPSR, armulGetSPSR, armulGetCPSR, armulGetCPSR, inMode, saved, flags]
  · exact fun _ saves => saves

theorem Saves.loadAll (saves : Saves word state) (sticky : Bool) (address : ARMword) :
    Saves word (transferAll (SkyeyeStarlet.loadListed bus sticky)
      (SkyeyeStarlet.loadListed bus true) instr address state) := by
  have loads (sticky : Bool) (state : ARMulState Mem) (index : Nat) (address : ARMword)
      (saves : Saves word state) :
      Saves word (SkyeyeStarlet.loadListed bus sticky state index address) := by
    have read := saves_passive.read bus .word address saves
    unfold SkyeyeStarlet.loadListed
    dsimp only
    split
    · exact read
    · split
      · exact saves_passive.same read rfl
      · exact read
  exact transferAll_kept (loads sticky) (loads true) saves

theorem Saves.writeBack (saves : Saves word state) :
    Saves word (SkyeyeStarlet.writeBack instr wbBase state) := by
  unfold SkyeyeStarlet.writeBack
  split
  · exact saves
  · exact saves

theorem UpToDate.returnFromList
    (upToDate : UpToDate mode (modeToBank mode) target state) (saves : Saves word state)
    (valid : validMode mode = true) (user : inUserMode mode = true → target = modeToBank mode)
    (restores : inUserMode mode = false →
      StatusFits word ∧ target = modeToBank (word.setWidth 5)) :
    InStep (returnFromList state) := by
  obtain rfl := upToDate.mode
  have restored : InStep (if inUserMode state.mode then state
      else armulCPSRAltered { state with cpsr := armulGetSPSR state state.mode }) := by
    rw [saves]
    split
    · rename_i own
      obtain rfl := user own
      exact upToDate.inStep valid
    · rename_i other
      obtain ⟨fits, rfl⟩ := restores (Bool.eq_false_iff.mpr other)
      exact upToDate.toStanding.altered valid fits
  exact inStep_passive.writeR15 _ restored

theorem InStep.loadUser (inStep : InStep state) (spares : LoadSpares state instr)
    (load : instr.getLsbD 20 = true) (form : instr.getLsbD 22 = true)
    (unlisted : instr.getLsbD 15 = false) (address : ARMword) :
    InStep (SkyeyeStarlet.toOwnBank (SkyeyeStarlet.writeBack instr wbBase
      (transferAll (SkyeyeStarlet.loadListed bus false) (SkyeyeStarlet.loadListed bus true) instr
        address (SkyeyeStarlet.toUserBank (bususedincpcs state))))) := by
  obtain ⟨listed, base, -⟩ := spares
  simp only [loadBank, leftBank, form, unlisted, Bool.not_false, Bool.and_true, Bool.and_false,
    Bool.false_and, if_true, Bool.false_eq_true, if_false] at listed base
  have switched := (upToDate_passive.bususedincpcs inStep.upToDate).toUserBank inStep.valid
  have loaded := (switched.toward (modeToBank state.mode)).loadAll bus load listed false
    address
  exact inStep.same ((loaded.writeBack base).toOwnBank inStep.valid)

theorem InStep.loadReturn (inStep : InStep state) (spares : LoadSpares state instr)
    (load : instr.getLsbD 20 = true) (form : instr.getLsbD 22 = true)
    (returns : instr.getLsbD 15 = true) (address : ARMword) :
    InStep (SkyeyeStarlet.returnFromList (SkyeyeStarlet.writeBack instr wbBase
      (transferAll (SkyeyeStarlet.loadListed bus false) (SkyeyeStarlet.loadListed bus true) instr
        address (bususedincpcs state)))) := by
  obtain ⟨listed, base, status⟩ := spares
  have started := upToDate_passive.bususedincpcs inStep.upToDate
  have saved : Saves (armulGetSPSR state state.mode) (bususedincpcs state) :=
    saves_passive.bususedincpcs rfl
  have own : loadBank state instr = modeToBank state.mode := by
    simp [loadBank, returns]
  rw [own] at listed base
  have loaded := (started.toward (leftBank state instr)).loadAll bus load listed false
    address
  refine (loaded.writeBack base).returnFromList (saved.loadAll false address).writeBack
    inStep.valid ?_ ?_
  · intro user
    simp [leftBank, user]
  · intro other
    have restores : (instr.getLsbD 22 && instr.getLsbD 15 && !inUserMode state.mode) = true := by
      rw [form, returns, other]
      rfl
    exact ⟨status restores, by rw [leftBank, if_pos restores]⟩

theorem InStep.blockTransfer (inStep : InStep state)
    (clear : (blockAttempt bus state instr).taken = false) (spares : BlockSpares state instr) :
    InStep (blockTransfer bus state instr) := by
  have aborted : (blockMoved bus state instr).aborted = 0#32 := clear_aborted clear
  have valid := inStep.valid
  have loadStarted := upToDate_passive.bususedincpcs inStep.upToDate
  have storeStarted := upToDate_passive.bususedincpcn inStep.upToDate
  unfold BlockSpares at spares
  rw [blockTransfer_finished]
  unfold blockMoved blockStarted blockFirst blockNext at aborted ⊢
  unfold blockFinished
  cases form : instr.getLsbD 22 with
  | false =>
      cases load : instr.getLsbD 20 with
      | false =>
          simp only [form, load, Bool.false_eq_true, if_false] at aborted spares ⊢
          have started : UpToDate state.mode (modeToBank state.mode) (modeToBank state.mode)
              (if state.tFlag then state else SkyeyeStarlet.bususedincpcn state) := by
            split
            · exact inStep.upToDate
            · exact storeStarted
          rw [if_pos ((writeBackLate_aborted _ instr _).trans aborted)]
          exact inStep.same ((started.storeAll bus instr _).writeBackLate
            fun writes => unbanked_spared (spares writes))
      | true =>
          simp only [form, load, if_true, Bool.not_false] at aborted spares ⊢
          obtain ⟨listed, base, -⟩ := spares
          simp only [loadBank, leftBank, form, Bool.false_and, Bool.false_eq_true, if_false]
            at listed base
          have loaded := loadStarted.loadAll bus load listed true
            (blockStart instr (state.reg (lhsReg instr)))
          rw [if_pos aborted]
          refine inStep.same (UpToDate.writeBack ?_ base)
          split
          · exact loaded.writeR15Branch _
          · exact loaded
  | true =>
      cases load : instr.getLsbD 20 with
      | false =>
          simp only [form, load, Bool.false_eq_true, if_false] at aborted spares ⊢
          have started := (storeStarted.toUserBank valid).toward (modeToBank state.mode)
          have stored := (started.storeAll bus instr
            (blockStart instr (state.reg (lhsReg instr)))).toOwnBank valid
          rw [if_pos aborted, if_pos ((writeBackLate_aborted _ instr _).trans
            ((toOwnBank_aborted _).trans aborted))]
          exact inStep.same (stored.writeBackLate fun writes => unbanked_spared (spares writes))
      | true =>
          simp only [form, load, if_true, Bool.not_true] at aborted spares ⊢
          rw [if_pos aborted, (writeBack_aborted instr _ _).trans aborted]
          cases returns : instr.getLsbD 15 with
          | false => exact inStep.loadUser spares load form returns _
          | true => exact inStep.loadReturn spares load form returns _

end Blocks

section Coprocessors

variable {bus : Bus Mem} {cops : Coprocessors Mem} {mode : ModeNum} {bank target : Bank}
  {state : ARMulState Mem} {instr : ARMword}

theorem Answer.Accepts.done {answer : Answer Mem} (accepts : answer.Accepts) :
    ∃ mem, answer = .done mem none := by
  cases answer with
  | done mem vector =>
      cases vector with
      | none => exact ⟨mem, rfl⟩
      | some vector => cases accepts
  | cant mem => cases accepts
  | interrupted mem vector => cases accepts

theorem UpToDate.coprocessorCall (upToDate : UpToDate mode bank target state)
    {finish : ARMulState Mem → ARMulState Mem}
    (finishes : ∀ {state}, UpToDate mode bank target state → UpToDate mode bank target (finish state))
    {answer : Answer Mem} (accepts : answer.Accepts) :
    UpToDate mode bank target (coprocessorCall bus finish state answer) := by
  obtain ⟨mem, rfl⟩ := accepts.done
  exact finishes (upToDate_passive.same upToDate rfl)

theorem UpToDate.coprocessorRegister (upToDate : UpToDate mode bank target state)
    (spares : RegisterSpares cops state instr) :
    UpToDate mode bank target (coprocessorRegister bus cops state instr) := by
  unfold RegisterSpares at spares
  unfold SkyeyeStarlet.coprocessorRegister
  split
  · rename_i moves
    rw [if_pos moves] at spares
    split
    · rename_i reads
      rw [if_pos reads] at spares
      obtain ⟨accepts, notPc, unbanked⟩ := spares
      have called : UpToDate mode bank target (SkyeyeStarlet.coprocessorCall bus bususedincpcn state
          (cops.mrc instr state.mem).1) :=
        upToDate.coprocessorCall upToDate_passive.bususedincpcn accepts
      dsimp only
      rw [if_neg notPc]
      exact called.setUnbanked unbanked _
    · rename_i writes
      rw [if_neg writes] at spares
      exact upToDate.coprocessorCall upToDate_passive.bususedincpcn spares
  · rename_i operates
    rw [if_neg operates] at spares
    have cycled {after : ARMulState Mem} (holds : UpToDate mode bank target after) :
        UpToDate mode bank target (busused after) :=
      upToDate_passive.same holds rfl
    exact upToDate.coprocessorCall cycled spares

theorem UpToDate.coprocessorBase (upToDate : UpToDate mode bank target state)
    (base : instr.getLsbD 21 = true → Unbanked (lhsReg instr)) (value : ARMword) :
    UpToDate mode bank target (coprocessorBase state instr value) := by
  unfold SkyeyeStarlet.coprocessorBase
  split
  · rename_i writes
    rw [Bool.and_eq_true] at writes
    exact upToDate.setUnbanked (base writes.1) _
  · exact upToDate

theorem UpToDate.coprocessorWords (upToDate : UpToDate mode bank target state)
    {address value : ARMword} {attempt : Attempt Mem}
    (attempts : coprocessorAttempt bus cops state instr address = some attempt)
    (clear : attempt.taken = false) (accepts : (cops.transfer instr state.mem).Accepts)
    (base : instr.getLsbD 21 = true → Unbanked (lhsReg instr)) :
    UpToDate mode bank target (coprocessorWords bus cops state instr address value) := by
  obtain ⟨mem, answer⟩ := accepts.done
  have called : UpToDate mode bank target { state with mem } := upToDate_passive.same upToDate rfl
  have ends {moved : ARMulState Mem} (holds : UpToDate mode bank target moved)
      (fine : accessAborted moved = false) :
      UpToDate mode bank target
        (if accessAborted (SkyeyeStarlet.coprocessorBase moved instr value) then
          takeAbort bus (SkyeyeStarlet.coprocessorBase moved instr value)
        else SkyeyeStarlet.coprocessorBase moved instr value) := by
    have same : accessAborted (SkyeyeStarlet.coprocessorBase moved instr value) =
        accessAborted moved := by
      rw [coprocessorBase_file]
      rfl
    rw [same, fine, if_neg Bool.false_ne_true]
    exact holds.coprocessorBase base value
  unfold coprocessorAttempt at attempts
  unfold SkyeyeStarlet.coprocessorWords
  rw [answer] at attempts ⊢
  dsimp only [raised] at attempts ⊢
  split at attempts
  · rename_i load
    cases attempts
    rw [if_pos load]
    exact ends (upToDate_passive.ldcWords bus cops instr address called) clear
  · rename_i store
    cases attempts
    rw [if_neg store]
    exact ends (upToDate_passive.stcWords bus cops instr address called) clear

end Coprocessors

section Execution

variable {bus : Bus Mem} {physical : PhysicalBus Mem} {cops : Coprocessors Mem}
  {state : ARMulState Mem} {pc instr : ARMword}

theorem Peeks.situation {before after : ARMulState Mem} (peeks : Peeks before after) :
    after.situation = before.situation := by
  rw [peeks.same]
  rfl

theorem InStep.undefInstr (inStep : InStep state) (call : semihostingWord instr = true) :
    InStep (armulUndefInstr bus (starletTraps bus physical) state instr) := by
  have called : (starletTraps bus physical).undfTrap state instr = (semihosting bus state, true) :=
    starletUndefinedTrap_call call
  rw [armulUndefInstr, called]
  exact inStep_passive.same inStep (peeks_semihosting bus state).situation

theorem InStep.softwareInterrupt (inStep : InStep state)
    (call : semihostingWord instr = true) :
    InStep (softwareInterrupt bus (starletTraps bus physical) state pc instr) := by
  rw [softwareInterrupt_call call]
  exact inStep_passive.same inStep (peeks_semihosting bus state).situation

theorem InStep.mainSwitch (inStep : InStep state) (spares : WordSpares bus cops state instr) :
    InStep (mainSwitch bus (starletTraps bus physical) cops state pc instr) := by
  have upToDate := inStep.upToDate
  unfold WordSpares at spares
  unfold SkyeyeStarlet.mainSwitch
  cases transfers : transferOf instr with
  | some kind =>
      simp only [transfers, Proceeds, attemptOf] at spares
      obtain ⟨⟨attempt, attempts, clear⟩, registers⟩ := spares
      exact inStep.same (upToDate.dataTransfer _ attempts clear registers)
  | none =>
      simp only [transfers, Proceeds, attemptOf] at spares
      dsimp only
      split <;> rename_i group <;> simp only [group] at spares
      · exact inStep.dataProcessing pc spares
      · exact inStep.dataProcessing pc spares
      · rw [undefinedTransfer, if_pos spares]
        exact inStep_passive.same inStep rfl
      · rw [undefinedTransfer, if_pos spares]
        exact inStep_passive.same inStep rfl
      · obtain ⟨⟨attempt, attempts, clear⟩, registers⟩ := spares
        cases attempts
        exact inStep.blockTransfer clear registers
      · rw [branch, spares]
        exact inStep_passive.flushpipe (inStep_passive.setPc _ inStep)
      · obtain ⟨⟨attempt, attempts, clear⟩, accepts, base⟩ := spares
        unfold coprocessorTransfer
        split at attempts
        · cases attempts
        · rename_i known
          rw [if_neg known]
          exact inStep.same (upToDate.coprocessorWords attempts clear accepts base)
      · split at spares
        · rename_i calls
          rw [if_pos calls]
          exact inStep.softwareInterrupt spares
        · rename_i register
          rw [if_neg register]
          exact inStep.same (upToDate.coprocessorRegister spares)

theorem InStep.executeArm_unpassed (inStep : InStep state)
    (unpassed : passedWord state instr = none) (spares : UnswitchedSpares state instr) :
    InStep (executeArm bus (starletTraps bus physical) cops state pc instr) := by
  unfold passedWord at unpassed
  unfold SkyeyeStarlet.executeArm
  split at unpassed
  · rename_i never
    rw [if_pos never]
    unfold SkyeyeStarlet.unconditional
    split
    · exact inStep
    · rename_i isV5
      rw [Bool.not_eq_true', Bool.not_eq_false] at isV5
      obtain ⟨notBranch, preload⟩ := spares never isV5
      rw [if_neg notBranch, if_pos preload]
      exact inStep
  · rename_i conditional
    rw [if_neg conditional]
    split at unpassed
    · cases unpassed
    · rename_i fails
      rw [if_neg fails]
      exact inStep

theorem InStep.thumbDecode (inStep : InStep state) {after : ARMulState Mem}
    (branched : armulThumbDecode state pc instr = .branched after)
    (short : (thumbHalves state.bigendSig instr).1.extractLsb' 11 5 ∉ [29#5, 30#5, 31#5]) :
    InStep after := by
  have decoded : branchesKept InStep (armulThumbDecode state pc instr) :=
    inStep_passive.thumbDecodeHalf pc _ _ inStep fun long => absurd long short
  rw [branched] at decoded
  exact decoded

theorem InStep.execute (inStep : InStep state) (spares : InstrSpares bus cops state pc instr) :
    InStep (execute bus (starletTraps bus physical) cops state pc instr) := by
  unfold InstrSpares at spares
  cases switched : switchedWord state pc instr with
  | some word =>
      rw [switched] at spares
      rw [execute_switched switched]
      exact inStep.mainSwitch spares
  | none =>
      rw [switched] at spares
      dsimp only at spares
      unfold switchedWord at switched
      unfold SkyeyeStarlet.execute
      split at switched
      · rename_i thumb
        rw [if_pos thumb] at spares ⊢
        cases result : armulThumbDecode state pc instr with
        | undefined =>
            rw [result] at spares
            exact inStep.undefInstr spares
        | branched after =>
            rw [result] at spares
            exact inStep.thumbDecode result spares
        | decoded word =>
            rw [result] at spares switched
            exact inStep.executeArm_unpassed switched spares
      · rename_i arm
        rw [if_neg arm] at spares ⊢
        exact inStep.executeArm_unpassed switched spares

theorem inStep_round (bus : Bus Mem) (physical : PhysicalBus Mem) (cops : Coprocessors Mem)
    (emulator : Emulator Mem) (round : Round Mem) (inStep : InStep emulator.cpu)
    (spares : RoundSpares bus cops emulator round) :
    InStep (emulateRound bus (starletTraps bus physical) cops emulator round).cpu := by
  have primed : InStep (primePipe bus emulator).cpu :=
    inStep_passive.primePipe bus inStep
  unfold emulateRound
  split
  · rename_i runs
    obtain ⟨quiet, spared⟩ := spares runs
    rw [finishRound, quiet]
    have executing : InStep ((primePipe bus emulator).executing round) :=
      inStep_passive.same primed rfl
    exact executing.execute spared
  · exact inStep

theorem inStep_run (bus : Bus Mem) (physical : PhysicalBus Mem) (cops : Coprocessors Mem)
    {emulator : Emulator Mem} (inStep : InStep emulator.cpu) {rounds : List (Round Mem)}
    (spares : Runs.AllSteps (emulateRound bus (starletTraps bus physical) cops)
      (RoundSpares bus cops) emulator rounds) :
    InStep (Runs.run (emulateRound bus (starletTraps bus physical) cops) emulator rounds).cpu := by
  exact Runs.run_invariant_of_allowed _ (fun emulator => InStep emulator.cpu)
    (RoundSpares bus cops) (inStep_round bus physical cops) emulator inStep rounds spares

end Execution

section Start

theorem armulCPSRAltered_own {state : ARMulState Mem} (prog32 : state.prog32Sig = true)
    (valid : validMode state.mode = true) (own : state.cpsr.setWidth 5 = state.mode) :
    armulCPSRAltered state = { state with flags := unpackFlags state.cpsr } := by
  rw [armulCPSRAltered_eq prog32 valid (by rw [own]; exact valid), own]
  cases state
  simp only [enterMode, enterFile, if_true]

theorem armulReset_eq {state : ARMulState Mem} (prog32 : state.prog32Sig = true) :
    armulReset state =
      { state with
        file := { state.file.set 15#4 0#32 with bank := .svcbank }
        flags := unpackFlags 0xd3#32
        cpsr := 0xd3#32
        mode := svc32mode
        nextInstr := 0#8 ||| 4#8
        ntransSig := svc32mode &&& 3#5 != 0#5
        abortSig := false
        abortAddr := 1#32 } := by
  let initial : ARMulState Mem :=
    { state.setReg 15#4 0#32 with nextInstr := 0#8, cpsr := 0xd3#32, mode := svc32mode }
  have altered : armulCPSRAltered initial = { initial with flags := unpackFlags initial.cpsr } :=
    armulCPSRAltered_own prog32 rfl (show (0xd3#32).setWidth 5 = svc32mode by decide)
  unfold armulReset
  dsimp only
  rw [if_pos prog32, altered]
  unfold flushpipe
  congr 1

theorem inStep_reset (highVectors : Mem → Bool) (mem : Mem) :
    InStep (armReset highVectors (starletMachInit mem)).cpu := by
  unfold armReset
  rw [armulReset_eq rfl]
  dsimp only
  rw [armulAbort_eq highVectors rfl rfl rfl]
  dsimp only
  have own (file : Registers) : enterFile file svc32mode (Vector.resetV.mode true) = file :=
    if_pos rfl
  rw [own]
  refine ⟨rfl, ⟨⟨rfl, rfl, rfl, rfl, ?_⟩, ?_⟩⟩
  · intro number banked _
    have notPc : number ≠ 15#4 := by
      rintro rfl
      exact banked unbanked_pc
    generalize linked : linkAddress _ Vector.resetV = link
    have zero : link = 0#32 := by
      rw [← linked]
      show Function.update (fun _ => 0#32) 15#4 0#32 15#4 - 0#32 = 0#32
      rw [Function.update_self]
      rfl
    show 0#32 = Function.update (Function.update (Function.update (fun _ => 0#32) 15#4 0#32) 14#4
      link) 15#4 _ number
    rw [Function.update_of_ne notPc, zero]
    by_cases linkReg : number = 14#4
    · rw [linkReg, Function.update_self]
    · rw [Function.update_of_ne linkReg, Function.update_of_ne notPc]
  · show entryWord (unpackFlags 0xd3#32) svc32mode .resetV =
      packCPSR (entryFlags (unpackFlags 0xd3#32) .resetV) svc32mode
    decide

end Start

end SkyeyeStarlet
