import SkyeyeStarlet.Outcomes
import SkyeyeStarlet.Library.ThumbIsa

/-!
The main switch against the Thumb instruction set: the sums and shifts of `armemu.c` are those
of the architecture, and every update that an instruction makes to the state is one to the
machine of the architecture.
-/

namespace SkyeyeStarlet

open ThumbIsa

variable {Mem : Type}

section Sums

theorem flagWord_toNat (flag : Bool) : (flagWord flag).toNat = flag.toNat := by
  cases flag <;> rfl

theorem getLsbD_top (word : ARMword) : word.getLsbD 31 = decide (2 ^ 31 ≤ word.toNat) := by
  exact BitVec.msb_eq_decide word

theorem getLsbD_div (word : ARMword) (index : Nat) :
    word.getLsbD index = decide (word.toNat / 2 ^ index % 2 = 1) := by
  exact Nat.testBit_eq_decide_div_mod_eq

theorem toInt_word (word : ARMword) :
    word.toInt =
      (if 2 ^ 31 ≤ word.toNat then (word.toNat : Int) - 2 ^ 32 else (word.toNat : Int)) := by
  rw [BitVec.toInt_eq_toNat_cond]
  split <;> split <;> omega

theorem toNat_addFlag (x y : ARMword) (carry : Bool) :
    (x + y + flagWord carry).toNat = (x.toNat + y.toNat + carry.toNat) % 2 ^ 32 := by
  simp [BitVec.toNat_add, flagWord_toNat]

theorem toNat_subFlag (x y : ARMword) (carry : Bool) :
    (x - y - flagWord (!carry)).toNat =
      (x.toNat + 2 ^ 32 - y.toNat + 2 ^ 32 - (!carry).toNat) % 2 ^ 32 := by
  have := x.isLt
  have := y.isLt
  have := Bool.toNat_le (!carry)
  simp only [BitVec.toNat_sub, flagWord_toNat]
  omega

theorem addCarry_value (x y : ARMword) (carry : Bool) :
    (ThumbIsa.addCarry x y carry).value = x + y + flagWord carry := by
  apply BitVec.eq_of_toNat_eq
  rw [toNat_addFlag]
  exact BitVec.toNat_ofNat _ _

theorem subCarry_value (x y : ARMword) (carry : Bool) :
    (ThumbIsa.subCarry x y carry).value = x - y - flagWord (!carry) := by
  apply BitVec.eq_of_toNat_eq
  rw [toNat_subFlag]
  have := x.isLt
  have := y.isLt
  have := Bool.toNat_le (!carry)
  simp only [ThumbIsa.subCarry, BitVec.toNat_ofInt]
  omega

theorem addCarry_carry (x y : ARMword) (carry : Bool) :
    addCarry x y (x + y + flagWord carry) = (ThumbIsa.addCarry x y carry).carry := by
  have := x.isLt
  have := y.isLt
  have := Bool.toNat_le carry
  rw [Bool.eq_iff_iff]
  simp only [ThumbIsa.addCarry, addCarry, getLsbD_top, toNat_addFlag, Bool.or_eq_true,
    Bool.and_eq_true, Bool.not_eq_true', decide_eq_true_eq, decide_eq_false_iff_not]
  omega

theorem addOverflow_overflow (x y : ARMword) (carry : Bool) :
    addOverflow x y (x + y + flagWord carry) = (ThumbIsa.addCarry x y carry).overflow := by
  have := x.isLt
  have := y.isLt
  have := Bool.toNat_le carry
  rw [Bool.eq_iff_iff]
  simp only [ThumbIsa.addCarry, addOverflow, outsideSigned, getLsbD_top, toInt_word,
    toNat_addFlag, Bool.or_eq_true, Bool.and_eq_true, Bool.not_eq_true', decide_eq_true_eq,
    decide_eq_false_iff_not]
  omega

theorem subCarry_carry (x y : ARMword) (carry : Bool) :
    subCarry x y (x - y - flagWord (!carry)) = (ThumbIsa.subCarry x y carry).carry := by
  have := x.isLt
  have := y.isLt
  have := Bool.toNat_le (!carry)
  rw [Bool.eq_iff_iff]
  simp only [ThumbIsa.subCarry, subCarry, getLsbD_top, toNat_subFlag, Bool.or_eq_true,
    Bool.and_eq_true, Bool.not_eq_true', decide_eq_true_eq, decide_eq_false_iff_not]
  omega

theorem subOverflow_overflow (x y : ARMword) (carry : Bool) :
    subOverflow x y (x - y - flagWord (!carry)) = (ThumbIsa.subCarry x y carry).overflow := by
  have := x.isLt
  have := y.isLt
  have := Bool.toNat_le (!carry)
  rw [Bool.eq_iff_iff]
  simp only [ThumbIsa.subCarry, subOverflow, outsideSigned, getLsbD_top, toInt_word,
    toNat_subFlag, Bool.or_eq_true, Bool.and_eq_true, Bool.not_eq_true', decide_eq_true_eq,
    decide_eq_false_iff_not]
  omega

theorem lt_of_or_shift {x y : ARMword} {bits : Nat} (small : (x ||| y) >>> bits = 0#32) :
    x.toNat < 2 ^ bits ∧ y.toNat < 2 ^ bits := by
  have shifted := congrArg BitVec.toNat small
  rw [BitVec.toNat_ushiftRight, BitVec.toNat_or, Nat.shiftRight_eq_div_pow, BitVec.toNat_zero,
    Nat.div_eq_zero_iff_lt (Nat.two_pow_pos bits)] at shifted
  have left : x.toNat ≤ x.toNat ||| y.toNat := Nat.left_le_or
  have right : y.toNat ≤ x.toNat ||| y.toNat := Nat.right_le_or
  omega

theorem addFlags_eq (state : ARMulState Mem) (x y : ARMword) (carry : Bool) :
    let sum := ThumbIsa.addCarry x y carry
    addFlags state x y sum.value =
      { state with
        flags :=
          { state.flags with
            zFlag := sum.value == 0#32
            nFlag := sum.value.getLsbD 31
            cFlag := sum.carry
            vFlag := sum.overflow } } := by
  intro sum
  unfold addFlags
  split
  · rename_i small
    have bounds := lt_of_or_shift small
    have := Bool.toNat_le carry
    have value : sum.value.toNat = x.toNat + y.toNat + carry.toNat := by
      rw [show sum.value = _ from addCarry_value x y carry, toNat_addFlag]
      omega
    have negative : sum.value.getLsbD 31 = false := by
      rw [getLsbD_top, value, decide_eq_false_iff_not]
      omega
    have carries : sum.carry = false := by
      simp only [sum, ThumbIsa.addCarry, decide_eq_false_iff_not]
      omega
    have overflows : sum.overflow = false := by
      simp only [sum, ThumbIsa.addCarry, outsideSigned, toInt_word, Bool.or_eq_false_iff,
        decide_eq_false_iff_not]
      omega
    rw [negative, carries, overflows]
  · rw [show sum.value = _ from addCarry_value x y carry, addCarry_carry, addOverflow_overflow]

theorem subFlags_eq (state : ARMulState Mem) (x y : ARMword) (carry : Bool) :
    let sum := ThumbIsa.subCarry x y carry
    subFlags state x y sum.value =
      { state with
        flags := { state.flags with cFlag := sum.carry, vFlag := sum.overflow } } := by
  intro sum
  unfold subFlags
  split
  · rw [show sum.value = _ from subCarry_value x y carry, subCarry_carry, subOverflow_overflow]
  · rename_i small
    simp only [not_or, BitVec.not_le, Decidable.not_not] at small
    have less := BitVec.lt_def.mp small.1
    have bounds := lt_of_or_shift small.2
    have := Bool.toNat_le (!carry)
    have carries : sum.carry = false := by
      simp only [sum, ThumbIsa.subCarry, decide_eq_false_iff_not]
      omega
    have overflows : sum.overflow = false := by
      simp only [sum, ThumbIsa.subCarry, outsideSigned, toInt_word, Bool.or_eq_false_iff,
        decide_eq_false_iff_not]
      omega
    rw [carries, overflows]

end Sums

section Shifts

def ShiftType.isa : ShiftType → Shift
  | .lsl => .lsl
  | .lsr => .lsr
  | .asr => .asr
  | .ror => .ror

theorem rotater_mod (word : ARMword) (amount : Nat) :
    rotater word (amount % 32) = word.rotateRight amount := by
  rw [rotater, BitVec.or_comm]
  rfl

theorem sshiftRight_whole (word : ARMword) {amount : Nat} (whole : 31 ≤ amount) :
    word.sshiftRight amount = word.sshiftRight 31 := by
  apply BitVec.eq_of_getLsbD_eq
  intro index bound
  have top : word.msb = word.getLsbD 31 := rfl
  rw [BitVec.getLsbD_sshiftRight, BitVec.getLsbD_sshiftRight, top]
  grind

theorem shiftByRegister_value (kind : ShiftType) (amount : Nat) (carry : Bool) (base : ARMword) :
    (shiftByRegister kind amount base).value = (kind.isa.apply amount carry base).1 := by
  by_cases none : amount = 0
  · simp [shiftByRegister, Shift.apply, none]
  · cases kind with
    | lsl =>
        simp only [shiftByRegister, ShiftType.isa, Shift.apply, if_neg none]
        split
        · rw [BitVec.shiftLeft_eq_zero (by omega)]
        · split
          · rw [BitVec.shiftLeft_eq_zero (by omega)]
          · rfl
    | lsr =>
        simp only [shiftByRegister, ShiftType.isa, Shift.apply, if_neg none]
        split
        · rw [BitVec.ushiftRight_eq_zero (by omega)]
        · split
          · rw [BitVec.ushiftRight_eq_zero (by omega)]
          · rfl
    | asr =>
        simp only [shiftByRegister, ShiftType.isa, Shift.apply, if_neg none]
        split
        · exact (sshiftRight_whole base (by omega)).symm
        · rfl
    | ror =>
        simp only [shiftByRegister, ShiftType.isa, Shift.apply, if_neg none]
        split
        · rename_i whole
          rw [← rotater_mod, whole]
          simp [rotater]
        · exact rotater_mod base amount

theorem shiftByRegister_carry (kind : ShiftType) (amount : Nat) (carry : Bool) (base : ARMword) :
    (shiftByRegister kind amount base).carry.getD carry =
      (kind.isa.apply amount carry base).2 := by
  by_cases none : amount = 0
  · simp [shiftByRegister, Shift.apply, none]
  · cases kind with
    | lsl =>
        simp only [shiftByRegister, ShiftType.isa, Shift.apply, if_neg none]
        split
        · rename_i whole
          simp [whole]
        · split
          · rename_i beyond
            simp [Nat.not_le.mpr beyond]
          · rename_i below
            simp [Nat.not_lt.mp below]
    | lsr =>
        simp only [shiftByRegister, ShiftType.isa, Shift.apply, if_neg none]
        split
        · rename_i whole
          simp [whole]
        · split
          · exact (BitVec.getLsbD_of_ge _ _ (by omega)).symm
          · rfl
    | asr =>
        simp only [shiftByRegister, ShiftType.isa, Shift.apply, if_neg none]
        split
        · rw [Nat.min_eq_right (by omega)]
          rfl
        · rw [Nat.min_eq_left (by omega)]
          rfl
    | ror =>
        simp only [shiftByRegister, ShiftType.isa, Shift.apply, if_neg none]
        split
        · rw [show (amount - 1) % 32 = 31 by omega]
          rfl
        · rw [show (amount - 1) % 32 = amount % 32 - 1 by omega]
          rfl

theorem shiftByConstant_eq {kind : ShiftType} (rotates : kind ≠ .ror) {amount : BitVec 5}
    (shifts : ¬(kind = .lsl ∧ amount = 0#5)) (carry : Bool) (base : ARMword) :
    let result := kind.isa.applyImm amount carry base
    shiftByConstant kind amount.toNat carry base = ⟨result.1, some result.2⟩ := by
  have bound := amount.isLt
  by_cases none : amount = 0#5
  · subst none
    cases kind with
    | lsl => exact absurd ⟨rfl, rfl⟩ shifts
    | lsr =>
        have zero : base >>> 32 = 0#32 := BitVec.ushiftRight_eq_zero (by omega)
        simp [shiftByConstant, ShiftType.isa, Shift.applyImm, Shift.apply, zero]
    | asr =>
        simp [shiftByConstant, ShiftType.isa, Shift.applyImm, Shift.apply,
          sshiftRight_whole base (show 31 ≤ 32 by omega)]
    | ror => exact absurd rfl rotates
  · have positive : amount.toNat ≠ 0 := by
      intro zero
      exact none (BitVec.eq_of_toNat_eq zero)
    have most : min amount.toNat 32 = amount.toNat := Nat.min_eq_left (by omega)
    have fits : amount.toNat ≤ 32 := by omega
    cases kind with
    | lsl => simp [shiftByConstant, ShiftType.isa, Shift.applyImm, Shift.apply, positive, fits]
    | lsr => simp [shiftByConstant, ShiftType.isa, Shift.applyImm, Shift.apply, none, positive]
    | asr =>
        simp [shiftByConstant, ShiftType.isa, Shift.applyImm, Shift.apply, none, positive, most]
    | ror => exact absurd rfl rotates

end Shifts

section Views

/-- The state as the architecture has it, with the instruction at `pc` to be executed. -/
def machineOf (state : ARMulState Mem) (pc : ARMword) : Processor Mem :=
  { reg := state.reg
    pc
    n := state.flags.nFlag
    z := state.flags.zFlag
    c := state.flags.cFlag
    v := state.flags.vFlag
    thumb := state.tFlag
    mem := state.mem }

/-- The registers of the other modes and the part of the status that no Thumb instruction
changes but for an exception. -/
structure Background where
  regBank : Bank → RegNum → ARMword
  bank : Bank
  spsr : Bank → ARMword
  mode : ModeNum
  sFlag : Bool
  ifFlags : BitVec 2

def ARMulState.background (state : ARMulState Mem) : Background :=
  { regBank := state.file.regBank
    bank := state.file.bank
    spsr := state.spsr
    mode := state.mode
    sFlag := state.flags.sFlag
    ifFlags := state.flags.ifFlags }

def nextPc (state : ARMulState Mem) (pc : ARMword) : ARMword :=
  if state.nextInstr < 4#8 then pc + insnSize state else state.reg 15#4

theorem primePipe_pc (bus : Bus Mem) (emulator : Emulator Mem) :
    (primePipe bus emulator).pc = nextPc emulator.cpu emulator.pc := by
  unfold primePipe nextPc
  split
  · rfl
  · rfl

structure Agrees (before state : ARMulState Mem) (machine : Processor Mem) : Prop where
  regs : ∀ number, number ≠ 15#4 → state.reg number = machine.reg number
  negative : state.flags.nFlag = machine.n
  zero : state.flags.zFlag = machine.z
  carry : state.flags.cFlag = machine.c
  overflow : state.flags.vFlag = machine.v
  thumb : state.tFlag = machine.thumb
  mem : state.mem = machine.mem
  background : state.background = before.background

structure Within (before state : ARMulState Mem) (machine : Processor Mem) : Prop
    extends Agrees before state machine where
  sequential : state.nextInstr < 4#8

structure Shows (before state : ARMulState Mem) (pc : ARMword) (machine : Processor Mem) : Prop
    extends Agrees before state machine where
  next : nextPc state pc = machine.pc

variable {before state : ARMulState Mem} {machine : Processor Mem} {pc : ARMword}

theorem within_refl (ready : state.nextInstr = 0#8) (pc : ARMword) :
    Within state state (machineOf state pc) := by
  refine ⟨⟨fun _ _ => rfl, rfl, rfl, rfl, rfl, rfl, rfl, rfl⟩, ?_⟩
  rw [ready]
  decide

theorem Within.setReg (within : Within before state machine) {number : RegNum}
    (notPc : number ≠ 15#4) (value : ARMword) :
    Within before (state.setReg number value) (machine.set number value) := by
  refine ⟨{ within.toAgrees with regs := ?_, background := within.background }, within.sequential⟩
  intro other notPc'
  by_cases same : other = number
  · subst same
    simp [ARMulState.reg, ARMulState.setReg, Registers.set, Processor.set]
  · rw [setReg_reg_of_ne same, within.regs other notPc']
    exact (Function.update_of_ne same _ _).symm

theorem Within.negZero (within : Within before state machine) (value : ARMword) :
    Within before (SkyeyeStarlet.negZero state value) (machine.setNZ value) := by
  exact ⟨{ within.toAgrees with negative := rfl, zero := rfl, background := within.background },
    within.sequential⟩

theorem Within.assignC (within : Within before state machine) (carry : Bool) :
    Within before (SkyeyeStarlet.assignC state carry) { machine with c := carry } := by
  exact ⟨{ within.toAgrees with carry := rfl, background := within.background }, within.sequential⟩

theorem Within.incpc (within : Within before state machine) :
    Within before (SkyeyeStarlet.incpc state) machine := by
  refine ⟨{ within.toAgrees with regs := ?_, background := within.background }, ?_⟩
  · intro number notPc
    exact (setReg_reg_of_ne notPc).trans (within.regs number notPc)
  · have marked : ∀ cycle : BitVec 8, cycle < 4#8 → cycle ||| 2#8 < 4#8 := by decide
    exact marked _ within.sequential

theorem Within.addFlags (within : Within before state machine) (x y : ARMword) (carry : Bool) :
    let sum := ThumbIsa.addCarry x y carry
    Within before (SkyeyeStarlet.addFlags state x y sum.value) (machine.setSum sum) := by
  intro sum
  rw [addFlags_eq]
  exact ⟨{ within.toAgrees with
    negative := rfl, zero := rfl, carry := rfl, overflow := rfl, background := within.background },
    within.sequential⟩

theorem Within.subFlags (within : Within before state machine) (x y : ARMword) (carry : Bool) :
    let sum := ThumbIsa.subCarry x y carry
    Within before (SkyeyeStarlet.subFlags state x y sum.value)
      { machine with c := sum.carry, v := sum.overflow } := by
  intro sum
  rw [subFlags_eq]
  exact ⟨{ within.toAgrees with carry := rfl, overflow := rfl, background := within.background },
    within.sequential⟩

theorem Within.busused (within : Within before state machine) :
    Within before { state with nextInstr := state.nextInstr ||| 1#8 } machine := by
  refine ⟨{ within.toAgrees with background := within.background }, ?_⟩
  have marked : ∀ cycle : BitVec 8, cycle < 4#8 → cycle ||| 1#8 < 4#8 := by decide
  exact marked _ within.sequential

theorem Within.withMem (within : Within before state machine) (mem : Mem) (abortSig : Bool)
    (aborted : ARMword) :
    Within before { state with mem, abortSig, aborted } { machine with mem } := by
  exact ⟨{ within.toAgrees with mem := rfl, background := within.background }, within.sequential⟩

theorem Within.next (within : Within before state machine) (thumb : machine.thumb = true) :
    Shows before state machine.pc machine.next := by
  refine ⟨{ within.toAgrees with background := within.background }, ?_⟩
  have size : insnSize state = 2#32 := by
    rw [insnSize, within.thumb.trans thumb]
    rfl
  rw [nextPc, if_pos within.sequential, size]
  rfl

theorem Within.flush (within : Within before state machine) (target pc : ARMword) :
    Shows before (flushpipe (state.setReg 15#4 target)) pc { machine with pc := target } := by
  refine ⟨{ within.toAgrees with regs := ?_, background := within.background }, ?_⟩
  · intro number notPc
    exact (setReg_reg_of_ne notPc).trans (within.regs number notPc)
  · have pending : ¬(flushpipe (state.setReg 15#4 target)).nextInstr < 4#8 :=
      flushed_not_lt state.nextInstr
    rw [nextPc, if_neg pending]
    exact setReg_reg_self state 15#4 target

theorem Within.writeR15 (within : Within before state machine) (thumb : machine.thumb = true)
    (target pc : ARMword) :
    Shows before (SkyeyeStarlet.writeR15 state target) pc (machine.jump target) := by
  rw [SkyeyeStarlet.writeR15, within.thumb.trans thumb]
  exact within.flush (target &&& ~~~1#32) pc

theorem Within.withThumb (within : Within before state machine) (thumb : Bool) (cpsr : ARMword) :
    Within before { state with flags := { state.flags with tFlag := thumb }, cpsr }
      { machine with thumb } := by
  exact ⟨{ within.toAgrees with thumb := rfl, background := within.background }, within.sequential⟩

theorem Within.exchange (within : Within before state machine) (target pc : ARMword)
    {after : Processor Mem} (defined : machine.exchange target = some after) :
    Shows before (writeR15Branch state target) pc after := by
  have branched (thumb : Bool) := (within.withThumb thumb
    (packCPSR { state.flags with tFlag := thumb } state.mode)).flush (alignPc thumb target) pc
  unfold Processor.exchange at defined
  cases odd : target.getLsbD 0 with
  | true =>
      rw [odd] at defined
      cases defined
      rw [writeR15Branch, odd]
      exact branched true
  | false =>
      cases half : target.getLsbD 1 with
      | true =>
          simp only [odd, half, Bool.false_eq_true, if_false, if_true, reduceCtorEq] at defined
      | false =>
          simp only [odd, half, Bool.false_eq_true, if_false, Option.some.injEq] at defined
          subst defined
          have whole : alignPc false target = target := by
            rw [alignPc_eq_self_iff]
            rw [getLsbD_div] at odd half
            simp at odd half ⊢
            omega
          rw [writeR15Branch, odd]
          have shown := branched false
          rw [whole] at shown ⊢
          exact shown

end Views

section Fields

@[simp] theorem extract_field_disjoint (tinstr : Halfword) {first width place start size : Nat}
    (apart : start + size ≤ place ∨ place + width ≤ start) :
    (field tinstr first width place).extractLsb' start size = BitVec.ofNat size 0 := by
  apply BitVec.eq_of_getLsbD_eq
  intro index bound
  simp only [field, BitVec.getLsbD_extractLsb', BitVec.getLsbD_shiftLeft, BitVec.getLsbD_setWidth,
    BitVec.getLsbD_zero]
  grind

@[simp] theorem extract_field (tinstr : Halfword) {first width place start size : Nat}
    (inside : start ≤ place ∧ place + width ≤ start + size) (fits : start + size ≤ 32) :
    (field tinstr first width place).extractLsb' start size =
      (tinstr.extractLsb' first width).setWidth size <<< (place - start) := by
  apply BitVec.eq_of_getLsbD_eq
  intro index bound
  simp only [field, BitVec.getLsbD_extractLsb', BitVec.getLsbD_shiftLeft, BitVec.getLsbD_setWidth]
  grind

@[simp] theorem getElem_field (tinstr : Halfword) (first width place index : Nat)
    (bound : index < 32) :
    (field tinstr first width place)[index] =
      (decide (place ≤ index ∧ index < place + width) &&
        tinstr.getLsbD (first + (index - place))) := by
  rw [← BitVec.getLsbD_eq_getElem]
  simp only [field, BitVec.getLsbD_extractLsb', BitVec.getLsbD_shiftLeft, BitVec.getLsbD_setWidth]
  grind

end Fields

section Words

variable (bus : Bus Mem) (traps : Traps Mem) (cops : Coprocessors Mem) (state : ARMulState Mem)
  (pc : ARMword) {instr : ARMword}

theorem executeArm_always (always : instr.extractLsb' 28 4 = 0xe#4) :
    executeArm bus traps cops state pc instr = mainSwitch bus traps cops state pc instr := by
  unfold executeArm
  rw [always]
  rfl

/-- The forms of data processing: an immediate operand, or a register that is not shifted
like the operand of a transfer or a multiplication. -/
def ProcessingForm (instr : ARMword) : Prop :=
  instr.extractLsb' 25 3 = 1#3 ∨ instr.extractLsb' 25 3 = 0#3 ∧
    (instr.getLsbD 4 = false ∨ instr.getLsbD 7 = false)

structure IsData (instr : ARMword) : Prop where
  always : instr.extractLsb' 28 4 = 0xe#4
  form : instr.extractLsb' 25 3 = 1#3 ∨ instr.extractLsb' 25 3 = 0#3 ∧
    (instr.getLsbD 4 = false ∨ instr.getLsbD 7 = false)

theorem extract_upper (instr : ARMword) :
    instr.extractLsb' 26 2 = (instr.extractLsb' 25 3).extractLsb' 1 2 := by
  apply BitVec.eq_of_getLsbD_eq
  intro index bound
  simp only [BitVec.getLsbD_extractLsb']
  grind

theorem extract_ne_of_bits {instr : ARMword}
    (form : instr.getLsbD 4 = false ∨ instr.getLsbD 7 = false) {code : BitVec 4}
    (odd : code.getLsbD 0 = true) (high : code.getLsbD 3 = true) :
    instr.extractLsb' 4 4 ≠ code := by
  rintro rfl
  simp only [BitVec.getLsbD_extractLsb', Nat.reduceAdd, Nat.reduceLT, decide_true,
    Bool.true_and] at odd high
  simp only [odd, high, Bool.true_eq_false, or_self] at form

theorem transferOf_form (form : ProcessingForm instr) : transferOf instr = none := by
  unfold transferOf
  rcases form with immediate | ⟨register, form⟩
  · simp [extract_upper, immediate]
  · simp only [extract_upper, register, if_true]
    rw [if_neg (by decide)]
    split <;>
      first
      | rfl
      | exact absurd ‹instr.extractLsb' 4 4 = _› (extract_ne_of_bits form (by decide) (by decide))

theorem isMultiply_form (form : ProcessingForm instr) : isMultiply instr = false := by
  unfold isMultiply
  rcases form with immediate | ⟨register, form⟩
  · have bit25 : instr.getLsbD 25 = true := by
      have bits := congrArg (fun code => code.getLsbD 0) immediate
      simpa using bits
    rw [bit25]
    rfl
  · have code := @extract_ne_of_bits instr form 9#4 (by decide) (by decide)
    simp [code]

theorem mainSwitch_form (form : ProcessingForm instr) :
    mainSwitch bus traps cops state pc instr = dataProcessing state pc instr := by
  rw [mainSwitch, transferOf_form form]
  rcases form with immediate | ⟨register, -⟩
  · simp only [immediate]
  · simp only [register]

theorem isMultiply_data (data : IsData instr) : isMultiply instr = false := by
  exact isMultiply_form data.form

theorem executeArm_data (data : IsData instr) :
    executeArm bus traps cops state pc instr = dataProcessing state pc instr := by
  rw [executeArm_always bus traps cops state pc data.always]
  exact mainSwitch_form bus traps cops state pc data.form

theorem executeArm_flags (data : IsData instr) (writes : instr.extractLsb' 23 2 ≠ 2#2)
    (flags : instr.getLsbD 20 = true) :
    executeArm bus traps cops state pc instr = dataFlags state instr := by
  rw [executeArm_data bus traps cops state pc data]
  simp only [dataProcessing, isMultiply_data data, writes, flags, if_true, if_false,
    Bool.false_eq_true]

theorem executeArm_plain (data : IsData instr) (writes : instr.extractLsb' 23 2 ≠ 2#2)
    (plain : instr.getLsbD 20 = false) :
    executeArm bus traps cops state pc instr = dataPlain state instr := by
  rw [executeArm_data bus traps cops state pc data]
  simp only [dataProcessing, isMultiply_data data, writes, plain, if_false, Bool.false_eq_true]

theorem executeArm_test (data : IsData instr) (tests : instr.extractLsb' 23 2 = 2#2)
    (flags : instr.getLsbD 20 = true) :
    executeArm bus traps cops state pc instr = dataTest state instr := by
  rw [executeArm_data bus traps cops state pc data]
  simp only [dataProcessing, isMultiply_data data, tests, flags, if_true, if_false,
    Bool.false_eq_true]

end Words

end SkyeyeStarlet
