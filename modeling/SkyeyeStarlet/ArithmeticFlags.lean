import SkyeyeStarlet.Pipeline
import SkyeyeStarlet.ThumbData

/-!
The arithmetic operations of the main switch with the S bit set, in every word that reaches
them: results and flags are those of the sums over the integers, whatever short cut the case
takes.
-/

namespace SkyeyeStarlet

open ThumbIsa

variable {Mem : Type}

/-- `ADDS`, `ADCS`, `SUBS`, `SBCS`, `RSBS`, `RSCS`, `CMP` and `CMN` with any operand and a
destination other than register 15: what the main switch takes neither for a transfer nor for
a multiplication. -/
structure ArithmeticWord (instr : ARMword) : Prop where
  form : instr.extractLsb' 25 3 = 0#3 ∨ instr.extractLsb' 25 3 = 1#3
  transfer : transferOf instr = none
  multiply : isMultiply instr = false
  arithmetic : (opcodeOf instr).arithmetic = true
  flags : instr.getLsbD 20 = true
  dest : destReg instr ≠ 15#4

def Flags.ofSum (flags : Flags) (sum : Sum) : Flags :=
  { flags with
    nFlag := sum.value.getLsbD 31
    zFlag := sum.value == 0#32
    cFlag := sum.carry
    vFlag := sum.overflow }

section Sums

variable {opcode : Opcode} (arithmetic : opcode.arithmetic = true) (state : ARMulState Mem)
  (carry : Bool) (lhs rhs : ARMword)

include arithmetic

theorem Opcode.flags_sum :
    negZero (opcode.flags state lhs rhs (opcode.sum carry lhs rhs).value)
        (opcode.sum carry lhs rhs).value =
      { state with flags := state.flags.ofSum (opcode.sum carry lhs rhs) } := by
  cases opcode with
  | sub => exact congrArg (negZero · _) (subFlags_eq state lhs rhs true)
  | cmp => exact congrArg (negZero · _) (subFlags_eq state lhs rhs true)
  | sbc => exact congrArg (negZero · _) (subFlags_eq state lhs rhs carry)
  | rsb => exact congrArg (negZero · _) (subFlags_eq state rhs lhs true)
  | rsc => exact congrArg (negZero · _) (subFlags_eq state rhs lhs carry)
  | add => exact congrArg (negZero · _) (addFlags_eq state lhs rhs false)
  | cmn => exact congrArg (negZero · _) (addFlags_eq state lhs rhs false)
  | adc => exact congrArg (negZero · _) (addFlags_eq state lhs rhs carry)
  | and | eor | tst | teq | orr | mov | bic | mvn => exact absurd arithmetic Bool.false_ne_true

theorem Opcode.sum_flags :
    opcode.flags (negZero state (opcode.sum carry lhs rhs).value) lhs rhs
        (opcode.sum carry lhs rhs).value =
      { state with flags := state.flags.ofSum (opcode.sum carry lhs rhs) } := by
  cases opcode with
  | sub => exact subFlags_eq (negZero state _) lhs rhs true
  | cmp => exact subFlags_eq (negZero state _) lhs rhs true
  | sbc => exact subFlags_eq (negZero state _) lhs rhs carry
  | rsb => exact subFlags_eq (negZero state _) rhs lhs true
  | rsc => exact subFlags_eq (negZero state _) rhs lhs carry
  | add => exact addFlags_eq (negZero state _) lhs rhs false
  | cmn => exact addFlags_eq (negZero state _) lhs rhs false
  | adc => exact addFlags_eq (negZero state _) lhs rhs carry
  | and | eor | tst | teq | orr | mov | bic | mvn => exact absurd arithmetic Bool.false_ne_true

end Sums

section Words

variable (bus : Bus Mem) (traps : Traps Mem) (cops : Coprocessors Mem) (state : ARMulState Mem)
  (pc : ARMword) {instr : ARMword} (word : ArithmeticWord instr)

include word

theorem mainSwitch_arithmetic :
    mainSwitch bus traps cops state pc instr =
      if (opcodeOf instr).tests then dataTest state instr else dataFlags state instr := by
  unfold mainSwitch
  rw [word.transfer]
  have reached : dataProcessing state pc instr =
      if (opcodeOf instr).tests then dataTest state instr else dataFlags state instr := by
    have tests := opcodeOf_tests instr
    simp only [dataProcessing, word.multiply, word.flags, tests, Bool.false_eq_true, if_false,
      if_true]
  rcases word.form with register | immediate
  · rw [register]
    exact reached
  · rw [immediate]
    exact reached

theorem dataTest_sum :
    let (shifted, rhs) := plainRHS state instr
    dataTest state instr =
      { shifted with
        flags :=
          shifted.flags.ofSum
            ((opcodeOf instr).sum state.flags.cFlag (lhsValue state instr) rhs) } := by
  have value := Opcode.sum_value word.arithmetic state.flags.cFlag (lhsValue state instr)
  simp only [dataTest, word.dest, word.arithmetic, if_false, if_true, ← value]
  exact Opcode.sum_flags word.arithmetic _ _ _ _

theorem dataFlags_sum :
    let (shifted, rhs) := plainRHS state instr
    let sum := (opcodeOf instr).sum state.flags.cFlag (lhsValue state instr) rhs
    dataFlags state instr =
      { shifted.setReg (destReg instr) sum.value with flags := shifted.flags.ofSum sum } := by
  have value := Opcode.sum_value word.arithmetic state.flags.cFlag (lhsValue state instr)
  simp only [dataFlags, word.arithmetic, if_true, ← value, writeSDest, word.dest, if_false]
  have summed := Opcode.flags_sum word.arithmetic (plainRHS state instr).1 state.flags.cFlag
    (lhsValue state instr) (plainRHS state instr).2
  exact congrArg (fun middle : ARMulState Mem => middle.setReg (destReg instr)
    ((opcodeOf instr).sum state.flags.cFlag (lhsValue state instr) (plainRHS state instr).2).value)
    summed

/-- The result goes to the destination, but for a comparison, and the flags are those of the
sum over the integers of the operands as the instruction reads them.  Nothing else changes
after the operands are read. -/
theorem arithmetic_flags_exact (conditional : instr.extractLsb' 28 4 ≠ 0xf#4)
    (passes : conditionHolds state.flags (instr.extractLsb' 28 4) = true) :
    let (shifted, rhs) := plainRHS state instr
    let sum := (opcodeOf instr).sum state.flags.cFlag (lhsValue state instr) rhs
    executeArm bus traps cops state pc instr =
      { shifted with
        file :=
          if (opcodeOf instr).tests then shifted.file
          else shifted.file.set (destReg instr) sum.value
        flags := shifted.flags.ofSum sum } := by
  have reached : executeArm bus traps cops state pc instr =
      if (opcodeOf instr).tests then dataTest state instr else dataFlags state instr := by
    rw [executeArm, if_neg conditional, if_pos passes,
      mainSwitch_arithmetic bus traps cops state pc word]
  dsimp only
  rw [reached]
  split
  · exact dataTest_sum state word
  · exact dataFlags_sum state word

end Words

/-- `adds r0, r1, r2` with a signed overflow. -/
theorem arithmetic_flags_exact_adds :
    let state := ((coreAt svc32mode false 0#32 ()).setReg 1#4 0x7fffffff#32).setReg 2#4 1#32
    let after := executeArm (constantBus 0#32) quietTraps noCoprocessors state 0#32 0xe0910002#32
    after.reg 0#4 = 0x80000000#32 ∧ after.flags.nFlag = true ∧ after.flags.vFlag = true ∧
      after.flags.cFlag = false := by
  intro state after
  have word : ArithmeticWord 0xe0910002#32 := by
    refine ⟨.inl (by decide), ?_, ?_, ?_, ?_, ?_⟩
    all_goals decide
  have exact := arithmetic_flags_exact (constantBus 0#32) quietTraps noCoprocessors state 0#32 word
    (by decide) (by decide)
  rw [show after = _ from exact]
  decide

end SkyeyeStarlet
