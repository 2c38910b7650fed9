import SkyeyeStarlet.ArmFormats

/-!
Data processing in ARM state: every form of the right operand has the value and carry of the
architecture, and every operation its result and flags.
-/

namespace SkyeyeStarlet

open ThumbIsa

variable {Mem : Type}

section Shifts

theorem shiftByConstant_arm {kind : ShiftType} {amount : BitVec 5}
    (shifts : ¬(kind = .lsl ∧ amount = 0#5)) (carry : Bool) (base : ARMword) :
    let result := ArmIsa.shiftConstant kind.isa amount carry base
    shiftByConstant kind amount.toNat carry base = ⟨result.1, some result.2⟩ := by
  by_cases rotates : kind = .ror
  · subst rotates
    by_cases through : amount = 0#5
    · subst through
      have turned : (base >>> 1) ||| (flagWord carry <<< 31) =
          BitVec.ofBool carry ++ base.extractLsb' 1 31 := by
        apply BitVec.eq_of_getLsbD_eq
        intro index bound
        simp only [flagWord, BitVec.getLsbD_or, BitVec.getLsbD_ushiftRight,
          BitVec.getLsbD_shiftLeft, BitVec.getLsbD_setWidth, BitVec.getLsbD_ofBool,
          BitVec.getLsbD_append, BitVec.getLsbD_extractLsb']
        grind
      simp [shiftByConstant, ArmIsa.shiftConstant, ShiftType.isa, turned]
    · have positive : amount.toNat ≠ 0 := by
        intro zero
        exact through (BitVec.eq_of_toNat_eq zero)
      have below := amount.isLt
      have amounts : amount.toNat % 32 = amount.toNat := Nat.mod_eq_of_lt (by omega)
      have last : (amount.toNat - 1) % 32 = amount.toNat - 1 := Nat.mod_eq_of_lt (by omega)
      have turned : rotater base amount.toNat = base.rotateRight amount.toNat := by
        rw [← rotater_mod, amounts]
      simp [shiftByConstant, ArmIsa.shiftConstant, ShiftType.isa, Shift.applyImm, Shift.apply,
        positive, through, last, turned]
  · have plain : ¬(kind.isa = .ror ∧ amount = 0#5) := by
      rintro ⟨turns, -⟩
      cases kind <;> first | exact rotates rfl | cases turns
    intro result
    simp only [result, ArmIsa.shiftConstant, if_neg plain]
    exact shiftByConstant_eq rotates shifts carry base

theorem shiftByRegister_arm (kind : ShiftType) (amount : Nat) (carry : Bool) (base : ARMword) :
    ∃ result, shiftByRegister kind amount base = ⟨(kind.isa.apply amount carry base).1, result⟩ ∧
      result.getD carry = (kind.isa.apply amount carry base).2 := by
  refine ⟨(shiftByRegister kind amount base).carry, ?_, shiftByRegister_carry kind amount carry base⟩
  rw [← shiftByRegister_value kind amount carry base]

theorem unshifted_arm (instr : ARMword) :
    instr.extractLsb' 4 8 = 0#8 ↔
      instr.getLsbD 4 = false ∧ shiftType instr = .lsl ∧ instr.extractLsb' 7 5 = 0#5 := by
  have whole : instr.extractLsb' 4 8 =
      instr.extractLsb' 7 5 ++ (BitVec.ofBool (instr.getLsbD 6) ++
        (BitVec.ofBool (instr.getLsbD 5) ++ BitVec.ofBool (instr.getLsbD 4))) := by
    apply BitVec.eq_of_getLsbD_eq
    intro index bound
    simp only [BitVec.getLsbD_extractLsb', BitVec.getLsbD_append, BitVec.getLsbD_ofBool]
    grind
  rw [whole, shiftType]
  generalize instr.extractLsb' 7 5 = amount
  cases instr.getLsbD 6 <;> cases instr.getLsbD 5 <;> cases instr.getLsbD 4 <;>
    revert amount <;>
    decide

theorem dpImmRHS_arm (instr : ARMword) :
    dpImmRHS instr =
      ((instr.extractLsb' 0 8).setWidth 32).rotateRight (2 * (instr.extractLsb' 8 4).toNat) := by
  have below := (instr.extractLsb' 8 4).isLt
  rw [dpImmRHS, ← rotater_mod, Nat.mod_eq_of_lt (by omega)]

end Shifts

section Operands

variable {state : ARMulState Mem} {pc : ARMword} {instr : ARMword}

/-- The right operand and the state behind it, with or without the carry of the shift. -/
structure OperandOf (state : ARMulState Mem) (pc instr value : ARMword) (carry : Bool) : Prop
    where
  plain : ∃ middle, plainRHS state instr = (middle, value) ∧
    Within state middle (machineOf state pc) ∧ lhsValue middle instr = lhsValue state instr
  flags : ∃ middle, carryRHS state instr = (middle, value) ∧
    Within state middle { machineOf state pc with c := carry } ∧
    lhsValue middle instr = lhsValue state instr

theorem lhsValue_incpc (notPc : lhsReg instr ≠ 15#4) :
    lhsValue (incpc state) instr = lhsValue state instr := by
  rw [lhsValue, lhsValue, if_neg notPc, if_neg notPc]
  exact setReg_reg_of_ne notPc

variable (ready : ArmReady state pc)

include ready

theorem operand_immediate (immediate : instr.getLsbD 25 = true) {value : ARMword} {carry : Bool}
    (evaluates : (ArmIsa.decodeOperand instr).eval (machineOf state pc) = some (value, carry)) :
    OperandOf state pc instr value carry := by
  simp only [ArmIsa.decodeOperand, immediate, if_true, ArmIsa.Operand.eval, Option.some.injEq,
    Prod.mk.injEq] at evaluates
  obtain ⟨rfl, rfl⟩ := evaluates
  have within := within_refl ready.ready pc
  rw [← dpImmRHS_arm]
  refine ⟨⟨state, ?_, within, rfl⟩, ?_⟩
  · rw [plainRHS, if_pos immediate]
  · simp only [carryRHS, immediate, if_true, dpsImmRHS]
    split
    · exact ⟨state, rfl, within, rfl⟩
    · exact ⟨_, rfl, within.assignC _, rfl⟩

theorem operand_constant (register : instr.getLsbD 25 = false) (constant : instr.getLsbD 4 = false)
    {value : ARMword} {carry : Bool}
    (evaluates : (ArmIsa.decodeOperand instr).eval (machineOf state pc) = some (value, carry)) :
    OperandOf state pc instr value carry := by
  have within := within_refl ready.ready pc
  have right : state.reg (rhsReg instr) =
      ArmIsa.read (machineOf state pc) (ArmIsa.rmOf instr) := reg_armRead ready _
  simp only [ArmIsa.decodeOperand, register, constant, Bool.false_eq_true, if_false,
    ArmIsa.Operand.eval, Option.some.injEq, ← shiftType_decodeShift, ← right] at evaluates
  by_cases plain : instr.extractLsb' 4 8 = 0#8
  · obtain ⟨-, kind, amount⟩ := (unshifted_arm instr).mp plain
    rw [kind, amount] at evaluates
    cases evaluates
    refine ⟨⟨state, ?_, within, rfl⟩, ⟨state, ?_, within, rfl⟩⟩
    · simp only [plainRHS, register, dpRegRHS, plain, if_true, Bool.false_eq_true, if_false]
    · simp only [carryRHS, register, dpsRegRHS, plain, if_true, Bool.false_eq_true, if_false]
  · have shifts : ¬(shiftType instr = .lsl ∧ instr.extractLsb' 7 5 = 0#5) := by
      rintro ⟨kind, amount⟩
      exact plain ((unshifted_arm instr).mpr ⟨constant, kind, amount⟩)
    have shifted : shiftOperand state instr = ⟨value, some carry⟩ := by
      have result := shiftByConstant_arm shifts state.flags.cFlag (state.reg (rhsReg instr))
      simp only [shiftOperand, constant, Bool.false_eq_true, if_false]
      rw [result]
      exact congrArg (fun pair : ARMword × Bool => Shifted.mk pair.1 (some pair.2)) evaluates
    refine ⟨⟨state, ?_, within, rfl⟩, ⟨assignC state carry, ?_, within.assignC _,
      rfl⟩⟩
    · simp only [plainRHS, register, dpRegRHS, plain, constant, if_false, Bool.false_eq_true,
        shifted]
    · simp only [carryRHS, register, dpsRegRHS, plain, constant, if_false, Bool.false_eq_true,
        shifted]

theorem operand_register (register : instr.getLsbD 25 = false) (shifted : instr.getLsbD 4 = true)
    (left : lhsReg instr ≠ 15#4) {value : ARMword} {carry : Bool}
    (evaluates : (ArmIsa.decodeOperand instr).eval (machineOf state pc) = some (value, carry)) :
    OperandOf state pc instr value carry := by
  have within := (within_refl ready.ready pc).incpc
  have plain : instr.extractLsb' 4 8 ≠ 0#8 := by
    intro plain
    rw [((unshifted_arm instr).mp plain).1] at shifted
    cases shifted
  simp only [ArmIsa.decodeOperand, register, shifted, Bool.false_eq_true, if_false, if_true,
    ArmIsa.Operand.eval] at evaluates
  split at evaluates
  · cases evaluates
  · rename_i notPc
    rw [not_or] at notPc
    have amount : (incpc state).reg (instr.extractLsb' 8 4) = state.reg (ArmIsa.rsOf instr) :=
      setReg_reg_of_ne notPc.1
    have right : (incpc state).reg (rhsReg instr) = state.reg (ArmIsa.rmOf instr) :=
      setReg_reg_of_ne notPc.2
    have operand : ∃ result, shiftOperand (incpc state) instr = ⟨value, result⟩ ∧
        result.getD state.flags.cFlag = carry := by
      obtain ⟨result, shift, left⟩ := shiftByRegister_arm (shiftType instr)
        ((state.reg (ArmIsa.rsOf instr)).setWidth 8).toNat state.flags.cFlag
        (state.reg (ArmIsa.rmOf instr))
      have pair : (ArmIsa.decodeShift (instr.extractLsb' 5 2)).apply
          ((state.reg (ArmIsa.rsOf instr)).setWidth 8).toNat state.flags.cFlag
          (state.reg (ArmIsa.rmOf instr)) = (value, carry) := Option.some.inj evaluates
      rw [shiftType_decodeShift, pair] at shift left
      refine ⟨result, ?_, left⟩
      simp only [shiftOperand, shifted, if_true, amount, right]
      exact shift
    obtain ⟨result, operand, carries⟩ := operand
    refine ⟨⟨incpc state, ?_, within, lhsValue_incpc left⟩, ?_⟩
    · simp only [plainRHS, register, dpRegRHS, plain, shifted, if_true, if_false,
        Bool.false_eq_true, operand]
    · cases result with
      | none =>
          refine ⟨incpc state, ?_, ?_, lhsValue_incpc left⟩
          · simp only [carryRHS, register, dpsRegRHS, plain, shifted, if_true, if_false,
              Bool.false_eq_true, operand]
          · rw [← show state.flags.cFlag = carry from carries]
            exact within
      | some carried =>
          refine ⟨assignC (incpc state) carry, ?_, within.assignC _, lhsValue_incpc left⟩
          rw [show carried = carry from carries] at operand
          simp only [carryRHS, register, dpsRegRHS, plain, shifted, if_true, if_false,
            Bool.false_eq_true, operand]

theorem operand_eval (left : (ArmIsa.decodeOperand instr).byRegister = true → lhsReg instr ≠ 15#4)
    {value : ARMword} {carry : Bool}
    (evaluates : (ArmIsa.decodeOperand instr).eval (machineOf state pc) = some (value, carry)) :
    OperandOf state pc instr value carry := by
  cases immediate : instr.getLsbD 25 with
  | true => exact operand_immediate ready immediate evaluates
  | false =>
      cases shifted : instr.getLsbD 4 with
      | false => exact operand_constant ready immediate shifted evaluates
      | true =>
          refine operand_register ready immediate shifted (left ?_) evaluates
          simp only [ArmIsa.decodeOperand, immediate, shifted, Bool.false_eq_true, if_false,
            if_true, ArmIsa.Operand.byRegister]

end Operands

section Results

variable {state : ARMulState Mem} {pc instr value : ARMword} {carry : Bool}

theorem tests_opcode (op : ArmIsa.DataOp) : (DataOp.opcode op).tests = op.tests := by
  cases op <;> rfl

theorem sum_opcode {op : ArmIsa.DataOp} {x y : ARMword} {sum : Sum}
    (arithmetic : op.sum carry x y = some sum) :
    (DataOp.opcode op).arithmetic = true ∧ (DataOp.opcode op).sum carry x y = sum := by
  cases op <;>
    first
    | cases arithmetic
      exact ⟨rfl, rfl⟩
    | cases arithmetic

theorem logical_opcode {op : ArmIsa.DataOp} {x y : ARMword}
    (logical : op.sum carry x y = none) :
    (DataOp.opcode op).arithmetic = false ∧
      (DataOp.opcode op).result carry x y = op.logical x y := by
  cases op <;>
    first
    | exact ⟨rfl, rfl⟩
    | cases logical

variable (ready : ArmReady state pc) (operand : OperandOf state pc instr value carry)

include ready operand

theorem shows_dataPlain {after : Processor Mem}
    (defined : ArmIsa.setResult (machineOf state pc) (destReg instr)
      ((opcodeOf instr).result state.flags.cFlag (lhsValue state instr) value) = some after) :
    Shows state (dataPlain state instr) pc after := by
  obtain ⟨middle, right, within, left⟩ := operand.plain
  simp only [dataPlain, right, left]
  exact within.setResult ready.arm rfl defined

theorem shows_dataSum (arithmetic : (opcodeOf instr).arithmetic = true)
    (notPc : destReg instr ≠ 15#4) :
    let sum := (opcodeOf instr).sum state.flags.cFlag (lhsValue state instr) value
    Shows state (dataFlags state instr) pc
      (ArmIsa.skip (((machineOf state pc).setSum sum).set (destReg instr) sum.value)) := by
  intro sum
  obtain ⟨middle, right, within, left⟩ := operand.plain
  have result : (opcodeOf instr).result state.flags.cFlag (lhsValue state instr) value =
      sum.value := (Opcode.sum_value arithmetic _ _ _).symm
  simp only [dataFlags, arithmetic, if_true, right, result, writeSDest, notPc, if_false]
  exact (within.writeSum arithmetic _ _ _ notPc).skip ready.arm

theorem shows_dataLogical (logical : (opcodeOf instr).arithmetic = false)
    (notPc : destReg instr ≠ 15#4) :
    let result := (opcodeOf instr).result state.flags.cFlag (lhsValue state instr) value
    Shows state (dataFlags state instr) pc
      (ArmIsa.skip (({ machineOf state pc with c := carry }.setNZ result).set (destReg instr)
        result)) := by
  intro result
  obtain ⟨middle, right, within, left⟩ := operand.flags
  simp only [dataFlags, logical, Bool.false_eq_true, right, left, writeSDest, notPc, if_false]
  exact ((within.setReg notPc result).negZero result).skip ready.arm

theorem shows_testSum (arithmetic : (opcodeOf instr).arithmetic = true)
    (notPc : destReg instr ≠ 15#4) :
    Shows state (dataTest state instr) pc
      (ArmIsa.skip ((machineOf state pc).setSum
        ((opcodeOf instr).sum state.flags.cFlag (lhsValue state instr) value))) := by
  obtain ⟨middle, right, within, left⟩ := operand.plain
  simp only [dataTest, notPc, if_false, arithmetic, if_true, right,
    ← Opcode.sum_value arithmetic state.flags.cFlag (lhsValue state instr) value]
  exact (within.testSum arithmetic _ _ _).skip ready.arm

theorem shows_testLogical (logical : (opcodeOf instr).arithmetic = false)
    (notPc : destReg instr ≠ 15#4) :
    Shows state (dataTest state instr) pc
      (ArmIsa.skip ({ machineOf state pc with c := carry }.setNZ
        ((opcodeOf instr).result state.flags.cFlag (lhsValue state instr) value))) := by
  obtain ⟨middle, right, within, left⟩ := operand.flags
  simp only [dataTest, notPc, if_false, logical, Bool.false_eq_true, right, left]
  exact (within.negZero _).skip ready.arm

end Results

section Execution

variable {state : ARMulState Mem} {pc instr : ARMword} (bus : Bus Mem) (traps : Traps Mem)
  (cops : Coprocessors Mem)

def dataCase (state : ARMulState Mem) (instr : ARMword) (tests flags : Bool) : ARMulState Mem :=
  if tests then dataTest state instr
  else if flags then dataFlags state instr
  else dataPlain state instr

/-- A word of data processing that is no test without its S bit. -/
structure OperationWord (instr : ARMword) (op : ArmIsa.DataOp) : Prop where
  form : ProcessingForm instr
  opcode : opcodeOf instr = DataOp.opcode op
  data : ¬(instr.extractLsb' 23 2 = 2#2 ∧ instr.getLsbD 20 = false)

theorem mainSwitch_operation {op : ArmIsa.DataOp} (word : OperationWord instr op) :
    mainSwitch bus traps cops state pc instr =
      dataCase state instr op.tests (instr.getLsbD 20) := by
  have testBits : instr.extractLsb' 23 2 = 2#2 ↔ op.tests = true := by
    rw [opcodeOf_tests, word.opcode, tests_opcode]
  rw [mainSwitch_form bus traps cops state pc word.form, dataProcessing,
    isMultiply_form word.form, dataCase]
  cases tests : op.tests with
  | true =>
      have bits := testBits.mpr tests
      have flags : instr.getLsbD 20 = true := by
        have data := word.data
        simpa [bits] using data
      simp only [bits, flags, Bool.false_eq_true, if_false, if_true]
  | false =>
      have bits := mt testBits.mp (Bool.eq_false_iff.mp tests)
      simp only [bits, Bool.false_eq_true, if_false]

theorem shows_finish {op : ArmIsa.DataOp} {flags : Bool} {rd : RegNum} {value : ARMword}
    {machine flagged after : Processor Mem} (tested : op.tests = true → rd ≠ 15#4)
    (test : rd ≠ 15#4 → Shows state (dataTest state instr) pc (ArmIsa.skip flagged))
    (sets : rd ≠ 15#4 →
      Shows state (dataFlags state instr) pc (ArmIsa.skip (flagged.set rd value)))
    (plain : ArmIsa.setResult machine rd value = some after →
      Shows state (dataPlain state instr) pc after)
    (defined : ArmIsa.finish op flags rd value machine flagged = some after) :
    Shows state (dataCase state instr op.tests flags) pc after := by
  unfold ArmIsa.finish at defined
  unfold dataCase
  split at defined
  · rename_i tests
    cases defined
    rw [if_pos tests]
    exact test (tested tests)
  · rename_i writes
    rw [if_neg writes]
    split at defined
    · rename_i flags
      rw [if_pos flags]
      split at defined
      · cases defined
      · rename_i notPc
        cases defined
        exact sets notPc
    · rename_i leaves
      rw [if_neg leaves]
      exact plain defined

variable (ready : ArmReady state pc)

include ready

theorem shows_operation {op : ArmIsa.DataOp} (word : OperationWord instr op)
    (tested : op.tests = true → destReg instr ≠ 15#4) {after : Processor Mem}
    (defined : ArmIsa.execData op (instr.getLsbD 20) (lhsReg instr) (destReg instr)
      (ArmIsa.decodeOperand instr) (machineOf state pc) = some after) :
    Shows state (mainSwitch bus traps cops state pc instr) pc after := by
  rw [mainSwitch_operation bus traps cops word]
  unfold ArmIsa.execData at defined
  split at defined
  · cases defined
  · rename_i apart
    rw [not_and, not_or] at apart
    simp only [Option.bind_eq_bind, Option.bind_eq_some_iff, ← lhsValue_armRead ready] at defined
    obtain ⟨⟨value, carry⟩, evaluates, defined⟩ := defined
    have operand := operand_eval ready (fun shifts => (apart shifts).1) evaluates
    have opcode := word.opcode
    dsimp only at defined
    split at defined
    · rename_i sum computes
      obtain ⟨arithmetic, same⟩ := sum_opcode computes
      rw [← opcode] at arithmetic same
      have total : (opcodeOf instr).sum state.flags.cFlag (lhsValue state instr) value = sum := same
      have result := Opcode.sum_value arithmetic state.flags.cFlag (lhsValue state instr) value
      rw [total] at result
      refine shows_finish tested ?_ ?_ ?_ defined
      · intro notPc
        rw [← total]
        exact shows_testSum ready operand arithmetic notPc
      · intro notPc
        rw [← total]
        exact shows_dataSum ready operand arithmetic notPc
      · intro written
        rw [result] at written
        exact shows_dataPlain ready operand written
    · rename_i logical
      obtain ⟨logical, same⟩ := logical_opcode logical
      rw [← opcode] at logical same
      have result : (opcodeOf instr).result state.flags.cFlag (lhsValue state instr) value =
          op.logical (lhsValue state instr) value := same
      rw [← result] at defined
      refine shows_finish tested ?_ ?_ ?_ defined
      · exact shows_testLogical ready operand logical
      · exact shows_dataLogical ready operand logical
      · exact shows_dataPlain ready operand

theorem performs_data (form : ProcessingForm instr)
    (data : ¬(instr.extractLsb' 23 2 = 2#2 ∧ instr.getLsbD 20 = false))
    {decoded : ArmIsa.Instr} (named : ArmIsa.decodeData instr = some decoded)
    {memory : Memory Mem} {effect : ArmIsa.Effect Mem} {highVectors : Mem → Bool}
    (ran : ArmIsa.exec memory decoded (armMachineOf state pc) = some effect) :
    ArmPerforms highVectors state (mainSwitch bus traps cops state pc instr) pc effect := by
  unfold ArmIsa.decodeData at named
  dsimp only at named
  split at named
  · cases named
  · rename_i zeros
    cases named
    rw [not_or, not_and, not_not] at zeros
    refine armPerforms_continues ran fun after defined => ?_
    refine shows_operation bus traps cops ready ⟨form, opcodeOf_decodeOp instr, data⟩ ?_ defined
    intro tests
    rw [show destReg instr = 0#4 from zeros.1 tests]
    decide

end Execution

end SkyeyeStarlet
