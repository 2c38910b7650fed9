import SkyeyeStarlet.ThumbFormats

/-!
The Thumb formats that become data processing words: each computes the result and the flags
of the architecture.
-/

namespace SkyeyeStarlet

open ThumbIsa

variable {Mem : Type}

/-- A core of version 5 that is about to execute a Thumb instruction at `pc`. -/
structure ThumbReady (state : ARMulState Mem) (pc : ARMword) : Prop where
  thumb : state.tFlag = true
  ready : state.nextInstr = 0#8
  ahead : state.reg 15#4 = pc + 4#32
  aligned : pc.getLsbD 0 = false
  isV4 : state.isV4 = true
  isV5 : state.isV5 = true
  clear : state.aborted = 0#32
  coherent : Coherent32 state

section Results

variable {state : ARMulState Mem} {pc : ARMword} {instr : ARMword} {machine : Processor Mem}
  {middle : ARMulState Mem}

def Opcode.sum (opcode : Opcode) (carry : Bool) (lhs rhs : ARMword) : Sum :=
  match opcode with
  | .sub | .cmp => ThumbIsa.subCarry lhs rhs true
  | .sbc => ThumbIsa.subCarry lhs rhs carry
  | .rsb => ThumbIsa.subCarry rhs lhs true
  | .rsc => ThumbIsa.subCarry rhs lhs carry
  | .adc => ThumbIsa.addCarry lhs rhs carry
  | _ => ThumbIsa.addCarry lhs rhs false

theorem Opcode.sum_value {opcode : Opcode} (arithmetic : opcode.arithmetic = true) (carry : Bool)
    (lhs rhs : ARMword) : (opcode.sum carry lhs rhs).value = opcode.result carry lhs rhs := by
  have zero : flagWord false = 0#32 := rfl
  cases opcode <;>
    first
    | exact absurd arithmetic (by decide)
    | simp [Opcode.sum, Opcode.result, addCarry_value, subCarry_value, zero]

variable {before : ARMulState Mem} (within : Within before middle machine) {opcode : Opcode}
  (arithmetic : opcode.arithmetic = true)

include within arithmetic

theorem Within.writeSum (carry : Bool) (lhs rhs : ARMword) {rd : RegNum} (notPc : rd ≠ 15#4) :
    let sum := opcode.sum carry lhs rhs
    Within before
      (SkyeyeStarlet.negZero ((opcode.flags middle lhs rhs sum.value).setReg rd sum.value)
        sum.value)
      ((machine.setSum sum).set rd sum.value) := by
  intro sum
  cases opcode <;>
    first
    | exact absurd arithmetic (by decide)
    | exact ((within.subFlags _ _ _).setReg notPc sum.value).negZero sum.value
    | exact ((within.addFlags _ _ _).setReg notPc sum.value).negZero sum.value

theorem Within.testSum (carry : Bool) (lhs rhs : ARMword) :
    let sum := opcode.sum carry lhs rhs
    Within before
      (opcode.flags (SkyeyeStarlet.negZero middle sum.value) lhs rhs sum.value)
      (machine.setSum sum) := by
  intro sum
  cases opcode <;>
    first
    | exact absurd arithmetic (by decide)
    | exact (within.negZero sum.value).subFlags _ _ _
    | exact (within.negZero sum.value).addFlags _ _ _

omit within arithmetic

theorem low_ne_pc (rd : LowReg) : rd.setWidth 4 ≠ 15#4 := by
  revert rd
  decide

end Results

section Words

variable {state : ARMulState Mem} {pc instr : ARMword} {opcode : Opcode} {flags : Bool}
  {rd rn : RegNum}

def Opcode.tests : Opcode → Bool
  | .tst | .teq | .cmp | .cmn => true
  | _ => false

theorem opcodeOf_tests (instr : ARMword) :
    instr.extractLsb' 23 2 = 2#2 ↔ (opcodeOf instr).tests = true := by
  have upper : instr.extractLsb' 23 2 = (instr.extractLsb' 21 4).extractLsb' 2 2 := by
    apply BitVec.eq_of_getLsbD_eq
    intro index bound
    simp only [BitVec.getLsbD_extractLsb']
    grind
  rw [upper, opcodeOf]
  generalize instr.extractLsb' 21 4 = code
  revert code
  decide

/-- A word of data processing with its operation, S bit, destination and left operand. -/
structure DataWord (instr : ARMword) (opcode : Opcode) (flags : Bool) (rd rn : RegNum) :
    Prop extends IsData instr where
  opcode : opcodeOf instr = opcode
  flags : instr.getLsbD 20 = flags
  dest : destReg instr = rd
  left : lhsReg instr = rn

structure RegOperand (instr : ARMword) (rm : RegNum) : Prop where
  register : instr.getLsbD 25 = false
  plain : instr.extractLsb' 4 8 = 0#8
  right : rhsReg instr = rm

theorem RegOperand.plainRHS {rm : RegNum} (operand : RegOperand instr rm) :
    SkyeyeStarlet.plainRHS state instr = (state, state.reg rm) := by
  simp only [SkyeyeStarlet.plainRHS, operand.register, dpRegRHS, operand.plain, operand.right,
    if_true, Bool.false_eq_true, if_false]

theorem RegOperand.carryRHS {rm : RegNum} (operand : RegOperand instr rm) :
    SkyeyeStarlet.carryRHS state instr = (state, state.reg rm) := by
  simp only [SkyeyeStarlet.carryRHS, operand.register, dpsRegRHS, operand.plain, operand.right,
    if_true, Bool.false_eq_true, if_false]

structure ImmOperand (instr : ARMword) (imm : BitVec 8) (rotation : BitVec 4) : Prop where
  immediate : instr.getLsbD 25 = true
  imm : instr.extractLsb' 0 8 = imm
  rotation : instr.extractLsb' 8 4 = rotation

theorem rotater_zero (word : ARMword) : rotater word 0 = word := by
  simp [rotater]

theorem ImmOperand.plainRHS {imm : BitVec 8} {rotation : BitVec 4}
    (operand : ImmOperand instr imm rotation) :
    SkyeyeStarlet.plainRHS state instr =
      (state, rotater (imm.setWidth 32) (2 * rotation.toNat)) := by
  simp only [SkyeyeStarlet.plainRHS, operand.immediate, if_true, dpImmRHS, operand.imm,
    operand.rotation]

theorem ImmOperand.plainRHS_byte {imm : BitVec 8} (operand : ImmOperand instr imm 0#4) :
    SkyeyeStarlet.plainRHS state instr = (state, imm.setWidth 32) := by
  rw [operand.plainRHS]
  exact congrArg (Prod.mk state) (rotater_zero _)

theorem ImmOperand.plainRHS_words {imm : BitVec 8} (operand : ImmOperand instr imm 0xf#4) :
    SkyeyeStarlet.plainRHS state instr = (state, imm.setWidth 32 <<< 2) := by
  have high : imm.setWidth 32 >>> 30 = 0#32 := by
    apply BitVec.eq_of_getLsbD_eq
    intro index bound
    have beyond : imm.getLsbD (30 + index) = false := BitVec.getLsbD_of_ge _ _ (by omega)
    simp [beyond]
  have rotated : rotater (imm.setWidth 32) (2 * (0xf#4).toNat) = imm.setWidth 32 <<< 2 := by
    change imm.setWidth 32 <<< 2 ||| imm.setWidth 32 >>> 30 = _
    rw [high, BitVec.or_zero]
  rw [operand.plainRHS, rotated]

theorem ImmOperand.carryRHS {imm : BitVec 8} (operand : ImmOperand instr imm 0#4) :
    SkyeyeStarlet.carryRHS state instr = (state, imm.setWidth 32) := by
  simp only [SkyeyeStarlet.carryRHS, operand.immediate, if_true, dpsImmRHS, operand.rotation,
    dpImmRHS, operand.imm]
  exact congrArg (Prod.mk state) (rotater_zero _)

theorem lhsValue_low (state : ARMulState Mem) {rn : LowReg}
    (left : lhsReg instr = rn.setWidth 4) (pc : ARMword) :
    lhsValue state instr = (machineOf state pc).low rn := by
  rw [lhsValue, left, if_neg (low_ne_pc rn)]
  rfl

variable (bus : Bus Mem) (traps : Traps Mem) (cops : Coprocessors Mem)
  (ready : ThumbReady state pc)

include ready

theorem shows_arithmetic {rd : LowReg} (word : DataWord instr opcode true (rd.setWidth 4) rn)
    (arithmetic : opcode.arithmetic = true) (writes : opcode.tests = false) {rhs : ARMword}
    (operand : plainRHS state instr = (state, rhs)) :
    Shows state (executeArm bus traps cops state pc instr) pc
      ((machineOf state pc).arithmetic rd
        (opcode.sum state.flags.cFlag (lhsValue state instr) rhs)) := by
  have value := Opcode.sum_value arithmetic state.flags.cFlag (lhsValue state instr) rhs
  have kind : instr.extractLsb' 23 2 ≠ 2#2 := by
    simp [opcodeOf_tests, word.opcode, writes]
  rw [executeArm_flags bus traps cops state pc word.toIsData kind word.flags]
  simp only [dataFlags, word.opcode, arithmetic, if_true, operand, ← value, writeSDest, word.dest]
  rw [if_neg (low_ne_pc rd)]
  exact ((within_refl ready.ready pc).writeSum arithmetic _ _ _ (low_ne_pc rd)).next ready.thumb

theorem shows_logical {rd : LowReg} (word : DataWord instr opcode true (rd.setWidth 4) rn)
    (logical : opcode.arithmetic = false) (writes : opcode.tests = false) {rhs : ARMword}
    {middle : ARMulState Mem} {carry : Bool} (operand : carryRHS state instr = (middle, rhs))
    (within : Within state middle { machineOf state pc with c := carry }) :
    Shows state (executeArm bus traps cops state pc instr) pc
      ({ machineOf state pc with c := carry }.logical rd
        (opcode.result state.flags.cFlag (lhsValue middle instr) rhs)) := by
  have kind : instr.extractLsb' 23 2 ≠ 2#2 := by
    simp [opcodeOf_tests, word.opcode, writes]
  rw [executeArm_flags bus traps cops state pc word.toIsData kind word.flags]
  simp only [dataFlags, word.opcode, logical, Bool.false_eq_true, if_false, operand, writeSDest,
    word.dest]
  rw [if_neg (low_ne_pc rd)]
  exact ((within.setReg (low_ne_pc rd) _).negZero _).next ready.thumb

theorem shows_compare (word : DataWord instr opcode true rd rn)
    (arithmetic : opcode.arithmetic = true) (tests : opcode.tests = true) (notPc : rd ≠ 15#4)
    {rhs : ARMword} (operand : plainRHS state instr = (state, rhs)) :
    Shows state (executeArm bus traps cops state pc instr) pc
      ((machineOf state pc).setSum
        (opcode.sum state.flags.cFlag (lhsValue state instr) rhs)).next := by
  have value := Opcode.sum_value arithmetic state.flags.cFlag (lhsValue state instr) rhs
  have kind : instr.extractLsb' 23 2 = 2#2 := by
    simp [opcodeOf_tests, word.opcode, tests]
  rw [executeArm_test bus traps cops state pc word.toIsData kind word.flags]
  simp only [dataTest, word.dest, notPc, if_false, word.opcode, arithmetic, if_true, operand,
    ← value]
  exact ((within_refl ready.ready pc).testSum arithmetic _ _ _).next ready.thumb

theorem shows_test (word : DataWord instr opcode true rd rn)
    (logical : opcode.arithmetic = false) (tests : opcode.tests = true) (notPc : rd ≠ 15#4)
    {rhs : ARMword} (operand : carryRHS state instr = (state, rhs)) :
    Shows state (executeArm bus traps cops state pc instr) pc
      ((machineOf state pc).setNZ
        (opcode.result state.flags.cFlag (lhsValue state instr) rhs)).next := by
  have kind : instr.extractLsb' 23 2 = 2#2 := by
    simp [opcodeOf_tests, word.opcode, tests]
  rw [executeArm_test bus traps cops state pc word.toIsData kind word.flags]
  simp only [dataTest, word.dest, notPc, if_false, word.opcode, logical, Bool.false_eq_true,
    operand]
  exact ((within_refl ready.ready pc).negZero _).next ready.thumb

theorem shows_plain (word : DataWord instr opcode false rd rn) (writes : opcode.tests = false)
    {rhs : ARMword} (operand : plainRHS state instr = (state, rhs)) :
    Shows state (executeArm bus traps cops state pc instr) pc
      ((machineOf state pc).setHigh rd
        (opcode.result state.flags.cFlag (lhsValue state instr) rhs)) := by
  have kind : instr.extractLsb' 23 2 ≠ 2#2 := by
    simp [opcodeOf_tests, word.opcode, writes]
  rw [executeArm_plain bus traps cops state pc word.toIsData kind word.flags]
  simp only [dataPlain, operand, writeDest, Processor.setHigh, word.dest, word.opcode]
  split
  · exact (within_refl ready.ready pc).writeR15 ready.thumb _ _
  · rename_i notPc
    exact ((within_refl ready.ready pc).setReg notPc _).next ready.thumb

end Words

section Formats

variable {state : ARMulState Mem} {pc : ARMword} (bus : Bus Mem) (traps : Traps Mem)
  (cops : Coprocessors Mem) (ready : ThumbReady state pc) (tinstr : Halfword)

theorem thumbShift_word :
    DataWord (thumbShift tinstr) .mov true ((tinstr.extractLsb' 0 3).setWidth 4) 0#4 := by
  constructor
  · constructor <;> simp [thumbShift, BitVec.extractLsb'_or]
  · simp [thumbShift, opcodeOf, BitVec.extractLsb'_or]
  · simp [thumbShift]
  · simp [thumbShift, destReg, BitVec.extractLsb'_or]
  · simp [thumbShift, lhsReg, BitVec.extractLsb'_or]

def shiftKind (code : BitVec 2) : ShiftType :=
  shiftType (code.setWidth 32 <<< 5)

theorem thumbShift_type : shiftType (thumbShift tinstr) = shiftKind (tinstr.extractLsb' 11 2) := by
  simp [shiftKind, shiftType, thumbShift]

theorem thumbShift_unshifted :
    (thumbShift tinstr).extractLsb' 4 8 = 0#8 ↔
      shiftKind (tinstr.extractLsb' 11 2) = .lsl ∧ tinstr.extractLsb' 6 5 = 0#5 := by
  have fields : ∀ (code : BitVec 2) (amount : BitVec 5),
      code.setWidth 8 <<< 1 ||| amount.setWidth 8 <<< 3 = 0#8 ↔
        shiftKind code = .lsl ∧ amount = 0#5 := by
    decide
  rw [← fields]
  simp [thumbShift, BitVec.extractLsb'_or]

include ready

theorem shows_thumbShift (rotates : shiftKind (tinstr.extractLsb' 11 2) ≠ .ror) :
    Shows state (executeArm bus traps cops state pc (thumbShift tinstr)) pc
      ((machineOf state pc).shifted (tinstr.extractLsb' 0 3)
        ((shiftKind (tinstr.extractLsb' 11 2)).isa.applyImm (tinstr.extractLsb' 6 5)
          state.flags.cFlag ((machineOf state pc).low (tinstr.extractLsb' 3 3)))) := by
  have within := within_refl ready.ready pc
  have register : (thumbShift tinstr).getLsbD 25 = false := by simp [thumbShift]
  have constant : (thumbShift tinstr).getLsbD 4 = false := by simp [thumbShift]
  have right : rhsReg (thumbShift tinstr) = (tinstr.extractLsb' 3 3).setWidth 4 := by
    simp [thumbShift, rhsReg, BitVec.extractLsb'_or]
  have amount : (thumbShift tinstr).extractLsb' 7 5 = tinstr.extractLsb' 6 5 := by
    simp [thumbShift, BitVec.extractLsb'_or]
  by_cases shifts : shiftKind (tinstr.extractLsb' 11 2) = .lsl ∧ tinstr.extractLsb' 6 5 = 0#5
  · have operand : carryRHS state (thumbShift tinstr) =
        (state, (machineOf state pc).low (tinstr.extractLsb' 3 3)) :=
      RegOperand.carryRHS ⟨register, (thumbShift_unshifted tinstr).mpr shifts, right⟩
    rw [shifts.1, shifts.2]
    exact shows_logical bus traps cops ready (thumbShift_word tinstr) rfl rfl operand within
  · have operand : carryRHS state (thumbShift tinstr) =
        let result := (shiftKind (tinstr.extractLsb' 11 2)).isa.applyImm (tinstr.extractLsb' 6 5)
          state.flags.cFlag ((machineOf state pc).low (tinstr.extractLsb' 3 3))
        (assignC state result.2, result.1) := by
      simp only [carryRHS, register, Bool.false_eq_true, if_false, dpsRegRHS,
        mt (thumbShift_unshifted tinstr).mp shifts, constant, shiftOperand, thumbShift_type,
        amount, right]
      rw [shiftByConstant_eq rotates shifts]
      rfl
    exact shows_logical bus traps cops ready (thumbShift_word tinstr) rfl rfl operand
      (within.assignC _)

omit ready in
theorem thumbAddSub_word :
    DataWord (thumbAddSub tinstr) (if tinstr.getLsbD 9 then .sub else .add) true
      ((tinstr.extractLsb' 0 3).setWidth 4) ((tinstr.extractLsb' 3 3).setWidth 4) := by
  unfold thumbAddSub
  constructor
  · constructor <;> split <;> simp [BitVec.extractLsb'_or]
  · split <;> simp_all [opcodeOf, BitVec.extractLsb'_or]
  · split <;> simp
  · split <;> simp [destReg, BitVec.extractLsb'_or]
  · split <;> simp [lhsReg, BitVec.extractLsb'_or]

theorem shows_addSubtract {instr : ARMword} {subtract : Bool} {rd rn : LowReg} {rhs : ARMword}
    (word : DataWord instr (if subtract then .sub else .add) true (rd.setWidth 4)
      (rn.setWidth 4))
    (operand : plainRHS state instr = (state, rhs)) :
    Shows state (executeArm bus traps cops state pc instr) pc
      ((machineOf state pc).addSubtract subtract rd ((machineOf state pc).low rn) rhs) := by
  rw [← lhsValue_low state word.left]
  cases subtract with
  | true => exact shows_arithmetic bus traps cops ready word rfl rfl operand
  | false => exact shows_arithmetic bus traps cops ready word rfl rfl operand

theorem shows_addReg (register : tinstr.getLsbD 10 = false) :
    Shows state (executeArm bus traps cops state pc (thumbAddSub tinstr)) pc
      ((machineOf state pc).addSubtract (tinstr.getLsbD 9) (tinstr.extractLsb' 0 3)
        ((machineOf state pc).low (tinstr.extractLsb' 3 3))
        ((machineOf state pc).low (tinstr.extractLsb' 6 3))) := by
  have operand : RegOperand (thumbAddSub tinstr) ((tinstr.extractLsb' 6 3).setWidth 4) := by
    unfold thumbAddSub
    rw [register]
    constructor
    · split <;> simp_all
    · split <;> simp_all [BitVec.extractLsb'_or]
    · split <;> simp_all [rhsReg, BitVec.extractLsb'_or]
  exact shows_addSubtract bus traps cops ready (thumbAddSub_word tinstr) operand.plainRHS

theorem shows_addImm (immediate : tinstr.getLsbD 10 = true) :
    Shows state (executeArm bus traps cops state pc (thumbAddSub tinstr)) pc
      ((machineOf state pc).addSubtract (tinstr.getLsbD 9) (tinstr.extractLsb' 0 3)
        ((machineOf state pc).low (tinstr.extractLsb' 3 3))
        ((tinstr.extractLsb' 6 3).setWidth 32)) := by
  have operand : ImmOperand (thumbAddSub tinstr) ((tinstr.extractLsb' 6 3).setWidth 8) 0#4 := by
    unfold thumbAddSub
    rw [immediate]
    constructor
    · split <;> simp_all
    · split <;> simp_all [BitVec.extractLsb'_or]
    · split <;> simp_all [BitVec.extractLsb'_or]
  have widened : ((tinstr.extractLsb' 6 3).setWidth 8).setWidth 32 =
      (tinstr.extractLsb' 6 3).setWidth 32 := by
    apply BitVec.eq_of_getLsbD_eq
    intro index bound
    simp only [BitVec.getLsbD_setWidth]
    grind
  rw [← widened]
  exact shows_addSubtract bus traps cops ready (thumbAddSub_word tinstr) operand.plainRHS_byte

omit ready in
theorem extract_bit {tinstr : Halfword} {first width : Nat} {code : BitVec width}
    (equal : tinstr.extractLsb' first width = code) {index : Nat} (bound : index < width) :
    tinstr.getLsbD (first + index) = code.getLsbD index := by
  rw [← equal, BitVec.getLsbD_extractLsb']
  simp [bound]

def immOpcode : ImmOp → Opcode
  | .mov => .mov
  | .cmp => .cmp
  | .add => .add
  | .sub => .sub

def immBits : ImmOp → BitVec 2
  | .mov => 0#2
  | .cmp => 1#2
  | .add => 2#2
  | .sub => 3#2

omit ready in
theorem thumbImmediate_word {op : ImmOp} (code : tinstr.extractLsb' 11 2 = immBits op) :
    DataWord (thumbImmediate tinstr) (immOpcode op) true ((tinstr.extractLsb' 8 3).setWidth 4)
      ((tinstr.extractLsb' 8 3).setWidth 4) := by
  have low := extract_bit code (show 0 < 2 by omega)
  have high := extract_bit code (show 1 < 2 by omega)
  unfold thumbImmediate
  rw [low, high]
  constructor
  · constructor <;> cases op <;> simp [immBits, BitVec.extractLsb'_or]
  · cases op <;> simp [immBits, immOpcode, opcodeOf, BitVec.extractLsb'_or]
  · cases op <;> simp [immBits]
  · cases op <;> simp [immBits, destReg, BitVec.extractLsb'_or]
  · cases op <;> simp [immBits, lhsReg, BitVec.extractLsb'_or]

omit ready in
theorem thumbImmediate_operand :
    ImmOperand (thumbImmediate tinstr) (tinstr.extractLsb' 0 8) 0#4 := by
  unfold thumbImmediate
  constructor
  · split <;> simp
  · split <;> simp [BitVec.extractLsb'_or]
  · split <;> simp [BitVec.extractLsb'_or]

theorem shows_thumbImmediate {op : ImmOp} (code : tinstr.extractLsb' 11 2 = immBits op) :
    Shows state (executeArm bus traps cops state pc (thumbImmediate tinstr)) pc
      (execImm op (tinstr.extractLsb' 8 3) ((tinstr.extractLsb' 0 8).setWidth 32)
        (machineOf state pc)) := by
  have word := thumbImmediate_word tinstr code
  have operand := thumbImmediate_operand tinstr
  have left := lhsValue_low state word.left pc
  cases op with
  | mov =>
      exact shows_logical bus traps cops ready word rfl rfl operand.carryRHS
        (within_refl ready.ready pc)
  | cmp =>
      rw [execImm, ← left]
      exact shows_compare bus traps cops ready word rfl rfl (low_ne_pc _) operand.plainRHS_byte
  | add =>
      rw [execImm, ← left]
      exact shows_arithmetic bus traps cops ready word rfl rfl operand.plainRHS_byte
  | sub =>
      rw [execImm, ← left]
      exact shows_arithmetic bus traps cops ready word rfl rfl operand.plainRHS_byte

end Formats

section Alu

variable {state : ARMulState Mem} {pc : ARMword} (bus : Bus Mem) (traps : Traps Mem)
  (cops : Coprocessors Mem) (tinstr : Halfword)

theorem extract_clean {base : ARMword} (clean : base.extractLsb' 0 20 = 0#20) {start size : Nat}
    (below : start + size ≤ 20) : base.extractLsb' start size = BitVec.ofNat size 0 := by
  apply BitVec.eq_of_getLsbD_eq
  intro index bound
  have bit := congrArg (fun word => word.getLsbD (start + index)) clean
  simp only [BitVec.getLsbD_extractLsb', BitVec.getLsbD_zero] at bit ⊢
  simpa [bound, show start + index < 20 by omega] using bit

structure AluBase (base : ARMword) : Prop where
  always : base.extractLsb' 28 4 = 0xe#4
  register : base.extractLsb' 25 3 = 0#3
  flags : base[20] = true
  clean : base.extractLsb' 0 20 = 0#20

def aluWord (base : ARMword) : ARMword :=
  base ||| field tinstr 0 3 16 ||| field tinstr 0 3 12 ||| field tinstr 3 3 0

theorem aluWord_word {base : ARMword} (opcode : AluBase base) :
    DataWord (aluWord tinstr base) (opcodeOf base) true ((tinstr.extractLsb' 0 3).setWidth 4)
      ((tinstr.extractLsb' 0 3).setWidth 4) := by
  have low : base[4] = false := by
    have bit := congrArg (fun word => word.getLsbD 4) opcode.clean
    simpa using bit
  unfold aluWord
  constructor
  · constructor
    · simp [BitVec.extractLsb'_or, opcode.always]
    · simp [BitVec.extractLsb'_or, opcode.register, low]
  · simp [opcodeOf, BitVec.extractLsb'_or]
  · simp [opcode.flags]
  · simp [destReg, BitVec.extractLsb'_or, extract_clean opcode.clean]
  · simp [lhsReg, BitVec.extractLsb'_or, extract_clean opcode.clean]

theorem aluWord_operand {base : ARMword} (opcode : AluBase base) :
    RegOperand (aluWord tinstr base) ((tinstr.extractLsb' 3 3).setWidth 4) := by
  have register : base[25] = false := by
    have bit := congrArg (fun code => code.getLsbD 0) opcode.register
    simpa using bit
  unfold aluWord
  constructor
  · simp [register]
  · simp [BitVec.extractLsb'_or, extract_clean opcode.clean]
  · simp [rhsReg, BitVec.extractLsb'_or, extract_clean opcode.clean]

section Operations

variable {base : ARMword} (opcode : AluBase base) (ready : ThumbReady state pc)

include opcode ready

theorem shows_aluLogical (logical : (opcodeOf base).arithmetic = false)
    (writes : (opcodeOf base).tests = false) :
    Shows state (executeArm bus traps cops state pc (aluWord tinstr base)) pc
      ((machineOf state pc).logical (tinstr.extractLsb' 0 3)
        ((opcodeOf base).result state.flags.cFlag
          ((machineOf state pc).low (tinstr.extractLsb' 0 3))
          ((machineOf state pc).low (tinstr.extractLsb' 3 3)))) := by
  have word := aluWord_word tinstr opcode
  rw [← lhsValue_low state word.left pc]
  exact shows_logical bus traps cops ready word logical writes
    (aluWord_operand tinstr opcode).carryRHS (within_refl ready.ready pc)

theorem shows_aluArithmetic (arithmetic : (opcodeOf base).arithmetic = true)
    (writes : (opcodeOf base).tests = false) :
    Shows state (executeArm bus traps cops state pc (aluWord tinstr base)) pc
      ((machineOf state pc).arithmetic (tinstr.extractLsb' 0 3)
        ((opcodeOf base).sum state.flags.cFlag
          ((machineOf state pc).low (tinstr.extractLsb' 0 3))
          ((machineOf state pc).low (tinstr.extractLsb' 3 3)))) := by
  have word := aluWord_word tinstr opcode
  rw [← lhsValue_low state word.left pc]
  exact shows_arithmetic bus traps cops ready word arithmetic writes
    (aluWord_operand tinstr opcode).plainRHS

theorem shows_aluCompare (arithmetic : (opcodeOf base).arithmetic = true)
    (tests : (opcodeOf base).tests = true) :
    Shows state (executeArm bus traps cops state pc (aluWord tinstr base)) pc
      ((machineOf state pc).setSum
        ((opcodeOf base).sum state.flags.cFlag
          ((machineOf state pc).low (tinstr.extractLsb' 0 3))
          ((machineOf state pc).low (tinstr.extractLsb' 3 3)))).next := by
  have word := aluWord_word tinstr opcode
  rw [← lhsValue_low state word.left pc]
  exact shows_compare bus traps cops ready word arithmetic tests (low_ne_pc _)
    (aluWord_operand tinstr opcode).plainRHS

theorem shows_aluTest (logical : (opcodeOf base).arithmetic = false)
    (tests : (opcodeOf base).tests = true) :
    Shows state (executeArm bus traps cops state pc (aluWord tinstr base)) pc
      ((machineOf state pc).setNZ
        ((opcodeOf base).result state.flags.cFlag
          ((machineOf state pc).low (tinstr.extractLsb' 0 3))
          ((machineOf state pc).low (tinstr.extractLsb' 3 3)))).next := by
  have word := aluWord_word tinstr opcode
  rw [← lhsValue_low state word.left pc]
  exact shows_test bus traps cops ready word logical tests (low_ne_pc _)
    (aluWord_operand tinstr opcode).carryRHS

end Operations

def shiftBase : ShiftType → ARMword
  | .lsl => 0xe1b00010#32
  | .lsr => 0xe1b00030#32
  | .asr => 0xe1b00050#32
  | .ror => 0xe1b00070#32

def shiftWord (kind : ShiftType) : ARMword :=
  shiftBase kind ||| field tinstr 0 3 12 ||| field tinstr 0 3 0 ||| field tinstr 3 3 8

theorem shiftWord_word (kind : ShiftType) :
    DataWord (shiftWord tinstr kind) .mov true ((tinstr.extractLsb' 0 3).setWidth 4) 0#4 := by
  unfold shiftWord
  constructor
  · constructor <;> cases kind <;> simp [shiftBase, BitVec.extractLsb'_or]
  · cases kind <;> simp [shiftBase, opcodeOf, BitVec.extractLsb'_or]
  · cases kind <;> simp [shiftBase]
  · cases kind <;> simp [shiftBase, destReg, BitVec.extractLsb'_or]
  · cases kind <;> simp [shiftBase, lhsReg, BitVec.extractLsb'_or]

theorem shiftWord_operand (kind : ShiftType) (pc : ARMword) :
    let result := kind.isa.apply
      (((machineOf state pc).low (tinstr.extractLsb' 3 3)).setWidth 8).toNat state.flags.cFlag
      ((machineOf state pc).low (tinstr.extractLsb' 0 3))
    ∃ middle, carryRHS state (shiftWord tinstr kind) = (middle, result.1) ∧
      (state.nextInstr = 0#8 →
        Within state middle { machineOf state pc with c := result.2 }) := by
  intro result
  have register : (shiftWord tinstr kind).getLsbD 25 = false := by
    cases kind <;> simp [shiftWord, shiftBase]
  have byRegister : (shiftWord tinstr kind).getLsbD 4 = true := by
    cases kind <;> simp [shiftWord, shiftBase]
  have shifts : (shiftWord tinstr kind).extractLsb' 4 8 ≠ 0#8 := by
    intro none
    have bit := congrArg (fun code => code.getLsbD 0) none
    simp only [BitVec.getLsbD_extractLsb', Nat.add_zero, byRegister] at bit
    cases bit
  have type : shiftType (shiftWord tinstr kind) = kind := by
    cases kind <;> simp [shiftWord, shiftBase, shiftType]
  have right : rhsReg (shiftWord tinstr kind) = (tinstr.extractLsb' 0 3).setWidth 4 := by
    cases kind <;> simp [shiftWord, shiftBase, rhsReg, BitVec.extractLsb'_or]
  have amount : (shiftWord tinstr kind).extractLsb' 8 4 = (tinstr.extractLsb' 3 3).setWidth 4 := by
    cases kind <;> simp [shiftWord, shiftBase, BitVec.extractLsb'_or]
  have read (number : LowReg) : (incpc state).reg (number.setWidth 4) =
      (machineOf state pc).low number := setReg_reg_of_ne (low_ne_pc number)
  have operand : shiftOperand (incpc state) (shiftWord tinstr kind) =
      shiftByRegister kind (((machineOf state pc).low (tinstr.extractLsb' 3 3)).setWidth 8).toNat
        ((machineOf state pc).low (tinstr.extractLsb' 0 3)) := by
    rw [shiftOperand, byRegister, if_pos rfl, type, right, amount, read, read]
  have value := shiftByRegister_value kind
    (((machineOf state pc).low (tinstr.extractLsb' 3 3)).setWidth 8).toNat state.flags.cFlag
    ((machineOf state pc).low (tinstr.extractLsb' 0 3))
  have carry := shiftByRegister_carry kind
    (((machineOf state pc).low (tinstr.extractLsb' 3 3)).setWidth 8).toNat state.flags.cFlag
    ((machineOf state pc).low (tinstr.extractLsb' 0 3))
  simp only [carryRHS, register, Bool.false_eq_true, if_false, dpsRegRHS, shifts, byRegister,
    if_true, operand, value]
  cases shifted : (shiftByRegister kind
      (((machineOf state pc).low (tinstr.extractLsb' 3 3)).setWidth 8).toNat
      ((machineOf state pc).low (tinstr.extractLsb' 0 3))).carry with
  | none =>
      rw [shifted] at carry
      refine ⟨incpc state, rfl, fun ready => ?_⟩
      rw [show result.2 = state.flags.cFlag from carry.symm]
      exact (within_refl ready pc).incpc
  | some flag =>
      rw [shifted] at carry
      refine ⟨assignC (incpc state) flag, rfl, fun ready => ?_⟩
      rw [show result.2 = flag from carry.symm]
      exact (within_refl ready pc).incpc.assignC flag

theorem shows_shiftWord (ready : ThumbReady state pc) (kind : ShiftType) :
    Shows state (executeArm bus traps cops state pc (shiftWord tinstr kind)) pc
      ((machineOf state pc).shifted (tinstr.extractLsb' 0 3)
        (kind.isa.apply (((machineOf state pc).low (tinstr.extractLsb' 3 3)).setWidth 8).toNat
          state.flags.cFlag ((machineOf state pc).low (tinstr.extractLsb' 0 3)))) := by
  obtain ⟨middle, operand, within⟩ := shiftWord_operand tinstr kind pc
  exact shows_logical bus traps cops ready (shiftWord_word tinstr kind) rfl rfl operand
    (within ready.ready)

theorem shows_multiply (ready : ThumbReady state pc)
    (distinct : tinstr.extractLsb' 0 3 ≠ tinstr.extractLsb' 3 3) :
    Shows state (executeArm bus traps cops state pc
        (0xe0100090#32 ||| field tinstr 0 3 16 ||| field tinstr 0 3 8 ||| field tinstr 3 3 0)) pc
      ((machineOf state pc).logical (tinstr.extractLsb' 0 3)
        ((machineOf state pc).low (tinstr.extractLsb' 0 3) *
          (machineOf state pc).low (tinstr.extractLsb' 3 3))) := by
  generalize code : 0xe0100090#32 ||| field tinstr 0 3 16 ||| field tinstr 0 3 8 |||
    field tinstr 3 3 0 = instr
  have always : instr.extractLsb' 28 4 = 0xe#4 := by
    simp [← code, BitVec.extractLsb'_or]
  have data : instr.extractLsb' 25 3 = 0#3 := by
    simp [← code, BitVec.extractLsb'_or]
  have form : instr.extractLsb' 4 4 = 9#4 := by
    simp [← code, BitVec.extractLsb'_or]
  have flags : instr.getLsbD 20 = true := by
    simp [← code]
  have dest : instr.extractLsb' 16 4 = (tinstr.extractLsb' 0 3).setWidth 4 := by
    simp [← code, BitVec.extractLsb'_or]
  have left : instr.extractLsb' 0 4 = (tinstr.extractLsb' 3 3).setWidth 4 := by
    simp [← code, BitVec.extractLsb'_or]
  have right : instr.extractLsb' 8 4 = (tinstr.extractLsb' 0 3).setWidth 4 := by
    simp [← code, BitVec.extractLsb'_or]
  have kind : isMultiply instr = true := by
    simp [isMultiply, ← code, BitVec.extractLsb'_or]
  have short : instr.getLsbD 23 = false := by
    simp [← code]
  have accumulates : instr.getLsbD 21 = false := by
    simp [← code]
  have untransferred : transferOf instr = none := by
    simp [transferOf, extract_upper, data, flags, form]
  have widened : ∀ x y : LowReg, x.setWidth 4 = y.setWidth 4 → x = y := by
    decide
  have apart : ¬(tinstr.extractLsb' 3 3).setWidth 4 = (tinstr.extractLsb' 0 3).setWidth 4 := by
    intro same
    exact distinct (widened _ _ same).symm
  rw [executeArm_always bus traps cops state pc always]
  simp only [mainSwitch, untransferred, data, dataProcessing, kind, if_true, multiplyCase, short,
    multiply, left, dest, right, apart, if_false, low_ne_pc, and_false, flags, accumulates,
    Bool.false_eq_true, BitVec.add_zero]
  rw [BitVec.mul_comm]
  exact (((within_refl ready.ready pc).negZero _).setReg (low_ne_pc _) _).next ready.thumb

theorem negate_word :
    DataWord (0xe2700000#32 ||| field tinstr 0 3 12 ||| field tinstr 3 3 16) .rsb true
      ((tinstr.extractLsb' 0 3).setWidth 4) ((tinstr.extractLsb' 3 3).setWidth 4) := by
  constructor
  · constructor <;> simp [BitVec.extractLsb'_or]
  · simp [opcodeOf, BitVec.extractLsb'_or]
  · simp
  · simp [destReg, BitVec.extractLsb'_or]
  · simp [lhsReg, BitVec.extractLsb'_or]

theorem negate_operand :
    ImmOperand (0xe2700000#32 ||| field tinstr 0 3 12 ||| field tinstr 3 3 16) 0#8 0#4 := by
  constructor
  · simp
  · simp [BitVec.extractLsb'_or]
  · simp [BitVec.extractLsb'_or]

theorem bitVec_cases (code : BitVec 4) :
    code = 0x0#4 ∨ code = 0x1#4 ∨ code = 0x2#4 ∨ code = 0x3#4 ∨ code = 0x4#4 ∨ code = 0x5#4 ∨
      code = 0x6#4 ∨ code = 0x7#4 ∨ code = 0x8#4 ∨ code = 0x9#4 ∨ code = 0xa#4 ∨ code = 0xb#4 ∨
      code = 0xc#4 ∨ code = 0xd#4 ∨ code = 0xe#4 ∨ code = 0xf#4 := by
  revert code
  decide

theorem shows_thumbAlu (ready : ThumbReady state pc) {after : Processor Mem}
    (defined : execAlu (decodeAlu (tinstr.extractLsb' 6 4)) (tinstr.extractLsb' 0 3)
      (tinstr.extractLsb' 3 3) (machineOf state pc) = some after) :
    Shows state (executeArm bus traps cops state pc (thumbAlu tinstr)) pc after := by
  have logical {base : ARMword} (opcode : AluBase base) :=
    shows_aluLogical bus traps cops tinstr opcode ready
  have arithmetic {base : ARMword} (opcode : AluBase base) :=
    shows_aluArithmetic bus traps cops tinstr opcode ready
  have compare {base : ARMword} (opcode : AluBase base) :=
    shows_aluCompare bus traps cops tinstr opcode ready
  have shifted := shows_shiftWord bus traps cops tinstr ready
  unfold thumbAlu
  rcases bitVec_cases (tinstr.extractLsb' 6 4) with
    code | code | code | code | code | code | code | code |
    code | code | code | code | code | code | code | code <;>
    rw [code] at defined ⊢
  · cases defined
    exact logical ⟨rfl, rfl, rfl, rfl⟩ rfl rfl
  · cases defined
    exact logical ⟨rfl, rfl, rfl, rfl⟩ rfl rfl
  · cases defined
    exact shifted .lsl
  · cases defined
    exact shifted .lsr
  · cases defined
    exact shifted .asr
  · cases defined
    exact arithmetic ⟨rfl, rfl, rfl, rfl⟩ rfl rfl
  · cases defined
    exact arithmetic ⟨rfl, rfl, rfl, rfl⟩ rfl rfl
  · cases defined
    exact shifted .ror
  · cases defined
    exact shows_aluTest bus traps cops tinstr ⟨rfl, rfl, rfl, rfl⟩ ready rfl rfl
  · cases defined
    have word := negate_word tinstr
    have shown := shows_arithmetic bus traps cops ready word rfl rfl
      (negate_operand tinstr).plainRHS_byte
    rw [lhsValue_low state word.left pc] at shown
    exact shown
  · cases defined
    exact compare ⟨rfl, rfl, rfl, rfl⟩ rfl rfl
  · cases defined
    exact compare ⟨rfl, rfl, rfl, rfl⟩ rfl rfl
  · cases defined
    exact logical ⟨rfl, rfl, rfl, rfl⟩ rfl rfl
  · change (if tinstr.extractLsb' 0 3 = tinstr.extractLsb' 3 3 then none else some _) =
      some after at defined
    split at defined
    · cases defined
    · cases defined
      exact shows_multiply bus traps cops tinstr ready ‹_›
  · cases defined
    exact logical ⟨rfl, rfl, rfl, rfl⟩ rfl rfl
  · cases defined
    exact logical ⟨rfl, rfl, rfl, rfl⟩ rfl rfl

end Alu

section High

variable {state : ARMulState Mem} {pc : ARMword} (bus : Bus Mem) (traps : Traps Mem)
  (cops : Coprocessors Mem)

def regField (number : RegNum) (place : Nat) : ARMword :=
  field (number.setWidth 16) 0 4 place

theorem extract_number (number : RegNum) : (number.setWidth 16).extractLsb' 0 4 = number := by
  apply BitVec.eq_of_getLsbD_eq
  intro index bound
  simp only [BitVec.getLsbD_extractLsb', BitVec.getLsbD_setWidth]
  grind

theorem regField_eq (number : RegNum) (place : Nat) :
    regField number place = number.setWidth 32 <<< place := by
  rw [regField, field, extract_number]

def highWord (base : ARMword) (rd rm : RegNum) : ARMword :=
  base ||| regField rd 16 ||| regField rd 12 ||| regField rm 0

def highBase : HighOp → ARMword
  | .add => 0xe0800000#32
  | .cmp => 0xe1500000#32
  | .mov => 0xe1a00000#32

def highOpcode : HighOp → Opcode
  | .add => .add
  | .cmp => .cmp
  | .mov => .mov

def highFlags : HighOp → Bool
  | .cmp => true
  | _ => false

theorem highWord_word (op : HighOp) (rd rm : RegNum) :
    DataWord (highWord (highBase op) rd rm) (highOpcode op) (highFlags op) rd rd := by
  unfold highWord regField
  constructor
  · constructor <;> cases op <;> simp [highBase, BitVec.extractLsb'_or]
  · cases op <;> simp [highBase, highOpcode, opcodeOf, BitVec.extractLsb'_or]
  · cases op <;> simp [highBase, highFlags]
  · cases op <;> simp [highBase, destReg, BitVec.extractLsb'_or, extract_number]
  · cases op <;> simp [highBase, lhsReg, BitVec.extractLsb'_or, extract_number]

theorem highWord_operand (op : HighOp) (rd rm : RegNum) :
    RegOperand (highWord (highBase op) rd rm) rm := by
  unfold highWord regField
  constructor
  · cases op <;> simp [highBase]
  · cases op <;> simp [highBase, BitVec.extractLsb'_or]
  · cases op <;> simp [highBase, rhsReg, BitVec.extractLsb'_or, extract_number]

variable (ready : ThumbReady state pc)

include ready

theorem reg_read (number : RegNum) : state.reg number = (machineOf state pc).read number := by
  unfold Processor.read
  split
  · rename_i isPc
    rw [isPc]
    exact ready.ahead
  · rfl

theorem lhsValue_read {instr : ARMword} {rn : RegNum} (left : lhsReg instr = rn)
    (whole : rn = 15#4 → pc.getLsbD 1 = false) :
    lhsValue state instr = (machineOf state pc).read rn := by
  rw [← reg_read ready, lhsValue, left]
  split
  · rename_i isPc
    have low := whole isPc
    have even := ready.aligned
    have aligned : alignPc false (pc + 4#32) = pc + 4#32 := by
      rw [alignPc_eq_self_iff]
      rw [getLsbD_div] at low even
      simp at low even ⊢
      omega
    rw [isPc, ready.ahead]
    exact aligned
  · rfl

theorem shows_highWord {op : HighOp} {rd rm : RegNum} {after : Processor Mem}
    (defined : execHigh op rd rm (machineOf state pc) = some after)
    (whole : op = .add → rd = 15#4 → pc.getLsbD 1 = false) :
    Shows state (executeArm bus traps cops state pc (highWord (highBase op) rd rm)) pc after := by
  have word := highWord_word op rd rm
  have operand : plainRHS state (highWord (highBase op) rd rm) =
      (state, (machineOf state pc).read rm) := by
    rw [← reg_read ready]
    exact (highWord_operand op rd rm).plainRHS
  unfold execHigh at defined
  split at defined
  · cases defined
  · cases op with
    | add =>
        cases defined
        have shown := shows_plain bus traps cops ready word rfl operand
        rw [lhsValue_read ready word.left (whole rfl)] at shown
        exact shown
    | cmp =>
        dsimp only at defined
        split at defined
        · cases defined
        · rename_i notPc
          cases defined
          have left : lhsValue state (highWord (highBase .cmp) rd rm) = state.reg rd := by
            rw [lhsValue, word.left, if_neg notPc]
          have shown := shows_compare bus traps cops ready word rfl rfl notPc operand
          rw [left] at shown
          exact shown
    | mov =>
        cases defined
        exact shows_plain bus traps cops ready word rfl operand

end High

section HighFields

variable (tinstr : Halfword)

theorem high_field (first bit : Nat) :
    field tinstr first 3 0 + (if tinstr.getLsbD bit then 8#32 else 0#32) =
      (tinstr.extractLsb' bit 1 ++ tinstr.extractLsb' first 3).setWidth 32 := by
  have digits : ∀ (top : BitVec 1) (low : BitVec 3),
      low.setWidth 32 <<< 0 + (if top.getLsbD 0 then 8#32 else 0#32) =
        (top ++ low).setWidth 32 := by
    decide
  have top : tinstr.getLsbD bit = (tinstr.extractLsb' bit 1).getLsbD 0 := by
    simp
  rw [field, top, digits]

theorem high_second :
    tinstr.extractLsb' 3 4 = tinstr.extractLsb' 6 1 ++ tinstr.extractLsb' 3 3 := by
  apply BitVec.eq_of_getLsbD_eq
  intro index bound
  simp only [BitVec.getLsbD_extractLsb', BitVec.getLsbD_append]
  grind

theorem high_code :
    tinstr.extractLsb' 6 4 =
      tinstr.extractLsb' 8 2 ++ (tinstr.extractLsb' 7 1 ++ tinstr.extractLsb' 6 1) := by
  apply BitVec.eq_of_getLsbD_eq
  intro index bound
  simp only [BitVec.getLsbD_extractLsb', BitVec.getLsbD_append]
  grind

theorem bit_cases (bit : BitVec 1) : bit = 0#1 ∨ bit = 1#1 := by
  revert bit
  decide

def highBits : HighOp → BitVec 2
  | .add => 0#2
  | .cmp => 1#2
  | .mov => 2#2

def highRd : RegNum :=
  tinstr.extractLsb' 7 1 ++ tinstr.extractLsb' 0 3

theorem thumbHighRs_eq : thumbHighRs tinstr = (tinstr.extractLsb' 3 4).setWidth 32 := by
  rw [high_second]
  exact high_field tinstr 3 6

theorem thumbHigh_eq {op : HighOp} (code : tinstr.extractLsb' 8 2 = highBits op)
    (high : ¬(highRd tinstr < 8#4 ∧ tinstr.extractLsb' 3 4 < 8#4)) (isV5 : Bool) :
    thumbHigh isV5 tinstr =
      some (highWord (highBase op) (highRd tinstr) (tinstr.extractLsb' 3 4)) := by
  have below : ∀ low : BitVec 3, 0#1 ++ low < 8#4 := by decide
  have rd : thumbHighRd tinstr = (highRd tinstr).setWidth 32 := high_field tinstr 0 7
  simp only [thumbHigh, rd, thumbHighRs_eq, highWord, regField_eq, high_code, code,
    BitVec.shiftLeft_zero]
  rw [highRd, high_second] at high
  rcases bit_cases (tinstr.extractLsb' 7 1) with first | first <;>
    rcases bit_cases (tinstr.extractLsb' 6 1) with second | second <;>
    rw [first, second] at high ⊢ <;>
    cases op <;>
    first
    | rfl
    | exact absurd ⟨below _, below _⟩ high

theorem thumbHigh_bx (code : tinstr.extractLsb' 8 2 = 3#2) (stays : tinstr.getLsbD 7 = false)
    (isV5 : Bool) :
    thumbHigh isV5 tinstr = some (0xe12fff10#32 ||| regField (tinstr.extractLsb' 3 4) 0) := by
  have first : tinstr.extractLsb' 7 1 = 0#1 := by
    rcases bit_cases (tinstr.extractLsb' 7 1) with zero | one
    · exact zero
    · have bit := extract_bit one (show 0 < 1 by decide)
      rw [stays] at bit
      cases bit
  rw [thumbHigh, high_code, code, first, regField_eq]
  rcases bit_cases (tinstr.extractLsb' 6 1) with second | second <;>
    rw [second] <;>
    rfl

theorem thumbHigh_blx (code : tinstr.extractLsb' 8 2 = 3#2) (links : tinstr.getLsbD 7 = true) :
    thumbHigh true tinstr = some (0xe1200030#32 ||| regField (tinstr.extractLsb' 3 4) 0) := by
  have first : tinstr.extractLsb' 7 1 = 1#1 := by
    rcases bit_cases (tinstr.extractLsb' 7 1) with zero | one
    · have bit := extract_bit zero (show 0 < 1 by decide)
      rw [links] at bit
      cases bit
    · exact one
  rw [thumbHigh, high_code, code, first, regField_eq, thumbHighRs_eq, BitVec.shiftLeft_zero]
  rcases bit_cases (tinstr.extractLsb' 6 1) with second | second <;>
    rw [second] <;>
    rfl

end HighFields

section Addresses

variable {state : ARMulState Mem} {pc : ARMword} (bus : Bus Mem) (traps : Traps Mem)
  (cops : Coprocessors Mem) (tinstr : Halfword) (ready : ThumbReady state pc)

theorem thumbAddress_word :
    DataWord (thumbAddress tinstr) .add false ((tinstr.extractLsb' 8 3).setWidth 4)
      (if tinstr.getLsbD 11 then 13#4 else 15#4) := by
  unfold thumbAddress
  constructor
  · constructor <;> split <;> simp [BitVec.extractLsb'_or]
  · split <;> simp [opcodeOf, BitVec.extractLsb'_or]
  · split <;> simp
  · split <;> simp [destReg, BitVec.extractLsb'_or]
  · split <;> simp [lhsReg, BitVec.extractLsb'_or]

theorem thumbAddress_operand :
    ImmOperand (thumbAddress tinstr) (tinstr.extractLsb' 0 8) 0xf#4 := by
  unfold thumbAddress
  constructor
  · split <;> simp
  · split <;> simp [BitVec.extractLsb'_or]
  · split <;> simp [BitVec.extractLsb'_or]

def stackWord : ARMword :=
  (if tinstr.getLsbD 7 then 0xe24ddf00#32 else 0xe28ddf00#32) ||| field tinstr 0 7 0

theorem stackWord_word :
    DataWord (stackWord tinstr) (if tinstr.getLsbD 7 then .sub else .add) false 13#4 13#4 := by
  unfold stackWord
  constructor
  · constructor <;> split <;> simp [BitVec.extractLsb'_or]
  · split <;> simp [opcodeOf, BitVec.extractLsb'_or]
  · split <;> simp
  · split <;> simp [destReg, BitVec.extractLsb'_or]
  · split <;> simp [lhsReg, BitVec.extractLsb'_or]

theorem stackWord_operand :
    ImmOperand (stackWord tinstr) ((tinstr.extractLsb' 0 7).setWidth 8) 0xf#4 := by
  unfold stackWord
  constructor
  · split <;> simp
  · split <;> simp [BitVec.extractLsb'_or]
  · split <;> simp [BitVec.extractLsb'_or]

include ready

theorem shows_setLow {instr : ARMword} {opcode : Opcode} {rd : LowReg} {rn : RegNum}
    (word : DataWord instr opcode false (rd.setWidth 4) rn) (writes : opcode.tests = false)
    {rhs : ARMword} (operand : plainRHS state instr = (state, rhs)) :
    Shows state (executeArm bus traps cops state pc instr) pc
      ((machineOf state pc).set (rd.setWidth 4)
        (opcode.result state.flags.cFlag (lhsValue state instr) rhs)).next := by
  have shown := shows_plain bus traps cops ready word writes operand
  rw [Processor.setHigh, if_neg (low_ne_pc rd)] at shown
  exact shown

theorem shows_addPc (relative : tinstr.getLsbD 11 = false) :
    Shows state (executeArm bus traps cops state pc (thumbAddress tinstr)) pc
      ((machineOf state pc).set ((tinstr.extractLsb' 8 3).setWidth 4)
        (((pc + 4#32) &&& ~~~3#32) + (tinstr.extractLsb' 0 8).setWidth 32 <<< 2)).next := by
  have word := thumbAddress_word tinstr
  have left : lhsValue state (thumbAddress tinstr) = (pc + 4#32) &&& ~~~3#32 := by
    rw [lhsValue, word.left, relative, ← ready.ahead]
    rfl
  rw [← left]
  exact shows_setLow bus traps cops ready word rfl (thumbAddress_operand tinstr).plainRHS_words

theorem shows_addSp (stack : tinstr.getLsbD 11 = true) :
    Shows state (executeArm bus traps cops state pc (thumbAddress tinstr)) pc
      ((machineOf state pc).set ((tinstr.extractLsb' 8 3).setWidth 4)
        (state.reg 13#4 + (tinstr.extractLsb' 0 8).setWidth 32 <<< 2)).next := by
  have word := thumbAddress_word tinstr
  have left : lhsValue state (thumbAddress tinstr) = state.reg 13#4 := by
    rw [lhsValue, word.left, stack]
    rfl
  rw [← left]
  exact shows_setLow bus traps cops ready word rfl (thumbAddress_operand tinstr).plainRHS_words

theorem shows_adjustSp :
    let offset : ARMword := (tinstr.extractLsb' 0 7).setWidth 32 <<< 2
    Shows state (executeArm bus traps cops state pc (stackWord tinstr)) pc
      ((machineOf state pc).set 13#4
        (if tinstr.getLsbD 7 then state.reg 13#4 - offset else state.reg 13#4 + offset)).next := by
  intro offset
  have word := stackWord_word tinstr
  have left : lhsValue state (stackWord tinstr) = state.reg 13#4 := by
    rw [lhsValue, word.left]
    rfl
  have widened : ((tinstr.extractLsb' 0 7).setWidth 8).setWidth 32 =
      (tinstr.extractLsb' 0 7).setWidth 32 := by
    apply BitVec.eq_of_getLsbD_eq
    intro index bound
    simp only [BitVec.getLsbD_setWidth]
    grind
  have operand : plainRHS state (stackWord tinstr) = (state, offset) := by
    rw [(stackWord_operand tinstr).plainRHS_words, widened]
  have shown := shows_plain bus traps cops ready word (by split <;> rfl) operand
  rw [left] at shown
  cases down : tinstr.getLsbD 7 with
  | true =>
      rw [down] at shown
      exact shown
  | false =>
      rw [down] at shown
      exact shown

end Addresses

end SkyeyeStarlet
