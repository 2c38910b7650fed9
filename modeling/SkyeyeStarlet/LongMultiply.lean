import Mathlib.Tactic.Ring
import SkyeyeStarlet.Library.DoubleWord
import SkyeyeStarlet.Pipeline
import SkyeyeStarlet.ThumbFormats

/-!
The long multiplications of `armemu.c`: the product that `Multiply64` puts together from half
words, and the sum of `MultiplyAdd64`, are exact.
-/

namespace SkyeyeStarlet

variable {Mem : Type}

section Product

theorem add32_eq (x y : ARMword) : add32 x y = (x + y, DoubleWord.carry x y) := by
  have sum := DoubleWord.toNat_add_carry x y
  have bound := y.isLt
  have carried : (if x + y = x then y != 0#32 else decide (x + y < x)) = DoubleWord.carry x y := by
    rw [Bool.eq_iff_iff]
    split
    · rename_i same
      rw [same] at sum
      simp only [DoubleWord.carry, same, bne_iff_ne, ne_eq, ← BitVec.toNat_inj,
        BitVec.toNat_ofNat, decide_eq_true_eq]
      omega
    · simp only [DoubleWord.carry, BitVec.lt_def]
  exact congrArg (Prod.mk (x + y)) carried

theorem toNat_mul_halves {x y : ARMword} {left right : Nat} (isLeft : x.toNat = left)
    (isRight : y.toNat = right) (leftHalf : left < 65536) (rightHalf : right < 65536) :
    (x * y).toNat = left * right ∧ (x * y).toNat ≤ 65535 * 65535 := by
  have bound : left * right ≤ 65535 * 65535 := Nat.mul_le_mul (by omega) (by omega)
  have value : (x * y).toNat = left * right := by
    rw [BitVec.toNat_mul, isLeft, isRight]
    exact Nat.mod_eq_of_lt (by omega)
  rw [value]
  exact ⟨rfl, bound⟩

theorem low_half (word : ARMword) : (word &&& 0xffff#32).toNat = word.toNat % 65536 := by
  rw [BitVec.toNat_and]
  exact Nat.and_two_pow_sub_one_eq_mod word.toNat 16

theorem high_half (word : ARMword) : ((word >>> 16) &&& 0xffff#32).toNat = word.toNat / 65536 := by
  have bound := word.isLt
  rw [low_half, BitVec.toNat_ushiftRight, Nat.shiftRight_eq_div_pow]
  exact Nat.mod_eq_of_lt (by omega)

theorem raised_half (word : ARMword) : (word <<< 16).toNat = word.toNat % 65536 * 65536 := by
  rw [BitVec.toNat_shiftLeft, Nat.shiftLeft_eq]
  omega

theorem product64_unsigned (rm rs : ARMword) :
    let (hi, lo) := product64 false rm rs
    (hi ++ lo).toNat = rm.toNat * rs.toNat := by
  have bound := rm.isLt
  have bound' := rs.isLt
  have split : rm.toNat * rs.toNat =
      (rs.toNat % 65536) * (rm.toNat % 65536) +
        65536 * ((rs.toNat % 65536) * (rm.toNat / 65536) +
          (rs.toNat / 65536) * (rm.toNat % 65536)) +
        4294967296 * ((rs.toNat / 65536) * (rm.toNat / 65536)) := by
    have left := Nat.div_add_mod rm.toNat 65536
    have right := Nat.div_add_mod rs.toNat 65536
    calc
      rm.toNat * rs.toNat =
          (65536 * (rm.toNat / 65536) + rm.toNat % 65536) *
            (65536 * (rs.toNat / 65536) + rs.toNat % 65536) := by rw [left, right]
      _ = _ := by ring
  obtain ⟨lo, loMost⟩ := toNat_mul_halves (low_half rs) (low_half rm) (by omega) (by omega)
  obtain ⟨mid1, mid1Most⟩ := toNat_mul_halves (low_half rs) (high_half rm) (by omega) (by omega)
  obtain ⟨mid2, mid2Most⟩ := toNat_mul_halves (high_half rs) (low_half rm) (by omega) (by omega)
  obtain ⟨hi, hiMost⟩ := toNat_mul_halves (high_half rs) (high_half rm) (by omega) (by omega)
  simp only [product64, Bool.false_and, Bool.false_eq_true, if_false, add32_eq]
  rw [DoubleWord.toNat_append, split, ← lo, ← mid1, ← mid2, ← hi]
  generalize (rs &&& 0xffff#32) * (rm &&& 0xffff#32) = word0 at loMost ⊢
  generalize (rs &&& 0xffff#32) * ((rm >>> 16) &&& 0xffff#32) = word1 at mid1Most ⊢
  generalize ((rs >>> 16) &&& 0xffff#32) * (rm &&& 0xffff#32) = word2 at mid2Most ⊢
  generalize ((rs >>> 16) &&& 0xffff#32) * ((rm >>> 16) &&& 0xffff#32) = word3 at hiMost ⊢
  have first := DoubleWord.toNat_add_carry word0 (word1 <<< 16)
  have second := DoubleWord.toNat_add_carry (word0 + word1 <<< 16) (word2 <<< 16)
  simp only [raised_half] at first second
  simp only [BitVec.toNat_add, flagWord_toNat, high_half] at first second ⊢
  have carry1 := Bool.toNat_le (DoubleWord.carry word0 (word1 <<< 16))
  have carry2 := Bool.toNat_le (DoubleWord.carry (word0 + word1 <<< 16) (word2 <<< 16))
  omega

def magnitude (word : ARMword) : ARMword :=
  if word.getLsbD 31 then -word else word

theorem magnitude_value (word : ARMword) :
    word.toInt =
      if word.getLsbD 31 then -((magnitude word).toNat : Int) else (magnitude word).toNat := by
  have bound := word.isLt
  rw [toInt_word, magnitude, getLsbD_top]
  by_cases negative : 2 ^ 31 ≤ word.toNat
  · rw [if_pos negative, decide_eq_true negative, if_pos rfl, if_pos rfl, BitVec.toNat_neg]
    omega
  · rw [if_neg negative, decide_eq_false negative]
    rfl

def negated64 (pair : ARMword × ARMword) : ARMword × ARMword :=
  if ~~~pair.2 = 0xffffffff#32 then (~~~pair.1 + 1#32, 0#32) else (~~~pair.1, ~~~pair.2 + 1#32)

theorem negated64_value (pair : ARMword × ARMword) :
    (negated64 pair).1 ++ (negated64 pair).2 = -(pair.1 ++ pair.2) := by
  have ones : BitVec.allOnes 32 = 0xffffffff#32 := rfl
  rw [DoubleWord.neg_append (by decide), negated64, ones]
  split <;> rfl

theorem product64_signed (rm rs : ARMword) :
    product64 true rm rs =
      if rm.getLsbD 31 ^^ rs.getLsbD 31 then
        negated64 (product64 false (magnitude rm) (magnitude rs))
      else product64 false (magnitude rm) (magnitude rs) := by
  simp only [product64, negated64, magnitude, Bool.true_and, Bool.false_and, Bool.false_eq_true,
    if_false, BitVec.getLsbD_xor]

def longProduct (signed : Bool) (rm rs : ARMword) : Int :=
  if signed then rm.toInt * rs.toInt else rm.toNat * rs.toNat

theorem product64_exact (signed : Bool) (rm rs : ARMword) :
    (product64 signed rm rs).1 ++ (product64 signed rm rs).2 =
      BitVec.ofInt 64 (longProduct signed rm rs) := by
  have unsigned (rm rs : ARMword) :
      (product64 false rm rs).1 ++ (product64 false rm rs).2 =
        BitVec.ofInt 64 (rm.toNat * rs.toNat) := by
    apply BitVec.eq_of_toNat_eq
    have value := product64_unsigned rm rs
    dsimp only at value
    rw [value, ← Int.natCast_mul, BitVec.ofInt_natCast, BitVec.toNat_ofNat]
    have bound := ((product64 false rm rs).1 ++ (product64 false rm rs).2).isLt
    rw [value] at bound
    exact (Nat.mod_eq_of_lt bound).symm
  cases signed with
  | false => exact unsigned rm rs
  | true =>
      have product : longProduct true rm rs = rm.toInt * rs.toInt := rfl
      rw [product64_signed, product, magnitude_value rm, magnitude_value rs]
      cases rm.getLsbD 31 <;> cases rs.getLsbD 31
      · exact unsigned _ _
      · rw [if_pos (show (false ^^ true) = true from rfl), negated64_value, unsigned,
          ← BitVec.ofInt_neg]
        simp
      · rw [if_pos (show (true ^^ false) = true from rfl), negated64_value, unsigned,
          ← BitVec.ofInt_neg]
        simp
      · rw [if_neg (show ¬(true ^^ true) = true by decide), unsigned]
        simp

end Product

section Instructions

def longHi (instr : ARMword) : RegNum :=
  instr.extractLsb' 16 4

def longLo (instr : ARMword) : RegNum :=
  instr.extractLsb' 12 4

structure LongMultiplyWord (instr : ARMword) : Prop where
  group : instr.extractLsb' 23 5 = 1#5
  code : instr.extractLsb' 4 4 = 9#4
  legal : multiply64Legal instr = true

/-- The product of the operands, with the accumulator that bit 21 adds, modulo `2 ^ 64`. -/
def longResult (state : ARMulState Mem) (instr : ARMword) : BitVec 64 :=
  let product := longProduct (instr.getLsbD 22) (state.reg (instr.extractLsb' 0 4))
    (state.reg (instr.extractLsb' 8 4))
  let accumulator := state.reg (longHi instr) ++ state.reg (longLo instr)
  BitVec.ofInt 64 (product + if instr.getLsbD 21 then (accumulator.toNat : Int) else 0)

def setLong (state : ARMulState Mem) (instr : ARMword) (result : BitVec 64) : ARMulState Mem :=
  (state.setReg (longLo instr) (result.extractLsb' 0 32)).setReg (longHi instr)
    (result.extractLsb' 32 32)

def longFlags (flags : Flags) (result : BitVec 64) : Flags :=
  { flags with nFlag := result.msb, zFlag := result == 0#64 }

variable (state : ARMulState Mem) {instr : ARMword}

theorem LongMultiplyWord.apart (word : LongMultiplyWord instr) : longHi instr ≠ longLo instr := by
  have legal := word.legal
  simp only [multiply64Legal, Bool.and_eq_true, bne_iff_ne, ne_eq] at legal
  exact legal.1.1.2

theorem setLong_append (hi lo : ARMword) :
    setLong state instr (hi ++ lo) = (state.setReg (longLo instr) lo).setReg (longHi instr) hi := by
  rw [setLong, BitVec.extractLsb'_append_eq_right, BitVec.extractLsb'_append_eq_left]

theorem setLong_setLong (word : LongMultiplyWord instr) (first second : BitVec 64) :
    setLong (setLong state instr first) instr second = setLong state instr second := by
  simp only [setLong, ARMulState.setReg, Registers.set, Function.update_comm word.apart,
    Function.update_idem]

theorem setLong_hi (result : BitVec 64) :
    (setLong state instr result).reg (longHi instr) = result.extractLsb' 32 32 := by
  exact setReg_reg_self _ _ _

theorem setLong_lo (word : LongMultiplyWord instr) (result : BitVec 64) :
    (setLong state instr result).reg (longLo instr) = result.extractLsb' 0 32 := by
  rw [setLong, setReg_reg_of_ne word.apart.symm]
  exact setReg_reg_self _ _ _

theorem scc64_eq (hi lo : ARMword) :
    scc64 state instr hi lo =
      if instr.getLsbD 20 then { state with flags := longFlags state.flags (hi ++ lo) }
      else state := by
  have negative : (hi ||| (lo >>> 16) ||| (lo &&& 0xffff#32)).getLsbD 31 = (hi ++ lo).msb := by
    have masked : (lo &&& 0xffff#32).getLsbD 31 = false := by
      rw [BitVec.getLsbD_and]
      exact Bool.and_false _
    have shifted : (lo >>> 16).getLsbD 31 = false := by
      rw [BitVec.getLsbD_ushiftRight]
      exact BitVec.getLsbD_of_ge _ _ (by decide)
    rw [BitVec.getLsbD_or, BitVec.getLsbD_or, masked, shifted, BitVec.msb_append]
    simp [BitVec.msb_eq_getLsbD_last]
  have zero : ((hi ||| (lo >>> 16) ||| (lo &&& 0xffff#32)) == 0#32) = ((hi ++ lo) == 0#64) := by
    have whole := DoubleWord.toNat_append hi lo
    have high : (lo >>> 16).toNat = lo.toNat / 65536 := by
      rw [BitVec.toNat_ushiftRight, Nat.shiftRight_eq_div_pow]
    rw [Bool.eq_iff_iff, beq_iff_eq, beq_iff_eq, BitVec.or_eq_zero_iff, BitVec.or_eq_zero_iff]
    simp only [← BitVec.toNat_inj, whole, low_half, high, BitVec.toNat_ofNat]
    omega
  rw [scc64, negZero, negative, zero]
  rfl

theorem multiplied64_eq (word : LongMultiplyWord instr) :
    let product := BitVec.ofInt 64 (longProduct (instr.getLsbD 22)
      (state.reg (instr.extractLsb' 0 4)) (state.reg (instr.extractLsb' 8 4)))
    multiplied64 state instr =
      (setLong state instr product, product.extractLsb' 32 32, product.extractLsb' 0 32) := by
  intro product
  have exact : (product64 (instr.getLsbD 22) (state.reg (instr.extractLsb' 0 4))
        (state.reg (instr.extractLsb' 8 4))).1 ++
      (product64 (instr.getLsbD 22) (state.reg (instr.extractLsb' 0 4))
        (state.reg (instr.extractLsb' 8 4))).2 = product := product64_exact _ _ _
  rw [multiplied64, if_pos word.legal, ← exact, setLong_append, BitVec.extractLsb'_append_eq_right,
    BitVec.extractLsb'_append_eq_left]
  rfl

theorem extract_join (word : BitVec 64) :
    word.extractLsb' 32 32 ++ word.extractLsb' 0 32 = word := by
  exact BitVec.extractLsb'_append_extractLsb'

/-- The state behind a long multiplication: the result in its registers, with its flags in
the S forms. -/
def longAfter (state : ARMulState Mem) (instr : ARMword) (result : BitVec 64) : ARMulState Mem :=
  if instr.getLsbD 20 then
    { setLong state instr result with flags := longFlags state.flags result }
  else setLong state instr result

theorem multiply64_eq (word : LongMultiplyWord instr) (plain : instr.getLsbD 21 = false) :
    multiply64 state instr = longAfter state instr (longResult state instr) := by
  rw [multiply64, multiplied64_eq state word]
  dsimp only
  rw [scc64_eq, extract_join, longResult, plain]
  simp only [Bool.false_eq_true, if_false, Int.add_zero]
  rfl

theorem multiplyAdd64_eq (word : LongMultiplyWord instr) (accumulates : instr.getLsbD 21 = true) :
    multiplyAdd64 state instr = longAfter state instr (longResult state instr) := by
  have result : longResult state instr =
      (state.reg (longHi instr) ++ state.reg (longLo instr)) +
        BitVec.ofInt 64 (longProduct (instr.getLsbD 22) (state.reg (instr.extractLsb' 0 4))
          (state.reg (instr.extractLsb' 8 4))) := by
    rw [longResult, accumulates, if_pos rfl, BitVec.ofInt_add, BitVec.ofInt_natCast,
      BitVec.ofNat_toNat, BitVec.setWidth_eq, BitVec.add_comm]
  rw [multiplyAdd64, multiplied64_eq state word, result]
  generalize BitVec.ofInt 64 _ = product
  have carryWord (carry : Bool) : flagWord carry = BitVec.ofNat 32 carry.toNat := by
    cases carry <;> rfl
  have low :
      (setLong state instr product).reg (instr.extractLsb' 12 4) = product.extractLsb' 0 32 :=
    setLong_lo state word product
  have high : (setLong state instr product).reg (instr.extractLsb' 16 4) =
      product.extractLsb' 32 32 := setLong_hi state product
  have sum := DoubleWord.append_add (state.reg (longHi instr)) (state.reg (longLo instr))
    (product.extractLsb' 32 32) (product.extractLsb' 0 32)
  rw [extract_join] at sum
  have moved (hi lo : ARMword) :
      ((setLong state instr product).setReg (instr.extractLsb' 12 4) lo).setReg
        (instr.extractLsb' 16 4) hi = setLong state instr (hi ++ lo) :=
    (setLong_append _ hi lo).symm.trans (setLong_setLong state word _ _)
  dsimp only
  rw [sum, add32_eq, low, high, carryWord, moved, scc64_eq]
  rfl

theorem mainSwitch_longMultiply (bus : Bus Mem) (traps : Traps Mem) (cops : Coprocessors Mem)
    (pc : ARMword) (word : LongMultiplyWord instr) :
    mainSwitch bus traps cops state pc instr =
      if instr.getLsbD 21 then multiplyAdd64 state instr else multiply64 state instr := by
  have bit (index : Nat) (bound : index < 5) :
      instr.getLsbD (23 + index) = (1#5).getLsbD index := by
    rw [← word.group, BitVec.getLsbD_extractLsb']
    simp [bound]
  have bit23 : instr.getLsbD 23 = true := bit 0 (by decide)
  have bit24 : instr.getLsbD 24 = false := bit 1 (by decide)
  have bit25 : instr.getLsbD 25 = false := bit 2 (by decide)
  have group : instr.extractLsb' 25 3 = 0#3 := by
    apply BitVec.eq_of_getLsbD_eq
    intro index bound
    have zeros : ∀ index < 3, (1#5).getLsbD (2 + index) = (0#3).getLsbD index := by decide
    rw [BitVec.getLsbD_extractLsb', ← zeros index bound, ← bit (2 + index) (by omega)]
    simp [bound, ← Nat.add_assoc]
  have swaps : ¬(instr.extractLsb' 20 8 = 0x10#8 ∨ instr.extractLsb' 20 8 = 0x14#8) := by
    intro swap
    have field : (instr.extractLsb' 20 8).getLsbD 4 = instr.getLsbD 24 := by
      rw [BitVec.getLsbD_extractLsb']
      rfl
    rcases swap with swap | swap
    · rw [swap, bit24] at field
      exact absurd field (by decide)
    · rw [swap, bit24] at field
      exact absurd field (by decide)
  rw [not_or] at swaps
  have transfer : transferOf instr = none := by
    simp only [transferOf, extract_upper, group, word.code, swaps.1, swaps.2, false_and, if_false]
    cases instr.getLsbD 20 <;> rfl
  have multiplies : isMultiply instr = true := by
    rw [isMultiply, bit23, bit24, bit25, word.code]
    rfl
  unfold mainSwitch
  rw [transfer, group]
  dsimp only
  rw [dataProcessing, if_pos multiplies, multiplyCase, bit23]
  cases instr.getLsbD 21 <;> rfl

/-- The result is exact in the registers of the destination, N and Z of the S forms are those
of the double word, and nothing else changes. -/
theorem long_multiply_exact (bus : Bus Mem) (traps : Traps Mem) (cops : Coprocessors Mem)
    (pc : ARMword) (word : LongMultiplyWord instr)
    (conditional : instr.extractLsb' 28 4 ≠ 0xf#4)
    (passes : conditionHolds state.flags (instr.extractLsb' 28 4) = true) :
    executeArm bus traps cops state pc instr =
      longAfter state instr (longResult state instr) := by
  rw [executeArm, if_neg conditional, if_pos passes, mainSwitch_longMultiply _ _ _ _ _ word]
  split
  · rename_i accumulates
    exact multiplyAdd64_eq state word accumulates
  · rename_i plain
    exact multiply64_eq state word (Bool.not_eq_true _ ▸ plain)

/-- `smlals r3, r2, r1, r2` with the least word as both operands: the second operand is also
the low register of the accumulator. -/
theorem long_multiply_exact_smlals :
    let state := ((coreAt svc32mode false 0#32 ()).setReg 1#4 0x80000000#32).setReg 2#4
      0x80000000#32
    let after := executeArm (constantBus 0#32) quietTraps noCoprocessors state 0#32 0xe0f32291#32
    after.reg 3#4 = 0x40000000#32 ∧ after.reg 2#4 = 0x80000000#32 ∧ after.flags.nFlag = false ∧
      after.flags.zFlag = false := by
  intro state after
  have word : LongMultiplyWord 0xe0f32291#32 := ⟨by decide, by decide, by decide⟩
  have exact := long_multiply_exact state (constantBus 0#32) quietTraps noCoprocessors 0#32 word
    (by decide) (by decide)
  rw [show after = _ from exact]
  decide

end Instructions

end SkyeyeStarlet
