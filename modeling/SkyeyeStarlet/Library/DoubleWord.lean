import Mathlib.Algebra.Group.Nat.Defs
import Mathlib.Data.Nat.Init

/-!
Numbers of two words: their sums and negations, built from operations on the words and the
carry between them.
-/

namespace DoubleWord

variable {width : Nat}

theorem toNat_append (hi lo : BitVec width) :
    (hi ++ lo).toNat = hi.toNat * 2 ^ width + lo.toNat := by
  rw [BitVec.toNat_append, ← Nat.shiftLeft_add_eq_or_of_lt lo.isLt, Nat.shiftLeft_eq]

/-- The carry of an addition, read off its result. -/
def carry (x y : BitVec width) : Bool :=
  (x + y).toNat < x.toNat

theorem toNat_add_carry (x y : BitVec width) :
    (x + y).toNat + 2 ^ width * (carry x y).toNat = x.toNat + y.toNat := by
  have left := x.isLt
  have right := y.isLt
  rw [carry, BitVec.toNat_add]
  by_cases fits : x.toNat + y.toNat < 2 ^ width
  · have value : (x.toNat + y.toNat) % 2 ^ width = x.toNat + y.toNat := Nat.mod_eq_of_lt fits
    have none : decide (x.toNat + y.toNat < x.toNat) = false := by
      rw [decide_eq_false_iff_not]
      omega
    rw [value, none, Bool.toNat_false, Nat.mul_zero, Nat.add_zero]
  · have value : (x.toNat + y.toNat) % 2 ^ width = x.toNat + y.toNat - 2 ^ width := by
      rw [Nat.mod_eq_sub_mod (by omega), Nat.mod_eq_of_lt (by omega)]
    have some : decide (x.toNat + y.toNat - 2 ^ width < x.toNat) = true := by
      rw [decide_eq_true_eq]
      omega
    rw [value, some, Bool.toNat_true, Nat.mul_one]
    omega

theorem append_add (hi lo high low : BitVec width) :
    (hi ++ lo) + (high ++ low) =
      (hi + high + BitVec.ofNat width (carry lo low).toNat) ++ (lo + low) := by
  apply BitVec.eq_of_toNat_eq
  have sum := toNat_add_carry lo low
  have bound := (lo + low).isLt
  rw [BitVec.toNat_add, toNat_append, toNat_append, toNat_append, BitVec.toNat_add (hi + high),
    BitVec.toNat_add hi, BitVec.toNat_ofNat, Nat.add_mod_mod, Nat.mod_add_mod]
  have whole : hi.toNat * 2 ^ width + lo.toNat + (high.toNat * 2 ^ width + low.toNat) =
      (hi.toNat + high.toNat + (carry lo low).toNat) * 2 ^ width + (lo + low).toNat := by
    rw [Nat.add_mul, Nat.add_mul, Nat.mul_comm (carry lo low).toNat]
    omega
  have lower : (((hi.toNat + high.toNat + (carry lo low).toNat) * 2 ^ width + (lo + low).toNat) %
      2 ^ width) = (lo + low).toNat := by
    rw [Nat.mul_add_mod', Nat.mod_eq_of_lt bound]
  have upper : (((hi.toNat + high.toNat + (carry lo low).toNat) * 2 ^ width + (lo + low).toNat) /
      2 ^ width) = hi.toNat + high.toNat + (carry lo low).toNat := by
    rw [Nat.mul_comm, Nat.mul_add_div (Nat.two_pow_pos width), Nat.div_eq_of_lt bound, Nat.add_zero]
  rw [whole, Nat.pow_add, Nat.mod_mul, lower, upper, Nat.add_comm, Nat.mul_comm]

theorem carry_not_one (positive : 0 < width) (word : BitVec width) :
    carry (~~~word) 1#(width) = decide (~~~word = BitVec.allOnes width) := by
  have sum := toNat_add_carry (~~~word) 1#(width)
  have bound := (~~~word + 1#(width)).isLt
  have less := (~~~word).isLt
  have one : (1#(width)).toNat = 1 := Nat.mod_eq_of_lt (Nat.one_lt_two_pow (Nat.ne_of_gt positive))
  rw [one] at sum
  rw [Bool.eq_iff_iff, decide_eq_true_eq, ← BitVec.toNat_inj, BitVec.toNat_allOnes]
  cases carried : carry (~~~word) 1#(width) with
  | true =>
      rw [carried, Bool.toNat_true, Nat.mul_one] at sum
      simp only [true_iff]
      omega
  | false =>
      rw [carried, Bool.toNat_false, Nat.mul_zero, Nat.add_zero] at sum
      simp only [Bool.false_eq_true, false_iff]
      omega

theorem neg_append (positive : 0 < width) (hi lo : BitVec width) :
    -(hi ++ lo) =
      if ~~~lo = BitVec.allOnes width then (~~~hi + 1#(width)) ++ 0#(width)
      else ~~~hi ++ (~~~lo + 1#(width)) := by
  have one : 1#(width + width) = 0#(width) ++ 1#(width) := by
    apply BitVec.eq_of_toNat_eq
    have bound := Nat.one_lt_two_pow (Nat.ne_of_gt positive)
    have wide := Nat.one_lt_two_pow (show width + width ≠ 0 by omega)
    rw [toNat_append, BitVec.toNat_ofNat, BitVec.toNat_ofNat, BitVec.toNat_ofNat,
      Nat.mod_eq_of_lt bound, Nat.mod_eq_of_lt wide, Nat.zero_mod, Nat.zero_mul, Nat.zero_add]
  rw [BitVec.neg_eq_not_add, BitVec.not_append, one, append_add, carry_not_one positive,
    BitVec.add_zero]
  split
  · rename_i ones
    have wraps : BitVec.allOnes width + 1#(width) = 0#(width) := by
      rw [← BitVec.neg_one_eq_allOnes, BitVec.add_comm, BitVec.add_right_neg]
    rw [ones, wraps]
    simp
  · rename_i other
    simp [other]

end DoubleWord
