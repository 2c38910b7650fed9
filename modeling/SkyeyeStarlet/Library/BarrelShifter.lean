import Mathlib.Algebra.Group.Int.Defs
import Mathlib.Algebra.Group.Nat.Defs
import Mathlib.Data.Int.Init
import Mathlib.Data.Nat.Init

/-!
The shifts of a barrel shifter as operations on integers, each with the bit that it shifts out
last.  A shift by nothing passes the carry through.
-/

namespace BarrelShifter

variable {width : Nat}

structure Shifted (width : Nat) where
  value : BitVec width
  carry : Bool
  deriving DecidableEq, Repr

/-- A multiplication by `2 ^ amount`; the carry is the bit above the word. -/
def lsl (word : BitVec width) (amount : Nat) (carry : Bool) : Shifted width :=
  if amount = 0 then ⟨word, carry⟩
  else ⟨BitVec.ofNat width (word.toNat * 2 ^ amount), (word.toNat * 2 ^ amount).testBit width⟩

/-- A division by `2 ^ amount`; the carry is the bit below the quotient. -/
def lsr (word : BitVec width) (amount : Nat) (carry : Bool) : Shifted width :=
  if amount = 0 then ⟨word, carry⟩
  else ⟨BitVec.ofNat width (word.toNat / 2 ^ amount), word.toNat / 2 ^ (amount - 1) % 2 = 1⟩

def asr (word : BitVec width) (amount : Nat) (carry : Bool) : Shifted width :=
  if amount = 0 then ⟨word, carry⟩
  else ⟨BitVec.ofInt width (word.toInt / 2 ^ amount), word.toInt / 2 ^ (amount - 1) % 2 = 1⟩

def ror (word : BitVec width) (amount : Nat) (carry : Bool) : Shifted width :=
  if amount = 0 then ⟨word, carry⟩
  else ⟨word.rotateRight amount, (word.rotateRight amount).msb⟩

/-- A rotation by one place of the word with the carry above it. -/
def rrx (word : BitVec width) (carry : Bool) : Shifted width :=
  ⟨BitVec.ofNat width ((carry.toNat * 2 ^ width + word.toNat) / 2), word.toNat % 2 = 1⟩

variable (word : BitVec width) {amount : Nat} (carry : Bool)

theorem lsl_eq (shifts : amount ≠ 0) :
    lsl word amount carry = ⟨word <<< amount, amount ≤ width && word.getLsbD (width - amount)⟩ := by
  have value : BitVec.ofNat width (word.toNat * 2 ^ amount) = word <<< amount := by
    apply BitVec.eq_of_toNat_eq
    rw [BitVec.toNat_ofNat, BitVec.toNat_shiftLeft, Nat.shiftLeft_eq]
  have out : (word.toNat * 2 ^ amount).testBit width =
      (decide (amount ≤ width) && word.getLsbD (width - amount)) :=
    Nat.testBit_mul_two_pow word.toNat width amount
  rw [lsl, if_neg shifts, value, out]

theorem testBit_div (value index : Nat) :
    decide (value / 2 ^ index % 2 = 1) = value.testBit index := by
  exact Nat.testBit_eq_decide_div_mod_eq.symm

theorem lsr_eq (shifts : amount ≠ 0) :
    lsr word amount carry = ⟨word >>> amount, word.getLsbD (amount - 1)⟩ := by
  have value : BitVec.ofNat width (word.toNat / 2 ^ amount) = word >>> amount := by
    apply BitVec.eq_of_toNat_eq
    have bound := (word >>> amount).isLt
    rw [BitVec.toNat_ushiftRight, Nat.shiftRight_eq_div_pow] at bound ⊢
    rw [BitVec.toNat_ofNat, Nat.mod_eq_of_lt bound]
  rw [lsr, if_neg shifts, value, testBit_div]
  rfl

theorem toInt_odd (word : BitVec width) : decide (word.toInt % 2 = 1) = word.getLsbD 0 := by
  cases width with
  | zero =>
      rw [BitVec.eq_nil word]
      rfl
  | succ width =>
      have even : (2 : Nat) ^ (width + 1) = 2 * 2 ^ width := by
        rw [Nat.pow_succ, Nat.mul_comm]
      have low : word.getLsbD 0 = decide (word.toNat % 2 = 1) := Nat.testBit_zero word.toNat
      rw [low, decide_eq_decide, BitVec.toInt_eq_toNat_cond, even]
      split <;> omega

theorem asr_eq (shifts : amount ≠ 0) :
    asr word amount carry =
      ⟨word.sshiftRight amount, (word.sshiftRight (amount - 1)).getLsbD 0⟩ := by
  have quotient (places : Nat) : word.toInt / 2 ^ places = (word.sshiftRight places).toInt := by
    rw [BitVec.toInt_sshiftRight, Int.shiftRight_eq_div_pow]
    norm_cast
  rw [asr, if_neg shifts, quotient, quotient, BitVec.ofInt_toInt, toInt_odd]

theorem pred_mod (positive : 0 < width) (shifts : amount ≠ 0) :
    (amount - 1) % width = if amount % width = 0 then width - 1 else amount % width - 1 := by
  have bound := Nat.mod_lt amount positive
  have divided := Nat.div_add_mod amount width
  split
  · rename_i whole
    obtain ⟨quotient, factor⟩ : ∃ quotient, amount = width * (quotient + 1) := by
      refine ⟨amount / width - 1, ?_⟩
      have rounds : amount / width ≠ 0 := by
        intro none
        rw [whole, none, Nat.mul_zero] at divided
        omega
      rw [Nat.sub_add_cancel (Nat.pos_of_ne_zero rounds)]
      omega
    have behind : amount - 1 = width * quotient + (width - 1) := by
      rw [factor, Nat.mul_succ]
      omega
    rw [behind, Nat.mul_add_mod, Nat.mod_eq_of_lt (by omega)]
  · have behind : amount - 1 = width * (amount / width) + (amount % width - 1) := by
      omega
    rw [behind, Nat.mul_add_mod, Nat.mod_eq_of_lt (by omega)]

theorem ror_eq (positive : 0 < width) (shifts : amount ≠ 0) :
    ror word amount carry = ⟨word.rotateRight amount, word.getLsbD ((amount - 1) % width)⟩ := by
  have top : (word.rotateRight amount).msb = word.getLsbD ((amount - 1) % width) := by
    have bound := Nat.mod_lt amount positive
    have last : width - 1 < width := by
      omega
    rw [BitVec.msb_eq_getLsbD_last, BitVec.getLsbD_rotateRight, pred_mod positive shifts]
    split
    · rename_i whole
      simp [whole, last]
    · have above : ¬width - 1 < width - amount % width := by
        omega
      have place : width - 1 - (width - amount % width) = amount % width - 1 := by
        omega
      simp [above, place, last]
  rw [ror, if_neg shifts, top]

theorem rrx_eq (positive : 0 < width) :
    rrx word carry =
      ⟨(word >>> 1) ||| ((BitVec.ofBool carry).setWidth width <<< (width - 1)),
        word.getLsbD 0⟩ := by
  obtain ⟨places, rfl⟩ : ∃ places, width = places + 1 := ⟨width - 1, by omega⟩
  have low : word.getLsbD 0 = decide (word.toNat % 2 = 1) := Nat.testBit_zero word.toNat
  have value : BitVec.ofNat (places + 1) ((carry.toNat * 2 ^ (places + 1) + word.toNat) / 2) =
      (word >>> 1) ||| ((BitVec.ofBool carry).setWidth (places + 1) <<< places) := by
    apply BitVec.eq_of_getLsbD_eq
    intro index bound
    have joined := Nat.testBit_two_pow_mul_add carry.toNat word.isLt (index + 1)
    rw [Nat.mul_comm] at joined
    rw [BitVec.getLsbD_ofNat, Nat.testBit_div_two, joined]
    simp only [BitVec.getLsbD_or, BitVec.getLsbD_ushiftRight, BitVec.getLsbD_shiftLeft,
      BitVec.getLsbD_setWidth]
    by_cases below : index < places
    · have next : word.toNat.testBit (index + 1) = word.getLsbD (1 + index) := by
        rw [Nat.add_comm 1 index]
        rfl
      simp [below, bound, next]
    · have top : index = places := by
        omega
      subst top
      have beyond : word.getLsbD (1 + index) = false := BitVec.getLsbD_of_ge _ _ (by omega)
      rw [beyond, Bool.false_or]
      cases carry with
      | false => simp
      | true => simp
  rw [rrx, low, value]
  rfl

end BarrelShifter
