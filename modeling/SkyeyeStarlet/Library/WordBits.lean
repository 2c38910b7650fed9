import Mathlib.Tactic.IntervalCases

/-! Words compared through a mask and put together from bytes, read off bit by bit. -/

namespace WordBits

variable {width : Nat}

theorem getLsbD_eq_of_and_eq {left right mask : BitVec width}
    (same : left &&& mask = right &&& mask) {index : Nat} (kept : mask.getLsbD index = true) :
    left.getLsbD index = right.getLsbD index := by
  have atIndex := congrArg (fun word => word.getLsbD index) same
  simpa [kept] using atIndex

theorem and_eq_of_and_eq_of_subset {left right mask narrow : BitVec width}
    (same : left &&& mask = right &&& mask) (subset : mask &&& narrow = narrow) :
    left &&& narrow = right &&& narrow := by
  calc
    left &&& narrow = (left &&& mask) &&& narrow := by rw [BitVec.and_assoc, subset]
    _ = (right &&& mask) &&& narrow := by rw [same]
    _ = right &&& narrow := by rw [BitVec.and_assoc, subset]

theorem and_three_cases (word : BitVec 32) :
    word &&& 3#32 = 0#32 ∨ word &&& 3#32 = 1#32 ∨ word &&& 3#32 = 2#32 ∨ word &&& 3#32 = 3#32 := by
  have value : (word &&& 3#32).toNat = word.toNat % 4 := by
    rw [BitVec.toNat_and]
    exact Nat.and_two_pow_sub_one_eq_mod word.toNat 2
  have bound : word.toNat % 4 < 4 := Nat.mod_lt _ (by omega)
  simp only [← BitVec.toNat_inj, value, BitVec.toNat_ofNat]
  omega

theorem and_bit_eq_zero (word : BitVec width) (index : Nat) :
    word &&& BitVec.twoPow width index = BitVec.ofNat width 0 ↔ word.getLsbD index = false := by
  rw [BitVec.and_twoPow]
  constructor
  · intro cleared
    by_cases raised : word.getLsbD index = true
    · rw [if_pos raised] at cleared
      have bound : index < width := BitVec.lt_of_getLsbD raised
      have zero := congrArg (fun bits => bits.getLsbD index) cleared
      simp [bound] at zero
    · simpa using raised
  · intro cleared
    simp [cleared]

theorem and_bit_bne_zero (word : BitVec width) (index : Nat) :
    (word &&& BitVec.twoPow width index != BitVec.ofNat width 0) = word.getLsbD index := by
  rw [Bool.eq_iff_iff, bne_iff_ne, ne_eq, and_bit_eq_zero, Bool.not_eq_false]

theorem and_not_eq_self_iff (word low : BitVec width) :
    word &&& ~~~low = word ↔ word &&& low = BitVec.ofNat width 0 := by
  constructor
  · intro clear
    rw [← clear, BitVec.and_assoc]
    apply BitVec.eq_of_getLsbD_eq
    intro index bound
    simp [bound]
  · intro clear
    apply BitVec.eq_of_getLsbD_eq
    intro index bound
    have bit := congrArg (fun bits => bits.getLsbD index) clear
    simp only [BitVec.getLsbD_and, BitVec.getLsbD_zero] at bit
    rw [BitVec.getLsbD_and, BitVec.getLsbD_not]
    cases raised : word.getLsbD index with
    | false => simp
    | true => simp_all

theorem and_low_eq_zero_iff (word : BitVec width) (count : Nat) (bound : count < width) :
    word &&& BitVec.ofNat width (2 ^ count - 1) = BitVec.ofNat width 0 ↔
      word.toNat % 2 ^ count = 0 := by
  have small : 2 ^ count - 1 < 2 ^ width := by
    have larger : 2 ^ count < 2 ^ width := Nat.pow_lt_pow_right (by omega) bound
    exact Nat.lt_of_le_of_lt (Nat.sub_le _ _) larger
  rw [← BitVec.toNat_inj, BitVec.toNat_and, BitVec.toNat_ofNat, BitVec.toNat_ofNat,
    Nat.mod_eq_of_lt small, Nat.and_two_pow_sub_one_eq_mod, Nat.zero_mod]

theorem bytes_append (word : BitVec 32) :
    word.extractLsb' 24 8 ++ word.extractLsb' 16 8 ++ word.extractLsb' 8 8 ++
      word.extractLsb' 0 8 = word := by
  apply BitVec.eq_of_getLsbD_eq
  intro bit bound
  simp only [BitVec.getLsbD_append, BitVec.getLsbD_extractLsb']
  split_ifs with first second third
  · rw [decide_eq_true first, Bool.true_and, Nat.zero_add]
  · rw [decide_eq_true second, Bool.true_and, show 8 + (bit - 8) = bit by omega]
  · rw [decide_eq_true third, Bool.true_and, show 16 + (bit - 8 - 8) = bit by omega]
  · rw [decide_eq_true (by omega), Bool.true_and, show 24 + (bit - 8 - 8 - 8) = bit by omega]

theorem append_bytes {word : BitVec 32} {first second third last : BitVec 8}
    (whole : word = first ++ second ++ third ++ last) :
    word.extractLsb' 24 8 = first ∧ word.extractLsb' 16 8 = second ∧
      word.extractLsb' 8 8 = third ∧ word.extractLsb' 0 8 = last := by
  have bits (start index : Nat) (bound : index < 8) :
      (word.extractLsb' start 8).getLsbD index = word.getLsbD (start + index) := by
    rw [BitVec.getLsbD_extractLsb', decide_eq_true bound, Bool.true_and]
  subst whole
  refine ⟨?_, ?_, ?_, ?_⟩ <;> apply BitVec.eq_of_getLsbD_eq <;> intro index bound <;>
    rw [bits _ _ bound] <;> simp only [BitVec.getLsbD_append]
  · rw [if_neg (by omega), if_neg (by omega), if_neg (by omega)]
    congr 1
    omega
  · rw [if_neg (by omega), if_neg (by omega), if_pos (by omega)]
    congr 1
    omega
  · rw [if_neg (by omega), if_pos (by omega)]
    congr 1
    omega
  · rw [if_pos (by omega), Nat.zero_add]

theorem append_halves {word : BitVec 32} {first second : BitVec 8}
    (whole : word = (first ++ second).setWidth 32) :
    word.extractLsb' 8 8 = first ∧ word.extractLsb' 0 8 = second := by
  subst whole
  rw [BitVec.extractLsb'_setWidth_of_le (by decide), BitVec.extractLsb'_setWidth_of_le (by decide)]
  exact ⟨BitVec.extractLsb'_append_eq_left, BitVec.extractLsb'_append_eq_right⟩

theorem sub_eq_signExtend {bits : Nat} (positive : 0 < bits) (bound : bits < 32)
    {word : BitVec 32} (sign : word.getLsbD (bits - 1) = true) :
    (word &&& BitVec.ofNat 32 (2 ^ bits - 1)) - BitVec.ofNat 32 (2 ^ bits) =
      (word.setWidth bits).signExtend 32 := by
  have power : 2 ^ bits < 2 ^ 32 := Nat.pow_lt_pow_right (by decide) bound
  have some : 0 < 2 ^ bits := Nat.two_pow_pos bits
  have low := Nat.mod_lt word.toNat some
  have top : (word.setWidth bits).msb = true := by
    rw [BitVec.msb_eq_getLsbD_last, BitVec.getLsbD_setWidth, sign]
    simp only [Bool.and_true, decide_eq_true_eq]
    omega
  have mask : (word &&& BitVec.ofNat 32 (2 ^ bits - 1)).toNat = word.toNat % 2 ^ bits := by
    rw [BitVec.toNat_and, BitVec.toNat_ofNat, Nat.mod_eq_of_lt (by omega),
      Nat.and_two_pow_sub_one_eq_mod]
  apply BitVec.eq_of_toNat_eq
  rw [BitVec.toNat_sub, mask, BitVec.toNat_ofNat, Nat.mod_eq_of_lt power, BitVec.toNat_signExtend,
    top, BitVec.toNat_setWidth, BitVec.toNat_setWidth, if_pos rfl,
    Nat.mod_eq_of_lt (show word.toNat % 2 ^ bits < 2 ^ 32 by omega), Nat.mod_eq_of_lt (by omega)]
  omega

end WordBits
