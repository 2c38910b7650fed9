import Mathlib.Tactic.IntervalCases
import SkyeyeStarlet.EccCore
import SkyeyeStarlet.Library.XorSum

/-!
The code of `calc_ecc` locates one wrong bit and detects two.  Every bit of the code is the
parity of a set of data bits, so the code is linear, and a single data bit appears in one
of the two words of every row: the words are its position and the complement of it.
-/

namespace SkyeyeStarlet

section Parity

def oddBits (x : BitVec 8) : Bool :=
  ((x.getLsbD 0 ^^ x.getLsbD 1) ^^ (x.getLsbD 2 ^^ x.getLsbD 3)) ^^
    ((x.getLsbD 4 ^^ x.getLsbD 5) ^^ (x.getLsbD 6 ^^ x.getLsbD 7))

theorem parity_eq (x : BitVec 8) : parity x = (BitVec.ofBool (oddBits x)).setWidth 8 := by
  revert x
  decide +kernel

theorem parityLoop_enough (x : BitVec 8) (rounds : Nat) :
    parityLoop (8 + rounds) x 0#8 = parity x := by
  have stop (rounds : Nat) (y : BitVec 8) : parityLoop rounds 0#8 y = y := by
    cases rounds with
    | zero => rfl
    | succ rounds => rw [parityLoop, if_pos rfl]
  have extend (more : Nat) (rounds : Nat) (x y : BitVec 8) (small : x.toNat < 2 ^ rounds) :
      parityLoop (rounds + more) x y = parityLoop rounds x y := by
    induction rounds generalizing x y with
    | zero =>
        have zero : x = 0#8 := BitVec.eq_of_toNat_eq (by simpa using small)
        rw [zero, stop, stop]
    | succ rounds ih =>
        rw [Nat.succ_add, parityLoop, parityLoop]
        split
        · rfl
        · apply ih
          rw [BitVec.toNat_ushiftRight, Nat.shiftRight_eq_div_pow]
          rw [Nat.pow_succ] at small
          omega
  exact extend rounds 8 x 0#8 x.isLt

theorem oddBits_xor (x y : BitVec 8) : oddBits (x ^^^ y) = (oddBits x ^^ oddBits y) := by
  have swap : ∀ a b c d : Bool, ((a ^^ b) ^^ (c ^^ d)) = ((a ^^ c) ^^ (b ^^ d)) := by decide
  simp only [oddBits, BitVec.getLsbD_xor]
  rw [swap (x.getLsbD 0), swap (x.getLsbD 2), swap (x.getLsbD 4), swap (x.getLsbD 6),
    swap (x.getLsbD 0 ^^ x.getLsbD 1), swap (x.getLsbD 4 ^^ x.getLsbD 5), swap]

end Parity

section Rows

def rowPart (data : EccBlock) (row : Nat) (column : Bool) (i : Fin 512) : BitVec 8 :=
  if 3 ≤ row ∧ row < 12 ∧ i.val.testBit (row - 3) = column then data i else 0#8

theorem accumulateByte_row (a : EccRows) (i : Nat) (x : BitVec 8) (row : Nat) (column : Bool) :
    accumulateByte a i x row column =
      a row column ^^^
        if 3 ≤ row ∧ row < 12 ∧ i.testBit (row - 3) = column then x else 0#8 := by
  have rounds (count : Nat) :
      (List.range count).foldl (fun a j => a.xorAt (3 + j) (i.testBit j) x) a row column =
        a row column ^^^
          if 3 ≤ row ∧ row < 3 + count ∧ i.testBit (row - 3) = column then x else 0#8 := by
    induction count with
    | zero => rw [if_neg (by omega), BitVec.xor_zero]; rfl
    | succ count ih =>
        rw [List.range_succ, List.foldl_append, List.foldl_cons, List.foldl_nil,
          EccRows.xorAt, ih]
        by_cases here : row = 3 + count
        · subst here
          rw [if_neg (show ¬(3 ≤ 3 + count ∧ 3 + count < 3 + count ∧ _) by omega),
            BitVec.xor_zero, Nat.add_sub_cancel_left]
          by_cases side : i.testBit count = column
          · rw [if_pos ⟨rfl, side.symm⟩, if_pos ⟨by omega, by omega, side⟩]
          · rw [if_neg (fun same => side same.2.symm), if_neg (fun same => side same.2.2),
              BitVec.xor_zero]
        · rw [if_neg (fun same => here same.1)]
          congr 1
          apply if_congr
          · constructor
            · rintro ⟨low, high, side⟩
              exact ⟨low, by omega, side⟩
            · rintro ⟨low, high, side⟩
              exact ⟨low, by omega, side⟩
          · rfl
          · rfl
  exact rounds 9

theorem accumulate_row (data : EccBlock) (row : Nat) (column : Bool) :
    accumulate data row column =
      XorSum.xorSum (List.finRange 512) (rowPart data row column) := by
  have items (list : List (Fin 512)) (a : EccRows) :
      list.foldl (fun a i => accumulateByte a i.val (data i)) a row column =
        list.foldl (fun sum i => sum ^^^ rowPart data row column i) (a row column) := by
    induction list generalizing a with
    | nil => rfl
    | cons i rest ih =>
        rw [List.foldl_cons, List.foldl_cons, ih, accumulateByte_row]
        rfl
  exact items _ _

def EccBlock.xor (data errors : EccBlock) : EccBlock :=
  fun i => data i ^^^ errors i

theorem accumulate_xor (data errors : EccBlock) (row : Nat) (column : Bool) :
    accumulate (data.xor errors) row column =
      accumulate data row column ^^^ accumulate errors row column := by
  rw [accumulate_row, accumulate_row, accumulate_row, ← XorSum.xorSum_xor]
  congr 1
  funext i
  unfold rowPart EccBlock.xor
  split
  · rfl
  · exact BitVec.xor_zero.symm

theorem withColumns_xor (a b : EccRows) (row : Nat) (column : Bool) :
    withColumns (fun row column => a row column ^^^ b row column) row column =
      withColumns a row column ^^^ withColumns b row column := by
  have masked (mask : BitVec 8) :
      (a 3 false ^^^ b 3 false ^^^ (a 3 true ^^^ b 3 true)) &&& mask =
        ((a 3 false ^^^ a 3 true) &&& mask) ^^^ ((b 3 false ^^^ b 3 true) &&& mask) := by
    apply BitVec.eq_of_getLsbD_eq
    intro index _
    simp only [BitVec.getLsbD_and, BitVec.getLsbD_xor]
    cases mask.getLsbD index with
    | false => simp
    | true => simp [Bool.xor_left_comm]
  unfold withColumns
  dsimp only
  split
  all_goals first | exact masked _ | rfl

end Rows

section Code

def eccBit (data : EccBlock) (row : Nat) (column : Bool) : Bool :=
  oddBits (withColumns (accumulate data) row column)

theorem eccWord_bit (data : EccBlock) (column : Bool) (row : Nat) :
    (eccWord data column).getLsbD row = (decide (row < 12) && eccBit data row column) := by
  have rounds (count : Nat) (fits : count ≤ 12) :
      ((List.range count).foldl (fun word j =>
        word ||| (parity (withColumns (accumulate data) j column)).setWidth 32 <<< j)
          0#32).getLsbD row = (decide (row < count) && eccBit data row column) := by
    induction count with
    | zero => simp
    | succ count ih =>
        rw [List.range_succ, List.foldl_append, List.foldl_cons, List.foldl_nil,
          BitVec.getLsbD_or, ih (by omega), parity_eq, BitVec.getLsbD_shiftLeft]
        rcases Nat.lt_trichotomy row count with below | rfl | above
        · simp [below, Nat.lt_succ_of_lt below]
        · simp [eccBit, show row < 32 by omega]
        · simp [show ¬row < count by omega, show ¬row < count + 1 by omega,
            show 1 ≤ row - count by omega]
  exact rounds 12 (by omega)

def eccHalf (ecc : Fin 4 → BitVec 8) (column : Bool) : BitVec 16 :=
  if column then ecc 3 ++ ecc 2 else ecc 1 ++ ecc 0

theorem eccHalf_calcEcc (data : EccBlock) (column : Bool) :
    eccHalf (calcEcc data) column = (eccWord data column).setWidth 16 := by
  have bytes (word : BitVec 32) :
      (word >>> 8).setWidth 8 ++ word.setWidth 8 = word.setWidth 16 := by
    apply BitVec.eq_of_getLsbD_eq
    intro index bound
    rw [BitVec.getLsbD_append]
    by_cases low : index < 8
    · simp [low, bound]
    · simp [low, bound, show index - 8 < 8 by omega, show 8 + (index - 8) = index by omega]
  cases column
  · exact bytes _
  · exact bytes _

theorem eccHalf_bit (data : EccBlock) (column : Bool) (row : Nat) :
    (eccHalf (calcEcc data) column).getLsbD row =
      (decide (row < 12) && eccBit data row column) := by
  rw [eccHalf_calcEcc, BitVec.getLsbD_setWidth, eccWord_bit]
  by_cases low : row < 12
  · simp [show row < 16 by omega]
  · simp [low]

theorem eccBit_xor (data errors : EccBlock) (row : Nat) (column : Bool) :
    eccBit (data.xor errors) row column =
      (eccBit data row column ^^ eccBit errors row column) := by
  have rows : accumulate (data.xor errors) =
      fun row column => accumulate data row column ^^^ accumulate errors row column := by
    funext row column
    exact accumulate_xor data errors row column
  rw [eccBit, rows, withColumns_xor, oddBits_xor]
  rfl

theorem eccWord_xor (data errors : EccBlock) (column : Bool) :
    eccWord (data.xor errors) column = eccWord data column ^^^ eccWord errors column := by
  apply BitVec.eq_of_getLsbD_eq
  intro index bound
  rw [BitVec.getLsbD_xor, eccWord_bit, eccWord_bit, eccWord_bit, eccBit_xor]
  cases decide (index < 12) <;> rfl

theorem calcEcc_xor (data errors : EccBlock) (index : Fin 4) :
    calcEcc (data.xor errors) index = calcEcc data index ^^^ calcEcc errors index := by
  unfold calcEcc
  rw [eccWord_xor, eccWord_xor]
  simp only [BitVec.ushiftRight_xor_distrib, BitVec.setWidth_xor]
  split <;> rfl

end Code

section Positions

def oneBit (i : Fin 512) (b : Fin 8) : EccBlock :=
  fun other => if other = i then 1#8 <<< b.val else 0#8

theorem accumulate_oneBit (i : Fin 512) (b : Fin 8) (row : Nat) (column : Bool) :
    accumulate (oneBit i b) row column =
      if 3 ≤ row ∧ row < 12 ∧ i.val.testBit (row - 3) = column then 1#8 <<< b.val else 0#8 := by
  rw [accumulate_row, XorSum.xorSum_single (List.nodup_finRange 512) (List.mem_finRange i)]
  · rw [rowPart, oneBit, if_pos rfl]
  · intro other different
    rw [rowPart, oneBit, if_neg different, ite_self]

def columnMask : Nat → Bool → BitVec 8
  | 0, false => 0x55#8
  | 0, true => 0xaa#8
  | 1, false => 0x33#8
  | 1, true => 0xcc#8
  | _, false => 0x0f#8
  | _, true => 0xf0#8

theorem withColumns_low (a : EccRows) {row : Nat} (low : row < 3) (column : Bool) :
    withColumns a row column = (a 3 false ^^^ a 3 true) &&& columnMask row column := by
  interval_cases row <;> cases column <;> rfl

theorem eccBit_oneBit (i : Fin 512) (b : Fin 8) {row : Nat} (bound : row < 12) (column : Bool) :
    eccBit (oneBit i b) row column = ((i.val * 8 + b.val).testBit row == column) := by
  have odd : ∀ b : Fin 8, oddBits (1#8 <<< b.val) = true := by decide
  have inner : ∀ (b : Fin 8) (row : Fin 3) (column : Bool),
      oddBits (1#8 <<< b.val &&& columnMask row column) = (b.val.testBit row == column) := by
    decide
  have sum : accumulate (oneBit i b) 3 false ^^^ accumulate (oneBit i b) 3 true =
      1#8 <<< b.val := by
    rw [accumulate_oneBit, accumulate_oneBit]
    cases i.val.testBit (3 - 3) <;> simp
  have position : (i.val * 8 + b.val).testBit row =
      if row < 3 then b.val.testBit row else i.val.testBit (row - 3) := by
    rw [Nat.mul_comm i.val 8]
    exact Nat.testBit_two_pow_mul_add i.val (show b.val < 2 ^ 3 from b.isLt) row
  rw [position]
  by_cases low : row < 3
  · rw [if_pos low, eccBit, withColumns_low _ low, sum]
    exact inner b ⟨row, low⟩ column
  · rw [if_neg low, eccBit]
    have kept : withColumns (accumulate (oneBit i b)) row column =
        accumulate (oneBit i b) row column := by
      unfold withColumns
      split
      all_goals first | omega | rfl
    rw [kept, accumulate_oneBit]
    by_cases side : i.val.testBit (row - 3) = column
    · rw [if_pos ⟨by omega, bound, side⟩, odd b, side]
      simp
    · rw [if_neg (fun same => side same.2.2), beq_false_of_ne side]
      rfl

def bitPosition (place : Fin 512 × Fin 8) : Nat :=
  place.1.val * 8 + place.2.val

theorem bitPosition_lt (place : Fin 512 × Fin 8) : bitPosition place < 2 ^ 12 := by
  have byte := place.1.isLt
  have bit := place.2.isLt
  unfold bitPosition
  omega

theorem bitPosition_injective {place other : Fin 512 × Fin 8}
    (same : bitPosition place = bitPosition other) : place = other := by
  have bit := place.2.isLt
  have bit' := other.2.isLt
  unfold bitPosition at same
  refine Prod.ext (Fin.ext ?_) (Fin.ext ?_)
  · omega
  · omega

theorem eccHalf_oneBit (place : Fin 512 × Fin 8) (column : Bool) (row : Nat) :
    (eccHalf (calcEcc (oneBit place.1 place.2)) column).getLsbD row =
      (decide (row < 12) && ((bitPosition place).testBit row == column)) := by
  rw [eccHalf_bit]
  by_cases low : row < 12
  · rw [eccBit_oneBit place.1 place.2 low]
    rfl
  · simp [low]

theorem eccHalf_oneBit_true (place : Fin 512 × Fin 8) :
    (eccHalf (calcEcc (oneBit place.1 place.2)) true).toNat = bitPosition place := by
  apply Nat.eq_of_testBit_eq
  intro row
  rw [BitVec.testBit_toNat, eccHalf_oneBit, beq_true]
  by_cases low : row < 12
  · simp [low]
  · have small : bitPosition place < 2 ^ row :=
      Nat.lt_of_lt_of_le (bitPosition_lt place) (Nat.pow_le_pow_right (by omega) (by omega))
    simp [low, Nat.testBit_lt_two_pow small]

theorem eccHalf_oneBit_false (place : Fin 512 × Fin 8) :
    (eccHalf (calcEcc (oneBit place.1 place.2)) false).toNat = 4095 - bitPosition place := by
  have complement : 4095 - bitPosition place = 2 ^ 12 - (bitPosition place + 1) := by omega
  apply Nat.eq_of_testBit_eq
  intro row
  rw [BitVec.testBit_toNat, eccHalf_oneBit, complement,
    Nat.testBit_two_pow_sub_succ (bitPosition_lt place), beq_false]

end Positions

section Errors

/-- The bit at a place is not the same in the two blocks. -/
def Differ (data data' : EccBlock) (place : Fin 512 × Fin 8) : Prop :=
  (data place.1).getLsbD place.2.val ≠ (data' place.1).getLsbD place.2.val

theorem oneBit_bit (place : Fin 512 × Fin 8) (i : Fin 512) (b : Fin 8) :
    (oneBit place.1 place.2 i).getLsbD b.val = decide ((i, b) = place) := by
  have shifted : ∀ b other : Fin 8, (1#8 <<< other.val).getLsbD b.val = decide (b = other) := by
    decide
  obtain ⟨byte, bit⟩ := place
  unfold oneBit
  by_cases same : i = byte
  · rw [if_pos same, shifted]
    simp [same]
  · rw [if_neg same]
    simp [same]

theorem xor_eq_of_bits {data data' errors : EccBlock}
    (bits : ∀ i (b : Fin 8), (errors i).getLsbD b.val = true ↔ Differ data data' (i, b)) :
    data.xor data' = errors := by
  funext i
  apply BitVec.eq_of_getLsbD_eq
  intro index bound
  have bit := bits i ⟨index, bound⟩
  unfold Differ at bit
  rw [EccBlock.xor, BitVec.getLsbD_xor, Bool.eq_iff_iff, bit]
  simp

theorem eccHalf_xor (data data' : EccBlock) (column : Bool) :
    eccHalf (calcEcc (data.xor data')) column =
      eccHalf (calcEcc data) column ^^^ eccHalf (calcEcc data') column := by
  rw [eccHalf_calcEcc, eccHalf_calcEcc, eccHalf_calcEcc, eccWord_xor, BitVec.setWidth_xor]

theorem xor_of_one {data data' : EccBlock} {place : Fin 512 × Fin 8}
    (only : ∀ other, Differ data data' other ↔ other = place) :
    data.xor data' = oneBit place.1 place.2 := by
  apply xor_eq_of_bits
  intro i b
  rw [oneBit_bit, only, decide_eq_true_iff]

theorem xor_of_two {data data' : EccBlock} {place place' : Fin 512 × Fin 8}
    (different : place ≠ place')
    (only : ∀ other, Differ data data' other ↔ other = place ∨ other = place') :
    data.xor data' = (oneBit place.1 place.2).xor (oneBit place'.1 place'.2) := by
  apply xor_eq_of_bits
  intro i b
  rw [only, EccBlock.xor, BitVec.getLsbD_xor, oneBit_bit, oneBit_bit]
  by_cases first : (i, b) = place
  · have second : (i, b) ≠ place' := fun same => different (first.symm.trans same)
    simp [first, first ▸ second]
  · simp [first]

/-- The code locates every single error and detects every double error, and is linear. -/
theorem calcEcc_locates (data data' : EccBlock) :
    let s0 := eccHalf (calcEcc data) false ^^^ eccHalf (calcEcc data') false
    let s1 := eccHalf (calcEcc data) true ^^^ eccHalf (calcEcc data') true
    (∀ (i : Fin 512) (b : Fin 8), (∀ other, Differ data data' other ↔ other = (i, b)) →
        s1.toNat = i.val * 8 + b.val ∧ s0.toNat = 4095 - (i.val * 8 + b.val)) ∧
      (∀ place place' : Fin 512 × Fin 8, place ≠ place' →
        (∀ other, Differ data data' other ↔ other = place ∨ other = place') →
        s0 ^^^ s1 ≠ 4095#16 ∧ (s0, s1) ≠ (0#16, 0#16)) ∧
      ∀ index, calcEcc (data.xor data') index = calcEcc data index ^^^ calcEcc data' index := by
  intro s0 s1
  have half0 : s0 = eccHalf (calcEcc (data.xor data')) false := (eccHalf_xor data data' false).symm
  have half1 : s1 = eccHalf (calcEcc (data.xor data')) true := (eccHalf_xor data data' true).symm
  refine ⟨?_, ?_, calcEcc_xor data data'⟩
  · intro i b only
    rw [half0, half1, xor_of_one only]
    exact ⟨eccHalf_oneBit_true (i, b), eccHalf_oneBit_false (i, b)⟩
  · intro place place' different only
    rw [xor_of_two different only, eccHalf_xor] at half0 half1
    constructor
    · intro all
      have bit := congrArg (BitVec.getLsbD · 0) all
      rw [half0, half1] at bit
      simp only [BitVec.getLsbD_xor, eccHalf_oneBit] at bit
      revert bit
      cases (bitPosition place).testBit 0 <;> cases (bitPosition place').testBit 0 <;> decide
    · intro clean
      have same : eccHalf (calcEcc (oneBit place.1 place.2)) true =
          eccHalf (calcEcc (oneBit place'.1 place'.2)) true :=
        BitVec.xor_eq_zero_iff.mp (half1.symm.trans (congrArg Prod.snd clean))
      apply different
      apply bitPosition_injective
      rw [← eccHalf_oneBit_true, ← eccHalf_oneBit_true, same]

end Errors

end SkyeyeStarlet
