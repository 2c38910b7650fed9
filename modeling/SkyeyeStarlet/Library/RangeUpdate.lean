import Mathlib.Algebra.Group.Nat.Defs
import Mathlib.Data.List.Range
import Mathlib.Logic.Function.Basic

/-!
A loop that rewrites consecutive cells of an address space whose addresses wrap around.
It changes the cells of its range, each from its old value, and no other.
-/

namespace RangeUpdate

universe u

variable {width : Nat} {Value : Type u}

/-- `for (i = 0; i < count; i++) space[base + i] = change(i, space[base + i])`. -/
@[irreducible] def updateRange (space : BitVec width → Value) (base : BitVec width)
    (change : Nat → Value → Value) (count : Nat) : BitVec width → Value :=
  (List.range count).foldl
    (fun space i =>
      Function.update space (base + BitVec.ofNat width i)
        (change i (space (base + BitVec.ofNat width i))))
    space

theorem updateRange_zero (space : BitVec width → Value) (base : BitVec width)
    (change : Nat → Value → Value) : updateRange space base change 0 = space := by
  rw [updateRange]
  rfl

theorem updateRange_cons (space : BitVec width → Value) (base : BitVec width)
    (change : Nat → Value → Value) (count : Nat) :
    updateRange space base change (count + 1) =
      updateRange (Function.update space base (change 0 (space base))) (base + BitVec.ofNat width 1)
        (fun i => change (i + 1)) count := by
  have first : base + BitVec.ofNat width 0 = base := BitVec.add_zero base
  rw [updateRange, updateRange, List.range_succ_eq_map, List.foldl_cons, List.foldl_map, first]
  congr 1
  funext cells i
  have next : base + BitVec.ofNat width (i + 1) =
      base + BitVec.ofNat width 1 + BitVec.ofNat width i := by
    rw [Nat.add_comm, BitVec.ofNat_add, BitVec.add_assoc]
  rw [← next]

theorem updateRange_succ (space : BitVec width → Value) (base : BitVec width)
    (change : Nat → Value → Value) (count : Nat) :
    updateRange space base change (count + 1) =
      Function.update (updateRange space base change count) (base + BitVec.ofNat width count)
        (change count (updateRange space base change count (base + BitVec.ofNat width count))) := by
  rw [updateRange, List.range_succ, List.foldl_append, updateRange]
  rfl

theorem updateRange_add (space : BitVec width → Value) (base : BitVec width)
    (change : Nat → Value → Value) (first second : Nat) :
    updateRange space base change (first + second) =
      updateRange (updateRange space base change first) (base + BitVec.ofNat width first)
        (fun i => change (first + i)) second := by
  induction second with
  | zero => rw [updateRange_zero, Nat.add_zero]
  | succ second ih =>
      have cell : base + BitVec.ofNat width (first + second) =
          base + BitVec.ofNat width first + BitVec.ofNat width second := by
        rw [BitVec.ofNat_add, BitVec.add_assoc]
      rw [← Nat.add_assoc, updateRange_succ, updateRange_succ, ih, cell]

theorem updateRange_congr (space : BitVec width → Value) (base : BitVec width)
    {change other : Nat → Value → Value} {count : Nat}
    (same : ∀ i, i < count → ∀ old, change i old = other i old) :
    updateRange space base change count = updateRange space base other count := by
  induction count with
  | zero => rw [updateRange_zero, updateRange_zero]
  | succ count ih =>
      have ih := ih fun i bound => same i (by omega)
      rw [updateRange_succ, updateRange_succ, ih, same count (by omega)]

theorem sub_eq_iff (cell base : BitVec width) {index : Nat} (bound : index < 2 ^ width) :
    (cell - base).toNat = index ↔ cell = base + BitVec.ofNat width index := by
  constructor
  · intro offset
    have word : BitVec.ofNat width index = cell - base := by
      rw [← offset, BitVec.ofNat_toNat, BitVec.setWidth_eq]
    rw [word, BitVec.add_comm, BitVec.sub_add_cancel]
  · rintro rfl
    rw [BitVec.add_comm, BitVec.add_sub_cancel, BitVec.toNat_ofNat, Nat.mod_eq_of_lt bound]

theorem updateRange_apply (space : BitVec width → Value) (base : BitVec width)
    (change : Nat → Value → Value) {count : Nat} (bound : count ≤ 2 ^ width)
    (cell : BitVec width) :
    updateRange space base change count cell =
      if (cell - base).toNat < count then change (cell - base).toNat (space cell)
      else space cell := by
  induction count with
  | zero => rw [if_neg (Nat.not_lt_zero _), updateRange_zero]
  | succ count ih =>
      have ih := ih (by omega)
      have here := sub_eq_iff cell base (show count < 2 ^ width by omega)
      rw [updateRange_succ]
      by_cases same : cell = base + BitVec.ofNat width count
      · have offset := here.mpr same
        rw [if_neg (by omega)] at ih
        rw [same, Function.update_self, ← same, ih, offset, if_pos (Nat.lt_succ_self count)]
      · have other : (cell - base).toNat ≠ count := fun offset => same (here.mp offset)
        rw [Function.update_of_ne same, ih]
        by_cases inside : (cell - base).toNat < count
        · rw [if_pos inside, if_pos (by omega)]
        · rw [if_neg inside, if_neg (by omega)]

end RangeUpdate
