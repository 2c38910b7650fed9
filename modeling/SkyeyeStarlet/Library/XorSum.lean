import Mathlib.Data.List.Nodup

/-!
Exclusive or over a list of words.  A sum of this kind is linear in its terms and a
single nonzero term is its value, whatever the order of the list.
-/

namespace XorSum

universe u

variable {Item : Type u} {width : Nat}

def xorSum (items : List Item) (value : Item → BitVec width) : BitVec width :=
  items.foldl (fun sum item => sum ^^^ value item) (BitVec.ofNat width 0)

theorem foldl_start (items : List Item) (value : Item → BitVec width) (start : BitVec width) :
    items.foldl (fun sum item => sum ^^^ value item) start = start ^^^ xorSum items value := by
  induction items generalizing start with
  | nil => exact BitVec.xor_zero.symm
  | cons item rest ih =>
      rw [xorSum, List.foldl_cons, List.foldl_cons, ih, ih (BitVec.ofNat width 0 ^^^ value item),
        BitVec.zero_xor, BitVec.xor_assoc]

theorem xorSum_cons (item : Item) (rest : List Item) (value : Item → BitVec width) :
    xorSum (item :: rest) value = value item ^^^ xorSum rest value := by
  rw [xorSum, List.foldl_cons, foldl_start, BitVec.zero_xor]

theorem xorSum_xor (items : List Item) (first second : Item → BitVec width) :
    xorSum items (fun item => first item ^^^ second item) =
      xorSum items first ^^^ xorSum items second := by
  induction items with
  | nil => exact BitVec.xor_zero.symm
  | cons item rest ih =>
      rw [xorSum_cons, xorSum_cons, xorSum_cons, ih]
      ac_rfl

theorem xorSum_zero (items : List Item) {value : Item → BitVec width}
    (zero : ∀ item ∈ items, value item = BitVec.ofNat width 0) :
    xorSum items value = BitVec.ofNat width 0 := by
  induction items with
  | nil => rfl
  | cons item rest ih =>
      rw [xorSum_cons, zero item List.mem_cons_self, BitVec.zero_xor]
      exact ih fun other member => zero other (List.mem_cons_of_mem item member)

theorem xorSum_single {items : List Item} (nodup : items.Nodup) {single : Item}
    (member : single ∈ items) {value : Item → BitVec width}
    (zero : ∀ item, item ≠ single → value item = BitVec.ofNat width 0) :
    xorSum items value = value single := by
  induction items with
  | nil => exact absurd member List.not_mem_nil
  | cons item rest ih =>
      obtain ⟨fresh, nodup⟩ := List.nodup_cons.mp nodup
      rw [xorSum_cons]
      rcases List.mem_cons.mp member with rfl | later
      · rw [xorSum_zero rest, BitVec.xor_zero]
        rintro other present
        exact zero other fun same => fresh (same ▸ present)
      · rw [zero item fun same => fresh (same ▸ later), BitVec.zero_xor]
        exact ih nodup later

end XorSum
