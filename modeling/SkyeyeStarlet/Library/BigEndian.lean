import Mathlib.Algebra.Group.Nat.Defs
import Mathlib.Data.List.Basic
import Mathlib.Data.Nat.Init

/-!
Numbers as strings of bytes, the most significant byte first.
-/

namespace BigEndian

def encode : Nat → Nat → List (BitVec 8)
  | 0, _ => []
  | width + 1, value => BitVec.ofNat 8 (value / 256 ^ width) :: encode width value

def decode (bytes : List (BitVec 8)) : Nat :=
  bytes.foldl (fun value byte => 256 * value + byte.toNat) 0

@[simp] theorem length_encode (width value : Nat) : (encode width value).length = width := by
  induction width with
  | zero => rfl
  | succ width ih => rw [encode, List.length_cons, ih]

theorem foldl_encode (width value carry : Nat) :
    (encode width value).foldl (fun value byte => 256 * value + byte.toNat) carry =
      256 ^ width * carry + value % 256 ^ width := by
  induction width generalizing carry with
  | zero => simp [encode, Nat.mod_one]
  | succ width ih =>
      have digit : (BitVec.ofNat 8 (value / 256 ^ width)).toNat = value / 256 ^ width % 256 := by
        rw [BitVec.toNat_ofNat]
      rw [encode, List.foldl_cons, ih, digit, Nat.mod_pow_succ, Nat.mul_add, Nat.pow_succ,
        Nat.mul_assoc, Nat.add_assoc, Nat.add_comm (value % 256 ^ width)]

theorem decode_encode (width value : Nat) : decode (encode width value) = value % 256 ^ width := by
  rw [decode, foldl_encode, Nat.mul_zero, Nat.zero_add]

theorem decode_encode_of_lt {width value : Nat} (bound : value < 256 ^ width) :
    decode (encode width value) = value := by
  rw [decode_encode, Nat.mod_eq_of_lt bound]

def encodeAll (width : Nat) (values : List Nat) : List (BitVec 8) :=
  values.flatMap (encode width)

@[simp] theorem length_encodeAll (width : Nat) (values : List Nat) :
    (encodeAll width values).length = width * values.length := by
  induction values with
  | nil => rfl
  | cons value rest ih =>
      rw [encodeAll, List.flatMap_cons, List.length_append, length_encode, ← encodeAll, ih,
        List.length_cons, Nat.mul_succ, Nat.add_comm]

end BigEndian
