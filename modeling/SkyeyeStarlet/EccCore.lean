import Mathlib.Data.List.FinRange

/-!
`calc_ecc` of the NAND controller: the error correcting code of a block of 512 bytes.
-/

namespace SkyeyeStarlet

/-- The bytes that one code covers. -/
abbrev EccBlock :=
  Fin 512 → BitVec 8

/-- The `while` loop of `parity`; a byte is shifted out after at most eight rounds. -/
def parityLoop : Nat → BitVec 8 → BitVec 8 → BitVec 8
  | 0, _, y => y
  | rounds + 1, x, y =>
      if x = 0#8 then y else parityLoop rounds (x >>> 1) (y ^^^ (x &&& 1#8))

def parity (x : BitVec 8) : BitVec 8 :=
  parityLoop 8 x 0#8

/-- The accumulators `a[12][2]`. -/
abbrev EccRows :=
  Nat → Bool → BitVec 8

def EccRows.xorAt (a : EccRows) (row : Nat) (column : Bool) (x : BitVec 8) : EccRows :=
  fun other side => if other = row ∧ side = column then a other side ^^^ x else a other side

/-- The inner loop over the bits of the index of a byte. -/
def accumulateByte (a : EccRows) (i : Nat) (x : BitVec 8) : EccRows :=
  (List.range 9).foldl (fun a j => a.xorAt (3 + j) (i.testBit j) x) a

def accumulate (data : EccBlock) : EccRows :=
  (List.finRange 512).foldl (fun a i => accumulateByte a i.val (data i)) fun _ _ => 0#8

/-- The rows of the bits inside a byte, from the sum of all bytes. -/
def withColumns (a : EccRows) : EccRows :=
  let x := a 3 false ^^^ a 3 true
  fun row column =>
    match row, column with
    | 0, false => x &&& 0x55#8
    | 0, true => x &&& 0xaa#8
    | 1, false => x &&& 0x33#8
    | 1, true => x &&& 0xcc#8
    | 2, false => x &&& 0x0f#8
    | 2, true => x &&& 0xf0#8
    | _, _ => a row column

/-- The loop that packs a column of parities, one bit a row. -/
def packColumn (a : EccRows) (column : Bool) : BitVec 32 :=
  (List.range 12).foldl (fun word j => word ||| (a j column).setWidth 32 <<< j) 0#32

/-- The words `a0` and `a1`. -/
def eccWord (data : EccBlock) (column : Bool) : BitVec 32 :=
  packColumn (fun j side => parity (withColumns (accumulate data) j side)) column

/-- The four bytes `ecc[0]` to `ecc[3]`. -/
def calcEcc (data : EccBlock) : Fin 4 → BitVec 8 :=
  fun index =>
    match index with
    | 0 => (eccWord data false).setWidth 8
    | 1 => (eccWord data false >>> 8).setWidth 8
    | 2 => (eccWord data true).setWidth 8
    | 3 => (eccWord data true >>> 8).setWidth 8

end SkyeyeStarlet
