import Mathlib.Data.Nat.Init
import SkyeyeStarlet.Library.BlockList

/-!
`MemMgr` of `ipc/ipc.py`, the heap from which the client takes the blocks and buffers of its
requests.  A method returns its result or what it raises, and the object as it leaves it.
-/

namespace SkyeyeStarlet

open BlockList

inductive PyError where
  | exception (text : String)
  | valueError (text : String)
  | typeError
  | indexError
  | structError
  deriving DecidableEq, Repr

/-- `count` and the sizes in `blocks` are in units of `block` bytes. -/
structure MemMgr where
  offset : Nat
  count : Nat
  blocks : List Block
  block : Nat
  deriving DecidableEq, Repr

/-- `MemMgr.__init__`, for an end that is not below the start. -/
def MemMgr.init (start stop block : Nat) : Except PyError MemMgr :=
  if start % block ≠ 0 then .error (.valueError "heap start not aligned")
  else if stop % block ≠ 0 then .error (.valueError "heap end not aligned")
  else
    let count := (stop - start) / block
    .ok { offset := start, count, blocks := [⟨count, false⟩], block }

/-- The loop of `malloc`, at entry `i` with what is left of `blocks`. -/
def mallocFrom (blocks : List Block) (size : Nat) :
    List Block → Nat → Nat → Option (Nat × List Block)
  | [], _, _ => none
  | ⟨bsize, full⟩ :: rest, i, pos =>
      if full = false ∧ bsize = size then some (pos, blocks.set i ⟨bsize, true⟩)
      else if full = false ∧ bsize > size then
        some (pos, (blocks.set i ⟨size, true⟩).insertIdx (i + 1) ⟨bsize - size, false⟩)
      else mallocFrom blocks size rest (i + 1) (pos + bsize)

def MemMgr.unitsFor (heap : MemMgr) (size : Nat) : Nat :=
  (size + heap.block - 1) / heap.block

def MemMgr.malloc (heap : MemMgr) (size : Nat) : Except PyError Nat × MemMgr :=
  match mallocFrom heap.blocks (heap.unitsFor size) heap.blocks 0 0 with
  | some (pos, blocks) => (.ok (heap.offset + heap.block * pos), { heap with blocks })
  | none => (.error (.exception "Out of memory"), heap)

def entry (blocks : List Block) (i : Nat) : Block :=
  blocks.getD i ⟨0, true⟩

/-- The freed entry `i` with its right neighbour, if that is free. -/
def mergeRight (blocks : List Block) (i bsize : Nat) : List Block :=
  if i ≠ blocks.length - 1 ∧ (entry blocks (i + 1)).used = false then
    (blocks.eraseIdx i).set i ⟨bsize + (entry blocks (i + 1)).size, false⟩
  else blocks.set i ⟨bsize, false⟩

/-- The merges of the freed entry `i`: with its left neighbour, then with its right one. -/
def mergeFreed (blocks : List Block) (i bsize : Nat) : List Block :=
  if i ≠ 0 ∧ (entry blocks (i - 1)).used = false then
    mergeRight (blocks.eraseIdx i) (i - 1) (bsize + (entry blocks (i - 1)).size)
  else mergeRight blocks i bsize

/-- The loop of `free`. -/
def freeFrom (blocks : List Block) (addr : Nat) :
    List Block → Nat → Nat → Except PyError (List Block)
  | [], _, _ => .error (.valueError "bad free address")
  | ⟨bsize, used⟩ :: rest, i, pos =>
      if pos > addr then .error (.valueError "bad free address")
      else if pos = addr then
        if used = false then .error (.valueError "block already free")
        else .ok (mergeFreed blocks i bsize)
      else freeFrom blocks addr rest (i + 1) (pos + bsize)

def MemMgr.free (heap : MemMgr) (addr : Int) : Except PyError Unit × MemMgr :=
  if addr % heap.block ≠ 0 then (.error (.valueError "free address not aligned"), heap)
  else if addr < heap.offset then (.error (.valueError "free address before heap"), heap)
  else
    let unit := ((addr - heap.offset) / heap.block).toNat
    if unit ≥ heap.count then (.error (.valueError "free address after heap"), heap)
    else
      match freeFrom heap.blocks unit heap.blocks 0 0 with
      | .ok blocks => (.ok (), { heap with blocks })
      | .error error => (.error error, heap)

inductive HeapCall where
  | malloc (size : Nat)
  | free (addr : Int)
  deriving DecidableEq, Repr

def MemMgr.call (heap : MemMgr) : HeapCall → Option PyError × MemMgr
  | .malloc size =>
      match heap.malloc size with
      | (.ok _, after) => (none, after)
      | (.error error, after) => (some error, after)
  | .free addr =>
      match heap.free addr with
      | (.ok _, after) => (none, after)
      | (.error error, after) => (some error, after)

end SkyeyeStarlet
