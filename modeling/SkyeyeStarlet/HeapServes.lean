import SkyeyeStarlet.HeapLive

/-!
A sequence of allocations for one purpose.  If none of them is empty they are new blocks beside
those that a client has already.  An empty one takes the address of the first free block and
leaves that block free; the address is given out again at the latest with the next block of one
unit.
-/

namespace SkyeyeStarlet

open BlockList

def MemMgr.Serves : MemMgr → List Nat → Prop
  | _, [] => True
  | heap, size :: rest =>
      match heap.malloc size with
      | (.ok _, after) => after.Serves rest
      | (.error _, _) => False

inductive GivenOut (heap : MemMgr) : List Allocation → MemMgr → Prop
  | none : GivenOut heap [] heap
  | malloc {created : List Allocation} {before after : MemMgr} {size addr : Nat}
      (served : GivenOut heap created before)
      (result : before.malloc size = (.ok addr, after)) :
      GivenOut heap (⟨addr, size⟩ :: created) after

theorem GivenOut.serves {heap after : MemMgr} {created : List Allocation}
    (served : GivenOut heap created after) (rest : List Nat) :
    heap.Serves ((created.map Allocation.size).reverse ++ rest) ↔ after.Serves rest := by
  induction served generalizing rest with
  | none => rfl
  | malloc served result ih =>
      rw [List.map_cons, List.reverse_cons, List.append_assoc, List.singleton_append, ih,
        MemMgr.Serves, result]

theorem GivenOut.liveBlocks {start stop block : Nat} {heap after : MemMgr}
    {live created : List Allocation} (fresh : LiveBlocks start stop block ⟨heap, live⟩)
    (served : GivenOut heap created after)
    (nonempty : ∀ allocation ∈ created, 1 ≤ allocation.size) :
    LiveBlocks start stop block ⟨after, created ++ live⟩ := by
  induction served with
  | none => exact fresh
  | @malloc created before after size addr served result ih =>
      have earlier := ih fun allocation member =>
        nonempty allocation (List.mem_cons_of_mem _ member)
      exact earlier.malloc (Or.inl (nonempty ⟨addr, size⟩ List.mem_cons_self)) result

section Bounds

variable {heap after : MemMgr} {size addr : Nat} {created : List Allocation}

/-- A heap of 32-bit addresses in units of 64 bytes, whose free blocks are not empty. -/
structure WordHeap (heap : MemMgr) : Prop where
  block : heap.block = 64
  bound : heap.offset + 64 * extent heap.blocks < 2 ^ 32
  positive : ∀ block ∈ heap.blocks, block.used = false → 0 < block.size

theorem WordHeap.malloc (sized : WordHeap heap) (result : heap.malloc size = (.ok addr, after)) :
    WordHeap after ∧ addr < 2 ^ 32 ∧ size < 2 ^ 32 := by
  obtain ⟨block, bound, positive⟩ := sized
  rcases malloc_cases heap size with ⟨pos, blocks, taken, shape⟩ | ⟨failed, -⟩
  · rw [taken] at result
    simp only [Prod.mk.injEq, Except.ok.injEq] at result
    obtain ⟨rfl, rfl⟩ := result
    have extents := shape.extent_eq
    obtain ⟨front, back, free, split, rfl, rfl⟩ := shape.shape
    have room : extent front + (heap.unitsFor size + free) ≤ extent heap.blocks := by
      rw [split, extent_append, extent_cons]
      dsimp only
      omega
    have units : size ≤ 64 * heap.unitsFor size := by
      rw [MemMgr.unitsFor, block]
      omega
    refine ⟨⟨block, by rw [extents]; exact bound, fun entry member unused => ?_⟩, ?_, ?_⟩
    · simp only [List.mem_append, List.mem_cons] at member
      rcases member with earlier | rfl | rest | later
      · exact positive entry (by rw [split]; simp [earlier]) unused
      · simp at unused
      · unfold remainder at rest
        split at rest
        · simp at rest
        · rw [List.mem_singleton.mp rest]
          exact Nat.pos_of_ne_zero ‹_›
      · exact positive entry (by rw [split]; simp [later]) unused
    · rw [block]
      omega
    · omega
  · rw [failed] at result
    simp at result

theorem GivenOut.sized (sized : WordHeap heap) (served : GivenOut heap created after) :
    WordHeap after := by
  induction served with
  | none => exact sized
  | malloc _ result ih => exact (ih.malloc result).1

end Bounds

section FirstFit

variable {before rest : List Block} {size free : Nat}

theorem mallocFrom_used (blocks : List Block) (used : ∀ block ∈ before, block.used = true)
    (i pos : Nat) :
    mallocFrom blocks size (before ++ rest) i pos =
      mallocFrom blocks size rest (i + before.length) (pos + extent before) := by
  induction before generalizing i pos with
  | nil => rfl
  | cons block before ih =>
      obtain ⟨bsize, full⟩ := block
      obtain rfl : full = true := used ⟨bsize, full⟩ List.mem_cons_self
      have later := ih (fun block member => used block (List.mem_cons_of_mem _ member)) (i + 1)
        (pos + bsize)
      simp only [List.cons_append, mallocFrom, Bool.true_eq_false, false_and, if_false, later,
        List.length_cons, extent_cons]
      congr 1 <;> omega

def FirstFree (heap : MemMgr) (addr : Nat) : Prop :=
  ∃ before rest free, heap.blocks = before ++ ⟨free, false⟩ :: rest ∧
    (∀ block ∈ before, block.used = true) ∧ addr = heap.offset + heap.block * extent before

variable {heap after : MemMgr} {addr : Nat}

theorem malloc_first (split : heap.blocks = before ++ ⟨free, false⟩ :: rest)
    (used : ∀ block ∈ before, block.used = true) (room : heap.unitsFor size ≤ free) :
    heap.malloc size = (.ok (heap.offset + heap.block * extent before),
      { heap with
        blocks := before ++ ⟨heap.unitsFor size, true⟩ ::
          (remainder (free - heap.unitsFor size) ++ rest) }) := by
  rw [MemMgr.malloc, split, mallocFrom_used _ used, mallocFrom]
  by_cases same : free = heap.unitsFor size
  · simp [same, remainder]
  · have larger : heap.unitsFor size < free := by omega
    simp [same, larger, remainder, Nat.sub_ne_zero_of_lt larger]

theorem FirstFree.malloc (first : FirstFree heap addr) {got : Nat}
    (result : heap.malloc size = (.ok got, after)) : got = addr ∨ FirstFree after addr := by
  obtain ⟨before, rest, free, split, used, rfl⟩ := first
  by_cases room : heap.unitsFor size ≤ free
  · rw [malloc_first split used room] at result
    simp only [Prod.mk.injEq, Except.ok.injEq] at result
    exact Or.inl result.1.symm
  · rcases malloc_cases heap size with ⟨pos, blocks, taken, shape⟩ | ⟨failed, -⟩
    · rw [taken] at result
      simp only [Prod.mk.injEq, Except.ok.injEq] at result
      obtain ⟨-, rfl⟩ := result
      obtain ⟨front, back, left, place, -, rfl⟩ := shape.shape
      right
      -- The block that is taken lies behind the first free one.
      rw [split] at place
      rcases List.append_eq_append_iff.mp place with ⟨more, rfl, later⟩ | ⟨more, rfl, earlier⟩
      · cases more with
        | nil =>
            simp only [List.nil_append, List.cons.injEq, Block.mk.injEq] at later
            omega
        | cons block more =>
            simp only [List.cons_append, List.cons.injEq] at later
            obtain ⟨rfl, -⟩ := later
            exact ⟨before, more ++ ⟨heap.unitsFor size, true⟩ :: (remainder left ++ back), free,
              by simp, used, rfl⟩
      · cases more with
        | nil =>
            simp only [List.nil_append, List.cons.injEq, Block.mk.injEq] at earlier
            omega
        | cons block more =>
            simp only [List.cons_append, List.cons.injEq] at earlier
            obtain ⟨rfl, -⟩ := earlier
            have taken := used ⟨heap.unitsFor size + left, false⟩ (by simp)
            simp at taken
    · rw [failed] at result
      simp at result

theorem malloc_empty (sized : WordHeap heap) (result : heap.malloc 0 = (.ok addr, after)) :
    FirstFree after addr := by
  have none : heap.unitsFor 0 = 0 := by
    rw [MemMgr.unitsFor, sized.block]
  rcases malloc_cases heap 0 with ⟨pos, blocks, taken, shape⟩ | ⟨failed, -⟩
  · obtain ⟨front, back, left, place, -, -⟩ := shape.shape
    have some : (heap.blocks.find? fun block => !block.used).isSome := by
      rw [List.find?_isSome]
      exact ⟨⟨heap.unitsFor 0 + left, false⟩, by rw [place]; simp, rfl⟩
    obtain ⟨⟨free, full⟩, found⟩ := Option.isSome_iff_exists.mp some
    obtain ⟨unused, before, rest, split, used⟩ := List.find?_eq_some_iff_append.mp found
    obtain rfl : full = false := by simpa using unused
    have used (block : Block) (member : block ∈ before) : block.used = true := by
      simpa using used block member
    have positive := sized.positive ⟨free, false⟩ (by rw [split]; simp) rfl
    rw [malloc_first split used (by omega)] at result
    simp only [Prod.mk.injEq, Except.ok.injEq] at result
    obtain ⟨rfl, rfl⟩ := result
    refine ⟨before ++ [⟨0, true⟩], rest, free, ?_, ?_, ?_⟩
    · rw [none, remainder, if_neg (by simp at positive; omega)]
      simp
    · intro block member
      rcases List.mem_append.mp member with earlier | last
      · exact used block earlier
      · rw [List.mem_singleton.mp last]
    · simp
  · rw [failed] at result
    simp at result

theorem GivenOut.firstFree {created : List Allocation} (sized : WordHeap heap)
    (served : GivenOut heap created after) {allocation : Allocation} (member : allocation ∈ created)
    (empty : allocation.size = 0) :
    ¬(created.map Allocation.addr).Nodup ∨ FirstFree after allocation.addr := by
  induction served with
  | none => simp at member
  | @malloc created before after size addr served result ih =>
      rcases List.mem_cons.mp member with rfl | earlier
      · obtain rfl : size = 0 := empty
        exact Or.inr (malloc_empty (served.sized sized) result)
      · rcases ih earlier with shared | first
        · exact Or.inl fun nodup => shared (List.nodup_cons.mp nodup).2
        · rcases first.malloc result with rfl | first
          · left
            intro nodup
            exact (List.nodup_cons.mp nodup).1 (List.mem_map.mpr ⟨allocation, earlier, rfl⟩)
          · exact Or.inr first

theorem GivenOut.shared {created : List Allocation} {last : Allocation} (sized : WordHeap heap)
    (served : GivenOut heap (last :: created) after) (unit : 1 ≤ last.size ∧ last.size ≤ 64)
    {allocation : Allocation} (member : allocation ∈ created) (empty : allocation.size = 0) :
    ¬((last :: created).map Allocation.addr).Nodup := by
  cases served with
  | @malloc _ before _ size addr served result =>
      intro nodup
      rcases served.firstFree sized member empty with shared | first
      · exact shared (List.nodup_cons.mp nodup).2
      · obtain ⟨block, bound, positive⟩ := served.sized sized
        obtain ⟨used, rest, free, split, full, place⟩ := first
        have room := positive ⟨free, false⟩ (by rw [split]; simp) rfl
        have units : before.unitsFor size = 1 := by
          rw [MemMgr.unitsFor, block]
          dsimp only at unit
          omega
        dsimp only at room
        rw [malloc_first split full (by omega)] at result
        simp only [Prod.mk.injEq, Except.ok.injEq] at result
        have same : allocation.addr = addr := by rw [place, result.1]
        exact (List.nodup_cons.mp nodup).1 (List.mem_map.mpr ⟨allocation, member, same⟩)

end FirstFit

end SkyeyeStarlet
