import Mathlib.Algebra.Order.Floor.Div
import SkyeyeStarlet.HeapCore
import SkyeyeStarlet.Library.Runs

/-!
What a heap of `MemMgr` keeps over its calls.  Each loop is said to take or to release one
block of the list; the invariant and the live allocations follow from that.
-/

namespace SkyeyeStarlet

open BlockList Runs

section Entries

variable (before rest : List Block) (block other : Block)

@[simp] theorem set_entry : (before ++ block :: rest).set before.length other =
    before ++ other :: rest := by
  simp

@[simp] theorem eraseIdx_entry : (before ++ block :: rest).eraseIdx before.length =
    before ++ rest := by
  simp [List.eraseIdx_append_of_length_le]

@[simp] theorem insertIdx_entry : (before ++ block :: rest).insertIdx (before.length + 1) other =
    before ++ block :: other :: rest := by
  induction before with
  | nil => rfl
  | cons first before ih => simp [List.insertIdx_succ_cons, ih]

@[simp] theorem entry_here : entry (before ++ block :: rest) before.length = block := by
  simp [entry]

@[simp] theorem entry_next : entry (before ++ block :: other :: rest) (before.length + 1) =
    other := by
  simp [entry]

end Entries

section Loops

variable {before rest : List Block} {size pos : Nat}

theorem mallocFrom_taken {result : List Block}
    (found : mallocFrom (before ++ rest) size rest before.length (extent before) =
      some (pos, result)) :
    Taken (before ++ rest) pos size result := by
  induction rest generalizing before with
  | nil => simp [mallocFrom] at found
  | cons block rest ih =>
      obtain ⟨bsize, full⟩ := block
      rw [mallocFrom] at found
      split at found
      · rename_i exactly
        obtain ⟨rfl, rfl⟩ := exactly
        simp only [set_entry, Option.some.injEq, Prod.mk.injEq] at found
        obtain ⟨rfl, rfl⟩ := found
        exact ⟨before, rest, 0, rfl, rfl, rfl⟩
      · split at found
        · rename_i larger
          obtain ⟨rfl, larger⟩ := larger
          simp only [set_entry, insertIdx_entry, Option.some.injEq, Prod.mk.injEq] at found
          obtain ⟨rfl, rfl⟩ := found
          refine ⟨before, rest, bsize - size, ?_, rfl, ?_⟩
          · rw [Nat.add_sub_cancel' (Nat.le_of_lt larger)]
          · rw [remainder, if_neg (by omega)]
            rfl
        · have step : before ++ ⟨bsize, full⟩ :: rest = (before ++ [⟨bsize, full⟩]) ++ rest := by
            simp
          rw [step] at found ⊢
          apply ih
          simpa using found

theorem mallocFrom_none (failed : mallocFrom (before ++ rest) size rest before.length
    (extent before) = none) :
    ∀ block ∈ rest, block.used = false → block.size < size := by
  induction rest generalizing before with
  | nil =>
      intro block member
      simp at member
  | cons block rest ih =>
      obtain ⟨bsize, full⟩ := block
      rw [mallocFrom] at failed
      split at failed
      · simp at failed
      · split at failed
        · simp at failed
        · rename_i different smaller
          have step : before ++ ⟨bsize, full⟩ :: rest = (before ++ [⟨bsize, full⟩]) ++ rest := by
            simp
          intro other member unused
          rcases List.mem_cons.mp member with rfl | later
          · dsimp only at unused ⊢
            have unequal : bsize ≠ size := fun same => different ⟨unused, same⟩
            have bound : ¬size < bsize := fun larger => smaller ⟨unused, larger⟩
            omega
          · rw [step] at failed
            exact @ih (before ++ [⟨bsize, full⟩]) (by simpa using failed) other later unused

theorem mergeRight_eq {after : List Block} (apart : after.IsChain Apart) (keep : List Block)
    (first : Block) (bsize : Nat) :
    ∃ free rest, after = free ++ rest ∧ (∀ block ∈ free, block.used = false) ∧
      (∀ block ∈ rest.head?, block.used = true) ∧
      mergeRight (keep ++ first :: after) keep.length bsize =
        keep ++ ⟨bsize + extent free, false⟩ :: rest := by
  cases after with
  | nil =>
      refine ⟨[], [], rfl, by simp, by simp, ?_⟩
      simp [mergeRight]
  | cons next after =>
      by_cases free : next.used = false
      · refine ⟨[next], after, rfl, by simpa using free, ?_, ?_⟩
        · intro block member
          rcases (List.isChain_cons.mp apart).1 block member with used | used
          · rw [free] at used
            contradiction
          · exact used
        · rw [mergeRight, if_pos (by simp [free])]
          simp
      · refine ⟨[], next :: after, rfl, by simp, by simpa using free, ?_⟩
        rw [mergeRight, if_neg (by simp [free])]
        simp

theorem mergeFreed_released {after : List Block}
    (apart : (before ++ ⟨size, true⟩ :: after).IsChain Apart) :
    Released (before ++ ⟨size, true⟩ :: after) (extent before) size
      (mergeFreed (before ++ ⟨size, true⟩ :: after) before.length size) := by
  have apartAfter : after.IsChain Apart := apart.right_of_append.tail
  have right := mergeRight_eq apartAfter
  rcases List.eq_nil_or_concat before with rfl | ⟨keep, left, rfl⟩
  · obtain ⟨free, rest, rfl, unused, used, merged⟩ := right [] ⟨size, true⟩ size
    refine ⟨[], [], free, rest, rfl, rfl, by simpa using unused, by simp, used, ?_⟩
    rw [mergeFreed, if_neg (by simp)]
    simpa using merged
  · rw [List.concat_eq_append] at apart ⊢
    have last : entry (keep ++ [left] ++ ⟨size, true⟩ :: after) ((keep ++ [left]).length - 1) =
        left := by
      simp [entry]
    have position : (keep ++ [left]).length ≠ 0 := by
      simp
    by_cases freeLeft : left.used = false
    · obtain ⟨free, rest, rfl, unused, used, merged⟩ := right keep left (size + left.size)
      refine ⟨keep, [left], free, rest, by simp, by simp, ?_, ?_, used, ?_⟩
      · intro block member
        rcases List.mem_append.mp member with here | there
        · rwa [List.mem_singleton.mp here]
        · exact unused block there
      · intro block member
        have neighbours := (List.isChain_append.mp apart.left_of_append).2.2
        rcases neighbours block member left rfl with used | used
        · exact used
        · rw [freeLeft] at used
          contradiction
      · have erased : (keep ++ [left] ++ ⟨size, true⟩ :: (free ++ rest)).eraseIdx
            (keep ++ [left]).length = keep ++ left :: (free ++ rest) := by
          rw [eraseIdx_entry]
          simp
        have index : (keep ++ [left]).length - 1 = keep.length := by
          simp
        rw [mergeFreed, last, if_pos ⟨position, freeLeft⟩, erased, index, merged]
        simp [Nat.add_comm]
    · obtain ⟨free, rest, rfl, unused, used, merged⟩ := right (keep ++ [left]) ⟨size, true⟩ size
      refine ⟨keep ++ [left], [], free, rest, by simp, by simp, by simpa using unused, ?_, used, ?_⟩
      · simpa using freeLeft
      · rw [mergeFreed, last, if_neg fun both => freeLeft both.2, merged]
        simp

theorem freeFrom_found {addr : Nat} {result : List Block}
    (found : freeFrom (before ++ rest) addr rest before.length (extent before) = .ok result) :
    ∃ left size right, before ++ rest = left ++ ⟨size, true⟩ :: right ∧ addr = extent left ∧
      result = mergeFreed (before ++ rest) left.length size := by
  induction rest generalizing before with
  | nil => simp [freeFrom] at found
  | cons block rest ih =>
      obtain ⟨bsize, used⟩ := block
      rw [freeFrom] at found
      split at found
      · simp at found
      · split at found
        · rename_i here
          split at found
          · simp at found
          · rename_i inUse
            obtain rfl : used = true := by simpa using inUse
            refine ⟨before, bsize, rest, rfl, here.symm, ?_⟩
            simpa using found.symm
        · have step : before ++ ⟨bsize, used⟩ :: rest = (before ++ [⟨bsize, used⟩]) ++ rest := by
            simp
          rw [step] at found ⊢
          apply ih
          simpa using found

theorem freeFrom_used (blocks after : List Block) (positive : ∀ block ∈ rest, 0 < block.size)
    (size start pos : Nat) :
    freeFrom blocks (pos + extent rest) (rest ++ ⟨size, true⟩ :: after) start pos =
      .ok (mergeFreed blocks (start + rest.length) size) := by
  induction rest generalizing start pos with
  | nil => simp [freeFrom]
  | cons block rest ih =>
      have here := positive block List.mem_cons_self
      have ih := ih (fun block member => positive block (List.mem_cons_of_mem _ member))
        (start + 1) (pos + block.size)
      rw [extent_cons, ← Nat.add_assoc, List.cons_append, freeFrom, if_neg (by omega),
        if_neg (by omega), ih, List.length_cons]
      congr 2
      omega

end Loops

section Invariant

structure HeapTidy (heap : MemMgr) : Prop where
  positive : 0 < heap.block
  aligned : heap.block ∣ heap.offset
  total : extent heap.blocks = heap.count
  tidy : Tidy heap.blocks

variable {heap : MemMgr}

theorem init_eq {start stop block : Nat} (created : MemMgr.init start stop block = .ok heap) :
    block ∣ start ∧ block ∣ stop ∧
      heap = ⟨start, (stop - start) / block, [⟨(stop - start) / block, false⟩], block⟩ := by
  unfold MemMgr.init at created
  split at created
  · simp at created
  · rename_i startAligned
    split at created
    · simp at created
    · rename_i stopAligned
      refine ⟨?_, ?_, (Except.ok.inj created).symm⟩
      · exact Nat.dvd_of_mod_eq_zero (by simpa using startAligned)
      · exact Nat.dvd_of_mod_eq_zero (by simpa using stopAligned)

theorem init_tidy {start stop block : Nat} (created : MemMgr.init start stop block = .ok heap)
    (positive : 0 < block) (nonempty : start < stop) : HeapTidy heap := by
  obtain ⟨startAligned, stopAligned, rfl⟩ := init_eq created
  have whole : block ∣ stop - start := Nat.dvd_sub stopAligned startAligned
  have units : 0 < (stop - start) / block := Nat.div_pos (Nat.le_of_dvd (by omega) whole) positive
  refine ⟨positive, startAligned, by simp, fun entry member => ?_, List.isChain_singleton _⟩
  rw [List.mem_singleton.mp member]
  exact units

theorem unitsFor_positive (positive : 0 < heap.block) {size : Nat} (nonzero : 1 ≤ size) :
    0 < heap.unitsFor size := by
  exact Nat.div_pos (by omega) positive

theorem malloc_cases (heap : MemMgr) (size : Nat) :
    (∃ pos blocks, heap.malloc size = (.ok (heap.offset + heap.block * pos), { heap with blocks }) ∧
      Taken heap.blocks pos (heap.unitsFor size) blocks) ∨
    (heap.malloc size = (.error (.exception "Out of memory"), heap) ∧
      ∀ block ∈ heap.blocks, block.used = false → block.size < heap.unitsFor size) := by
  unfold MemMgr.malloc
  split
  · rename_i pos blocks found
    exact Or.inl ⟨pos, blocks, rfl, @mallocFrom_taken [] _ _ _ _ found⟩
  · rename_i failed
    exact Or.inr ⟨rfl, @mallocFrom_none [] _ _ failed⟩

theorem free_cases (apart : heap.blocks.IsChain Apart) (addr : Int) :
    (∃ pos size blocks, heap.free addr = (.ok (), { heap with blocks }) ∧
      Released heap.blocks pos size blocks) ∨
    ∃ error, heap.free addr = (.error error, heap) := by
  unfold MemMgr.free
  dsimp only
  split_ifs
  · exact Or.inr ⟨_, rfl⟩
  · exact Or.inr ⟨_, rfl⟩
  · exact Or.inr ⟨_, rfl⟩
  · split
    · rename_i blocks found
      obtain ⟨left, size, right, shape, -, rfl⟩ := @freeFrom_found [] heap.blocks _ _ found
      rw [List.nil_append] at shape
      refine Or.inl ⟨extent left, size, _, rfl, ?_⟩
      rw [List.nil_append, shape]
      rw [shape] at apart
      exact mergeFreed_released apart
    · exact Or.inr ⟨_, rfl⟩

theorem free_used (tidy : HeapTidy heap) {left right : List Block} {size : Nat}
    (shape : heap.blocks = left ++ ⟨size, true⟩ :: right) :
    ∃ blocks, heap.free ((heap.offset + heap.block * extent left : Nat) : Int) =
      (.ok (), { heap with blocks }) ∧ Released heap.blocks (extent left) size blocks := by
  have positive : 0 < size := tidy.tidy.positive ⟨size, true⟩ (by rw [shape]; simp)
  have positiveLeft : ∀ block ∈ left, 0 < block.size := fun block member =>
    tidy.tidy.positive block (by rw [shape]; simp [member])
  have inside : ¬extent left ≥ heap.count := by
    rw [← tidy.total, shape, extent_append, extent_cons]
    dsimp only
    omega
  have whole : ((heap.offset + heap.block * extent left : Nat) : Int) % heap.block = 0 := by
    rw [← Int.natCast_emod, Nat.mod_eq_zero_of_dvd]
    · rfl
    · exact (Nat.dvd_add_right tidy.aligned).mpr (Nat.dvd_mul_right _ _)
  have unit : ((((heap.offset + heap.block * extent left : Nat) : Int) - heap.offset) /
      heap.block).toNat = extent left := by
    have difference : ((heap.offset + heap.block * extent left : Nat) : Int) - heap.offset =
        ((heap.block * extent left : Nat) : Int) := by
      omega
    rw [difference, ← Int.natCast_ediv, Nat.mul_div_cancel_left _ tidy.positive, Int.toNat_natCast]
  have above : ¬((heap.offset + heap.block * extent left : Nat) : Int) < heap.offset := by
    omega
  have found := freeFrom_used heap.blocks right positiveLeft size 0 0
  rw [← shape, Nat.zero_add, Nat.zero_add] at found
  refine ⟨mergeFreed heap.blocks left.length size, ?_, ?_⟩
  · rw [MemMgr.free, if_neg (not_not.mpr whole), if_neg above]
    dsimp only
    rw [unit, if_neg inside, found]
  · have apart := tidy.tidy.apart
    rw [shape] at apart ⊢
    exact mergeFreed_released apart

theorem HeapTidy.taken (tidy : HeapTidy heap) {pos size : Nat} {blocks : List Block}
    (taken : Taken heap.blocks pos size blocks) (positive : 0 < size) :
    HeapTidy { heap with blocks } := by
  exact ⟨tidy.positive, tidy.aligned, taken.extent_eq.trans tidy.total,
    taken.tidy positive tidy.tidy⟩

theorem HeapTidy.released (tidy : HeapTidy heap) {pos size : Nat} {blocks : List Block}
    (released : Released heap.blocks pos size blocks) : HeapTidy { heap with blocks } := by
  exact ⟨tidy.positive, tidy.aligned, released.extent_eq.trans tidy.total,
    released.tidy tidy.tidy⟩

theorem HeapTidy.call (tidy : HeapTidy heap) (call : HeapCall)
    (nonzero : ∀ size, call = .malloc size → 1 ≤ size) : HeapTidy (heap.call call).2 := by
  cases call with
  | malloc size =>
      have positive := unitsFor_positive tidy.positive (nonzero size rfl)
      rcases malloc_cases heap size with ⟨pos, blocks, result, taken⟩ | ⟨result, -⟩
      · rw [MemMgr.call, result]
        exact tidy.taken taken positive
      · rw [MemMgr.call, result]
        exact tidy
  | free addr =>
      rcases free_cases tidy.tidy.apart addr with ⟨pos, size, blocks, result, released⟩ |
        ⟨error, result⟩
      · rw [MemMgr.call, result]
        exact tidy.released released
      · rw [MemMgr.call, result]
        exact tidy

theorem HeapTidy.raises (tidy : HeapTidy heap) (call : HeapCall) {error : PyError}
    (raised : (heap.call call).1 = some error) : (heap.call call).2 = heap := by
  cases call with
  | malloc size =>
      rcases malloc_cases heap size with ⟨pos, blocks, result, -⟩ | ⟨result, -⟩
      · simp [MemMgr.call, result] at raised
      · rw [MemMgr.call, result]
  | free addr =>
      rcases free_cases tidy.tidy.apart addr with ⟨pos, size, blocks, result, -⟩ | ⟨error, result⟩
      · simp [MemMgr.call, result] at raised
      · rw [MemMgr.call, result]

theorem call_geometry (tidy : HeapTidy heap) (call : HeapCall) :
    (heap.call call).2.count = heap.count ∧ (heap.call call).2.block = heap.block ∧
      (heap.call call).2.offset = heap.offset := by
  cases call with
  | malloc size =>
      rcases malloc_cases heap size with ⟨pos, blocks, result, -⟩ | ⟨result, -⟩
      · simp [MemMgr.call, result]
      · simp [MemMgr.call, result]
  | free addr =>
      rcases free_cases tidy.tidy.apart addr with ⟨pos, size, blocks, result, -⟩ | ⟨error, result⟩
      · simp [MemMgr.call, result]
      · simp [MemMgr.call, result]

theorem HeapTidy.outOfMemory (tidy : HeapTidy heap) {size : Nat} (nonzero : 1 ≤ size)
    (failed : (heap.malloc size).1 = .error (.exception "Out of memory")) (pos : Nat) :
    ¬FreeRun heap.blocks pos (heap.unitsFor size) := by
  intro free
  rcases malloc_cases heap size with ⟨_, _, result, -⟩ | ⟨-, small⟩
  · simp [result] at failed
  · obtain ⟨block, member, unused, large⟩ :=
      tidy.tidy.freeRun_block (unitsFor_positive tidy.positive nonzero) free
    have bound := small block member unused
    omega

def MemMgr.after (heap : MemMgr) (calls : List HeapCall) : MemMgr :=
  run (fun heap call => (heap.call call).2) heap calls

structure HeapOver (start stop block : Nat) (heap : MemMgr) : Prop where
  tidy : HeapTidy heap
  count : heap.count = (stop - start) / block
  block : heap.block = block
  offset : heap.offset = start

theorem heapOver_run {start stop block : Nat} (created : MemMgr.init start stop block = .ok heap)
    (positive : 0 < block) (nonempty : start < stop) (calls : List HeapCall)
    (sizes : ∀ size, HeapCall.malloc size ∈ calls → 1 ≤ size) :
    HeapOver start stop block (heap.after calls) := by
  have fresh : HeapOver start stop block heap := by
    have tidy := init_tidy created positive nonempty
    obtain ⟨-, -, rfl⟩ := init_eq created
    exact ⟨tidy, rfl, rfl, rfl⟩
  clear created
  induction calls generalizing heap with
  | nil => exact fresh
  | cons call calls ih =>
      refine ih (fun size member => sizes size (List.mem_cons_of_mem _ member)) ?_
      obtain ⟨count, unit, offset⟩ := call_geometry fresh.tidy call
      refine ⟨fresh.tidy.call call fun size same => sizes size ?_, count.trans fresh.count,
        unit.trans fresh.block, offset.trans fresh.offset⟩
      rw [same]
      exact List.mem_cons_self

/-- Over every sequence of calls the blocks of a heap are positive, add up to its size and have
no two free neighbours; so an allocation fails only when no run of free units holds it, and a
call that raises changes nothing. -/
theorem heap_representation {start stop block : Nat}
    (created : MemMgr.init start stop block = .ok heap) (positive : 0 < block)
    (nonempty : start < stop) (calls : List HeapCall)
    (sizes : ∀ size, HeapCall.malloc size ∈ calls → 1 ≤ size) :
    let reached := heap.after calls
    (∀ entry ∈ reached.blocks, 0 < entry.size) ∧
      extent reached.blocks = reached.count ∧ reached.count = (stop - start) / block ∧
      reached.blocks.IsChain (fun first second => first.used = true ∨ second.used = true) ∧
      (∀ size, 1 ≤ size → (reached.malloc size).1 = .error (.exception "Out of memory") →
        ∀ pos, ¬FreeRun reached.blocks pos (size ⌈/⌉ block)) ∧
      ∀ call error, (reached.call call).1 = some error → (reached.call call).2 = reached := by
  intro reached
  have heapOver := heapOver_run created positive nonempty calls sizes
  refine ⟨heapOver.tidy.tidy.positive, heapOver.tidy.total, heapOver.count,
    heapOver.tidy.tidy.apart, fun size nonzero failed pos => ?_, fun call error raised =>
      heapOver.tidy.raises call raised⟩
  have units : size ⌈/⌉ block = reached.unitsFor size := by
    rw [Nat.ceilDiv_eq_add_pred_div, MemMgr.unitsFor, heapOver.block]
  rw [units]
  exact heapOver.tidy.outOfMemory nonzero failed pos

theorem heap_representation_small :
    (MemMgr.after ⟨0x40, 2, [⟨2, false⟩], 0x40⟩
      [.malloc 0x40, .free 0x40, .free 0x7f, .malloc 1]).blocks.IsChain
        (fun first second => first.used = true ∨ second.used = true) := by
  have created : MemMgr.init 0x40 0xc0 0x40 = .ok ⟨0x40, 2, [⟨2, false⟩], 0x40⟩ := by
    rfl
  exact (heap_representation created (by decide) (by decide) _ (by simp)).2.2.2.1

end Invariant

end SkyeyeStarlet
