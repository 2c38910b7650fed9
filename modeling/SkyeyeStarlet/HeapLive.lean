import Mathlib.Data.List.Perm.Subperm
import Mathlib.Logic.Relation
import SkyeyeStarlet.Heap

/-!
The allocations of a heap that a client has been given and has not freed.  Where no client
asks for an empty block they are the used blocks of the list, in some order, and each is known
by its address.  An empty block shares its address with the block after it.
-/

namespace SkyeyeStarlet

open BlockList Relation

/-- A block of memory that `malloc` has returned: its address and the size asked for. -/
structure Allocation where
  addr : Nat
  size : Nat
  deriving DecidableEq, Repr

structure Allocator where
  heap : MemMgr
  live : List Allocation
  deriving DecidableEq, Repr

/-- A call of the client, who frees only what it has. -/
inductive AllocatorStep (Allowed : MemMgr → Nat → Prop) : Allocator → Allocator → Prop
  | malloc {state : Allocator} {size addr : Nat} {after : MemMgr}
      (allowed : Allowed state.heap size) (result : state.heap.malloc size = (.ok addr, after)) :
      AllocatorStep Allowed state ⟨after, ⟨addr, size⟩ :: state.live⟩
  | full {state : Allocator} {size : Nat} {error : PyError} {after : MemMgr}
      (allowed : Allowed state.heap size)
      (result : state.heap.malloc size = (.error error, after)) :
      AllocatorStep Allowed state ⟨after, state.live⟩
  | free {state : Allocator} {allocation : Allocation} (owned : allocation ∈ state.live) :
      AllocatorStep Allowed state
        ⟨(state.heap.free allocation.addr).2, state.live.erase allocation⟩

/-- An empty block is asked for only where there is no free block to take it from. -/
def MemMgr.Nonempty (heap : MemMgr) (size : Nat) : Prop :=
  1 ≤ size ∨ ∀ block ∈ heap.blocks, block.used = true

def Allocation.last (block : Nat) (allocation : Allocation) : Nat :=
  allocation.addr + block * (allocation.size ⌈/⌉ block)

def MemMgr.InUse (heap : MemMgr) (unit : Nat) : Prop :=
  (units heap.blocks)[unit]? = some true

/-- Every live allocation of a heap between two addresses has memory of its own, and its
address frees that memory and no other. -/
structure OwnMemory (start stop block : Nat) (state : Allocator) : Prop where
  distinct : (state.live.map Allocation.addr).Nodup
  inside : ∀ allocation ∈ state.live,
    start ≤ allocation.addr ∧ allocation.addr < stop ∧ allocation.last block ≤ stop
  disjoint : state.live.Pairwise fun first second =>
    first.last block ≤ second.addr ∨ second.last block ≤ first.addr
  released : ∀ allocation ∈ state.live,
    (state.heap.free allocation.addr).1 = .ok () ∧
      ∀ unit, (state.heap.free allocation.addr).2.InUse unit ↔
        state.heap.InUse unit ∧
          ¬(allocation.addr ≤ start + block * unit ∧ start + block * unit < allocation.last block)

section Spans

variable {start stop block : Nat} {state after : Allocator}

def MemMgr.spanOf (heap : MemMgr) (allocation : Allocation) : Nat × Nat :=
  ((allocation.addr - heap.offset) / heap.block, heap.unitsFor allocation.size)

structure LiveBlocks (start stop block : Nat) (state : Allocator) : Prop where
  heap : HeapOver start stop block state.heap
  onUnit : ∀ allocation ∈ state.live,
    allocation.addr = start + block * (state.heap.spanOf allocation).1
  used : (state.live.map state.heap.spanOf).Perm (spans 0 state.heap.blocks)

theorem LiveBlocks.fresh {heap : MemMgr} (created : MemMgr.init start stop block = .ok heap)
    (positive : 0 < block) (nonempty : start < stop) :
    LiveBlocks start stop block ⟨heap, []⟩ := by
  refine ⟨heapOver_run created positive nonempty [] (by simp), by simp, ?_⟩
  obtain ⟨-, -, rfl⟩ := init_eq created
  exact List.Perm.nil

theorem spanOf_blocks (heap : MemMgr) (blocks : List Block) :
    { heap with blocks }.spanOf = heap.spanOf := by
  rfl

theorem LiveBlocks.malloc (live : LiveBlocks start stop block state) {size addr : Nat}
    {heap : MemMgr} (allowed : state.heap.Nonempty size)
    (result : state.heap.malloc size = (.ok addr, heap)) :
    LiveBlocks start stop block ⟨heap, ⟨addr, size⟩ :: state.live⟩ := by
  obtain ⟨⟨tidy, count, unit, offset⟩, onUnit, used⟩ := live
  rcases malloc_cases state.heap size with ⟨pos, blocks, taken, shape⟩ | ⟨failed, -⟩
  · rw [taken] at result
    simp only [Prod.mk.injEq, Except.ok.injEq] at result
    obtain ⟨rfl, rfl⟩ := result
    have place : state.heap.spanOf ⟨state.heap.offset + state.heap.block * pos, size⟩ =
        (pos, state.heap.unitsFor size) := by
      rw [MemMgr.spanOf, Nat.add_sub_cancel_left, Nat.mul_div_cancel_left _ tidy.positive]
    have nonzero : 1 ≤ size := by
      rcases allowed with nonzero | full
      · exact nonzero
      · obtain ⟨before, after, free, split, -⟩ := shape.shape
        have used := full ⟨_, false⟩ (by rw [split]; exact List.mem_append_cons_self)
        simp at used
    have positive := unitsFor_positive tidy.positive nonzero
    refine ⟨⟨tidy.taken shape positive, count, unit, offset⟩, ?_, ?_⟩
    · intro allocation member
      rcases List.mem_cons.mp member with rfl | earlier
      · rw [spanOf_blocks, place, unit, offset]
      · exact onUnit allocation earlier
    · rw [spanOf_blocks, List.map_cons, place]
      have grown := shape.spans_perm 0
      rw [Nat.zero_add] at grown
      exact (used.cons _).trans grown.symm
  · rw [failed] at result
    simp at result

theorem LiveBlocks.free_result (live : LiveBlocks start stop block state)
    {allocation : Allocation} (owned : allocation ∈ state.live) :
    ∃ blocks, state.heap.free allocation.addr = (.ok (), { state.heap with blocks }) ∧
      Released state.heap.blocks (state.heap.spanOf allocation).1
        (state.heap.spanOf allocation).2 blocks := by
  have listed : state.heap.spanOf allocation ∈ spans 0 state.heap.blocks :=
    live.used.subset (List.mem_map_of_mem owned)
  obtain ⟨left, right, shape, place⟩ := mem_spans listed
  rw [Nat.zero_add] at place
  have addr : allocation.addr = state.heap.offset + state.heap.block * extent left := by
    rw [live.onUnit allocation owned, place, live.heap.offset, live.heap.block]
  rw [addr, place]
  exact free_used live.heap.tidy shape

theorem LiveBlocks.free (live : LiveBlocks start stop block state)
    {allocation : Allocation} (owned : allocation ∈ state.live) :
    LiveBlocks start stop block
      ⟨(state.heap.free allocation.addr).2, state.live.erase allocation⟩ := by
  obtain ⟨blocks, result, released⟩ := live.free_result owned
  obtain ⟨⟨tidy, count, unit, offset⟩, onUnit, used⟩ := live
  rw [result]
  refine ⟨⟨tidy.released released, count, unit, offset⟩, ?_, ?_⟩
  · intro other member
    exact onUnit other (List.mem_of_mem_erase member)
  · have shrunk := released.spans_perm 0
    rw [Nat.zero_add] at shrunk
    have split := (List.perm_cons_erase owned).map state.heap.spanOf
    rw [List.map_cons] at split
    exact (List.perm_cons _).mp ((split.symm.trans used).trans shrunk)

theorem LiveBlocks.step (live : LiveBlocks start stop block state)
    (step : AllocatorStep MemMgr.Nonempty state after) :
    LiveBlocks start stop block after := by
  cases step with
  | malloc allowed result => exact live.malloc allowed result
  | @full size error heap allowed result =>
      rcases malloc_cases state.heap size with ⟨pos, blocks, taken, -⟩ | ⟨failed, -⟩
      · rw [taken] at result
        simp at result
      · rw [failed] at result
        simp only [Prod.mk.injEq] at result
        obtain ⟨-, rfl⟩ := result
        exact live
  | free owned => exact live.free owned

theorem LiveBlocks.run (live : LiveBlocks start stop block state)
    (steps : ReflTransGen (AllocatorStep MemMgr.Nonempty) state after) :
    LiveBlocks start stop block after := by
  induction steps with
  | refl => exact live
  | tail _ step ih => exact ih.step step

theorem LiveBlocks.apart (live : LiveBlocks start stop block state) :
    state.live.Pairwise fun first second =>
      (state.heap.spanOf first).1 + (state.heap.spanOf first).2 ≤ (state.heap.spanOf second).1 ∨
        (state.heap.spanOf second).1 + (state.heap.spanOf second).2 ≤
          (state.heap.spanOf first).1 := by
  have ordered := (spans_ordered 0 state.heap.blocks).imp fun {first second} before =>
    (Or.inl before : first.1 + first.2 ≤ second.1 ∨ second.1 + second.2 ≤ first.1)
  have shuffled := (live.used.pairwise_iff fun {first second} apart => apart.symm).mpr ordered
  exact List.pairwise_map.mp shuffled

theorem LiveBlocks.bounds (live : LiveBlocks start stop block state) {allocation : Allocation}
    (owned : allocation ∈ state.live) :
    0 < (state.heap.spanOf allocation).2 ∧
      (state.heap.spanOf allocation).1 + (state.heap.spanOf allocation).2 ≤
        (stop - start) / block := by
  have listed : state.heap.spanOf allocation ∈ spans 0 state.heap.blocks :=
    live.used.subset (List.mem_map_of_mem owned)
  refine ⟨spans_positive live.heap.tidy.tidy.positive listed, ?_⟩
  have bound := (spans_bounds listed).2
  rwa [Nat.zero_add, live.heap.tidy.total, live.heap.count] at bound

theorem LiveBlocks.last_eq (live : LiveBlocks start stop block state) {allocation : Allocation}
    (owned : allocation ∈ state.live) :
    allocation.last block =
      start + block * ((state.heap.spanOf allocation).1 + (state.heap.spanOf allocation).2) := by
  rw [Allocation.last, Nat.mul_add, ← Nat.add_assoc, ← live.onUnit allocation owned,
    Nat.ceilDiv_eq_add_pred_div, MemMgr.spanOf, MemMgr.unitsFor, live.heap.block]

theorem LiveBlocks.ownMemory (live : LiveBlocks start stop block state) (nonempty : start < stop) :
    OwnMemory start stop block state := by
  have positive : 0 < block := by
    rw [← live.heap.block]
    exact live.heap.tidy.positive
  have scaled (first second : Nat) :
      start + block * first ≤ start + block * second ↔ first ≤ second := by
    rw [Nat.add_le_add_iff_left, Nat.mul_le_mul_left_iff positive]
  have below (first second : Nat) :
      start + block * first < start + block * second ↔ first < second := by
    rw [Nat.add_lt_add_iff_left, Nat.mul_lt_mul_left positive]
  refine ⟨?_, ?_, ?_, ?_⟩
  · rw [List.nodup_iff_pairwise_ne, List.pairwise_map]
    refine live.apart.imp_of_mem fun {first second} owned other apart same => ?_
    have place := scaled (state.heap.spanOf first).1 (state.heap.spanOf second).1
    have back := scaled (state.heap.spanOf second).1 (state.heap.spanOf first).1
    have firstUnits := (live.bounds owned).1
    have secondUnits := (live.bounds other).1
    rw [← live.onUnit first owned, ← live.onUnit second other] at place back
    omega
  · intro allocation owned
    have units := live.bounds owned
    have first := live.onUnit allocation owned
    have last := live.last_eq owned
    have long := (scaled _ _).mpr units.2
    have fits : block * ((stop - start) / block) ≤ stop - start := Nat.mul_div_le _ _
    have grows := scaled ((state.heap.spanOf allocation).1 + (state.heap.spanOf allocation).2)
      (state.heap.spanOf allocation).1
    omega
  · refine live.apart.imp_of_mem fun {first second} owned other apart => ?_
    rw [live.last_eq owned, live.last_eq other, live.onUnit first owned,
      live.onUnit second other, scaled, scaled]
    exact apart
  · intro allocation owned
    obtain ⟨blocks, result, released⟩ := live.free_result owned
    rw [result]
    refine ⟨rfl, fun unit => ?_⟩
    rw [MemMgr.InUse, released.units_iff, live.last_eq owned, live.onUnit allocation owned, scaled,
      below]
    rfl

end Spans

/-- A client that is never given an empty block has memory of its own for each allocation, in
every state it can reach. -/
theorem live_allocations {start stop block : Nat} {heap : MemMgr} {reached : Allocator}
    (created : MemMgr.init start stop block = .ok heap) (positive : 0 < block)
    (nonempty : start < stop)
    (steps : ReflTransGen (AllocatorStep MemMgr.Nonempty) ⟨heap, []⟩ reached) :
    OwnMemory start stop block reached := by
  exact ((LiveBlocks.fresh created positive nonempty).run steps).ownMemory nonempty

theorem live_allocations_two :
    OwnMemory 0x40 0x140 0x40
      ⟨⟨0x40, 4, [⟨1, true⟩, ⟨2, true⟩, ⟨1, false⟩], 0x40⟩, [⟨0x80, 0x41⟩, ⟨0x40, 0x20⟩]⟩ := by
  have created : MemMgr.init 0x40 0x140 0x40 = .ok ⟨0x40, 4, [⟨4, false⟩], 0x40⟩ := by
    rfl
  refine live_allocations created (by decide) (by decide) ?_
  have first : AllocatorStep MemMgr.Nonempty ⟨⟨0x40, 4, [⟨4, false⟩], 0x40⟩, []⟩
      ⟨⟨0x40, 4, [⟨1, true⟩, ⟨3, false⟩], 0x40⟩, [⟨0x40, 0x20⟩]⟩ :=
    AllocatorStep.malloc (Or.inl (by decide)) rfl
  exact (ReflTransGen.single first).tail (AllocatorStep.malloc (Or.inl (by decide)) rfl)

/-- The buffer of an empty string and the request block after it get one address. -/
theorem empty_allocation_shared :
    ¬∀ (start stop block : Nat) (heap : MemMgr) (reached : Allocator),
      MemMgr.init start stop block = .ok heap → 0 < block → start < stop →
        ReflTransGen (AllocatorStep fun _ _ => True) ⟨heap, []⟩ reached →
          OwnMemory start stop block reached := by
  intro claimed
  have created : MemMgr.init 0x11000000 0x12000000 0x40 =
      .ok ⟨0x11000000, 0x40000, [⟨0x40000, false⟩], 0x40⟩ := by
    rfl
  have first : AllocatorStep (fun _ _ => True)
      ⟨⟨0x11000000, 0x40000, [⟨0x40000, false⟩], 0x40⟩, []⟩
      ⟨⟨0x11000000, 0x40000, [⟨0, true⟩, ⟨0x40000, false⟩], 0x40⟩, [⟨0x11000000, 0⟩]⟩ :=
    AllocatorStep.malloc trivial rfl
  have second : AllocatorStep (fun _ _ => True)
      ⟨⟨0x11000000, 0x40000, [⟨0, true⟩, ⟨0x40000, false⟩], 0x40⟩, [⟨0x11000000, 0⟩]⟩
      ⟨⟨0x11000000, 0x40000, [⟨0, true⟩, ⟨1, true⟩, ⟨0x3ffff, false⟩], 0x40⟩,
        [⟨0x11000000, 32⟩, ⟨0x11000000, 0⟩]⟩ :=
    AllocatorStep.malloc trivial rfl
  have own := claimed _ _ _ _ _ created (by decide) (by decide)
    ((ReflTransGen.single first).tail second)
  exact absurd own.distinct (by decide)

end SkyeyeStarlet
