import SkyeyeStarlet.RequestBuffers

/-!
A posted request in the guest's memory, and its reply.  The block and the buffers of a request
are blocks of the heap beside those that the client holds; as long as the client frees only
what it holds, the reply finds them and gives them back.
-/

namespace SkyeyeStarlet

open BigEndian BlockList Relation

section Memory

variable {memory : Nat → BitVec 8}

def HoldsAt (memory : Nat → BitVec 8) (addr : Nat) (bytes : Bytes) : Prop :=
  bytesFrom memory addr bytes.length = bytes

def wordsAt (memory : Nat → BitVec 8) : Nat → Nat → List Nat
  | _, 0 => []
  | addr, count + 1 => decode (bytesFrom memory addr 4) :: wordsAt memory (addr + 4) count

theorem bytesFrom_append (addr first second : Nat) :
    bytesFrom memory addr (first + second) =
      bytesFrom memory addr first ++ bytesFrom memory (addr + first) second := by
  rw [bytesFrom, List.range_add, List.map_append, List.map_map, bytesFrom, bytesFrom]
  congr 1
  refine List.map_congr_left fun index _ => ?_
  rw [Function.comp_apply, Nat.add_assoc]

theorem wordsAt_encodeAll {words : List Nat} (small : ∀ word ∈ words, word < 2 ^ 32) {addr : Nat}
    (held : HoldsAt memory addr (encodeAll 4 words)) :
    wordsAt memory addr words.length = words := by
  induction words generalizing addr with
  | nil => rfl
  | cons word rest ih =>
      rw [HoldsAt, length_encodeAll, List.length_cons, Nat.mul_succ, Nat.add_comm,
        bytesFrom_append, encodeAll, List.flatMap_cons] at held
      obtain ⟨first, later⟩ := List.append_inj held (by rw [bytesFrom_length, length_encode])
      rw [List.length_cons, wordsAt, first, decode_encode_of_lt (small word List.mem_cons_self)]
      congr 1
      refine ih (fun word member => small word (List.mem_cons_of_mem _ member)) ?_
      rw [HoldsAt, length_encodeAll]
      exact later

theorem writeBytes_inside {addr index : Nat} {bytes : Bytes} (bound : index < bytes.length) :
    writeBytes memory addr bytes (addr + index) = bytes.get ⟨index, bound⟩ := by
  simp [writeBytes, bound]

theorem writeBytes_outside {addr cell : Nat} {bytes : Bytes}
    (outside : cell < addr ∨ addr + bytes.length ≤ cell) :
    writeBytes memory addr bytes cell = memory cell := by
  rw [writeBytes]
  split
  · rw [List.getD_eq_getElem?_getD, List.getElem?_eq_none (by omega), Option.getD_none]
  · rfl

theorem holdsAt_iff {addr : Nat} {bytes : Bytes} :
    HoldsAt memory addr bytes ↔
      ∀ index (bound : index < bytes.length), memory (addr + index) = bytes.get ⟨index, bound⟩ := by
  rw [HoldsAt]
  constructor
  · intro same index bound
    have cell := List.getElem_of_eq same (by rw [bytesFrom_length]; exact bound)
    simpa [bytesFrom] using cell
  · intro cells
    refine List.ext_getElem (by rw [bytesFrom_length]) fun index _ bound => ?_
    have cell := cells index bound
    simpa [bytesFrom] using cell

theorem writeAll_outside {created : List Written} {cell : Nat}
    (outside : ∀ written ∈ created,
      cell < written.addr ∨ written.addr + written.bytes.length ≤ cell) :
    writeAll memory created cell = memory cell := by
  induction created with
  | nil => rfl
  | cons written rest ih =>
      have later := ih fun other member => outside other (List.mem_cons_of_mem _ member)
      rw [writeAll, List.foldr_cons, ← writeAll,
        writeBytes_outside (outside written List.mem_cons_self), later]

theorem writeAll_holds {created : List Written}
    (apart : created.Pairwise fun first second =>
      first.addr + first.bytes.length ≤ second.addr ∨
        second.addr + second.bytes.length ≤ first.addr)
    {written : Written} (member : written ∈ created) :
    HoldsAt (writeAll memory created) written.addr written.bytes := by
  induction created with
  | nil => simp at member
  | cons last rest ih =>
      obtain ⟨lastApart, restApart⟩ := List.pairwise_cons.mp apart
      rw [holdsAt_iff]
      intro index bound
      rw [writeAll, List.foldr_cons, ← writeAll]
      rcases List.mem_cons.mp member with rfl | earlier
      · exact writeBytes_inside bound
      · have clear := lastApart written earlier
        rw [writeBytes_outside (by omega)]
        exact holdsAt_iff.mp (ih restApart earlier) index bound

end Memory

section Property

def IpcBuffer.allocation (buf : IpcBuffer) : Allocation :=
  { addr := buf.addr, size := buf.size }

def PostedRequest.blocks (request : PostedRequest) : List Allocation :=
  ⟨request.addr, 32⟩ :: request.freebufs.reverse.map IpcBuffer.allocation

def Allocation.Covers (allocation : Allocation) (addr : Nat) : Prop :=
  allocation.addr ≤ addr ∧ addr < allocation.last 64

def ClearOf (first second : Allocation) : Prop :=
  first.last 64 ≤ second.addr ∨ second.last 64 ≤ first.addr

structure GivenBack (start : Nat) (request : PostedRequest) (device : IpcDevice) : Prop where
  result : (device.ipcreply request.addr).1 =
    .ok (some (decode (bytesFrom device.memory (request.addr + 4) 4)))
  forgotten : (device.ipcreply request.addr).2.requests request.addr = none
  freed : ∀ unit, (device.ipcreply request.addr).2.mem.InUse unit ↔
    device.mem.InUse unit ∧ ∀ block ∈ request.blocks, ¬block.Covers (start + 64 * unit)

/-- A request in the guest's memory for a call, where the client held the blocks `live`.  The
reply may come after any other calls of the heap that leave the blocks of the request alone. -/
structure Marshalled (start : Nat) (live : List Allocation) (device after : IpcDevice)
    (call : IosRequest) (request : PostedRequest) : Prop where
  decodes : ∃ args,
    wordsAt after.memory request.addr 8 = call.cmd :: 0 :: call.fd.toNat :: args ∧
      call.Arguments (HoldsAt after.memory) args
  distinct : (request.blocks.map Allocation.addr).Nodup
  disjoint : request.blocks.Pairwise ClearOf
  beside : ∀ block ∈ request.blocks, ∀ other ∈ live, ClearOf block other
  frame : ∀ cell,
    (∀ block ∈ request.blocks, cell < block.addr ∨ block.addr + block.size ≤ cell) →
      after.memory cell = device.memory cell
  taken : ∀ unit, after.mem.InUse unit ↔
    device.mem.InUse unit ∨ ∃ block ∈ request.blocks, block.Covers (start + 64 * unit)
  released : ∀ later held,
    ReflTransGen (AllocatorStep MemMgr.Nonempty) ⟨after.mem, request.blocks ++ live⟩
        ⟨later.mem, held⟩ →
      request.blocks ⊆ held → later.requests request.addr = some request →
        GivenBack start request later

/-- A call posts a request for its operation, or the heap has no room for it. -/
structure Faithful (start : Nat) (live : List Allocation) (device : IpcDevice) (call : IosRequest) :
    Prop where
  posts : ∀ addr after, device.post call = (.ok addr, after) →
    ∃ request, after.requests addr = some request ∧ request.addr = addr ∧
      Marshalled start live device after call request
  raises : ∀ error after, device.post call = (.error error, after) →
    error = .exception "Out of memory"

end Property

section Release

variable {start stop : Nat} {heap : MemMgr} {owned : List Allocation}

theorem freeBuffers_live {bufs : List IpcBuffer} (nonempty : start < stop)
    (live : LiveBlocks start stop 64 ⟨heap, owned⟩)
    (distinct : (bufs.map IpcBuffer.allocation).Nodup)
    (held : ∀ buf ∈ bufs, buf.allocation ∈ owned) :
    ∃ mem rest, freeBuffers bufs heap = (.ok (), [], mem) ∧
      LiveBlocks start stop 64 ⟨mem, rest⟩ ∧
      (∀ allocation ∈ owned, allocation ∉ bufs.map IpcBuffer.allocation → allocation ∈ rest) ∧
      ∀ unit, mem.InUse unit ↔
        heap.InUse unit ∧ ∀ buf ∈ bufs, ¬buf.allocation.Covers (start + 64 * unit) := by
  induction bufs generalizing heap owned with
  | nil => exact ⟨heap, owned, rfl, live, by simp, by simp⟩
  | cons buf rest ih =>
      have mine := held buf List.mem_cons_self
      obtain ⟨blocks, result, -⟩ := live.free_result mine
      obtain ⟨-, units⟩ := (live.ownMemory nonempty).released buf.allocation mine
      have fewer := live.free mine
      dsimp only at result units fewer
      rw [result] at units fewer
      obtain ⟨different, distinct⟩ := List.nodup_cons.mp distinct
      have stillHeld (other : IpcBuffer) (member : other ∈ rest) :
          other.allocation ∈ owned.erase buf.allocation := by
        have unequal : other.allocation ≠ buf.allocation := by
          intro same
          rw [← same] at different
          exact different (List.mem_map_of_mem member)
        exact (List.mem_erase_of_ne unequal).mpr (held other (List.mem_cons_of_mem _ member))
      obtain ⟨mem, kept, done, liveAfter, others, unitsAfter⟩ := ih fewer distinct stillHeld
      refine ⟨mem, kept, ?_, liveAfter, ?_, ?_⟩
      · have step : heap.free buf.addr = (.ok (), { heap with blocks }) := result
        rw [freeBuffers, step]
        exact done
      · intro allocation member absent
        rw [List.map_cons, List.mem_cons, not_or] at absent
        exact others allocation ((List.mem_erase_of_ne absent.1).mpr member) absent.2
      · intro unit
        rw [unitsAfter, units, List.forall_mem_cons, and_assoc]
        rfl

theorem LiveBlocks.inUse_iff (live : LiveBlocks start stop 64 ⟨heap, owned⟩) (unit : Nat) :
    heap.InUse unit ↔ ∃ allocation ∈ owned, allocation.Covers (start + 64 * unit) := by
  have spanned (allocation : Allocation) (member : allocation ∈ owned) :
      allocation.Covers (start + 64 * unit) ↔ (heap.spanOf allocation).1 ≤ 0 + unit ∧
        0 + unit < (heap.spanOf allocation).1 + (heap.spanOf allocation).2 := by
    rw [Allocation.Covers, live.last_eq member, live.onUnit allocation member]
    dsimp only
    omega
  rw [MemMgr.InUse, units_iff_spans heap.blocks 0 unit]
  constructor
  · rintro ⟨span, listed, bounds⟩
    obtain ⟨allocation, member, rfl⟩ := List.mem_map.mp (live.used.symm.subset listed)
    exact ⟨allocation, member, (spanned allocation member).mpr bounds⟩
  · rintro ⟨allocation, member, covers⟩
    exact ⟨heap.spanOf allocation, live.used.subset (List.mem_map_of_mem member),
      (spanned allocation member).mp covers⟩

theorem LiveBlocks.sized (live : LiveBlocks start stop 64 ⟨heap, owned⟩) (nonempty : start < stop)
    (below : stop < 2 ^ 32) : WordHeap heap := by
  have total := live.heap.tidy.total
  have count := live.heap.count
  have offset := live.heap.offset
  refine ⟨live.heap.block, ?_, fun block member _ => live.heap.tidy.tidy.positive block member⟩
  dsimp only at total count offset
  rw [total, count, offset]
  omega

theorem givenBack_of_live {device : IpcDevice} {request : PostedRequest} {held : List Allocation}
    (nonempty : start < stop) (live : LiveBlocks start stop 64 ⟨device.mem, held⟩)
    (distinct : request.blocks.Nodup) (inside : request.blocks ⊆ held)
    (listed : device.requests request.addr = some request) :
    GivenBack start request device := by
  obtain ⟨notBuffer, buffersDistinct⟩ := List.nodup_cons.mp distinct
  rw [List.map_reverse, List.nodup_reverse] at buffersDistinct
  have buffersHeld (buf : IpcBuffer) (member : buf ∈ request.freebufs) :
      buf.allocation ∈ held := by
    refine inside (List.mem_cons_of_mem _ (List.mem_map_of_mem ?_))
    exact List.mem_reverse.mpr member
  obtain ⟨mem, rest, freed, liveAfter, others, units⟩ :=
    freeBuffers_live nonempty live buffersDistinct buffersHeld
  have blockHeld : (⟨request.addr, 32⟩ : Allocation) ∈ rest := by
    refine others _ (inside List.mem_cons_self) ?_
    rwa [List.map_reverse, List.mem_reverse] at notBuffer
  obtain ⟨blocks, result, -⟩ := liveAfter.free_result blockHeld
  obtain ⟨-, lastUnits⟩ := (liveAfter.ownMemory nonempty).released _ blockHeld
  dsimp only at result lastUnits
  rw [result] at lastUnits
  have replied : device.ipcreply request.addr =
      (.ok (some (decode (bytesFrom device.memory (request.addr + 4) 4))),
        { device with
          mem := { mem with blocks }
          requests := Function.update device.requests request.addr none }) := by
    rw [IpcDevice.ipcreply, listed]
    dsimp only
    rw [freed]
    dsimp only
    rw [result]
  constructor
  · rw [replied]
  · rw [replied]
    exact Function.update_self _ _ _
  · intro unit
    rw [replied]
    dsimp only
    rw [lastUnits, units, PostedRequest.blocks, List.forall_mem_cons, List.forall_mem_map]
    simp only [List.mem_reverse, Allocation.Covers]
    tauto

end Release

section Calls

variable {start stop : Nat} {live : List Allocation} {device : IpcDevice} {call : IosRequest}

def IpcDevice.preparing (device : IpcDevice) : Preparing :=
  { mem := device.mem, memory := device.memory, freebufs := [] }

variable {request : IosRequest} {args : List Nat} {created : List Written} {addr : Nat}
  {next : Preparing}

def IpcDevice.posted (device : IpcDevice) (addr : Nat) (prepared : Preparing) : IpcDevice :=
  { mem := prepared.mem
    memory := prepared.memory
    requests := Function.update device.requests addr (some ⟨addr, prepared.freebufs⟩) }

theorem Prepared.block_length
    (prepared : Prepared request device.preparing args created addr next) :
    (request.block args).length = 32 := by
  rw [IosRequest.block, length_encodeAll]
  simp only [List.length_cons, prepared.meant.length]

theorem Prepared.blocks (prepared : Prepared request device.preparing args created addr next) :
    (⟨addr, request.block args⟩ :: created).map Written.allocation =
      (PostedRequest.mk addr next.freebufs).blocks := by
  rw [PostedRequest.blocks, prepared.freebufs, IpcDevice.preparing, List.nil_append,
    List.reverse_reverse, List.map_map, List.map_cons, Written.allocation, prepared.block_length]
  rfl

theorem Prepared.words (prepared : Prepared request device.preparing args created addr next) :
    wordsAt next.memory addr 8 = request.cmd :: 0 :: request.fd.toNat :: args := by
  have held : HoldsAt next.memory addr (request.block args) := by
    rw [holdsAt_iff, prepared.memory]
    intro index bound
    exact writeBytes_inside bound
  have words := wordsAt_encodeAll prepared.small held
  rwa [List.length_cons, List.length_cons, List.length_cons, prepared.meant.length] at words

theorem Prepared.marshalled
    (prepared : Prepared request device.preparing args created addr next) (nonempty : start < stop)
    (before : LiveBlocks start stop 64 ⟨device.mem, live⟩) (full : 0 ∉ request.bufferSizes) :
    Marshalled start live device (device.posted addr next) request ⟨addr, next.freebufs⟩ := by
  have sizes : ∀ allocation ∈ (⟨addr, request.block args⟩ :: created).map Written.allocation,
      1 ≤ allocation.size := by
    intro allocation member
    rcases List.mem_cons.mp member with rfl | earlier
    · rw [Written.allocation, prepared.block_length]
      exact Nat.le_of_ble_eq_true rfl
    · rw [← prepared.sizes, writtenSizes, List.mem_reverse] at full
      refine Nat.one_le_iff_ne_zero.mpr fun empty => full ?_
      rw [← empty]
      exact List.mem_map_of_mem earlier
  have after := prepared.served.liveBlocks before sizes
  have own := after.ownMemory nonempty
  have pairwise := List.pairwise_append.mp own.disjoint
  have apart : (⟨addr, request.block args⟩ :: created).Pairwise fun first second =>
      first.addr + first.bytes.length ≤ second.addr ∨
        second.addr + second.bytes.length ≤ first.addr := by
    refine (List.pairwise_map.mp pairwise.1).imp fun {first second} clear => ?_
    have long (written : Written) : written.addr + written.bytes.length ≤
        written.allocation.last 64 := by
      rw [Allocation.last, Nat.ceilDiv_eq_add_pred_div, Written.allocation]
      dsimp only
      omega
    have firstLong := long first
    have secondLong := long second
    simp only [Written.allocation] at clear firstLong secondLong
    omega
  rw [prepared.blocks] at after own pairwise
  have distinct := own.distinct
  rw [List.map_append, List.nodup_append] at distinct
  have held (written : Written) (member : written ∈ created) :
      HoldsAt next.memory written.addr written.bytes := by
    rw [prepared.memory]
    exact writeAll_holds apart (List.mem_cons_of_mem _ member)
  refine ⟨⟨args, prepared.words, prepared.meant.mono fun addr bytes member => ?_⟩, distinct.1,
    pairwise.1, pairwise.2.2, ?_, ?_, ?_⟩
  · exact held ⟨addr, bytes⟩ member
  · intro cell outside
    rw [← prepared.blocks] at outside
    refine (congrFun prepared.memory cell).trans (writeAll_outside fun written member => ?_)
    exact outside written.allocation (List.mem_map_of_mem member)
  · intro unit
    have unitsAfter := after.inUse_iff unit
    have unitsBefore := before.inUse_iff unit
    rw [IpcDevice.posted, unitsAfter, unitsBefore]
    simp only [List.mem_append, or_and_right, exists_or]
    exact or_comm
  · intro later held steps inside listed
    have run := after.run steps
    exact givenBack_of_live nonempty run distinct.1.of_map inside listed

theorem async_prepared (result : request.prepare device.preparing = .ok addr next) :
    device.async request = (.ok addr, device.posted addr next) := by
  rw [IpcDevice.preparing] at result
  rw [IpcDevice.async, result]
  rfl

theorem async_failed {error : PyError}
    (result : request.prepare device.preparing = .error error next) :
    device.async request =
      (.error error, { device with mem := next.mem, memory := next.memory }) := by
  rw [IpcDevice.preparing] at result
  rw [IpcDevice.async, result]

theorem built_cases (typed : call.WellTyped) (noSeek : call.cmd ≠ 5) :
    ∃ request, call.built = .ok request ∧ request.WellTyped ∧
      request.bufferSizes = call.bufferSizes ∧
      (call.cmd = 4 ∧ request.cmd = 3 ∨ call.cmd ≠ 4 ∧ request = call) := by
  cases call with
  | iosOpen path mode => exact ⟨_, rfl, typed, rfl, Or.inr ⟨by simp [IosRequest.cmd], rfl⟩⟩
  | iosClose fd => exact ⟨_, rfl, typed, rfl, Or.inr ⟨by simp [IosRequest.cmd], rfl⟩⟩
  | iosRead fd buf size => exact ⟨_, rfl, typed, rfl, Or.inr ⟨by simp [IosRequest.cmd], rfl⟩⟩
  | iosWrite fd buf size => exact ⟨_, rfl, typed, rfl, Or.inl ⟨rfl, rfl⟩⟩
  | iosSeek fd position whence => exact absurd rfl noSeek
  | iosIoctl fd ioctl bufi bufo =>
      exact ⟨_, rfl, typed, rfl, Or.inr ⟨by simp [IosRequest.cmd], rfl⟩⟩
  | iosIoctlv fd ioctl format ioargs =>
      exact ⟨_, rfl, typed, rfl, Or.inr ⟨by simp [IosRequest.cmd], rfl⟩⟩

theorem built_seek (seek : call.cmd = 5) : call.built = .error .typeError := by
  cases call with
  | iosSeek fd position whence => rfl
  | iosOpen path mode => simp [IosRequest.cmd] at seek
  | iosClose fd => simp [IosRequest.cmd] at seek
  | iosRead fd buf size => simp [IosRequest.cmd] at seek
  | iosWrite fd buf size => simp [IosRequest.cmd] at seek
  | iosIoctl fd ioctl bufi bufo => simp [IosRequest.cmd] at seek
  | iosIoctlv fd ioctl format ioargs => simp [IosRequest.cmd] at seek

theorem Prepared.serves (prepared : Prepared request device.preparing args created addr next) :
    device.mem.Serves request.sizes := by
  have room := (prepared.served.serves []).mpr trivial
  rw [List.map_cons, List.map_cons, List.reverse_cons, ← writtenSizes, prepared.sizes,
    List.append_nil, Written.allocation, prepared.block_length] at room
  exact room

theorem Prepared.shared (prepared : Prepared request device.preparing args created addr next)
    (sized : WordHeap device.mem) (empty : 0 ∈ request.bufferSizes) :
    ¬((PostedRequest.mk addr next.freebufs).blocks.map Allocation.addr).Nodup := by
  rw [← prepared.sizes, writtenSizes, List.mem_reverse] at empty
  obtain ⟨allocation, member, none⟩ := List.mem_map.mp empty
  rw [← prepared.blocks]
  refine GivenOut.shared sized prepared.served ?_ member none
  rw [Written.allocation, prepared.block_length]
  simp

theorem faithful_posted_iff {after : IpcDevice} {posted : PostedRequest}
    (post : device.post call = (.ok addr, after)) (listed : after.requests addr = some posted)
    (place : posted.addr = addr) :
    Faithful start live device call ↔ Marshalled start live device after call posted := by
  constructor
  · intro faithful
    obtain ⟨request, found, -, marshalled⟩ := faithful.posts addr after post
    rw [listed] at found
    rwa [Option.some.inj found]
  · intro marshalled
    refine ⟨fun other later outcome => ?_, fun error later outcome => ?_⟩
    · rw [post] at outcome
      simp only [Prod.mk.injEq, Except.ok.injEq] at outcome
      obtain ⟨rfl, rfl⟩ := outcome
      exact ⟨posted, listed, place, marshalled⟩
    · rw [post] at outcome
      simp at outcome

theorem faithful_raised_iff {error : PyError} {after : IpcDevice}
    (post : device.post call = (.error error, after)) :
    Faithful start live device call ↔ error = .exception "Out of memory" := by
  constructor
  · intro faithful
    exact faithful.raises error after post
  · rintro rfl
    refine ⟨fun addr later outcome => ?_, fun other later outcome => ?_⟩
    · rw [post] at outcome
      simp at outcome
    · rw [post] at outcome
      simp only [Prod.mk.injEq, Except.error.injEq] at outcome
      exact outcome.1.symm

/-- A request is marshalled for a call whenever the call is not a seek and, where the heap has
room for it, neither a write nor one with an empty buffer. -/
theorem marshalled_iff {heap : MemMgr} (created : MemMgr.init start stop 64 = .ok heap)
    (nonempty : start < stop) (below : stop < 2 ^ 32)
    (steps : ReflTransGen (AllocatorStep MemMgr.Nonempty) ⟨heap, []⟩ ⟨device.mem, live⟩)
    (typed : call.WellTyped) :
    Faithful start live device call ↔
      call.cmd ≠ 5 ∧ (device.mem.Serves call.sizes → call.cmd ≠ 4 ∧ 0 ∉ call.bufferSizes) := by
  have before := (LiveBlocks.fresh created (by decide) nonempty).run steps
  have sized := before.sized nonempty below
  by_cases seek : call.cmd = 5
  · have post : device.post call = (.error .typeError, device) := by
      rw [IpcDevice.post, built_seek seek]
    rw [faithful_raised_iff post]
    simp [seek]
  · obtain ⟨request, built, typed, sizes, kind⟩ := built_cases typed seek
    have post : device.post call = device.async request := by
      rw [IpcDevice.post, built]
    have allSizes : request.sizes = call.sizes := by
      rw [IosRequest.sizes, IosRequest.sizes, sizes]
    rw [← allSizes, ← sizes]
    rcases @prepare_cases request typed device.preparing sized with
      ⟨args, created, addr, next, result, prepared⟩ | ⟨next, failed, full⟩
    · rw [async_prepared result] at post
      rw [faithful_posted_iff post (Function.update_self _ _ _) rfl]
      constructor
      · intro marshalled
        refine ⟨seek, fun _ => ⟨fun write => ?_, fun empty => ?_⟩⟩
        · obtain ⟨words, decoded, -⟩ := marshalled.decodes
          have number := List.head_eq_of_cons_eq (prepared.words.symm.trans decoded)
          omega
        · exact prepared.shared sized empty marshalled.distinct
      · rintro ⟨-, condition⟩
        obtain ⟨noWrite, full⟩ := condition prepared.serves
        rcases kind with ⟨write, -⟩ | ⟨-, rfl⟩
        · exact absurd write noWrite
        · exact prepared.marshalled nonempty before full
    · rw [async_failed failed] at post
      rw [faithful_raised_iff post]
      exact ⟨fun _ => ⟨seek, fun room => absurd room full⟩, fun _ => rfl⟩

def freshDevice : IpcDevice :=
  { mem := ⟨0x11000000, 0x40000, [⟨0x40000, false⟩], 64⟩
    memory := fun _ => 0#8
    requests := fun _ => none }

theorem marshalled_ioctlv :
    Faithful 0x11000000 [] freshDevice
      (.iosIoctlv 3#32 5#32 ['b', 'd', ':', 'd']
        [.int (-1), .str [0x41#8, 0x42#8], .tuple 0x10000000#32 16#32]) := by
  have typed : (IosRequest.iosIoctlv 3#32 5#32 ['b', 'd', ':', 'd']
      [.int (-1), .str [0x41#8, 0x42#8], .tuple 0x10000000#32 16#32]).WellTyped := by
    refine List.Forall₂.cons trivial (List.Forall₂.cons ⟨rfl, trivial⟩ ?_)
    exact List.Forall₂.cons ⟨rfl, trivial⟩ List.Forall₂.nil
  have condition := @marshalled_iff 0x11000000 0x12000000 [] freshDevice _ freshDevice.mem rfl
    (by decide) (by decide) .refl typed
  exact condition.mpr ⟨by decide, fun _ => ⟨by decide, by decide⟩⟩

/-- `IOSWrite` posts the number of a read. -/
theorem write_posts_read :
    ¬∀ (start stop : Nat) (heap : MemMgr) (live : List Allocation) (device : IpcDevice)
      (call : IosRequest), MemMgr.init start stop 64 = .ok heap → start < stop → stop < 2 ^ 32 →
        ReflTransGen (AllocatorStep fun _ _ => True) ⟨heap, []⟩ ⟨device.mem, live⟩ →
          call.WellTyped → Faithful start live device call := by
  intro claimed
  let call : IosRequest := .iosWrite 3#32 (.str [0x41#8]) none
  have faithful := claimed 0x11000000 0x12000000 freshDevice.mem [] freshDevice call rfl
    (by decide) (by decide) .refl trivial
  have posted : freshDevice.post call = (.ok 0x11000040, (freshDevice.post call).2) := by
    rfl
  have number : (wordsAt (freshDevice.post call).2.memory 0x11000040 8).head? = some 3 := by
    rfl
  obtain ⟨request, -, place, marshalled⟩ := faithful.posts _ _ posted
  obtain ⟨args, decoded, -⟩ := marshalled.decodes
  rw [place] at decoded
  rw [decoded] at number
  simp [call, IosRequest.cmd] at number

end Calls

end SkyeyeStarlet
