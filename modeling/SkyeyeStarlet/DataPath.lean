import SkyeyeStarlet.Library.Runs
import SkyeyeStarlet.MemoryBytes

/-!
The data path of the arm926ejs as translated memory.  The data cache and the write buffer
are never filled, so every access that the permission check lets through is an access to
memory at the translated address.
-/

namespace SkyeyeStarlet

/-- What can happen to the unit and the memory behind it.  A device or the loader may
write any memory; a data abort records its fault. -/
inductive MmuEvent where
  | read (size : AccessSize) (mode : ModeNum) (address : ARMword)
  | write (size : AccessSize) (mode : ModeNum) (address data : ARMword)
  | fetch (mode : ModeNum) (address : ARMword)
  | mcr (instr value : ARMword)
  | mrc (instr : ARMword)
  | recordFault (status address : ARMword)
  | poke (index : BitVec 30) (value : ARMword)

def mmuStep (signals : Signals) (mem : MmuMemory) : MmuEvent → MmuMemory
  | .read size mode address => (arm926ejsMmuRead signals size mode address mem).mem
  | .write size mode address data => (arm926ejsMmuWrite signals size mode address data mem).mem
  | .fetch mode address => (arm926ejsMmuLoadInstr signals mode address mem).mem
  | .mcr instr value => arm926ejsMmuMcr signals instr value mem
  | .mrc instr => (arm926ejsMmuMrc signals instr mem).1
  | .recordFault status address =>
      { mem with mmu := { mem.mmu with faultStatus := status, faultAddress := address } }
  | .poke index value => { mem with ram := Function.update mem.ram index value }

section EmptyCache

variable {bits : Nat}

def Cache.Empty (cache : Cache bits) : Prop :=
  ∀ set way, (cache.line set way).tag.getLsbD 0 = false

theorem Cache.line_setLine (cache : Cache bits) (set other : BitVec bits) (way way' : BitVec 2)
    (line : CacheLine) :
    (cache.setLine set way line).line other way' =
      if other = set ∧ way' = way then line else cache.line other way' := by
  unfold Cache.setLine Cache.line
  dsimp only
  by_cases sameSet : other = set
  · subst sameSet
    rw [Function.update_self]
    dsimp only
    by_cases sameWay : way' = way
    · subst sameWay
      rw [Function.update_self, if_pos ⟨rfl, rfl⟩]
    · rw [Function.update_of_ne sameWay, if_neg (fun same => sameWay same.2)]
  · rw [Function.update_of_ne sameSet, if_neg (fun same => sameSet same.1)]

theorem writeBackRam_invalid (ram : Ram) {line : CacheLine} (invalid : line.tag.getLsbD 0 = false) :
    writeBackRam ram line = ram := by
  rw [writeBackRam, invalid]
  rfl

theorem writeBack_empty {cached : Cached bits} (empty : cached.cache.Empty) (set : BitVec bits)
    (way : BitVec 2) :
    (mmuCacheWriteBack cached set way).cache.Empty ∧
      (mmuCacheWriteBack cached set way).ram = cached.ram := by
  refine ⟨?_, writeBackRam_invalid _ (empty set way)⟩
  intro other way'
  rw [mmuCacheWriteBack, Cache.line_setLine]
  split
  · rw [cleanLine, empty set way]
    exact empty set way
  · exact empty other way'

theorem dropLine_empty {cached : Cached bits} (empty : cached.cache.Empty) (set : BitVec bits)
    (way : BitVec 2) :
    (dropLine cached set way).cache.Empty ∧ (dropLine cached set way).ram = cached.ram := by
  obtain ⟨kept, ram⟩ := writeBack_empty empty set way
  refine ⟨?_, ram⟩
  intro other way'
  unfold dropLine
  dsimp only
  rw [Cache.line_setLine]
  split
  · exact BitVec.getLsbD_zero
  · exact kept other way'

theorem search_empty {cache : Cache bits} (empty : cache.Empty) (va : ARMword) :
    mmuCacheSearch cache va = none := by
  refine List.find?_eq_none.mpr ?_
  intro way _ hit
  have invalid : ((cache.sets (vaCacheSet bits va)).lines way).tag.getLsbD 0 = false := empty _ way
  rw [lineHit, invalid] at hit
  exact absurd hit (by simp)

theorem invalidateAll_empty {cached : Cached bits} (empty : cached.cache.Empty) :
    (mmuCacheInvalidateAll cached).cache.Empty ∧
      (mmuCacheInvalidateAll cached).ram = cached.ram := by
  unfold mmuCacheInvalidateAll
  induction allLines bits generalizing cached with
  | nil => exact ⟨empty, rfl⟩
  | cons line rest ih =>
      obtain ⟨kept, ram⟩ := dropLine_empty empty line.1 line.2
      obtain ⟨last, same⟩ := ih kept
      exact ⟨last, same.trans ram⟩

theorem invalidate_empty {cached : Cached bits} (empty : cached.cache.Empty) (va : ARMword) :
    mmuCacheInvalidate cached va = cached := by
  rw [mmuCacheInvalidate, search_empty empty]

theorem clean_empty {cached : Cached bits} (empty : cached.cache.Empty) (va : ARMword) :
    mmuCacheClean cached va = cached := by
  rw [mmuCacheClean, search_empty empty]

theorem emptyCache_empty : (emptyCache bits).Empty := by
  intro set way
  exact BitVec.getLsbD_zero

end EmptyCache

structure DataEmpty (mem : MmuMemory) : Prop where
  dCache : mem.mmu.dCache.Empty
  wb : mem.mmu.wb = []

theorem dataEmpty_drained (signals : Signals) {mem : MmuMemory} (empty : DataEmpty mem) :
    drained signals mem = mem := by
  cases mem with
  | mk mmu ram =>
      have none : mmu.wb = [] := empty.wb
      cases mmu
      subst none
      rfl

theorem dataEmpty_withDCache {mem : MmuMemory} (empty : DataEmpty mem)
    {operation : Cached 5 → Cached 5}
    (keeps : ∀ cached : Cached 5, cached.cache.Empty →
      (operation cached).cache.Empty ∧ (operation cached).ram = cached.ram) :
    DataEmpty (withDCache mem operation) ∧ (withDCache mem operation).ram = mem.ram := by
  obtain ⟨kept, ram⟩ := keeps ⟨mem.mmu.dCache, mem.ram⟩ empty.dCache
  exact ⟨⟨kept, empty.wb⟩, ram⟩

theorem dataEmpty_withICache {mem : MmuMemory} (empty : DataEmpty mem)
    (operation : Cached 6 → Cached 6) : DataEmpty (withICache mem operation) := by
  exact ⟨empty.dCache, empty.wb⟩

theorem dataEmpty_cacheOps (signals : Signals) (instr value : ARMword) {mem : MmuMemory}
    (empty : DataEmpty mem) : DataEmpty (arm926ejsMmuCacheOps signals instr value mem).1 := by
  have cleaned (cached : Cached 5) (kept : cached.cache.Empty) :
      (mmuCacheClean cached value).cache.Empty ∧
        (mmuCacheClean cached value).ram = cached.ram := by
    rw [clean_empty kept]
    exact ⟨kept, rfl⟩
  have dropped (cached : Cached 5) (kept : cached.cache.Empty) :
      (mmuCacheInvalidate cached value).cache.Empty ∧
        (mmuCacheInvalidate cached value).ram = cached.ram := by
    rw [invalidate_empty kept]
    exact ⟨kept, rfl⟩
  unfold arm926ejsMmuCacheOps
  split <;> dsimp only
  · exact (dataEmpty_withDCache (dataEmpty_withICache empty _)
      (fun _ => invalidateAll_empty)).1
  · exact dataEmpty_withICache empty _
  · exact dataEmpty_withICache empty _
  · exact dataEmpty_withICache empty _
  · exact (dataEmpty_withDCache empty (fun _ => invalidateAll_empty)).1
  · exact (dataEmpty_withDCache empty dropped).1
  · exact (dataEmpty_withDCache empty (fun _ kept => dropLine_empty kept _ _)).1
  · exact (dataEmpty_withDCache empty cleaned).1
  · exact (dataEmpty_withDCache (dataEmpty_withDCache empty cleaned).1 dropped).1
  · exact (dataEmpty_withDCache empty (fun _ kept => writeBack_empty kept _ _)).1
  · exact (dataEmpty_withDCache
      (dataEmpty_withDCache empty (fun _ kept => writeBack_empty kept _ _)).1
      (fun _ kept => dropLine_empty kept _ _)).1
  · exact empty
  · exact empty
  · rw [dataEmpty_drained signals empty]
    exact empty
  · exact empty

section Translation

variable (signals : Signals)

def translation (mem : MmuMemory) (va : ARMword) : Option TlbEntry :=
  let result := translate (walkConfig signals mem) mem.mmu.mainTlb mem.mmu.lastDomain va
  result.slot.map result.tlb.entrys

theorem mmuTranslate_frame (mode : ModeNum) (read : Bool) (va : ARMword) (mem : MmuMemory) :
    ∃ mainTlb lastDomain, (mmuTranslate signals mode read va mem).mem =
      { mem with mmu := { mem.mmu with mainTlb, lastDomain } } := by
  unfold mmuTranslate
  dsimp only
  split
  · exact ⟨_, _, rfl⟩
  · split
    · exact ⟨_, _, rfl⟩
    · exact ⟨_, _, rfl⟩

theorem walk_error_code {config : WalkConfig} {va : ARMword} {failure : WalkFault}
    (failed : walk config va = .error failure) : failure.code = .pageTranslationFault := by
  have page {l1desc l2desc : ARMword} {mapping : Option TlbMapping}
      (failed : pageEntry l1desc l2desc va mapping = .error failure) :
      failure.code = .pageTranslationFault := by
    cases mapping with
    | none =>
        cases failed
        rfl
    | some mapping => exact nomatch failed
  unfold walk at failed
  dsimp only at failed
  split at failed
  · cases failed
    rfl
  · split at failed
    · exact page failed
    · split at failed
      · exact page failed
      · exact nomatch failed

theorem translate_fault {num : Nat} (config : WalkConfig) (tlb : Tlb num) (lastDomain va : ARMword) :
    (translate config tlb lastDomain va).slot = none ↔
      (translate config tlb lastDomain va).fault ≠ .noFault := by
  unfold translate
  split
  · simp
  · split
    · rename_i failure failed
      simp [walk_error_code failed]
    · simp

theorem mmuTranslate_entry (mode : ModeNum) (read : Bool) (va : ARMword) (mem : MmuMemory)
    (entry : TlbEntry) :
    (mmuTranslate signals mode read va mem).entry = some entry ↔
      translation signals mem va = some entry ∧
        checkAccess mem.mmu mode va entry read = .noFault := by
  unfold mmuTranslate translation
  dsimp only
  split
  · rename_i missing
    simp [missing]
  · rename_i slot found
    rw [found, Option.map_some]
    split
    · rename_i allowed
      constructor
      · intro same
        cases same
        exact ⟨rfl, allowed⟩
      · exact fun same => same.1
    · rename_i refused
      constructor
      · intro same
        exact nomatch same
      · rintro ⟨same, allowed⟩
        cases same
        exact absurd allowed refused

theorem mmuTranslate_fault (mode : ModeNum) (read : Bool) (va : ARMword) (mem : MmuMemory) :
    (mmuTranslate signals mode read va mem).fault = .noFault ↔
      (mmuTranslate signals mode read va mem).entry.isSome = true := by
  unfold mmuTranslate
  dsimp only
  split
  · rename_i missing
    have fault := (translate_fault _ _ _ _).mp missing
    simp [fault]
  · split
    · simp
    · rename_i refused
      exact ⟨fun allowed => absurd allowed refused, fun found => nomatch found⟩

def SamePage (va other : ARMword) : Prop :=
  ∀ index, 10 ≤ index → va.getLsbD index = other.getLsbD index

theorem samePage_and (va : ARMword) {mask : ARMword}
    (ones : ∀ index < 32, 10 ≤ index → mask.getLsbD index = true) :
    SamePage (va &&& mask) va := by
  intro index high
  rw [BitVec.getLsbD_and]
  by_cases bound : index < 32
  · rw [ones index bound high, Bool.and_true]
  · rw [BitVec.getLsbD_of_ge _ _ (by omega)]
    rfl

theorem samePage_word (va : ARMword) : SamePage (va &&& ~~~3#32) va := by
  exact samePage_and va (by decide)

theorem SamePage.and_eq {va other mask : ARMword} (same : SamePage va other)
    (low : mask &&& 0x3ff#32 = 0#32) : va &&& mask = other &&& mask := by
  apply BitVec.eq_of_getLsbD_eq
  intro index bound
  have page : ∀ index < 10, (0x3ff#32).getLsbD index = true := by decide
  rw [BitVec.getLsbD_and, BitVec.getLsbD_and]
  by_cases high : 10 ≤ index
  · rw [same index high]
  · have bit := congrArg (BitVec.getLsbD · index) low
    simp only [BitVec.getLsbD_and, page index (by omega), Bool.and_true, BitVec.getLsbD_zero] at bit
    rw [bit, Bool.and_false, Bool.and_false]

theorem SamePage.shift_eq {va other : ARMword} (same : SamePage va other) {amount : Nat}
    (high : 10 ≤ amount) : va >>> amount = other >>> amount := by
  apply BitVec.eq_of_getLsbD_eq
  intro index _
  rw [BitVec.getLsbD_ushiftRight, BitVec.getLsbD_ushiftRight]
  exact same _ (by omega)

theorem tlbMasks_low (mapping : TlbMapping) : tlbMasks mapping &&& 0x3ff#32 = 0#32 := by
  cases mapping <;> decide

theorem walk_samePage (config : WalkConfig) {va other : ARMword} (same : SamePage va other) :
    walk config va = walk config other := by
  have masked (desc perms domain : ARMword) (mapping : TlbMapping) :
      maskedEntry va desc perms domain mapping = maskedEntry other desc perms domain mapping := by
    rw [maskedEntry, maskedEntry, same.and_eq (tlbMasks_low mapping)]
  have page (l1desc l2desc : ARMword) (mapping : Option TlbMapping) :
      pageEntry l1desc l2desc va mapping = pageEntry l1desc l2desc other mapping := by
    cases mapping with
    | none => rfl
    | some mapping => rw [pageEntry, pageEntry, masked]
  have first : l1Addr config va = l1Addr config other := by
    rw [l1Addr, l1Addr, same.shift_eq (by decide)]
  have fine (l1desc : ARMword) : fineL2Addr l1desc va = fineL2Addr l1desc other := by
    rw [fineL2Addr, fineL2Addr, same.and_eq (by decide)]
  have coarse (l1desc : ARMword) : coarseL2Addr l1desc va = coarseL2Addr l1desc other := by
    rw [coarseL2Addr, coarseL2Addr, same.and_eq (by decide)]
  unfold walk
  simp only [first, fine, coarse, masked, page]

theorem translate_samePage {num : Nat} (config : WalkConfig) (tlb : Tlb num)
    (lastDomain : ARMword) {va other : ARMword} (same : SamePage va other) :
    translate config tlb lastDomain va = translate config tlb lastDomain other := by
  have hits : (fun slot => tlbHit va (tlb.entrys slot)) =
      fun slot => tlbHit other (tlb.entrys slot) := by
    funext slot
    rw [tlbHit, tlbHit, same.and_eq (tlbMasks_low _)]
  have search : mmuTlbSearch tlb va = mmuTlbSearch tlb other := by
    rw [mmuTlbSearch, mmuTlbSearch, hits]
  rw [translate, translate, search, walk_samePage config same]

theorem translation_samePage (mem : MmuMemory) {va other : ARMword} (same : SamePage va other) :
    translation signals mem va = translation signals mem other := by
  rw [translation, translation, translate_samePage _ _ _ same]

theorem translation_word (mem : MmuMemory) (va : ARMword) :
    translation signals mem (va &&& ~~~3#32) = translation signals mem va := by
  exact translation_samePage signals mem (samePage_word va)

theorem checkAccess_samePage (mmu : MmuState) (mode : ModeNum) {va other : ARMword}
    (same : SamePage va other) (entry : TlbEntry) (read : Bool) :
    checkAccess mmu mode va entry read = checkAccess mmu mode other entry read := by
  have page : subpage va entry.mapping = subpage other entry.mapping := by
    cases entry.mapping <;> simp only [subpage]
    · rw [same.shift_eq (by decide)]
    · rw [same.shift_eq (by decide)]
  rw [checkAccess, checkAccess, page]

theorem checkAccess_word (mmu : MmuState) (mode : ModeNum) (va : ARMword) (entry : TlbEntry)
    (read : Bool) :
    checkAccess mmu mode (va &&& ~~~3#32) entry read = checkAccess mmu mode va entry read := by
  exact checkAccess_samePage mmu mode (samePage_word va) entry read

theorem getLsbD_tlbVaToPa (entry : TlbEntry) (va : ARMword) (index : Nat) (bound : index < 32) :
    (tlbVaToPa entry va).getLsbD index =
      if (tlbMasks entry.mapping).getLsbD index then entry.physAddr.getLsbD index
      else va.getLsbD index := by
  rw [tlbVaToPa, BitVec.getLsbD_or, BitVec.getLsbD_and, BitVec.getLsbD_and, BitVec.getLsbD_not]
  cases (tlbMasks entry.mapping).getLsbD index <;> simp [bound]

theorem tlbMasks_bit (mapping : TlbMapping) {index : Nat} (low : index < 10) :
    (tlbMasks mapping).getLsbD index = false := by
  have bits : ∀ index < 10, (tlbMasks mapping).getLsbD index = false := by
    cases mapping <;> decide
  exact bits index low

theorem tlbVaToPa_and (entry : TlbEntry) (va : ARMword) {mask : ARMword}
    (high : ∀ index < 32, 10 ≤ index → mask.getLsbD index = true) :
    tlbVaToPa entry (va &&& mask) = tlbVaToPa entry va &&& mask := by
  apply BitVec.eq_of_getLsbD_eq
  intro index bound
  rw [BitVec.getLsbD_and, getLsbD_tlbVaToPa _ _ _ bound, getLsbD_tlbVaToPa _ _ _ bound,
    BitVec.getLsbD_and]
  by_cases low : index < 10
  · rw [tlbMasks_bit _ low]
    rfl
  · rw [high index bound (by omega), Bool.and_true, Bool.and_true]

theorem tlbVaToPa_word (entry : TlbEntry) (va : ARMword) :
    tlbVaToPa entry (va &&& ~~~3#32) = tlbVaToPa entry va &&& ~~~3#32 := by
  exact tlbVaToPa_and entry va (by decide)

theorem tlbVaToPa_low (entry : TlbEntry) (size : AccessSize) {va : ARMword}
    (aligned : sizeAlign size va = va) :
    tlbVaToPa entry (va &&& ~~~3#32) ||| lowBits size va = tlbVaToPa entry va := by
  have kept : lowBits size va = va &&& 3#32 := by
    obtain ⟨word, place, rfl⟩ := exists_byteAddress va
    have placed := aligned_place aligned
    have two := byteAddress_and word place 2#2
    have three := byteAddress_and word place 3#2
    cases size with
    | byte => rfl
    | halfword =>
        have low : place &&& 3#2 = place &&& 2#2 := by
          clear two three aligned
          revert place
          decide
        exact two.trans ((congrArg _ low.symm).trans three.symm)
    | word =>
        have low : place &&& 3#2 = 0#2 := placed
        exact Eq.symm (three.trans (congrArg (BitVec.setWidth 32) low))
  rw [kept, tlbVaToPa_word]
  apply BitVec.eq_of_getLsbD_eq
  intro index bound
  have mask : ∀ index < 32, (~~~3#32).getLsbD index = decide (2 ≤ index) := by decide
  have three : ∀ index < 32, (3#32).getLsbD index = decide (index < 2) := by decide
  rw [BitVec.getLsbD_or, BitVec.getLsbD_and, BitVec.getLsbD_and, mask _ bound, three _ bound]
  by_cases low : index < 2
  · rw [getLsbD_tlbVaToPa _ _ _ bound, tlbMasks_bit _ (by omega)]
    simp [low, show ¬2 ≤ index by omega]
  · simp [low, show 2 ≤ index by omega]

theorem flushWindow_word (pa : ARMword) : flushWindow (pa &&& ~~~3#32) = flushWindow pa := by
  obtain ⟨word, place, rfl⟩ := exists_byteAddress pa
  have aligned := byteAddress_and_not word place 3#2
  have zero : ∀ place : BitVec 2, place &&& ~~~3#2 = 0#2 := by decide
  rw [zero] at aligned
  have start : byteAddress word place &&& ~~~3#32 = byteAddress word 0#2 := aligned
  have bound := place.isLt
  rw [start, Bool.eq_iff_iff]
  simp only [flushWindow, Bool.and_eq_true, decide_eq_true_eq, BitVec.le_def, BitVec.lt_def,
    toNat_byteAddress, BitVec.toNat_ofNat]
  omega

end Translation

section Accesses

variable {signals : Signals} {mem : MmuMemory}

inductive PhysicalAt (signals : Signals) (mem : MmuMemory) (mode : ModeNum) (read : Bool)
    (va : ARMword) : ARMword → Prop
  | off : mmuEnabled mem.mmu = false → PhysicalAt signals mem mode read va va
  | translated (entry : TlbEntry) : mmuEnabled mem.mmu = true →
      translation signals mem va = some entry →
      checkAccess mem.mmu mode va entry read = .noFault →
      PhysicalAt signals mem mode read va (tlbVaToPa entry va)

theorem sizeAlign_pidVaMap (mmu : MmuState) {size : AccessSize} {address : ARMword}
    (aligned : sizeAlign size address = address) :
    sizeAlign size (mmuPidVaMap mmu address) = mmuPidVaMap mmu address := by
  unfold mmuPidVaMap
  split
  · exact aligned
  · have high : (mmu.processId &&& 0xfe000000#32) &&& ~~~sizeMask size =
        mmu.processId &&& 0xfe000000#32 := by
      have mask : 0xfe000000#32 &&& ~~~sizeMask size = 0xfe000000#32 := by
        cases size <;> decide
      rw [BitVec.and_assoc, mask]
    have low : address &&& ~~~sizeMask size = address := aligned
    rw [sizeAlign, BitVec.and_or_distrib_right, low, high]

theorem alignmentFails_of_aligned (mmu : MmuState) {size : AccessSize} {va : ARMword}
    (aligned : sizeAlign size va = va) : alignmentFails mmu size va = false := by
  obtain ⟨word, place, rfl⟩ := exists_byteAddress va
  have placed := aligned_place aligned
  have masked := byteAddress_and word place (placeMask size)
  rw [placed] at masked
  unfold alignmentFails
  cases size with
  | byte => exact Bool.and_false _
  | halfword =>
      have zero : byteAddress word place &&& 1#32 = 0#32 := masked
      rw [zero]
      exact Bool.and_false _
  | word =>
      have zero : byteAddress word place &&& 3#32 = 0#32 := masked
      rw [zero]
      exact Bool.and_false _

theorem dataEmpty_frame (empty : DataEmpty mem) (mainTlb : Tlb 64) (lastDomain : ARMword) :
    DataEmpty { mem with mmu := { mem.mmu with mainTlb, lastDomain } } := by
  exact ⟨empty.dCache, empty.wb⟩

theorem dataEmpty_translate (signals : Signals) (empty : DataEmpty mem) (mode : ModeNum) (read : Bool)
    (va : ARMword) :
    DataEmpty (mmuTranslate signals mode read va mem).mem ∧
      (mmuTranslate signals mode read va mem).mem.ram = mem.ram := by
  obtain ⟨mainTlb, lastDomain, same⟩ := mmuTranslate_frame signals mode read va mem
  rw [same]
  exact ⟨dataEmpty_frame empty mainTlb lastDomain, rfl⟩

theorem readTranslated_empty (signals : Signals) (empty : DataEmpty mem) (size : AccessSize) (va : ARMword)
    (entry : TlbEntry) :
    DataEmpty (readTranslated signals size va entry mem).mem ∧
      (readTranslated signals size va entry mem).mem.ram = mem.ram ∧
      (readTranslated signals size va entry mem).fault = .noFault := by
  unfold readTranslated
  dsimp only
  split
  · split
    · have before : (Cached.mk mem.mmu.dCache mem.ram).cache.Empty := empty.dCache
      obtain ⟨kept, ram⟩ := dropLine_empty before
        ((tlbVaToPa entry (va &&& ~~~3#32)).extractLsb' 7 5)
        ((tlbVaToPa entry (va &&& ~~~3#32)).extractLsb' 5 2)
      exact ⟨⟨kept, empty.wb⟩, ram, rfl⟩
    · exact ⟨empty, rfl, rfl⟩
  · rw [dataEmpty_drained signals empty, mmuDCacheEnabled, Bool.and_false,
      if_neg Bool.false_ne_true, ite_self]
    exact ⟨empty, rfl, rfl⟩

theorem readTranslated_data (empty : DataEmpty mem) {size : AccessSize} {va : ARMword}
    (aligned : sizeAlign size va = va) {entry : TlbEntry}
    (outside : flushWindow (tlbVaToPa entry va) = false) :
    (readTranslated signals size va entry mem).data =
      some (bankRead signals.bigendSig mem.ram size (tlbVaToPa entry va)) := by
  unfold readTranslated
  dsimp only
  rw [tlbVaToPa_low entry size aligned, tlbVaToPa_word, flushWindow_word, outside,
    if_neg Bool.false_ne_true, dataEmpty_drained signals empty, mmuDCacheEnabled, Bool.and_false,
    if_neg Bool.false_ne_true, ite_self]

theorem writeTranslated_eq (empty : DataEmpty mem) {size : AccessSize} {va : ARMword}
    (aligned : sizeAlign size va = va) (data : ARMword) (entry : TlbEntry) :
    writeTranslated signals size va data entry mem =
      bankWritten signals size (tlbVaToPa entry va) data mem := by
  unfold writeTranslated
  dsimp only
  rw [search_empty empty.dCache]
  dsimp only
  rw [tlbVaToPa_low entry size aligned, dataEmpty_drained signals empty]
  split
  · rfl
  · rfl

theorem lookup_cases (enabled : mmuEnabled mem.mmu = true) (mode : ModeNum) (read : Bool)
    (va : ARMword) :
    let found := mmuTranslate signals mode read (va &&& ~~~3#32) mem
    (found.entry = none ∧ found.fault ≠ .noFault ∧
        ∀ pa, ¬PhysicalAt signals mem mode read va pa) ∨
      ∃ entry, found.entry = some entry ∧
        ∀ pa, PhysicalAt signals mem mode read va pa ↔ pa = tlbVaToPa entry va := by
  intro found
  have entries := fun entry => mmuTranslate_entry signals mode read (va &&& ~~~3#32) mem entry
  simp only [translation_word, checkAccess_word] at entries
  have faults := mmuTranslate_fault signals mode read (va &&& ~~~3#32) mem
  have split (pa : ARMword) : PhysicalAt signals mem mode read va pa ↔
      ∃ entry, found.entry = some entry ∧ pa = tlbVaToPa entry va := by
    constructor
    · intro physical
      cases physical with
      | off disabled => exact absurd (disabled.symm.trans enabled) Bool.false_ne_true
      | translated entry _ translated allowed =>
          exact ⟨entry, (entries entry).mpr ⟨translated, allowed⟩, rfl⟩
    · rintro ⟨entry, same, rfl⟩
      obtain ⟨translated, allowed⟩ := (entries entry).mp same
      exact .translated entry enabled translated allowed
  cases same : found.entry with
  | none =>
      refine Or.inl ⟨rfl, ?_, ?_⟩
      · intro fault
        have some := faults.mp fault
        rw [show (mmuTranslate signals mode read (va &&& ~~~3#32) mem).entry = none from same] at some
        exact nomatch some
      · intro pa physical
        obtain ⟨entry, there, _⟩ := (split pa).mp physical
        rw [same] at there
        exact nomatch there
  | some entry =>
      refine Or.inr ⟨entry, rfl, ?_⟩
      intro pa
      rw [split pa]
      constructor
      · rintro ⟨other, there, rfl⟩
        rw [same] at there
        cases there
        rfl
      · rintro rfl
        exact ⟨entry, same, rfl⟩

theorem physicalAt_off (disabled : mmuEnabled mem.mmu = false) (mode : ModeNum) (read : Bool)
    (va pa : ARMword) : PhysicalAt signals mem mode read va pa ↔ pa = va := by
  constructor
  · intro physical
    cases physical with
    | off _ => rfl
    | translated entry on _ _ => exact absurd (disabled.symm.trans on) Bool.false_ne_true
  · rintro rfl
    exact .off disabled

theorem read_spec (empty : DataEmpty mem) {size : AccessSize} (mode : ModeNum)
    {address : ARMword} (aligned : sizeAlign size address = address) :
    let va := mmuPidVaMap mem.mmu address
    let result := arm926ejsMmuRead signals size mode address mem
    DataEmpty result.mem ∧ result.mem.ram = mem.ram ∧
      (result.fault = .noFault ↔ ∃ pa, PhysicalAt signals mem mode true va pa) ∧
      ∀ pa, PhysicalAt signals mem mode true va pa → flushWindow pa = false →
        result.data = some (bankRead signals.bigendSig mem.ram size pa) := by
  have alignedVa := sizeAlign_pidVaMap mem.mmu aligned
  unfold arm926ejsMmuRead
  dsimp only
  generalize mmuPidVaMap mem.mmu address = va at alignedVa ⊢
  cases enabled : mmuEnabled mem.mmu with
  | false =>
      rw [Bool.not_false, if_pos rfl]
      refine ⟨empty, rfl, ⟨fun _ => ⟨va, .off enabled⟩, fun _ => rfl⟩, ?_⟩
      intro pa physical _
      rw [(physicalAt_off enabled mode true va pa).mp physical]
  | true =>
      obtain ⟨kept, ram⟩ := dataEmpty_translate signals empty mode true (va &&& ~~~3#32)
      rw [Bool.not_true, if_neg Bool.false_ne_true, alignmentFails_of_aligned mem.mmu alignedVa,
        if_neg Bool.false_ne_true]
      rcases lookup_cases enabled mode true va with ⟨missing, fault, nowhere⟩ | ⟨entry, found, there⟩
      · rw [missing]
        refine ⟨kept, ram, ⟨fun none => absurd none fault,
          fun physical => absurd physical.choose_spec (nowhere _)⟩, ?_⟩
        intro pa physical _
        exact absurd physical (nowhere pa)
      · rw [found]
        obtain ⟨last, same, fault⟩ := readTranslated_empty signals kept size va entry
        refine ⟨last, same.trans ram, ⟨fun _ => ⟨_, (there _).mpr rfl⟩, fun _ => fault⟩, ?_⟩
        intro pa physical outside
        have address := (there pa).mp physical
        subst address
        rw [← ram]
        exact readTranslated_data kept alignedVa outside

theorem write_spec (empty : DataEmpty mem) {size : AccessSize} (mode : ModeNum)
    {address : ARMword} (aligned : sizeAlign size address = address) (data : ARMword) :
    let va := mmuPidVaMap mem.mmu address
    let result := arm926ejsMmuWrite signals size mode address data mem
    DataEmpty result.mem ∧
      (result.fault = .noFault ↔ ∃ pa, PhysicalAt signals mem mode false va pa) ∧
      (result.fault ≠ .noFault → result.mem.ram = mem.ram) ∧
      ∀ pa, PhysicalAt signals mem mode false va pa →
        result.mem.ram = bankWrite signals.bigendSig mem.ram size pa data := by
  have alignedVa := sizeAlign_pidVaMap mem.mmu aligned
  unfold arm926ejsMmuWrite
  dsimp only
  generalize mmuPidVaMap mem.mmu address = va at alignedVa ⊢
  cases enabled : mmuEnabled mem.mmu with
  | false =>
      rw [Bool.not_false, if_pos rfl]
      refine ⟨⟨empty.dCache, empty.wb⟩, ⟨fun _ => ⟨va, .off enabled⟩, fun _ => rfl⟩,
        fun fault => absurd rfl fault, ?_⟩
      intro pa physical
      rw [(physicalAt_off enabled mode false va pa).mp physical]
      rfl
  | true =>
      obtain ⟨kept, ram⟩ := dataEmpty_translate signals empty mode false (va &&& ~~~3#32)
      rw [Bool.not_true, if_neg Bool.false_ne_true, alignmentFails_of_aligned mem.mmu alignedVa,
        if_neg Bool.false_ne_true]
      rcases lookup_cases enabled mode false va with
        ⟨missing, fault, nowhere⟩ | ⟨entry, found, there⟩
      · rw [missing]
        refine ⟨kept, ⟨fun none => absurd none fault,
          fun physical => absurd physical.choose_spec (nowhere _)⟩, fun _ => ram, ?_⟩
        intro pa physical
        exact absurd physical (nowhere pa)
      · rw [found]
        dsimp only
        rw [writeTranslated_eq kept alignedVa data entry]
        refine ⟨⟨kept.dCache, kept.wb⟩, ⟨fun _ => ⟨_, (there _).mpr rfl⟩, fun _ => rfl⟩,
          fun fault => absurd rfl fault, ?_⟩
        intro pa physical
        rw [(there pa).mp physical, bankWritten, ram]

theorem dataEmpty_fetch (signals : Signals) (empty : DataEmpty mem) (mode : ModeNum)
    (address : ARMword) : DataEmpty (arm926ejsMmuLoadInstr signals mode address mem).mem := by
  have fetched {mem : MmuMemory} (empty : DataEmpty mem) (va pa : ARMword) (cacheable : Bool) :
      DataEmpty (fetchTranslated signals va pa cacheable mem).mem := by
    unfold fetchTranslated
    split
    · exact empty
    · split
      · exact ⟨empty.dCache, empty.wb⟩
      · exact empty
  unfold arm926ejsMmuLoadInstr
  dsimp only
  split
  · obtain ⟨kept, _⟩ := dataEmpty_translate signals empty mode true (mmuPidVaMap mem.mmu address)
    split
    · exact kept
    · exact fetched kept _ _ _
  · exact fetched empty _ _ _

theorem dataEmpty_read (signals : Signals) (empty : DataEmpty mem) (size : AccessSize)
    (mode : ModeNum) (address : ARMword) :
    DataEmpty (arm926ejsMmuRead signals size mode address mem).mem := by
  unfold arm926ejsMmuRead
  dsimp only
  split
  · exact empty
  · split
    · exact empty
    · obtain ⟨kept, _⟩ := dataEmpty_translate signals empty mode true
        (mmuPidVaMap mem.mmu address &&& ~~~3#32)
      split
      · exact kept
      · exact (readTranslated_empty signals kept _ _ _).1

theorem dataEmpty_writeTranslated (signals : Signals) (empty : DataEmpty mem)
    (size : AccessSize) (va data : ARMword) (entry : TlbEntry) :
    DataEmpty (writeTranslated signals size va data entry mem) := by
  unfold writeTranslated
  dsimp only
  rw [search_empty empty.dCache, dataEmpty_drained signals empty]
  dsimp only
  split
  · exact ⟨empty.dCache, empty.wb⟩
  · exact ⟨empty.dCache, empty.wb⟩

theorem dataEmpty_write (signals : Signals) (empty : DataEmpty mem) (size : AccessSize)
    (mode : ModeNum) (address data : ARMword) :
    DataEmpty (arm926ejsMmuWrite signals size mode address data mem).mem := by
  unfold arm926ejsMmuWrite
  dsimp only
  split
  · exact ⟨empty.dCache, empty.wb⟩
  · split
    · exact empty
    · obtain ⟨kept, _⟩ := dataEmpty_translate signals empty mode false
        (mmuPidVaMap mem.mmu address &&& ~~~3#32)
      split
      · exact kept
      · exact dataEmpty_writeTranslated signals kept _ _ _ _

theorem dataEmpty_mcr (signals : Signals) (empty : DataEmpty mem) (instr value : ARMword) :
    DataEmpty (arm926ejsMmuMcr signals instr value mem) := by
  have registers (mmu : MmuState) (dCache : mmu.dCache = mem.mmu.dCache)
      (wb : mmu.wb = mem.mmu.wb) : DataEmpty { mem with mmu } := by
    refine ⟨?_, wb.trans empty.wb⟩
    rw [dCache]
    exact empty.dCache
  unfold arm926ejsMmuMcr
  dsimp only
  split
  · exact registers _ rfl rfl
  · exact registers _ rfl rfl
  · exact registers _ rfl rfl
  · split
    · exact registers _ rfl rfl
    · exact empty
  · exact registers _ rfl rfl
  · exact dataEmpty_cacheOps signals instr value empty
  · unfold arm926ejsMmuTlbOps
    split
    · split
      · exact registers _ rfl rfl
      · split
        · exact registers _ rfl rfl
        · exact empty
    · exact empty
  · exact registers _ rfl rfl
  · exact registers _ rfl rfl
  · exact empty

theorem dataEmpty_mrc (signals : Signals) (empty : DataEmpty mem) (instr : ARMword) :
    DataEmpty (arm926ejsMmuMrc signals instr mem).1 := by
  unfold arm926ejsMmuMrc
  split
  case h_7 => exact dataEmpty_cacheOps signals instr 0#32 empty
  all_goals exact empty

theorem dataEmpty_step (signals : Signals) (mem : MmuMemory) (event : MmuEvent)
    (empty : DataEmpty mem) : DataEmpty (mmuStep signals mem event) := by
  cases event with
  | read size mode address => exact dataEmpty_read signals empty size mode address
  | write size mode address data => exact dataEmpty_write signals empty size mode address data
  | fetch mode address => exact dataEmpty_fetch signals empty mode address
  | mcr instr value => exact dataEmpty_mcr signals empty instr value
  | mrc instr => exact dataEmpty_mrc signals empty instr
  | recordFault status address => exact ⟨empty.dCache, empty.wb⟩
  | poke index value => exact ⟨empty.dCache, empty.wb⟩

def Reachable (signals : Signals) (mem : MmuMemory) : Prop :=
  ∃ ram events, mem = Runs.run (mmuStep signals) ⟨arm926ejsMmuInit, ram⟩ events

theorem dataEmpty_of_reachable {signals : Signals} (reachable : Reachable signals mem) :
    DataEmpty mem := by
  obtain ⟨ram, events, rfl⟩ := reachable
  have start : DataEmpty ⟨arm926ejsMmuInit, ram⟩ := ⟨emptyCache_empty, rfl⟩
  exact Runs.run_invariant (mmuStep signals) DataEmpty (dataEmpty_step signals) _ start events

/-- The access succeeds, returns the memory at its physical address, and changes no
memory. -/
structure ReadsMemory (signals : Signals) (mem : MmuMemory) (size : AccessSize) (mode : ModeNum)
    (address : ARMword) : Prop where
  succeeds : (arm926ejsMmuRead signals size mode address mem).fault = .noFault ↔
    ∃ pa, PhysicalAt signals mem mode true (mmuPidVaMap mem.mmu address) pa
  returns : ∀ pa, PhysicalAt signals mem mode true (mmuPidVaMap mem.mmu address) pa →
    flushWindow pa = false →
      (arm926ejsMmuRead signals size mode address mem).data =
        some (bankRead signals.bigendSig mem.ram size pa)
  keeps : (arm926ejsMmuRead signals size mode address mem).mem.ram = mem.ram
  empty : DataEmpty (arm926ejsMmuRead signals size mode address mem).mem

/-- A write succeeds and changes the bytes at its physical address, or changes nothing. -/
structure WritesMemory (signals : Signals) (mem : MmuMemory) (size : AccessSize) (mode : ModeNum)
    (address data : ARMword) : Prop where
  succeeds : (arm926ejsMmuWrite signals size mode address data mem).fault = .noFault ↔
    ∃ pa, PhysicalAt signals mem mode false (mmuPidVaMap mem.mmu address) pa
  stores : ∀ pa, PhysicalAt signals mem mode false (mmuPidVaMap mem.mmu address) pa →
    ∀ byte, bankRead signals.bigendSig
        (arm926ejsMmuWrite signals size mode address data mem).mem.ram .byte byte =
      if sizeAlign size byte = pa then dataByte signals.bigendSig size data byte
      else bankRead signals.bigendSig mem.ram .byte byte
  faults : (arm926ejsMmuWrite signals size mode address data mem).fault ≠ .noFault →
    (arm926ejsMmuWrite signals size mode address data mem).mem.ram = mem.ram
  empty : DataEmpty (arm926ejsMmuWrite signals size mode address data mem).mem

theorem readsMemory (signals : Signals) (empty : DataEmpty mem) {size : AccessSize} (mode : ModeNum)
    {address : ARMword} (aligned : sizeAlign size address = address) :
    ReadsMemory signals mem size mode address := by
  obtain ⟨kept, ram, succeeds, returns⟩ := read_spec empty mode aligned
  exact ⟨succeeds, returns, ram, kept⟩

theorem PhysicalAt.aligned {mode : ModeNum} {read : Bool} {size : AccessSize} {va pa : ARMword}
    (physical : PhysicalAt signals mem mode read va pa) (aligned : sizeAlign size va = va) :
    sizeAlign size pa = pa := by
  cases physical with
  | off _ => exact aligned
  | translated entry _ _ _ =>
      apply BitVec.eq_of_getLsbD_eq
      intro index bound
      have bit := congrArg (BitVec.getLsbD · index) aligned
      have mask : ∀ index < 32, (~~~sizeMask size).getLsbD index = true ∨ index < 2 := by
        cases size <;> decide
      simp only [sizeAlign, BitVec.getLsbD_and] at bit ⊢
      rw [getLsbD_tlbVaToPa _ _ _ bound]
      rcases mask index bound with high | low
      · rw [high, Bool.and_true]
      · rw [tlbMasks_bit _ (by omega)]
        exact bit

theorem writesMemory (signals : Signals) (empty : DataEmpty mem) {size : AccessSize} (mode : ModeNum)
    {address : ARMword} (aligned : sizeAlign size address = address) (data : ARMword) :
    WritesMemory signals mem size mode address data := by
  obtain ⟨kept, succeeds, faults, stores⟩ := write_spec empty mode aligned data
  refine ⟨succeeds, ?_, faults, kept⟩
  intro pa physical byte
  rw [stores pa physical]
  exact bankRead_byte_bankWrite _ _ _
    (physical.aligned (sizeAlign_pidVaMap mem.mmu aligned)) data byte

/-- A later read, of any width and through any alias, returns the bytes of a write at
`pa` and the old bytes elsewhere. -/
def SeesWrite (signals : Signals) (ram : Ram) (after : MmuMemory) (size : AccessSize)
    (pa data : ARMword) : Prop :=
  ∀ (size' : AccessSize) (mode : ModeNum) (address pa' : ARMword),
    sizeAlign size' address = address →
    PhysicalAt signals after mode true (mmuPidVaMap after.mmu address) pa' →
    flushWindow pa' = false →
    ∃ value, (arm926ejsMmuRead signals size' mode address after).data = some value ∧
      ∀ byte, sizeAlign size' byte = pa' →
        dataByte signals.bigendSig size' value byte =
          if sizeAlign size byte = pa then dataByte signals.bigendSig size data byte
          else bankRead signals.bigendSig ram .byte byte

theorem seesWrite {size : AccessSize} {mode : ModeNum} {address data pa : ARMword}
    (writes : WritesMemory signals mem size mode address data)
    (physical : PhysicalAt signals mem mode false (mmuPidVaMap mem.mmu address) pa) :
    SeesWrite signals mem.ram (arm926ejsMmuWrite signals size mode address data mem).mem size pa
      data := by
  intro size' mode' other pa' aligned readable outside
  have reads := readsMemory signals writes.empty mode' aligned
  refine ⟨_, reads.returns pa' readable outside, ?_⟩
  rintro byte rfl
  rw [dataByte_bankRead]
  exact writes.stores pa physical byte

/-- The data path is translated memory, in every state the unit reaches. -/
theorem data_path_translated (signals : Signals) (mem : MmuMemory)
    (reachable : Reachable signals mem) :
    DataEmpty mem ∧
      ∀ (size : AccessSize) (mode : ModeNum) (address : ARMword),
        sizeAlign size address = address →
        ReadsMemory signals mem size mode address ∧
          ∀ data, WritesMemory signals mem size mode address data ∧
            ∀ pa, PhysicalAt signals mem mode false (mmuPidVaMap mem.mmu address) pa →
              SeesWrite signals mem.ram
                (arm926ejsMmuWrite signals size mode address data mem).mem size pa data := by
  have empty := dataEmpty_of_reachable reachable
  refine ⟨empty, ?_⟩
  intro size mode address aligned
  refine ⟨readsMemory signals empty mode aligned, ?_⟩
  intro data
  have writes := writesMemory signals empty mode aligned data
  exact ⟨writes, fun pa physical => seesWrite writes physical⟩

/-- Two sections of one megabyte, at `0x00100000` and at `0x00300000`, of the same memory. -/
def aliasedSections : Ram :=
  fun index => if index = 0x1001#30 ∨ index = 0x1003#30 then 0x00200c02#32 else 0#32

def enablingEvents : List MmuEvent :=
  [.mcr 0xee020f10#32 0x4000#32, .mcr 0xee030f10#32 0x1#32, .mcr 0xee010f10#32 0x52079#32]

theorem physicalAt_get {mode : ModeNum} {read : Bool} {va pa : ARMword}
    (enabled : mmuEnabled mem.mmu = true) (found : (translation signals mem va).isSome = true)
    (allowed : checkAccess mem.mmu mode va ((translation signals mem va).get found) read =
      .noFault)
    (place : tlbVaToPa ((translation signals mem va).get found) va = pa) :
    PhysicalAt signals mem mode read va pa := by
  rw [← place]
  exact PhysicalAt.translated _ enabled (Option.some_get found).symm allowed

/-- A word that User mode writes through one section is read, a byte of it, in Supervisor mode
through the other. -/
theorem data_path_translated_alias :
    let signals : Signals := ⟨true, false, 0x41069265#32⟩
    let mem := Runs.run (mmuStep signals) ⟨arm926ejsMmuInit, aliasedSections⟩ enablingEvents
    let written := arm926ejsMmuWrite signals .word user32mode 0x00100010#32 0x1234#32 mem
    mmuEnabled mem.mmu = true ∧ written.fault = .noFault ∧
      ∃ value, (arm926ejsMmuRead signals .byte svc32mode 0x00300013#32 written.mem).data =
        some value ∧ dataByte signals.bigendSig .byte value 0x00200013#32 = 0x34#32 := by
  intro signals mem written
  have path := (data_path_translated signals mem ⟨aliasedSections, enablingEvents, rfl⟩).2 .word
    user32mode 0x00100010#32 (by decide)
  have enabled : mmuEnabled mem.mmu = true := by decide +kernel
  have physical : PhysicalAt signals mem user32mode false (mmuPidVaMap mem.mmu 0x00100010#32)
      0x00200010#32 :=
    physicalAt_get enabled (by decide +kernel) (by decide +kernel) (by decide +kernel)
  have aliased : PhysicalAt signals written.mem svc32mode true
      (mmuPidVaMap written.mem.mmu 0x00300013#32) 0x00200013#32 :=
    physicalAt_get (by decide +kernel) (by decide +kernel) (by decide +kernel) (by decide +kernel)
  obtain ⟨writes, sees⟩ := path.2 0x1234#32
  obtain ⟨value, read, bytes⟩ := sees _ physical .byte svc32mode _ _ (by decide) aliased
    (by decide)
  refine ⟨enabled, writes.succeeds.mpr ⟨_, physical⟩, value, read, ?_⟩
  rw [bytes 0x00200013#32 (by decide)]
  decide

end Accesses

end SkyeyeStarlet
