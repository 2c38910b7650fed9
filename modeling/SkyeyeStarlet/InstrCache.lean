import SkyeyeStarlet.DataPath

/-!
The instruction cache under the maintenance discipline of the architecture.  A line that
is not marked as touched holds the memory that its address is mapped to; a fetch fills or
reads such a line, an invalidation clears the mark, and no operation writes memory.
-/

namespace SkyeyeStarlet

section Lines

variable {bits : Nat}

def CacheLine.valid (line : CacheLine) : Bool :=
  line.tag.getLsbD 0

/-- Every valid line lies in the set of its address and no other way of the set has the
same address; no line is dirty. -/
structure CacheSound (cache : Cache bits) : Prop where
  placed : ∀ set way, (cache.line set way).valid = true →
    vaCacheSet bits (cache.line set way).tag = set
  unique : ∀ set way way', (cache.line set way).valid = true →
    (cache.line set way').valid = true →
    vaCacheAlign (cache.line set way).tag = vaCacheAlign (cache.line set way').tag → way = way'
  clean : ∀ set way,
    (cache.line set way).tag.getLsbD 1 = false ∧ (cache.line set way).tag.getLsbD 2 = false

def LinesFrom (before after : Cache bits) : Prop :=
  ∀ set way, after.line set way = before.line set way ∨ (after.line set way).tag = 0#32

theorem LinesFrom.refl (cache : Cache bits) : LinesFrom cache cache := by
  exact fun _ _ => Or.inl rfl

theorem LinesFrom.trans {first second third : Cache bits} (start : LinesFrom first second)
    (rest : LinesFrom second third) : LinesFrom first third := by
  intro set way
  rcases rest set way with same | dropped
  · rw [same]
    exact start set way
  · exact Or.inr dropped

theorem valid_of_tag {line : CacheLine} (tag : line.tag = 0#32) : line.valid = false := by
  rw [CacheLine.valid, tag]
  exact BitVec.getLsbD_zero

theorem LinesFrom.same {before after : Cache bits} (lines : LinesFrom before after)
    {set : BitVec bits} {way : BitVec 2} (valid : (after.line set way).valid = true) :
    after.line set way = before.line set way := by
  rcases lines set way with same | dropped
  · exact same
  · rw [valid_of_tag dropped] at valid
    exact absurd valid Bool.false_ne_true

theorem CacheSound.of_linesFrom {before after : Cache bits} (sound : CacheSound before)
    (lines : LinesFrom before after) : CacheSound after := by
  refine ⟨?_, ?_, ?_⟩
  · intro set way valid
    have same := lines.same valid
    rw [same] at valid ⊢
    exact sound.placed set way valid
  · intro set way way' valid valid' tags
    have same := lines.same valid
    have same' := lines.same valid'
    rw [same] at valid tags
    rw [same'] at valid' tags
    exact sound.unique set way way' valid valid' tags
  · intro set way
    rcases lines set way with same | dropped
    · rw [same]
      exact sound.clean set way
    · rw [dropped]
      exact ⟨BitVec.getLsbD_zero, BitVec.getLsbD_zero⟩

theorem writeBackRam_clean (ram : Ram) {line : CacheLine}
    (clean : line.tag.getLsbD 1 = false ∧ line.tag.getLsbD 2 = false) :
    writeBackRam ram line = ram := by
  rw [writeBackRam, clean.1, clean.2]
  split <;> rfl

theorem line_dropLine (cached : Cached bits) (set other : BitVec bits) (way way' : BitVec 2) :
    (dropLine cached set way).cache.line other way' =
      if other = set ∧ way' = way then
        { cleanLine (cached.cache.line set way) with tag := 0#32 }
      else cached.cache.line other way' := by
  unfold dropLine mmuCacheWriteBack
  dsimp only
  rw [Cache.line_setLine]
  by_cases here : other = set ∧ way' = way
  · rw [if_pos here, if_pos here, Cache.line_setLine, if_pos ⟨rfl, rfl⟩]
  · rw [if_neg here, if_neg here, Cache.line_setLine, if_neg here]

theorem linesFrom_dropLine (cached : Cached bits) (set : BitVec bits) (way : BitVec 2) :
    LinesFrom cached.cache (dropLine cached set way).cache := by
  intro other way'
  rw [line_dropLine]
  split
  · exact Or.inr rfl
  · exact Or.inl rfl

theorem dropLine_ram {cached : Cached bits} (sound : CacheSound cached.cache) (set : BitVec bits)
    (way : BitVec 2) : (dropLine cached set way).ram = cached.ram := by
  exact writeBackRam_clean _ (sound.clean set way)

structure Dropped (before after : Cached bits) : Prop where
  lines : LinesFrom before.cache after.cache
  ram : after.ram = before.ram

theorem Dropped.trans {first second third : Cached bits} (start : Dropped first second)
    (rest : Dropped second third) : Dropped first third := by
  exact ⟨start.lines.trans rest.lines, rest.ram.trans start.ram⟩

theorem dropped_dropLine {cached : Cached bits} (sound : CacheSound cached.cache)
    (set : BitVec bits) (way : BitVec 2) : Dropped cached (dropLine cached set way) := by
  exact ⟨linesFrom_dropLine cached set way, dropLine_ram sound set way⟩

theorem mem_ways (way : BitVec 2) : way ∈ ways := by
  revert way
  decide

theorem mem_allLines (set : BitVec bits) (way : BitVec 2) : (set, way) ∈ allLines bits := by
  refine List.mem_flatMap.mpr ⟨set.toNat, List.mem_range.mpr set.isLt, ?_⟩
  refine List.mem_map.mpr ⟨way, mem_ways way, ?_⟩
  rw [BitVec.ofNat_toNat, BitVec.setWidth_eq]

theorem dropAll (list : List (BitVec bits × BitVec 2)) {cached : Cached bits}
    (sound : CacheSound cached.cache) :
    let after := list.foldl (fun cached line => dropLine cached line.1 line.2) cached
    Dropped cached after ∧
      ∀ set way, (set, way) ∈ list ∨ (cached.cache.line set way).tag = 0#32 →
        (after.cache.line set way).tag = 0#32 := by
  induction list generalizing cached with
  | nil =>
      refine ⟨⟨LinesFrom.refl _, rfl⟩, ?_⟩
      rintro set way (member | invalid)
      · exact absurd member List.not_mem_nil
      · exact invalid
  | cons line rest ih =>
      have first := dropped_dropLine sound line.1 line.2
      obtain ⟨later, invalid⟩ := ih (sound.of_linesFrom first.lines)
      refine ⟨first.trans later, ?_⟩
      intro set way reason
      apply invalid
      rcases reason with member | before
      · rcases List.mem_cons.mp member with same | member
        · refine Or.inr ?_
          rw [line_dropLine, if_pos ⟨congrArg Prod.fst same, congrArg Prod.snd same⟩]
        · exact Or.inl member
      · refine Or.inr ?_
        rw [line_dropLine]
        split
        · rfl
        · exact before

theorem invalidateAll_spec {cached : Cached bits} (sound : CacheSound cached.cache) :
    Dropped cached (mmuCacheInvalidateAll cached) ∧
      ∀ set way, ((mmuCacheInvalidateAll cached).cache.line set way).tag = 0#32 := by
  obtain ⟨dropped, invalid⟩ := dropAll (allLines bits) sound
  exact ⟨dropped, fun set way => invalid set way (Or.inl (mem_allLines set way))⟩

theorem search_some {cache : Cache bits} {va : ARMword} {way : BitVec 2}
    (found : mmuCacheSearch cache va = some way) :
    (cache.line (vaCacheSet bits va) way).valid = true ∧
      vaCacheAlign (cache.line (vaCacheSet bits va) way).tag = vaCacheAlign va := by
  have hit := List.find?_some found
  rw [lineHit, Bool.and_eq_true, beq_iff_eq] at hit
  exact ⟨hit.1, hit.2.symm⟩

theorem search_none {cache : Cache bits} {va : ARMword} (missing : mmuCacheSearch cache va = none)
    (way : BitVec 2) (valid : (cache.line (vaCacheSet bits va) way).valid = true) :
    vaCacheAlign (cache.line (vaCacheSet bits va) way).tag ≠ vaCacheAlign va := by
  intro same
  have miss := List.find?_eq_none.mp missing way (mem_ways way)
  refine miss ?_
  rw [lineHit, Bool.and_eq_true, beq_iff_eq]
  exact ⟨valid, same.symm⟩

theorem vaCacheSet_of_align (fits : bits ≤ 27) {va other : ARMword}
    (same : vaCacheAlign va = vaCacheAlign other) : vaCacheSet bits va = vaCacheSet bits other := by
  have high : ∀ index < 32, 5 ≤ index → (~~~31#32).getLsbD index = true := by decide
  apply BitVec.eq_of_getLsbD_eq
  intro index bound
  have bit := congrArg (BitVec.getLsbD · (5 + index)) same
  simp only [vaCacheAlign, BitVec.getLsbD_and, high (5 + index) (by omega) (by omega),
    Bool.and_true] at bit
  simp only [vaCacheSet, BitVec.getLsbD_extractLsb', bit]

theorem invalidate_spec (fits : bits ≤ 27) {cached : Cached bits}
    (sound : CacheSound cached.cache) (va : ARMword) :
    Dropped cached (mmuCacheInvalidate cached va) ∧
      ∀ set way, ((mmuCacheInvalidate cached va).cache.line set way).valid = true →
        vaCacheAlign ((mmuCacheInvalidate cached va).cache.line set way).tag ≠ vaCacheAlign va := by
  have located {set : BitVec bits} {way : BitVec 2}
      (valid : (cached.cache.line set way).valid = true)
      (same : vaCacheAlign (cached.cache.line set way).tag = vaCacheAlign va) :
      set = vaCacheSet bits va :=
    (sound.placed set way valid).symm.trans (vaCacheSet_of_align fits same)
  unfold mmuCacheInvalidate
  cases found : mmuCacheSearch cached.cache va with
  | none =>
      refine ⟨⟨LinesFrom.refl _, rfl⟩, ?_⟩
      intro set way valid same
      have set_eq := located valid same
      subst set_eq
      exact search_none found way valid same
  | some hit =>
      have dropped := dropped_dropLine sound (vaCacheSet bits va) hit
      obtain ⟨valid, tag⟩ := search_some found
      refine ⟨dropped, ?_⟩
      intro set way valid' same
      have kept := dropped.lines.same valid'
      rw [kept] at same
      have before : (cached.cache.line set way).valid = true := by
        rw [← kept]
        exact valid'
      have set_eq := located before same
      subst set_eq
      have way_eq := sound.unique _ way hit before valid (same.trans tag.symm)
      subst way_eq
      have tag_zero : ((dropLine cached (vaCacheSet bits va) way).cache.line
          (vaCacheSet bits va) way).tag = 0#32 := by
        rw [line_dropLine, if_pos ⟨rfl, rfl⟩]
      rw [valid_of_tag tag_zero] at valid'
      exact absurd valid' Bool.false_ne_true

theorem fillLine_tag (ram : Ram) (va pa : ARMword) :
    (fillLine ram va pa).valid = true ∧
      vaCacheAlign (fillLine ram va pa).tag = vaCacheAlign va ∧
      (fillLine ram va pa).tag.getLsbD 1 = false ∧ (fillLine ram va pa).tag.getLsbD 2 = false := by
  have low : ∀ index < 5, (~~~31#32).getLsbD index = false := by decide
  have one : ∀ index < 32, (1#32).getLsbD index = decide (index = 0) := by decide
  refine ⟨?_, ?_, ?_, ?_⟩
  · show (vaCacheAlign va ||| 1#32).getLsbD 0 = true
    rw [BitVec.getLsbD_or, one 0 (by decide)]
    simp
  · show (vaCacheAlign va ||| 1#32) &&& ~~~31#32 = va &&& ~~~31#32
    rw [BitVec.and_or_distrib_right, vaCacheAlign, BitVec.and_assoc, BitVec.and_self]
    exact BitVec.or_zero
  · show (vaCacheAlign va ||| 1#32).getLsbD 1 = false
    rw [BitVec.getLsbD_or, vaCacheAlign, BitVec.getLsbD_and, low 1 (by decide),
      one 1 (by decide)]
    simp
  · show (vaCacheAlign va ||| 1#32).getLsbD 2 = false
    rw [BitVec.getLsbD_or, vaCacheAlign, BitVec.getLsbD_and, low 2 (by decide),
      one 2 (by decide)]
    simp

theorem line_alloc (cached : Cached bits) (va pa : ARMword) (set : BitVec bits)
    (way : BitVec 2) :
    (mmuCacheAlloc cached va pa).1.cache.line set way =
      if set = vaCacheSet bits va ∧ way = (cached.cache.sets (vaCacheSet bits va)).cycle then
        (mmuCacheAlloc cached va pa).2
      else cached.cache.line set way := by
  unfold mmuCacheAlloc Cache.line
  dsimp only
  by_cases sameSet : set = vaCacheSet bits va
  · subst sameSet
    rw [Function.update_self]
    dsimp only
    by_cases sameWay : way = (cached.cache.sets (vaCacheSet bits va)).cycle
    · subst sameWay
      rw [Function.update_self, if_pos ⟨rfl, rfl⟩]
    · rw [Function.update_of_ne sameWay, if_neg (fun same => sameWay same.2)]
  · rw [Function.update_of_ne sameSet, if_neg (fun same => sameSet same.1)]

theorem alloc_ram {cached : Cached bits} (sound : CacheSound cached.cache) (va pa : ARMword) :
    (mmuCacheAlloc cached va pa).1.ram = cached.ram ∧
      (mmuCacheAlloc cached va pa).2 = fillLine cached.ram va pa := by
  have evicted : writeBackRam cached.ram (cached.cache.line (vaCacheSet bits va)
      (cached.cache.sets (vaCacheSet bits va)).cycle) = cached.ram :=
    writeBackRam_clean _ (sound.clean _ _)
  refine ⟨evicted, ?_⟩
  show fillLine (writeBackRam cached.ram _) va pa = _
  rw [evicted]

theorem alloc_sound (fits : bits ≤ 27) {cached : Cached bits} (sound : CacheSound cached.cache)
    {va : ARMword} (missing : mmuCacheSearch cached.cache va = none) (pa : ARMword) :
    CacheSound (mmuCacheAlloc cached va pa).1.cache := by
  obtain ⟨_, aligned, first, last⟩ := fillLine_tag cached.ram va pa
  have line (set : BitVec bits) (way : BitVec 2) :=
    (line_alloc cached va pa set way).trans
      (by rw [(alloc_ram sound va pa).2])
  have fresh {way : BitVec 2} (valid : (cached.cache.line (vaCacheSet bits va) way).valid = true) :
      vaCacheAlign (cached.cache.line (vaCacheSet bits va) way).tag ≠
        vaCacheAlign (fillLine cached.ram va pa).tag := by
    rw [aligned]
    exact search_none missing way valid
  refine ⟨?_, ?_, ?_⟩
  · intro set way valid
    rw [line] at valid ⊢
    split at valid
    · rename_i here
      rw [if_pos here, vaCacheSet_of_align fits aligned, here.1]
    · rename_i elsewhere
      rw [if_neg elsewhere]
      exact sound.placed set way valid
  · intro set way way' valid valid' tags
    rw [line] at valid valid'
    rw [line, line] at tags
    split at valid
    · rename_i here
      rw [if_pos here] at tags
      split at valid'
      · rename_i here'
        exact here.2.trans here'.2.symm
      · rename_i elsewhere
        rw [if_neg elsewhere] at tags
        obtain ⟨rfl, _⟩ := here
        exact absurd tags.symm (fresh valid')
    · rename_i elsewhere
      rw [if_neg elsewhere] at tags
      split at valid'
      · rename_i here'
        rw [if_pos here'] at tags
        obtain ⟨rfl, _⟩ := here'
        exact absurd tags (fresh valid)
      · rename_i elsewhere'
        rw [if_neg elsewhere'] at tags
        exact sound.unique set way way' valid valid' tags
  · intro set way
    rw [line]
    split
    · exact ⟨first, last⟩
    · exact sound.clean set way

end Lines

section Mapping

variable (signals : Signals)

/-- The physical address that an address is mapped to now, whatever its permissions. -/
def mapping (mem : MmuMemory) (va : ARMword) : Option ARMword :=
  if mmuEnabled mem.mmu then (translation signals mem va).map fun entry => tlbVaToPa entry va
  else some va

def lineWord (ram : Ram) (pa : ARMword) (index : BitVec 3) : ARMword :=
  bankRead false ram .word (vaCacheAlign pa + index.setWidth 32 * 4#32)

theorem mapping_align (mem : MmuMemory) (va : ARMword) :
    mapping signals mem (vaCacheAlign va) = (mapping signals mem va).map vaCacheAlign := by
  have high : ∀ index < 32, 10 ≤ index → (~~~31#32).getLsbD index = true := by decide
  have page : translation signals mem (vaCacheAlign va) = translation signals mem va :=
    translation_samePage signals mem (samePage_and va high)
  unfold mapping
  split
  · rw [page, Option.map_map]
    congr 1
    funext entry
    exact tlbVaToPa_and entry va high
  · rfl

theorem mapping_of_physicalAt {mem : MmuMemory} {mode : ModeNum} {read : Bool}
    {va pa : ARMword} (physical : PhysicalAt signals mem mode read va pa) :
    mapping signals mem va = some pa := by
  cases physical with
  | off disabled => rw [mapping, disabled, if_neg Bool.false_ne_true]
  | translated entry enabled found _ => rw [mapping, if_pos enabled, found, Option.map_some]

theorem physicalAt_low {mem : MmuMemory} {mode : ModeNum} {read : Bool} {va pa : ARMword}
    (physical : PhysicalAt signals mem mode read va pa) {index : Nat} (low : index < 10) :
    pa.getLsbD index = va.getLsbD index := by
  cases physical with
  | off _ => rfl
  | translated entry _ _ _ =>
      rw [getLsbD_tlbVaToPa _ _ _ (by omega), tlbMasks_bit _ low]
      rfl

theorem lineWord_align (ram : Ram) (pa : ARMword) (index : BitVec 3) :
    lineWord ram (vaCacheAlign pa) index = lineWord ram pa index := by
  rw [lineWord, lineWord, vaCacheAlign, vaCacheAlign, BitVec.and_assoc, BitVec.and_self]

theorem lineWord_index (bigend : Bool) (ram : Ram) (pa : ARMword) :
    lineWord ram pa (vaCacheIndex pa) = bankRead bigend ram .word pa := by
  have shifted : ∀ index : BitVec 3, index.setWidth 32 * 4#32 = index.setWidth 32 <<< 2 := by
    decide
  have mask : ∀ index < 32, (~~~31#32).getLsbD index = decide (5 ≤ index) := by decide
  have disjoint : vaCacheAlign pa &&& (vaCacheIndex pa).setWidth 32 <<< 2 = 0#32 := by
    apply BitVec.eq_of_getLsbD_eq
    intro index bound
    rw [vaCacheAlign, BitVec.getLsbD_and, BitVec.getLsbD_and, mask _ bound,
      BitVec.getLsbD_shiftLeft, BitVec.getLsbD_setWidth, BitVec.getLsbD_zero]
    by_cases low : 5 ≤ index
    · rw [BitVec.getLsbD_of_ge (vaCacheIndex pa) (index - 2) (by omega)]
      simp
    · simp [low]
  have address : wordIndex (vaCacheAlign pa + (vaCacheIndex pa).setWidth 32 * 4#32) =
      wordIndex pa := by
    rw [shifted, BitVec.add_eq_or_of_and_eq_zero _ _ disjoint]
    apply BitVec.eq_of_getLsbD_eq
    intro index bound
    rw [wordIndex, wordIndex, BitVec.getLsbD_extractLsb', BitVec.getLsbD_extractLsb',
      BitVec.getLsbD_or, vaCacheAlign, BitVec.getLsbD_and, mask _ (by omega),
      BitVec.getLsbD_shiftLeft, BitVec.getLsbD_setWidth, vaCacheIndex,
      BitVec.getLsbD_extractLsb']
    by_cases low : index < 3
    · have high : ¬2 + index < 2 := by
        omega
      have word : 2 + index < 32 ∧ index < 32 ∧ ¬5 ≤ 2 + index := by
        omega
      simp only [low, bound, high, word, Nat.add_sub_cancel_left, decide_true, decide_false,
        Bool.and_false, Bool.and_true, Bool.true_and, Bool.false_or, Bool.not_false]
    · simp [low, bound, show 5 ≤ 2 + index by omega]
  show ram (wordIndex (vaCacheAlign pa + (vaCacheIndex pa).setWidth 32 * 4#32)) =
    ram (wordIndex pa)
  rw [address]

end Mapping

section Discipline

variable (signals : Signals)

def Touches (mem : MmuMemory) (event : MmuEvent) (line : ARMword) : Prop :=
  mapping signals (mmuStep signals mem event) line ≠ mapping signals mem line ∨
    ∃ pa index, mapping signals mem line = some pa ∧
      lineWord (mmuStep signals mem event).ram pa index ≠ lineWord mem.ram pa index

def invalidates (instr value line : ARMword) : Bool :=
  cregOf instr == 7#4 &&
    match opc2 instr, crm instr with
    | 0#3, 7#4 => true
    | 0#3, 5#4 => true
    | 1#3, 5#4 => vaCacheAlign value == line
    | _, _ => false

def Invalidates (line : ARMword) : MmuEvent → Prop
  | .mcr instr value => invalidates instr value line = true
  | .mrc instr => invalidates instr 0#32 line = true
  | _ => False

/-- The unit with the lines that have been touched and not invalidated since. -/
structure Traced where
  mem : MmuMemory
  pending : ARMword → Prop

def tracedStep (traced : Traced) (event : MmuEvent) : Traced :=
  { mem := mmuStep signals traced.mem event
    pending := fun line => traced.pending line ∧ ¬Invalidates line event ∨
      Touches signals traced.mem event line }

/-- No fetch of a touched line before it is invalidated. -/
def Disciplined (traced : Traced) : MmuEvent → Prop
  | .fetch _ address => ¬traced.pending (vaCacheAlign (mmuPidVaMap traced.mem.mmu address))
  | _ => True

def Holds (mem : MmuMemory) (line : CacheLine) : Prop :=
  ∃ pa, mapping signals mem (vaCacheAlign line.tag) = some pa ∧
    ∀ index, line.data index = lineWord mem.ram pa index

def Fresh (traced : Traced) : Prop :=
  ∀ set way, (traced.mem.mmu.iCache.line set way).valid = true →
    ¬traced.pending (vaCacheAlign (traced.mem.mmu.iCache.line set way).tag) →
    Holds signals traced.mem (traced.mem.mmu.iCache.line set way)

variable {signals}

theorem Holds.step {mem : MmuMemory} {line : CacheLine} (holds : Holds signals mem line)
    {event : MmuEvent} (untouched : ¬Touches signals mem event (vaCacheAlign line.tag)) :
    Holds signals (mmuStep signals mem event) line := by
  obtain ⟨pa, mapped, data⟩ := holds
  obtain ⟨same, words⟩ := not_or.mp untouched
  refine ⟨pa, (not_not.mp same).trans mapped, ?_⟩
  intro index
  rw [data index]
  by_contra changed
  exact words ⟨pa, index, mapped, fun same => changed same.symm⟩

theorem Fresh.step {traced : Traced} {event : MmuEvent}
    (lines : ∀ set way,
      ((mmuStep signals traced.mem event).mmu.iCache.line set way).valid = true →
      ¬(traced.pending
          (vaCacheAlign ((mmuStep signals traced.mem event).mmu.iCache.line set way).tag) ∧
        ¬Invalidates
          (vaCacheAlign ((mmuStep signals traced.mem event).mmu.iCache.line set way).tag) event) →
      Holds signals traced.mem ((mmuStep signals traced.mem event).mmu.iCache.line set way)) :
    Fresh signals (tracedStep signals traced event) := by
  intro set way valid settled
  obtain ⟨kept, untouched⟩ := not_or.mp settled
  exact (lines set way valid kept).step untouched

theorem Fresh.of_linesFrom {traced : Traced} (fresh : Fresh signals traced) {event : MmuEvent}
    (lines : LinesFrom traced.mem.mmu.iCache (mmuStep signals traced.mem event).mmu.iCache)
    (dropped : ∀ set way,
      ((mmuStep signals traced.mem event).mmu.iCache.line set way).valid = true →
      ¬Invalidates (vaCacheAlign ((mmuStep signals traced.mem event).mmu.iCache.line set way).tag)
        event) :
    Fresh signals (tracedStep signals traced event) := by
  refine Fresh.step ?_
  intro set way valid kept
  have invalid := dropped set way valid
  have same := lines.same valid
  have before : ¬traced.pending
      (vaCacheAlign ((mmuStep signals traced.mem event).mmu.iCache.line set way).tag) :=
    fun pending => kept ⟨pending, invalid⟩
  rw [same] at valid before ⊢
  exact fresh set way valid before

def MmuMemory.icached (mem : MmuMemory) : Cached 6 :=
  ⟨mem.mmu.iCache, mem.ram⟩

theorem icached_withICache (mem : MmuMemory) (operation : Cached 6 → Cached 6) :
    (withICache mem operation).icached = operation mem.icached := by
  rfl

theorem icached_withDCache {mem : MmuMemory} (empty : DataEmpty mem)
    {operation : Cached 5 → Cached 5}
    (keeps : ∀ cached : Cached 5, cached.cache.Empty →
      (operation cached).cache.Empty ∧ (operation cached).ram = cached.ram) :
    (withDCache mem operation).icached = mem.icached := by
  rw [MmuMemory.icached, (dataEmpty_withDCache empty keeps).2]
  rfl

structure Maintained (instr value : ARMword) (before after : Cached 6) : Prop where
  dropped : Dropped before after
  gone : ∀ set way, (after.cache.line set way).valid = true →
    invalidates instr value (vaCacheAlign (after.cache.line set way).tag) = false

theorem maintained_refl {instr value : ARMword} (cached : Cached 6)
    (other : ∀ line, invalidates instr value line = false) :
    Maintained instr value cached cached := by
  exact ⟨⟨LinesFrom.refl _, rfl⟩, fun _ _ _ => other _⟩

theorem maintained_all {instr value : ARMword} {before after : Cached 6}
    (dropped : Dropped before after) (invalid : ∀ set way, (after.cache.line set way).tag = 0#32) :
    Maintained instr value before after := by
  refine ⟨dropped, ?_⟩
  intro set way valid
  rw [valid_of_tag (invalid set way)] at valid
  exact absurd valid Bool.false_ne_true

theorem cacheOps_maintained (instr value : ARMword) {mem : MmuMemory} (empty : DataEmpty mem)
    (sound : CacheSound mem.icached.cache) :
    Maintained instr value mem.icached
      (arm926ejsMmuCacheOps signals instr value mem).1.icached := by
  have cleaned (cached : Cached 5) (kept : cached.cache.Empty) :
      (mmuCacheClean cached value).cache.Empty ∧
        (mmuCacheClean cached value).ram = cached.ram := by
    rw [clean_empty kept]
    exact ⟨kept, rfl⟩
  have removed (cached : Cached 5) (kept : cached.cache.Empty) :
      (mmuCacheInvalidate cached value).cache.Empty ∧
        (mmuCacheInvalidate cached value).ram = cached.ram := by
    rw [invalidate_empty kept]
    exact ⟨kept, rfl⟩
  have cleanedByIndex (cached : Cached 5) (kept : cached.cache.Empty) :
      (mmuCacheCleanByIndex cached value).cache.Empty ∧
        (mmuCacheCleanByIndex cached value).ram = cached.ram := writeBack_empty kept _ _
  have removedByIndex (cached : Cached 5) (kept : cached.cache.Empty) :
      (mmuCacheInvalidateByIndex cached value).cache.Empty ∧
        (mmuCacheInvalidateByIndex cached value).ram = cached.ram := dropLine_empty kept _ _
  have other {op : BitVec 3} {reg : BitVec 4} (isOp : opc2 instr = op) (isReg : crm instr = reg)
      (none : ∀ same, (match op, reg with
        | 0#3, 7#4 => true
        | 0#3, 5#4 => true
        | 1#3, 5#4 => same
        | _, _ => false) = false) (line : ARMword) : invalidates instr value line = false := by
    rw [invalidates, isOp, isReg]
    exact Bool.and_eq_false_imp.mpr fun _ => none _
  obtain ⟨all, invalid⟩ := invalidateAll_spec sound
  unfold arm926ejsMmuCacheOps
  split <;> dsimp only
  · rw [icached_withDCache (dataEmpty_withICache empty _) (fun _ => invalidateAll_empty),
      icached_withICache]
    exact maintained_all all invalid
  · rw [icached_withICache]
    exact maintained_all all invalid
  · rename_i op reg
    rw [icached_withICache]
    obtain ⟨dropped, gone⟩ := invalidate_spec (by decide) sound value
    refine ⟨dropped, ?_⟩
    intro set way valid
    rw [invalidates, op, reg]
    refine Bool.and_eq_false_imp.mpr fun _ => ?_
    exact beq_false_of_ne fun same => gone set way valid same.symm
  · rename_i op reg
    rw [icached_withICache]
    exact ⟨dropped_dropLine sound _ _, fun _ _ _ => other op reg (fun _ => rfl) _⟩
  · rename_i op reg
    rw [icached_withDCache empty (fun _ => invalidateAll_empty)]
    exact maintained_refl _ (other op reg fun _ => rfl)
  · rename_i op reg
    rw [icached_withDCache empty removed]
    exact maintained_refl _ (other op reg fun _ => rfl)
  · rename_i op reg
    rw [icached_withDCache empty removedByIndex]
    exact maintained_refl _ (other op reg fun _ => rfl)
  · rename_i op reg
    rw [icached_withDCache empty cleaned]
    exact maintained_refl _ (other op reg fun _ => rfl)
  · rename_i op reg
    rw [icached_withDCache (dataEmpty_withDCache empty cleaned).1 removed,
      icached_withDCache empty cleaned]
    exact maintained_refl _ (other op reg fun _ => rfl)
  · rename_i op reg
    rw [icached_withDCache empty cleanedByIndex]
    exact maintained_refl _ (other op reg fun _ => rfl)
  · rename_i op reg
    rw [icached_withDCache (dataEmpty_withDCache empty cleanedByIndex).1 removedByIndex,
      icached_withDCache empty cleanedByIndex]
    exact maintained_refl _ (other op reg fun _ => rfl)
  · rename_i op reg
    exact maintained_refl _ (other op reg fun _ => rfl)
  · rename_i op reg
    exact maintained_refl _ (other op reg fun _ => rfl)
  · rename_i op reg
    rw [dataEmpty_drained signals empty]
    exact maintained_refl _ (other op reg fun _ => rfl)
  · rename_i all07 all05 one05 _ _ _ _ _ _ _ _ _ _ _
    refine maintained_refl _ fun line => ?_
    rw [invalidates]
    refine Bool.and_eq_false_imp.mpr fun _ => ?_
    split
    · exact (all07 ‹_› ‹_›).elim
    · exact (all05 ‹_› ‹_›).elim
    · exact (one05 ‹_› ‹_›).elim
    · rfl

theorem cacheOps_frame (signals : Signals) (instr value : ARMword) (mem : MmuMemory) :
    ∃ iCache dCache wb ram, (arm926ejsMmuCacheOps signals instr value mem).1 =
      { mmu := { mem.mmu with iCache, dCache, wb }, ram } := by
  unfold arm926ejsMmuCacheOps
  split <;> exact ⟨_, _, _, _, rfl⟩

theorem mcr_maintained (instr value : ARMword) {mem : MmuMemory} (empty : DataEmpty mem)
    (sound : CacheSound mem.icached.cache) :
    Maintained instr value mem.icached (arm926ejsMmuMcr signals instr value mem).icached := by
  by_cases maintenance : cregOf instr = 7#4
  · unfold arm926ejsMmuMcr
    rw [maintenance]
    exact cacheOps_maintained instr value empty sound
  · have same : (arm926ejsMmuMcr signals instr value mem).icached = mem.icached := by
      unfold arm926ejsMmuMcr
      dsimp only
      split
      case h_4 => split <;> rfl
      case h_6 cleaning => exact absurd cleaning maintenance
      case h_7 =>
        unfold arm926ejsMmuTlbOps
        split
        · split
          · rfl
          · split <;> rfl
        · rfl
      all_goals rfl
    rw [same]
    refine maintained_refl _ fun line => ?_
    rw [invalidates, beq_false_of_ne maintenance, Bool.false_and]

theorem mrc_maintained (instr : ARMword) {mem : MmuMemory} (empty : DataEmpty mem)
    (sound : CacheSound mem.icached.cache) :
    Maintained instr 0#32 mem.icached (arm926ejsMmuMrc signals instr mem).1.icached := by
  by_cases maintenance : cregOf instr = 7#4
  · unfold arm926ejsMmuMrc
    rw [maintenance]
    exact cacheOps_maintained instr 0#32 empty sound
  · have same : (arm926ejsMmuMrc signals instr mem).1 = mem := by
      unfold arm926ejsMmuMrc
      split
      case h_7 cleaning => exact absurd cleaning maintenance
      all_goals rfl
    rw [same]
    refine maintained_refl _ fun line => ?_
    rw [invalidates, beq_false_of_ne maintenance, Bool.false_and]

theorem iCache_read (size : AccessSize) (mode : ModeNum) (address : ARMword) (mem : MmuMemory) :
    (arm926ejsMmuRead signals size mode address mem).mem.mmu.iCache = mem.mmu.iCache := by
  have drains (mem : MmuMemory) (buffered : Bool) :
      (if buffered then drained signals mem else mem).mmu.iCache = mem.mmu.iCache := by
    cases buffered <;> rfl
  have translated (va : ARMword) (entry : TlbEntry) (mem : MmuMemory) :
      (readTranslated signals size va entry mem).mem.mmu.iCache = mem.mmu.iCache := by
    unfold readTranslated
    dsimp only
    split
    · split <;> rfl
    · split
      · exact drains mem _
      · exact drains mem _
  obtain ⟨mainTlb, lastDomain, frame⟩ := mmuTranslate_frame signals mode true
    (mmuPidVaMap mem.mmu address &&& ~~~3#32) mem
  unfold arm926ejsMmuRead
  dsimp only
  split
  · rfl
  · split
    · rfl
    · split
      · rw [frame]
      · rw [translated, frame]

theorem iCache_write (size : AccessSize) (mode : ModeNum) (address data : ARMword)
    (mem : MmuMemory) :
    (arm926ejsMmuWrite signals size mode address data mem).mem.mmu.iCache = mem.mmu.iCache := by
  have translated (va : ARMword) (entry : TlbEntry) (mem : MmuMemory) :
      (writeTranslated signals size va data entry mem).mmu.iCache = mem.mmu.iCache := by
    unfold writeTranslated
    dsimp only
    split
    · rfl
    · split
      · split <;> rfl
      · rfl
  obtain ⟨mainTlb, lastDomain, frame⟩ := mmuTranslate_frame signals mode false
    (mmuPidVaMap mem.mmu address &&& ~~~3#32) mem
  unfold arm926ejsMmuWrite
  dsimp only
  split
  · rfl
  · split
    · rfl
    · split
      · rw [frame]
      · rw [translated, frame]

/-- What a fetch finds at an address that lies at `pa`: a valid line of the address, or the
memory; the line that it fills is a line of the memory. -/
structure Fetches (bigend : Bool) (va pa : ARMword) (before : Cached 6) (data : Option ARMword)
    (after : Cached 6) : Prop where
  ram : after.ram = before.ram
  sound : CacheSound after.cache
  lines : ∀ set way, after.cache.line set way = before.cache.line set way ∨
    after.cache.line set way = fillLine before.ram va pa
  data : data = some (bankRead bigend before.ram .word pa) ∨
    ∃ set way, (before.cache.line set way).valid = true ∧
      vaCacheAlign (before.cache.line set way).tag = vaCacheAlign va ∧
      data = some ((before.cache.line set way).data (vaCacheIndex va))

theorem vaCacheIndex_of_low {va pa : ARMword}
    (low : ∀ index < 10, pa.getLsbD index = va.getLsbD index) :
    vaCacheIndex va = vaCacheIndex pa := by
  apply BitVec.eq_of_getLsbD_eq
  intro index bound
  rw [vaCacheIndex, vaCacheIndex, BitVec.getLsbD_extractLsb', BitVec.getLsbD_extractLsb',
    low (2 + index) (by omega)]

theorem fetchTranslated_fetches {mem : MmuMemory} (sound : CacheSound mem.icached.cache)
    {va pa : ARMword} (low : ∀ index < 10, pa.getLsbD index = va.getLsbD index)
    (cacheable : Bool) :
    Fetches signals.bigendSig va pa mem.icached (fetchTranslated signals va pa cacheable mem).data
      (fetchTranslated signals va pa cacheable mem).mem.icached := by
  unfold fetchTranslated
  cases found : mmuCacheSearch mem.mmu.iCache va with
  | some way =>
      obtain ⟨valid, tag⟩ := search_some found
      exact ⟨rfl, sound, fun _ _ => Or.inl rfl, Or.inr ⟨_, way, valid, tag, rfl⟩⟩
  | none =>
      cases cacheable with
      | false => exact ⟨rfl, sound, fun _ _ => Or.inl rfl, Or.inl rfl⟩
      | true =>
          obtain ⟨ram, filled⟩ := alloc_ram sound va pa
          refine ⟨ram, alloc_sound (by decide) sound found pa, ?_, Or.inl ?_⟩
          · intro set way
            have line := line_alloc mem.icached va pa set way
            rw [filled] at line
            split at line
            · exact Or.inr line
            · exact Or.inl line
          · show some ((mmuCacheAlloc mem.icached va pa).2.data (vaCacheIndex va)) = _
            rw [filled, ← lineWord_index signals.bigendSig mem.icached.ram pa,
              vaCacheIndex_of_low low]
            rfl

theorem fetch_cases (mode : ModeNum) (address : ARMword) {mem : MmuMemory}
    (sound : CacheSound mem.icached.cache) :
    let va := mmuPidVaMap mem.mmu address
    let result := arm926ejsMmuLoadInstr signals mode address mem
    (result.fault ≠ .noFault ∧ (∀ pa, ¬PhysicalAt signals mem mode true va pa) ∧
        result.mem.icached = mem.icached) ∨
      result.fault = .noFault ∧ ∃ pa, PhysicalAt signals mem mode true va pa ∧
        Fetches signals.bigendSig va pa mem.icached result.data result.mem.icached := by
  have succeeds (va pa : ARMword) (cacheable : Bool) (mem : MmuMemory) :
      (fetchTranslated signals va pa cacheable mem).fault = .noFault := by
    unfold fetchTranslated
    split
    · rfl
    · split <;> rfl
  unfold arm926ejsMmuLoadInstr
  dsimp only
  generalize mmuPidVaMap mem.mmu address = va
  cases enabled : mmuEnabled mem.mmu with
  | false =>
      rw [if_neg Bool.false_ne_true]
      refine Or.inr ⟨succeeds _ _ _ _, va, .off enabled, ?_⟩
      exact fetchTranslated_fetches sound (fun _ _ => rfl) true
  | true =>
      rw [if_pos rfl]
      obtain ⟨mainTlb, lastDomain, frame⟩ := mmuTranslate_frame signals mode true va mem
      have icached : (mmuTranslate signals mode true va mem).mem.icached = mem.icached := by
        rw [frame]
        rfl
      have entries := mmuTranslate_entry signals mode true va mem
      cases found : (mmuTranslate signals mode true va mem).entry with
      | none =>
          refine Or.inl ⟨?_, ?_, icached⟩
          · intro fault
            have some := (mmuTranslate_fault signals mode true va mem).mp fault
            rw [found] at some
            exact nomatch some
          · intro pa physical
            cases physical with
            | off disabled => exact absurd (disabled.symm.trans enabled) Bool.false_ne_true
            | translated entry _ there allowed =>
                have some := (entries entry).mpr ⟨there, allowed⟩
                rw [found] at some
                exact nomatch some
      | some entry =>
          obtain ⟨there, allowed⟩ := (entries entry).mp found
          have physical : PhysicalAt signals mem mode true va (tlbVaToPa entry va) :=
            .translated entry enabled there allowed
          refine Or.inr ⟨succeeds _ _ _ _, _, physical, ?_⟩
          rw [← icached] at sound ⊢
          exact fetchTranslated_fetches sound (fun _ low => physicalAt_low signals physical low) _

theorem holds_fillLine {mem : MmuMemory} {mode : ModeNum} {va pa : ARMword}
    (physical : PhysicalAt signals mem mode true va pa) :
    Holds signals mem (fillLine mem.ram va pa) := by
  refine ⟨vaCacheAlign pa, ?_, fun index => (lineWord_align mem.ram pa index).symm⟩
  rw [(fillLine_tag mem.ram va pa).2.1, mapping_align, mapping_of_physicalAt signals physical,
    Option.map_some]

theorem Holds.word {mem : MmuMemory} {line : CacheLine} (holds : Holds signals mem line)
    {mode : ModeNum} {va pa : ARMword} (physical : PhysicalAt signals mem mode true va pa)
    (tag : vaCacheAlign line.tag = vaCacheAlign va) :
    line.data (vaCacheIndex va) = bankRead signals.bigendSig mem.ram .word pa := by
  obtain ⟨base, mapped, data⟩ := holds
  rw [tag, mapping_align, mapping_of_physicalAt signals physical, Option.map_some] at mapped
  cases mapped
  rw [data, lineWord_align, vaCacheIndex_of_low fun _ low => physicalAt_low signals physical low,
    lineWord_index]

structure Coherent (signals : Signals) (traced : Traced) : Prop where
  empty : DataEmpty traced.mem
  sound : CacheSound traced.mem.icached.cache
  fresh : Fresh signals traced

theorem Coherent.of_maintained {traced : Traced} (coherent : Coherent signals traced)
    {event : MmuEvent} {instr value : ARMword}
    (maintained : Maintained instr value traced.mem.icached
      (mmuStep signals traced.mem event).icached)
    (only : ∀ line, Invalidates line event → invalidates instr value line = true) :
    Coherent signals (tracedStep signals traced event) := by
  refine ⟨dataEmpty_step signals _ event coherent.empty,
    coherent.sound.of_linesFrom maintained.dropped.lines,
    coherent.fresh.of_linesFrom maintained.dropped.lines ?_⟩
  intro set way valid invalidated
  have gone := maintained.gone set way valid
  have there := only _ invalidated
  exact absurd (gone.symm.trans there) Bool.false_ne_true

theorem Coherent.of_iCache {traced : Traced} (coherent : Coherent signals traced)
    {event : MmuEvent} (none : ∀ line, ¬Invalidates line event)
    (same : (mmuStep signals traced.mem event).mmu.iCache = traced.mem.mmu.iCache) :
    Coherent signals (tracedStep signals traced event) := by
  have lines : LinesFrom traced.mem.mmu.iCache (mmuStep signals traced.mem event).mmu.iCache := by
    rw [same]
    exact LinesFrom.refl _
  exact ⟨dataEmpty_step signals _ event coherent.empty, coherent.sound.of_linesFrom lines,
    coherent.fresh.of_linesFrom lines fun _ _ _ => none _⟩

theorem Coherent.fetch {traced : Traced} (coherent : Coherent signals traced) (mode : ModeNum)
    (address : ARMword) : Coherent signals (tracedStep signals traced (.fetch mode address)) := by
  rcases fetch_cases mode address coherent.sound with
    ⟨_, _, same⟩ | ⟨_, pa, physical, fetches⟩
  · exact coherent.of_iCache (fun _ => id) (congrArg Cached.cache same)
  · refine ⟨dataEmpty_step signals _ (.fetch mode address) coherent.empty, fetches.sound, ?_⟩
    refine Fresh.step ?_
    intro set way valid kept
    rcases fetches.lines set way with same | filled
    · change (mmuStep signals traced.mem (.fetch mode address)).mmu.iCache.line set way =
        traced.mem.mmu.iCache.line set way at same
      rw [same] at valid kept ⊢
      exact coherent.fresh set way valid fun pending => kept ⟨pending, id⟩
    · change (mmuStep signals traced.mem (.fetch mode address)).mmu.iCache.line set way = _
        at filled
      rw [filled]
      exact holds_fillLine physical

theorem coherent_step (traced : Traced) (event : MmuEvent) (coherent : Coherent signals traced) :
    Coherent signals (tracedStep signals traced event) := by
  cases event with
  | read size mode address =>
      exact coherent.of_iCache (fun _ => id) (iCache_read size mode address _)
  | write size mode address data =>
      exact coherent.of_iCache (fun _ => id) (iCache_write size mode address data _)
  | fetch mode address => exact coherent.fetch mode address
  | mcr instr value =>
      exact coherent.of_maintained (mcr_maintained instr value coherent.empty coherent.sound)
        fun _ => id
  | mrc instr =>
      exact coherent.of_maintained (mrc_maintained instr coherent.empty coherent.sound)
        fun _ => id
  | recordFault status address => exact coherent.of_iCache (fun _ => id) rfl
  | poke index value => exact coherent.of_iCache (fun _ => id) rfl

/-- No two valid lines have one address. -/
def UniqueTags {bits : Nat} (cache : Cache bits) : Prop :=
  ∀ set way set' way', (cache.line set way).valid = true →
    (cache.line set' way').valid = true →
    vaCacheAlign (cache.line set way).tag = vaCacheAlign (cache.line set' way').tag →
    set = set' ∧ way = way'

theorem CacheSound.uniqueTags {bits : Nat} (fits : bits ≤ 27) {cache : Cache bits}
    (sound : CacheSound cache) : UniqueTags cache := by
  intro set way set' way' valid valid' tags
  have sets : set = set' :=
    calc
      set = vaCacheSet bits (cache.line set way).tag := (sound.placed set way valid).symm
      _ = vaCacheSet bits (cache.line set' way').tag := vaCacheSet_of_align fits tags
      _ = set' := sound.placed set' way' valid'
  subst sets
  exact ⟨rfl, sound.unique set way way' valid valid' tags⟩

structure FetchesMemory (signals : Signals) (mem : MmuMemory) (mode : ModeNum)
    (address : ARMword) : Prop where
  succeeds : (arm926ejsMmuLoadInstr signals mode address mem).fault = .noFault ↔
    ∃ pa, PhysicalAt signals mem mode true (mmuPidVaMap mem.mmu address) pa
  returns : ∀ pa, PhysicalAt signals mem mode true (mmuPidVaMap mem.mmu address) pa →
    (arm926ejsMmuLoadInstr signals mode address mem).data =
      some (bankRead signals.bigendSig mem.ram .word pa)

theorem Coherent.fetchesMemory {traced : Traced} (coherent : Coherent signals traced)
    (mode : ModeNum) (address : ARMword)
    (settled : Disciplined traced (.fetch mode address)) :
    FetchesMemory signals traced.mem mode address := by
  rcases fetch_cases mode address coherent.sound with
    ⟨fault, nowhere, _⟩ | ⟨fault, pa, physical, fetches⟩
  · exact ⟨⟨fun none => absurd none fault, fun ⟨pa, physical⟩ => absurd physical (nowhere pa)⟩,
      fun pa physical => absurd physical (nowhere pa)⟩
  · refine ⟨⟨fun _ => ⟨pa, physical⟩, fun _ => fault⟩, ?_⟩
    intro other there
    have same : some pa = some other :=
      (mapping_of_physicalAt signals physical).symm.trans (mapping_of_physicalAt signals there)
    cases same
    rcases fetches.data with memory | ⟨set, way, valid, tag, data⟩
    · exact memory
    · have holds := coherent.fresh set way valid
        (by
          change ¬traced.pending (vaCacheAlign (traced.mem.icached.cache.line set way).tag)
          rw [tag]
          exact settled)
      rw [data, ← holds.word physical tag]
      rfl

def MmuEvent.usesICache : MmuEvent → Prop
  | .fetch _ _ | .mcr _ _ | .mrc _ => True
  | _ => False

theorem Coherent.ram {traced : Traced} (coherent : Coherent signals traced) {event : MmuEvent}
    (uses : event.usesICache) : (mmuStep signals traced.mem event).ram = traced.mem.ram := by
  cases event with
  | fetch mode address =>
      rcases fetch_cases mode address coherent.sound with ⟨_, _, same⟩ | ⟨_, _, _, fetches⟩
      · exact congrArg Cached.ram same
      · exact fetches.ram
  | mcr instr value =>
      exact (mcr_maintained instr value coherent.empty coherent.sound).dropped.ram
  | mrc instr => exact (mrc_maintained instr coherent.empty coherent.sound).dropped.ram
  | read | write | recordFault | poke => exact uses.elim

theorem Coherent.settled {traced : Traced} (coherent : Coherent signals traced)
    {instr value line : ARMword} (invalidated : invalidates instr value line = true) :
    ¬(tracedStep signals traced (.mcr instr value)).pending line := by
  have memory : (mmuStep signals traced.mem (.mcr instr value)).ram = traced.mem.ram :=
    coherent.ram trivial
  have maintenance : cregOf instr = 7#4 := by
    rw [invalidates, Bool.and_eq_true, beq_iff_eq] at invalidated
    exact invalidated.1
  have cacheOps : mmuStep signals traced.mem (.mcr instr value) =
      (arm926ejsMmuCacheOps signals instr value traced.mem).1 := by
    unfold mmuStep arm926ejsMmuMcr
    simp only [maintenance]
  obtain ⟨iCache, dCache, wb, ram, frame⟩ := cacheOps_frame signals instr value traced.mem
  rintro (⟨_, kept⟩ | changed | ⟨pa, index, _, changed⟩)
  · exact kept invalidated
  · apply changed
    rw [cacheOps, frame] at memory ⊢
    rw [show ram = traced.mem.ram from memory]
    rfl
  · exact changed (congrArg (fun ram => lineWord ram pa index) memory)

def initialTrace (ram : Ram) : Traced :=
  { mem := ⟨arm926ejsMmuInit, ram⟩, pending := fun _ => False }

theorem coherent_initial (ram : Ram) : Coherent signals (initialTrace ram) := by
  have invalid (set : BitVec 6) (way : BitVec 2) :
      ((emptyCache 6).line set way).valid = false := valid_of_tag rfl
  have absent {set : BitVec 6} {way : BitVec 2} {goal : Prop}
      (valid : ((emptyCache 6).line set way).valid = true) : goal :=
    absurd ((invalid set way).symm.trans valid) Bool.false_ne_true
  refine ⟨⟨emptyCache_empty, rfl⟩, ⟨?_, ?_, ?_⟩, ?_⟩
  · exact fun _ _ valid => absent valid
  · exact fun _ _ _ valid => absent valid
  · exact fun _ _ => ⟨BitVec.getLsbD_zero, BitVec.getLsbD_zero⟩
  · exact fun _ _ valid => absent valid

theorem run_tracedStep_mem (traced : Traced) (events : List MmuEvent) :
    (Runs.run (tracedStep signals) traced events).mem =
      Runs.run (mmuStep signals) traced.mem events := by
  induction events generalizing traced with
  | nil => rfl
  | cons event rest ih => exact ih (tracedStep signals traced event)

theorem ram_of_reachable {mem : MmuMemory} (reachable : Reachable signals mem)
    {event : MmuEvent} (uses : event.usesICache) : (mmuStep signals mem event).ram = mem.ram := by
  obtain ⟨ram, events, rfl⟩ := reachable
  have coherent : Coherent signals (Runs.run (tracedStep signals) (initialTrace ram) events) :=
    Runs.run_invariant (tracedStep signals) (Coherent signals) coherent_step _
      (coherent_initial ram) events
  have memory := coherent.ram uses
  rw [run_tracedStep_mem] at memory
  exact memory

/-- The instruction cache is coherent under the maintenance discipline: after any run, the
addresses of its lines differ, no operation on it writes memory, and a fetch of a line that
was invalidated since it was last touched returns the memory. -/
theorem icache_coherent (signals : Signals) (ram : Ram) (events : List MmuEvent) :
    let traced := Runs.run (tracedStep signals) (initialTrace ram) events
    UniqueTags traced.mem.mmu.iCache ∧
      (∀ event : MmuEvent, event.usesICache →
        (mmuStep signals traced.mem event).ram = traced.mem.ram) ∧
      ∀ mode address, Disciplined traced (.fetch mode address) →
        FetchesMemory signals traced.mem mode address := by
  intro traced
  have coherent : Coherent signals traced :=
    Runs.run_invariant (tracedStep signals) (Coherent signals) coherent_step _
      (coherent_initial ram) events
  refine ⟨coherent.sound.uniqueTags (by decide), fun event uses => coherent.ram uses, ?_⟩
  exact fun mode address settled => coherent.fetchesMemory mode address settled

/-- A fetched word is overwritten and its line invalidated: the next fetch sees the write. -/
theorem icache_coherent_rewritten :
    let signals : Signals := ⟨true, false, 0x41069265#32⟩
    let events : List MmuEvent := [.fetch svc32mode 0x8000#32,
      .write .word svc32mode 0x8000#32 0x1234#32, .mcr 0xee070f35#32 0x8000#32]
    let traced := Runs.run (tracedStep signals) (initialTrace fun _ => 0#32) events
    Disciplined traced (.fetch svc32mode 0x8000#32) ∧
      (arm926ejsMmuLoadInstr signals svc32mode 0x8000#32 traced.mem).data = some 0x1234#32 := by
  intro signals events traced
  have disabled : mmuEnabled traced.mem.mmu = false := by decide +kernel
  have mapped : mmuPidVaMap traced.mem.mmu 0x8000#32 = 0x8000#32 := by decide +kernel
  have word : bankRead true traced.mem.ram .word 0x8000#32 = 0x1234#32 := by decide +kernel
  have settled : Disciplined traced (.fetch svc32mode 0x8000#32) := by
    have earlier : Coherent signals (Runs.run (tracedStep signals) (initialTrace fun _ => 0#32)
        [.fetch svc32mode 0x8000#32, .write .word svc32mode 0x8000#32 0x1234#32]) :=
      Runs.run_invariant (tracedStep signals) (Coherent signals) coherent_step _
        (coherent_initial _) _
    have clear : invalidates 0xee070f35#32 0x8000#32 (vaCacheAlign 0x8000#32) = true := by decide
    show ¬traced.pending (vaCacheAlign (mmuPidVaMap traced.mem.mmu 0x8000#32))
    rw [mapped]
    exact earlier.settled clear
  have fetches := (icache_coherent signals (fun _ => 0#32) events).2.2 svc32mode 0x8000#32 settled
  have physical : PhysicalAt signals traced.mem svc32mode true
      (mmuPidVaMap traced.mem.mmu 0x8000#32) 0x8000#32 := by
    rw [mapped]
    exact .off disabled
  exact ⟨settled, (fetches.returns _ physical).trans (congrArg some word)⟩

end Discipline

end SkyeyeStarlet
