import SkyeyeStarlet.Library.CoverCache
import SkyeyeStarlet.Library.WordBits
import SkyeyeStarlet.TlbCore

/-!
The buffer never changes what a translation answers.  `Replicated` is the
discipline that the architecture asks of page tables; under it the walk is
coherent, and the slots of every buffer reached since the last full flush are
sound for it.
-/

namespace SkyeyeStarlet

def coarseSlot (l1desc : ARMword) (index : BitVec 8) : ARMword :=
  (l1desc &&& 0xFFFFFC00#32) ||| (index.setWidth 32 <<< 2)

def fineSlot (l1desc : ARMword) (index : BitVec 10) : ARMword :=
  (l1desc &&& 0xFFFFF000#32) ||| (index.setWidth 32 <<< 2)

/-- Large pages fill 16 coarse or 64 fine slots, small pages fill 4 fine slots. -/
structure Replicated (config : WalkConfig) : Prop where
  coarseLarge : ∀ va (index other : BitVec 8),
    let l1desc := config.memReadWord (l1Addr config va)
    l1desc &&& 3#32 = 1#32 →
    config.memReadWord (coarseSlot l1desc index) &&& 3#32 = 1#32 →
    index >>> 4 = other >>> 4 →
    config.memReadWord (coarseSlot l1desc other) = config.memReadWord (coarseSlot l1desc index)
  fineLarge : ∀ va (index other : BitVec 10),
    let l1desc := config.memReadWord (l1Addr config va)
    l1desc &&& 3#32 = 3#32 →
    config.memReadWord (fineSlot l1desc index) &&& 3#32 = 1#32 →
    index >>> 6 = other >>> 6 →
    config.memReadWord (fineSlot l1desc other) = config.memReadWord (fineSlot l1desc index)
  fineSmall : ∀ va (index other : BitVec 10),
    let l1desc := config.memReadWord (l1Addr config va)
    l1desc &&& 3#32 = 3#32 →
    config.memReadWord (fineSlot l1desc index) &&& 3#32 = 2#32 →
    index >>> 2 = other >>> 2 →
    config.memReadWord (fineSlot l1desc other) = config.memReadWord (fineSlot l1desc index)

theorem coarseL2Addr_eq_slot (l1desc va : ARMword) :
    coarseL2Addr l1desc va = coarseSlot l1desc (va.extractLsb' 12 8) := by
  apply BitVec.eq_of_getLsbD_eq
  intro index bound
  unfold coarseL2Addr coarseSlot
  interval_cases index <;> simp

theorem fineL2Addr_eq_slot (l1desc va : ARMword) :
    fineL2Addr l1desc va = fineSlot l1desc (va.extractLsb' 10 10) := by
  apply BitVec.eq_of_getLsbD_eq
  intro index bound
  unfold fineL2Addr fineSlot
  interval_cases index <;> simp

theorem l1Addr_eq_of_sameSection (config : WalkConfig) {va other : ARMword}
    (same : va &&& 0xFFF00000#32 = other &&& 0xFFF00000#32) :
    l1Addr config va = l1Addr config other := by
  have masked (word : ARMword) : l1Addr config word =
      ((config.translationTableBase &&& 0xFFFFC000#32) |||
        ((word &&& 0xFFF00000#32) >>> 18)) &&& ~~~3#32 := by
    apply BitVec.eq_of_getLsbD_eq
    intro index bound
    unfold l1Addr
    interval_cases index <;> simp
  rw [masked va, masked other, same]

theorem extract_eq_of_and_eq {va other mask : ARMword} (same : va &&& mask = other &&& mask)
    (first width : Nat) (kept : ∀ index, index < width → mask.getLsbD (first + index) = true) :
    va.extractLsb' first width = other.extractLsb' first width := by
  apply BitVec.eq_of_getLsbD_eq
  intro index bound
  simp only [BitVec.getLsbD_extractLsb', bound, decide_true, Bool.true_and]
  exact WordBits.getLsbD_eq_of_and_eq same (kept index bound)

theorem extract_shift_eq_of_and_eq {va other mask : ARMword} (same : va &&& mask = other &&& mask)
    (first width drop : Nat)
    (kept : ∀ index, index < width → drop ≤ index → mask.getLsbD (first + index) = true) :
    va.extractLsb' first width >>> drop = other.extractLsb' first width >>> drop := by
  apply BitVec.eq_of_getLsbD_eq
  intro index bound
  simp only [BitVec.getLsbD_ushiftRight, BitVec.getLsbD_extractLsb']
  by_cases inside : drop + index < width
  · rw [WordBits.getLsbD_eq_of_and_eq same (kept (drop + index) inside (by omega))]
  · simp [inside]

theorem maskedEntry_eq_of_and_eq {va other desc perms domain : ARMword} {mapping : TlbMapping}
    (same : va &&& tlbMasks mapping = other &&& tlbMasks mapping) :
    maskedEntry va desc perms domain mapping = maskedEntry other desc perms domain mapping := by
  simp [maskedEntry, same]

theorem tlbHit_iff (va : ARMword) (entry : TlbEntry) :
    tlbHit va entry = true ↔ entry.mapping ≠ .tlbInvalid ∧
      va &&& tlbMasks entry.mapping = entry.virtAddr &&& tlbMasks entry.mapping := by
  simp [tlbHit]

theorem sameSection_of_mask {va other : ARMword} {mapping : TlbMapping}
    (valid : mapping ≠ .tlbInvalid)
    (same : va &&& tlbMasks mapping = other &&& tlbMasks mapping) :
    va &&& 0xFFF00000#32 = other &&& 0xFFF00000#32 := by
  apply WordBits.and_eq_of_and_eq_of_subset same
  cases mapping with
  | tlbInvalid => exact absurd rfl valid
  | tlbSmallpage => rfl
  | tlbLargepage => rfl
  | tlbSection => rfl
  | tlbEsmallpage => rfl
  | tlbTinypage => rfl

theorem pageEntry_ok {l1desc l2desc va : ARMword} {mapping : Option TlbMapping}
    {entry : TlbEntry} (found : pageEntry l1desc l2desc va mapping = .ok entry) :
    mapping = some entry.mapping ∧ entry.virtAddr = va &&& tlbMasks entry.mapping := by
  cases mapping with
  | none => cases found
  | some kind =>
      cases found
      exact ⟨rfl, rfl⟩

theorem pageEntry_eq_of_and_eq {l1desc l2desc va other : ARMword} {mapping : Option TlbMapping}
    {entry : TlbEntry} (found : pageEntry l1desc l2desc va mapping = .ok entry)
    (same : va &&& tlbMasks entry.mapping = other &&& tlbMasks entry.mapping) :
    pageEntry l1desc l2desc other mapping = .ok entry := by
  cases mapping with
  | none => cases found
  | some kind =>
      cases found
      simp only [pageEntry, Except.ok.injEq]
      exact (maskedEntry_eq_of_and_eq same).symm

theorem fineMapping_cases {l2desc : ARMword} {mapping : TlbMapping}
    (found : fineMapping l2desc = some mapping) :
    mapping = .tlbTinypage ∨ (mapping = .tlbLargepage ∧ l2desc &&& 3#32 = 1#32) ∨
      (mapping = .tlbSmallpage ∧ l2desc &&& 3#32 = 2#32) := by
  unfold fineMapping at found
  rcases WordBits.and_three_cases l2desc with low | low | low | low <;> simp [low] at found ⊢
  · exact Or.inr (found.symm)
  · exact Or.inr (found.symm)
  · exact found.symm

theorem coarseMapping_cases {isXScale : Bool} {l2desc : ARMword} {mapping : TlbMapping}
    (found : coarseMapping isXScale l2desc = some mapping) :
    mapping = .tlbEsmallpage ∨ (mapping = .tlbLargepage ∧ l2desc &&& 3#32 = 1#32) ∨
      mapping = .tlbSmallpage := by
  unfold coarseMapping at found
  rcases WordBits.and_three_cases l2desc with low | low | low | low <;> simp [low] at found ⊢
  · exact Or.inr (Or.inl (found.symm))
  · exact Or.inr (found.symm)
  · exact Or.inl (found.2.symm)

theorem fineDescriptor_eq {config : WalkConfig} (replicated : Replicated config)
    {va other : ARMword} {mapping : TlbMapping}
    (fine : config.memReadWord (l1Addr config va) &&& 3#32 = 3#32)
    (found : fineMapping (config.memReadWord
      (fineL2Addr (config.memReadWord (l1Addr config va)) va)) = some mapping)
    (same : va &&& tlbMasks mapping = other &&& tlbMasks mapping) :
    config.memReadWord (fineL2Addr (config.memReadWord (l1Addr config va)) other) =
      config.memReadWord (fineL2Addr (config.memReadWord (l1Addr config va)) va) := by
  simp only [fineL2Addr_eq_slot] at found ⊢
  rcases fineMapping_cases found with rfl | ⟨rfl, large⟩ | ⟨rfl, small⟩
  · have slots : va.extractLsb' 10 10 = other.extractLsb' 10 10 :=
      extract_eq_of_and_eq same 10 10 (by decide)
    rw [slots]
  · have slots : va.extractLsb' 10 10 >>> 6 = other.extractLsb' 10 10 >>> 6 :=
      extract_shift_eq_of_and_eq same 10 10 6 (by decide)
    exact replicated.fineLarge va _ _ fine large slots
  · have slots : va.extractLsb' 10 10 >>> 2 = other.extractLsb' 10 10 >>> 2 :=
      extract_shift_eq_of_and_eq same 10 10 2 (by decide)
    exact replicated.fineSmall va _ _ fine small slots

theorem coarseDescriptor_eq {config : WalkConfig} (replicated : Replicated config)
    {va other : ARMword} {mapping : TlbMapping}
    (coarse : config.memReadWord (l1Addr config va) &&& 3#32 = 1#32)
    (found : coarseMapping config.isXScale (config.memReadWord
      (coarseL2Addr (config.memReadWord (l1Addr config va)) va)) = some mapping)
    (same : va &&& tlbMasks mapping = other &&& tlbMasks mapping) :
    config.memReadWord (coarseL2Addr (config.memReadWord (l1Addr config va)) other) =
      config.memReadWord (coarseL2Addr (config.memReadWord (l1Addr config va)) va) := by
  simp only [coarseL2Addr_eq_slot] at found ⊢
  rcases coarseMapping_cases found with rfl | ⟨rfl, large⟩ | rfl
  · have slots : va.extractLsb' 12 8 = other.extractLsb' 12 8 :=
      extract_eq_of_and_eq same 12 8 (by decide)
    rw [slots]
  · have slots : va.extractLsb' 12 8 >>> 4 = other.extractLsb' 12 8 >>> 4 :=
      extract_shift_eq_of_and_eq same 12 8 4 (by decide)
    exact replicated.coarseLarge va _ _ coarse large slots
  · have slots : va.extractLsb' 12 8 = other.extractLsb' 12 8 :=
      extract_eq_of_and_eq same 12 8 (by decide)
    rw [slots]

theorem walk_ok {config : WalkConfig} {va : ARMword} {entry : TlbEntry}
    (found : walk config va = .ok entry) :
    entry.mapping ≠ .tlbInvalid ∧ entry.virtAddr = va &&& tlbMasks entry.mapping := by
  simp only [walk] at found
  split at found
  · cases found
  · split at found
    · obtain ⟨kind, page⟩ := pageEntry_ok found
      refine ⟨?_, page⟩
      rcases fineMapping_cases kind with same | ⟨same, _⟩ | ⟨same, _⟩ <;> simp [same]
    · split at found
      · obtain ⟨kind, page⟩ := pageEntry_ok found
        refine ⟨?_, page⟩
        rcases coarseMapping_cases kind with same | ⟨same, _⟩ | same <;> simp [same]
      · cases found
        exact ⟨by simp [maskedEntry], rfl⟩

theorem walk_coherent {config : WalkConfig} (replicated : Replicated config) :
    CoverCache.Coherent (walk config) (fun entry va => tlbHit va entry = true) := by
  intro va other entry found covers
  obtain ⟨valid, inPage⟩ := (tlbHit_iff other entry).mp covers
  have ownPage : entry.virtAddr = va &&& tlbMasks entry.mapping :=
    (walk_ok found).2
  have same : va &&& tlbMasks entry.mapping = other &&& tlbMasks entry.mapping := by
    rw [inPage, ownPage, BitVec.and_assoc, BitVec.and_self]
  have sameTable := l1Addr_eq_of_sameSection config (sameSection_of_mask valid same)
  simp only [walk] at found ⊢
  rw [← sameTable]
  split at found
  · cases found
  · rename_i present
    rw [if_neg present]
    split at found
    · rename_i fine
      rw [if_pos fine]
      have kind := (pageEntry_ok found).1
      rw [fineDescriptor_eq replicated fine kind same]
      exact pageEntry_eq_of_and_eq found same
    · rename_i notFine
      rw [if_neg notFine]
      split at found
      · rename_i coarse
        rw [if_pos coarse]
        have kind := (pageEntry_ok found).1
        rw [coarseDescriptor_eq replicated coarse kind same]
        exact pageEntry_eq_of_and_eq found same
      · rename_i notCoarse
        rw [if_neg notCoarse]
        cases found
        exact congrArg Except.ok (maskedEntry_eq_of_and_eq same).symm

def liveSlots {num : Nat} (tlb : Tlb num) (slot : Fin num) : Option TlbEntry :=
  if (tlb.entrys slot).mapping = .tlbInvalid then none else some (tlb.entrys slot)

def TlbSound {num : Nat} (config : WalkConfig) (tlb : Tlb num) : Prop :=
  CoverCache.Sound (walk config) (liveSlots tlb)

theorem liveSlots_update {num : Nat} (tlb : Tlb num) (cycle slot : Fin num) (entry : TlbEntry) :
    liveSlots { cycle, entrys := Function.update tlb.entrys slot entry } =
      Function.update (liveSlots tlb) slot
        (if entry.mapping = .tlbInvalid then none else some entry) := by
  funext other
  by_cases same : other = slot
  · subst same
    simp [liveSlots]
  · simp [liveSlots, Function.update_of_ne same]

theorem mmuTlbSearch_some {num : Nat} {tlb : Tlb num} {va : ARMword} {slot : Fin num}
    (found : mmuTlbSearch tlb va = some slot) : tlbHit va (tlb.entrys slot) = true := by
  exact List.find?_some (p := fun slot => tlbHit va (tlb.entrys slot)) found

theorem liveSlots_of_hit {num : Nat} {tlb : Tlb num} {va : ARMword} {slot : Fin num}
    (hit : tlbHit va (tlb.entrys slot) = true) :
    liveSlots tlb slot = some (tlb.entrys slot) := by
  have valid := ((tlbHit_iff va (tlb.entrys slot)).mp hit).1
  simp [liveSlots, valid]

theorem mmuTlbInvalidateAll_sound {num : Nat} (config : WalkConfig) (tlb : Tlb num) :
    TlbSound config (mmuTlbInvalidateAll tlb) := by
  apply CoverCache.sound_of_forall_none
  intro slot
  simp [liveSlots, mmuTlbInvalidateAll, invalidEntry]

theorem mmuTlbInvalidateEntry_sound {num : Nat} {config : WalkConfig} {tlb : Tlb num}
    (sound : TlbSound config tlb) (va : ARMword) :
    TlbSound config (mmuTlbInvalidateEntry tlb va) := by
  unfold mmuTlbInvalidateEntry
  cases mmuTlbSearch tlb va with
  | none => exact sound
  | some slot =>
      simp only [TlbSound, liveSlots_update, invalidEntry, if_true]
      exact CoverCache.Sound.erase sound slot

theorem translate_sound {num : Nat} {config : WalkConfig} {tlb : Tlb num}
    (sound : TlbSound config tlb) (lastDomain va : ARMword) :
    TlbSound config (translate config tlb lastDomain va).tlb := by
  unfold translate
  cases mmuTlbSearch tlb va with
  | some slot => exact sound
  | none =>
      cases found : walk config va with
      | error failure => exact sound
      | ok entry =>
          simp only [TlbSound, liveSlots_update, (walk_ok found).1, if_false]
          exact CoverCache.Sound.insert sound tlb.cycle found

theorem tlbStep_sound {num : Nat} (config : WalkConfig) (state : TlbState num) (op : TlbOp)
    (sound : TlbSound config state.tlb) : TlbSound config (tlbStep config state op).tlb := by
  cases op with
  | translate va => exact translate_sound sound state.lastDomain va
  | invalidateEntry va => exact mmuTlbInvalidateEntry_sound sound va

theorem tlbRun_sound {num : Nat} (config : WalkConfig) (flushed : Tlb num) (lastDomain : ARMword)
    (ops : List TlbOp) :
    TlbSound config (Runs.run (tlbStep config)
      { tlb := mmuTlbInvalidateAll flushed, lastDomain } ops).tlb := by
  exact Runs.run_invariant (tlbStep config) (fun state => TlbSound config state.tlb)
    (tlbStep_sound config) _ (mmuTlbInvalidateAll_sound config flushed) ops

theorem translate_eq_walk {num : Nat} {config : WalkConfig} (replicated : Replicated config)
    {tlb : Tlb num} (sound : TlbSound config tlb) (lastDomain va : ARMword) :
    let result := translate config tlb lastDomain va
    match walk config va with
    | .error failure => result.fault = failure.code ∧ result.slot = none
    | .ok fresh => result.fault = .noFault ∧
        ∃ slot, result.slot = some slot ∧ result.tlb.entrys slot = fresh := by
  cases searched : mmuTlbSearch tlb va with
  | some slot =>
      have hit := mmuTlbSearch_some searched
      have fresh : walk config va = .ok (tlb.entrys slot) :=
        CoverCache.Sound.hit sound (walk_coherent replicated) (liveSlots_of_hit hit) hit
      simp [translate, searched, fresh]
  | none =>
      cases found : walk config va with
      | error failure => simp [translate, searched, found]
      | ok entry => simp [translate, searched, found]

def translateAfter {num : Nat} (config : WalkConfig) (flushed : Tlb num) (lastDomain : ARMword)
    (ops : List TlbOp) (va : ARMword) : TranslateResult num :=
  let state := Runs.run (tlbStep config) { tlb := mmuTlbInvalidateAll flushed, lastDomain } ops
  translate config state.tlb state.lastDomain va

theorem translateAfter_eq_walk {num : Nat} {config : WalkConfig} (replicated : Replicated config)
    (flushed : Tlb num) (lastDomain : ARMword) (ops : List TlbOp) (va : ARMword) :
    let result := translateAfter config flushed lastDomain ops va
    match walk config va with
    | .error failure => result.fault = failure.code ∧ result.slot = none
    | .ok fresh => result.fault = .noFault ∧
        ∃ slot, result.slot = some slot ∧ result.tlb.entrys slot = fresh := by
  unfold translateAfter
  exact translate_eq_walk replicated (tlbRun_sound config flushed lastDomain ops) _ va

/-- After any run of translations and single invalidations since the last full
flush, a translation gives the fault of a fresh walk or an entry that maps the
address as the fresh one does. -/
theorem translate_transparent {num : Nat} (config : WalkConfig) (replicated : Replicated config)
    (flushed : Tlb num) (lastDomain : ARMword) (ops : List TlbOp) (va : ARMword) :
    let result := translateAfter config flushed lastDomain ops va
    match walk config va with
    | .error failure => result.fault = failure.code ∧ result.slot = none
    | .ok fresh => result.fault = .noFault ∧ ∃ slot, result.slot = some slot ∧
        tlbVaToPa (result.tlb.entrys slot) va = tlbVaToPa fresh va ∧
        (result.tlb.entrys slot).perms = fresh.perms ∧
        (result.tlb.entrys slot).domain = fresh.domain ∧
        (result.tlb.entrys slot).mapping = fresh.mapping := by
  have agrees := translateAfter_eq_walk replicated flushed lastDomain ops va
  cases found : walk config va with
  | error failure => simpa only [found] using agrees
  | ok fresh =>
      simp only [found] at agrees
      obtain ⟨noFault, slot, pointed, same⟩ := agrees
      exact ⟨noFault, slot, pointed, by rw [same], by rw [same], by rw [same], by rw [same]⟩

def uniformTables : WalkConfig :=
  { memReadWord := fun _ => 0x00010FF1#32
    translationTableBase := 0x00004000#32
    isXScale := false }

theorem uniformTables_replicated : Replicated uniformTables := by
  constructor <;> intros <;> rfl

def uniformUses : List TlbOp :=
  [.translate 0x12345678#32, .invalidateEntry 0x12340000#32, .translate 0x12345678#32,
    .translate 0x00000004#32, .translate 0xFFFF0000#32]

theorem translate_transparent_uniform :
    let flushed : Tlb 2 := { cycle := 1, entrys := fun _ => maskedEntry 0 0 0 0 .tlbSection }
    let result := translateAfter uniformTables flushed 0#32 uniformUses 0x00008888#32
    result.fault = .noFault ∧ ∃ slot, result.slot = some slot ∧
      tlbVaToPa (result.tlb.entrys slot) 0x00008888#32 = 0x00018888#32 := by
  intro flushed
  have fresh : walk uniformTables 0x00008888#32 =
      .ok (maskedEntry 0x00008888#32 0x00010FF1#32 0x00000FF0#32 15#32 .tlbLargepage) := by
    rfl
  have agrees := translate_transparent uniformTables uniformTables_replicated flushed 0#32
    uniformUses 0x00008888#32
  simp only [fresh] at agrees ⊢
  generalize translateAfter uniformTables flushed 0#32 uniformUses 0x00008888#32 = result at agrees ⊢
  obtain ⟨noFault, slot, pointed, address, _⟩ := agrees
  exact ⟨noFault, slot, pointed, address.trans (by decide)⟩

end SkyeyeStarlet
