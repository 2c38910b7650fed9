import SkyeyeStarlet.InstrCache
import SkyeyeStarlet.TlbForget

/-!
Fetches and writes without cache maintenance.  The fetch looks into the instruction cache and
fills it whatever bit 12 of the control register says, so it returns the memory as long as no
event changes what lies behind a line that the cache holds.
-/

namespace SkyeyeStarlet

section Translation

variable (signals : Signals)

theorem search_filled {num : Nat} {tlb : Tlb num} {config : WalkConfig} {va : ARMword}
    {entry : TlbEntry} (missing : mmuTlbSearch tlb va = none) (walked : walk config va = .ok entry)
    (cycle : Fin num) :
    mmuTlbSearch { cycle, entrys := Function.update tlb.entrys tlb.cycle entry } va =
      some tlb.cycle := by
  have hit : tlbHit va entry = true := by
    obtain ⟨valid, page⟩ := walk_ok walked
    refine (tlbHit_iff va entry).mpr ⟨valid, ?_⟩
    rw [page, BitVec.and_assoc, BitVec.and_self]
  have absent := mmuTlbSearch_eq_none_iff.mp missing
  cases searched : mmuTlbSearch { cycle, entrys := Function.update tlb.entrys tlb.cycle entry }
      va with
  | none =>
      have unseen := mmuTlbSearch_eq_none_iff.mp searched tlb.cycle
      dsimp only at unseen
      rw [Function.update_self, hit] at unseen
      cases unseen
  | some slot =>
      have found := mmuTlbSearch_some searched
      dsimp only at found
      by_cases same : slot = tlb.cycle
      · rw [same]
      · rw [Function.update_of_ne same, absent slot] at found
        cases found

theorem translation_kept (mem : MmuMemory) (va lastDomain : ARMword) :
    translation signals
        { mem with
          mmu :=
            { mem.mmu with
              mainTlb := (translate (walkConfig signals mem) mem.mmu.mainTlb mem.mmu.lastDomain
                va).tlb
              lastDomain } } va =
      translation signals mem va := by
  have config (mainTlb : Tlb 64) : walkConfig signals
      { mem with mmu := { mem.mmu with mainTlb, lastDomain } } = walkConfig signals mem := rfl
  unfold translation
  dsimp only
  rw [config]
  cases searched : mmuTlbSearch mem.mmu.mainTlb va with
  | some slot => simp only [translate, searched]
  | none =>
      cases walked : walk (walkConfig signals mem) va with
      | error failure => simp only [translate, searched, walked]
      | ok entry =>
          simp only [translate, searched, walked, search_filled searched walked, Option.map_some,
            Function.update_self]

theorem mmuTranslate_buffer (mode : ModeNum) (read : Bool) (va : ARMword) (mem : MmuMemory) :
    ∃ lastDomain, (mmuTranslate signals mode read va mem).mem =
      { mem with
        mmu :=
          { mem.mmu with
            mainTlb := (translate (walkConfig signals mem) mem.mmu.mainTlb mem.mmu.lastDomain
              va).tlb
            lastDomain } } := by
  unfold mmuTranslate
  dsimp only
  split
  · exact ⟨_, rfl⟩
  · split
    · exact ⟨_, rfl⟩
    · exact ⟨_, rfl⟩

theorem fetchTranslated_frame (va pa : ARMword) (cacheable : Bool) (mem : MmuMemory) :
    ∃ iCache ram, (fetchTranslated signals va pa cacheable mem).mem =
      { mmu := { mem.mmu with iCache }, ram } := by
  unfold fetchTranslated
  split
  · exact ⟨_, _, rfl⟩
  · split
    · exact ⟨_, _, rfl⟩
    · exact ⟨_, _, rfl⟩

theorem mapping_fetched (mode : ModeNum) (address : ARMword) {mem : MmuMemory}
    (memory : (mmuStep signals mem (.fetch mode address)).ram = mem.ram) :
    mapping signals (mmuStep signals mem (.fetch mode address)) (mmuPidVaMap mem.mmu address) =
      mapping signals mem (mmuPidVaMap mem.mmu address) := by
  unfold mmuStep arm926ejsMmuLoadInstr at memory ⊢
  dsimp only at memory ⊢
  generalize mmuPidVaMap mem.mmu address = va at memory ⊢
  cases enabled : mmuEnabled mem.mmu with
  | false =>
      rw [enabled, if_neg Bool.false_ne_true] at memory
      rw [if_neg Bool.false_ne_true]
      obtain ⟨iCache, ram, frame⟩ := fetchTranslated_frame signals va va true mem
      have off : mmuEnabled (fetchTranslated signals va va true mem).mem.mmu = false := by
        rw [frame]
        exact enabled
      rw [mapping, mapping, off, enabled]
      rfl
  | true =>
      rw [enabled, if_pos rfl] at memory
      rw [if_pos rfl]
      obtain ⟨lastDomain, looked⟩ := mmuTranslate_buffer signals mode true va mem
      have kept := translation_kept signals mem va lastDomain
      cases found : (mmuTranslate signals mode true va mem).entry with
      | none =>
          dsimp only
          rw [looked]
          unfold mapping
          rw [kept]
          rfl
      | some entry =>
          rw [found] at memory
          dsimp only at memory ⊢
          obtain ⟨iCache, ram, frame⟩ := fetchTranslated_frame signals va (tlbVaToPa entry va)
            (tlbCFlag entry) (mmuTranslate signals mode true va mem).mem
          rw [frame] at memory ⊢
          dsimp only at memory
          rw [memory, looked]
          unfold mapping
          have same : translation signals
              { mmu :=
                  { mem.mmu with
                    mainTlb := (translate (walkConfig signals mem) mem.mmu.mainTlb
                      mem.mmu.lastDomain va).tlb
                    lastDomain
                    iCache }
                ram := mem.ram } va = translation signals mem va := kept
          rw [same]
          rfl

end Translation

section Fetches

variable {signals : Signals}

def SparesLines (signals : Signals) (mem : MmuMemory) (event : MmuEvent) : Prop :=
  ∀ set way, (mem.mmu.iCache.line set way).valid = true →
    ¬Touches signals mem event (vaCacheAlign (mem.mmu.iCache.line set way).tag)

structure Current (signals : Signals) (mem : MmuMemory) : Prop where
  empty : DataEmpty mem
  sound : CacheSound mem.icached.cache
  holds : ∀ set way, (mem.mmu.iCache.line set way).valid = true →
    Holds signals mem (mem.mmu.iCache.line set way)

theorem Current.of_linesFrom {mem : MmuMemory} {event : MmuEvent} (current : Current signals mem)
    (spares : SparesLines signals mem event)
    (lines : LinesFrom mem.mmu.iCache (mmuStep signals mem event).mmu.iCache) :
    Current signals (mmuStep signals mem event) := by
  refine ⟨dataEmpty_step signals mem event current.empty, current.sound.of_linesFrom lines, ?_⟩
  intro set way valid
  have same := lines.same valid
  rw [same] at valid ⊢
  exact (current.holds set way valid).step (spares set way valid)

theorem Current.of_same {mem : MmuMemory} {event : MmuEvent} (current : Current signals mem)
    (spares : SparesLines signals mem event)
    (same : (mmuStep signals mem event).mmu.iCache = mem.mmu.iCache) :
    Current signals (mmuStep signals mem event) := by
  refine current.of_linesFrom spares ?_
  rw [same]
  exact LinesFrom.refl _

theorem fetch_not_touches {mem : MmuMemory} (mode : ModeNum) (address : ARMword)
    (memory : (mmuStep signals mem (.fetch mode address)).ram = mem.ram) :
    ¬Touches signals mem (.fetch mode address) (vaCacheAlign (mmuPidVaMap mem.mmu address)) := by
  rintro (remapped | ⟨pa, index, _, changed⟩)
  · apply remapped
    rw [mapping_align, mapping_align, mapping_fetched signals mode address memory]
  · exact changed (congrArg (fun ram => lineWord ram pa index) memory)

theorem Current.fetch {mem : MmuMemory} (current : Current signals mem) (mode : ModeNum)
    (address : ARMword) (spares : SparesLines signals mem (.fetch mode address)) :
    Current signals (mmuStep signals mem (.fetch mode address)) := by
  rcases fetch_cases mode address current.sound with ⟨_, _, same⟩ | ⟨_, pa, physical, fetches⟩
  · exact current.of_same spares (congrArg Cached.cache same)
  · refine ⟨dataEmpty_step signals mem _ current.empty, fetches.sound, ?_⟩
    intro set way valid
    rcases fetches.lines set way with kept | filled
    · change (mmuStep signals mem (.fetch mode address)).mmu.iCache.line set way =
        mem.mmu.iCache.line set way at kept
      rw [kept] at valid ⊢
      exact (current.holds set way valid).step (spares set way valid)
    · change (mmuStep signals mem (.fetch mode address)).mmu.iCache.line set way =
        fillLine mem.ram (mmuPidVaMap mem.mmu address) pa at filled
      rw [filled]
      refine Holds.step (holds_fillLine physical) ?_
      rw [(fillLine_tag mem.ram _ pa).2.1]
      exact fetch_not_touches mode address fetches.ram

theorem current_step (mem : MmuMemory) (event : MmuEvent) (current : Current signals mem)
    (spares : SparesLines signals mem event) : Current signals (mmuStep signals mem event) := by
  cases event with
  | read size mode address => exact current.of_same spares (iCache_read size mode address _)
  | write size mode address data =>
      exact current.of_same spares (iCache_write size mode address data _)
  | fetch mode address => exact current.fetch mode address spares
  | mcr instr value =>
      exact current.of_linesFrom spares
        (mcr_maintained instr value current.empty current.sound).dropped.lines
  | mrc instr =>
      exact current.of_linesFrom spares
        (mrc_maintained instr current.empty current.sound).dropped.lines
  | recordFault status address => exact current.of_same spares rfl
  | poke index value => exact current.of_same spares rfl

theorem Current.fetchesMemory {mem : MmuMemory} (current : Current signals mem) (mode : ModeNum)
    (address : ARMword) : FetchesMemory signals mem mode address := by
  have coherent : Coherent signals { mem, pending := fun _ => False } :=
    ⟨current.empty, current.sound, fun set way valid _ => current.holds set way valid⟩
  exact coherent.fetchesMemory mode address id

structure NothingCached (mem : MmuMemory) : Prop where
  empty : DataEmpty mem
  invalid : ∀ set way, (mem.mmu.iCache.line set way).tag = 0#32

theorem NothingCached.current {mem : MmuMemory} (nothing : NothingCached mem) :
    Current signals mem := by
  have absent {set : BitVec 6} {way : BitVec 2} {goal : Prop}
      (valid : (mem.mmu.iCache.line set way).valid = true) : goal :=
    absurd ((valid_of_tag (nothing.invalid set way)).symm.trans valid) Bool.false_ne_true
  refine ⟨nothing.empty, ⟨?_, ?_, ?_⟩, ?_⟩
  · exact fun _ _ valid => absent valid
  · exact fun _ _ _ valid => absent valid
  · intro set way
    change (mem.mmu.iCache.line set way).tag.getLsbD 1 = false ∧
      (mem.mmu.iCache.line set way).tag.getLsbD 2 = false
    rw [nothing.invalid set way]
    exact ⟨BitVec.getLsbD_zero, BitVec.getLsbD_zero⟩
  · exact fun _ _ valid => absent valid

/-- From a state with nothing cached, whatever the control register says: after any run of
writes, fetches and other events that spare the lines in the cache, every fetch returns the
memory at the translation of its address. -/
theorem fetch_sees_memory (signals : Signals) (start : MmuMemory) (nothing : NothingCached start)
    (events : List MmuEvent)
    (spares : Runs.AllSteps (mmuStep signals) (SparesLines signals) start events)
    (mode : ModeNum) (address : ARMword) :
    FetchesMemory signals (Runs.run (mmuStep signals) start events) mode address := by
  have current : Current signals (Runs.run (mmuStep signals) start events) :=
    Runs.run_invariant_of_allowed (mmuStep signals) (Current signals) (SparesLines signals)
      current_step start nothing.current events spares
  exact current.fetchesMemory mode address

theorem mapping_off {mem : MmuMemory} (disabled : mmuEnabled mem.mmu = false) (va : ARMword) :
    mapping signals mem va = some va := by
  rw [mapping, disabled, if_neg Bool.false_ne_true]

/-- A fetch, and a write to another line. -/
theorem fetch_sees_memory_apart :
    let signals : Signals := ⟨true, false, 0x41069265#32⟩
    let start : MmuMemory := ⟨arm926ejsMmuInit, fun _ => 0#32⟩
    let events : List MmuEvent := [.fetch svc32mode 0x8000#32,
      .write .word svc32mode 0x9000#32 0x1234#32]
    FetchesMemory signals (Runs.run (mmuStep signals) start events) svc32mode 0x9000#32 := by
  intro signals start events
  have nothing : NothingCached start := ⟨⟨emptyCache_empty, rfl⟩, fun _ _ => rfl⟩
  have first : SparesLines signals start (.fetch svc32mode 0x8000#32) := by
    intro set way valid
    rw [valid_of_tag (nothing.invalid set way)] at valid
    cases valid
  have second : SparesLines signals (mmuStep signals start (.fetch svc32mode 0x8000#32))
      (.write .word svc32mode 0x9000#32 0x1234#32) := by
    intro set way valid
    have tag : ∀ set way,
        ((mmuStep signals start (.fetch svc32mode 0x8000#32)).mmu.iCache.line set way).valid =
            true →
          vaCacheAlign ((mmuStep signals start
            (.fetch svc32mode 0x8000#32)).mmu.iCache.line set way).tag = 0x8000#32 := by
      decide +kernel
    have off : mmuEnabled (mmuStep signals start (.fetch svc32mode 0x8000#32)).mmu = false := by
      decide +kernel
    have still : mmuEnabled (mmuStep signals
        (mmuStep signals start (.fetch svc32mode 0x8000#32))
        (.write .word svc32mode 0x9000#32 0x1234#32)).mmu = false := by
      decide +kernel
    rw [tag set way valid]
    rintro (remapped | ⟨pa, index, mapped, changed⟩)
    · rw [mapping_off off, mapping_off still] at remapped
      exact remapped rfl
    · rw [mapping_off off] at mapped
      cases mapped
      revert changed
      revert index
      decide +kernel
  exact fetch_sees_memory signals start nothing events ⟨first, second, trivial⟩ svc32mode 0x9000#32

/-- Bit 12 is clear throughout, and the second fetch of a word misses the write between. -/
theorem disabled_cache_stale :
    let signals : Signals := ⟨true, false, 0x41069265#32⟩
    let start : MmuMemory := ⟨arm926ejsMmuInit, fun _ => 0#32⟩
    let fetched := mmuStep signals start (.fetch svc32mode 0x8000#32)
    let written := mmuStep signals fetched (.write .word svc32mode 0x8000#32 0x1234#32)
    let again := arm926ejsMmuLoadInstr signals svc32mode 0x8000#32 written
    start.mmu.control.getLsbD 12 = false ∧ fetched.mmu.control.getLsbD 12 = false ∧
      written.mmu.control.getLsbD 12 = false ∧ again.fault = .noFault ∧ again.data = some 0#32 ∧
      PhysicalAt signals written svc32mode true 0x8000#32 0x8000#32 ∧
      bankRead true written.ram .word 0x8000#32 = 0x1234#32 := by
  intro signals start fetched written again
  refine ⟨by decide, by decide +kernel, by decide +kernel, by decide +kernel, by decide +kernel,
    .off (by decide +kernel), by decide +kernel⟩

end Fetches

end SkyeyeStarlet
