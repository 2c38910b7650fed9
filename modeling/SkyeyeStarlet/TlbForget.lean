import SkyeyeStarlet.MmuCore
import SkyeyeStarlet.Tlb

/-!
Single entries of the translation lookaside buffer made invalid by the register 8 operation,
while the page tables change.  The operation clears the first entry that a search finds, so it
forgets an address exactly when no second entry covers it.
-/

namespace SkyeyeStarlet

section Search

variable {num : Nat} {tlb : Tlb num} {va : ARMword}

theorem mmuTlbSearch_eq_none_iff :
    mmuTlbSearch tlb va = none ↔ ∀ slot, tlbHit va (tlb.entrys slot) = false := by
  unfold mmuTlbSearch
  rw [List.find?_eq_none]
  constructor
  · intro missing slot
    simpa using missing slot (List.mem_finRange slot)
  · intro missing slot _
    simp [missing slot]

theorem tlbHit_invalidEntry (entry : TlbEntry) : tlbHit va (invalidEntry entry) = false := by
  rfl

/-- At most one entry covers the address. -/
def OneCover (tlb : Tlb num) (va : ARMword) : Prop :=
  ∀ slot other, tlbHit va (tlb.entrys slot) = true → tlbHit va (tlb.entrys other) = true →
    slot = other

theorem invalidateEntry_missing_iff :
    mmuTlbSearch (mmuTlbInvalidateEntry tlb va) va = none ↔ OneCover tlb va := by
  cases searched : mmuTlbSearch tlb va with
  | none =>
      have missing := mmuTlbSearch_eq_none_iff.mp searched
      have same : mmuTlbInvalidateEntry tlb va = tlb := by
        rw [mmuTlbInvalidateEntry, searched]
      rw [same, searched]
      refine iff_of_true rfl ?_
      intro slot other hit
      rw [missing slot] at hit
      cases hit
  | some first =>
      have hit := mmuTlbSearch_some searched
      have cleared : (mmuTlbInvalidateEntry tlb va).entrys =
          Function.update tlb.entrys first (invalidEntry (tlb.entrys first)) := by
        rw [mmuTlbInvalidateEntry, searched]
      rw [mmuTlbSearch_eq_none_iff, cleared]
      constructor
      · intro missing
        have only (slot : Fin num) (covers : tlbHit va (tlb.entrys slot) = true) :
            slot = first := by
          by_contra apart
          have absent := missing slot
          rw [Function.update_of_ne apart, covers] at absent
          cases absent
        intro slot other covers covers'
        rw [only slot covers, only other covers']
      · intro unique slot
        by_cases same : slot = first
        · rw [same, Function.update_self, tlbHit_invalidEntry]
        · rw [Function.update_of_ne same]
          by_contra covers
          exact same (unique slot first (by simpa using covers) hit)

end Search

section Events

/-- A use of the buffer, with the tables as they are at that moment. -/
inductive TlbEvent where
  | translate (config : WalkConfig) (va : ARMword)
  | tlbOps (instr value : ARMword)

def tlbEventStep (mmu : MmuState) : TlbEvent → MmuState
  | .translate config va =>
      let result := translate config mmu.mainTlb mmu.lastDomain va
      { mmu with mainTlb := result.tlb, lastDomain := result.lastDomain }
  | .tlbOps instr value => arm926ejsMmuTlbOps instr value mmu

def SingleEntry (instr : ARMword) : Prop :=
  (crm instr = 5#4 ∨ crm instr = 6#4 ∨ crm instr = 7#4) ∧ opc2 instr = 1#3

/-- The translation fails as the walk does, or puts the walk's entry into the next slot. -/
structure WalksAfresh (config : WalkConfig) (mmu : MmuState) (va : ARMword) : Prop where
  failed : ∀ failure, walk config va = .error failure →
    (translate config mmu.mainTlb mmu.lastDomain va).fault = failure.code ∧
      (translate config mmu.mainTlb mmu.lastDomain va).slot = none ∧
      (translate config mmu.mainTlb mmu.lastDomain va).tlb = mmu.mainTlb
  filled : ∀ entry, walk config va = .ok entry →
    (translate config mmu.mainTlb mmu.lastDomain va).fault = .noFault ∧
      (translate config mmu.mainTlb mmu.lastDomain va).slot = some mmu.mainTlb.cycle ∧
      (translate config mmu.mainTlb mmu.lastDomain va).tlb.entrys =
        Function.update mmu.mainTlb.entrys mmu.mainTlb.cycle entry

theorem translate_of_missing {mmu : MmuState} {va : ARMword}
    (missing : mmuTlbSearch mmu.mainTlb va = none) (config : WalkConfig) :
    WalksAfresh config mmu va := by
  constructor
  · intro failure walked
    simp only [translate, missing, walked, and_self]
  · intro entry walked
    simp only [translate, missing, walked, and_self]

/-- Single entry operations on the address leave nothing to find, and the next translation
walks the tables. -/
def Forgets (mmu : MmuState) (va : ARMword) : Prop :=
  ∀ instr, SingleEntry instr →
    let after := arm926ejsMmuTlbOps instr va mmu
    mmuTlbSearch after.mainTlb va = none ∧ ∀ config, WalksAfresh config after va

theorem tlbOps_singleEntry {instr : ARMword} (single : SingleEntry instr) (value : ARMword)
    (mmu : MmuState) :
    (arm926ejsMmuTlbOps instr value mmu).mainTlb = mmuTlbInvalidateEntry mmu.mainTlb value := by
  unfold arm926ejsMmuTlbOps
  rw [if_pos single.1, single.2]
  rfl

theorem forgets_iff (mmu : MmuState) (va : ARMword) :
    Forgets mmu va ↔ OneCover mmu.mainTlb va := by
  constructor
  · intro forgets
    have single : SingleEntry 0x00000025#32 := by
      unfold SingleEntry
      decide
    have missing := (forgets _ single).1
    rw [tlbOps_singleEntry single] at missing
    exact invalidateEntry_missing_iff.mp missing
  · intro unique instr single
    have missing : mmuTlbSearch (arm926ejsMmuTlbOps instr va mmu).mainTlb va = none := by
      rw [tlbOps_singleEntry single]
      exact invalidateEntry_missing_iff.mpr unique
    exact ⟨missing, translate_of_missing missing⟩

/-- A walk that fills a slot does not reach into a page that another slot holds. -/
def FillsApart (mmu : MmuState) : TlbEvent → Prop
  | .translate config va =>
      mmuTlbSearch mmu.mainTlb va = none → ∀ entry, walk config va = .ok entry →
        ∀ slot, slot ≠ mmu.mainTlb.cycle → ∀ address,
          ¬(tlbHit address entry = true ∧ tlbHit address (mmu.mainTlb.entrys slot) = true)
  | .tlbOps _ _ => True

theorem oneCover_of_cleared {num : Nat} {tlb : Tlb num} {va : ARMword} (unique : OneCover tlb va)
    {entrys : Fin num → TlbEntry} (cycle : Fin num)
    (fewer : ∀ slot, tlbHit va (entrys slot) = true → tlbHit va (tlb.entrys slot) = true) :
    OneCover { cycle, entrys } va := by
  intro slot other covers covers'
  exact unique slot other (fewer slot covers) (fewer other covers')

theorem invalidateEntry_oneCover {num : Nat} {tlb : Tlb num} {va : ARMword}
    (unique : OneCover tlb va) (value : ARMword) :
    OneCover (mmuTlbInvalidateEntry tlb value) va := by
  unfold mmuTlbInvalidateEntry
  cases mmuTlbSearch tlb value with
  | none => exact unique
  | some first =>
      refine oneCover_of_cleared unique tlb.cycle fun slot covers => ?_
      by_cases same : slot = first
      · rw [same, Function.update_self, tlbHit_invalidEntry] at covers
        cases covers
      · rwa [Function.update_of_ne same] at covers

theorem translate_oneCover {mmu : MmuState} {config : WalkConfig} {va : ARMword}
    (unique : ∀ address, OneCover mmu.mainTlb address)
    (apart : FillsApart mmu (.translate config va)) (address : ARMword) :
    OneCover (translate config mmu.mainTlb mmu.lastDomain va).tlb address := by
  cases searched : mmuTlbSearch mmu.mainTlb va with
  | some slot =>
      rw [translate, searched]
      exact unique address
  | none =>
      have fresh := translate_of_missing searched config
      cases walked : walk config va with
      | error failure =>
          rw [(fresh.failed failure walked).2.2]
          exact unique address
      | ok entry =>
          have clear := apart searched entry walked
          intro slot other covers covers'
          rw [(fresh.filled entry walked).2.2] at covers covers'
          by_cases first : slot = mmu.mainTlb.cycle
          · by_cases second : other = mmu.mainTlb.cycle
            · rw [first, second]
            · rw [first, Function.update_self] at covers
              rw [Function.update_of_ne second] at covers'
              exact absurd ⟨covers, covers'⟩ (clear other second address)
          · rw [Function.update_of_ne first] at covers
            by_cases second : other = mmu.mainTlb.cycle
            · rw [second, Function.update_self] at covers'
              exact absurd ⟨covers', covers⟩ (clear slot first address)
            · rw [Function.update_of_ne second] at covers'
              exact unique address slot other covers covers'

theorem tlbOps_oneCover {mmu : MmuState} (unique : ∀ address, OneCover mmu.mainTlb address)
    (instr value address : ARMword) :
    OneCover (arm926ejsMmuTlbOps instr value mmu).mainTlb address := by
  unfold arm926ejsMmuTlbOps
  split
  · split
    · refine oneCover_of_cleared (unique address) _ fun slot covers => ?_
      rw [tlbHit_invalidEntry] at covers
      cases covers
    · split
      · exact invalidateEntry_oneCover (unique address) value
      · exact unique address
  · exact unique address

theorem run_oneCover (events : List TlbEvent)
    (apart : Runs.AllSteps tlbEventStep FillsApart arm926ejsMmuInit events) (address : ARMword) :
    OneCover (Runs.run tlbEventStep arm926ejsMmuInit events).mainTlb address := by
  have start (address : ARMword) : OneCover arm926ejsMmuInit.mainTlb address := by
    intro slot other covers
    cases covers
  refine Runs.run_invariant_of_allowed tlbEventStep
    (fun mmu => ∀ address, OneCover mmu.mainTlb address) FillsApart ?_ _ start events apart address
  intro mmu event unique allowed address
  cases event with
  | translate config va => exact translate_oneCover unique allowed address
  | tlbOps instr value => exact tlbOps_oneCover unique instr value address

/-- In every state that translations and register 8 operations reach, with any tables at each
of them, the single entry operation forgets an address exactly when at most one entry covers
it; it forgets every address if no walk filled a slot across a page that another held. -/
theorem tlb_forgets_iff (events : List TlbEvent) :
    let mmu := Runs.run tlbEventStep arm926ejsMmuInit events
    (∀ va, Forgets mmu va ↔ OneCover mmu.mainTlb va) ∧
      (Runs.AllSteps tlbEventStep FillsApart arm926ejsMmuInit events → ∀ va, Forgets mmu va) := by
  intro mmu
  refine ⟨forgets_iff mmu, fun apart va => ?_⟩
  exact (forgets_iff mmu va).mpr (run_oneCover events apart va)

def smallPageTables : WalkConfig :=
  { memReadWord := fun address => if address = 0x4000#32 then 0x00008001#32 else 0x00010ff2#32
    translationTableBase := 0x4000#32
    isXScale := false }

def sectionTables : WalkConfig :=
  { smallPageTables with memReadWord := fun _ => 0x00100c02#32 }

/-- The section is walked for another page, so both entries cover the first. -/
theorem tlb_remembers_resized :
    let mmu := Runs.run tlbEventStep arm926ejsMmuInit
      [.translate smallPageTables 0x1000#32, .translate sectionTables 0x2000#32]
    ¬Forgets mmu 0x1000#32 := by
  intro mmu forgets
  have single : SingleEntry 0x00000025#32 := by
    unfold SingleEntry
    decide
  have found : mmuTlbSearch (arm926ejsMmuTlbOps 0x00000025#32 0x1000#32 mmu).mainTlb 0x1000#32 =
      some 1 := by
    decide +kernel
  rw [(forgets _ single).1] at found
  cases found

end Events

end SkyeyeStarlet
