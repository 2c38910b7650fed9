import SkyeyeStarlet.TlbForget
import SkyeyeStarlet.TransferAbort
import SkyeyeStarlet.UserForms

/-!
The memory management unit over RAM keeps the laws that the data transfers ask of their
memory.  An access that follows another one in the same page meets the same entry, which the
buffer has kept even where the first access wrote to the tables.
-/

namespace SkyeyeStarlet

section Again

variable {num : Nat} {config : WalkConfig} {tlb : Tlb num} {lastDomain va : ARMword}

theorem translate_found_again {slot : Fin num}
    (found : (translate config tlb lastDomain va).slot = some slot) (later : WalkConfig)
    (laterDomain : ARMword) :
    let first := translate config tlb lastDomain va
    let again := translate later first.tlb laterDomain va
    again.slot.map again.tlb.entrys = some (first.tlb.entrys slot) := by
  cases searched : mmuTlbSearch tlb va with
  | some hit =>
      simp only [translate, searched] at found ⊢
      rw [Option.map_some, Option.some.inj found]
  | none =>
      cases walked : walk config va with
      | error failure =>
          simp only [translate, searched, walked] at found
          cases found
      | ok entry =>
          have filled : translate config tlb lastDomain va =
              { tlb :=
                  { cycle := nextCycle tlb.cycle
                    entrys := Function.update tlb.entrys tlb.cycle entry }
                lastDomain := entry.domain
                fault := .noFault
                slot := some tlb.cycle } := by
            simp only [translate, searched, walked]
          rw [filled] at found ⊢
          cases found
          have covers : tlbHit va entry = true := by
            obtain ⟨valid, page⟩ := walk_ok walked
            rw [tlbHit_iff]
            exact ⟨valid, by rw [page, BitVec.and_assoc, BitVec.and_self]⟩
          dsimp only
          rw [Function.update_self]
          cases second : mmuTlbSearch
              { cycle := nextCycle tlb.cycle
                entrys := Function.update tlb.entrys tlb.cycle entry } va with
          | none =>
              have missing := mmuTlbSearch_eq_none_iff.mp second tlb.cycle
              dsimp only at missing
              rw [Function.update_self, covers] at missing
              cases missing
          | some other =>
              have hit := mmuTlbSearch_some second
              dsimp only at hit
              simp only [translate, second, Option.map_some]
              by_cases same : other = tlb.cycle
              · rw [same, Function.update_self]
              · rw [Function.update_of_ne same,
                  mmuTlbSearch_eq_none_iff.mp searched other] at hit
                cases hit

theorem translate_missing_again (missing : (translate config tlb lastDomain va).slot = none)
    (laterDomain : ARMword) :
    (translate config tlb lastDomain va).tlb = tlb ∧
      (translate config tlb laterDomain va).slot = none := by
  cases searched : mmuTlbSearch tlb va with
  | some hit =>
      simp only [translate, searched] at missing
      cases missing
  | none =>
      cases walked : walk config va with
      | ok entry =>
          simp only [translate, searched, walked] at missing
          cases missing
      | error failure =>
          simp only [translate, searched, walked, and_self]

end Again

section Lookups

variable (signals : Signals)

def lookupState (mem : MmuMemory) : ARMword × ARMword × ARMword × ARMword × Tlb 64 :=
  (mem.mmu.control, mem.mmu.domainAccessControl, mem.mmu.processId,
    mem.mmu.translationTableBase, mem.mmu.mainTlb)

def lookupAfter (mem : MmuMemory) (va : ARMword) :
    ARMword × ARMword × ARMword × ARMword × Tlb 64 :=
  (mem.mmu.control, mem.mmu.domainAccessControl, mem.mmu.processId,
    mem.mmu.translationTableBase,
    (translate (walkConfig signals mem) mem.mmu.mainTlb mem.mmu.lastDomain (va &&& ~~~3#32)).tlb)

theorem lookupState_translate (mode : ModeNum) (read : Bool) (va : ARMword) (mem : MmuMemory) :
    lookupState (mmuTranslate signals mode read (va &&& ~~~3#32) mem).mem =
      lookupAfter signals mem va := by
  unfold mmuTranslate
  dsimp only
  split
  · rfl
  · split
    · rfl
    · rfl

theorem lookupState_readTranslated (size : AccessSize) (va : ARMword) (entry : TlbEntry)
    (mem : MmuMemory) :
    lookupState (readTranslated signals size va entry mem).mem = lookupState mem := by
  unfold readTranslated
  dsimp only
  split
  · split
    · rfl
    · rfl
  · split
    · split
      · rfl
      · rfl
    · split
      · rfl
      · rfl

theorem lookupState_writeTranslated (size : AccessSize) (va data : ARMword) (entry : TlbEntry)
    (mem : MmuMemory) :
    lookupState (writeTranslated signals size va data entry mem) = lookupState mem := by
  unfold writeTranslated
  dsimp only
  split
  · rfl
  · split
    · split
      · rfl
      · rfl
    · rfl

def Visited (mem after : MmuMemory) (size : AccessSize) (va : ARMword) : Prop :=
  lookupState after =
    if mmuEnabled mem.mmu = true ∧ alignmentFails mem.mmu size va = false then
      lookupAfter signals mem va
    else lookupState mem

theorem visited_read (size : AccessSize) (mode : ModeNum) (address : ARMword)
    (mem : MmuMemory) :
    Visited signals mem (arm926ejsMmuRead signals size mode address mem).mem size
      (mmuPidVaMap mem.mmu address) := by
  let va := mmuPidVaMap mem.mmu address
  unfold Visited
  unfold arm926ejsMmuRead
  cases enabled : mmuEnabled mem.mmu with
  | false => rfl
  | true =>
      cases misaligned : alignmentFails mem.mmu size va with
      | true => simp [va, misaligned]
      | false =>
          have looked := lookupState_translate signals mode true va mem
          simp only [va, misaligned, Bool.not_true, Bool.false_eq_true, if_false, and_self, if_true]
          cases found : (mmuTranslate signals mode true (va &&& ~~~3#32) mem).entry with
          | none => exact looked
          | some entry => exact (lookupState_readTranslated signals size va entry _).trans looked

theorem visited_write (size : AccessSize) (mode : ModeNum) (address data : ARMword)
    (mem : MmuMemory) :
    Visited signals mem (arm926ejsMmuWrite signals size mode address data mem).mem size
      (mmuPidVaMap mem.mmu address) := by
  let va := mmuPidVaMap mem.mmu address
  unfold Visited
  unfold arm926ejsMmuWrite
  cases enabled : mmuEnabled mem.mmu with
  | false => rfl
  | true =>
      cases misaligned : alignmentFails mem.mmu size va with
      | true => simp [va, misaligned]
      | false =>
          have looked := lookupState_translate signals mode false va mem
          simp only [va, misaligned, Bool.not_true, Bool.false_eq_true, if_false, and_self, if_true]
          cases found : (mmuTranslate signals mode false (va &&& ~~~3#32) mem).entry with
          | none => exact looked
          | some entry =>
              exact (lookupState_writeTranslated signals size va data entry _).trans looked

end Lookups

section Rights

variable {signals : Signals} {mem after : MmuMemory} {va other : ARMword}

theorem translation_again (looked : lookupState after = lookupAfter signals mem va)
    (same : SamePage other va) {entry : TlbEntry} (found : translation signals mem va = some entry) :
    translation signals after other = some entry := by
  simp only [lookupState, lookupAfter, Prod.mk.injEq] at looked
  rw [← translation_word, translation] at found
  obtain ⟨slot, hit, rfl⟩ := Option.map_eq_some_iff.mp found
  rw [translation_samePage signals after same, ← translation_word, translation, looked.2.2.2.2]
  exact translate_found_again hit _ _

theorem translation_missing_again (looked : lookupState after = lookupAfter signals mem va)
    (same : SamePage other va) (ram : after.ram = mem.ram)
    (missing : translation signals mem va = none) : translation signals after other = none := by
  simp only [lookupState, lookupAfter, Prod.mk.injEq] at looked
  rw [← translation_word, translation] at missing
  have config : walkConfig signals after = walkConfig signals mem := by
    rw [walkConfig, walkConfig, ram, looked.2.2.2.1]
  obtain ⟨kept, again⟩ := translate_missing_again (Option.map_eq_none_iff.mp missing)
    after.mmu.lastDomain
  rw [translation_samePage signals after same, ← translation_word, translation, looked.2.2.2.2,
    kept, config, again]
  rfl

theorem checkAccess_again (control : after.mmu.control = mem.mmu.control)
    (domains : after.mmu.domainAccessControl = mem.mmu.domainAccessControl)
    (same : SamePage other va) (mode : ModeNum) (entry : TlbEntry) (read : Bool) :
    checkAccess after.mmu mode other entry read = checkAccess mem.mmu mode va entry read := by
  rw [checkAccess_samePage after.mmu mode same]
  unfold checkAccess checkPerms
  rw [control, domains]

theorem checkAccess_read {mmu : MmuState} {mode : ModeNum} {entry : TlbEntry}
    (writes : checkAccess mmu mode va entry false = .noFault) :
    checkAccess mmu mode va entry true = .noFault := by
  have perms (ap : BitVec 2) (allowed : checkPerms mmu mode ap false = true) :
      checkPerms mmu mode ap true = true := by
    unfold checkPerms at allowed ⊢
    dsimp only at allowed ⊢
    split at allowed
    · cases allowed
    · exact allowed
    · rfl
    · rfl
  unfold checkAccess at writes ⊢
  dsimp only at writes ⊢
  split at writes
  · cases writes
  · rename_i allowedDomain
    rw [if_neg allowedDomain]
    split at writes
    · rename_i client
      rw [if_pos client]
      split at writes
      · rename_i allowed
        rw [if_pos (perms _ allowed)]
      · split at writes
        · cases writes
        · cases writes
    · rename_i manager
      rw [if_neg manager]

variable {size : AccessSize} {mode : ModeNum}

theorem Visited.registers (visited : Visited signals mem after size va) :
    after.mmu.control = mem.mmu.control ∧
      after.mmu.domainAccessControl = mem.mmu.domainAccessControl ∧
      after.mmu.processId = mem.mmu.processId := by
  unfold Visited lookupAfter lookupState at visited
  split at visited
  all_goals
    simp only [Prod.mk.injEq] at visited
    exact ⟨visited.1, visited.2.1, visited.2.2.1⟩

theorem alignmentFails_again (control : after.mmu.control = mem.mmu.control) :
    alignmentFails after.mmu size va = alignmentFails mem.mmu size va := by
  unfold alignmentFails mmuAligned
  rw [control]

theorem granted_again
    (visited : Visited signals mem after size va) (same : SamePage other va)
    (aligned : ∀ mmu, alignmentFails mmu size other = alignmentFails mmu size va)
    (granted : Granted signals mem size mode false va) :
    Granted signals after size mode false other := by
  obtain ⟨control, domains, -⟩ := visited.registers
  have enabling : mmuEnabled after.mmu = mmuEnabled mem.mmu := by
    rw [mmuEnabled, mmuEnabled, control]
  have aligning : alignmentFails after.mmu size other = alignmentFails mem.mmu size va := by
    rw [aligned, alignmentFails_again control]
  rcases granted with disabled | ⟨fine, entry, found, allowed⟩
  · exact Or.inl (enabling.trans disabled)
  · cases enabled : mmuEnabled mem.mmu with
    | false => exact Or.inl (enabling.trans enabled)
    | true =>
        have looked := visited.trans (if_pos ⟨enabled, fine⟩)
        exact Or.inr ⟨aligning.trans fine, entry, translation_again looked same found,
          (checkAccess_again control domains same mode entry false).trans allowed⟩

theorem refused_again
    (visited : Visited signals mem after size va) (same : SamePage other va)
    (aligned : ∀ mmu, alignmentFails mmu size other = alignmentFails mmu size va)
    (ram : after.ram = mem.ram) {read : Bool} (refused : ¬Granted signals mem size mode read va) :
    ¬Granted signals after size mode false other := by
  obtain ⟨control, domains, -⟩ := visited.registers
  have enabling : mmuEnabled after.mmu = mmuEnabled mem.mmu := by
    rw [mmuEnabled, mmuEnabled, control]
  have aligning : alignmentFails after.mmu size other = alignmentFails mem.mmu size va := by
    rw [aligned, alignmentFails_again control]
  rintro (disabled | ⟨fine, entry, found, allowed⟩)
  · exact refused (Or.inl (enabling.symm.trans disabled))
  · rw [aligning] at fine
    cases enabled : mmuEnabled mem.mmu with
    | false => exact refused (Or.inl enabled)
    | true =>
        have looked := visited.trans (if_pos ⟨enabled, fine⟩)
        cases first : translation signals mem va with
        | none =>
            rw [translation_missing_again looked same ram first] at found
            cases found
        | some held =>
            rw [translation_again looked same first] at found
            cases found
            rw [checkAccess_again control domains same] at allowed
            refine refused (Or.inr ⟨fine, _, first, ?_⟩)
            cases read with
            | true => exact checkAccess_read allowed
            | false => exact allowed

end Rights

section Ram

variable {signals : Signals} {mem : MmuMemory}

theorem read_ram (empty : DataEmpty mem) (size : AccessSize) (mode : ModeNum)
    (address : ARMword) : (arm926ejsMmuRead signals size mode address mem).mem.ram = mem.ram := by
  unfold arm926ejsMmuRead
  dsimp only
  split
  · rfl
  · split
    · rfl
    · obtain ⟨kept, ram⟩ := dataEmpty_translate signals empty mode true
        (mmuPidVaMap mem.mmu address &&& ~~~3#32)
      split
      · exact ram
      · exact (readTranslated_empty signals kept _ _ _).2.1.trans ram

theorem faultyWrite_ram (empty : DataEmpty mem) {size : AccessSize} {mode : ModeNum}
    {address data : ARMword}
    (faults : (arm926ejsMmuWrite signals size mode address data mem).fault ≠ .noFault) :
    (arm926ejsMmuWrite signals size mode address data mem).mem.ram = mem.ram := by
  unfold arm926ejsMmuWrite at faults ⊢
  dsimp only at faults ⊢
  split at faults
  · exact absurd rfl faults
  · rename_i enabled
    rw [if_neg enabled]
    split at faults
    · rename_i misaligned
      rw [if_pos misaligned]
    · rename_i aligned
      rw [if_neg aligned]
      split at faults
      · exact (dataEmpty_translate signals empty mode false _).2
      · exact absurd rfl faults

theorem add_four {word : ARMword} (aligned : word &&& 7#32 = 0#32) : word + 4#32 = word ||| 4#32 := by
  have bit : word &&& 4#32 = 0#32 := by
    calc word &&& 4#32 = word &&& (7#32 &&& 4#32) := by rfl
      _ = (word &&& 7#32) &&& 4#32 := (BitVec.and_assoc _ _ _).symm
      _ = 0#32 := by rw [aligned]; rfl
  exact BitVec.add_eq_or_of_and_eq_zero _ _ bit

theorem samePage_doubleword {word : ARMword} (aligned : word &&& 7#32 = 0#32) :
    SamePage (word + 4#32) word := by
  intro index high
  have low : (4#32 : ARMword).getLsbD index = false := by
    by_cases bound : index < 32
    · have bits : ∀ index < 32, 10 ≤ index → (4#32 : ARMword).getLsbD index = false := by
        decide
      exact bits index bound high
    · exact BitVec.getLsbD_of_ge _ _ (by omega)
  rw [add_four aligned, BitVec.getLsbD_or, low, Bool.or_false]

theorem alignment_doubleword {word : ARMword} (aligned : word &&& 7#32 = 0#32) (mmu : MmuState) :
    alignmentFails mmu .word (word + 4#32) = alignmentFails mmu .word word := by
  have same : (word + 4#32) &&& 3#32 = word &&& 3#32 := by
    rw [add_four aligned, BitVec.and_or_distrib_right]
    exact BitVec.or_zero
  unfold alignmentFails
  rw [same]

theorem pidVaMap_doubleword (mmu : MmuState) {address : ARMword}
    (aligned : address &&& 7#32 = 0#32) :
    mmuPidVaMap mmu (address + 4#32) = mmuPidVaMap mmu address + 4#32 ∧
      mmuPidVaMap mmu address &&& 7#32 = 0#32 := by
  have window : (address + 4#32) &&& 0xfe000000#32 = address &&& 0xfe000000#32 := by
    rw [add_four aligned, BitVec.and_or_distrib_right]
    exact BitVec.or_zero
  unfold mmuPidVaMap
  rw [window]
  split
  · exact ⟨rfl, aligned⟩
  · have moved : (address ||| (mmu.processId &&& 0xfe000000#32)) &&& 7#32 = 0#32 := by
      rw [BitVec.and_or_distrib_right, aligned, BitVec.and_assoc]
      exact (BitVec.zero_or).trans BitVec.and_zero
    refine ⟨?_, moved⟩
    rw [add_four moved, add_four aligned, BitVec.or_assoc, BitVec.or_assoc, BitVec.or_comm 4#32]

theorem pidVaMap_again {after : MmuMemory} (process : after.mmu.processId = mem.mmu.processId)
    (address : ARMword) : mmuPidVaMap after.mmu address = mmuPidVaMap mem.mmu address := by
  rw [mmuPidVaMap, mmuPidVaMap, process]

end Ram

section Laws

variable (signals : Signals)

/-- The unit with nothing in its data cache and its write buffer, as it is in every state that
it reaches. -/
abbrev DrainedUnit : Type :=
  { attached : Attached // DataEmpty attached.memory }

def drainedBus : Bus DrainedUnit :=
  { read := fun size mode address unit =>
      let result := (mmuBus signals).read size mode address unit.val
      { mem := ⟨result.mem, dataEmpty_read signals unit.property size mode address⟩
        fault := result.fault
        data := result.data }
    write := fun size mode address data unit =>
      let result := (mmuBus signals).write size mode address data unit.val
      { mem := ⟨result.mem, dataEmpty_write signals unit.property size mode address data⟩
        fault := result.fault }
    fetch := fun mode address unit =>
      let result := (mmuBus signals).fetch mode address unit.val
      { mem := ⟨result.mem, dataEmpty_fetch signals unit.property mode address⟩
        fault := result.fault
        data := result.data }
    recordFault := fun fault address unit =>
      ⟨(mmuBus signals).recordFault fault address unit.val,
        ⟨unit.property.dCache, unit.property.wb⟩⟩
    highVectors := fun unit => (mmuBus signals).highVectors unit.val }

theorem drainedBus_laws :
    MemoryLaws (drainedBus signals) fun unit => unit.val.memory.ram where
  read := fun size mode address unit => read_ram unit.property size mode address
  faultyWrite := fun size mode address data unit faults => faultyWrite_ram unit.property faults
  record := fun _ _ _ => rfl
  unreadable := by
    intro size mode address data unit first faults
    have refused := mt (read_succeeds_iff size mode address).mpr faults
    have visited := visited_read signals size mode address unit.val.memory
    refine mt (write_succeeds_iff size mode address data).mp ?_
    rw [pidVaMap_again (by exact visited.registers.2.2)]
    exact refused_again (by exact visited) (fun _ _ => rfl) (fun _ => rfl)
      (by exact read_ram unit.property size mode address) refused
  doubleword := by
    intro mode address data data' unit aligned first
    obtain ⟨next, page⟩ := pidVaMap_doubleword unit.val.memory.mmu aligned
    have visited := visited_write signals .word mode address data unit.val.memory
    split
    · rename_i succeeds
      have granted := (write_succeeds_iff .word mode address data).mp succeeds
      refine (write_succeeds_iff .word mode (address + 4#32) data').mpr ?_
      rw [pidVaMap_again (by exact visited.registers.2.2), next]
      exact granted_again (by exact visited) (samePage_doubleword page)
        (alignment_doubleword page) granted
    · rename_i faults
      have refused := mt (write_succeeds_iff .word mode address data).mpr faults
      refine mt (write_succeeds_iff .word mode (address + 4#32) data').mp ?_
      rw [pidVaMap_again (by exact visited.registers.2.2), next]
      exact refused_again (by exact visited) (samePage_doubleword page)
        (alignment_doubleword page) (by exact faultyWrite_ram unit.property faults) refused

end Laws

end SkyeyeStarlet
