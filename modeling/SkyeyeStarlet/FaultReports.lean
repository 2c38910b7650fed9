import SkyeyeStarlet.FetchPath
import SkyeyeStarlet.UserForms

/-!
What the fault status and fault address registers tell the handler of a data abort.  A lookup
leaves the domain of its descriptor in `last_domain`, and the wrappers of `armvirt.c` put it
behind the code of the fault.
-/

namespace SkyeyeStarlet

section Checks

/-- The checks of a data access, in their order.  From the second level on there is a
descriptor to take the domain from. -/
inductive FailedCheck where
  | alignment
  | firstLevel
  | secondLevel (domain : ARMword)
  | domain (entry : TlbEntry)
  | permission (entry : TlbEntry)
  deriving DecidableEq, Repr

def FailedCheck.code : FailedCheck → FaultT
  | .alignment => .alignmentFault
  | .firstLevel => .sectionTranslationFault
  | .secondLevel _ => .pageTranslationFault
  | .domain entry =>
      if entry.mapping = .tlbSection then .sectionDomainFault else .pageDomainFault
  | .permission entry =>
      if entry.mapping = .tlbSection then .sectionPermissionFault else .subpagePermissionFault

def FailedCheck.raised : FailedCheck → FaultT
  | .alignment => .alignmentFault
  | .firstLevel => .pageTranslationFault
  | .secondLevel _ => .pageTranslationFault
  | .domain _ => .sectionDomainFault
  | .permission entry =>
      if entry.mapping = .tlbSection then .sectionPermissionFault else .subpagePermissionFault

def FailedCheck.descriptorDomain : FailedCheck → Option ARMword
  | .alignment => none
  | .firstLevel => none
  | .secondLevel number => some number
  | .domain entry => some entry.domain
  | .permission entry => some entry.domain

def l1Desc (signals : Signals) (mem : MmuMemory) (va : ARMword) : ARMword :=
  (walkConfig signals mem).memReadWord (l1Addr (walkConfig signals mem) va)

def failedRights (mmu : MmuState) (mode : ModeNum) (read : Bool) (va : ARMword)
    (entry : TlbEntry) : Option FailedCheck :=
  if domainAccess mmu entry = 0#32 ∨ domainAccess mmu entry = 2#32 then some (.domain entry)
  else if domainAccess mmu entry = 1#32 ∧ checkPerms mmu mode (accessBits va entry) read = false
  then some (.permission entry)
  else none

def failedLookup (signals : Signals) (mem : MmuMemory) (mode : ModeNum) (read : Bool)
    (va : ARMword) : Option FailedCheck :=
  match translation signals mem va with
  | some entry => failedRights mem.mmu mode read va entry
  | none =>
      if l1Desc signals mem va &&& 3#32 = 0#32 then some .firstLevel
      else some (.secondLevel (l1Domain (l1Desc signals mem va)))

def firstFailing (signals : Signals) (mem : MmuMemory) (mode : ModeNum) (access : DataAccess) :
    Option FailedCheck :=
  let va := mmuPidVaMap mem.mmu access.address
  if !mmuEnabled mem.mmu then none
  else if alignmentFails mem.mmu access.size va then some .alignment
  else failedLookup signals mem mode access.reads va

end Checks

section Lookup

variable (signals : Signals) (mem : MmuMemory) (mode : ModeNum) (read : Bool)

theorem walk_error_domain {config : WalkConfig} {va : ARMword} {failure : WalkFault}
    (failed : walk config va = .error failure) :
    failure.lastDomain =
      if config.memReadWord (l1Addr config va) &&& 3#32 = 0#32 then none
      else some (l1Domain (config.memReadWord (l1Addr config va))) := by
  have page {l1desc l2desc : ARMword} {mapping : Option TlbMapping}
      (failed : pageEntry l1desc l2desc va mapping = .error failure) :
      failure.lastDomain = some (l1Domain l1desc) := by
    cases mapping with
    | none =>
        cases failed
        rfl
    | some mapping => cases failed
  unfold walk at failed
  dsimp only at failed
  split at failed
  · rename_i invalid
    cases failed
    rw [if_pos invalid]
  · rename_i valid
    rw [if_neg valid]
    split at failed
    · exact page failed
    · split at failed
      · exact page failed
      · cases failed

theorem failedRights_spec (mmu : MmuState) (va : ARMword) (entry : TlbEntry) :
    checkAccess mmu mode va entry read =
      ((failedRights mmu mode read va entry).map FailedCheck.raised).getD .noFault := by
  unfold checkAccess failedRights
  change (if domainAccess mmu entry = 0#32 ∨ domainAccess mmu entry = 2#32 then _
    else if domainAccess mmu entry = 1#32 then
      if checkPerms mmu mode (accessBits va entry) read = true then _ else _ else _) = _
  split
  · rfl
  · cases checkPerms mmu mode (accessBits va entry) read with
    | true => simp
    | false =>
        by_cases client : domainAccess mmu entry = 1#32
        · rw [if_pos client, if_neg Bool.false_ne_true]
          simp [client, FailedCheck.raised]
        · rw [if_neg client, if_neg (fun both => client both.1)]
          rfl

theorem failedRights_domain {mmu : MmuState} {va : ARMword} {entry : TlbEntry}
    {check : FailedCheck} (failed : failedRights mmu mode read va entry = some check) :
    check.descriptorDomain = some entry.domain := by
  unfold failedRights at failed
  split at failed
  · cases failed
    rfl
  · split at failed
    · cases failed
      rfl
    · cases failed

theorem raised_ne_noFault (check : FailedCheck) : check.raised ≠ .noFault := by
  cases check with
  | permission entry =>
      unfold FailedCheck.raised
      dsimp only
      split <;> simp
  | _ => simp [FailedCheck.raised]

theorem mmuTranslate_failed {va : ARMword} {check : FailedCheck}
    (failed : failedLookup signals mem mode read va = some check) :
    (mmuTranslate signals mode read va mem).entry = none ∧
      (mmuTranslate signals mode read va mem).fault = check.raised ∧
      ∀ domain, check.descriptorDomain = some domain →
        (mmuTranslate signals mode read va mem).mem.mmu.lastDomain = domain := by
  unfold failedLookup translation at failed
  unfold mmuTranslate
  dsimp only at failed ⊢
  cases found : (translate (walkConfig signals mem) mem.mmu.mainTlb mem.mmu.lastDomain va).slot with
  | some slot =>
      rw [found, Option.map_some] at failed
      dsimp only at failed ⊢
      have rights := failedRights_spec mode read mem.mmu va
        ((translate (walkConfig signals mem) mem.mmu.mainTlb mem.mmu.lastDomain va).tlb.entrys slot)
      rw [failed, Option.map_some, Option.getD_some] at rights
      rw [rights]
      split
      · rename_i none
        exact absurd none (raised_ne_noFault check)
      · refine ⟨rfl, rfl, ?_⟩
        intro other same
        rw [failedRights_domain mode read failed] at same
        exact Option.some.inj same
  | none =>
      rw [found, Option.map_none] at failed
      dsimp only at failed ⊢
      unfold translate at found ⊢
      split at found
      · cases found
      · split at found
        · rename_i failure walked
          have code := walk_error_code walked
          have left := walk_error_domain walked
          change failure.lastDomain = if l1Desc signals mem va &&& 3#32 = 0#32 then none
            else some (l1Domain (l1Desc signals mem va)) at left
          dsimp only
          split at failed
          · cases failed
            refine ⟨rfl, code, ?_⟩
            intro domain absent
            cases absent
          · rename_i valid
            cases failed
            rw [if_neg valid] at left
            refine ⟨rfl, code, ?_⟩
            intro domain same
            rw [left]
            exact Option.some.inj same
        · cases found

theorem mmuTranslate_passed {va : ARMword}
    (passed : failedLookup signals mem mode read va = none) :
    (mmuTranslate signals mode read va mem).fault = .noFault := by
  rw [mmuTranslate_fault, Option.isSome_iff_exists]
  unfold failedLookup at passed
  cases found : translation signals mem va with
  | none =>
      rw [found] at passed
      dsimp only at passed
      split at passed <;> cases passed
  | some entry =>
      rw [found] at passed
      dsimp only at passed
      refine ⟨entry, (mmuTranslate_entry signals mode read va mem entry).mpr ⟨found, ?_⟩⟩
      rw [failedRights_spec, passed]
      rfl

theorem failedLookup_word (va : ARMword) :
    failedLookup signals mem mode read (va &&& ~~~3#32) =
      failedLookup signals mem mode read va := by
  have same := samePage_word va
  have bits (entry : TlbEntry) : accessBits (va &&& ~~~3#32) entry = accessBits va entry := by
    unfold accessBits
    cases entry.mapping <;> simp only [subpage]
    · rw [same.shift_eq (by decide)]
    · rw [same.shift_eq (by decide)]
  have first : l1Desc signals mem (va &&& ~~~3#32) = l1Desc signals mem va := by
    rw [l1Desc, l1Desc, l1Addr, l1Addr, same.shift_eq (by decide)]
  unfold failedLookup failedRights
  simp only [translation_word, bits, first]

end Lookup

section Registers

structure SameRegisters (before after : MmuState) : Prop where
  faultStatus : after.faultStatus = before.faultStatus
  faultAddress : after.faultAddress = before.faultAddress
  processId : after.processId = before.processId

theorem SameRegisters.refl (mmu : MmuState) : SameRegisters mmu mmu := ⟨rfl, rfl, rfl⟩

theorem SameRegisters.trans {first second third : MmuState} (left : SameRegisters first second)
    (right : SameRegisters second third) : SameRegisters first third := by
  exact ⟨right.faultStatus.trans left.faultStatus, right.faultAddress.trans left.faultAddress,
    right.processId.trans left.processId⟩

variable (signals : Signals)

theorem sameRegisters_lookup (mode : ModeNum) (read : Bool) (va : ARMword) (mem : MmuMemory) :
    SameRegisters mem.mmu (mmuTranslate signals mode read va mem).mem.mmu := by
  obtain ⟨mainTlb, lastDomain, frame⟩ := mmuTranslate_frame signals mode read va mem
  rw [frame]
  exact ⟨rfl, rfl, rfl⟩

theorem sameRegisters_read (size : AccessSize) (va : ARMword) (entry : TlbEntry)
    (mem : MmuMemory) :
    SameRegisters mem.mmu (readTranslated signals size va entry mem).mem.mmu := by
  unfold readTranslated
  dsimp only
  split
  · split <;> exact ⟨rfl, rfl, rfl⟩
  · split <;> split <;> exact ⟨rfl, rfl, rfl⟩

theorem sameRegisters_write (size : AccessSize) (va data : ARMword) (entry : TlbEntry)
    (mem : MmuMemory) :
    SameRegisters mem.mmu (writeTranslated signals size va data entry mem).mmu := by
  unfold writeTranslated
  dsimp only
  split
  · exact ⟨rfl, rfl, rfl⟩
  · split
    · exact ⟨rfl, rfl, rfl⟩
    · exact ⟨rfl, rfl, rfl⟩

theorem access_sameRegisters (mode : ModeNum) (access : DataAccess) (attached : Attached) :
    SameRegisters attached.memory.mmu
      ((mmuBus signals).access mode access attached).mem.memory.mmu := by
  cases access with
  | mk size address data =>
      cases data with
      | none =>
          change SameRegisters attached.memory.mmu
            (arm926ejsMmuRead signals size mode address attached.memory).mem.mmu
          unfold arm926ejsMmuRead
          dsimp only
          split
          · exact .refl _
          · split
            · exact .refl _
            · split
              · exact sameRegisters_lookup ..
              · exact (sameRegisters_lookup ..).trans (sameRegisters_read ..)
      | some data =>
          change SameRegisters attached.memory.mmu
            (arm926ejsMmuWrite signals size mode address data attached.memory).mem.mmu
          unfold arm926ejsMmuWrite
          dsimp only
          split
          · exact ⟨rfl, rfl, rfl⟩
          · split
            · exact .refl _
            · split
              · exact sameRegisters_lookup ..
              · exact (sameRegisters_lookup ..).trans (sameRegisters_write ..)

theorem access_stopped {mode : ModeNum} {access : DataAccess} {attached : Attached}
    (enabled : mmuEnabled attached.memory.mmu = true)
    (aligned : alignmentFails attached.memory.mmu access.size
      (mmuPidVaMap attached.memory.mmu access.address) = false)
    (stopped : (accessLookup signals mode access attached.memory).entry = none) :
    ((mmuBus signals).access mode access attached).mem =
      { attached with memory := (accessLookup signals mode access attached.memory).mem } := by
  unfold accessLookup at stopped ⊢
  cases access with
  | mk size address data =>
      cases data with
      | none =>
          change { attached with
            memory := (arm926ejsMmuRead signals size mode address attached.memory).mem } = _
          unfold arm926ejsMmuRead
          dsimp only [DataAccess.reads, Option.isNone] at aligned stopped ⊢
          rw [enabled, aligned, stopped]
          rfl
      | some data =>
          change { attached with
            memory := (arm926ejsMmuWrite signals size mode address data attached.memory).mem } = _
          unfold arm926ejsMmuWrite
          dsimp only [DataAccess.reads, Option.isNone] at aligned stopped ⊢
          rw [enabled, aligned, stopped]
          rfl

theorem access_passed {mode : ModeNum} {access : DataAccess} {attached : Attached}
    (passed : firstFailing signals attached.memory mode access = none) :
    ((mmuBus signals).access mode access attached).fault = .noFault := by
  unfold firstFailing at passed
  rw [access_fault]
  dsimp only at passed
  split
  · rfl
  · rename_i enabled
    rw [if_neg enabled] at passed
    split
    · rename_i misaligned
      rw [if_pos misaligned] at passed
      cases passed
    · rename_i aligned
      rw [if_neg aligned, ← failedLookup_word] at passed
      exact mmuTranslate_passed signals attached.memory mode access.reads passed

theorem access_failed {mode : ModeNum} {access : DataAccess} {attached : Attached}
    {check : FailedCheck} (failed : firstFailing signals attached.memory mode access = some check) :
    ((mmuBus signals).access mode access attached).fault = check.raised ∧
      ∀ domain, check.descriptorDomain = some domain →
        ((mmuBus signals).access mode access attached).mem.memory.mmu.lastDomain = domain := by
  unfold firstFailing at failed
  rw [access_fault]
  dsimp only at failed
  cases enabled : mmuEnabled attached.memory.mmu with
  | false =>
      rw [enabled] at failed
      cases failed
  | true =>
      rw [enabled] at failed
      cases aligned : alignmentFails attached.memory.mmu access.size
          (mmuPidVaMap attached.memory.mmu access.address) with
      | true =>
          rw [aligned] at failed
          cases failed
          refine ⟨rfl, ?_⟩
          intro domain absent
          cases absent
      | false =>
          rw [aligned] at failed
          change failedLookup signals attached.memory mode access.reads
            (mmuPidVaMap attached.memory.mmu access.address) = some check at failed
          rw [← failedLookup_word] at failed
          obtain ⟨stopped, raised, domains⟩ :=
            mmuTranslate_failed signals attached.memory mode access.reads failed
          rw [access_stopped signals enabled aligned stopped]
          exact ⟨raised, domains⟩

end Registers

section Reports

/-- What the registers tell of a transfer that failed.  Nothing is said of the code where there is
no first level descriptor, nor of the address where the process maps it to another. -/
structure Told (check : FailedCheck) (address : ARMword) (before after : MmuState) : Prop where
  status : check ≠ .firstLevel →
    after.faultStatus.extractLsb' 0 4 = check.raised.code.extractLsb' 0 4
  domain : ∀ domain, check.descriptorDomain = some domain →
    after.faultStatus.extractLsb' 4 4 = domain.extractLsb' 0 4
  address : mmuPidVaMap before address = address →
    after.faultAddress = mmuPidVaMap before address

/-- The registers tell of the transfer that failed first, or are left alone. -/
def Tells (failed : Option (FailedCheck × ARMword)) (before after : MmuState) : Prop :=
  match failed with
  | none => after.faultStatus = before.faultStatus ∧ after.faultAddress = before.faultAddress
  | some (check, address) => Told check address before after

theorem code_high (fault : FaultT) {index : Nat} (high : 4 ≤ index) :
    fault.code.getLsbD index = false := by
  by_cases bound : index < 32
  · have bits : ∀ index < 32, 4 ≤ index → fault.code.getLsbD index = false := by
      cases fault <;> decide
    exact bits index bound high
  · exact BitVec.getLsbD_of_ge _ _ (by omega)

theorem status_code (fault : FaultT) (domain : ARMword) :
    ((fault.code ||| domain <<< 4) &&& 0xff#32).extractLsb' 0 4 = fault.code.extractLsb' 0 4 := by
  apply BitVec.eq_of_getLsbD_eq
  intro index bound
  have low : ∀ index < 4, (0xff#32).getLsbD index = true := by
    decide
  simp [BitVec.getLsbD_shiftLeft, bound, low index bound]

theorem status_domain (fault : FaultT) (domain : ARMword) :
    ((fault.code ||| domain <<< 4) &&& 0xff#32).extractLsb' 4 4 = domain.extractLsb' 0 4 := by
  apply BitVec.eq_of_getLsbD_eq
  intro index bound
  have mask : ∀ index < 4, (0xff#32).getLsbD (4 + index) = true := by
    decide
  have none := code_high fault (show 4 ≤ 4 + index by omega)
  simp only [BitVec.getLsbD_extractLsb', BitVec.getLsbD_and, BitVec.getLsbD_or,
    BitVec.getLsbD_shiftLeft, bound, mask index bound, none, Bool.false_or, Bool.and_true]
  simp [show 4 + index < 32 by omega]

variable (signals : Signals)

theorem recordFault_told {check : FailedCheck} {attached : Attached}
    (left : ∀ domain, check.descriptorDomain = some domain →
      attached.memory.mmu.lastDomain = domain) (address : ARMword) (before : MmuState) :
    Told check address before
      ((mmuBus signals).recordFault check.raised address attached).memory.mmu where
  status _ := status_code check.raised attached.memory.mmu.lastDomain
  domain domain held := by
    rw [← left domain held]
    exact status_domain check.raised attached.memory.mmu.lastDomain
  address same := same.symm

theorem Told.of_same {check : FailedCheck} {address : ARMword} {before middle after : MmuState}
    (told : Told check address before middle) (same : SameRegisters middle after) :
    Told check address before after where
  status other := by
    rw [same.faultStatus]
    exact told.status other
  domain domain held := by
    rw [same.faultStatus]
    exact told.domain domain held
  address mapped := by
    rw [same.faultAddress]
    exact told.address mapped

theorem Tells.from_same {failed : Option (FailedCheck × ARMword)} {before middle after : MmuState}
    (same : SameRegisters before middle) (tells : Tells failed middle after) :
    Tells failed before after := by
  cases failed with
  | none =>
      exact ⟨tells.1.trans same.faultStatus, tells.2.trans same.faultAddress⟩
  | some failure =>
      obtain ⟨status, domain, address⟩ := tells
      refine ⟨status, domain, ?_⟩
      unfold mmuPidVaMap at address ⊢
      rw [same.processId] at address
      exact address

end Reports

section Runs

variable {Mem : Type}

def Bus.transfer (bus : Bus Mem) (mode : ModeNum) (access : DataAccess) (mem : Mem) : Mem :=
  let result := bus.access mode access mem
  if result.fault = .noFault then result.mem
  else bus.recordFault result.fault access.address result.mem

def Bus.transfers (bus : Bus Mem) (mode : ModeNum) : List DataAccess → Mem → Mem
  | [], mem => mem
  | access :: rest, mem =>
      let result := bus.access mode access mem
      if result.fault = .noFault then bus.transfers mode rest result.mem
      else bus.recordFault result.fault access.address result.mem

/-- The first transfer that fails and its check; those before it are made. -/
def firstFault (signals : Signals) (mode : ModeNum) :
    List DataAccess → Attached → Option (FailedCheck × ARMword)
  | [], _ => none
  | access :: rest, attached =>
      match firstFailing signals attached.memory mode access with
      | some check => some (check, access.address)
      | none => firstFault signals mode rest ((mmuBus signals).access mode access attached).mem

variable (signals : Signals) (mode : ModeNum)

theorem transfer_passed {access : DataAccess} {attached : Attached}
    (passed : firstFailing signals attached.memory mode access = none) :
    (mmuBus signals).transfer mode access attached =
      ((mmuBus signals).access mode access attached).mem := by
  rw [Bus.transfer, if_pos (access_passed signals passed)]

theorem transfer_failed {access : DataAccess} {attached : Attached} {check : FailedCheck}
    (failed : firstFailing signals attached.memory mode access = some check) :
    (mmuBus signals).transfer mode access attached =
      (mmuBus signals).recordFault check.raised access.address
        ((mmuBus signals).access mode access attached).mem := by
  have raised := (access_failed signals failed).1
  rw [Bus.transfer, raised, if_neg (raised_ne_noFault check)]

theorem transfer_told {access : DataAccess} {attached : Attached} {check : FailedCheck}
    (failed : firstFailing signals attached.memory mode access = some check) (before : MmuState) :
    Told check access.address before
      ((mmuBus signals).transfer mode access attached).memory.mmu := by
  rw [transfer_failed signals mode failed]
  exact recordFault_told signals (access_failed signals failed).2 access.address before

theorem transfer_tells (access : DataAccess) (attached : Attached) :
    Tells (firstFault signals mode [access] attached) attached.memory.mmu
      ((mmuBus signals).transfer mode access attached).memory.mmu := by
  rw [firstFault]
  cases failed : firstFailing signals attached.memory mode access with
  | none =>
      have same := access_sameRegisters signals mode access attached
      rw [transfer_passed signals mode failed]
      exact ⟨same.faultStatus, same.faultAddress⟩
  | some check => exact transfer_told signals mode failed attached.memory.mmu

theorem transfers_tell (accesses : List DataAccess) (attached : Attached) :
    Tells (firstFault signals mode accesses attached) attached.memory.mmu
      ((mmuBus signals).transfers mode accesses attached).memory.mmu := by
  induction accesses generalizing attached with
  | nil => exact ⟨rfl, rfl⟩
  | cons access rest ih =>
      rw [firstFault, Bus.transfers]
      cases failed : firstFailing signals attached.memory mode access with
      | none =>
          rw [if_pos (access_passed signals failed)]
          exact (ih _).from_same (access_sameRegisters signals mode access attached)
      | some check =>
          obtain ⟨raised, left⟩ := access_failed signals failed
          rw [raised, if_neg (raised_ne_noFault check)]
          exact recordFault_told signals left access.address attached.memory.mmu

/-- Two transfers that are made whether or not the first one faults.  The second tells of
another fault unless it has the same address and fails the same check. -/
theorem both_tell (first second : DataAccess) (attached : Attached)
    (again : ∀ check, firstFailing signals attached.memory mode first = some check →
      firstFailing signals ((mmuBus signals).transfer mode first attached).memory mode second =
        none ∨
      firstFailing signals ((mmuBus signals).transfer mode first attached).memory mode second =
        some check ∧ second.address = first.address) :
    Tells (firstFault signals mode [first, second] attached) attached.memory.mmu
      ((mmuBus signals).transfer mode second
        ((mmuBus signals).transfer mode first attached)).memory.mmu := by
  rw [firstFault]
  cases failed : firstFailing signals attached.memory mode first with
  | none =>
      rw [transfer_passed signals mode failed]
      exact (transfer_tells signals mode second _).from_same
        (access_sameRegisters signals mode first attached)
  | some check =>
      rcases again check failed with passed | ⟨same, place⟩
      · rw [transfer_passed signals mode passed]
        exact (transfer_told signals mode failed _).of_same
          (access_sameRegisters signals mode second _)
      · rw [← place]
        exact transfer_told signals mode same attached.memory.mmu

theorem checkPerms_write {mmu : MmuState} {ap : BitVec 2}
    (refused : checkPerms mmu mode ap true = false) : checkPerms mmu mode ap false = false := by
  have codes : ∀ ap : BitVec 2, ap = 0#2 ∨ ap = 1#2 ∨ ap = 2#2 ∨ ap = 3#2 := by
    decide
  unfold checkPerms at refused ⊢
  rcases codes ap with rfl | rfl | rfl | rfl
  · rfl
  · exact refused
  · cases refused
  · cases refused

theorem failedLookup_write {mem : MmuMemory} {va : ARMword} {check : FailedCheck}
    (failed : failedLookup signals mem mode true va = some check) :
    failedLookup signals mem mode false va = some check := by
  unfold failedLookup failedRights at failed ⊢
  cases found : translation signals mem va with
  | none =>
      rw [found] at failed
      exact failed
  | some entry =>
      rw [found] at failed
      dsimp only at failed ⊢
      split
      · rename_i refused
        rw [if_pos refused] at failed
        exact failed
      · rename_i allowed
        rw [if_neg allowed] at failed
        split at failed
        · rename_i denied
          rw [if_pos ⟨denied.1, checkPerms_write mode denied.2⟩]
          exact failed
        · cases failed

theorem failedLookup_kept (mem : MmuMemory) (read : Bool)
    (va lastDomain faultStatus faultAddress : ARMword) :
    failedLookup signals
        { mem with
          mmu :=
            { mem.mmu with
              mainTlb := (translate (walkConfig signals mem) mem.mmu.mainTlb mem.mmu.lastDomain
                va).tlb
              lastDomain
              faultStatus
              faultAddress } } mode read va =
      failedLookup signals mem mode read va := by
  have kept : translation signals
      { mem with
        mmu :=
          { mem.mmu with
            mainTlb := (translate (walkConfig signals mem) mem.mmu.mainTlb mem.mmu.lastDomain
              va).tlb
            lastDomain
            faultStatus
            faultAddress } } va = translation signals mem va :=
    translation_kept signals mem va lastDomain
  unfold failedLookup
  rw [kept]
  rfl

theorem firstFailing_again {address data : ARMword} {attached : Attached} {check : FailedCheck}
    (failed : firstFailing signals attached.memory mode ⟨.byte, address, none⟩ = some check) :
    firstFailing signals
      ((mmuBus signals).transfer mode ⟨.byte, address, none⟩ attached).memory mode
      ⟨.byte, address, some data⟩ = some check := by
  have recorded := transfer_failed signals mode failed
  have bytes (mmu : MmuState) (va : ARMword) : alignmentFails mmu .byte va = false := by
    exact Bool.and_false _
  unfold firstFailing at failed
  dsimp only [DataAccess.reads, Option.isNone] at failed
  cases enabled : mmuEnabled attached.memory.mmu with
  | false =>
      rw [enabled] at failed
      cases failed
  | true =>
      rw [enabled, bytes] at failed
      change failedLookup signals attached.memory mode true
        (mmuPidVaMap attached.memory.mmu address) = some check at failed
      rw [← failedLookup_word] at failed
      have stopped : (accessLookup signals mode ⟨.byte, address, none⟩ attached.memory).entry =
          none := (mmuTranslate_failed signals attached.memory mode true failed).1
      have left := access_stopped signals enabled
        (bytes _ (mmuPidVaMap attached.memory.mmu (DataAccess.mk .byte address none).address))
        stopped
      obtain ⟨lastDomain, looked⟩ := mmuTranslate_buffer signals mode true
        (mmuPidVaMap attached.memory.mmu address &&& ~~~3#32) attached.memory
      have memory : (accessLookup signals mode ⟨.byte, address, none⟩ attached.memory).mem = _ :=
        looked
      rw [left, memory] at recorded
      rw [recorded]
      unfold firstFailing
      change (if !mmuEnabled attached.memory.mmu then none
        else if alignmentFails _ .byte _ then some .alignment
        else failedLookup signals _ mode false (mmuPidVaMap attached.memory.mmu address)) = _
      rw [enabled, bytes, ← failedLookup_word]
      exact (failedLookup_kept signals mode attached.memory false _ lastDomain _ _).trans
        (failedLookup_write signals mode failed)

end Runs

end SkyeyeStarlet
