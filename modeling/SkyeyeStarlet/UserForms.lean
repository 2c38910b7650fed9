import SkyeyeStarlet.Coprocessor15
import SkyeyeStarlet.DataPath
import SkyeyeStarlet.TransferAbort

/-!
The user access forms of the single transfers: LDRT, LDRBT, STRT and STRBT.  They drive
`NtransSig` low around the access, but the permission check reads the mode, so the access is
one of the current mode.
-/

namespace SkyeyeStarlet

section Outcome

variable {Mem : Type} {bus : Bus Mem}

def busOutcome (state : ARMulState Mem) : Mem × Bool :=
  (state.mem, state.abortSig)

theorem armulAbort_busOutcome (highVectors : Mem → Bool) (state : ARMulState Mem)
    (vector : Vector) : busOutcome (armulAbort highVectors state vector) = busOutcome state := by
  have same := armulAbort_outside highVectors state vector
  rw [busOutcome, busOutcome, same.mem, same.abortSig]

theorem writeDest_busOutcome (state : ARMulState Mem) (instr value : ARMword) :
    busOutcome (writeDest state instr value) = busOutcome state ∧
      busOutcome (writeDestB state instr value) = busOutcome state := by
  constructor
  · unfold writeDest
    split <;> rfl
  · unfold writeDestB
    split <;> rfl

def storedWord (state : ARMulState Mem) (instr : ARMword) : ARMword :=
  (bususedincpcn state).reg (destReg instr)

def accessOutcome (bus : Bus Mem) (mode : ModeNum) (mem : Mem) (instr address data : ARMword) :
    Mem × Bool :=
  if instr.getLsbD 20 then
    let result := bus.read (singleSize instr) mode address mem
    if result.fault = .noFault then (result.mem, false)
    else (bus.recordFault result.fault address result.mem, true)
  else
    let result := bus.write (singleSize instr) mode address data mem
    if result.fault = .noFault then (result.mem, false)
    else (bus.recordFault result.fault address result.mem, true)

theorem loadData_busOutcome (size : AccessSize)
    {finish : ARMulState Mem → ARMword → ARMulState Mem}
    (finishes : ∀ state dest, busOutcome (finish state dest) = busOutcome state)
    (state : ARMulState Mem) (instr address : ARMword) :
    busOutcome (loadData bus size finish state instr address).1 =
      busOutcome (armulRead bus size (bususedincpcs state) address).1 := by
  unfold loadData
  dsimp only
  split
  · exact finishes _ _
  · exact armulAbort_busOutcome _ _ _

theorem storeData_busOutcome (size : AccessSize) (state : ARMulState Mem)
    (instr address : ARMword) :
    busOutcome (storeData bus size state instr address).1 =
      busOutcome (armulWrite bus size (bususedincpcn state) address (storedWord state instr)) := by
  unfold storeData
  dsimp only
  split
  · rfl
  · exact armulAbort_busOutcome _ _ _

theorem armulRead_busOutcome (size : AccessSize) (state : ARMulState Mem) (address : ARMword) :
    busOutcome (armulRead bus size (bususedincpcs state) address).1 =
      if (bus.read size state.mode address state.mem).fault = .noFault then
        ((bus.read size state.mode address state.mem).mem, false)
      else
        (bus.recordFault (bus.read size state.mode address state.mem).fault address
          (bus.read size state.mode address state.mem).mem, true) := by
  have same : (bususedincpcs state).mode = state.mode ∧ (bususedincpcs state).mem = state.mem := by
    unfold bususedincpcs
    split <;> exact ⟨rfl, rfl⟩
  unfold armulRead
  dsimp only
  rw [same.1, same.2]
  split <;> rfl

theorem armulWrite_busOutcome (size : AccessSize) (state : ARMulState Mem)
    (address data : ARMword) :
    busOutcome (armulWrite bus size (bususedincpcn state) address data) =
      if (bus.write size state.mode address data state.mem).fault = .noFault then
        ((bus.write size state.mode address data state.mem).mem, false)
      else
        (bus.recordFault (bus.write size state.mode address data state.mem).fault address
          (bus.write size state.mode address data state.mem).mem, true) := by
  unfold armulWrite
  dsimp only
  rw [bususedincpcn_mode, bususedincpcn_mem]
  split <;> rfl

theorem singleAccess_busOutcome (state : ARMulState Mem) (instr address : ARMword) :
    busOutcome (singleAccess bus state instr address).1 =
      accessOutcome bus state.mode state.mem instr address (storedWord state instr) := by
  unfold singleAccess accessOutcome singleSize
  cases byte : instr.getLsbD 22 <;> cases load : instr.getLsbD 20
  · exact (storeData_busOutcome .word state instr address).trans (armulWrite_busOutcome ..)
  · exact (loadData_busOutcome .word (fun _ _ => (writeDest_busOutcome _ _ _).2) state instr
      address).trans (armulRead_busOutcome ..)
  · exact (storeData_busOutcome .byte state instr address).trans (armulWrite_busOutcome ..)
  · exact (loadData_busOutcome .byte (fun _ _ => (writeDest_busOutcome _ _ _).1) state instr
      address).trans (armulRead_busOutcome ..)

theorem indexedTransfer_busOutcome (state : ARMulState Mem) {instr : ARMword}
    (post : instr.getLsbD 24 = false) :
    busOutcome (indexedTransfer singleOffset (singleAccess bus) state instr) =
      accessOutcome bus state.mode state.mem instr (lhsValue state instr)
        (storedWord state instr) := by
  rw [← singleAccess_busOutcome]
  unfold indexedTransfer
  rw [post]
  dsimp only
  rw [if_neg Bool.false_ne_true]
  split <;> rfl

/-- The words of the four user access forms, with any condition and offset. -/
def UserForm (instr : ARMword) : Prop :=
  transferOf instr = some .single ∧ instr.getLsbD 24 = false ∧ instr.getLsbD 21 = true

def ordinaryForm (instr : ARMword) : ARMword :=
  instr &&& ~~~0x200000#32

theorem singleTransfer_busOutcome (bus : Bus Mem) (state : ARMulState Mem) {instr : ARMword}
    (post : instr.getLsbD 24 = false) :
    busOutcome (singleTransfer bus state instr) =
      accessOutcome bus state.mode state.mem instr (lhsValue state instr)
        (storedWord state instr) := by
  unfold singleTransfer
  split
  · refine (indexedTransfer_busOutcome { state with ntransSig := false } post).trans ?_
    have stored : storedWord { state with ntransSig := false } instr = storedWord state instr := by
      unfold storedWord bususedincpcn
      dsimp only
      split <;> rfl
    rw [stored]
    rfl
  · exact indexedTransfer_busOutcome state post

theorem ordinaryForm_busOutcome (bus : Bus Mem) (state : ARMulState Mem) {instr : ARMword}
    (form : UserForm instr) :
    busOutcome (singleTransfer bus state (ordinaryForm instr)) =
      busOutcome (singleTransfer bus state instr) := by
  have bit (index : Nat) (other : (0x200000#32).getLsbD index = false) :
      (ordinaryForm instr).getLsbD index = instr.getLsbD index := by
    unfold ordinaryForm
    rw [BitVec.getLsbD_and, BitVec.getLsbD_not, other]
    by_cases bound : index < 32
    · simp [bound]
    · rw [BitVec.getLsbD_of_ge _ _ (by omega)]
      rfl
  have field (first : Nat) (other : ∀ index < 4, (0x200000#32).getLsbD (first + index) = false) :
      (ordinaryForm instr).extractLsb' first 4 = instr.extractLsb' first 4 := by
    apply BitVec.eq_of_getLsbD_eq
    intro index bound
    rw [BitVec.getLsbD_extractLsb', BitVec.getLsbD_extractLsb', bit _ (other index bound)]
  have post : (ordinaryForm instr).getLsbD 24 = false := (bit 24 (by decide)).trans form.2.1
  have base : lhsValue state (ordinaryForm instr) = lhsValue state instr := by
    unfold lhsValue lhsReg
    rw [field 16 (by decide)]
  have stored : storedWord state (ordinaryForm instr) = storedWord state instr := by
    unfold storedWord destReg
    rw [field 12 (by decide)]
  rw [singleTransfer_busOutcome bus state post, singleTransfer_busOutcome bus state form.2.1, base,
    stored]
  unfold accessOutcome singleSize
  rw [bit 20 (by decide), bit 22 (by decide)]

end Outcome

structure DataAccess where
  size : AccessSize
  address : ARMword
  data : Option ARMword
  deriving DecidableEq, Repr

def DataAccess.reads (access : DataAccess) : Bool :=
  access.data.isNone

section Rights

variable {signals : Signals} {mem : MmuMemory}

def Bus.access {Mem : Type} (bus : Bus Mem) (mode : ModeNum) (access : DataAccess) (mem : Mem) :
    WriteResult Mem :=
  match access.data with
  | none =>
      let result := bus.read access.size mode access.address mem
      { mem := result.mem, fault := result.fault }
  | some data => bus.write access.size mode access.address data mem

def Granted (signals : Signals) (mem : MmuMemory) (size : AccessSize) (mode : ModeNum)
    (read : Bool) (va : ARMword) : Prop :=
  mmuEnabled mem.mmu = false ∨
    alignmentFails mem.mmu size va = false ∧
      ∃ entry, translation signals mem va = some entry ∧
        checkAccess mem.mmu mode va entry read = .noFault

theorem lookup_isSome_iff (mode : ModeNum) (read : Bool) (va : ARMword) :
    (mmuTranslate signals mode read (va &&& ~~~3#32) mem).entry.isSome = true ↔
      ∃ entry, translation signals mem va = some entry ∧
        checkAccess mem.mmu mode va entry read = .noFault := by
  have entries := mmuTranslate_entry signals mode read (va &&& ~~~3#32) mem
  simp only [translation_word, checkAccess_word] at entries
  rw [Option.isSome_iff_exists]
  exact exists_congr entries

theorem readTranslated_fault (size : AccessSize) (va : ARMword) (entry : TlbEntry)
    (mem : MmuMemory) : (readTranslated signals size va entry mem).fault = .noFault := by
  unfold readTranslated
  dsimp only
  split
  · split <;> rfl
  · split <;> rfl

def accessLookup (signals : Signals) (mode : ModeNum) (access : DataAccess) (mem : MmuMemory) :
    Lookup :=
  mmuTranslate signals mode access.reads (mmuPidVaMap mem.mmu access.address &&& ~~~3#32) mem

theorem access_fault (mode : ModeNum) (access : DataAccess) (attached : Attached) :
    ((mmuBus signals).access mode access attached).fault =
      if !mmuEnabled attached.memory.mmu then .noFault
      else if alignmentFails attached.memory.mmu access.size
        (mmuPidVaMap attached.memory.mmu access.address) then .alignmentFault
      else (accessLookup signals mode access attached.memory).fault := by
  have faults := mmuTranslate_fault signals mode access.reads
    (mmuPidVaMap attached.memory.mmu access.address &&& ~~~3#32) attached.memory
  unfold accessLookup
  cases access with
  | mk size address data =>
      cases data with
      | none =>
          change (arm926ejsMmuRead signals size mode address attached.memory).fault = _
          unfold arm926ejsMmuRead
          dsimp only [DataAccess.reads, Option.isNone] at faults ⊢
          split
          · rfl
          · split
            · rfl
            · split
              · rfl
              · rename_i entry found
                rw [readTranslated_fault, faults.mpr (by rw [found]; rfl)]
      | some data =>
          change (arm926ejsMmuWrite signals size mode address data attached.memory).fault = _
          unfold arm926ejsMmuWrite
          dsimp only [DataAccess.reads, Option.isNone] at faults ⊢
          split
          · rfl
          · split
            · rfl
            · split
              · rfl
              · rename_i entry found
                exact (faults.mpr (by rw [found]; rfl)).symm

theorem access_succeeds_iff (mode : ModeNum) (access : DataAccess) (attached : Attached) :
    ((mmuBus signals).access mode access attached).fault = .noFault ↔
      Granted signals attached.memory access.size mode access.reads
        (mmuPidVaMap attached.memory.mmu access.address) := by
  have faults := mmuTranslate_fault signals mode access.reads
    (mmuPidVaMap attached.memory.mmu access.address &&& ~~~3#32) attached.memory
  rw [access_fault, Granted, ← lookup_isSome_iff]
  cases enabled : mmuEnabled attached.memory.mmu with
  | false => simp
  | true =>
      cases misaligned : alignmentFails attached.memory.mmu access.size
          (mmuPidVaMap attached.memory.mmu access.address) with
      | true => simp
      | false =>
          rw [Bool.not_true, if_neg Bool.false_ne_true, if_neg Bool.false_ne_true]
          simp only [Bool.true_eq_false, false_or, true_and]
          exact faults

theorem read_succeeds_iff (size : AccessSize) (mode : ModeNum) (address : ARMword) :
    (arm926ejsMmuRead signals size mode address mem).fault = .noFault ↔
      Granted signals mem size mode true (mmuPidVaMap mem.mmu address) := by
  exact access_succeeds_iff mode ⟨size, address, none⟩ ⟨mem, fun _ => 0#32⟩

theorem write_succeeds_iff (size : AccessSize) (mode : ModeNum) (address data : ARMword) :
    (arm926ejsMmuWrite signals size mode address data mem).fault = .noFault ↔
      Granted signals mem size mode false (mmuPidVaMap mem.mmu address) := by
  exact access_succeeds_iff mode ⟨size, address, some data⟩ ⟨mem, fun _ => 0#32⟩

def accessBits (va : ARMword) (entry : TlbEntry) : BitVec 2 :=
  (entry.perms >>> (2 * subpage va entry.mapping + 4)).setWidth 2

def domainAccess (mmu : MmuState) (entry : TlbEntry) : ARMword :=
  mmu.domainAccessControl >>> (2 * entry.domain.toNat) &&& 3#32

/-- The permission bits that tell privileged modes from User mode: 1, 2 for a store, and 0
for a load with the S bit set and the R bit clear. -/
def PrivilegedBits (mmu : MmuState) (ap : BitVec 2) (read : Bool) : Prop :=
  ap = 1#2 ∨ ap = 2#2 ∧ read = false ∨
    ap = 0#2 ∧ read = true ∧ mmu.control.getLsbD 8 = true ∧ mmu.control.getLsbD 9 = false

theorem checkPerms_user_iff (mmu : MmuState) {mode : ModeNum} (privileged : inUserMode mode = false)
    (ap : BitVec 2) (read : Bool) :
    (checkPerms mmu mode ap read = true ↔ checkPerms mmu user32mode ap read = true) ↔
      ¬PrivilegedBits mmu ap read := by
  have codes : ∀ ap : BitVec 2, ap = 0#2 ∨ ap = 1#2 ∨ ap = 2#2 ∨ ap = 3#2 := by decide
  have user : inUserMode user32mode = true := by decide
  unfold checkPerms PrivilegedBits
  rw [privileged, user]
  generalize mmu.control.getLsbD 8 = system
  generalize mmu.control.getLsbD 9 = rom
  rcases codes ap with rfl | rfl | rfl | rfl <;> cases read <;> cases system <;> cases rom <;>
    decide

theorem checkAccess_user_iff (mmu : MmuState) {mode : ModeNum}
    (privileged : inUserMode mode = false) (va : ARMword) (entry : TlbEntry) (read : Bool) :
    (checkAccess mmu mode va entry read = .noFault ↔
        checkAccess mmu user32mode va entry read = .noFault) ↔
      ¬(domainAccess mmu entry = 1#32 ∧ PrivilegedBits mmu (accessBits va entry) read) := by
  have perms := checkPerms_user_iff mmu privileged (accessBits va entry) read
  have granted (mode : ModeNum) (client : domainAccess mmu entry = 1#32) :
      checkAccess mmu mode va entry read = .noFault ↔
        checkPerms mmu mode (accessBits va entry) read = true := by
    unfold checkAccess
    change (if domainAccess mmu entry = 0#32 ∨ domainAccess mmu entry = 2#32 then _
      else if domainAccess mmu entry = 1#32 then _ else _) = _ ↔ _
    rw [client, if_neg (by decide), if_pos rfl]
    change (if checkPerms mmu mode (accessBits va entry) read = true then _ else _) = _ ↔ _
    split
    · rename_i allowed
      exact iff_of_true rfl allowed
    · rename_i refused
      refine iff_of_false ?_ refused
      split <;> exact fun none => FaultT.noConfusion none
  by_cases client : domainAccess mmu entry = 1#32
  · rw [granted mode client, granted user32mode client, perms]
    simp [client]
  · refine iff_of_true ?_ fun both => client both.1
    unfold checkAccess
    change (if domainAccess mmu entry = 0#32 ∨ domainAccess mmu entry = 2#32 then _
      else if domainAccess mmu entry = 1#32 then _ else _) = _ ↔
      (if domainAccess mmu entry = 0#32 ∨ domainAccess mmu entry = 2#32 then _
      else if domainAccess mmu entry = 1#32 then _ else _) = _
    rw [if_neg client, if_neg client]

/-- The entry of the address lets privileged modes through and User mode not. -/
def PrivilegedOnly (signals : Signals) (mem : MmuMemory) (size : AccessSize) (read : Bool)
    (va : ARMword) : Prop :=
  mmuEnabled mem.mmu = true ∧ alignmentFails mem.mmu size va = false ∧
    ∃ entry, translation signals mem va = some entry ∧ domainAccess mem.mmu entry = 1#32 ∧
      PrivilegedBits mem.mmu (accessBits va entry) read

theorem granted_user_iff {mode : ModeNum} (privileged : inUserMode mode = false)
    (size : AccessSize) (read : Bool) (va : ARMword) :
    (Granted signals mem size mode read va ↔ Granted signals mem size user32mode read va) ↔
      ¬PrivilegedOnly signals mem size read va := by
  unfold Granted PrivilegedOnly
  cases enabled : mmuEnabled mem.mmu with
  | false => simp
  | true =>
      cases misaligned : alignmentFails mem.mmu size va with
      | true => simp
      | false =>
          cases found : translation signals mem va with
          | none => simp
          | some entry =>
              have rights := checkAccess_user_iff mem.mmu privileged va entry read
              simp only [Bool.true_eq_false, false_or, true_and, Option.some.injEq,
                exists_eq_left']
              exact rights

theorem singleTransfer_aborts_iff (signals : Signals) (state : ARMulState Attached)
    {instr : ARMword} (post : instr.getLsbD 24 = false) :
    (singleTransfer (mmuBus signals) state instr).abortSig = true ↔
      ¬Granted signals state.mem.memory (singleSize instr) state.mode (instr.getLsbD 20)
        (mmuPidVaMap state.mem.memory.mmu (lhsValue state instr)) := by
  have outcome := congrArg Prod.snd
    (singleTransfer_busOutcome (mmuBus signals) state post)
  change (singleTransfer (mmuBus signals) state instr).abortSig = _ at outcome
  rw [outcome]
  unfold accessOutcome
  cases load : instr.getLsbD 20 with
  | true =>
      rw [if_pos rfl, ← read_succeeds_iff]
      change (if (arm926ejsMmuRead signals (singleSize instr) state.mode (lhsValue state instr)
        state.mem.memory).fault = .noFault then _ else _ : Attached × Bool).2 = true ↔ _
      split <;> simp_all
  | false =>
      rw [if_neg Bool.false_ne_true, ← write_succeeds_iff _ _ _ (storedWord state instr)]
      change (if (arm926ejsMmuWrite signals (singleSize instr) state.mode (lhsValue state instr)
        (storedWord state instr) state.mem.memory).fault = .noFault then _ else _ :
          Attached × Bool).2 = true ↔ _
      split <;> simp_all

/-- The transfer faults as it would in User mode, and is the ordinary one where it does not. -/
structure UsesUserRights (signals : Signals) (state : ARMulState Attached) (instr : ARMword) :
    Prop where
  faults : (singleTransfer (mmuBus signals) state instr).abortSig = true ↔
    (singleTransfer (mmuBus signals) { state with mode := user32mode } instr).abortSig = true
  effect : (singleTransfer (mmuBus signals) state instr).abortSig = false →
    (singleTransfer (mmuBus signals) state instr).mem =
      (singleTransfer (mmuBus signals) state (ordinaryForm instr)).mem

/-- In a privileged mode, a user access form uses the rights of User mode exactly when the
entry of its address does not tell the two apart. -/
theorem user_form_iff (signals : Signals) (state : ARMulState Attached) (instr : ARMword)
    (form : UserForm instr) (privileged : inUserMode state.mode = false) :
    UsesUserRights signals state instr ↔
      ¬PrivilegedOnly signals state.mem.memory (singleSize instr) (instr.getLsbD 20)
        (mmuPidVaMap state.mem.memory.mmu (lhsValue state instr)) := by
  rw [← granted_user_iff privileged]
  have own := singleTransfer_aborts_iff signals state form.2.1
  have user := singleTransfer_aborts_iff signals { state with mode := user32mode } form.2.1
  have effect : (singleTransfer (mmuBus signals) state instr).mem =
      (singleTransfer (mmuBus signals) state (ordinaryForm instr)).mem :=
    (congrArg Prod.fst (ordinaryForm_busOutcome (mmuBus signals) state form)).symm
  constructor
  · intro rights
    have faults := rights.faults
    rw [own, user] at faults
    exact not_iff_not.mp faults
  · intro same
    refine ⟨?_, fun _ => effect⟩
    rw [own, user]
    exact not_iff_not.mpr same

def systemSection : MmuMemory :=
  { mmu :=
      { arm926ejsMmuInit with
        control := 0x52079#32
        translationTableBase := 0x4000#32
        domainAccessControl := 1#32 }
    ram := fun index => if index = 0x1000#30 then 0x402#32 else 0#32 }

def openSection : MmuMemory :=
  { systemSection with ram := fun index => if index = 0x1000#30 then 0xc02#32 else 0#32 }

/-- `ldrt r0, [r1], #0` in Supervisor mode, from a section that every mode may read. -/
theorem user_form_iff_open :
    let signals : Signals := ⟨true, false, 0x41069265#32⟩
    let state := coreAt svc32mode false 0#32 (⟨openSection, fun _ => 0#32⟩ : Attached)
    mmuEnabled state.mem.memory.mmu = true ∧ UsesUserRights signals state 0xe4b10000#32 := by
  intro signals state
  refine ⟨by decide +kernel, (user_form_iff signals state 0xe4b10000#32 ?_ ?_).mpr ?_⟩
  · unfold UserForm
    decide
  · decide
  · rintro ⟨-, -, entry, found, -, bits⟩
    let address := mmuPidVaMap state.mem.memory.mmu (lhsValue state 0xe4b10000#32)
    have granted : (translation signals state.mem.memory address).map (accessBits address) =
        some 3#2 := by
      decide +kernel
    rw [found] at granted
    have every : accessBits address entry = 3#2 := Option.some.inj granted
    have none : ¬PrivilegedBits state.mem.memory.mmu 3#2 true := by
      simp [PrivilegedBits]
    exact none (every ▸ bits)

/-- The same instruction reads the section, which User mode may not. -/
theorem user_form_reads_privileged :
    let signals : Signals := ⟨true, false, 0x41069265#32⟩
    let state := coreAt svc32mode false 0#32 (⟨systemSection, fun _ => 0#32⟩ : Attached)
    UserForm 0xe4b10000#32 ∧ inUserMode state.mode = false ∧
      (singleTransfer (mmuBus signals) state 0xe4b10000#32).abortSig = false ∧
      (singleTransfer (mmuBus signals) { state with mode := user32mode }
        0xe4b10000#32).abortSig = true := by
  unfold UserForm
  decide +kernel

end Rights

end SkyeyeStarlet
