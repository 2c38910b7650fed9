import SkyeyeStarlet.InstrCache
import SkyeyeStarlet.Privilege

/-!
Coprocessor register transfers on the attach table of `ARMul_CoProInit`.  Access is
allowed in every mode (`CP_ACCESS_ALLOWED` is constant), so the registers of the memory
management unit are open to User mode, and only through coprocessor 15.
-/

namespace SkyeyeStarlet

/-- What the attached coprocessors work on: the unit with its memory, and `ValReg`. -/
structure Attached where
  memory : MmuMemory
  valReg : BitVec 4 → ARMword

/-- `CPNum`. -/
def cpNum (instr : ARMword) : BitVec 4 :=
  instr.extractLsb' 8 4

def attachedMcr (signals : Signals) (instr value : ARMword) (attached : Attached) :
    Answer Attached :=
  match cpNum instr with
  | 15#4 =>
      .done { attached with memory := arm926ejsMmuMcr signals instr value attached.memory } none
  | 1#4 | 4#4 | 5#4 =>
      .done { attached with valReg := Function.update attached.valReg (cregOf instr) value } none
  | _ => .cant attached

def attachedMrc (signals : Signals) (instr : ARMword) (attached : Attached) :
    Answer Attached × ARMword :=
  match cpNum instr with
  | 15#4 =>
      let (memory, value) := arm926ejsMmuMrc signals instr attached.memory
      (.done { attached with memory } none, value)
  | 1#4 | 4#4 | 5#4 => (.done attached none, attached.valReg (cregOf instr))
  | _ => (.cant attached, 0#32)

def attachedCoprocessors (signals : Signals) (others : Coprocessors Attached) :
    Coprocessors Attached :=
  { others with
    mrc := attachedMrc signals
    mcr := attachedMcr signals }

theorem attached_quiet (signals : Signals) {others : Coprocessors Attached}
    (cdp : ∀ instr mem, (others.cdp instr mem).Is32)
    (transfer : ∀ instr mem, (others.transfer instr mem).Quiet) :
    QuietCoprocessors (attachedCoprocessors signals others) := by
  refine ⟨fun instr mem => ?_, fun instr value mem => ?_, cdp, transfer⟩
  · show (attachedMrc signals instr mem).1.Quiet
    unfold attachedMrc
    split <;> trivial
  · show (attachedMcr signals instr value mem).Quiet
    unfold attachedMcr
    split <;> trivial

def isRegisterTransfer (instr : ARMword) : Bool :=
  instr.extractLsb' 28 4 != 0xf#4 && instr.extractLsb' 24 4 == 0xe#4 && instr.getLsbD 4

def isMrc (instr : ARMword) : Bool :=
  instr.getLsbD 20

def FaultT.code : FaultT → ARMword
  | .noFault => 0x0#32
  | .alignmentFault => 0x1#32
  | .sectionTranslationFault => 0x5#32
  | .pageTranslationFault => 0x7#32
  | .sectionDomainFault => 0x9#32
  | .pageDomainFault => 0xb#32
  | .sectionPermissionFault => 0xd#32
  | .subpagePermissionFault => 0xf#32

def readResult (attached : Attached) (result : MmuRead) : ReadResult Attached :=
  { mem := { attached with memory := result.mem }
    fault := result.fault
    -- An access that writes no data leaves a local of the caller as it was.
    data := result.data.getD 0#32 }

def mmuBus (signals : Signals) : Bus Attached :=
  { read := fun size mode address attached =>
      readResult attached (arm926ejsMmuRead signals size mode address attached.memory)
    write := fun size mode address data attached =>
      let result := arm926ejsMmuWrite signals size mode address data attached.memory
      { mem := { attached with memory := result.mem }, fault := result.fault }
    fetch := fun mode address attached =>
      readResult attached (arm926ejsMmuLoadInstr signals mode address attached.memory)
    recordFault := fun fault address attached =>
      let mmu := attached.memory.mmu
      { attached with
        memory :=
          { attached.memory with
            mmu :=
              { mmu with
                faultStatus := (fault.code ||| (mmu.lastDomain <<< 4)) &&& 0xff#32
                faultAddress := address } } }
    highVectors := fun attached => attached.memory.mmu.control.getLsbD 13 }

section Decode

variable {Mem : Type} {bus : Bus Mem} {traps : Traps Mem} {cops : Coprocessors Mem}

theorem executeArm_registerTransfer {instr : ARMword} (transfer : isRegisterTransfer instr = true)
    (state : ARMulState Mem) (pc : ARMword) :
    executeArm bus traps cops state pc instr =
      if conditionHolds state.flags (instr.extractLsb' 28 4) then
        coprocessorRegister bus cops state instr
      else state := by
  simp only [isRegisterTransfer, Bool.and_eq_true, bne_iff_ne, beq_iff_eq] at transfer
  obtain ⟨⟨conditional, opcode⟩, _⟩ := transfer
  have bit (index : Nat) (bound : index < 4) :
      instr.getLsbD (24 + index) = (0xe#4).getLsbD index := by
    rw [← opcode, BitVec.getLsbD_extractLsb']
    simp [bound]
  have group : instr.extractLsb' 25 3 = 7#3 := by
    apply BitVec.eq_of_getLsbD_eq
    intro index bound
    have ones : ∀ index < 3, (7#3).getLsbD index = (0xe#4).getLsbD (1 + index) := by decide
    rw [BitVec.getLsbD_extractLsb', ones index bound, ← bit (1 + index) (by omega)]
    simp [bound, ← Nat.add_assoc]
  have pair : instr.extractLsb' 26 2 = 3#2 := by
    apply BitVec.eq_of_getLsbD_eq
    intro index bound
    have ones : ∀ index < 2, (3#2).getLsbD index = (0xe#4).getLsbD (2 + index) := by decide
    rw [BitVec.getLsbD_extractLsb', ones index bound, ← bit (2 + index) (by omega)]
    simp [bound, ← Nat.add_assoc]
  have low : instr.getLsbD 24 = false := bit 0 (by decide)
  have none : transferOf instr = none := by
    unfold transferOf
    rw [pair, group]
    rfl
  rw [executeArm, if_neg conditional]
  congr 1
  unfold mainSwitch
  rw [none, group, low]
  rfl

def Answer.mem : Answer Mem → Mem
  | .done mem _ => mem
  | .cant mem => mem
  | .interrupted mem _ => mem

structure SameOutside (state after : ARMulState Mem) : Prop where
  mem : after.mem = state.mem
  abortSig : after.abortSig = state.abortSig

theorem armulSetR15_outside (state : ARMulState Mem) (value : ARMword) :
    SameOutside state (armulSetR15 state value) := by
  unfold armulSetR15
  split <;> exact ⟨rfl, rfl⟩

theorem armulCPSRAltered_outside (state : ARMulState Mem) :
    SameOutside state (armulCPSRAltered state) := by
  unfold armulCPSRAltered
  generalize (if state.prog32Sig then state.cpsr else state.cpsr &&& 0xf80000c3#32) = cpsr
  dsimp only
  split
  · split <;> exact ⟨rfl, rfl⟩
  · split <;> exact ⟨rfl, rfl⟩

theorem armulAbort_outside (highVectors : Mem → Bool) (state : ARMulState Mem) (vector : Vector) :
    SameOutside state (armulAbort highVectors state vector) := by
  have entered (mask link value : ARMword) (mode : ModeNum) (cleared : ARMulState Mem) :
      SameOutside cleared (armulSetR15 (setabort cleared mask mode link) value) := by
    have branched := armulSetR15_outside (setabort cleared mask mode link) value
    have altered : SameOutside cleared (setabort cleared mask mode link) := by
      unfold setabort armulSetCPSR
      exact ⟨(armulCPSRAltered_outside _).mem, (armulCPSRAltered_outside _).abortSig⟩
    exact ⟨branched.mem.trans altered.mem, branched.abortSig.trans altered.abortSig⟩
  unfold armulAbort
  dsimp only
  split
  · exact ⟨(entered _ _ _ _ _).mem, (entered _ _ _ _ _).abortSig⟩
  · exact ⟨(entered _ _ _ _ _).mem, (entered _ _ _ _ _).abortSig⟩

theorem bususedincpcn_mem (state : ARMulState Mem) : (bususedincpcn state).mem = state.mem := by
  unfold bususedincpcn
  split <;> rfl

theorem bususedincpcn_mode (state : ARMulState Mem) :
    (bususedincpcn state).mode = state.mode := by
  unfold bususedincpcn
  split <;> rfl

theorem coprocessorCall_mem (state : ARMulState Mem) (answer : Answer Mem) :
    (coprocessorCall bus bususedincpcn state answer).mem = answer.mem := by
  cases answer with
  | done mem vector =>
      unfold coprocessorCall
      rw [bususedincpcn_mem]
      cases vector with
      | none => rfl
      | some vector => exact (armulAbort_outside _ _ _).mem
  | cant mem => exact (armulAbort_outside _ _ _).mem
  | interrupted mem vector => exact (armulAbort_outside _ _ _).mem

def mcrSource (state : ARMulState Mem) (instr : ARMword) : ARMword :=
  if destReg instr = 15#4 then state.reg 15#4 + insnSize state else state.reg (destReg instr)

def transferAnswer (cops : Coprocessors Mem) (state : ARMulState Mem) (instr : ARMword) :
    Answer Mem :=
  if isMrc instr then (cops.mrc instr state.mem).1
  else cops.mcr instr (mcrSource state instr) state.mem

theorem coprocessorRegister_mem {instr : ARMword} (register : instr.getLsbD 4 = true)
    (state : ARMulState Mem) :
    (coprocessorRegister bus cops state instr).mem = (transferAnswer cops state instr).mem := by
  unfold coprocessorRegister transferAnswer isMrc
  rw [if_pos register]
  split
  · dsimp only
    split
    · exact coprocessorCall_mem _ _
    · exact coprocessorCall_mem _ _
  · exact coprocessorCall_mem _ _

theorem coprocessorRegister_mode {instr : ARMword} (register : instr.getLsbD 4 = true)
    (state : ARMulState Mem) {mem : Mem}
    (answer : transferAnswer cops state instr = .done mem none) :
    (coprocessorRegister bus cops state instr).mode = state.mode := by
  unfold transferAnswer isMrc at answer
  unfold coprocessorRegister
  rw [if_pos register]
  split
  · rename_i isMrc
    rw [if_pos isMrc] at answer
    dsimp only
    rw [answer]
    split
    · exact bususedincpcn_mode _
    · exact bususedincpcn_mode _
  · rename_i isMcr
    rw [if_neg isMcr, mcrSource] at answer
    dsimp only
    rw [answer]
    exact bususedincpcn_mode _

end Decode

section Access

variable {signals : Signals} {bus : Bus Attached} {traps : Traps Attached}
  {others : Coprocessors Attached}

/-- What a register transfer of coprocessor 15 does to the unit, in any mode. -/
def registerAccess (signals : Signals) (state : ARMulState Attached) (instr : ARMword) :
    MmuMemory :=
  if isMrc instr then (arm926ejsMmuMrc signals instr state.mem.memory).1
  else arm926ejsMmuMcr signals instr (mcrSource state instr) state.mem.memory

theorem transferAnswer_fifteen {instr : ARMword} (fifteen : cpNum instr = 15#4)
    (state : ARMulState Attached) :
    transferAnswer (attachedCoprocessors signals others) state instr =
      .done { state.mem with memory := registerAccess signals state instr } none := by
  unfold transferAnswer registerAccess attachedCoprocessors attachedMrc attachedMcr
  dsimp only
  rw [fifteen]
  split <;> rfl

theorem transferAnswer_other {instr : ARMword} (other : cpNum instr ≠ 15#4)
    (state : ARMulState Attached) :
    (transferAnswer (attachedCoprocessors signals others) state instr).mem.memory =
      state.mem.memory := by
  unfold transferAnswer attachedCoprocessors attachedMrc attachedMcr
  dsimp only
  split
  · split
    · rename_i fifteen
      exact absurd fifteen other
    all_goals rfl
  · split
    · rename_i fifteen
      exact absurd fifteen other
    all_goals rfl

/-- The writes to the registers that a permission check reads: the control, translation
base and domain registers, the operations on the translation buffer, and the process. -/
def reconfigures (instr : ARMword) : Bool :=
  cpNum instr == 15#4 && !isMrc instr &&
    (cregOf instr == 1#4 || cregOf instr == 2#4 || cregOf instr == 3#4 || cregOf instr == 8#4 ||
      cregOf instr == 13#4)

structure SameChecks (before after : MmuMemory) : Prop where
  control : after.mmu.control = before.mmu.control
  base : after.mmu.translationTableBase = before.mmu.translationTableBase
  domains : after.mmu.domainAccessControl = before.mmu.domainAccessControl
  process : after.mmu.processId = before.mmu.processId
  tlb : after.mmu.mainTlb = before.mmu.mainTlb
  domain : after.mmu.lastDomain = before.mmu.lastDomain
  ram : after.ram = before.ram

theorem SameChecks.refl (mem : MmuMemory) : SameChecks mem mem := by
  exact ⟨rfl, rfl, rfl, rfl, rfl, rfl, rfl⟩

theorem SameChecks.trans {first second third : MmuMemory} (start : SameChecks first second)
    (rest : SameChecks second third) : SameChecks first third := by
  exact ⟨rest.control.trans start.control, rest.base.trans start.base,
    rest.domains.trans start.domains, rest.process.trans start.process,
    rest.tlb.trans start.tlb, rest.domain.trans start.domain, rest.ram.trans start.ram⟩

/-- An access of the mode to the address passes the permission check, and reaches `pa`. -/
def Permitted (signals : Signals) (mem : MmuMemory) (mode : ModeNum) (read : Bool)
    (address pa : ARMword) : Prop :=
  PhysicalAt signals mem mode read (mmuPidVaMap mem.mmu address) pa

theorem SameChecks.permitted {before after : MmuMemory} (same : SameChecks before after)
    (mode : ModeNum) (read : Bool) (address pa : ARMword) :
    Permitted signals before mode read address pa → Permitted signals after mode read address pa := by
  have mapped : mmuPidVaMap after.mmu address = mmuPidVaMap before.mmu address := by
    rw [mmuPidVaMap, mmuPidVaMap, same.process]
  have enabled : mmuEnabled after.mmu = mmuEnabled before.mmu := by
    rw [mmuEnabled, mmuEnabled, same.control]
  have entries (va : ARMword) : translation signals after va = translation signals before va := by
    simp only [translation, walkConfig, same.ram, same.base, same.tlb, same.domain]
  have checks (va : ARMword) (entry : TlbEntry) :
      checkAccess after.mmu mode va entry read = checkAccess before.mmu mode va entry read := by
    have perms (ap : BitVec 2) :
        checkPerms after.mmu mode ap read = checkPerms before.mmu mode ap read := by
      unfold checkPerms
      rw [same.control]
    simp only [checkAccess, perms, same.domains]
  unfold Permitted
  rw [mapped]
  intro physical
  cases physical with
  | off disabled => exact .off (enabled.trans disabled)
  | translated entry on found allowed =>
      exact .translated entry (enabled.trans on) ((entries _).trans found)
        ((checks _ entry).trans allowed)

theorem SameChecks.symm {before after : MmuMemory} (same : SameChecks before after) :
    SameChecks after before := by
  exact ⟨same.control.symm, same.base.symm, same.domains.symm, same.process.symm, same.tlb.symm,
    same.domain.symm, same.ram.symm⟩

theorem sameChecks_cacheOps {instr value : ARMword} {mem : MmuMemory}
    (ram : (arm926ejsMmuCacheOps signals instr value mem).1.ram = mem.ram) :
    SameChecks mem (arm926ejsMmuCacheOps signals instr value mem).1 := by
  obtain ⟨iCache, dCache, wb, memory, frame⟩ := cacheOps_frame signals instr value mem
  rw [frame] at ram ⊢
  exact ⟨rfl, rfl, rfl, rfl, rfl, rfl, ram⟩

theorem sameChecks_mrc {mem : MmuMemory} (reachable : Reachable signals mem) (instr : ARMword) :
    SameChecks mem (arm926ejsMmuMrc signals instr mem).1 := by
  have ram : (arm926ejsMmuMrc signals instr mem).1.ram = mem.ram :=
    ram_of_reachable reachable (show (MmuEvent.mrc instr).usesICache from trivial)
  unfold arm926ejsMmuMrc at ram ⊢
  split at ram
  case h_7 => exact sameChecks_cacheOps ram
  all_goals exact SameChecks.refl mem

theorem sameChecks_mcr {mem : MmuMemory} (reachable : Reachable signals mem)
    {instr : ARMword} (value : ARMword)
    (kept : ∀ creg ∈ [1#4, 2#4, 3#4, 8#4, 13#4], cregOf instr ≠ creg) :
    SameChecks mem (arm926ejsMmuMcr signals instr value mem) := by
  have ram : (arm926ejsMmuMcr signals instr value mem).ram = mem.ram :=
    ram_of_reachable reachable (show (MmuEvent.mcr instr value).usesICache from trivial)
  unfold arm926ejsMmuMcr at ram ⊢
  dsimp only at ram ⊢
  split at ram
  case h_1 creg => exact absurd creg (kept _ (by simp))
  case h_2 creg => exact absurd creg (kept _ (by simp))
  case h_3 creg => exact absurd creg (kept _ (by simp))
  case h_4 =>
    split
    · exact ⟨rfl, rfl, rfl, rfl, rfl, rfl, rfl⟩
    · exact SameChecks.refl mem
  case h_5 => exact ⟨rfl, rfl, rfl, rfl, rfl, rfl, rfl⟩
  case h_6 => exact sameChecks_cacheOps ram
  case h_7 creg => exact absurd creg (kept _ (by simp))
  case h_8 => exact ⟨rfl, rfl, rfl, rfl, rfl, rfl, rfl⟩
  case h_9 creg => exact absurd creg (kept _ (by simp))
  case h_10 => exact SameChecks.refl mem

theorem registerAccess_spec {state : ARMulState Attached}
    (reachable : Reachable signals state.mem.memory) {instr : ARMword}
    (fifteen : cpNum instr = 15#4) :
    Reachable signals (registerAccess signals state instr) ∧
      (reconfigures instr = false →
        SameChecks state.mem.memory (registerAccess signals state instr)) := by
  have extended (event : MmuEvent) :
      Reachable signals (mmuStep signals state.mem.memory event) := by
    obtain ⟨ram, events, same⟩ := reachable
    refine ⟨ram, events ++ [event], ?_⟩
    rw [Runs.run_append, ← same]
    rfl
  unfold registerAccess
  split
  · exact ⟨extended (.mrc instr), fun _ => sameChecks_mrc reachable instr⟩
  · rename_i isMcr
    refine ⟨extended (.mcr instr (mcrSource state instr)), ?_⟩
    intro kept
    refine sameChecks_mcr reachable _ ?_
    rw [reconfigures, fifteen] at kept
    simp only [beq_self_eq_true, Bool.not_eq_true _ ▸ isMcr, Bool.not_false, Bool.true_and,
      Bool.or_eq_false_iff, beq_eq_false_iff_ne] at kept
    simp only [List.mem_cons, List.not_mem_nil, or_false]
    rintro creg (rfl | rfl | rfl | rfl | rfl)
    · exact kept.1.1.1.1
    · exact kept.1.1.1.2
    · exact kept.1.1.2
    · exact kept.1.2
    · exact kept.2

theorem transfer_other {instr : ARMword} (transfer : isRegisterTransfer instr = true)
    (other : cpNum instr ≠ 15#4) (state : ARMulState Attached) (pc : ARMword) :
    (executeArm bus traps (attachedCoprocessors signals others) state pc instr).mem.memory =
      state.mem.memory := by
  have register : instr.getLsbD 4 = true := (Bool.and_eq_true_iff.mp transfer).2
  rw [executeArm_registerTransfer transfer]
  split
  · rw [coprocessorRegister_mem register]
    exact transferAnswer_other other state
  · rfl

theorem transfer_fifteen {instr : ARMword} (transfer : isRegisterTransfer instr = true)
    (fifteen : cpNum instr = 15#4) {state : ARMulState Attached}
    (holds : conditionHolds state.flags (instr.extractLsb' 28 4) = true) (pc : ARMword) :
    let after := executeArm bus traps (attachedCoprocessors signals others) state pc instr
    after.mode = state.mode ∧ after.mem.memory = registerAccess signals state instr := by
  have register : instr.getLsbD 4 = true := (Bool.and_eq_true_iff.mp transfer).2
  have answer := @transferAnswer_fifteen signals others instr fifteen state
  intro after
  have called : after =
      coprocessorRegister bus (attachedCoprocessors signals others) state instr := by
    rw [show after = executeArm bus traps _ state pc instr from rfl,
      executeArm_registerTransfer transfer, if_pos holds]
  rw [called]
  refine ⟨coprocessorRegister_mode register state answer, ?_⟩
  rw [coprocessorRegister_mem register, answer]
  rfl

theorem transfer_spec {state : ARMulState Attached}
    (reachable : Reachable signals state.mem.memory) {instr : ARMword}
    (transfer : isRegisterTransfer instr = true) (kept : reconfigures instr = false)
    (pc : ARMword) :
    let after := executeArm bus traps (attachedCoprocessors signals others) state pc instr
    Reachable signals after.mem.memory ∧ SameChecks state.mem.memory after.mem.memory := by
  intro after
  by_cases fifteen : cpNum instr = 15#4
  · cases holds : conditionHolds state.flags (instr.extractLsb' 28 4) with
    | false =>
        have skipped : after = state := by
          rw [show after = executeArm bus traps _ state pc instr from rfl,
            executeArm_registerTransfer transfer, if_neg (by rw [holds]; exact Bool.false_ne_true)]
        rw [skipped]
        exact ⟨reachable, SameChecks.refl _⟩
    | true =>
        obtain ⟨next, same⟩ := registerAccess_spec reachable fifteen
        rw [(transfer_fifteen transfer fifteen holds pc).2]
        exact ⟨next, same kept⟩
  · rw [transfer_other transfer fifteen]
    exact ⟨reachable, SameChecks.refl _⟩

/-- The addresses and words of a sequence of register transfers, executed in turn. -/
def transferRun (signals : Signals) (bus : Bus Attached) (traps : Traps Attached)
    (others : Coprocessors Attached) (state : ARMulState Attached)
    (words : List (ARMword × ARMword)) : ARMulState Attached :=
  Runs.run
    (fun state word =>
      executeArm bus traps (attachedCoprocessors signals others) state word.1 word.2)
    state words

theorem transferRun_spec {state : ARMulState Attached}
    (reachable : Reachable signals state.mem.memory) {words : List (ARMword × ARMword)}
    (kept : ∀ word ∈ words, isRegisterTransfer word.2 = true ∧ reconfigures word.2 = false) :
    SameChecks state.mem.memory
      (transferRun signals bus traps others state words).mem.memory := by
  induction words generalizing state with
  | nil => exact SameChecks.refl _
  | cons word rest ih =>
      obtain ⟨transfer, same⟩ := kept word List.mem_cons_self
      obtain ⟨next, first⟩ := transfer_spec reachable transfer same word.1
      exact first.trans (ih next fun other member => kept other (List.mem_cons_of_mem _ member))

/-- Register transfers do not depend on the mode: those of coprocessor 15 take effect in
every mode and raise no exception, the others leave the unit alone, and only the writes
that reconfigure the unit can alter the outcome of a later permission check. -/
theorem coprocessor15_unguarded (signals : Signals) (bus : Bus Attached) (traps : Traps Attached)
    (others : Coprocessors Attached) (state : ARMulState Attached)
    (reachable : Reachable signals state.mem.memory) :
    (∀ pc instr, isRegisterTransfer instr = true →
      conditionHolds state.flags (instr.extractLsb' 28 4) = true →
      let after := executeArm bus traps (attachedCoprocessors signals others) state pc instr
      (cpNum instr ≠ 15#4 → after.mem.memory = state.mem.memory) ∧
        (cpNum instr = 15#4 →
          after.mode = state.mode ∧ after.mem.memory = registerAccess signals state instr)) ∧
      ∀ words : List (ARMword × ARMword),
        (∀ word ∈ words, isRegisterTransfer word.2 = true ∧ reconfigures word.2 = false) →
        ∀ mode read address pa,
          Permitted signals (transferRun signals bus traps others state words).mem.memory mode read
              address pa ↔
            Permitted signals state.mem.memory mode read address pa := by
  constructor
  · intro pc instr transfer holds
    exact ⟨fun other => transfer_other transfer other state pc,
      fun fifteen => transfer_fifteen transfer fifteen holds pc⟩
  · intro words kept mode read address pa
    have same : SameChecks state.mem.memory
        (transferRun signals bus traps others state words).mem.memory :=
      transferRun_spec reachable kept
    exact ⟨same.symm.permitted mode read address pa, same.permitted mode read address pa⟩

def untrapped : Traps Attached :=
  { undfTrap := fun state _ => (state, false) }

def absent : Coprocessors Attached :=
  { mrc := fun _ mem => (.cant mem, 0#32)
    mcr := fun _ _ mem => .cant mem
    cdp := fun _ mem => .cant mem
    transfer := fun _ mem => .cant mem
    words := fun _ => 0
    load := fun _ _ mem => mem
    store := fun _ mem => (mem, 0#32) }

def userCore : ARMulState Attached :=
  coreAt user32mode false 0#32 ⟨⟨arm926ejsMmuInit, fun _ => 0#32⟩, fun _ => 0#32⟩

/-- `mcr p15, 0, r0, c3, c0, 0` in User mode. -/
theorem coprocessor15_unguarded_user :
    let signals : Signals := ⟨true, false, 0x41069265#32⟩
    let after := executeArm (mmuBus signals) untrapped (attachedCoprocessors signals absent)
      userCore 0#32 0xee030f10#32
    InUser userCore ∧ after.mode = user32mode ∧
      after.mem.memory = registerAccess signals userCore 0xee030f10#32 := by
  intro signals after
  have open15 := coprocessor15_unguarded signals (mmuBus signals) untrapped absent userCore
    ⟨fun _ => 0#32, [], rfl⟩
  have access := (open15.1 0#32 0xee030f10#32 (by decide) (by decide)).2 (by decide)
  exact ⟨⟨rfl, rfl, rfl⟩, access⟩

/-- The same instruction clears the domain access control register from User mode, without
an exception. -/
theorem user_clears_domainAccessControl :
    let signals : Signals := ⟨true, false, 0x41069265#32⟩
    let after := executeArm (mmuBus signals) untrapped (attachedCoprocessors signals absent)
      userCore 0#32 0xee030f10#32
    InUser userCore ∧ isRegisterTransfer 0xee030f10#32 = true ∧ cpNum 0xee030f10#32 = 15#4 ∧
      after.mode = user32mode ∧
      userCore.mem.memory.mmu.domainAccessControl = 0xdeadc0de#32 ∧
      after.mem.memory.mmu.domainAccessControl = 0#32 := by
  refine ⟨⟨rfl, rfl, rfl⟩, ?_, ?_, ?_, ?_, ?_⟩
  all_goals decide +kernel

end Access

end SkyeyeStarlet
