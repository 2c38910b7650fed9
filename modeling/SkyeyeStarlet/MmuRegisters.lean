import SkyeyeStarlet.InstrCache
import SkyeyeStarlet.Library.RegisterFile

/-!
The registers of coprocessor 15 that `arm926ejs_mmu_mcr` stores, under transfers in any order,
and what `arm926ejs_mmu_mrc` reads back of them.
-/

namespace SkyeyeStarlet

open RegisterFile Runs

inductive MmuRegister where
  | control
  | translationTableBase
  | domainAccessControl
  | faultStatus
  | faultAddress
  | tlbLockdown
  | processId
  deriving DecidableEq, Repr

def mmuRegister (instr : ARMword) : Option MmuRegister :=
  match cregOf instr with
  | 1#4 => some .control
  | 2#4 => some .translationTableBase
  | 3#4 => some .domainAccessControl
  | 5#4 => if opc2 instr = 0#3 then some .faultStatus else none
  | 6#4 => some .faultAddress
  | 10#4 => some .tlbLockdown
  | 13#4 => some .processId
  | _ => none

namespace MmuRegister

def stored (mmu : MmuState) : MmuRegister → ARMword
  | control => mmu.control
  | translationTableBase => mmu.translationTableBase
  | domainAccessControl => mmu.domainAccessControl
  | faultStatus => mmu.faultStatus
  | faultAddress => mmu.faultAddress
  | tlbLockdown => mmu.tlbLockedDown
  | processId => mmu.processId

/-- What `arm926ejs_mmu_mcr` makes of a value, and the read side of what is stored. -/
def masked (value : ARMword) : MmuRegister → ARMword
  | control => (value ||| 0x50078#32) &&& 0x5f3ff#32
  | translationTableBase => value &&& 0xffffc000#32
  | domainAccessControl => value
  | faultStatus => value &&& 0xff#32
  | faultAddress => value
  | tlbLockdown => value
  | processId => value &&& 0xfe000000#32

/-- The form that the architecture gives a value: fixed bits forced, reserved bits cleared.  Of
the TLB lockdown register it defines the victim, bits 26 to 28, and the P bit. -/
def canonical (value : ARMword) : MmuRegister → ARMword
  | control => (value ||| 0x50078#32) &&& 0x5f3ff#32
  | translationTableBase => value &&& 0xffffc000#32
  | domainAccessControl => value
  | faultStatus => value &&& 0xff#32
  | faultAddress => value
  | tlbLockdown => value &&& 0x1c000001#32
  | processId => value &&& 0xfe000000#32

theorem masked_masked (register : MmuRegister) (value : ARMword) :
    register.masked (register.masked value) = register.masked value := by
  cases register with
  | control =>
      apply BitVec.eq_of_getLsbD_eq
      intro index below
      simp only [masked, BitVec.getLsbD_and, BitVec.getLsbD_or]
      have forced : (0x50078#32 : ARMword).getLsbD index = true →
          (0x5f3ff#32 : ARMword).getLsbD index = true := by
        revert index
        decide
      grind
  | translationTableBase | faultStatus | processId =>
      simp only [masked, BitVec.and_assoc, BitVec.and_self]
  | domainAccessControl | faultAddress | tlbLockdown => rfl

theorem lockdown_canonical (value : ARMword) :
    value = value &&& 0x1c000001#32 ↔ value &&& 0xe3fffffe#32 = 0#32 := by
  constructor
  · intro same
    rw [same, BitVec.and_assoc]
    exact BitVec.and_zero
  · intro clear
    have covered : ∀ index < 32, (0x1c000001#32 : ARMword).getLsbD index =
        !(0xe3fffffe#32 : ARMword).getLsbD index := by
      decide
    apply BitVec.eq_of_getLsbD_eq
    intro index below
    have bit := congrArg (fun word => word.getLsbD index) clear
    simp only [BitVec.getLsbD_and, BitVec.getLsbD_zero] at bit ⊢
    rw [covered index below]
    grind

end MmuRegister

inductive MmuTransfer where
  | mcr (instr value : ARMword)
  | mrc (instr : ARMword)

def transferStep (signals : Signals) (mem : MmuMemory) : MmuTransfer → MmuMemory
  | .mcr instr value => arm926ejsMmuMcr signals instr value mem
  | .mrc instr => (arm926ejsMmuMrc signals instr mem).1

def MmuTransfer.target : MmuTransfer → Option MmuRegister
  | .mcr instr _ => mmuRegister instr
  | .mrc _ => none

def MmuTransfer.value : MmuTransfer → ARMword
  | .mcr _ value => value
  | .mrc _ => 0#32

section Step

variable (signals : Signals) (mem : MmuMemory)

theorem stored_cacheOps (instr value : ARMword) (register : MmuRegister) :
    register.stored (arm926ejsMmuCacheOps signals instr value mem).1.mmu =
      register.stored mem.mmu := by
  obtain ⟨iCache, dCache, wb, ram, frame⟩ := cacheOps_frame signals instr value mem
  rw [frame]
  cases register <;> rfl

theorem stored_tlbOps (instr value : ARMword) (mmu : MmuState) (register : MmuRegister) :
    register.stored (arm926ejsMmuTlbOps instr value mmu) = register.stored mmu := by
  unfold arm926ejsMmuTlbOps
  split
  · split
    · cases register <;> rfl
    · split
      · cases register <;> rfl
      · rfl
  · rfl

theorem stored_mcr (instr value : ARMword) (register : MmuRegister) :
    register.stored (arm926ejsMmuMcr signals instr value mem).mmu =
      if mmuRegister instr = some register then register.masked value
      else register.stored mem.mmu := by
  unfold arm926ejsMmuMcr mmuRegister
  dsimp only
  generalize cregOf instr = creg
  split
  case h_4 =>
    by_cases dataFault : opc2 instr = 0#3
    · simp only [dataFault, if_true]
      cases register <;> rfl
    · simp only [dataFault, if_false]
      cases register <;> rfl
  case h_6 => exact stored_cacheOps signals mem instr value register
  case h_7 => exact stored_tlbOps instr value mem.mmu register
  case h_10 => split <;> first | rfl | contradiction
  all_goals cases register <;> rfl

theorem stored_mrc (instr : ARMword) (register : MmuRegister) :
    register.stored (arm926ejsMmuMrc signals instr mem).1.mmu = register.stored mem.mmu := by
  unfold arm926ejsMmuMrc
  split
  case h_7 => exact stored_cacheOps signals mem instr 0#32 register
  all_goals rfl

theorem mrc_value {instr : ARMword} {register : MmuRegister}
    (names : mmuRegister instr = some register) :
    (arm926ejsMmuMrc signals instr mem).2 =
      if register = .processId then 0#32 else register.masked (register.stored mem.mmu) := by
  revert names
  unfold arm926ejsMmuMrc mmuRegister
  dsimp only
  generalize cregOf instr = creg
  split
  case h_4 =>
    intro names
    by_cases dataFault : opc2 instr = 0#3
    · rw [if_pos dataFault] at names
      cases names
      exact if_pos dataFault
    · rw [if_neg dataFault] at names
      cases names
  all_goals
    intro names
    cases names <;> rfl

theorem transfers_independent :
    Independent (transferStep signals) (fun register mem => register.stored mem.mmu)
      MmuTransfer.target (fun register transfer _ => register.masked transfer.value) := by
  intro mem transfer register
  cases transfer with
  | mcr instr value => exact stored_mcr signals mem instr value register
  | mrc instr => exact stored_mrc signals mem instr register

end Step

def lastWritten (register : MmuRegister) (transfers : List MmuTransfer) : Option ARMword :=
  (lastTo MmuTransfer.target register transfers).map MmuTransfer.value

theorem stored_run (signals : Signals) (mem : MmuMemory) {transfers : List MmuTransfer}
    {register : MmuRegister} {value : ARMword}
    (last : lastWritten register transfers = some value) :
    register.stored (run (transferStep signals) mem transfers).mmu = register.masked value := by
  obtain ⟨transfer, found, rfl⟩ := Option.map_eq_some_iff.mp last
  let masked (transfer : MmuTransfer) : ARMword := register.masked transfer.value
  have overwrites (transfer : MmuTransfer) (old : ARMword)
      (_ : transfer.target = some register) :
      register.masked transfer.value = masked transfer := rfl
  have stored := (transfers_independent signals).run_last overwrites mem transfers
  rw [stored, found]
  rfl

def MmuRegister.lost : MmuRegister → ARMword
  | processId => 0xfe000000#32
  | tlbLockdown => 0xe3fffffe#32
  | _ => 0#32

/-- After any transfers a register reads back as the canonical form of the value written to it
last, unless it is the process identifier and that form is not zero, or the TLB lockdown register
and the value has a reserved bit set. -/
theorem mmu_registers_read_back_iff (signals : Signals) (mem : MmuMemory)
    {transfers : List MmuTransfer} {register : MmuRegister} {value instr : ARMword}
    (last : lastWritten register transfers = some value)
    (names : mmuRegister instr = some register) :
    (arm926ejsMmuMrc signals instr (run (transferStep signals) mem transfers)).2 =
        register.canonical value ↔
      value &&& register.lost = 0#32 := by
  rw [mrc_value signals _ names, stored_run signals mem last, MmuRegister.masked_masked]
  cases register with
  | processId =>
      rw [if_pos rfl]
      exact eq_comm
  | tlbLockdown =>
      rw [if_neg (by decide)]
      exact MmuRegister.lockdown_canonical value
  | control | translationTableBase | domainAccessControl | faultStatus | faultAddress =>
      rw [if_neg (by decide)]
      exact iff_of_true rfl BitVec.and_zero

/-- The control register, and a victim of the TLB lockdown, with other registers written in
between. -/
theorem mmu_registers_read_back_iff_control :
    let signals : Signals := ⟨true, false, 0x41069265#32⟩
    let transfers : List MmuTransfer :=
      [.mcr 0xee010f10#32 0xffffffff#32, .mcr 0xee0a0f10#32 0x14000001#32,
        .mcr 0xee0d0f10#32 0x02000000#32, .mrc 0xee1d0f10#32]
    let mem := run (transferStep signals) ⟨arm926ejsMmuInit, fun _ => 0#32⟩ transfers
    (arm926ejsMmuMrc signals 0xee110f10#32 mem).2 = 0x5f3ff#32 ∧
      (arm926ejsMmuMrc signals 0xee1a0f10#32 mem).2 = 0x14000001#32 := by
  intro signals transfers mem
  have control : lastWritten .control transfers = some 0xffffffff#32 := by
    decide
  have lockdown : lastWritten .tlbLockdown transfers = some 0x14000001#32 := by
    decide
  constructor
  · exact (mmu_registers_read_back_iff signals _ control
      (show mmuRegister 0xee110f10#32 = some .control by decide)).mpr (by decide)
  · exact (mmu_registers_read_back_iff signals _ lockdown
      (show mmuRegister 0xee1a0f10#32 = some .tlbLockdown by decide)).mpr (by decide)

/-- The process identifier reads back as zero. -/
theorem process_id_unread :
    ¬∀ (signals : Signals) (mem : MmuMemory) (transfers : List MmuTransfer)
      (register : MmuRegister) (value instr : ARMword),
      lastWritten register transfers = some value → mmuRegister instr = some register →
        (arm926ejsMmuMrc signals instr (run (transferStep signals) mem transfers)).2 =
          register.canonical value := by
  intro claimed
  have reads := claimed ⟨true, false, 0x41069265#32⟩ ⟨arm926ejsMmuInit, fun _ => 0#32⟩
    [.mcr 0xee0d0f10#32 0x02000000#32] .processId 0x02000000#32 0xee1d0f10#32 (by decide)
    (by decide)
  exact absurd reads (by decide)

end SkyeyeStarlet
