import SkyeyeStarlet.ArmBlocks
import SkyeyeStarlet.ArmTransfers
import SkyeyeStarlet.Coprocessor15
import SkyeyeStarlet.ThumbMeaning

/-!
The main switch against the ARM instruction set: what becomes of a word that the architecture
defines is what the architecture says.
-/

namespace SkyeyeStarlet

open ThumbIsa

variable {Mem : Type}

section Classes

/-- Where the main switch departs from the architecture: a doubleword is not stored at an
address that is relative to the program counter, `SWI 0xffffff` at an address whose fetch has
failed before is taken for the marker of the failure, and a core before version 5E does not
take what that version adds. -/
def ArmDeparts (state : ARMulState Mem) (pc instr : ARMword) : Prop :=
  match ArmIsa.decode instr with
  | some (.double false rn _ _) => rn = 15#4
  | some (.softwareInterrupt _) => instr = 0xefffffff#32 ∧ state.abortAddr = pc
  | some decoded => enhanced decoded = true ∧ state.isV5e = false
  | none => False

theorem enhanced_core {state : ARMulState Mem} {pc instr : ARMword} {decoded : ArmIsa.Instr}
    (named : ArmIsa.decode instr = some decoded) (steady : ¬ArmDeparts state pc instr)
    (enhances : enhanced decoded = true) : state.isV5e = true := by
  cases decoded with
  | halfMultiply _ _ _ _ _ | saturating _ _ _ _ _ =>
      rw [ArmDeparts, named] at steady
      exact Bool.not_eq_false _ ▸ fun earlier => steady ⟨enhances, earlier⟩
  | _ => cases enhances

theorem class_cases (code : BitVec 3) :
    code = 0#3 ∨ code = 1#3 ∨ code = 2#3 ∨ code = 3#3 ∨ code = 4#3 ∨ code = 5#3 ∨ code = 6#3 ∨
      code = 7#3 := by
  revert code
  decide

variable {state : ARMulState Mem} {pc instr : ARMword} {bus : NarrowBus Mem}
  {traps : Traps Mem} {cops : Coprocessors Mem} {decoded : ArmIsa.Instr}
  {effect : ArmIsa.Effect Mem} (ready : ArmReady state pc)
  (named : ArmIsa.decode instr = some decoded)
  (ran : ArmIsa.exec (busMemory bus.toBus bus.plain state.mode) decoded (armMachineOf state pc) =
    some effect)

include ready named ran

theorem performs_register (group : instr.extractLsb' 25 3 = 0#3)
    (steady : ¬ArmDeparts state pc instr) :
    ArmPerforms bus.highVectors state (mainSwitch bus.toBus traps cops state pc instr) pc
      effect := by
  have form := named
  simp only [ArmIsa.decode, group] at form
  split at form
  · rename_i extra
    have word : ExtraWord instr := ⟨group, extra.1, extra.2⟩
    unfold ArmIsa.decodeExtra at form
    split at form
    · rename_i half
      refine performs_half bus ready traps cops word half form ?_ ran
      rintro rn rd address rfl isPc
      rw [ArmDeparts, named] at steady
      exact steady isPc
    · rename_i none
      have code : instr.extractLsb' 5 2 = 0#2 := not_not.mp none
      split at form
      · rename_i swaps
        exact performs_swap bus ready traps cops word code swaps form ran
      · rename_i multiplies
        have plain : instr.getLsbD 24 = false := Bool.eq_false_iff.mpr multiplies
        exact performs_multiply ready bus.toBus traps cops
          ⟨group, extract_nine word.four word.seven code, plain⟩ form ran
  · rename_i plain
    have data : ProcessingForm instr := by
      refine Or.inr ⟨group, ?_⟩
      rw [not_and_or, Bool.not_eq_true, Bool.not_eq_true] at plain
      exact plain
    split at form
    · rename_i status
      refine performs_misc bus.toBus traps cops ready ⟨data, group, status.1, status.2⟩ form ?_ ran
      exact enhanced_core named steady
    · rename_i operation
      exact performs_data bus.toBus traps cops ready data operation form ran

theorem performs_immediate (group : instr.extractLsb' 25 3 = 1#3) :
    ArmPerforms bus.highVectors state (mainSwitch bus.toBus traps cops state pc instr) pc
      effect := by
  simp only [ArmIsa.decode, group] at named
  split at named
  · cases named
  · rename_i operation
    exact performs_data bus.toBus traps cops ready (Or.inl group) operation named ran

theorem performs_transfer
    (group : instr.extractLsb' 25 3 = 2#3 ∨ instr.extractLsb' 25 3 = 3#3) :
    ArmPerforms bus.highVectors state (mainSwitch bus.toBus traps cops state pc instr) pc
      effect := by
  rcases group with group | group
  · have constant : instr.getLsbD 25 = false := word_bit group (show 0 < 3 by decide)
    have upper : instr.extractLsb' 26 2 = 1#2 := by
      rw [extract_upper, group]
      rfl
    simp only [ArmIsa.decode, group] at named
    refine performs_single bus ready traps cops upper ?_ named ran
    rw [constant]
    exact fun both => Bool.noConfusion both.1
  · have upper : instr.extractLsb' 26 2 = 1#2 := by
      rw [extract_upper, group]
      rfl
    simp only [ArmIsa.decode, group] at named
    split at named
    · cases named
    · rename_i constant
      exact performs_single bus ready traps cops upper (fun both => constant both.2) named ran

theorem performs_softwareInterrupt (group : instr.extractLsb' 25 3 = 7#3)
    (declines : ∀ link, effect = .softwareInterrupt link →
      traps.undfTrap state instr = (state, false))
    (steady : ¬ArmDeparts state pc instr) :
    ArmPerforms bus.highVectors state (mainSwitch bus.toBus traps cops state pc instr) pc
      effect := by
  have interrupt : (if instr.getLsbD 24 then
      some (ArmIsa.Instr.softwareInterrupt (instr.extractLsb' 0 24)) else none) =
      some decoded := by
    rw [ArmIsa.decode, group] at named
    exact named
  split at interrupt
  · rename_i kind
    cases interrupt
    cases ran
    rw [ArmDeparts, named] at steady
    exact enters_armSoftwareInterrupt bus.toBus traps cops ready group kind steady
      (declines _ rfl)
  · cases interrupt

theorem performs_mainSwitch
    (declines : ∀ link, effect = .softwareInterrupt link →
      traps.undfTrap state instr = (state, false))
    (steady : ¬ArmDeparts state pc instr) :
    ArmPerforms bus.highVectors state (mainSwitch bus.toBus traps cops state pc instr) pc
      effect := by
  rcases class_cases (instr.extractLsb' 25 3) with group | group | group | group | group |
    group | group | group
  · exact performs_register ready named ran group steady
  · exact performs_immediate ready named ran group
  · exact performs_transfer ready named ran (Or.inl group)
  · exact performs_transfer ready named ran (Or.inr group)
  · simp only [ArmIsa.decode, group] at named
    exact performs_block bus.toBus ready traps cops group named ran
  · simp only [ArmIsa.decode, group] at named
    cases named
    refine armPerforms_continues ran fun after defined => ?_
    cases defined
    exact shows_armBranch bus.toBus traps cops ready group
  · simp only [ArmIsa.decode, group] at named
    cases named
  · exact performs_softwareInterrupt ready named ran group declines steady

end Classes

section Unit

variable (width : Width)

theorem laneMask_bits : BitVec.ofNat 32 (2 ^ width.bits - 1) = laneMask (accessSize width) := by
  cases width <;> rfl

theorem field32_narrow (word : ARMword) (offset : Nat) :
    field32 word offset width.bits =
      ((field32 word offset width.bits).setWidth width.bits).setWidth 32 := by
  rw [field32, laneMask_bits, ← and_laneMask, BitVec.and_assoc, BitVec.and_self]

theorem setField32_narrow (word data : ARMword) (offset : Nat) :
    setField32 word offset width.bits data =
      setField32 word offset width.bits ((data.setWidth width.bits).setWidth 32) := by
  rw [setField32, setField32, laneMask_bits, ← and_laneMask, BitVec.and_assoc, BitVec.and_self]

theorem extractData_narrow (bigend : Bool) (address word : ARMword) :
    extractData bigend (accessSize width) address word =
      ((extractData bigend (accessSize width) address word).setWidth width.bits).setWidth 32 := by
  cases width with
  | byte => exact field32_narrow .byte _ _
  | half => exact field32_narrow .half _ _
  | word => simp [Width.bits]

theorem bankRead_narrow (bigend : Bool) (ram : Ram) (address : ARMword) :
    bankRead bigend ram (accessSize width) address =
      ((bankRead bigend ram (accessSize width) address).setWidth width.bits).setWidth 32 := by
  cases width with
  | byte => exact field32_narrow .byte _ _
  | half => exact field32_narrow .half _ _
  | word => simp [Width.bits]

theorem bankWrite_narrow (bigend : Bool) (ram : Ram) (address data : ARMword) :
    bankWrite bigend ram (accessSize width) address data =
      bankWrite bigend ram (accessSize width) address
        ((data.setWidth width.bits).setWidth 32) := by
  cases width with
  | byte => exact congrArg (Function.update ram _) (setField32_narrow .byte _ _ _)
  | half => exact congrArg (Function.update ram _) (setField32_narrow .half _ _ _)
  | word => simp [Width.bits]

theorem updateCache_narrow (bigend : Bool) (address data : ARMword) (line : CacheLine) :
    updateCache bigend (accessSize width) address data line =
      updateCache bigend (accessSize width) address ((data.setWidth width.bits).setWidth 32)
        line := by
  let updated (word : ARMword) : CacheLine :=
    { line with
      data := Function.update line.data (vaCacheIndex address) word
      tag := line.tag ||| if vaCacheIndex address < 4#3 then 2#32 else 4#32 }
  cases width with
  | byte => exact congrArg updated (setField32_narrow .byte _ _ _)
  | half => exact congrArg updated (setField32_narrow .half _ _ _)
  | word => simp [Width.bits]

variable (signals : Signals)

theorem mmuRead_narrow (mode : ModeNum) (address : ARMword) (mem : MmuMemory) {data : ARMword}
    (found : (arm926ejsMmuRead signals (accessSize width) mode address mem).data = some data) :
    data = (data.setWidth width.bits).setWidth 32 := by
  unfold arm926ejsMmuRead at found
  dsimp only at found
  split at found
  · cases found
    exact bankRead_narrow width _ _ _
  · split at found
    · cases found
    · split at found
      · cases found
      · unfold readTranslated at found
        dsimp only at found
        split at found
        · split at found <;> cases found
        · split at found
          · cases found
            exact extractData_narrow width _ _ _
          · cases found
            exact bankRead_narrow width _ _ _

theorem mmuWrite_narrow (mode : ModeNum) (address data : ARMword) (mem : MmuMemory) :
    arm926ejsMmuWrite signals (accessSize width) mode address data mem =
      arm926ejsMmuWrite signals (accessSize width) mode address
        ((data.setWidth width.bits).setWidth 32) mem := by
  have banks (pa : ARMword) (mem : MmuMemory) :
      bankWritten signals (accessSize width) pa data mem =
        bankWritten signals (accessSize width) pa ((data.setWidth width.bits).setWidth 32) mem :=
    congrArg (fun ram => { mem with ram }) (bankWrite_narrow width _ _ _ _)
  have translated (va : ARMword) (entry : TlbEntry) (mem : MmuMemory) :
      writeTranslated signals (accessSize width) va data entry mem =
        writeTranslated signals (accessSize width) va ((data.setWidth width.bits).setWidth 32)
          entry mem := by
    unfold writeTranslated
    dsimp only
    split
    · rw [updateCache_narrow width]
    · simp only [mmuWBEnabled, Bool.false_eq_true, if_false, banks _ mem,
        banks _ (drained signals mem)]
  unfold arm926ejsMmuWrite
  simp only [banks _ mem, translated]

def mmuNarrowBus : NarrowBus Attached :=
  { mmuBus signals with
    plain := fun width mode address attached =>
      (arm926ejsMmuRead signals (accessSize width) mode address attached.memory).data.isSome
    read_narrow := by
      intro width mode address attached plain
      obtain ⟨data, found⟩ := Option.isSome_iff_exists.mp plain
      simp only [mmuBus, readResult, found, Option.getD_some]
      exact mmuRead_narrow width signals mode address attached.memory found
    write_narrow := by
      intro width mode address data attached _
      simp only [mmuBus, ← mmuWrite_narrow width signals] }

end Unit

section Meaning

variable {state : ARMulState Mem} {pc instr : ARMword} {bus : NarrowBus Mem}
  {traps : Traps Mem} {cops : Coprocessors Mem} {effect : ArmIsa.Effect Mem}

theorem performs_executeArm (ready : ArmReady state pc)
    (declines : ∀ link, effect = .softwareInterrupt link →
      traps.undfTrap state instr = (state, false))
    (steady : ¬ArmDeparts state pc instr)
    (defined : ArmIsa.meaning (busMemory bus.toBus bus.plain state.mode) instr
      (armMachineOf state pc) = some effect) :
    ArmPerforms bus.highVectors state (executeArm bus.toBus traps cops state pc instr) pc
      effect := by
  unfold ArmIsa.meaning at defined
  split at defined
  · rename_i never
    simp only [Option.bind_eq_bind, Option.bind_eq_some_iff] at defined
    obtain ⟨decoded, named, ran⟩ := defined
    unfold ArmIsa.decodeUnconditional at named
    split at named
    · rename_i group
      cases named
      refine armPerforms_continues ran fun after defined => ?_
      cases defined
      exact shows_callThumb bus.toBus traps cops ready never group
    · cases named
  · rename_i conditional
    simp only [Option.bind_eq_bind, Option.bind_eq_some_iff] at defined
    obtain ⟨decoded, named, ran⟩ := defined
    split at ran
    · rename_i passes
      rw [executeArm_passes bus.toBus traps cops conditional passes]
      exact performs_mainSwitch ready named ran declines steady
    · rename_i fails
      rw [executeArm_fails bus.toBus traps cops conditional (Bool.eq_false_iff.mpr fails)]
      cases ran
      exact (within_refl ready.ready pc).skip ready.arm

/-- The word at `pc` through the main switch. -/
theorem arm_preserves_meaning (ready : ArmReady state pc)
    (declines : ∀ link, effect = .softwareInterrupt link →
      traps.undfTrap state instr = (state, false))
    (steady : ¬ArmDeparts state pc instr)
    (defined : ArmIsa.meaning (busMemory bus.toBus bus.plain state.mode) instr
      (armMachineOf state pc) = some effect) :
    ArmPerforms bus.highVectors state (execute bus.toBus traps cops state pc instr) pc
      effect := by
  rw [execute, if_neg (Bool.eq_false_iff.mp ready.arm)]
  exact performs_executeArm ready declines steady defined

/-- `LDMIB r1!, {r4, pc}` where the carry is clear. -/
def returningCore : ARMulState FlatMemory :=
  coreAt user32mode false 0x8000#32 (flatMemory fun address => address + 0x41#32)

theorem returningCore_ready : ArmReady returningCore 0x8000#32 := by
  exact ⟨rfl, rfl, rfl, rfl, rfl, rfl, rfl, ⟨rfl, by decide, rfl⟩⟩

def unitSignals : Signals :=
  ⟨true, false, 0x41069265#32⟩

def unitPhysical : PhysicalBus Attached :=
  { readWord := fun address attached => (attached, attached.memory.ram (wordIndex address))
    writeWord := fun address data attached =>
      { attached with memory := bankWritten unitSignals .word address data attached.memory } }

def unitCore : ARMulState Attached :=
  coreAt user32mode false 0x8000#32
    ⟨⟨arm926ejsMmuInit, fun _ => 0x84838281#32⟩, fun _ => 0#32⟩

/-- With `SWI 5`, which the hook of the machine declines, at the same address, and with
`LDRB r0, [r1]` over the unit. -/
theorem arm_returns :
    let traps := starletTraps flatBus flatPhysical
    let returned := execute flatBus traps noUnits returningCore 0x8000#32 0x39b18010#32
    let called := execute flatBus traps noUnits returningCore 0x8000#32 0xef000005#32
    let loaded := execute (mmuBus unitSignals)
      (starletTraps (mmuBus unitSignals) unitPhysical)
      (attachedCoprocessors unitSignals noUnits) unitCore 0x8000#32 0xe5d10000#32
    (returned.reg 4#4 = 0x45#32 ∧ returned.reg 1#4 = 8#32 ∧ returned.tFlag = true ∧
      nextPc returned 0x8000#32 = 0x48#32) ∧
      (called.mode = svc32mode ∧ called.reg 14#4 = 0x8004#32) ∧ loaded.reg 0#4 = 0x84#32 := by
  intro traps returned called loaded
  have shown := @arm_preserves_meaning _ returningCore 0x8000#32 0x39b18010#32 narrowFlatBus
    traps noUnits _ returningCore_ready (fun _ interrupts => by cases interrupts)
    (fun departs => absurd departs.1 (by decide)) rfl
  have entered := @arm_preserves_meaning _ returningCore 0x8000#32 0xef000005#32 narrowFlatBus
    traps noUnits _ returningCore_ready (fun _ _ => rfl)
    (fun departs => absurd departs.1 (by decide)) rfl
  have ready : ArmReady unitCore 0x8000#32 :=
    ⟨rfl, rfl, rfl, rfl, rfl, rfl, rfl, ⟨rfl, by decide, rfl⟩⟩
  have narrow := @arm_preserves_meaning _ unitCore 0x8000#32 0xe5d10000#32
    (mmuNarrowBus unitSignals) (starletTraps (mmuBus unitSignals) unitPhysical)
    (attachedCoprocessors unitSignals noUnits) _ ready (fun _ interrupts => by cases interrupts)
    (fun departs => absurd departs.1 (by decide)) rfl
  exact ⟨⟨shown.regs 4#4 (by decide), shown.regs 1#4 (by decide), shown.thumb, shown.next⟩,
    ⟨entered.mode, entered.link⟩, narrow.regs 0#4 (by decide)⟩

end Meaning

end SkyeyeStarlet
