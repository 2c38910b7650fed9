import SkyeyeStarlet.Library.ArmIsa
import SkyeyeStarlet.ThumbBranches

/-!
The main switch in ARM state against the ARM instruction set: the states that stand for those
of the architecture, the condition, the fields of a word, and the two ends of an instruction
that writes a register.
-/

namespace SkyeyeStarlet

open ThumbIsa

variable {Mem : Type}

/-- A core of version 5 that is about to execute an ARM instruction at `pc`. -/
structure ArmReady (state : ARMulState Mem) (pc : ARMword) : Prop where
  arm : state.tFlag = false
  ready : state.nextInstr = 0#8
  ahead : state.reg 15#4 = pc + 8#32
  aligned : pc.toNat % 4 = 0
  isV4 : state.isV4 = true
  isV5 : state.isV5 = true
  clear : state.aborted = 0#32
  coherent : Coherent32 state

def enhanced : ArmIsa.Instr → Bool
  | .halfMultiply .. => true
  | .saturating .. => true
  | _ => false

section Views

def ARMulState.withQ (state : ARMulState Mem) (q : Bool) : ARMulState Mem :=
  { state with flags := { state.flags with sFlag := q } }

/-- The state as the architecture has it, with the ARM instruction at `pc` to be executed. -/
def armMachineOf (state : ARMulState Mem) (pc : ARMword) : ArmIsa.Machine Mem :=
  { toProcessor := machineOf state pc, q := state.flags.sFlag }

/-- `Shows` for an instruction that may set the sticky flag of saturation. -/
def ArmShows (before after : ARMulState Mem) (pc : ARMword) (machine : ArmIsa.Machine Mem) :
    Prop :=
  Shows (before.withQ machine.q) after pc machine.toProcessor

def ArmPerforms (highVectors : Mem → Bool) (before after : ARMulState Mem) (pc : ARMword) :
    ArmIsa.Effect Mem → Prop
  | .goesOn machine => ArmShows before after pc machine
  | .softwareInterrupt link => Enters highVectors before after pc .swiV link

variable {before state after : ARMulState Mem} {machine : Processor Mem} {pc : ARMword}

theorem armPerforms_continues {highVectors : Mem → Bool} {result : Option (Processor Mem)}
    {effect : ArmIsa.Effect Mem}
    (ran : (armMachineOf state pc).continues result = some effect)
    (shows : ∀ processor, result = some processor → Shows state after pc processor) :
    ArmPerforms highVectors state after pc effect := by
  obtain ⟨processor, defined, rfl⟩ := Option.map_eq_some_iff.mp ran
  exact shows processor defined

theorem Within.skip (within : Within before state machine) (arm : machine.thumb = false) :
    Shows before state machine.pc (ArmIsa.skip machine) := by
  refine ⟨{ within.toAgrees with background := within.background }, ?_⟩
  have size : insnSize state = 4#32 := by
    rw [insnSize, within.thumb.trans arm]
    rfl
  rw [nextPc, if_pos within.sequential, size]
  rfl

theorem alignPc_aligned {address : ARMword} (aligned : Width.word.aligned address = true) :
    alignPc false address = address := by
  rw [Width.aligned, Bool.and_eq_true, Bool.not_eq_true', Bool.not_eq_true', getLsbD_div,
    getLsbD_div, decide_eq_false_iff_not, decide_eq_false_iff_not] at aligned
  rw [alignPc_eq_self_iff]
  simp only [Bool.false_eq_true, if_false]
  omega

theorem Within.setResult (within : Within before state machine) (arm : machine.thumb = false)
    {instr value : ARMword} {rd : RegNum} (dest : destReg instr = rd) {after : Processor Mem}
    (defined : ArmIsa.setResult machine rd value = some after) :
    Shows before (writeDest state instr value) machine.pc after := by
  unfold ArmIsa.setResult at defined
  unfold writeDest
  rw [dest]
  split at defined
  · rename_i isPc
    split at defined
    · rename_i aligned
      cases defined
      rw [if_pos isPc, SkyeyeStarlet.writeR15, within.thumb.trans arm, alignPc_aligned aligned]
      exact within.flush value machine.pc
    · cases defined
  · rename_i notPc
    cases defined
    rw [if_neg notPc]
    exact (within.setReg notPc value).skip arm

end Views

section Operands

variable {state : ARMulState Mem} {pc : ARMword} (ready : ArmReady state pc)

include ready

theorem ArmReady.ahead_aligned : alignPc false (pc + 8#32) = pc + 8#32 := by
  rw [alignPc_eq_self_iff]
  have aligned := ready.aligned
  simp [BitVec.toNat_add]
  omega

theorem reg_armRead (number : RegNum) :
    state.reg number = ArmIsa.read (machineOf state pc) number := by
  unfold ArmIsa.read
  split
  · rename_i isPc
    rw [isPc]
    exact ready.ahead
  · rfl

theorem lhsValue_armRead (instr : ARMword) :
    lhsValue state instr = ArmIsa.read (machineOf state pc) (lhsReg instr) := by
  rw [← reg_armRead ready, lhsValue]
  split
  · rename_i isPc
    rw [isPc, ready.ahead]
    exact ready.ahead_aligned
  · rfl

end Operands

section Fields

def DataOp.opcode : ArmIsa.DataOp → Opcode
  | .and => .and
  | .eor => .eor
  | .sub => .sub
  | .rsb => .rsb
  | .add => .add
  | .adc => .adc
  | .sbc => .sbc
  | .rsc => .rsc
  | .tst => .tst
  | .teq => .teq
  | .cmp => .cmp
  | .cmn => .cmn
  | .orr => .orr
  | .mov => .mov
  | .bic => .bic
  | .mvn => .mvn

theorem opcodeOf_decodeOp (instr : ARMword) :
    opcodeOf instr = DataOp.opcode (ArmIsa.decodeOp (instr.extractLsb' 21 4)) := by
  rw [opcodeOf]
  rcases bitVec_cases (instr.extractLsb' 21 4) with code | code | code | code | code | code |
      code | code | code | code | code | code | code | code | code | code <;>
    rw [code] <;>
    rfl

theorem shiftType_decodeShift (instr : ARMword) :
    (shiftType instr).isa = ArmIsa.decodeShift (instr.extractLsb' 5 2) := by
  have pair : instr.extractLsb' 5 2 =
      BitVec.ofBool (instr.getLsbD 6) ++ BitVec.ofBool (instr.getLsbD 5) := by
    apply BitVec.eq_of_getLsbD_eq
    intro index bound
    simp only [BitVec.getLsbD_extractLsb', BitVec.getLsbD_append, BitVec.getLsbD_ofBool]
    grind
  rw [pair, shiftType]
  cases instr.getLsbD 6 <;> cases instr.getLsbD 5 <;> rfl

theorem word_bit {instr : ARMword} {first width : Nat} {code : BitVec width}
    (equal : instr.extractLsb' first width = code) {index : Nat} (bound : index < width) :
    instr.getLsbD (first + index) = code.getLsbD index := by
  rw [← equal, BitVec.getLsbD_extractLsb']
  simp [bound]

end Fields

section Conditions

variable {state : ARMulState Mem} {pc : ARMword} (bus : Bus Mem) (traps : Traps Mem)
  (cops : Coprocessors Mem) {instr : ARMword}

theorem executeArm_passes (conditional : instr.extractLsb' 28 4 ≠ 0xf#4)
    (passes : (machineOf state pc).passes (instr.extractLsb' 28 4) = true) :
    executeArm bus traps cops state pc instr = mainSwitch bus traps cops state pc instr := by
  rw [executeArm, if_neg conditional, if_pos ((passes_eq state pc _).trans passes)]

theorem executeArm_fails (conditional : instr.extractLsb' 28 4 ≠ 0xf#4)
    (fails : (machineOf state pc).passes (instr.extractLsb' 28 4) = false) :
    executeArm bus traps cops state pc instr = state := by
  have held := (passes_eq state pc _).trans fails
  rw [executeArm, if_neg conditional, if_neg (Bool.eq_false_iff.mp held)]

end Conditions

end SkyeyeStarlet
