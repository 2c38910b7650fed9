import SkyeyeStarlet.EmulateCore
import SkyeyeStarlet.TransferAbort

/-!
What an instruction can do to the program counter.  An instruction either leaves
register 15 and the instruction set alone, or asks for the pipeline to be filled
again, or ends the run of the loop; the instructions that do none of these are the
ones that `regularArm` excludes.
-/

namespace SkyeyeStarlet

variable {Mem : Type}

structure Core where
  isV4 : Bool
  isV5 : Bool
  isV5e : Bool
  prog32Sig : Bool
  bigendSig : Bool

def ARMulState.core (state : ARMulState Mem) : Core :=
  ⟨state.isV4, state.isV5, state.isV5e, state.prog32Sig, state.bigendSig⟩

/-- Everything the pipeline and the loop look at, but for the kind of the next cycle. -/
structure Frame where
  core : Core
  pc : ARMword
  thumb : Bool
  abortAddr : ARMword
  mode : ModeNum
  emulate : Emulate

def ARMulState.frame (state : ARMulState Mem) : Frame :=
  ⟨state.core, state.reg 15#4, state.tFlag, state.abortAddr, state.mode, state.emulate⟩

/-- A change that the pipeline does not see: at most the next cycle is not sequential. -/
structure Steady (before after : ARMulState Mem) : Prop where
  frame : after.frame = before.frame
  cycle : after.nextInstr = before.nextInstr ∨ after.nextInstr = before.nextInstr ||| 1#8

structure Through (before after : ARMulState Mem) : Prop where
  thumb : after.tFlag = before.tFlag
  abortAddr : after.abortAddr = before.abortAddr
  sequential : after.nextInstr < 4#8
  pc : after.reg 15#4 =
    before.reg 15#4 + if after.nextInstr.getLsbD 1 then insnSize before else 0#32

/-- The instruction has written register 15 and asks for the pipeline to be filled.
Under `W`, that ARM code runs at word addresses, the target is a word address too. -/
structure Redirected (W : Prop) (after : ARMulState Mem) : Prop where
  flush : ¬after.nextInstr < 4#8
  aligned : W → after.tFlag = false → alignPc false (after.reg 15#4) = after.reg 15#4

structure Jumps (W : Prop) (before after : ARMulState Mem) : Prop where
  core : after.core = before.core
  flow : running after = false ∨ Redirected W after

structure Outcome (W : Prop) (before after : ARMulState Mem) : Prop where
  core : after.core = before.core
  flow : running after = false ∨ Redirected W after ∨ Through before after

variable {W : Prop} {before middle after : ARMulState Mem}

theorem Steady.refl (state : ARMulState Mem) : Steady state state := by
  exact ⟨rfl, Or.inl rfl⟩

theorem Steady.trans (first : Steady before middle) (second : Steady middle after) :
    Steady before after := by
  refine ⟨second.frame.trans first.frame, ?_⟩
  rcases first.cycle with kept | marked <;> rcases second.cycle with kept' | marked'
  · exact Or.inl (kept'.trans kept)
  · exact Or.inr (marked'.trans (by rw [kept]))
  · exact Or.inr (kept'.trans marked)
  · refine Or.inr (marked'.trans ?_)
    rw [marked, BitVec.or_assoc, BitVec.or_self]

theorem Steady.core (steady : Steady before after) : after.core = before.core := by
  exact congrArg Frame.core steady.frame

theorem Steady.pc (steady : Steady before after) : after.reg 15#4 = before.reg 15#4 := by
  exact congrArg Frame.pc steady.frame

theorem Steady.thumb (steady : Steady before after) : after.tFlag = before.tFlag := by
  exact congrArg Frame.thumb steady.frame

theorem Steady.abortAddr (steady : Steady before after) :
    after.abortAddr = before.abortAddr := by
  exact congrArg Frame.abortAddr steady.frame

theorem Steady.mode (steady : Steady before after) : after.mode = before.mode := by
  exact congrArg Frame.mode steady.frame

theorem Steady.emulate (steady : Steady before after) : after.emulate = before.emulate := by
  exact congrArg Frame.emulate steady.frame

theorem Steady.running (steady : Steady before after) : running after = running before := by
  have prog32 := congrArg Core.prog32Sig steady.core
  simp only [ARMulState.core] at prog32
  simp only [SkyeyeStarlet.running, steady.emulate, steady.mode, prog32]

theorem Steady.isize (steady : Steady before after) : insnSize after = insnSize before := by
  simp only [insnSize, steady.thumb]

theorem marked_lt (cycle : BitVec 8) : cycle ||| 1#8 < 4#8 ↔ cycle < 4#8 := by
  revert cycle
  decide

theorem marked_bit (cycle : BitVec 8) : (cycle ||| 1#8).getLsbD 1 = cycle.getLsbD 1 := by
  revert cycle
  decide

theorem Steady.sequential_iff (steady : Steady before after) :
    after.nextInstr < 4#8 ↔ before.nextInstr < 4#8 := by
  rcases steady.cycle with kept | marked
  · rw [kept]
  · rw [marked]
    exact marked_lt _

theorem Steady.inced (steady : Steady before after) :
    after.nextInstr.getLsbD 1 = before.nextInstr.getLsbD 1 := by
  rcases steady.cycle with kept | marked
  · rw [kept]
  · rw [marked]
    exact marked_bit _

theorem Redirected.steady (redirected : Redirected W middle) (steady : Steady middle after) :
    Redirected W after := by
  refine ⟨fun sequential => redirected.flush (steady.sequential_iff.mp sequential), ?_⟩
  intro words thumb
  rw [steady.pc]
  exact redirected.aligned words (steady.thumb.symm.trans thumb)

theorem Through.steady (through : Through before middle) (steady : Steady middle after) :
    Through before after := by
  refine ⟨steady.thumb.trans through.thumb, steady.abortAddr.trans through.abortAddr,
    steady.sequential_iff.mpr through.sequential, ?_⟩
  rw [steady.pc, steady.inced]
  exact through.pc

theorem Jumps.steady (jumps : Jumps W before middle) (steady : Steady middle after) :
    Jumps W before after := by
  refine ⟨steady.core.trans jumps.core, ?_⟩
  rcases jumps.flow with stopped | redirected
  · exact Or.inl (steady.running.trans stopped)
  · exact Or.inr (redirected.steady steady)

theorem Jumps.rebase (jumps : Jumps W middle after) (core : middle.core = before.core) :
    Jumps W before after := by
  exact ⟨jumps.core.trans core, jumps.flow⟩

theorem Jumps.outcome (jumps : Jumps W middle after) (core : middle.core = before.core) :
    Outcome W before after := by
  refine ⟨jumps.core.trans core, ?_⟩
  rcases jumps.flow with stopped | redirected
  · exact Or.inl stopped
  · exact Or.inr (Or.inl redirected)

theorem Outcome.steady (outcome : Outcome W before middle) (steady : Steady middle after) :
    Outcome W before after := by
  refine ⟨steady.core.trans outcome.core, ?_⟩
  rcases outcome.flow with stopped | redirected | through
  · exact Or.inl (steady.running.trans stopped)
  · exact Or.inr (Or.inl (redirected.steady steady))
  · exact Or.inr (Or.inr (through.steady steady))

theorem Outcome.after_steady (steady : Steady before middle) (outcome : Outcome W middle after) :
    Outcome W before after := by
  refine ⟨outcome.core.trans steady.core, ?_⟩
  rcases outcome.flow with stopped | redirected | through
  · exact Or.inl stopped
  · exact Or.inr (Or.inl redirected)
  · refine Or.inr (Or.inr ⟨through.thumb.trans steady.thumb,
      through.abortAddr.trans steady.abortAddr, through.sequential, ?_⟩)
    rw [through.pc, steady.pc, steady.isize]

theorem Steady.outcome (steady : Steady before after) (ready : before.nextInstr = 0#8) :
    Outcome W before after := by
  refine ⟨steady.core, Or.inr (Or.inr ⟨steady.thumb, steady.abortAddr, ?_, ?_⟩)⟩
  · rw [steady.sequential_iff, ready]
    decide
  · rw [steady.inced, ready, steady.pc]
    exact (BitVec.add_zero _).symm

theorem steady_setReg (state : ARMulState Mem) {number : RegNum} (notPc : number ≠ 15#4)
    (value : ARMword) : Steady state (state.setReg number value) := by
  refine ⟨?_, Or.inl rfl⟩
  have pc : (state.setReg number value).reg 15#4 = state.reg 15#4 :=
    setReg_reg_of_ne (Ne.symm notPc)
  simp only [ARMulState.frame, pc]
  rfl

theorem steady_flags (state : ARMulState Mem) {flags : Flags}
    (thumb : flags.tFlag = state.flags.tFlag) : Steady state { state with flags } := by
  refine ⟨?_, Or.inl rfl⟩
  simp only [ARMulState.frame, ARMulState.tFlag, thumb]
  rfl

theorem steady_mem (state : ARMulState Mem) (mem : Mem) : Steady state { state with mem } := by
  exact ⟨rfl, Or.inl rfl⟩

theorem steady_aborted (state : ARMulState Mem) (aborted : ARMword) :
    Steady state { state with aborted } := by
  exact ⟨rfl, Or.inl rfl⟩

theorem steady_file (state : ARMulState Mem) {file : Registers}
    (pc : file.reg 15#4 = state.file.reg 15#4) : Steady state { state with file } := by
  refine ⟨?_, Or.inl rfl⟩
  simp only [ARMulState.frame, ARMulState.reg, pc]
  rfl

theorem steady_busused (state : ARMulState Mem) : Steady state (busused state) := by
  exact ⟨rfl, Or.inr rfl⟩

theorem steady_bususedincpcs {state : ARMulState Mem} (isV4 : state.core.isV4 = true) :
    Steady state (bususedincpcs state) := by
  rw [bususedincpcs_v4 isV4]
  exact Steady.refl state

theorem steady_bususedincpcn {state : ARMulState Mem} (isV4 : state.core.isV4 = true) :
    Steady state (bususedincpcn state) := by
  rw [bususedincpcn_v4 isV4]
  exact steady_busused state

theorem steady_read (bus : Bus Mem) (size : AccessSize) (state : ARMulState Mem)
    (address : ARMword) : Steady state (armulRead bus size state address).1 := by
  unfold armulRead
  dsimp only
  split
  · exact ⟨rfl, Or.inl rfl⟩
  · exact ⟨rfl, Or.inl rfl⟩

theorem steady_write (bus : Bus Mem) (size : AccessSize) (state : ARMulState Mem)
    (address data : ARMword) : Steady state (armulWrite bus size state address data) := by
  unfold armulWrite
  dsimp only
  split
  · exact ⟨rfl, Or.inl rfl⟩
  · exact ⟨rfl, Or.inl rfl⟩

theorem overlay_pc (target source : RegNum → ARMword) {last : RegNum} (below : last < 15#4)
    (first : RegNum) : overlay target source first last 15#4 = target 15#4 := by
  refine if_neg ?_
  rintro ⟨_, upper⟩
  exact absurd upper (BitVec.not_le.mpr below)

theorem restoreBank_pc (reg : RegNum → ARMword) (regBank : Bank → RegNum → ARMword)
    (oldbank newbank : Bank) : restoreBank reg regBank oldbank newbank 15#4 = reg 15#4 := by
  have shared : (if oldbank = .fiqbank then overlay reg (regBank .userbank) 8#4 12#4 else reg)
      15#4 = reg 15#4 := by
    split
    · exact overlay_pc _ _ (by decide) _
    · rfl
  cases newbank <;> simp only [restoreBank] <;>
    first
      | exact overlay_pc _ _ (by decide) _
      | exact (overlay_pc _ _ (by decide) _).trans shared

theorem armulSwitchMode_pc (file : Registers) (oldmode newmode : ModeNum) :
    (armulSwitchMode file oldmode newmode).reg 15#4 = file.reg 15#4 := by
  unfold armulSwitchMode
  dsimp only
  split
  · rfl
  · exact restoreBank_pc _ _ _ _

theorem enterMode_pc (state : ARMulState Mem) (newmode : ModeNum) :
    (enterMode state newmode).reg 15#4 = state.reg 15#4 := by
  simp only [enterMode, ARMulState.reg, enterFile]
  split
  · rfl
  · exact armulSwitchMode_pc _ _ _

theorem steady_toUserBank (state : ARMulState Mem) : Steady state (toUserBank state) := by
  unfold toUserBank
  split
  · exact steady_file state (armulSwitchMode_pc _ _ _)
  · exact Steady.refl state

theorem steady_toOwnBank (state : ARMulState Mem) : Steady state (toOwnBank state) := by
  unfold toOwnBank
  split
  · exact Steady.refl state
  · exact steady_file state (armulSwitchMode_pc _ _ _)

theorem armulCPSRAltered_fields (state : ARMulState Mem) (prog32 : state.prog32Sig = true) :
    (armulCPSRAltered state).core = state.core ∧
      (armulCPSRAltered state).tFlag = state.cpsr.getLsbD 5 ∧
      (armulCPSRAltered state).abortAddr = state.abortAddr ∧
      (armulCPSRAltered state).nextInstr = state.nextInstr ∧
      (armulCPSRAltered state).mode = state.cpsr.setWidth 5 ∧
      (mode32bit state.mode = mode32bit (state.cpsr.setWidth 5) →
        (armulCPSRAltered state).emulate = state.emulate) ∧
      (mode32bit state.mode ≠ mode32bit (state.cpsr.setWidth 5) →
        (armulCPSRAltered state).emulate = .changemode) ∧
      (mode32bit state.mode = true → mode32bit (state.cpsr.setWidth 5) = true →
        (armulCPSRAltered state).reg 15#4 = state.reg 15#4) := by
  have word : (if state.prog32Sig then state.cpsr else state.cpsr &&& 0xf80000c3#32) =
      state.cpsr := if_pos prog32
  have pc := enterMode_pc state (state.cpsr.setWidth 5)
  have entered : (enterMode { state with cpsr := state.cpsr } (state.cpsr.setWidth 5)).mode =
      state.cpsr.setWidth 5 := rfl
  unfold armulCPSRAltered
  rw [word]
  dsimp only
  rw [entered]
  cases mode32bit state.mode <;> cases mode32bit (state.cpsr.setWidth 5) <;>
    simp [ARMulState.core, ARMulState.tFlag, ARMulState.setReg, enterMode, unpackFlags]
  exact pc

theorem flushed_not_lt (cycle : BitVec 8) : ¬cycle ||| 4#8 < 4#8 := by
  revert cycle
  decide

theorem alignPc_word (word : ARMword) :
    alignPc false (word &&& 0xfffffffc#32) = word &&& 0xfffffffc#32 := by
  simp only [alignPc, Bool.false_eq_true, if_false, BitVec.and_assoc, BitVec.and_self]

theorem flushpipe_redirected (state : ARMulState Mem)
    (aligned : W → state.tFlag = false → alignPc false (state.reg 15#4) = state.reg 15#4) :
    Redirected W (flushpipe state) := by
  exact ⟨flushed_not_lt _, aligned⟩

theorem setReg_reg_self (state : ARMulState Mem) (number : RegNum) (value : ARMword) :
    (state.setReg number value).reg number = value := by
  exact Function.update_self number value state.file.reg

theorem alignPc_idem (thumb : Bool) (word : ARMword) :
    alignPc thumb (alignPc thumb word) = alignPc thumb word := by
  cases thumb <;> simp only [alignPc, Bool.false_eq_true, if_false, if_true, BitVec.and_assoc,
    BitVec.and_self]

theorem armulR15Altered_mode (state : ARMulState Mem) :
    mode32bit (armulR15Altered state).mode = false := by
  have low : ∀ bits : BitVec 2, mode32bit (bits.setWidth 5) = false := by decide
  have mode : (armulR15Altered state).mode = ((state.reg 15#4).setWidth 2).setWidth 5 := by
    show (state.reg 15#4 &&& 3#32).setWidth 5 = _
    apply BitVec.eq_of_getLsbD_eq
    intro index bound
    interval_cases index <;> simp
  rw [mode]
  exact low _

theorem jumps_setR15 (state : ARMulState Mem) (value : ARMword) :
    Jumps W state (armulSetR15 state value) := by
  unfold armulSetR15
  split
  · refine ⟨rfl, Or.inr (flushpipe_redirected _ ?_)⟩
    intro _ _
    rw [setReg_reg_self]
    exact alignPc_word value
  · refine ⟨rfl, Or.inl ?_⟩
    have mode26 := armulR15Altered_mode (state.setReg 15#4 value)
    simp only [running, show (flushpipe (armulR15Altered (state.setReg 15#4 value))).mode =
      (armulR15Altered (state.setReg 15#4 value)).mode from rfl, mode26, Bool.and_false]

theorem jumps_abort (highVectors : Mem → Bool) {state : ARMulState Mem}
    (prog32 : state.core.prog32Sig = true) (vector : Vector) :
    Jumps W state (armulAbort highVectors state vector) := by
  have entered (link : ARMword) :
      (setabort (clearAborted state vector) vector.mask (vector.mode state.prog32Sig) link).core =
        state.core := by
    unfold setabort armulSetCPSR
    dsimp only
    refine Eq.trans (armulCPSRAltered_fields _ ?_).1 rfl
    exact prog32
  unfold armulAbort
  dsimp only
  split
  · exact (jumps_setR15 _ _).rebase (entered _)
  · exact (jumps_setR15 _ _).rebase (entered _)

theorem jumps_writeR15 (state : ARMulState Mem) (src : ARMword) :
    Jumps W state (writeR15 state src) := by
  refine ⟨rfl, Or.inr (flushpipe_redirected _ ?_)⟩
  intro _ thumb
  rw [setReg_reg_self, show state.tFlag = false from thumb]
  exact alignPc_idem false src

theorem jumps_writeR15Branch (state : ARMulState Mem) (src : ARMword) :
    Jumps W state (writeR15Branch state src) := by
  refine ⟨rfl, Or.inr (flushpipe_redirected _ ?_)⟩
  intro _ thumb
  have arm : src.getLsbD 0 = false := thumb
  show alignPc false ((state.setReg 15#4 (alignPc (src.getLsbD 0) src)).reg 15#4) =
    (state.setReg 15#4 (alignPc (src.getLsbD 0) src)).reg 15#4
  rw [setReg_reg_self, arm]
  exact alignPc_idem false src

theorem jumps_writeSR15 {state : ARMulState Mem} (prog32 : state.core.prog32Sig = true)
    (src : ARMword) : Jumps W state (writeSR15 state src) := by
  unfold writeSR15
  dsimp only
  split
  · exact jumps_writeR15 state src
  · have core := (armulCPSRAltered_fields
      { state with cpsr := state.spsr state.file.bank } prog32).1
    exact (jumps_writeR15 _ src).rebase core

theorem Through.altered (through : Through before middle) (core : middle.core = before.core)
    (prog32 : before.core.prog32Sig = true) (mode32 : mode32bit middle.mode = true)
    {cpsr : ARMword} (thumb : cpsr.getLsbD 5 = before.tFlag) :
    Outcome W before (armulCPSRAltered { middle with cpsr }) := by
  have prog32' : middle.core.prog32Sig = true := by rw [core]; exact prog32
  obtain ⟨core', flag, abortAddr, cycle, mode, _, _, pc⟩ :=
    armulCPSRAltered_fields { middle with cpsr } prog32'
  refine ⟨core'.trans core, ?_⟩
  by_cases new32 : mode32bit (cpsr.setWidth 5) = true
  · refine Or.inr (Or.inr ⟨flag.trans thumb, abortAddr.trans through.abortAddr, ?_, ?_⟩)
    · rw [cycle]
      exact through.sequential
    · rw [pc mode32 new32, cycle]
      exact through.pc
  · refine Or.inl ?_
    rw [Bool.not_eq_true] at new32
    simp only [running, mode, new32, Bool.and_false]

theorem through_refl {state : ARMulState Mem} (ready : state.nextInstr = 0#8) :
    Through state state := by
  refine ⟨rfl, rfl, ?_, ?_⟩
  · rw [ready]
    decide
  · rw [ready]
    exact (BitVec.add_zero _).symm

theorem through_incpc {state : ARMulState Mem} (ready : state.nextInstr = 0#8) :
    Through state (incpc state) := by
  have cycle : (incpc state).nextInstr = 2#8 := by
    show state.nextInstr ||| 2#8 = 2#8
    rw [ready]
    rfl
  refine ⟨rfl, rfl, ?_, ?_⟩
  · rw [cycle]
    decide
  · rw [cycle]
    exact setReg_reg_self state 15#4 _

theorem Through.outcome (through : Through before after) (core : after.core = before.core) :
    Outcome W before after := by
  exact ⟨core, Or.inr (Or.inr through)⟩

end SkyeyeStarlet
