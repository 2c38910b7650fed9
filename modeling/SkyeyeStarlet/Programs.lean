import SkyeyeStarlet.Library.Interleaving
import SkyeyeStarlet.Library.Placement
import SkyeyeStarlet.Pipeline
import SkyeyeStarlet.TameThumb

/-!
Whole runs of the loop of `ARMul_Emulate32` against the two instruction sets: as long as the
architecture defines the program, takes no exception in it and finds its code at rest, the loop
with its pipeline runs it, one instruction a round.
-/

namespace SkyeyeStarlet

open ThumbIsa Interleaving

variable {Mem : Type}

section Instructions

/-- An instruction that goes on, as the loop and the architecture see it. -/
structure Follows (bus : Bus Mem) (traps : Traps Mem) (cops : Coprocessors Mem)
    (state : ARMulState Mem) (pc instr : ARMword) (after : ArmIsa.Machine Mem) : Prop where
  shows : ArmShows state (execute bus traps cops state pc instr) pc after
  outcome : Outcome False state (execute bus traps cops state pc instr)
  live : Live (execute bus traps cops state pc instr)
  silent : callsSemihosting state pc instr = false

variable {bus : NarrowBus Mem} {traps : Traps Mem} {cops : Coprocessors Mem}
  {state : ARMulState Mem} {pc instr : ARMword} (live : Live state)
  (trapsRead : TrapsReadOnly traps)

theorem passedWord_always (always : instr.extractLsb' 28 4 = 0xe#4) :
    passedWord state instr = some instr := by
  rw [passedWord, always, if_neg (by decide)]
  rfl

include live trapsRead

theorem follows_thumb (ready : ThumbReady state pc)
    (steady : ¬Departs state pc (thumbHalves state.bigendSig instr).1) {after : Processor Mem}
    (defined : ThumbIsa.meaning (busMemory bus.toBus bus.plain state.mode)
      (thumbHalves state.bigendSig instr).1 (thumbHalves state.bigendSig instr).2
      (machineOf state pc) = some (.goesOn after)) :
    Follows bus.toBus traps cops state pc instr
      ((armMachineOf state pc).withProcessor after) := by
  have realized : Realizes bus.toBus traps cops state pc (.goesOn after)
      (armulThumbDecode state pc instr) :=
    realizes_halfword ready (fun _ _ interrupts => by cases interrupts) steady defined
  have carried : Carried bus.toBus traps cops state pc (armulThumbDecode state pc instr) :=
    carried_halfword ready live trapsRead defined
  cases result : armulThumbDecode state pc instr with
  | undefined =>
      rw [result] at realized
      exact realized.elim
  | branched branched =>
      have runs : execute bus.toBus traps cops state pc instr = branched := by
        simp only [execute, ready.thumb, result, if_true]
      rw [result] at realized carried
      refine ⟨?_, ?_, ?_, ?_⟩
      · rw [runs]
        exact realized
      · rw [runs]
        exact outcome_thumbDecode ready.ready ready.thumb result
      · rw [runs]
        exact carried
      · simp only [callsSemihosting, ready.thumb, result, if_true]
  | decoded word =>
      rw [result] at realized carried
      obtain ⟨always, tame⟩ := carried
      have runs : execute bus.toBus traps cops state pc instr =
          mainSwitch bus.toBus traps cops state pc word := by
        simp only [execute, ready.thumb, result, if_true]
        exact executeArm_always bus.toBus traps cops state pc always
      refine ⟨?_, ?_, ?_, ?_⟩
      · rw [runs, ← executeArm_always bus.toBus traps cops state pc always]
        exact realized
      · rw [runs]
        exact tame.outcome
      · rw [runs]
        exact tame.live
      · simp only [callsSemihosting, ready.thumb, result, if_true, passedWord_always always]
        exact tame.silent

theorem follows_arm (ready : ArmReady state pc) (steady : ¬ArmDeparts state pc instr)
    {after : ArmIsa.Machine Mem}
    (defined : ArmIsa.meaning (busMemory bus.toBus bus.plain state.mode) instr (armMachineOf state pc) =
      some (.goesOn after)) : Follows bus.toBus traps cops state pc instr after := by
  have performs : ArmShows state (executeArm bus.toBus traps cops state pc instr) pc after :=
    performs_executeArm ready (fun _ interrupts => by cases interrupts) steady defined
  have runs : execute bus.toBus traps cops state pc instr =
      executeArm bus.toBus traps cops state pc instr := by
    rw [execute, if_neg (Bool.eq_false_iff.mp ready.arm)]
  have calls : callsSemihosting state pc instr =
      (passedWord state instr).any semihostingWord := by
    rw [callsSemihosting, if_neg (Bool.eq_false_iff.mp ready.arm)]
  rw [← runs] at performs
  unfold ArmIsa.meaning at defined
  split at defined
  · rename_i never
    simp only [Option.bind_eq_bind, Option.bind_eq_some_iff] at defined
    obtain ⟨decoded, named, -⟩ := defined
    unfold ArmIsa.decodeUnconditional at named
    split at named
    · rename_i group
      have branches : executeArm bus.toBus traps cops state pc instr =
          writeR15Branch (state.setReg 14#4 (pc + 4#32))
            (pc + 9#32 + (branchOffset instr + (flagWord (instr.getLsbD 24) <<< 1))) := by
        rw [executeArm, if_pos never]
        simp only [unconditional, ready.isV5, group, Bool.not_true, Bool.false_eq_true, if_false,
          if_true]
      refine ⟨performs, ?_, ?_, ?_⟩
      · rw [runs, branches]
        exact (jumps_writeR15Branch _ _).outcome (steady_setReg state (by decide) _).core
      · rw [runs, branches]
        exact (live.setReg _ _).writeR15Branch _
      · rw [calls, passedWord, if_pos never, group]
        simp
    · cases named
  · rename_i conditional
    simp only [Option.bind_eq_bind, Option.bind_eq_some_iff] at defined
    obtain ⟨decoded, named, ran⟩ := defined
    have held := passes_eq state pc (instr.extractLsb' 28 4)
    split at ran
    · rename_i passes
      have tame : Tame bus.toBus traps cops state pc instr :=
        tame_arm ready live ran trapsRead rfl named steady
      rw [executeArm_passes bus.toBus traps cops conditional passes] at runs
      refine ⟨performs, ?_, ?_, ?_⟩
      · rw [runs]
        exact tame.outcome
      · rw [runs]
        exact tame.live
      · rw [calls, passedWord, if_neg conditional, if_pos (held.trans passes)]
        exact tame.silent
    · rename_i fails
      rw [executeArm_fails bus.toBus traps cops conditional (Bool.eq_false_iff.mpr fails)] at runs
      refine ⟨performs, ?_, ?_, ?_⟩
      · rw [runs]
        exact Outcome.refl ready.ready
      · rw [runs]
        exact live
      · rw [calls, passedWord, if_neg conditional, if_neg]
        · rfl
        · exact fun passed => fails (held.symm.trans passed)

end Instructions

section Surroundings

/-- How the memory moves without an instruction: `drift` covers every fetch, and whatever else
the devices do. -/
structure Drifts (bus : Bus Mem) (mode : ModeNum) (drift : Mem → Mem → Prop) : Prop where
  refl : ∀ mem, drift mem mem
  trans : ∀ first second third, drift first second → drift second third → drift first third
  fetch : ∀ address mem, drift mem (bus.fetch mode address mem).mem

structure Unseen (drift : Mem → Mem → Prop) (before after : ARMulState Mem) : Prop where
  core : after.core = before.core
  regs : ∀ number, number ≠ 15#4 → after.reg number = before.reg number
  flags : after.flags = before.flags
  background : after.background = before.background
  mem : drift before.mem after.mem

variable {bus : Bus Mem} {drift : Mem → Mem → Prop} {before middle after state : ARMulState Mem}

theorem Unseen.trans {mode : ModeNum} (drifts : Drifts bus mode drift)
    (first : Unseen drift before middle) (second : Unseen drift middle after) :
    Unseen drift before after := by
  refine ⟨second.core.trans first.core, ?_, second.flags.trans first.flags,
    second.background.trans first.background, drifts.trans _ _ _ first.mem second.mem⟩
  intro number notPc
  exact (second.regs number notPc).trans (first.regs number notPc)

theorem Unseen.mode (unseen : Unseen drift before after) : after.mode = before.mode := by
  exact congrArg Background.mode unseen.background

theorem unseen_pc {mode : ModeNum} (drifts : Drifts bus mode drift) (state : ARMulState Mem)
    (pc : ARMword) : Unseen drift state (state.setReg 15#4 pc) := by
  exact ⟨rfl, fun number notPc => setReg_reg_of_ne notPc, rfl, rfl, drifts.refl _⟩

theorem drift_fetch (drifts : Drifts bus state.mode drift) (address isize : ARMword) :
    drift state.mem (fetchWord bus state address isize).1 := by
  have first := drifts.fetch address state.mem
  have second := drifts.trans _ _ _ first
    (drifts.fetch (address + 4#32) (bus.fetch state.mode address state.mem).mem)
  unfold fetchWord
  dsimp only
  split
  · split
    · split <;> exact second
    · exact first
  · exact first

theorem unseen_fetch (drifts : Drifts bus state.mode drift) (address isize : ARMword) :
    Unseen drift state (armulReLoadInstr bus state address isize).1 := by
  have moved := drift_fetch drifts address isize
  unfold armulReLoadInstr
  cases fetched : fetchWord bus state address isize with
  | mk mem word =>
      rw [fetched] at moved
      cases word with
      | some word => exact ⟨rfl, fun _ _ => rfl, rfl, rfl, moved⟩
      | none =>
          unfold prefetchAbort
          dsimp only
          split <;> exact ⟨rfl, fun _ _ => rfl, rfl, rfl, moved⟩

variable {emulator : Emulator Mem} (drifts : Drifts bus emulator.cpu.mode drift)

include drifts

theorem Unseen.fetched (unseen : Unseen drift emulator.cpu state) (address isize : ARMword) :
    Unseen drift emulator.cpu (armulReLoadInstr bus state address isize).1 := by
  refine unseen.trans drifts (unseen_fetch ?_ address isize)
  rw [unseen.mode]
  exact drifts

theorem unseen_stepPc : Unseen drift emulator.cpu (stepPc emulator) := by
  unfold stepPc
  split
  · exact ⟨rfl, fun _ _ => rfl, rfl, rfl, drifts.refl _⟩
  · exact unseen_pc drifts _ _

theorem unseen_restartPc : Unseen drift emulator.cpu (restartPc emulator.cpu) := by
  have moved := unseen_pc drifts emulator.cpu (emulator.cpu.reg 15#4 + insnSize emulator.cpu * 2#32)
  exact ⟨moved.core, moved.regs, moved.flags, moved.background, moved.mem⟩

theorem unseen_fetchStates : ∀ state ∈ fetchStates bus emulator,
    Unseen drift emulator.cpu state := by
  intro state member
  unfold fetchStates at member
  dsimp only at member
  split at member
  · rw [List.mem_singleton.mp member]
    exact (unseen_stepPc drifts).fetched drifts _ _
  · have first := (unseen_restartPc drifts).fetched drifts (emulator.cpu.reg 15#4)
      (insnSize emulator.cpu)
    have second := first.fetched drifts (emulator.cpu.reg 15#4 + insnSize emulator.cpu)
      (insnSize emulator.cpu)
    simp only [List.mem_cons, List.not_mem_nil, or_false] at member
    rcases member with rfl | rfl | rfl
    · exact first
    · exact second
    · exact second.fetched drifts _ _

theorem unseen_primePipe : Unseen drift emulator.cpu (primePipe bus emulator).cpu := by
  have states := unseen_fetchStates drifts
  have ready {state : ARMulState Mem} (unseen : Unseen drift emulator.cpu state) :
      Unseen drift emulator.cpu { state with nextInstr := 0#8 } :=
    ⟨unseen.core, unseen.regs, unseen.flags, unseen.background, unseen.mem⟩
  unfold primePipe
  split
  · rename_i sequential
    simp only [fetchStates, if_pos sequential] at states
    exact ready (states _ List.mem_cons_self)
  · rename_i flush
    simp only [fetchStates, if_neg flush] at states
    exact ready (states _ (List.mem_cons_of_mem _ (List.mem_cons_of_mem _ List.mem_cons_self)))

end Surroundings

section Architecture

/-- The core `cpu` with the memory and the instruction set of the machine. -/
def coreOf (cpu : ARMulState Mem) (machine : Processor Mem) : ARMulState Mem :=
  { cpu with mem := machine.mem, flags := { cpu.flags with tFlag := machine.thumb } }

/-- One instruction of the architecture in the mode of `cpu`, where it takes no exception. -/
def machineStep (bus : NarrowBus Mem) (cpu : ARMulState Mem) (machine : ArmIsa.Machine Mem) :
    Option (ArmIsa.Machine Mem) := do
  let word ← codeAt bus.toBus (coreOf cpu machine.toProcessor) machine.pc
  if machine.thumb then
    let (tinstr, following) := thumbHalves cpu.bigendSig word
    match ThumbIsa.meaning (busMemory bus.toBus bus.plain cpu.mode) tinstr following machine.toProcessor with
    | some (.goesOn after) => some (machine.withProcessor after)
    | _ => none
  else
    match ArmIsa.meaning (busMemory bus.toBus bus.plain cpu.mode) word machine with
    | some (.goesOn after) => some after
    | _ => none

/-- What the surroundings leave of a machine.  No instruction reads register 15 from the
register file. -/
structure Settles (drift : Mem → Mem → Prop) (before after : ArmIsa.Machine Mem) : Prop where
  regs : ∀ number, number ≠ 15#4 → after.reg number = before.reg number
  pc : after.pc = before.pc
  negative : after.n = before.n
  zero : after.z = before.z
  carry : after.c = before.c
  overflow : after.v = before.v
  thumb : after.thumb = before.thumb
  sticky : after.q = before.q
  mem : drift before.mem after.mem

/-- The machine stands before an instruction that the architecture defines and the main switch
keeps to.  The surroundings leave the code alone, and the instruction leaves alone what the
pipeline already holds. -/
structure Clean (bus : NarrowBus Mem) (cpu : ARMulState Mem) (drift : Mem → Mem → Prop)
    (machine : ArmIsa.Machine Mem) : Prop where
  code : ∀ address ∈ pipeAddresses machine.pc (insnSize (coreOf cpu machine.toProcessor)),
    codeAt bus.toBus (coreOf cpu machine.toProcessor) address ≠ none ∧
      ∀ mem, drift machine.mem mem →
        codeAt bus.toBus (coreOf cpu { machine.toProcessor with mem }) address =
          codeAt bus.toBus (coreOf cpu machine.toProcessor) address
  keeps : ∀ word, codeAt bus.toBus (coreOf cpu machine.toProcessor) machine.pc = some word →
    if machine.thumb then ¬Departs cpu machine.pc (thumbHalves cpu.bigendSig word).1
    else ¬ArmDeparts cpu machine.pc word
  runs : ∃ after, machineStep bus cpu machine = some after ∧
    (after.thumb = machine.thumb →
      after.pc = machine.pc + insnSize (coreOf cpu machine.toProcessor) →
      ∀ address ∈ [machine.pc + insnSize (coreOf cpu machine.toProcessor),
          machine.pc + insnSize (coreOf cpu machine.toProcessor) * 2#32],
        codeAt bus.toBus (coreOf cpu after.toProcessor) address =
          codeAt bus.toBus (coreOf cpu machine.toProcessor) address)

variable {bus : NarrowBus Mem} {cpu state : ARMulState Mem} {drift : Mem → Mem → Prop}
  {machine after : ArmIsa.Machine Mem}

theorem settles_refl {mode : ModeNum} (drifts : Drifts bus.toBus mode drift)
    (machine : ArmIsa.Machine Mem) : Settles drift machine machine := by
  exact ⟨fun _ _ => rfl, rfl, rfl, rfl, rfl, rfl, rfl, rfl, drifts.refl _⟩

theorem settles_trans {mode : ModeNum} (drifts : Drifts bus.toBus mode drift)
    (first second third : ArmIsa.Machine Mem) (earlier : Settles drift first second)
    (later : Settles drift second third) : Settles drift first third := by
  refine ⟨?_, later.pc.trans earlier.pc, later.negative.trans earlier.negative,
    later.zero.trans earlier.zero, later.carry.trans earlier.carry,
    later.overflow.trans earlier.overflow, later.thumb.trans earlier.thumb,
    later.sticky.trans earlier.sticky, drifts.trans _ _ _ earlier.mem later.mem⟩
  intro number notPc
  exact (later.regs number notPc).trans (earlier.regs number notPc)

theorem codeAt_coreOf {processor : Processor Mem} (mode : state.mode = cpu.mode)
    (bigend : state.bigendSig = cpu.bigendSig) (thumb : state.tFlag = processor.thumb)
    (mem : state.mem = processor.mem) (address : ARMword) :
    codeAt bus.toBus state address = codeAt bus.toBus (coreOf cpu processor) address := by
  exact @codeAt_congr _ bus.toBus (coreOf cpu processor) state mode mem bigend thumb address

theorem machineStep_cases (ran : machineStep bus cpu machine = some after) :
    ∃ word, codeAt bus.toBus (coreOf cpu machine.toProcessor) machine.pc = some word ∧
      (machine.thumb = true ∧ (∃ processor, after = machine.withProcessor processor ∧
          ThumbIsa.meaning (busMemory bus.toBus bus.plain cpu.mode) (thumbHalves cpu.bigendSig word).1
            (thumbHalves cpu.bigendSig word).2 machine.toProcessor = some (.goesOn processor)) ∨
        machine.thumb = false ∧
          ArmIsa.meaning (busMemory bus.toBus bus.plain cpu.mode) word machine = some (.goesOn after)) := by
  unfold machineStep at ran
  simp only [Option.bind_eq_bind, Option.bind_eq_some_iff] at ran
  obtain ⟨word, code, ran⟩ := ran
  refine ⟨word, code, ?_⟩
  split at ran
  · rename_i thumb
    split at ran
    · rename_i processor defined
      cases ran
      exact Or.inl ⟨thumb, processor, rfl, defined⟩
    · cases ran
  · rename_i arm
    split at ran
    · rename_i final defined
      cases ran
      exact Or.inr ⟨Bool.eq_false_iff.mpr arm, defined⟩
    · cases ran

theorem machineStep_arm {word : ARMword} (arm : machine.thumb = false)
    (code : codeAt bus.toBus (coreOf cpu machine.toProcessor) machine.pc = some word)
    (defined : ArmIsa.meaning (busMemory bus.toBus bus.plain cpu.mode) word machine = some (.goesOn after)) :
    machineStep bus cpu machine = some after := by
  simp only [machineStep, code, arm, defined, Option.bind_eq_bind, Option.bind_some,
    Bool.false_eq_true, if_false]

theorem departs_goesOn {memory : Memory Mem} {pc : ARMword} {tinstr following : Halfword}
    {processor final : Processor Mem}
    (defined : ThumbIsa.meaning memory tinstr following processor = some (.goesOn final))
    (departs : Departs state pc tinstr) : Departs cpu pc tinstr := by
  unfold Departs at departs ⊢
  split at departs
  · exact departs
  · exact departs
  · rename_i number swi
    simp only [ThumbIsa.meaning, swi, Option.bind_eq_bind, Option.bind_some] at defined
    cases defined
  · exact departs.elim

theorem armDeparts_goesOn {memory : Memory Mem} {pc instr : ARMword}
    {final : ArmIsa.Machine Mem} (isV5e : state.isV5e = cpu.isV5e)
    (defined : ArmIsa.meaning memory instr machine = some (.goesOn final))
    (departs : ArmDeparts state pc instr) : ArmDeparts cpu pc instr := by
  unfold ArmDeparts at departs ⊢
  rw [isV5e] at departs
  split at departs
  · exact departs
  · obtain ⟨rfl, -⟩ := departs
    cases defined
  · exact departs
  · exact departs.elim

end Architecture

section Rounds

structure Fit (cpu : ARMulState Mem) : Prop where
  isV4 : cpu.isV4 = true
  isV5 : cpu.isV5 = true
  bank : cpu.file.bank = modeToBank cpu.mode

structure QuietRound (cpu : ARMulState Mem) (drift : Mem → Mem → Prop) (round : Round Mem) : Prop where
  lines : pendingException cpu round = none
  cycle : ∀ mem, drift mem (round.ioDoCycle mem)

structure StandsFor (bus : Bus Mem) (start : ARMulState Mem) (emulator : Emulator Mem)
    (machine : ArmIsa.Machine Mem) : Prop where
  agrees : Agrees (start.withQ machine.q) emulator.cpu machine.toProcessor
  next : nextPc emulator.cpu emulator.pc = machine.pc
  placed : ArmIsa.Placed machine.toProcessor
  live : Live emulator.cpu
  core : emulator.cpu.core = start.core
  clear : emulator.cpu.nextInstr < 4#8 → emulator.cpu.aborted = 0#32
  pipe : emulator.cpu.nextInstr < 4#8 → PipeReady bus emulator

variable {bus : NarrowBus Mem} {cops : Coprocessors Mem} {start state : ARMulState Mem}
  {drift : Mem → Mem → Prop} {emulator : Emulator Mem} {machine after : ArmIsa.Machine Mem}
  {round : Round Mem} (stands : StandsFor bus.toBus start emulator machine)

theorem background_withQ (state : ARMulState Mem) (q : Bool) :
    (state.withQ q).background = { state.background with sFlag := q } := by
  rfl

theorem bigend_core {first second : ARMulState Mem} (core : first.core = second.core) :
    first.bigendSig = second.bigendSig := by
  exact congrArg Core.bigendSig core

theorem Follows.passes {traps : Traps Mem} {pc instr : ARMword}
    (follows : Follows bus.toBus traps cops state pc instr after)
    (sequential : (execute bus.toBus traps cops state pc instr).nextInstr < 4#8)
    (thumb : (execute bus.toBus traps cops state pc instr).tFlag = state.tFlag) :
    after.thumb = state.tFlag ∧ after.pc = pc + insnSize state := by
  refine ⟨follows.shows.thumb.symm.trans thumb, ?_⟩
  rw [← follows.shows.next, nextPc, if_pos sequential, insnSize, thumb]
  rfl

theorem Follows.codeAt {traps : Traps Mem} {pc instr : ARMword}
    (follows : Follows bus.toBus traps cops state pc instr after)
    (mode : state.mode = start.mode) (core : state.core = start.core) (address : ARMword) :
    codeAt bus.toBus (execute bus.toBus traps cops state pc instr) address =
      codeAt bus.toBus (coreOf start after.toProcessor) address := by
  refine codeAt_coreOf ?_ ?_ follows.shows.thumb follows.shows.mem address
  · exact (congrArg Background.mode follows.shows.background).trans mode
  · exact bigend_core (follows.outcome.core.trans core)

include stands

theorem StandsFor.mode : emulator.cpu.mode = start.mode := by
  exact congrArg Background.mode stands.agrees.background

theorem StandsFor.sticky : emulator.cpu.flags.sFlag = machine.q := by
  exact congrArg Background.sFlag stands.agrees.background

theorem StandsFor.isize : insnSize emulator.cpu = insnSize (coreOf start machine.toProcessor) := by
  simp only [insnSize, stands.agrees.thumb]
  rfl

theorem StandsFor.settles (unseen : Unseen drift emulator.cpu state) :
    Settles drift machine (armMachineOf state machine.pc) := by
  have agrees := stands.agrees
  constructor
  · intro number notPc
    exact (unseen.regs number notPc).trans (agrees.regs number notPc)
  · rfl
  · exact (congrArg Flags.nFlag unseen.flags).trans agrees.negative
  · exact (congrArg Flags.zFlag unseen.flags).trans agrees.zero
  · exact (congrArg Flags.cFlag unseen.flags).trans agrees.carry
  · exact (congrArg Flags.vFlag unseen.flags).trans agrees.overflow
  · exact (congrArg Flags.tFlag unseen.flags).trans agrees.thumb
  · exact (congrArg Flags.sFlag unseen.flags).trans stands.sticky
  · rw [← agrees.mem]
    exact unseen.mem

theorem StandsFor.code (clean : Clean bus start drift machine)
    (unseen : Unseen drift emulator.cpu state) {address : ARMword}
    (member : address ∈ pipeAddresses machine.pc (insnSize emulator.cpu)) :
    codeAt bus.toBus emulator.cpu address ≠ none ∧
      codeAt bus.toBus state address = codeAt bus.toBus emulator.cpu address := by
  rw [stands.isize] at member
  obtain ⟨found, rests⟩ := clean.code address member
  have seen : codeAt bus.toBus emulator.cpu address =
      codeAt bus.toBus (coreOf start machine.toProcessor) address :=
    codeAt_coreOf stands.mode (bigend_core stands.core) stands.agrees.thumb stands.agrees.mem
      address
  have moved : codeAt bus.toBus state address =
      codeAt bus.toBus (coreOf start { machine.toProcessor with mem := state.mem }) address := by
    refine codeAt_coreOf (unseen.mode.trans stands.mode) ?_ ?_ rfl address
    · exact bigend_core (unseen.core.trans stands.core)
    · exact (congrArg Flags.tFlag unseen.flags).trans stands.agrees.thumb
  rw [seen]
  refine ⟨found, moved.trans (rests state.mem ?_)⟩
  rw [← stands.agrees.mem]
  exact unseen.mem

theorem StandsFor.ready_thumb (fit : Fit start) (unseen : Unseen drift emulator.cpu state)
    (ready : state.nextInstr = 0#8) (ahead : state.reg 15#4 = machine.pc + 4#32)
    (clear : state.aborted = 0#32) (thumb : machine.thumb = true) :
    ThumbReady state machine.pc := by
  have core := unseen.core.trans stands.core
  have even := (ArmIsa.placed_thumb thumb).mp stands.placed
  have bank : state.file.bank = modeToBank start.mode :=
    (congrArg Background.bank (unseen.background.trans stands.agrees.background)).trans fit.bank
  refine
    { thumb := (congrArg Flags.tFlag unseen.flags).trans (stands.agrees.thumb.trans thumb)
      ready
      ahead
      aligned := ?_
      isV4 := (congrArg Core.isV4 core).trans fit.isV4
      isV5 := (congrArg Core.isV5 core).trans fit.isV5
      clear
      coherent := ⟨(congrArg Core.prog32Sig unseen.core).trans stands.live.prog32, ?_, ?_⟩ }
  · rw [getLsbD_div, decide_eq_false_iff_not]
    omega
  · rw [unseen.mode]
    exact stands.live.valid
  · rw [bank, unseen.mode, stands.mode]

theorem StandsFor.ready_arm (fit : Fit start) (unseen : Unseen drift emulator.cpu state)
    (ready : state.nextInstr = 0#8) (ahead : state.reg 15#4 = machine.pc + 8#32)
    (clear : state.aborted = 0#32) (arm : machine.thumb = false) :
    ArmReady state machine.pc := by
  have core := unseen.core.trans stands.core
  have bank : state.file.bank = modeToBank start.mode :=
    (congrArg Background.bank (unseen.background.trans stands.agrees.background)).trans fit.bank
  refine
    { arm := (congrArg Flags.tFlag unseen.flags).trans (stands.agrees.thumb.trans arm)
      ready
      ahead
      aligned := (ArmIsa.placed_arm arm).mp stands.placed
      isV4 := (congrArg Core.isV4 core).trans fit.isV4
      isV5 := (congrArg Core.isV5 core).trans fit.isV5
      clear
      coherent := ⟨(congrArg Core.prog32Sig unseen.core).trans stands.live.prog32, ?_, ?_⟩ }
  · rw [unseen.mode]
    exact stands.live.valid
  · rw [bank, unseen.mode, stands.mode]

theorem StandsFor.follows {traps : Traps Mem} (trapsRead : TrapsReadOnly traps) (fit : Fit start)
    (unseen : Unseen drift emulator.cpu state) (ready : state.nextInstr = 0#8)
    (ahead : state.reg 15#4 = machine.pc + insnSize state * 2#32) (clear : state.aborted = 0#32)
    (live : Live state) {instr : ARMword}
    (code : codeAt bus.toBus state machine.pc = some instr)
    (clean : Clean bus start drift (armMachineOf state machine.pc))
    (ran : machineStep bus start (armMachineOf state machine.pc) = some after) :
    Follows bus.toBus traps cops state machine.pc instr after ∧
      ArmIsa.Placed after.toProcessor := by
  have mode : state.mode = start.mode := unseen.mode.trans stands.mode
  have bigend := bigend_core (unseen.core.trans stands.core)
  have flag : state.tFlag = machine.thumb :=
    (congrArg Flags.tFlag unseen.flags).trans stands.agrees.thumb
  have placed : ArmIsa.Placed (machineOf state machine.pc) := by
    have source := stands.placed
    rw [ArmIsa.Placed, ← flag] at source
    exact source
  have seen : codeAt bus.toBus (coreOf start (machineOf state machine.pc)) machine.pc =
      some instr := by
    rw [← code]
    exact (codeAt_coreOf mode bigend rfl rfl machine.pc).symm
  have keeps := clean.keeps instr seen
  obtain ⟨word, found, run⟩ := machineStep_cases ran
  obtain rfl : instr = word := Option.some.inj (seen.symm.trans found)
  rw [← mode] at run
  rcases run with ⟨thumb, processor, rfl, defined⟩ | ⟨arm, defined⟩
  · have inThumb : state.tFlag = true := thumb
    rw [if_pos thumb] at keeps
    rw [← bigend] at keeps defined
    have size : insnSize state * 2#32 = 4#32 := by
      rw [insnSize, inThumb]
      rfl
    rw [size] at ahead
    have prepared := stands.ready_thumb fit unseen ready ahead clear (flag.symm.trans inThumb)
    exact ⟨follows_thumb live trapsRead prepared (mt (departs_goesOn defined) keeps) defined,
      ArmIsa.placed_thumbMeaning placed inThumb defined⟩
  · have inArm : state.tFlag = false := arm
    rw [if_neg (Bool.eq_false_iff.mp arm)] at keeps
    have size : insnSize state * 2#32 = 8#32 := by
      rw [insnSize, inArm]
      rfl
    rw [size] at ahead
    have prepared := stands.ready_arm fit unseen ready ahead clear (flag.symm.trans inArm)
    have isV5e : state.isV5e = start.isV5e :=
      congrArg Core.isV5e (unseen.core.trans stands.core)
    exact ⟨follows_arm live trapsRead prepared (mt (armDeparts_goesOn isV5e defined) keeps) defined,
      ArmIsa.placed_meaning placed inArm defined⟩

variable (physical : PhysicalBus Mem) (cops)

theorem standsFor_round (fit : Fit start) (drifts : Drifts bus.toBus start.mode drift)
    (quiet : QuietRound start drift round)
    (clean : ∀ moved, Settles drift machine moved → Clean bus start drift moved) :
    ∃ moved after, Settles drift machine moved ∧ machineStep bus start moved = some after ∧
      StandsFor bus.toBus start
        (emulateRound bus.toBus (starletTraps bus.toBus physical) cops emulator round) after := by
  have fetches := drifts
  rw [← stands.mode] at fetches
  have here := clean machine (settles_refl drifts machine)
  have pc : (primePipe bus.toBus emulator).pc = machine.pc :=
    (primePipe_pc bus.toBus emulator).trans stands.next
  obtain ⟨holds, primed⟩ := primePipe_fetched stands.pipe (fun address member => by
    rw [pc] at member
    exact ⟨(stands.code here (unseen_primePipe fetches) member).1, fun state fetched =>
      (stands.code here (unseen_fetchStates fetches state fetched) member).2⟩)
  have moved := unseen_primePipe fetches
  have aborted := primePipe_aborted bus.toBus stands.clear
  rw [emulateRound, if_pos stands.live.running]
  generalize primePipe bus.toBus emulator = filled at *
  have cycled : Unseen drift emulator.cpu (filled.executing round) :=
    ⟨moved.core, moved.regs, moved.flags, moved.background,
      drifts.trans _ _ _ moved.mem (quiet.cycle _)⟩
  have live : Live (filled.executing round) := stands.live.congr
    (congrArg Core.prog32Sig primed.core) primed.mode primed.emulate
  have settled := stands.settles cycled
  have there := clean _ settled
  have rests {address : ARMword} (member : address ∈ pipeAddresses machine.pc
      (insnSize emulator.cpu)) : codeAt bus.toBus (filled.executing round) address =
        codeAt bus.toBus filled.cpu address :=
    (stands.code here cycled member).2.trans (stands.code here moved member).2.symm
  have instr := holds.instr
  rw [pc, ← rests List.mem_cons_self] at instr
  have ahead := holds.ahead
  rw [pc] at ahead
  obtain ⟨after, ran, kept⟩ := there.runs
  obtain ⟨follows, placed⟩ : Follows bus.toBus (starletTraps bus.toBus physical) cops
      (filled.executing round) machine.pc filled.instr after ∧ ArmIsa.Placed after.toProcessor :=
    stands.follows (starletTraps_readOnly bus.toBus physical) fit cycled primed.ready ahead aborted
      live instr there ran
  have lines : pendingException filled.cpu round = none := by
    have masks : filled.cpu.flags.ifFlags = start.flags.ifFlags :=
      congrArg Background.ifFlags (moved.background.trans stands.agrees.background)
    rw [← quiet.lines, pendingException, pendingException, masks]
  simp only [finishRound, lines, pc]
  have background : (filled.executing round).background = (start.withQ machine.q).background :=
    moved.background.trans stands.agrees.background
  have core := follows.outcome.core.trans (cycled.core.trans stands.core)
  refine ⟨_, after, settled, ran, ?_⟩
  refine
    { agrees := { follows.shows.toAgrees with background := ?_ }
      next := follows.shows.next
      placed
      live := follows.live
      core
      clear := fun _ => ?_
      pipe := fun sequential => ?_ }
  · refine follows.shows.background.trans ?_
    rw [background_withQ, background, background_withQ, background_withQ]
  · have clear : (filled.executing round).aborted = 0#32 := aborted
    rw [execute_aborted clear, follows.silent]
    rfl
  · have outcome := Outcome.after_steady (steady_mem filled.cpu _) follows.outcome
    rcases outcome.flow with stopped | redirected | through
    · exact absurd (follows.live.running.symm.trans stopped) (by decide)
    · exact absurd sequential redirected.flush
    · obtain ⟨same, passes⟩ := follows.passes sequential through.thumb
      have behind {address : ARMword} (member : address ∈
          [machine.pc + insnSize filled.cpu, machine.pc + insnSize filled.cpu * 2#32]) :
          codeAt bus.toBus (execute bus.toBus (starletTraps bus.toBus physical) cops
              (filled.executing round) machine.pc filled.instr) address =
            codeAt bus.toBus filled.cpu address := by
        rw [follows.codeAt (cycled.mode.trans stands.mode) (cycled.core.trans stands.core),
          kept same passes address member]
        refine Eq.trans (codeAt_coreOf ?_ ?_ rfl rfl address).symm (rests ?_)
        · exact cycled.mode.trans stands.mode
        · exact bigend_core (cycled.core.trans stands.core)
        · rw [← primed.isize]
          exact List.mem_cons_of_mem _ member
      refine holds.pipeReady through pc.symm rfl rfl ?_ ?_ <;> rw [pc]
      · exact behind List.mem_cons_self
      · exact behind (List.mem_cons_of_mem _ List.mem_cons_self)

end Rounds

section Runs

structure Launched (emulator : Emulator Mem) : Prop where
  refill : ¬emulator.cpu.nextInstr < 4#8
  live : Live emulator.cpu
  fit : Fit emulator.cpu
  placed : ArmIsa.Placed (machineOf emulator.cpu (emulator.cpu.reg 15#4))

theorem Launched.standsFor {bus : Bus Mem} {start : Emulator Mem} (launched : Launched start) :
    StandsFor bus start.cpu start (armMachineOf start.cpu (start.cpu.reg 15#4)) := by
  constructor
  · exact ⟨fun _ _ => rfl, rfl, rfl, rfl, rfl, rfl, rfl, rfl⟩
  · exact if_neg launched.refill
  · exact launched.placed
  · exact launched.live
  · rfl
  · exact fun sequential => absurd sequential launched.refill
  · exact fun sequential => absurd sequential launched.refill

/-- As long as the architecture keeps the program defined, the loop has behind any number of
rounds the registers, the flags, the memory and the program counter that the architecture has
behind as many instructions. -/
theorem program_runs (bus : NarrowBus Mem) (physical : PhysicalBus Mem) (cops : Coprocessors Mem)
    {start : Emulator Mem} (launched : Launched start) {drift : Mem → Mem → Prop}
    (drifts : Drifts bus.toBus start.cpu.mode drift) (rounds : List (Round Mem))
    (quiet : ∀ round ∈ rounds, QuietRound start.cpu drift round)
    (clean : ∀ count machine, count < rounds.length →
      Reaches (machineStep bus start.cpu) (Settles drift)
        (armMachineOf start.cpu (start.cpu.reg 15#4)) count machine →
      Clean bus start.cpu drift machine) :
    let emulator := Runs.run (emulateRound bus.toBus (starletTraps bus.toBus physical) cops)
      start rounds
    ∃ machine,
      Reaches (machineStep bus start.cpu) (Settles drift)
        (armMachineOf start.cpu (start.cpu.reg 15#4)) rounds.length machine ∧
      Agrees (start.cpu.withQ machine.q) emulator.cpu machine.toProcessor ∧
      nextPc emulator.cpu emulator.pc = machine.pc ∧ running emulator.cpu = true := by
  intro emulator
  have follows (emulator : Emulator Mem) (machine : ArmIsa.Machine Mem) (round : Round Mem)
      (stands : StandsFor bus.toBus start.cpu emulator machine)
      (quiet : QuietRound start.cpu drift round)
      (clean : ∀ moved, Settles drift machine moved → Clean bus start.cpu drift moved) :=
    standsFor_round cops stands physical launched.fit drifts quiet clean
  obtain ⟨machine, reached, stands⟩ := run_follows (settles_refl drifts) (settles_trans drifts)
    follows launched.standsFor rounds quiet clean
  exact ⟨machine, reached, stands.agrees, stands.next, stands.live.running⟩

/-- `SUBS r0, r0, #1` and a branch back to it, all over the memory. -/
def loopMemory : FlatMemory :=
  flatMemory fun address => if address.getLsbD 2 then 0xeafffffd#32 else 0xe2500001#32

def looping : Emulator FlatMemory :=
  { cpu :=
      { coreAt user32mode false 0x7ff8#32 loopMemory with
        nextInstr := 8#8 }
    pc := 0#32
    decoded := 0#32
    loaded := 0#32 }

def stillRound : Round FlatMemory :=
  { nresetSig := true, nfiqSig := true, nirqSig := true, ioDoCycle := id }

theorem codeAt_loop {machine : Processor FlatMemory} (arm : machine.thumb = false)
    (mem : machine.mem = loopMemory) (address : ARMword) :
    codeAt narrowFlatBus.toBus (coreOf looping.cpu machine) address =
      some (loopMemory.words (address &&& ~~~3#32) &&& 0xffffffff#32) := by
  have size : insnSize (coreOf looping.cpu machine) = 4#32 := by
    rw [insnSize, show (coreOf looping.cpu machine).tFlag = false from arm]
    rfl
  have plain : (flatRead .word address loopMemory).fault = .noFault := rfl
  have found : narrowFlatBus.fetch (coreOf looping.cpu machine).mode address
      (coreOf looping.cpu machine).mem = flatRead .word address loopMemory := by
    rw [← mem]
    rfl
  simp only [codeAt, size, fetchWord, found, plain, if_true]
  rfl

structure InLoop (machine : ArmIsa.Machine FlatMemory) : Prop where
  arm : machine.thumb = false
  mem : machine.mem = loopMemory
  pc : machine.pc = 0x8000#32 ∨ machine.pc = 0x8004#32

theorem inLoop_step {machine : ArmIsa.Machine FlatMemory} (inside : InLoop machine) :
    ∃ after, machineStep narrowFlatBus looping.cpu machine = some after ∧ InLoop after := by
  have code := codeAt_loop inside.arm inside.mem machine.pc
  obtain ⟨⟨reg, pc, n, z, c, v, thumb, mem⟩, q⟩ := machine
  obtain ⟨rfl, rfl, rfl | rfl⟩ := inside
  · obtain ⟨after, ran⟩ : ∃ after, ArmIsa.meaning (busMemory flatBus narrowFlatBus.plain looping.cpu.mode)
        0xe2500001#32 ⟨⟨reg, 0x8000#32, n, z, c, v, false, loopMemory⟩, q⟩ =
          some (.goesOn after) := ⟨_, rfl⟩
    rw [show loopMemory.words (0x8000#32 &&& ~~~3#32) &&& 0xffffffff#32 = 0xe2500001#32 by
      decide] at code
    refine ⟨after, machineStep_arm rfl code ran, ?_⟩
    cases ran
    exact ⟨rfl, rfl, Or.inr rfl⟩
  · obtain ⟨after, ran⟩ : ∃ after, ArmIsa.meaning (busMemory flatBus narrowFlatBus.plain looping.cpu.mode)
        0xeafffffd#32 ⟨⟨reg, 0x8004#32, n, z, c, v, false, loopMemory⟩, q⟩ =
          some (.goesOn after) := ⟨_, rfl⟩
    have target : 0x8004#32 + 8#32 + (BitVec.extractLsb' 0 24 0xeafffffd#32).signExtend 32 <<< 2 =
        0x8000#32 := by decide
    rw [show loopMemory.words (0x8004#32 &&& ~~~3#32) &&& 0xffffffff#32 = 0xeafffffd#32 by
      decide] at code
    refine ⟨after, machineStep_arm rfl code ran, ?_⟩
    cases ran
    exact ⟨rfl, rfl, Or.inl target⟩

theorem inLoop_clean {machine : ArmIsa.Machine FlatMemory} (inside : InLoop machine) :
    Clean narrowFlatBus looping.cpu Eq machine := by
  have code := codeAt_loop inside.arm inside.mem
  constructor
  · intro address member
    rw [code address]
    refine ⟨Option.some_ne_none _, ?_⟩
    rintro mem rfl
    exact code address
  · intro word found
    rw [inside.arm, if_neg Bool.false_ne_true]
    rw [code machine.pc, Option.some.injEq] at found
    rcases inside.pc with pc | pc
    · obtain rfl : 0xe2500001#32 = word := by
        rw [← found, pc]
        decide
      exact fun departs => Bool.false_ne_true departs.1
    · obtain rfl : 0xeafffffd#32 = word := by
        rw [← found, pc]
        decide
      exact fun departs => Bool.false_ne_true departs.1
  · obtain ⟨after, ran, stays⟩ := inLoop_step inside
    refine ⟨after, ran, fun _ _ address _ => ?_⟩
    rw [codeAt_loop stays.arm stays.mem, code]

theorem program_loops :
    let emulator := Runs.run (emulateRound flatBus (starletTraps flatBus flatPhysical) noUnits)
      looping (List.replicate 5 stillRound)
    ∃ machine,
      Reaches (machineStep narrowFlatBus looping.cpu) (Settles Eq) (armMachineOf looping.cpu 0x8000#32) 5
        machine ∧
      Agrees (looping.cpu.withQ machine.q) emulator.cpu machine.toProcessor ∧
      nextPc emulator.cpu emulator.pc = machine.pc ∧ running emulator.cpu = true := by
  have launched : Launched looping := ⟨by decide, ⟨rfl, rfl, rfl⟩, ⟨rfl, rfl, rfl⟩, rfl⟩
  have drifts : Drifts flatBus looping.cpu.mode Eq :=
    ⟨fun _ => rfl, fun _ _ _ first second => first.trans second, fun _ _ => rfl⟩
  refine program_runs narrowFlatBus flatPhysical noUnits launched drifts
    (List.replicate 5 stillRound) ?_ ?_
  · intro round member
    rw [List.eq_of_mem_replicate member]
    exact ⟨rfl, fun _ => rfl⟩
  · intro count machine _ reached
    refine inLoop_clean (reached.invariant ⟨rfl, rfl, Or.inl rfl⟩ ?_ ?_)
    · intro before after inside settled
      exact ⟨settled.thumb.trans inside.arm, settled.mem.symm.trans inside.mem, by
        rw [settled.pc]
        exact inside.pc⟩
    · intro before after inside ran
      obtain ⟨other, same, stays⟩ := inLoop_step inside
      obtain rfl : other = after := Option.some.inj (same.symm.trans ran)
      exact stays

end Runs

end SkyeyeStarlet
