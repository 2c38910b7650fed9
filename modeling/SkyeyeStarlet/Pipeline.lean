import SkyeyeStarlet.Flow
import SkyeyeStarlet.Library.Runs

/-!
The software pipeline against the memory it was filled from: whenever an instruction
is about to execute, the three words are the code at `pc` and behind it, register 15
is two instructions ahead, and `pc` is the successor of the instruction before.
-/

namespace SkyeyeStarlet

variable {Mem : Type} {W : Prop}

/-- The word a fetch of `address` gives now, at the current instruction size. -/
def codeAt (bus : Bus Mem) (cpu : ARMulState Mem) (address : ARMword) : Option ARMword :=
  (fetchWord bus cpu address (insnSize cpu)).2

structure PipelineHolds (bus : Bus Mem) (primed : Primed Mem) : Prop where
  instr : codeAt bus primed.cpu primed.pc = some primed.instr
  decoded : codeAt bus primed.cpu (primed.pc + insnSize primed.cpu) = some primed.decoded
  loaded : codeAt bus primed.cpu (primed.pc + insnSize primed.cpu * 2#32) = some primed.loaded
  ahead : primed.cpu.reg 15#4 = primed.pc + insnSize primed.cpu * 2#32

/-- `pc` goes on to the target that the instruction or exception has written to register
15, or, where it has not written the register, to the next instruction. -/
def Succeeds (bus : Bus Mem) (primed : Primed Mem) (next : Emulator Mem) : Prop :=
  ¬next.cpu.nextInstr < 4#8 ∧ (primePipe bus next).pc = next.cpu.reg 15#4 ∨
    Through primed.cpu next.cpu ∧ (primePipe bus next).pc = primed.pc + insnSize primed.cpu

def fetchStates (bus : Bus Mem) (emulator : Emulator Mem) : List (ARMulState Mem) :=
  let isize := insnSize emulator.cpu
  if emulator.cpu.nextInstr < 4#8 then
    [(armulReLoadInstr bus (stepPc emulator) (emulator.pc + isize + isize * 2#32) isize).1]
  else
    let pc := emulator.cpu.reg 15#4
    let first := (armulReLoadInstr bus (restartPc emulator.cpu) pc isize).1
    let second := (armulReLoadInstr bus first (pc + isize) isize).1
    [first, second, (armulReLoadInstr bus second (pc + isize * 2#32) isize).1]

def pipeAddresses (pc isize : ARMword) : List ARMword :=
  [pc, pc + isize, pc + isize * 2#32]

/-- No fetch of the round fails, and the code and mapping of a word stay as they are
while it is in the pipeline: across the fetches, and across the instruction for the
words that stay. -/
structure CodeSteady (bus : Bus Mem) (traps : Traps Mem) (cops : Coprocessors Mem)
    (emulator : Emulator Mem) (round : Round Mem) : Prop where
  fetches : ∀ address ∈ pipeAddresses (primePipe bus emulator).pc (insnSize emulator.cpu),
    codeAt bus emulator.cpu address ≠ none ∧
      ∀ state ∈ fetchStates bus emulator,
        codeAt bus state address = codeAt bus emulator.cpu address
  executes :
    let primed := primePipe bus emulator
    let next := emulateRound bus traps cops emulator round
    next.cpu.nextInstr < 4#8 →
      codeAt bus next.cpu (primed.pc + insnSize primed.cpu) =
          codeAt bus primed.cpu (primed.pc + insnSize primed.cpu) ∧
        codeAt bus next.cpu (primed.pc + insnSize primed.cpu * 2#32) =
          codeAt bus primed.cpu (primed.pc + insnSize primed.cpu * 2#32)

def RegularRound (bus : Bus Mem) (emulator : Emulator Mem) (round : Round Mem) : Prop :=
  let primed := primePipe bus emulator
  pendingException primed.cpu round = none →
    regularStep (primed.executing round) primed.pc primed.instr

theorem codeAt_congr {bus : Bus Mem} {first second : ARMulState Mem}
    (mode : second.mode = first.mode) (mem : second.mem = first.mem)
    (bigend : second.bigendSig = first.bigendSig) (thumb : second.tFlag = first.tFlag)
    (address : ARMword) : codeAt bus second address = codeAt bus first address := by
  unfold codeAt fetchWord insnSize
  rw [mode, mem, bigend, thumb]

theorem reload_of_code {bus : Bus Mem} {state : ARMulState Mem} {address word isize : ARMword}
    (size : isize = insnSize state) (code : codeAt bus state address = some word) :
    (armulReLoadInstr bus state address isize).2 = word ∧
      Steady state (armulReLoadInstr bus state address isize).1 := by
  subst size
  unfold codeAt at code
  unfold armulReLoadInstr
  cases fetched : fetchWord bus state address (insnSize state) with
  | mk mem result =>
      rw [fetched] at code
      cases code
      exact ⟨rfl, rfl, Or.inl rfl⟩

/-- The pipeline between two rounds, where it is not to be filled again. -/
structure PipeReady (bus : Bus Mem) (emulator : Emulator Mem) : Prop where
  ahead : emulator.cpu.reg 15#4 = emulator.pc + insnSize emulator.cpu * 2#32 +
    if emulator.cpu.nextInstr.getLsbD 1 then insnSize emulator.cpu else 0#32
  decoded : codeAt bus emulator.cpu (emulator.pc + insnSize emulator.cpu) = some emulator.decoded
  loaded :
    codeAt bus emulator.cpu (emulator.pc + insnSize emulator.cpu * 2#32) = some emulator.loaded

def PipeInv (bus : Bus Mem) (emulator : Emulator Mem) : Prop :=
  running emulator.cpu = true → emulator.cpu.core.isV4 = true ∧
    (emulator.cpu.nextInstr < 4#8 → PipeReady bus emulator)

structure PrimedFrom (before after : ARMulState Mem) : Prop where
  core : after.core = before.core
  thumb : after.tFlag = before.tFlag
  mode : after.mode = before.mode
  emulate : after.emulate = before.emulate
  ready : after.nextInstr = 0#8

theorem PrimedFrom.isize {before after : ARMulState Mem} (primed : PrimedFrom before after) :
    insnSize after = insnSize before := by
  simp only [insnSize, primed.thumb]

theorem PrimedFrom.running {before after : ARMulState Mem} (primed : PrimedFrom before after) :
    running after = running before := by
  have prog32 := congrArg Core.prog32Sig primed.core
  simp only [ARMulState.core] at prog32
  simp only [SkyeyeStarlet.running, primed.emulate, primed.mode, prog32]

theorem codeAt_primed {bus : Bus Mem} (state : ARMulState Mem) (address : ARMword) :
    codeAt bus { state with nextInstr := 0#8 } address = codeAt bus state address := by
  exact codeAt_congr rfl rfl rfl rfl address

theorem stepPc_pc (emulator : Emulator Mem) :
    (stepPc emulator).reg 15#4 = emulator.cpu.reg 15#4 +
      if emulator.cpu.nextInstr.getLsbD 1 then 0#32 else insnSize emulator.cpu := by
  unfold stepPc
  split
  · exact (BitVec.add_zero _).symm
  · exact setReg_reg_self _ _ _

theorem stepPc_primedFrom (emulator : Emulator Mem) {fetched : ARMulState Mem}
    (steady : Steady (stepPc emulator) fetched) :
    PrimedFrom emulator.cpu { fetched with nextInstr := 0#8 } := by
  have stepped : (stepPc emulator).core = emulator.cpu.core ∧
      (stepPc emulator).tFlag = emulator.cpu.tFlag ∧
      (stepPc emulator).mode = emulator.cpu.mode ∧
      (stepPc emulator).emulate = emulator.cpu.emulate := by
    unfold stepPc
    split <;> exact ⟨rfl, rfl, rfl, rfl⟩
  obtain ⟨core, thumb, mode, emulate⟩ := stepped
  exact ⟨steady.core.trans core, steady.thumb.trans thumb, steady.mode.trans mode,
    steady.emulate.trans emulate, rfl⟩

theorem codeAt_stepPc (bus : Bus Mem) (emulator : Emulator Mem) (address : ARMword) :
    codeAt bus (stepPc emulator) address = codeAt bus emulator.cpu address := by
  unfold stepPc
  split
  · rfl
  · exact codeAt_congr rfl rfl rfl rfl address

theorem insnSize_stepPc (emulator : Emulator Mem) :
    insnSize (stepPc emulator) = insnSize emulator.cpu := by
  unfold stepPc
  split <;> rfl

theorem next_behind (pc isize : ARMword) : pc + isize + isize = pc + isize * 2#32 := by
  bv_omega

theorem primePipe_advance {bus : Bus Mem} {emulator : Emulator Mem}
    (sequential : emulator.cpu.nextInstr < 4#8) :
    primePipe bus emulator = advancePipe bus emulator := by
  exact if_pos sequential

theorem primePipe_refill {bus : Bus Mem} {emulator : Emulator Mem}
    (flush : ¬emulator.cpu.nextInstr < 4#8) :
    primePipe bus emulator = refillPipe bus emulator := by
  exact if_neg flush

theorem advancePipe_holds {bus : Bus Mem} {emulator : Emulator Mem}
    (ready : PipeReady bus emulator)
    (fetches : ∀ address ∈ pipeAddresses (emulator.pc + insnSize emulator.cpu)
        (insnSize emulator.cpu),
      codeAt bus emulator.cpu address ≠ none ∧
        codeAt bus (advancePipe bus emulator).cpu address = codeAt bus emulator.cpu address) :
    PipelineHolds bus (advancePipe bus emulator) ∧
      PrimedFrom emulator.cpu (advancePipe bus emulator).cpu := by
  obtain ⟨atPc, steadyPc⟩ := fetches _ (List.mem_cons_self)
  obtain ⟨atNext, steadyNext⟩ := fetches _ (List.mem_cons_of_mem _ List.mem_cons_self)
  obtain ⟨atLast, steadyLast⟩ := fetches _
    (List.mem_cons_of_mem _ (List.mem_cons_of_mem _ List.mem_cons_self))
  obtain ⟨word, found⟩ := Option.ne_none_iff_exists'.mp atLast
  have reload := reload_of_code (insnSize_stepPc emulator).symm
    ((codeAt_stepPc bus emulator _).trans found)
  have primed := stepPc_primedFrom emulator reload.2
  have isize : insnSize (advancePipe bus emulator).cpu = insnSize emulator.cpu := primed.isize
  refine ⟨⟨?_, ?_, ?_, ?_⟩, primed⟩
  · exact steadyPc.trans ready.decoded
  · rw [isize]
    refine steadyNext.trans ?_
    rw [next_behind]
    exact ready.loaded
  · rw [isize]
    refine steadyLast.trans (found.trans ?_)
    exact congrArg some reload.1.symm
  · rw [isize]
    refine Eq.trans reload.2.pc ?_
    rw [stepPc_pc, ready.ahead]
    show _ = emulator.pc + insnSize emulator.cpu + insnSize emulator.cpu * 2#32
    split <;> bv_omega

theorem refillPipe_holds {bus : Bus Mem} {emulator : Emulator Mem}
    (fetches : ∀ address ∈ pipeAddresses (emulator.cpu.reg 15#4) (insnSize emulator.cpu),
      codeAt bus emulator.cpu address ≠ none ∧
        let isize := insnSize emulator.cpu
        let pc := emulator.cpu.reg 15#4
        let first := (armulReLoadInstr bus (restartPc emulator.cpu) pc isize).1
        let second := (armulReLoadInstr bus first (pc + isize) isize).1
        codeAt bus first address = codeAt bus emulator.cpu address ∧
          codeAt bus second address = codeAt bus emulator.cpu address ∧
          codeAt bus (refillPipe bus emulator).cpu address = codeAt bus emulator.cpu address) :
    PipelineHolds bus (refillPipe bus emulator) ∧
      PrimedFrom emulator.cpu (refillPipe bus emulator).cpu := by
  obtain ⟨atPc, _, _, steadyPc⟩ := fetches _ (List.mem_cons_self)
  obtain ⟨atNext, firstNext, _, steadyNext⟩ :=
    fetches _ (List.mem_cons_of_mem _ List.mem_cons_self)
  obtain ⟨atLast, _, secondLast, steadyLast⟩ := fetches _
    (List.mem_cons_of_mem _ (List.mem_cons_of_mem _ List.mem_cons_self))
  obtain ⟨instr, foundPc⟩ := Option.ne_none_iff_exists'.mp atPc
  obtain ⟨decoded, foundNext⟩ := Option.ne_none_iff_exists'.mp atNext
  obtain ⟨loaded, foundLast⟩ := Option.ne_none_iff_exists'.mp atLast
  have restarted : codeAt bus (restartPc emulator.cpu) (emulator.cpu.reg 15#4) = some instr :=
    (codeAt_congr rfl rfl rfl rfl _).trans foundPc
  have first := reload_of_code (show insnSize emulator.cpu = insnSize (restartPc emulator.cpu)
    from rfl) restarted
  have second := reload_of_code
    (show insnSize emulator.cpu = _ from first.2.isize.symm) (firstNext.trans foundNext)
  have isizes := second.2.isize.trans first.2.isize
  have third := reload_of_code
    (show insnSize emulator.cpu = _ from isizes.symm) (secondLast.trans foundLast)
  have fetched := (first.2.trans second.2).trans third.2
  have primed : PrimedFrom emulator.cpu (refillPipe bus emulator).cpu :=
    ⟨fetched.core, fetched.thumb, fetched.mode, fetched.emulate, rfl⟩
  have isize : insnSize (refillPipe bus emulator).cpu = insnSize emulator.cpu := primed.isize
  refine ⟨⟨?_, ?_, ?_, ?_⟩, primed⟩
  · exact steadyPc.trans (foundPc.trans (congrArg some first.1.symm))
  · rw [isize]
    exact steadyNext.trans (foundNext.trans (congrArg some second.1.symm))
  · rw [isize]
    exact steadyLast.trans (foundLast.trans (congrArg some third.1.symm))
  · rw [isize]
    exact Eq.trans fetched.pc (setReg_reg_self emulator.cpu 15#4 _)

theorem primePipe_fetched {bus : Bus Mem} {emulator : Emulator Mem}
    (ready : emulator.cpu.nextInstr < 4#8 → PipeReady bus emulator)
    (fetches :
      ∀ address ∈ pipeAddresses (primePipe bus emulator).pc (insnSize emulator.cpu),
        codeAt bus emulator.cpu address ≠ none ∧
          ∀ state ∈ fetchStates bus emulator,
            codeAt bus state address = codeAt bus emulator.cpu address) :
    PipelineHolds bus (primePipe bus emulator) ∧
      PrimedFrom emulator.cpu (primePipe bus emulator).cpu := by
  by_cases sequential : emulator.cpu.nextInstr < 4#8
  · rw [primePipe_advance sequential] at fetches ⊢
    refine advancePipe_holds (ready sequential) ?_
    intro address member
    obtain ⟨code, kept⟩ := fetches address member
    simp only [fetchStates, if_pos sequential] at kept
    exact ⟨code, (codeAt_primed _ address).trans (kept _ List.mem_cons_self)⟩
  · rw [primePipe_refill sequential] at fetches ⊢
    refine refillPipe_holds ?_
    intro address member
    obtain ⟨code, kept⟩ := fetches address member
    simp only [fetchStates, if_neg sequential] at kept
    refine ⟨code, kept _ List.mem_cons_self, kept _ (List.mem_cons_of_mem _ List.mem_cons_self),
      (codeAt_primed _ address).trans (kept _ ?_)⟩
    exact List.mem_cons_of_mem _ (List.mem_cons_of_mem _ List.mem_cons_self)

theorem primePipe_holds {bus : Bus Mem} {traps : Traps Mem} {cops : Coprocessors Mem}
    {emulator : Emulator Mem} {round : Round Mem}
    (ready : emulator.cpu.nextInstr < 4#8 → PipeReady bus emulator)
    (steady : CodeSteady bus traps cops emulator round) :
    PipelineHolds bus (primePipe bus emulator) ∧
      PrimedFrom emulator.cpu (primePipe bus emulator).cpu := by
  exact primePipe_fetched ready steady.fetches

theorem armulReLoadInstr_aborted (bus : Bus Mem) (state : ARMulState Mem)
    (address isize : ARMword) :
    (armulReLoadInstr bus state address isize).1.aborted = state.aborted := by
  unfold armulReLoadInstr
  split
  · rfl
  · unfold prefetchAbort
    split <;> rfl

theorem primePipe_aborted (bus : Bus Mem) {emulator : Emulator Mem}
    (clear : emulator.cpu.nextInstr < 4#8 → emulator.cpu.aborted = 0#32) :
    (primePipe bus emulator).cpu.aborted = 0#32 := by
  unfold primePipe
  split
  · rename_i sequential
    have stepped : (stepPc emulator).aborted = 0#32 := by
      unfold stepPc
      split <;> exact clear sequential
    simp only [advancePipe, armulReLoadInstr_aborted]
    exact stepped
  · simp only [refillPipe, armulReLoadInstr_aborted]
    rfl

theorem round_outcome {bus : Bus Mem} {traps : Traps Mem} {cops : Coprocessors Mem}
    (trapsRead : TrapsReadOnly traps) {emulator : Emulator Mem} {round : Round Mem}
    (runs : running emulator.cpu = true) (isV4 : emulator.cpu.core.isV4 = true)
    (primed : PrimedFrom emulator.cpu (primePipe bus emulator).cpu)
    (aligned : W → (primePipe bus emulator).cpu.tFlag = false →
      alignPc false (primePipe bus emulator).pc = (primePipe bus emulator).pc)
    (regular : RegularRound bus emulator round) :
    Outcome W (primePipe bus emulator).cpu (emulateRound bus traps cops emulator round).cpu := by
  have runs' := primed.running.trans runs
  simp only [running, Bool.and_eq_true] at runs'
  have isV4' : (primePipe bus emulator).cpu.core.isV4 = true := by
    rw [primed.core]
    exact isV4
  unfold emulateRound
  rw [if_pos runs]
  unfold finishRound
  cases pending : pendingException (primePipe bus emulator).cpu round with
  | some vector =>
      have entered : Outcome W (primePipe bus emulator).cpu
          (armulAbort bus.highVectors (primePipe bus emulator).cpu vector) :=
        (jumps_abort _ runs'.1.2 vector).outcome rfl
      dsimp only
      unfold reenter
      split
      · exact entered
      · exact entered
  | none =>
      have stored := steady_mem (primePipe bus emulator).cpu
        (round.ioDoCycle (primePipe bus emulator).cpu.mem)
      refine Outcome.after_steady stored ?_
      apply outcome_execute trapsRead
      · exact primed.ready
      · exact isV4'
      · exact runs'.1.2
      · exact runs'.2
      · exact aligned
      · exact regular pending

theorem round_locals {bus : Bus Mem} {traps : Traps Mem} {cops : Coprocessors Mem}
    {emulator : Emulator Mem} {round : Round Mem} (runs : running emulator.cpu = true)
    (sequential : (emulateRound bus traps cops emulator round).cpu.nextInstr < 4#8) :
    let next := emulateRound bus traps cops emulator round
    next.pc = (primePipe bus emulator).pc ∧ next.decoded = (primePipe bus emulator).decoded ∧
      next.loaded = (primePipe bus emulator).loaded := by
  unfold emulateRound at sequential ⊢
  rw [if_pos runs] at sequential ⊢
  unfold finishRound at sequential ⊢
  cases pending : pendingException (primePipe bus emulator).cpu round with
  | some vector =>
      rw [pending] at sequential
      dsimp only at sequential ⊢
      have cpu (other : Emulator Mem) : (reenter other).cpu = other.cpu := by
        unfold reenter
        split <;> rfl
      rw [cpu] at sequential
      unfold reenter
      rw [if_pos sequential]
      exact ⟨rfl, rfl, rfl⟩
  | none => exact ⟨rfl, rfl, rfl⟩

theorem PipelineHolds.pipeReady {bus : Bus Mem} {primed : Primed Mem} {next : Emulator Mem}
    (holds : PipelineHolds bus primed) (through : Through primed.cpu next.cpu)
    (pc : next.pc = primed.pc) (decoded : next.decoded = primed.decoded)
    (loaded : next.loaded = primed.loaded)
    (keptNext : codeAt bus next.cpu (primed.pc + insnSize primed.cpu) =
      codeAt bus primed.cpu (primed.pc + insnSize primed.cpu))
    (keptLast : codeAt bus next.cpu (primed.pc + insnSize primed.cpu * 2#32) =
      codeAt bus primed.cpu (primed.pc + insnSize primed.cpu * 2#32)) :
    PipeReady bus next := by
  have isize : insnSize next.cpu = insnSize primed.cpu := by
    simp only [insnSize, through.thumb]
  refine ⟨?_, ?_, ?_⟩
  · rw [through.pc, holds.ahead, pc, isize]
  · rw [pc, isize, decoded]
    exact keptNext.trans holds.decoded
  · rw [pc, isize, loaded]
    exact keptLast.trans holds.loaded

section Runs

variable {bus : Bus Mem} {traps : Traps Mem} {cops : Coprocessors Mem} {emulator : Emulator Mem}
  {round : Round Mem}

def SoundRound (bus : Bus Mem) (traps : Traps Mem) (cops : Coprocessors Mem)
    (emulator : Emulator Mem) (round : Round Mem) : Prop :=
  running emulator.cpu = true →
    CodeSteady bus traps cops emulator round ∧ RegularRound bus emulator round

theorem sound_outcome (trapsRead : TrapsReadOnly traps) (inv : PipeInv bus emulator)
    (runs : running emulator.cpu = true) (sound : SoundRound bus traps cops emulator round) :
    PipelineHolds bus (primePipe bus emulator) ∧
      PrimedFrom emulator.cpu (primePipe bus emulator).cpu ∧
      Outcome False (primePipe bus emulator).cpu
        (emulateRound bus traps cops emulator round).cpu := by
  obtain ⟨isV4, ready⟩ := inv runs
  obtain ⟨steady, regular⟩ := sound runs
  obtain ⟨holds, primed⟩ := primePipe_holds ready steady
  exact ⟨holds, primed, round_outcome trapsRead runs isV4 primed False.elim regular⟩

theorem pipeInv_round (trapsRead : TrapsReadOnly traps) (inv : PipeInv bus emulator)
    (sound : SoundRound bus traps cops emulator round) :
    PipeInv bus (emulateRound bus traps cops emulator round) := by
  by_cases runs : running emulator.cpu = true
  · intro runs'
    obtain ⟨holds, primed, outcome⟩ := sound_outcome trapsRead inv runs sound
    have isV4 := (inv runs).1
    refine ⟨by rw [outcome.core, primed.core]; exact isV4, ?_⟩
    intro sequential
    obtain ⟨pc, decoded, loaded⟩ := round_locals runs sequential
    rcases outcome.flow with stopped | redirected | through
    · exact absurd (runs'.symm.trans stopped) (by decide)
    · exact absurd sequential redirected.flush
    · obtain ⟨keptNext, keptLast⟩ := (sound runs).1.executes sequential
      exact holds.pipeReady through pc decoded loaded keptNext keptLast
  · unfold emulateRound
    rw [if_neg runs]
    exact inv

theorem round_succeeds (trapsRead : TrapsReadOnly traps) (inv : PipeInv bus emulator)
    (runs : running emulator.cpu = true) (sound : SoundRound bus traps cops emulator round)
    (runs' : running (emulateRound bus traps cops emulator round).cpu = true) :
    Succeeds bus (primePipe bus emulator) (emulateRound bus traps cops emulator round) := by
  obtain ⟨_, _, outcome⟩ := sound_outcome trapsRead inv runs sound
  rcases outcome.flow with stopped | redirected | through
  · exact absurd (runs'.symm.trans stopped) (by decide)
  · refine Or.inl ⟨redirected.flush, ?_⟩
    rw [primePipe_refill redirected.flush]
    rfl
  · refine Or.inr ⟨through, ?_⟩
    obtain ⟨pc, _, _⟩ := round_locals runs through.sequential
    rw [primePipe_advance through.sequential]
    show (emulateRound bus traps cops emulator round).pc +
      insnSize (emulateRound bus traps cops emulator round).cpu = _
    rw [pc]
    simp only [insnSize, through.thumb]

/-- In a run from a filled pipeline, over steady code and regular instructions, the
pipeline cannot be told from fetching each instruction as it is executed. -/
theorem pipeline_transparent (bus : Bus Mem) (traps : Traps Mem) (cops : Coprocessors Mem)
    (trapsRead : TrapsReadOnly traps) (start : Emulator Mem) (isV4 : start.cpu.isV4 = true)
    (refill : ¬start.cpu.nextInstr < 4#8) (rounds : List (Round Mem)) (round : Round Mem)
    (sound : Runs.AllSteps (emulateRound bus traps cops) (SoundRound bus traps cops) start
      (rounds ++ [round])) :
    let emulator := Runs.run (emulateRound bus traps cops) start rounds
    let next := emulateRound bus traps cops emulator round
    running emulator.cpu = true →
      PipelineHolds bus (primePipe bus emulator) ∧
        (running next.cpu = true → Succeeds bus (primePipe bus emulator) next) := by
  obtain ⟨earlier, last, _⟩ := (Runs.allSteps_append _ _ _ _ _).mp sound
  have started : PipeInv bus start := by
    intro _
    exact ⟨isV4, fun sequential => absurd sequential refill⟩
  have inv := Runs.run_invariant_of_allowed (emulateRound bus traps cops) (PipeInv bus)
    (SoundRound bus traps cops) (fun _ _ => pipeInv_round trapsRead) start started rounds earlier
  intro emulator next runs
  obtain ⟨holds, _, _⟩ := sound_outcome trapsRead inv runs last
  exact ⟨holds, round_succeeds trapsRead inv runs last⟩

def constantBus (word : ARMword) : Bus Unit :=
  { read := fun _ _ _ mem => ⟨mem, .noFault, word⟩
    write := fun _ _ _ _ mem => ⟨mem, .noFault⟩
    fetch := fun _ _ mem => ⟨mem, .noFault, word⟩
    recordFault := fun _ _ mem => mem
    highVectors := fun _ => false }

def quietTraps : Traps Unit :=
  { undfTrap := fun state _ => (state, false) }

def noCoprocessors : Coprocessors Unit :=
  { mrc := fun _ mem => (.cant mem, 0#32)
    mcr := fun _ _ mem => .cant mem
    cdp := fun _ mem => .cant mem
    transfer := fun _ mem => .cant mem
    words := fun _ => 0
    load := fun _ _ mem => mem
    store := fun _ mem => (mem, 0#32) }

def resumedCpu : ARMulState Unit :=
  { file := { reg := fun _ => 0#32, regBank := fun _ _ => 0#32, bank := .svcbank }
    flags :=
      { nFlag := false, zFlag := false, cFlag := false, vFlag := false, sFlag := false
        tFlag := false, ifFlags := 0#2 }
    cpsr := 0x13#32
    spsr := fun _ => 0#32
    mode := svc32mode
    nextInstr := 8#8
    emulate := .run
    abortSig := false
    ntransSig := true
    bigendSig := true
    prog32Sig := true
    lateabtSig := true
    aborted := 0#32
    abortAddr := 1#32
    isV4 := true
    isV5 := true
    isV5e := false
    isXScale := false
    mem := () }

def resumed : Emulator Unit :=
  { cpu := resumedCpu, pc := 0#32, decoded := 0#32, loaded := 0#32 }

def quietRound : Round Unit :=
  { nresetSig := true, nfiqSig := true, nirqSig := true, ioDoCycle := id }

theorem quietTraps_readOnly : TrapsReadOnly quietTraps := by
  exact ⟨fun state _ => Steady.refl state⟩

theorem codeAt_constant (word : ARMword) (cpu : ARMulState Unit) (address : ARMword) :
    codeAt (constantBus word) cpu address =
      if insnSize cpu = 2#32 ∧ address.getLsbD 1 = true then
        some (if cpu.bigendSig then (word <<< 16) ||| (word >>> 16)
          else ((word &&& 0xffff#32) <<< 16) ||| (word >>> 16))
      else some word := by
  show (fetchWord (constantBus word) cpu address (insnSize cpu)).2 = _
  unfold fetchWord
  dsimp only [constantBus]
  rw [if_pos rfl]
  split
  · rw [if_pos rfl]
  · rfl

theorem constant_reload (word : ARMword) (cpu : ARMulState Unit) (address : ARMword)
    {isize : ARMword} (size : isize = insnSize cpu) :
    Steady cpu (armulReLoadInstr (constantBus word) cpu address isize).1 := by
  have code : ∃ found, codeAt (constantBus word) cpu address = some found := by
    rw [codeAt_constant]
    split
    · exact ⟨_, rfl⟩
    · exact ⟨_, rfl⟩
  obtain ⟨found, code⟩ := code
  exact (reload_of_code size code).2

theorem constant_steady {first second : ARMulState Unit} (word : ARMword)
    (steady : Steady first second) (address : ARMword) :
    codeAt (constantBus word) second address = codeAt (constantBus word) first address := by
  have bigend := congrArg Core.bigendSig steady.core
  simp only [ARMulState.core] at bigend
  rw [codeAt_constant, codeAt_constant, steady.isize, bigend]

theorem constant_fetches (word : ARMword) (emulator : Emulator Unit) (address : ARMword) :
    codeAt (constantBus word) emulator.cpu address ≠ none ∧
      ∀ state ∈ fetchStates (constantBus word) emulator,
        codeAt (constantBus word) state address =
          codeAt (constantBus word) emulator.cpu address := by
  refine ⟨?_, ?_⟩
  · rw [codeAt_constant]
    split <;> exact Option.some_ne_none _
  · intro state member
    unfold fetchStates at member
    dsimp only at member
    split at member
    · have moved := constant_reload word (stepPc emulator)
        (emulator.pc + insnSize emulator.cpu + insnSize emulator.cpu * 2#32)
        (insnSize_stepPc emulator).symm
      cases List.mem_singleton.mp member
      exact (constant_steady word moved address).trans (codeAt_stepPc _ emulator address)
    · have restarted : codeAt (constantBus word) (restartPc emulator.cpu) address =
          codeAt (constantBus word) emulator.cpu address := codeAt_congr rfl rfl rfl rfl address
      have first := constant_reload word (restartPc emulator.cpu) (emulator.cpu.reg 15#4)
        (show insnSize emulator.cpu = insnSize (restartPc emulator.cpu) from rfl)
      have second := first.trans (constant_reload word _
        (emulator.cpu.reg 15#4 + insnSize emulator.cpu) first.isize.symm)
      have third := second.trans (constant_reload word _
        (emulator.cpu.reg 15#4 + insnSize emulator.cpu * 2#32) second.isize.symm)
      simp only [List.mem_cons, List.not_mem_nil, or_false] at member
      rcases member with rfl | rfl | rfl
      · exact (constant_steady word first address).trans restarted
      · exact (constant_steady word second address).trans restarted
      · exact (constant_steady word third address).trans restarted

theorem pipeline_broken_msr :
    let bus := constantBus 0xe321f033#32
    let step := emulateRound bus quietTraps noCoprocessors
    Runs.AllSteps step (CodeSteady bus quietTraps noCoprocessors) resumed
        [quietRound, quietRound] ∧
      running (Runs.run step resumed [quietRound]).cpu = true ∧
      ¬PipelineHolds bus (primePipe bus (Runs.run step resumed [quietRound])) := by
  intro bus step
  refine ⟨⟨⟨fun address _ => constant_fetches _ _ address, ?_⟩,
    ⟨fun address _ => constant_fetches _ _ address, ?_⟩, trivial⟩, ?_, ?_⟩
  · intro primed next _
    have low (state : ARMulState Unit) (address : ARMword) (even : address.getLsbD 1 = false) :
        codeAt bus state address = some 0xe321f033#32 := by
      rw [codeAt_constant, if_neg (by rw [even]; simp)]
    have pc : primed.pc = 0#32 := rfl
    have isize : insnSize primed.cpu = 4#32 := by decide +kernel
    rw [pc, isize]
    exact ⟨(low _ _ rfl).trans (low _ _ rfl).symm, (low _ _ rfl).trans (low _ _ rfl).symm⟩
  · intro primed next sequential
    exact absurd sequential (by decide +kernel)
  · decide +kernel
  · intro holds
    exact absurd holds.ahead (by decide +kernel)

theorem nop_regular (state : ARMulState Unit) (arm : state.tFlag = false) (pc : ARMword) :
    regularStep state pc 0xe1a00000#32 := by
  unfold regularStep
  rw [if_neg (by rw [arm]; decide)]
  unfold regularArm
  rw [if_neg (by decide)]
  intro _
  unfold regularSwitch
  rw [show transferOf 0xe1a00000#32 = none by decide]
  show regularData state 0xe1a00000#32
  unfold regularData
  rw [if_neg (by decide), if_neg (by decide)]
  trivial

theorem pipeline_transparent_nop :
    PipelineHolds (constantBus 0xe1a00000#32)
      (primePipe (constantBus 0xe1a00000#32)
        (Runs.run (emulateRound (constantBus 0xe1a00000#32) quietTraps noCoprocessors) resumed
          [quietRound])) := by
  have low (state : ARMulState Unit) (arm : insnSize state = 4#32) (address : ARMword) :
      codeAt (constantBus 0xe1a00000#32) state address = some 0xe1a00000#32 := by
    rw [codeAt_constant, if_neg (by rw [arm]; simp)]
  have sound (emulator : Emulator Unit)
      (reached : emulator = resumed ∨
        emulator = emulateRound (constantBus 0xe1a00000#32) quietTraps noCoprocessors resumed
          quietRound) :
      SoundRound (constantBus 0xe1a00000#32) quietTraps noCoprocessors emulator quietRound := by
    have arm : insnSize (primePipe (constantBus 0xe1a00000#32) emulator).cpu = 4#32 := by
      rcases reached with rfl | rfl <;> decide +kernel
    have next : insnSize (emulateRound (constantBus 0xe1a00000#32) quietTraps noCoprocessors
        emulator quietRound).cpu = 4#32 := by
      rcases reached with rfl | rfl <;> decide +kernel
    have instr : (primePipe (constantBus 0xe1a00000#32) emulator).instr = 0xe1a00000#32 := by
      rcases reached with rfl | rfl <;> decide +kernel
    have flag : (primePipe (constantBus 0xe1a00000#32) emulator).cpu.tFlag = false := by
      rcases reached with rfl | rfl <;> decide +kernel
    intro _
    refine ⟨⟨fun address _ => constant_fetches _ _ address, ?_⟩, ?_⟩
    · intro primed after _
      exact ⟨(low _ next _).trans (low _ arm _).symm, (low _ next _).trans (low _ arm _).symm⟩
    · intro _
      rw [instr]
      exact nop_regular _ flag _
  exact (pipeline_transparent (constantBus 0xe1a00000#32) quietTraps noCoprocessors
    quietTraps_readOnly resumed rfl (by decide) [quietRound] quietRound
    ⟨sound _ (Or.inl rfl), sound _ (Or.inr rfl), trivial⟩ (by decide +kernel)).1

end Runs

end SkyeyeStarlet
