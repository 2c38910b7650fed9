import SkyeyeStarlet.AbortTaken
import SkyeyeStarlet.Pipeline
import SkyeyeStarlet.StateCore

/-!
Stale abort flags.  Where the flag is clear, a load or store takes a data abort exactly when
one of its own accesses faults, but for the store of a word swap; and only a semihosting
call that reads memory in vain leaves the flag set behind it.
-/

namespace SkyeyeStarlet

variable {Mem : Type}

/-- A load or store of the instruction takes a data abort exactly when one of its own accesses
faults. -/
def AbortsExactly (bus : Bus Mem) (cops : Coprocessors Mem) (state : ARMulState Mem)
    (pc instr : ARMword) : Prop :=
  ∀ word attempt, switchedWord state pc instr = some word →
    attemptOf bus cops state word = some attempt → attempt.taken = attempt.faults bus

/-- A semihosting call reads memory that it may read, and no word swap has a store that faults
where its load does not. -/
structure KeepsFlag (bus : Bus Mem) (state : ARMulState Mem) (pc instr : ARMword) : Prop where
  calls : callsSemihosting state pc instr = true →
    (semihostingAccesses bus state).any (Access.faults bus) = false
  swaps : ∀ word, switchedWord state pc instr = some word → transferOf word = some .swapWord →
    (swapWrite bus .word state word).faults bus = true →
      (swapRead .word state word).faults bus = true

/-- What is asked of the instruction of a round, in a round that executes one. -/
def Executing (bus : Bus Mem) (asked : ARMulState Mem → ARMword → ARMword → Prop)
    (emulator : Emulator Mem) (round : Round Mem) : Prop :=
  running emulator.cpu = true →
    let primed := primePipe bus emulator
    pendingException primed.cpu round = none →
      asked (primed.executing round) primed.pc primed.instr

section Exact

variable (bus : Bus Mem) {state : ARMulState Mem} (clear : state.aborted = 0#32)

include clear in
theorem readAttempt_exact (size : AccessSize) (address : ARMword) :
    (readAttempt bus size state address).taken =
      (readAttempt bus size state address).faults bus := by
  simp only [Attempt.taken, Attempt.faults, readAttempt, armulRead_aborted, clear,
    Bool.false_and, Bool.false_or, List.any_cons, List.any_nil, Bool.or_false]
  split <;> simp [*]

include clear in
theorem writeAttempt_exact (size : AccessSize) (address word : ARMword) :
    (writeAttempt bus size state address word).taken =
      (writeAttempt bus size state address word).faults bus := by
  simp only [Attempt.taken, Attempt.faults, writeAttempt, armulWrite_aborted, clear,
    Bool.false_and, Bool.false_or, List.any_cons, List.any_nil, Bool.or_false]
  split <;> simp [*]

include clear in
theorem indexedAttempt_exact (offset : ARMulState Mem → ARMword → ARMword) (size : AccessSize)
    (instr : ARMword) :
    (indexedAttempt bus offset size state instr).taken =
      (indexedAttempt bus offset size state instr).faults bus := by
  simp only [indexedAttempt]
  split
  · exact readAttempt_exact bus ((bususedincpcs_aborted state).trans clear) size _
  · exact writeAttempt_exact bus ((bususedincpcn_aborted state).trans clear) size _ _

include clear in
theorem loadDoubleAttempt_exact {instr : ARMword} {attempt : Attempt Mem}
    (attempts : loadDoubleAttempt bus state instr = some attempt) :
    attempt.taken = attempt.faults bus := by
  simp only [loadDoubleAttempt] at attempts
  split at attempts
  · cases attempts
    simp only [Attempt.taken, Attempt.faults, armulRead_aborted, bususedincpcs_aborted, clear,
      Bool.false_and, Bool.false_or, List.any_cons, List.any_nil, Bool.or_false]
    split
    · simp [*]
    · split <;> simp [*]
  · cases attempts

include clear in
theorem storeDoubleAttempt_exact {instr : ARMword} {attempt : Attempt Mem}
    (attempts : storeDoubleAttempt bus state instr = some attempt) :
    attempt.taken = attempt.faults bus := by
  simp only [storeDoubleAttempt] at attempts
  split at attempts
  · cases attempts
    simp only [Attempt.taken, Attempt.faults, armulWrite_aborted, bususedincpcs_aborted, clear,
      Bool.false_and, Bool.false_or, List.any_cons, List.any_nil, Bool.or_false]
    split
    · simp [*]
    · split <;> simp [*]
  · cases attempts

theorem swapWord_taken {instr : ARMword} (clear : state.aborted = 0#32) :
    (swapAttempt bus .word state instr (armulSwapWord bus)).taken =
      (swapRead .word state instr).faults bus := by
  simp only [Attempt.taken, swapAttempt, armulSwapWord, putWord, armulRead_aborted,
    armulRead_abortSig, bususedincpcs_aborted, clear, Bool.true_and]
  change ((swapRead .word state instr).faults bus ||
    (if (swapRead .word state instr).faults bus then 16#32 else 0#32) != 0#32) = _
  cases (swapRead .word state instr).faults bus <;> rfl

theorem swapByte_taken {instr : ARMword} (clear : state.aborted = 0#32) :
    let attempt := swapAttempt bus .byte state instr (armulSwapByte bus)
    attempt.taken = attempt.faults bus := by
  intro attempt
  have tested : attempt.taken = ((swapWrite bus .byte state instr).faults bus ||
      (if (swapWrite bus .byte state instr).faults bus then 16#32
        else if (swapRead .byte state instr).faults bus then 16#32 else 0#32) != 0#32) := by
    simp only [attempt, Attempt.taken, swapAttempt, armulSwapByte, armulWrite_aborted,
      armulWrite_abortSig, armulRead_aborted, bususedincpcs_aborted, clear, Bool.true_and]
    rfl
  rw [tested]
  change _ = ((swapRead .byte state instr).faults bus ||
    ((swapWrite bus .byte state instr).faults bus || false))
  cases (swapWrite bus .byte state instr).faults bus <;>
    cases (swapRead .byte state instr).faults bus <;> rfl

end Exact

section Blocks

variable {bus : Bus Mem} {instr : ARMword}
  {first transfer : ARMulState Mem → Nat → ARMword → ARMulState Mem}

def RaisesExactly (bus : Bus Mem) (instr : ARMword)
    (transfer : ARMulState Mem → Nat → ARMword → ARMulState Mem) : Prop :=
  ∀ step : BlockStep Mem, step.state.aborted = 0#32 →
    ((transfer step.state step.index step.address).aborted != 0#32) =
      (blockAccess instr step).faults bus

theorem loadListed_exact (loads : instr.getLsbD 20 = true) (sticky : Bool) :
    RaisesExactly bus instr (loadListed bus sticky) := by
  intro step clear
  have same : blockAccess instr step =
      { state := step.state, size := .word, address := step.address, data := none } := by
    simp [blockAccess, loads]
  have aborted := armulRead_aborted bus .word step.state step.address
  have signal := armulRead_abortSig bus .word step.state step.address
  rw [← same] at aborted signal
  unfold loadListed
  cases fault : (blockAccess instr step).faults bus with
  | false => simp [aborted, signal, fault, clear]
  | true => simp [aborted, signal, fault]

theorem storeListed_exact (stores : instr.getLsbD 20 = false) :
    RaisesExactly bus instr (storeListed bus) := by
  intro step clear
  have same : blockAccess instr step =
      { state := step.state, size := .word, address := step.address,
        data := some (rawReg step.state.file step.index) } := by
    simp only [blockAccess, stores, Bool.false_eq_true, if_false]
  have aborted := armulWrite_aborted bus .word step.state step.address
    (rawReg step.state.file step.index)
  have signal := armulWrite_abortSig bus .word step.state step.address
    (rawReg step.state.file step.index)
  rw [← same] at aborted signal
  unfold storeListed
  cases fault : (blockAccess instr step).faults bus with
  | false => simp [aborted, signal, fault, clear]
  | true => simp [aborted, signal, fault]

theorem transferRest_exact (exact : RaisesExactly bus instr transfer) (list : List Nat)
    (address : ARMword) {state : ARMulState Mem} (clear : state.aborted = 0#32) :
    ((transferRest transfer list address state).aborted != 0#32) =
      (restSteps transfer list address state).any fun step =>
        (blockAccess instr step).faults bus := by
  induction list generalizing address state with
  | nil => simp [transferRest, restSteps, clear]
  | cons index rest ih =>
      have made := exact { state, index, address := address + 4#32 } clear
      simp only [transferRest, restSteps, List.any_cons, ← made]
      split
      · rename_i moved
        simp [ih _ moved, moved]
      · simp

theorem transferAll_exact (started : RaisesExactly bus instr first)
    (exact : RaisesExactly bus instr transfer) (address : ARMword) {state : ARMulState Mem}
    (clear : state.aborted = 0#32) :
    ((transferAll first transfer instr address state).aborted != 0#32) =
      (allSteps first transfer instr address state).any fun step =>
        (blockAccess instr step).faults bus := by
  have made := started { state, index := firstListed instr, address } clear
  simp only [transferAll, allSteps, List.any_cons, ← made]
  split
  · rename_i moved
    simp [transferRest_exact exact _ _ moved, moved]
  · simp

theorem blockStarted_aborted (state : ARMulState Mem) (instr : ARMword) :
    (blockStarted state instr).aborted = state.aborted := by
  simp only [blockStarted]
  split
  · split <;> simp
  · simp
  · simp
  · split <;> simp

theorem blockAttempt_exact {state : ARMulState Mem} (clear : state.aborted = 0#32) :
    (blockAttempt bus state instr).taken = (blockAttempt bus state instr).faults bus := by
  have started : (blockStarted state instr).aborted = 0#32 :=
    (blockStarted_aborted state instr).trans clear
  simp only [Attempt.taken, Attempt.faults, blockAttempt, Bool.false_and, Bool.false_or,
    List.any_map]
  unfold blockMoved blockSteps blockFirst blockNext
  cases load : instr.getLsbD 20 with
  | false => exact transferAll_exact (storeListed_exact load) (storeListed_exact load) _ started
  | true => exact transferAll_exact (loadListed_exact load _) (loadListed_exact load _) _ started

end Blocks

section Coprocessor

variable {bus : Bus Mem} {cops : Coprocessors Mem} {instr : ARMword} {state : ARMulState Mem}

theorem armulRead_accessAborted (bus : Bus Mem) (clear : state.aborted = 0#32) (address : ARMword) :
    accessAborted (armulRead bus .word state address).1 =
      ({ state, size := .word, address, data := none } : Access Mem).faults bus := by
  rw [accessAborted, armulRead_aborted, armulRead_abortSig, clear]
  split <;> simp [*]

theorem armulWrite_accessAborted (bus : Bus Mem) (clear : state.aborted = 0#32)
    (address word : ARMword) :
    accessAborted (armulWrite bus .word state address word) =
      ({ state, size := .word, address, data := some word } : Access Mem).faults bus := by
  rw [accessAborted, armulWrite_aborted, armulWrite_abortSig, clear]
  split <;> simp [*]

theorem accessAborted_false_iff :
    accessAborted state = false ↔ state.abortSig = false ∧ state.aborted = 0#32 := by
  simp [accessAborted]

theorem accessAborted_bususedincpcn :
    accessAborted (bususedincpcn state) = accessAborted state := by
  simp only [bususedincpcn]
  split <;> rfl

theorem ldcRest_exact (words : Nat) (address : ARMword) (fine : accessAborted state = false) :
    accessAborted (ldcRest bus cops instr words address state) =
      (ldcRestAccesses bus cops instr words address state).any (Access.faults bus) := by
  induction words generalizing address state with
  | zero => exact fine
  | succ words ih =>
      have made := armulRead_accessAborted bus (accessAborted_false_iff.mp fine).2
        (address + 4#32)
      simp only [ldcRest, ldcRestAccesses, List.any_cons, ← made]
      split
      · rename_i faulted
        simp [faulted]
      · rename_i read
        have later : accessAborted { (armulRead bus .word state (address + 4#32)).1 with
            mem := cops.load instr (armulRead bus .word state (address + 4#32)).2
              (armulRead bus .word state (address + 4#32)).1.mem } = false :=
          Bool.eq_false_iff.mpr read
        rw [ih _ later]
        simp [read]

theorem ldcWords_exact (address : ARMword) (clear : state.aborted = 0#32) :
    accessAborted (ldcWords bus cops state instr address) =
      (ldcAccesses bus cops state instr address).any (Access.faults bus) := by
  have made := armulRead_accessAborted bus clear address
  simp only [ldcWords, ldcAccesses, List.any_cons, ← made]
  split
  · rename_i faulted
    simp [faulted]
  · rename_i read
    rw [ldcRest_exact]
    · simp [read]
    · exact accessAborted_bususedincpcn.trans (Bool.eq_false_iff.mpr read)

theorem stcRest_exact (words : Nat) (address : ARMword) (fine : accessAborted state = false) :
    accessAborted (stcRest bus cops instr words address state) =
      (stcRestAccesses bus cops instr words address state).any (Access.faults bus) := by
  induction words generalizing address state with
  | zero => exact fine
  | succ words ih =>
      have clear (mem : Mem) : { state with mem }.aborted = 0#32 :=
        (accessAborted_false_iff.mp fine).2
      have made := armulWrite_accessAborted bus (clear (cops.store instr state.mem).1)
        (address + 4#32) (cops.store instr state.mem).2
      simp only [stcRest, stcRestAccesses, List.any_cons, ← made]
      split
      · rename_i faulted
        simp [faulted]
      · rename_i written
        rw [ih _ (Bool.eq_false_iff.mpr written)]
        simp [written]

theorem stcWords_exact (address : ARMword) (clear : state.aborted = 0#32) :
    accessAborted (stcWords bus cops state instr address) =
      (stcAccesses bus cops state instr address).any (Access.faults bus) := by
  have accepted := (bususedincpcn_aborted state).trans clear
  unfold stcWords stcAccesses
  generalize bususedincpcn state = started at accepted ⊢
  have clear (mem : Mem) : { started with mem }.aborted = 0#32 := accepted
  have made := armulWrite_accessAborted bus (clear (cops.store instr started.mem).1) address
    (cops.store instr started.mem).2
  simp only [List.any_cons, ← made]
  split
  · rename_i faulted
    simp [faulted]
  · rename_i written
    rw [stcRest_exact _ _ (Bool.eq_false_iff.mpr written)]
    simp [written]

theorem coprocessorAttempt_exact {address : ARMword} {attempt : Attempt Mem}
    (clear : state.aborted = 0#32)
    (attempts : coprocessorAttempt bus cops state instr address = some attempt) :
    attempt.taken = attempt.faults bus := by
  simp only [coprocessorAttempt] at attempts
  split at attempts
  · rename_i mem vector _
    have accepted : (raised bus { state with mem } vector).aborted = 0#32 := by
      cases vector with
      | none => exact clear
      | some vector => exact armulAbort_aborted _ _ vector
    split at attempts <;> cases attempts
    · exact ldcWords_exact address accepted
    · exact stcWords_exact address accepted
  · cases attempts
    simp [Attempt.taken, Attempt.faults, clear]
  · cases attempts

end Coprocessor

section Instructions

variable {bus : Bus Mem} {physical : PhysicalBus Mem} {cops : Coprocessors Mem}
  {state : ARMulState Mem} {pc instr : ARMword}

theorem attempt_exact (clear : state.aborted = 0#32) (other : transferOf instr ≠ some .swapWord)
    {attempt : Attempt Mem} (attempts : attemptOf bus cops state instr = some attempt) :
    attempt.taken = attempt.faults bus := by
  simp only [attemptOf] at attempts
  split at attempts
  · rename_i kind transfers
    cases kind with
    | single =>
        cases attempts
        refine indexedAttempt_exact bus ?_ _ _ _
        simp only [singleStarted]
        split <;> exact clear
    | half =>
        cases attempts
        exact indexedAttempt_exact bus clear _ _ _
    | loadDouble => exact loadDoubleAttempt_exact bus clear attempts
    | storeDouble => exact storeDoubleAttempt_exact bus clear attempts
    | swapWord => exact absurd transfers other
    | swapByte =>
        cases attempts
        exact swapByte_taken bus clear
  · split at attempts
    · cases attempts
      exact blockAttempt_exact clear
    · split at attempts
      · cases attempts
      · exact coprocessorAttempt_exact clear attempts
    · cases attempts

theorem swapWord_exact_iff (clear : state.aborted = 0#32)
    (swaps : transferOf instr = some .swapWord) :
    (∀ attempt, attemptOf bus cops state instr = some attempt →
        attempt.taken = attempt.faults bus) ↔
      ((swapWrite bus .word state instr).faults bus = true →
        (swapRead .word state instr).faults bus = true) := by
  have attempts : attemptOf bus cops state instr =
      some (swapAttempt bus .word state instr (armulSwapWord bus)) := by
    simp [attemptOf, swaps, transferAttempt]
  have faults : (swapAttempt bus .word state instr (armulSwapWord bus)).faults bus =
      ((swapRead .word state instr).faults bus || (swapWrite bus .word state instr).faults bus) := by
    simp [Attempt.faults, swapAttempt]
  rw [attempts]
  simp only [Option.some.injEq, forall_eq', swapWord_taken bus clear, faults]
  cases (swapRead .word state instr).faults bus <;>
    cases (swapWrite bus .word state instr).faults bus <;> decide

theorem starletGetString_aborted (left : Nat) (pointer : ARMword) (state : ARMulState Mem) :
    (starletGetString bus left pointer state).aborted = 0#32 ↔
      state.aborted = 0#32 ∧
        (stringAccesses bus left pointer state).any (Access.faults bus) = false := by
  induction left generalizing pointer state with
  | zero => simp [starletGetString, stringAccesses]
  | succ left ih =>
      have made := armulRead_aborted bus .byte state pointer
      simp only [starletGetString, stringAccesses, List.any_cons]
      cases fault : ({ state, size := .byte, address := pointer, data := none } :
        Access Mem).faults bus with
      | false =>
          rw [fault, if_neg Bool.false_ne_true] at made
          split
          · simp [made]
          · rw [ih, made, Bool.false_or]
      | true =>
          rw [fault, if_pos rfl] at made
          split
          · simp [made]
          · simp [ih, made]

theorem semihosting_aborted (clear : state.aborted = 0#32) :
    (semihosting bus state).aborted = 0#32 ↔
      (semihostingAccesses bus state).any (Access.faults bus) = false := by
  unfold semihosting semihostingAccesses
  split
  · rw [armulRead_aborted, clear]
    split <;> simp [*]
  · split
    · simp [starletGetString_aborted, clear]
    · simp [clear]

/-- An instruction that finds the flag clear leaves it clear, and takes the data aborts of its
own accesses only, exactly when it keeps to `KeepsFlag`. -/
theorem execute_exact_iff (clear : state.aborted = 0#32) :
    AbortsExactly bus cops state pc instr ∧
        (execute bus (starletTraps bus physical) cops state pc instr).aborted = 0#32 ↔
      KeepsFlag bus state pc instr := by
  have flag : (execute bus (starletTraps bus physical) cops state pc instr).aborted = 0#32 ↔
      (callsSemihosting state pc instr = true →
        (semihostingAccesses bus state).any (Access.faults bus) = false) := by
    rw [execute_aborted clear]
    cases callsSemihosting state pc instr with
    | false => simp
    | true => simp only [if_true, semihosting_aborted clear, forall_const]
  constructor
  · rintro ⟨exact, kept⟩
    refine ⟨flag.mp kept, ?_⟩
    intro word switched swaps
    exact (swapWord_exact_iff clear swaps).mp fun attempt => exact word attempt switched
  · intro keeps
    refine ⟨?_, flag.mpr keeps.calls⟩
    intro word attempt switched attempts
    by_cases swaps : transferOf word = some .swapWord
    · exact (swapWord_exact_iff clear swaps).mpr (keeps.swaps word switched swaps) attempt attempts
    · exact attempt_exact clear swaps attempts

end Instructions

section Rounds

variable {bus : Bus Mem} {physical : PhysicalBus Mem} {cops : Coprocessors Mem}

theorem emulateRound_exact_iff {emulator : Emulator Mem} {round : Round Mem}
    (clear : emulator.cpu.aborted = 0#32) :
    Executing bus (AbortsExactly bus cops) emulator round ∧
        (emulateRound bus (starletTraps bus physical) cops emulator round).cpu.aborted = 0#32 ↔
      Executing bus (KeepsFlag bus) emulator round := by
  unfold Executing emulateRound
  cases runs : running emulator.cpu with
  | false => simp [clear]
  | true =>
      have primed := primePipe_aborted bus fun _ => clear
      simp only [if_true, forall_const, finishRound]
      cases pending : pendingException (primePipe bus emulator).cpu round with
      | some vector =>
          have entered : ∀ emulator : Emulator Mem,
              (reenter emulator).cpu.aborted = emulator.cpu.aborted := by
            intro emulator
            simp only [reenter]
            split <;> rfl
          simp [entered]
      | none =>
          simp only [forall_const]
          exact execute_exact_iff primed

/-- Behind a load or store that the round executes, the saved status word of abort mode is the
one that the test in front of the data abort calls for. -/
def SavesStatus (bus : Bus Mem) (traps : Traps Mem) (cops : Coprocessors Mem)
    (emulator : Emulator Mem) (round : Round Mem) : Prop :=
  Executing bus
    (fun state pc instr => ∀ word attempt, switchedWord state pc instr = some word →
      attemptOf bus cops state word = some attempt →
        (emulateRound bus traps cops emulator round).cpu.spsr .abortbank = attempt.saved)
    emulator round

theorem emulateRound_saved (traps : Traps Mem) (emulator : Emulator Mem) (round : Round Mem) :
    SavesStatus bus traps cops emulator round := by
  intro runs primed idle word attempt switched attempts
  have prog32 : emulator.cpu.prog32Sig = true := by
    simp only [running, Bool.and_eq_true] at runs
    exact runs.1.2
  have executing : (primed.executing round).prog32Sig = true :=
    prog32_stable.primePipe bus prog32
  simp only [emulateRound, finishRound, runs, if_true]
  rw [show pendingException (primePipe bus emulator).cpu round = none from idle]
  dsimp only
  rw [execute_switched switched]
  exact mainSwitch_saved attempts (attempt_prog32 executing attempts)

theorem executing_differs {emulator : Emulator Mem} {round : Round Mem} {word : ARMword}
    {attempt : Attempt Mem} (runs : running emulator.cpu = true)
    (idle : pendingException (primePipe bus emulator).cpu round = none)
    (switched : switchedWord ((primePipe bus emulator).executing round)
      (primePipe bus emulator).pc (primePipe bus emulator).instr = some word)
    (attempts : attemptOf bus cops ((primePipe bus emulator).executing round) word = some attempt)
    (differs : attempt.taken ≠ attempt.faults bus) :
    ¬Executing bus (AbortsExactly bus cops) emulator round := by
  intro exact
  exact differs (exact runs idle word attempt switched attempts)

/-- In a run from reset the flag is clear at every boundary, and every load and store takes
the data aborts of its own accesses only, exactly when every instruction of the run keeps to
`KeepsFlag`.  That the abort is taken shows in the saved status word of abort mode. -/
theorem abort_flag_iff (bus : Bus Mem) (physical : PhysicalBus Mem) (cops : Coprocessors Mem)
    (state : ARMulState Mem) (rounds : List (Round Mem)) :
    let step := emulateRound bus (starletTraps bus physical) cops
    let start := armReset bus.highVectors state
    ((Runs.run step start rounds).cpu.aborted = 0#32 ∧
          Runs.AllSteps step
            (fun emulator round => emulator.cpu.aborted = 0#32 ∧
              Executing bus (AbortsExactly bus cops) emulator round)
            start rounds ↔
        Runs.AllSteps step (Executing bus (KeepsFlag bus)) start rounds) ∧
      Runs.AllSteps step (SavesStatus bus (starletTraps bus physical) cops) start rounds := by
  intro step start
  refine ⟨?_, Runs.allSteps_of_forall step (emulateRound_saved _) start rounds⟩
  have started : start.cpu.aborted = 0#32 := by
    simp only [start, armReset, armulAbort_aborted]
  exact Runs.run_allSteps_iff step (·.cpu.aborted = 0#32)
    (Executing bus (AbortsExactly bus cops)) (Executing bus (KeepsFlag bus))
    (fun emulator round clear => emulateRound_exact_iff clear) start started rounds

end Rounds

section Stale

/-- `mov r0, #3`, the control register, `mov r1, #0x80000000`, `svc 0x123456` and
`ldr r2, [pc]`. -/
def consoleProgram (address : ARMword) : ARMword :=
  match address with
  | 0x0#32 => 0xe3a00003#32
  | 0x4#32 => 0xee010f10#32
  | 0x8#32 => 0xe3a01102#32
  | 0xc#32 => 0xef123456#32
  | 0x10#32 => 0xe59f2000#32
  | _ => 0xe1a00000#32

/-- A machine whose state is the MMU bit of the control register.  With it the upper half of
the addresses is not mapped. -/
def upperFault (enabled : Bool) (address : ARMword) : FaultT :=
  if enabled && address.getLsbD 31 then .sectionTranslationFault else .noFault

def consoleBus : Bus Bool :=
  { read := fun _ _ address enabled => ⟨enabled, upperFault enabled address, 0#32⟩
    write := fun _ _ address _ enabled => ⟨enabled, upperFault enabled address⟩
    fetch := fun _ address enabled =>
      ⟨enabled, upperFault enabled address, consoleProgram address⟩
    recordFault := fun _ _ enabled => enabled
    highVectors := fun _ => false }

def controlCoprocessor : Coprocessors Bool :=
  { mrc := fun _ enabled => (.done enabled none, flagWord enabled)
    mcr := fun _ value _ => .done (value.getLsbD 0) none
    cdp := fun _ enabled => .cant enabled
    transfer := fun _ enabled => .cant enabled
    words := fun _ => 0
    load := fun _ _ enabled => enabled
    store := fun _ enabled => (enabled, 0#32) }

def consoleTraps : Traps Bool :=
  starletTraps consoleBus
    { readWord := fun _ enabled => (enabled, 0#32), writeWord := fun _ _ enabled => enabled }

def consoleRound : Round Bool :=
  { nresetSig := true, nfiqSig := true, nirqSig := true, ioDoCycle := id }

def consoleStart : Emulator Bool :=
  armReset consoleBus.highVectors { resumedCpu with mem := false }

def consoleReached : Emulator Bool :=
  Runs.run (emulateRound consoleBus consoleTraps controlCoprocessor) consoleStart
    (List.replicate 4 consoleRound)

theorem console_load (state : ARMulState Bool) :
    attemptOf consoleBus controlCoprocessor state 0xe59f2000#32 =
      some (indexedAttempt consoleBus singleOffset .word (singleStarted state 0xe59f2000#32)
        0xe59f2000#32) := by
  simp [attemptOf, show transferOf 0xe59f2000#32 = some .single by decide, transferAttempt,
    singleSize]

/-- The console call reads a byte that is not mapped, and the load behind it takes a data
abort although its own access does not fault. -/
theorem console_abort_stale :
    let next := emulateRound consoleBus consoleTraps controlCoprocessor consoleReached consoleRound
    consoleReached.cpu.aborted = 16#32 ∧
      ¬Executing consoleBus (AbortsExactly consoleBus controlCoprocessor) consoleReached
        consoleRound ∧
      next.cpu.mode = abort32mode ∧ next.cpu.reg 15#4 = 0x10#32 := by
  intro next
  refine ⟨by decide +kernel, ?_, by decide +kernel, by decide +kernel⟩
  exact executing_differs (by decide +kernel) (by decide +kernel) (by decide +kernel)
    (console_load _) (by decide +kernel)

end Stale

end SkyeyeStarlet
