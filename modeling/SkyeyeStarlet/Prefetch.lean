import SkyeyeStarlet.Pipeline

/-!
Prefetch aborts.  A failed fetch goes down the pipeline as a marker word and the first one
is recorded in `AbortAddr`; the software interrupt case raises the abort when the marker
reaches it at the recorded address.  A trace of which words come from failed fetches runs
along with the loop, and the recorded address is always that of the first of them.
-/

namespace SkyeyeStarlet

variable {Mem : Type}

/-- `ARMul_ReLoadInstr` gives the marker. -/
def fetchFails (bus : Bus Mem) (state : ARMulState Mem) (address isize : ARMword) : Bool :=
  (fetchWord bus state address isize).2.isNone

structure Failed where
  instr : Bool
  decoded : Bool
  loaded : Bool
  deriving DecidableEq, Repr

structure TracedLoop (Mem : Type) where
  emulator : Emulator Mem
  decoded : Bool
  loaded : Bool

def primeFailed (bus : Bus Mem) (traced : TracedLoop Mem) : Failed :=
  let cpu := traced.emulator.cpu
  let isize := insnSize cpu
  if cpu.nextInstr < 4#8 then
    { instr := traced.decoded
      decoded := traced.loaded
      loaded := fetchFails bus (stepPc traced.emulator)
        (traced.emulator.pc + isize + isize * 2#32) isize }
  else
    let pc := cpu.reg 15#4
    let first := (armulReLoadInstr bus (restartPc cpu) pc isize).1
    let second := (armulReLoadInstr bus first (pc + isize) isize).1
    { instr := fetchFails bus (restartPc cpu) pc isize
      decoded := fetchFails bus first (pc + isize) isize
      loaded := fetchFails bus second (pc + isize * 2#32) isize }

def tracedRound (bus : Bus Mem) (traps : Traps Mem) (cops : Coprocessors Mem)
    (traced : TracedLoop Mem) (round : Round Mem) : TracedLoop Mem :=
  if running traced.emulator.cpu then
    { emulator := emulateRound bus traps cops traced.emulator round
      decoded := (primeFailed bus traced).decoded
      loaded := (primeFailed bus traced).loaded }
  else traced

theorem tracedRound_emulator (bus : Bus Mem) (traps : Traps Mem) (cops : Coprocessors Mem)
    (traced : TracedLoop Mem) (round : Round Mem) :
    (tracedRound bus traps cops traced round).emulator =
      emulateRound bus traps cops traced.emulator round := by
  unfold tracedRound
  split
  · rfl
  · rename_i stopped
    unfold emulateRound
    rw [if_neg stopped]

section Fetches

variable (bus : Bus Mem) (state : ARMulState Mem) (address isize : ARMword)

def recordFetch (fails thumb : Bool) (abortAddr address : ARMword) : ARMword :=
  if fails = true ∧ abortAddr = 1#32 then alignPc thumb address else abortAddr

structure FetchKept (before after : ARMulState Mem) : Prop where
  core : after.core = before.core
  pc : after.reg 15#4 = before.reg 15#4
  thumb : after.tFlag = before.tFlag
  mode : after.mode = before.mode
  emulate : after.emulate = before.emulate

theorem FetchKept.trans {before middle after : ARMulState Mem} (first : FetchKept before middle)
    (second : FetchKept middle after) : FetchKept before after := by
  exact ⟨second.core.trans first.core, second.pc.trans first.pc, second.thumb.trans first.thumb,
    second.mode.trans first.mode, second.emulate.trans first.emulate⟩

theorem reload_kept :
    FetchKept state (armulReLoadInstr bus state address isize).1 ∧
      (armulReLoadInstr bus state address isize).1.abortAddr =
        recordFetch (fetchFails bus state address isize) state.tFlag state.abortAddr address := by
  unfold armulReLoadInstr recordFetch fetchFails
  cases fetched : fetchWord bus state address isize with
  | mk mem result =>
      cases result with
      | some word => exact ⟨⟨rfl, rfl, rfl, rfl, rfl⟩, rfl⟩
      | none =>
          unfold prefetchAbort
          dsimp only [Option.isNone_none]
          split
          · rename_i first
            rw [if_pos ⟨rfl, first⟩]
            exact ⟨⟨rfl, rfl, rfl, rfl, rfl⟩, rfl⟩
          · rename_i later
            rw [if_neg fun both => later both.2]
            exact ⟨⟨rfl, rfl, rfl, rfl, rfl⟩, rfl⟩

theorem reload_marker (fails : fetchFails bus state address isize = true) :
    (armulReLoadInstr bus state address isize).2 = armulAbortWord state := by
  unfold fetchFails at fails
  unfold armulReLoadInstr
  cases fetched : fetchWord bus state address isize with
  | mk mem result =>
      rw [fetched] at fails
      cases result with
      | some word => cases fails
      | none => rfl

theorem armulAbortWord_thumb {before after : ARMulState Mem} (thumb : after.tFlag = before.tFlag) :
    armulAbortWord after = armulAbortWord before := by
  rw [armulAbortWord, armulAbortWord, thumb]

theorem alignPc_ne_one (thumb : Bool) (address : ARMword) : alignPc thumb address ≠ 1#32 := by
  intro same
  have bit := congrArg (fun word => word.getLsbD 0) same
  cases thumb with
  | true => simp [alignPc] at bit
  | false => simp [alignPc] at bit

end Fetches

section Trace

variable {bus : Bus Mem} {traced : TracedLoop Mem}

def recorded (thumb : Bool) (pc isize : ARMword) (failed : Failed) : ARMword :=
  if failed.instr then alignPc thumb pc
  else if failed.decoded then alignPc thumb (pc + isize)
  else if failed.loaded then alignPc thumb (pc + isize * 2#32)
  else 1#32

theorem recordFetch_later (fails thumb : Bool) (address next : ARMword) :
    recordFetch fails thumb (alignPc thumb address) next = alignPc thumb address := by
  exact if_neg fun both => alignPc_ne_one thumb address both.2

theorem recordFetch_first (fails thumb : Bool) (address : ARMword) :
    recordFetch fails thumb 1#32 address = if fails then alignPc thumb address else 1#32 := by
  unfold recordFetch
  cases fails with
  | true => rfl
  | false => rfl

theorem recorded_advance (thumb : Bool) (pc isize : ARMword) (decoded loaded fails : Bool) :
    recordFetch fails thumb (recorded thumb pc isize ⟨false, decoded, loaded⟩)
        (pc + isize + isize * 2#32) =
      recorded thumb (pc + isize) isize ⟨decoded, loaded, fails⟩ := by
  cases decoded with
  | true => exact recordFetch_later _ _ _ _
  | false =>
      cases loaded with
      | true =>
          unfold recorded
          rw [next_behind]
          exact recordFetch_later _ _ _ _
      | false => exact recordFetch_first _ _ _

theorem recorded_refill (thumb : Bool) (pc isize : ARMword) (first second third : Bool) :
    recordFetch third thumb
        (recordFetch second thumb (recordFetch first thumb 1#32 pc) (pc + isize))
        (pc + isize * 2#32) =
      recorded thumb pc isize ⟨first, second, third⟩ := by
  rw [recordFetch_first]
  cases first with
  | true =>
      rw [if_pos rfl, recordFetch_later, recordFetch_later]
      rfl
  | false =>
      rw [if_neg Bool.false_ne_true, recordFetch_first]
      cases second with
      | true =>
          rw [if_pos rfl, recordFetch_later]
          rfl
      | false =>
          rw [if_neg Bool.false_ne_true, recordFetch_first]
          rfl

structure FaultsHeld (failed : Failed) (primed : Primed Mem) : Prop where
  ahead : primed.cpu.reg 15#4 = primed.pc + insnSize primed.cpu * 2#32
  aligned : primed.cpu.tFlag = false → alignPc false primed.pc = primed.pc
  instr : failed.instr = true → primed.instr = armulAbortWord primed.cpu
  decoded : failed.decoded = true → primed.decoded = armulAbortWord primed.cpu
  loaded : failed.loaded = true → primed.loaded = armulAbortWord primed.cpu
  recorded : primed.cpu.abortAddr =
    recorded primed.cpu.tFlag primed.pc (insnSize primed.cpu) failed

/-- The pipeline between two rounds, where it is not to be filled again. -/
structure FaultsReady (traced : TracedLoop Mem) : Prop where
  ahead : traced.emulator.cpu.reg 15#4 =
    traced.emulator.pc + insnSize traced.emulator.cpu * 2#32 +
      if traced.emulator.cpu.nextInstr.getLsbD 1 then insnSize traced.emulator.cpu else 0#32
  aligned : traced.emulator.cpu.tFlag = false →
    alignPc false traced.emulator.pc = traced.emulator.pc
  decoded : traced.decoded = true →
    traced.emulator.decoded = armulAbortWord traced.emulator.cpu
  loaded : traced.loaded = true → traced.emulator.loaded = armulAbortWord traced.emulator.cpu
  recorded : traced.emulator.cpu.abortAddr =
    recorded traced.emulator.cpu.tFlag traced.emulator.pc (insnSize traced.emulator.cpu)
      ⟨false, traced.decoded, traced.loaded⟩

theorem aligned_next {pc : ARMword} (aligned : alignPc false pc = pc) :
    alignPc false (pc + 4#32) = pc + 4#32 := by
  rw [alignPc_eq_self_iff] at aligned ⊢
  simp only [Bool.false_eq_true, if_false, BitVec.toNat_add, BitVec.toNat_ofNat] at aligned ⊢
  omega

theorem stepPc_kept (emulator : Emulator Mem) :
    (stepPc emulator).core = emulator.cpu.core ∧ (stepPc emulator).tFlag = emulator.cpu.tFlag ∧
      (stepPc emulator).mode = emulator.cpu.mode ∧
      (stepPc emulator).emulate = emulator.cpu.emulate ∧
      (stepPc emulator).abortAddr = emulator.cpu.abortAddr := by
  unfold stepPc
  split
  · exact ⟨rfl, rfl, rfl, rfl, rfl⟩
  · exact ⟨rfl, rfl, rfl, rfl, rfl⟩

theorem advance_held (sequential : traced.emulator.cpu.nextInstr < 4#8)
    (ready : FaultsReady traced) :
    FaultsHeld (primeFailed bus traced) (advancePipe bus traced.emulator) ∧
      PrimedFrom traced.emulator.cpu (advancePipe bus traced.emulator).cpu := by
  obtain ⟨core, thumb, mode, emulate, abortAddr⟩ := stepPc_kept traced.emulator
  obtain ⟨kept, address⟩ := reload_kept bus (stepPc traced.emulator)
    (traced.emulator.pc + insnSize traced.emulator.cpu + insnSize traced.emulator.cpu * 2#32)
    (insnSize traced.emulator.cpu)
  have primed : PrimedFrom traced.emulator.cpu (advancePipe bus traced.emulator).cpu :=
    ⟨kept.core.trans core, kept.thumb.trans thumb, kept.mode.trans mode,
      kept.emulate.trans emulate, rfl⟩
  have isize := primed.isize
  have marker : armulAbortWord (advancePipe bus traced.emulator).cpu =
      armulAbortWord traced.emulator.cpu := armulAbortWord_thumb primed.thumb
  rw [primeFailed, if_pos sequential]
  refine ⟨⟨?_, ?_, ?_, ?_, ?_, ?_⟩, primed⟩
  · rw [isize]
    refine kept.pc.trans ?_
    rw [stepPc_pc, ready.ahead]
    show _ = traced.emulator.pc + insnSize traced.emulator.cpu +
      insnSize traced.emulator.cpu * 2#32
    split
    · bv_omega
    · bv_omega
  · intro arm
    have arm' : traced.emulator.cpu.tFlag = false := primed.thumb.symm.trans arm
    have size : insnSize traced.emulator.cpu = 4#32 := by
      rw [insnSize, arm']
      rfl
    show alignPc false (traced.emulator.pc + insnSize traced.emulator.cpu) =
      traced.emulator.pc + insnSize traced.emulator.cpu
    rw [size]
    exact aligned_next (ready.aligned arm')
  · rw [marker]
    exact ready.decoded
  · rw [marker]
    exact ready.loaded
  · intro fails
    rw [marker]
    exact (reload_marker bus _ _ _ fails).trans (armulAbortWord_thumb thumb)
  · rw [isize, primed.thumb]
    refine address.trans ?_
    rw [thumb, abortAddr, ready.recorded]
    exact recorded_advance _ _ _ _ _ _

theorem refill_held (flush : ¬traced.emulator.cpu.nextInstr < 4#8)
    (aligned : traced.emulator.cpu.tFlag = false →
      alignPc false (traced.emulator.cpu.reg 15#4) = traced.emulator.cpu.reg 15#4) :
    FaultsHeld (primeFailed bus traced) (refillPipe bus traced.emulator) ∧
      PrimedFrom traced.emulator.cpu (refillPipe bus traced.emulator).cpu := by
  let cpu := traced.emulator.cpu
  let isize := insnSize cpu
  let pc := cpu.reg 15#4
  let first := (armulReLoadInstr bus (restartPc cpu) pc isize).1
  let second := (armulReLoadInstr bus first (pc + isize) isize).1
  obtain ⟨kept1, address1⟩ := reload_kept bus (restartPc cpu) pc isize
  obtain ⟨kept2, address2⟩ := reload_kept bus first (pc + isize) isize
  obtain ⟨kept3, address3⟩ := reload_kept bus second (pc + isize * 2#32) isize
  have thumb2 := (kept1.trans kept2).thumb
  have kept := (kept1.trans kept2).trans kept3
  have refilled : (refillPipe bus traced.emulator).cpu =
      { (armulReLoadInstr bus second (pc + isize * 2#32) isize).1 with nextInstr := 0#8 } := rfl
  have primed : PrimedFrom cpu (refillPipe bus traced.emulator).cpu := by
    rw [refilled]
    exact ⟨kept.core, kept.thumb, kept.mode, kept.emulate, rfl⟩
  have marker : armulAbortWord (refillPipe bus traced.emulator).cpu = armulAbortWord cpu :=
    armulAbortWord_thumb primed.thumb
  have failed : primeFailed bus traced =
      { instr := fetchFails bus (restartPc cpu) pc isize
        decoded := fetchFails bus first (pc + isize) isize
        loaded := fetchFails bus second (pc + isize * 2#32) isize } := if_neg flush
  rw [failed]
  refine ⟨⟨?_, ?_, ?_, ?_, ?_, ?_⟩, primed⟩
  · rw [primed.isize, refilled]
    exact kept.pc.trans (setReg_reg_self cpu 15#4 _)
  · intro arm
    exact aligned (primed.thumb.symm.trans arm)
  · intro fails
    rw [marker]
    exact reload_marker bus _ _ _ fails
  · intro fails
    rw [marker]
    exact (reload_marker bus _ _ _ fails).trans (armulAbortWord_thumb kept1.thumb)
  · intro fails
    rw [marker]
    exact (reload_marker bus _ _ _ fails).trans (armulAbortWord_thumb thumb2)
  · rw [primed.isize, primed.thumb, refilled]
    dsimp only
    rw [address3, address2, address1, thumb2, kept1.thumb]
    exact recorded_refill _ _ _ _ _ _

end Trace

section Executed

def raisesPrefetchAbort (state : ARMulState Mem) (pc word : ARMword) : Prop :=
  word.extractLsb' 28 4 ≠ 0xf#4 ∧ conditionHolds state.flags (word.extractLsb' 28 4) = true ∧
    transferOf word = none ∧ word.extractLsb' 25 3 = 7#3 ∧ word.getLsbD 24 = true ∧
    word = armulAbortWord state ∧ state.abortAddr = pc

def takesPrefetchAbort (state : ARMulState Mem) (pc instr : ARMword) : Prop :=
  if state.tFlag then
    ∃ word, armulThumbDecode state pc instr = .decoded word ∧ raisesPrefetchAbort state pc word
  else raisesPrefetchAbort state pc instr

theorem executeArm_raises (bus : Bus Mem) (traps : Traps Mem) (cops : Coprocessors Mem)
    {state : ARMulState Mem} {pc word : ARMword} (raises : raisesPrefetchAbort state pc word) :
    executeArm bus traps cops state pc word =
      armulAbort bus.highVectors state .prefetchAbortV := by
  obtain ⟨conditional, holds, noTransfer, group, software, marker, address⟩ := raises
  rw [executeArm, if_neg conditional, if_pos holds, mainSwitch, noTransfer, group]
  show (if word.getLsbD 24 then softwareInterrupt bus traps state pc word
    else coprocessorRegister bus cops state word) = _
  rw [if_pos software, softwareInterrupt, if_pos ⟨marker, address⟩]

theorem execute_takes (bus : Bus Mem) (traps : Traps Mem) (cops : Coprocessors Mem)
    {state : ARMulState Mem} {pc instr : ARMword} (takes : takesPrefetchAbort state pc instr) :
    execute bus traps cops state pc instr = armulAbort bus.highVectors state .prefetchAbortV := by
  unfold takesPrefetchAbort at takes
  unfold execute
  split
  · rename_i thumb
    rw [if_pos thumb] at takes
    obtain ⟨word, decodes, raises⟩ := takes
    rw [decodes]
    exact executeArm_raises bus traps cops raises
  · rename_i arm
    rw [if_neg arm] at takes
    exact executeArm_raises bus traps cops takes

theorem takes_address {state : ARMulState Mem} {pc instr : ARMword}
    (takes : takesPrefetchAbort state pc instr) : state.abortAddr = pc := by
  unfold takesPrefetchAbort at takes
  split at takes
  · obtain ⟨word, _, raises⟩ := takes
    exact raises.2.2.2.2.2.2
  · exact takes.2.2.2.2.2.2

theorem marker_takes {state : ARMulState Mem} {pc : ARMword} (arm : state.tFlag = false)
    (address : state.abortAddr = pc) : takesPrefetchAbort state pc (armulAbortWord state) := by
  have marker : armulAbortWord state = 0xefffffff#32 := by
    rw [armulAbortWord, arm]
    rfl
  have condition : (0xefffffff#32 : ARMword).extractLsb' 28 4 = 0xe#4 := by
    decide
  unfold takesPrefetchAbort
  rw [if_neg (by rw [arm]; exact Bool.false_ne_true)]
  refine ⟨?_, ?_, ?_, ?_, ?_, rfl, address⟩
  · rw [marker]
    decide
  · rw [marker, condition]
    rfl
  · rw [marker]
    decide
  · rw [marker]
    decide
  · rw [marker]
    decide

theorem alignPc_behind (thumb : Bool) (pc : ARMword) {offset : ARMword} (nonzero : offset ≠ 0#32)
    (whole : offset.toNat % (if thumb then 2 else 4) = 0) : alignPc thumb (pc + offset) ≠ pc := by
  intro same
  have aligned : alignPc thumb pc = pc := by
    rw [← same, alignPc_idem, same]
  have moved : alignPc thumb (pc + offset) = pc + offset := by
    rw [alignPc_eq_self_iff] at aligned ⊢
    rw [BitVec.toNat_add]
    cases thumb with
    | true =>
        simp only [if_true] at aligned whole ⊢
        omega
    | false =>
        simp only [Bool.false_eq_true, if_false] at aligned whole ⊢
        omega
  rw [moved] at same
  apply nonzero
  bv_omega

variable {failed : Failed} {primed : Primed Mem}

theorem FaultsHeld.unrecorded (held : FaultsHeld failed primed) (fetched : failed.instr = false)
    (even : primed.cpu.tFlag = true → primed.pc ≠ 1#32) : primed.cpu.abortAddr ≠ primed.pc := by
  have nonzero : insnSize primed.cpu ≠ 0#32 ∧ insnSize primed.cpu * 2#32 ≠ 0#32 := by
    unfold insnSize
    cases primed.cpu.tFlag with
    | true => decide
    | false => decide
  have whole : (insnSize primed.cpu).toNat % (if primed.cpu.tFlag then 2 else 4) = 0 ∧
      (insnSize primed.cpu * 2#32).toNat % (if primed.cpu.tFlag then 2 else 4) = 0 := by
    unfold insnSize
    cases primed.cpu.tFlag with
    | true => decide
    | false => decide
  rw [held.recorded, SkyeyeStarlet.recorded, fetched, if_neg Bool.false_ne_true]
  split
  · exact alignPc_behind _ _ nonzero.1 whole.1
  · split
    · exact alignPc_behind _ _ nonzero.2 whole.2
    · intro one
      cases thumb : primed.cpu.tFlag with
      | true => exact even thumb one.symm
      | false =>
          have aligned := held.aligned thumb
          exact alignPc_ne_one false primed.pc (aligned.trans one.symm)

theorem FaultsHeld.takes (held : FaultsHeld failed primed) (fails : failed.instr = true)
    (arm : primed.cpu.tFlag = false) (round : Round Mem) :
    takesPrefetchAbort (primed.executing round) primed.pc primed.instr := by
  have address : (primed.executing round).abortAddr = primed.pc := by
    have recorded := held.recorded
    rw [SkyeyeStarlet.recorded, if_pos fails, arm] at recorded
    exact recorded.trans (held.aligned arm)
  have word : primed.instr = armulAbortWord (primed.executing round) :=
    (held.instr fails).trans (armulAbortWord_thumb rfl)
  rw [word]
  exact marker_takes arm address

end Executed

section Entry

/-- Exception entry by a prefetch abort: only the abort mode's link register and saved status
word, register 15 and the status bits of the entry are new. -/
structure PrefetchEntered (highVectors : Mem → Bool) (state final : ARMulState Mem)
    (pc : ARMword) : Prop where
  mode : final.mode = abort32mode
  vector : final.reg 15#4 = vectorAddress highVectors state.mem .prefetchAbortV
  saved : final.spsr .abortbank = armulGetCPSR state
  link : final.reg 14#4 = pc + 4#32
  flags : final.flags = entryFlags state.flags .prefetchAbortV
  others : ∀ bank, bank ≠ .abortbank → final.spsr bank = state.spsr bank
  registers : ∀ bank number, number ≠ 15#4 → ¬(bank = .abortbank ∧ number = 14#4) →
    bankedReg final.file bank number = bankedReg state.file bank number
  mem : final.mem = state.mem

theorem prefetchEntered (highVectors : Mem → Bool) {state : ARMulState Mem}
    (coherent : Coherent32 state) (arm : state.tFlag = false) {pc : ARMword}
    (ahead : state.reg 15#4 = pc + insnSize state * 2#32) :
    PrefetchEntered highVectors state (armulAbort highVectors state .prefetchAbortV) pc := by
  have is32 : Vector.is32 .prefetchAbortV = true := rfl
  have entered := armulAbort_eq highVectors coherent.prog32 coherent.valid is32
  have link : linkAddress state .prefetchAbortV = pc + 4#32 := by
    rw [linkAddress, ahead, insnSize, arm]
    simp only [Vector.linkOffset, Bool.false_eq_true, if_false]
    bv_omega
  refine ⟨?_, ?_, ?_, ?_, ?_, ?_, ?_, ?_⟩
  · rw [entered]
    rfl
  · rw [entered]
    simp [ARMulState.reg, Registers.set]
  · rw [entered]
    exact Function.update_self Bank.abortbank (armulGetCPSR state) state.spsr
  · exact (abort_link highVectors coherent is32).trans link
  · rw [entered]
  · intro bank other
    rw [entered]
    exact Function.update_of_ne other (armulGetCPSR state) state.spsr
  · intro bank number notPc notLink
    exact bankedReg_abort coherent is32 bank notPc notLink
  · rw [entered]
    rfl

end Entry

section Runs

variable {bus : Bus Mem} {traps : Traps Mem} {cops : Coprocessors Mem} {traced : TracedLoop Mem}
  {round : Round Mem}

/-- What a round of a run needs where an instruction is executed.  It is a regular one; a
word from a failed fetch is reached in ARM state, in a valid mode with its bank live; and a
Thumb instruction is not at the address that stands for no abort. -/
def PreciseRound (bus : Bus Mem) (traced : TracedLoop Mem) (round : Round Mem) : Prop :=
  let primed := primePipe bus traced.emulator
  running traced.emulator.cpu = true → pendingException primed.cpu round = none →
    regularStep (primed.executing round) primed.pc primed.instr ∧
      ((primeFailed bus traced).instr = true →
        primed.cpu.tFlag = false ∧ Coherent32 primed.cpu) ∧
      (primed.cpu.tFlag = true → primed.pc ≠ 1#32)

def FaultsInv (traced : TracedLoop Mem) : Prop :=
  running traced.emulator.cpu = true → traced.emulator.cpu.core.isV4 = true ∧
    (traced.emulator.cpu.nextInstr < 4#8 → FaultsReady traced) ∧
    (¬traced.emulator.cpu.nextInstr < 4#8 → traced.emulator.cpu.tFlag = false →
      alignPc false (traced.emulator.cpu.reg 15#4) = traced.emulator.cpu.reg 15#4)

theorem primePipe_held (bus : Bus Mem) (inv : FaultsInv traced)
    (runs : running traced.emulator.cpu = true) :
    FaultsHeld (primeFailed bus traced) (primePipe bus traced.emulator) ∧
      PrimedFrom traced.emulator.cpu (primePipe bus traced.emulator).cpu := by
  obtain ⟨_, ready, aligned⟩ := inv runs
  by_cases sequential : traced.emulator.cpu.nextInstr < 4#8
  · rw [primePipe_advance sequential]
    exact advance_held sequential (ready sequential)
  · rw [primePipe_refill sequential]
    exact refill_held sequential (aligned sequential)

theorem emulateRound_executes (runs : running traced.emulator.cpu = true)
    (idle : pendingException (primePipe bus traced.emulator).cpu round = none) :
    (emulateRound bus traps cops traced.emulator round).cpu =
      execute bus traps cops ((primePipe bus traced.emulator).executing round)
        (primePipe bus traced.emulator).pc (primePipe bus traced.emulator).instr := by
  rw [emulateRound, if_pos runs, finishRound, idle]

theorem failed_round (inv : FaultsInv traced) (runs : running traced.emulator.cpu = true)
    (idle : pendingException (primePipe bus traced.emulator).cpu round = none)
    (precise : PreciseRound bus traced round) (fails : (primeFailed bus traced).instr = true) :
    (emulateRound bus traps cops traced.emulator round).cpu =
      armulAbort bus.highVectors ((primePipe bus traced.emulator).executing round)
        .prefetchAbortV := by
  obtain ⟨held, _⟩ := primePipe_held bus inv runs
  obtain ⟨_, reached, _⟩ := precise runs idle
  rw [emulateRound_executes runs idle]
  exact execute_takes bus traps cops (held.takes fails (reached fails).1 round)

theorem failed_flushes (inv : FaultsInv traced) (runs : running traced.emulator.cpu = true)
    (precise : PreciseRound bus traced round) (fails : (primeFailed bus traced).instr = true)
    (runs' : running (emulateRound bus traps cops traced.emulator round).cpu = true) :
    ¬(emulateRound bus traps cops traced.emulator round).cpu.nextInstr < 4#8 := by
  obtain ⟨_, primed⟩ := primePipe_held bus inv runs
  have prog32 : (primePipe bus traced.emulator).cpu.core.prog32Sig = true := by
    have running := primed.running.trans runs
    simp only [SkyeyeStarlet.running, Bool.and_eq_true] at running
    exact running.1.2
  have jumps : ∃ state vector, state.core.prog32Sig = true ∧
      (emulateRound bus traps cops traced.emulator round).cpu =
        armulAbort bus.highVectors state vector := by
    cases idle : pendingException (primePipe bus traced.emulator).cpu round with
    | none =>
        exact ⟨(primePipe bus traced.emulator).executing round, .prefetchAbortV, prog32,
          failed_round inv runs idle precise fails⟩
    | some vector =>
        refine ⟨(primePipe bus traced.emulator).cpu, vector, prog32, ?_⟩
        rw [emulateRound, if_pos runs, finishRound, idle]
        dsimp only
        unfold reenter
        split
        · rfl
        · rfl
  obtain ⟨state, vector, prog32, entered⟩ := jumps
  rw [entered] at runs' ⊢
  rcases (jumps_abort (W := True) bus.highVectors prog32 vector).flow with stopped | redirected
  · exact absurd (runs'.symm.trans stopped) (by decide)
  · exact redirected.flush

theorem faultsInv_round (trapsRead : TrapsReadOnly traps) (inv : FaultsInv traced)
    (precise : PreciseRound bus traced round) :
    FaultsInv (tracedRound bus traps cops traced round) := by
  by_cases runs : running traced.emulator.cpu = true
  · rw [tracedRound, if_pos runs]
    intro runs'
    dsimp only at runs' ⊢
    obtain ⟨held, primed⟩ := primePipe_held bus inv runs
    have isV4 := (inv runs).1
    have outcome : Outcome True (primePipe bus traced.emulator).cpu
        (emulateRound bus traps cops traced.emulator round).cpu :=
      round_outcome trapsRead runs isV4 primed (fun _ => held.aligned)
        fun idle => (precise runs idle).1
    refine ⟨by rw [outcome.core, primed.core]; exact isV4, ?_, ?_⟩
    · intro sequential
      have fetched : (primeFailed bus traced).instr = false := by
        by_contra fails
        exact failed_flushes inv runs precise (by simpa using fails) runs' sequential
      obtain ⟨pc, decoded, loaded⟩ := round_locals runs sequential
      rcases outcome.flow with stopped | redirected | through
      · exact absurd (runs'.symm.trans stopped) (by decide)
      · exact absurd sequential redirected.flush
      · have isize : insnSize (emulateRound bus traps cops traced.emulator round).cpu =
            insnSize (primePipe bus traced.emulator).cpu := by
          simp only [insnSize, through.thumb]
        have marker := armulAbortWord_thumb through.thumb
        refine ⟨?_, ?_, ?_, ?_, ?_⟩
        · dsimp only
          rw [through.pc, held.ahead, pc, isize]
        · intro arm
          dsimp only at arm ⊢
          rw [pc]
          exact held.aligned (through.thumb.symm.trans arm)
        · intro fails
          dsimp only at fails ⊢
          rw [decoded, marker]
          exact held.decoded fails
        · intro fails
          dsimp only at fails ⊢
          rw [loaded, marker]
          exact held.loaded fails
        · dsimp only
          rw [through.abortAddr, held.recorded, through.thumb, pc, isize]
          unfold recorded
          rw [fetched]
    · intro flush arm
      rcases outcome.flow with stopped | redirected | through
      · exact absurd (runs'.symm.trans stopped) (by decide)
      · exact redirected.aligned trivial arm
      · exact absurd through.sequential flush
  · rw [tracedRound, if_neg runs]
    exact inv

theorem traced_run (bus : Bus Mem) (traps : Traps Mem) (cops : Coprocessors Mem)
    (start : TracedLoop Mem) (rounds : List (Round Mem)) :
    (Runs.run (tracedRound bus traps cops) start rounds).emulator =
      Runs.run (emulateRound bus traps cops) start.emulator rounds := by
  induction rounds generalizing start with
  | nil => rfl
  | cons round rounds ih =>
      rw [Runs.run_cons, Runs.run_cons, ih, tracedRound_emulator]

theorem refill_forgets (bus : Bus Mem) {emulator : Emulator Mem}
    (flush : ¬emulator.cpu.nextInstr < 4#8) (abortAddr pc decoded loaded : ARMword) :
    primePipe bus { cpu := { emulator.cpu with abortAddr }, pc, decoded, loaded } =
      primePipe bus emulator := by
  rw [primePipe_refill flush]
  exact primePipe_refill (by exact flush)

/-- In a run that executes words from failed fetches in ARM state only, each of them takes a
prefetch abort with the link and saved status of its instruction, no other word does, and a
failed fetch that is flushed leaves nothing behind. -/
theorem prefetch_abort_precise (bus : Bus Mem) (traps : Traps Mem) (cops : Coprocessors Mem)
    (trapsRead : TrapsReadOnly traps) (start : TracedLoop Mem)
    (isV4 : start.emulator.cpu.isV4 = true) (refill : ¬start.emulator.cpu.nextInstr < 4#8)
    (aligned : start.emulator.cpu.tFlag = false →
      alignPc false (start.emulator.cpu.reg 15#4) = start.emulator.cpu.reg 15#4)
    (rounds : List (Round Mem)) (round : Round Mem)
    (precise : Runs.AllSteps (tracedRound bus traps cops) (PreciseRound bus) start
      (rounds ++ [round])) :
    let traced := Runs.run (tracedRound bus traps cops) start rounds
    let primed := primePipe bus traced.emulator
    let next := emulateRound bus traps cops traced.emulator round
    traced.emulator = Runs.run (emulateRound bus traps cops) start.emulator rounds ∧
      (running traced.emulator.cpu = true → pendingException primed.cpu round = none →
        ((primeFailed bus traced).instr = true →
          next.cpu = armulAbort bus.highVectors (primed.executing round) .prefetchAbortV ∧
            PrefetchEntered bus.highVectors (primed.executing round) next.cpu primed.pc) ∧
        ((primeFailed bus traced).instr = false →
          ¬takesPrefetchAbort (primed.executing round) primed.pc primed.instr)) ∧
      (¬next.cpu.nextInstr < 4#8 → ∀ abortAddr pc decoded loaded,
        primePipe bus { cpu := { next.cpu with abortAddr }, pc, decoded, loaded } =
          primePipe bus next) := by
  obtain ⟨earlier, last, _⟩ := (Runs.allSteps_append _ _ _ _ _).mp precise
  have started : FaultsInv start := by
    intro _
    exact ⟨isV4, fun sequential => absurd sequential refill, fun _ => aligned⟩
  have inv := Runs.run_invariant_of_allowed (tracedRound bus traps cops) FaultsInv
    (PreciseRound bus) (fun _ _ => faultsInv_round trapsRead) start started rounds earlier
  intro traced primed next
  refine ⟨traced_run bus traps cops start rounds, ?_, refill_forgets bus⟩
  intro runs idle
  obtain ⟨held, _⟩ := primePipe_held bus inv runs
  obtain ⟨_, reached, even⟩ := last runs idle
  constructor
  · intro fails
    obtain ⟨arm, coherent⟩ := reached fails
    have entered : next.cpu =
        armulAbort bus.highVectors (primed.executing round) .prefetchAbortV :=
      failed_round inv runs idle last fails
    have executing : Coherent32 (primed.executing round) :=
      ⟨coherent.prog32, coherent.valid, coherent.live⟩
    have ahead : (primed.executing round).reg 15#4 =
        primed.pc + insnSize (primed.executing round) * 2#32 := held.ahead
    refine ⟨entered, ?_⟩
    rw [entered]
    exact prefetchEntered bus.highVectors executing arm ahead
  · intro fetched takes
    have address : (primed.executing round).abortAddr = primed.pc := takes_address takes
    exact held.unrecorded fetched even address

def faultingBus : Bus Unit :=
  { constantBus 0#32 with fetch := fun _ _ mem => ⟨mem, .sectionTranslationFault, 0#32⟩ }

def resumedThumb : Emulator Unit :=
  { resumed with
    cpu := { resumedCpu with flags := { resumedCpu.flags with tFlag := true }, cpsr := 0x33#32 } }

theorem marker_regular (state : ARMulState Unit) (arm : state.tFlag = false) (pc : ARMword) :
    regularStep state pc 0xefffffff#32 := by
  unfold regularStep
  rw [if_neg (by rw [arm]; decide)]
  unfold regularArm
  rw [if_neg (by decide)]
  intro _
  unfold regularSwitch
  rw [show transferOf 0xefffffff#32 = none by decide]
  trivial

theorem thumb_fault_branches :
    let traced : TracedLoop Unit := { emulator := resumedThumb, decoded := false, loaded := false }
    let primed := primePipe faultingBus traced.emulator
    let next := emulateRound faultingBus quietTraps noCoprocessors traced.emulator quietRound
    running traced.emulator.cpu = true ∧ traced.emulator.cpu.bigendSig = true ∧
      pendingException primed.cpu quietRound = none ∧
      (primeFailed faultingBus traced).instr = true ∧ primed.cpu.abortAddr = primed.pc ∧
      next.cpu.mode ≠ abort32mode ∧ next.cpu.reg 15#4 = 0xffc#32 ∧ next.cpu.tFlag = false := by
  decide +kernel

theorem prefetch_abort_precise_first :
    (emulateRound faultingBus quietTraps noCoprocessors resumed quietRound).cpu.reg 14#4 =
      4#32 := by
  let start : TracedLoop Unit := { emulator := resumed, decoded := false, loaded := false }
  have taken := prefetch_abort_precise faultingBus quietTraps noCoprocessors quietTraps_readOnly
    start rfl (by decide) (fun _ => by decide) [] quietRound ?_
  · exact ((taken.2.1 (by decide +kernel) (by decide +kernel)).1 (by decide +kernel)).2.link
  · refine ⟨fun _ _ => ⟨?_, fun _ => ⟨by decide +kernel, ?_⟩, ?_⟩, trivial⟩
    · have instr : (primePipe faultingBus resumed).instr = 0xefffffff#32 := by
        decide +kernel
      show regularStep _ _ (primePipe faultingBus resumed).instr
      rw [instr]
      exact marker_regular _ (by decide +kernel) _
    · exact ⟨by decide +kernel, by decide +kernel, by decide +kernel⟩
    · intro thumb
      exact absurd thumb (by decide +kernel)

end Runs

end SkyeyeStarlet
