import Mathlib.Tactic.IntervalCases
import SkyeyeStarlet.Banks
import SkyeyeStarlet.Library.WordBits

/-!
Exception entry and return.  `armulAbort_eq` says once what an entry does to a
processor in a valid 32 bit mode; the round trip and the statements about aborted
instructions are read off it.
-/

namespace SkyeyeStarlet

variable {Mem : Type}

def validMode (mode : ModeNum) : Bool :=
  mode == user32mode || mode == fiq32mode || mode == irq32mode || mode == svc32mode ||
    mode == abort32mode || mode == undef32mode || mode == system32mode

theorem validMode_mode32bit {mode : ModeNum} (valid : validMode mode = true) :
    mode32bit mode = true := by
  revert mode
  decide

theorem validMode_real {mode : ModeNum} (valid : validMode mode = true) :
    modeToBank mode ≠ .dummybank := by
  revert mode
  decide

/-- A processor in one of the seven 32 bit modes, with that mode's bank live. -/
structure Coherent32 (state : ARMulState Mem) : Prop where
  prog32 : state.prog32Sig = true
  valid : validMode state.mode = true
  live : state.file.bank = modeToBank state.mode

theorem packCPSR_mode (flags : Flags) (mode : ModeNum) :
    (packCPSR flags mode).setWidth 5 = mode := by
  apply BitVec.eq_of_getLsbD_eq
  intro index bound
  interval_cases index <;> simp [packCPSR, Flags.ecc, Flags.eint, flagWord]

theorem unpackFlags_packCPSR (flags : Flags) (mode : ModeNum) :
    unpackFlags (packCPSR flags mode) = flags := by
  have masks : (packCPSR flags mode).extractLsb' 6 2 = flags.ifFlags := by
    apply BitVec.eq_of_getLsbD_eq
    intro index bound
    interval_cases index <;> simp [packCPSR, Flags.ecc, Flags.eint, flagWord]
  unfold unpackFlags
  rw [masks]
  cases flags
  simp [packCPSR, Flags.ecc, Flags.eint, flagWord]

theorem armulCPSRAltered_eq {state : ARMulState Mem} (prog32 : state.prog32Sig = true)
    (valid : validMode state.mode = true) (enters : validMode (state.cpsr.setWidth 5) = true) :
    armulCPSRAltered state =
      { enterMode state (state.cpsr.setWidth 5) with flags := unpackFlags state.cpsr } := by
  have old := validMode_mode32bit valid
  have new := validMode_mode32bit enters
  cases state
  subst prog32
  simp only [armulCPSRAltered, enterMode, if_true, old, new]

theorem enterFile_bank {file : Registers} {mode : ModeNum} (live : file.bank = modeToBank mode)
    (newmode : ModeNum) : (enterFile file mode newmode).bank = modeToBank newmode := by
  unfold enterFile
  split
  · rename_i same
    rw [live, same]
  · exact armulSwitchMode_bank _ _ _

theorem bankedReg_enterFile {file : Registers} {mode newmode : ModeNum}
    (live : file.bank = modeToBank mode) (valid : validMode mode = true)
    (enters : validMode newmode = true) (bank : Bank) (number : RegNum) :
    bankedReg (enterFile file mode newmode) bank number = bankedReg file bank number := by
  unfold enterFile
  split
  · rfl
  · exact bankedReg_armulSwitchMode file live (validMode_real valid) (validMode_real enters)
      bank number

def Vector.is32 : Vector → Bool
  | .addrExceptnV => false
  | _ => true

theorem Vector.mode_valid {vector : Vector} (is32 : vector.is32 = true) :
    validMode (vector.mode true) = true := by
  revert vector
  intro vector is32
  cases vector <;> first | rfl | cases is32

def entryFlags (flags : Flags) (vector : Vector) : Flags :=
  { flags with
    tFlag := false
    ifFlags := flags.ifFlags ||| vector.mask.extractLsb' 6 2 }

def entryWord (flags : Flags) (mode : ModeNum) (vector : Vector) : ARMword :=
  (packCPSR flags mode &&& ~~~(mode.setWidth 32 ||| 0x20#32)) ||| vector.mask |||
    (vector.mode true).setWidth 32

theorem entryWord_mode (flags : Flags) (mode : ModeNum) (vector : Vector) :
    (entryWord flags mode vector).setWidth 5 = vector.mode true := by
  have low (index : Nat) (bound : index < 5) :
      (packCPSR flags mode).getLsbD index = mode.getLsbD index := by
    have packed := congrArg (fun word => word.getLsbD index) (packCPSR_mode flags mode)
    simpa [bound] using packed
  have unmasked (index : Nat) (bound : index < 5) : vector.mask.getLsbD index = false := by
    cases vector <;> interval_cases index <;> rfl
  apply BitVec.eq_of_getLsbD_eq
  intro index bound
  simp only [entryWord, BitVec.getLsbD_setWidth, BitVec.getLsbD_or, BitVec.getLsbD_and,
    BitVec.getLsbD_not, low index bound, unmasked index bound, bound]
  have inside : index < 32 := by omega
  cases mode.getLsbD index <;> simp [inside]

theorem unpackFlags_entryWord (flags : Flags) (mode : ModeNum) (vector : Vector) :
    unpackFlags (entryWord flags mode vector) = entryFlags flags vector := by
  have masks : (entryWord flags mode vector).extractLsb' 6 2 =
      flags.ifFlags ||| vector.mask.extractLsb' 6 2 := by
    apply BitVec.eq_of_getLsbD_eq
    intro index bound
    cases vector <;> interval_cases index <;>
      simp [entryWord, packCPSR, Flags.ecc, Flags.eint, flagWord, Vector.mask]
  unfold unpackFlags entryFlags
  rw [masks]
  cases vector <;>
    simp [entryWord, packCPSR, Flags.ecc, Flags.eint, flagWord, Vector.mask, Vector.mode]

def vectorAddress (highVectors : Mem → Bool) (mem : Mem) (vector : Vector) : ARMword :=
  (vector.address + if highVectors mem then 0xffff0000#32 else 0#32) &&& 0xfffffffc#32

def linkAddress (state : ARMulState Mem) (vector : Vector) : ARMword :=
  state.reg 15#4 - vector.linkOffset state.tFlag

theorem setabort_eq {state : ARMulState Mem} (prog32 : state.prog32Sig = true)
    (valid : validMode state.mode = true) {vector : Vector} (is32 : vector.is32 = true)
    (link : ARMword) :
    setabort state vector.mask (vector.mode true) link =
      { enterMode state (vector.mode true) with
        file := (enterFile state.file state.mode (vector.mode true)).set 14#4 link
        flags := entryFlags state.flags vector
        cpsr := entryWord state.flags state.mode vector
        spsr := Function.update state.spsr (modeToBank (vector.mode true)) (armulGetCPSR state) } := by
  have saves : bankCanAccessSpsr (modeToBank (vector.mode true)) = true := by
    cases vector <;> rfl
  let saved : ARMulState Mem :=
    { state with
      spsr := Function.update state.spsr (modeToBank (vector.mode true)) (armulGetCPSR state)
      cpsr := entryWord state.flags state.mode vector }
  have selects : saved.cpsr.setWidth 5 = vector.mode true := entryWord_mode _ _ _
  have enters : validMode (saved.cpsr.setWidth 5) = true := by
    rw [selects]
    exact Vector.mode_valid is32
  have altered := armulCPSRAltered_eq (show saved.prog32Sig = true from prog32) valid enters
  rw [selects, show unpackFlags saved.cpsr = entryFlags state.flags vector from
    unpackFlags_entryWord _ _ _] at altered
  have entered : setabort state vector.mask (vector.mode true) link =
      (armulCPSRAltered saved).setReg 14#4 link := by
    simp only [setabort, armulSetSPSR, saves, if_true]
    rfl
  rw [entered, altered]
  rfl

theorem armulAbort_eq (highVectors : Mem → Bool) {state : ARMulState Mem}
    (prog32 : state.prog32Sig = true) (valid : validMode state.mode = true) {vector : Vector}
    (is32 : vector.is32 = true) :
    armulAbort highVectors state vector =
      { enterMode state (vector.mode true) with
        file := ((enterFile state.file state.mode (vector.mode true)).set 14#4
          (linkAddress state vector)).set 15#4 (vectorAddress highVectors state.mem vector)
        flags := entryFlags state.flags vector
        cpsr := entryWord state.flags state.mode vector
        spsr := Function.update state.spsr (modeToBank (vector.mode true)) (armulGetCPSR state)
        nextInstr := state.nextInstr ||| 4#8
        aborted := 0#32
        abortAddr := if vector = .prefetchAbortV then 1#32 else state.abortAddr } := by
  have target32 := validMode_mode32bit (Vector.mode_valid is32)
  have link : exceptionPc state - vector.linkOffset state.tFlag = linkAddress state vector := by
    simp [exceptionPc, linkAddress, prog32, validMode_mode32bit valid]
  have entered := setabort_eq (show (clearAborted state vector).prog32Sig = true from
    prog32) valid is32 (linkAddress state vector)
  rw [armulAbort, prog32, link, entered]
  simp only [enterMode, target32, if_true, armulSetR15]
  rfl

def Vector.returnOffset : Vector → ARMword
  | .prefetchAbortV => 4#32
  | .dataAbortV => 8#32
  | .irqV => 4#32
  | .fiqV => 4#32
  | _ => 0#32

def Vector.returns : Vector → Bool
  | .resetV => false
  | .addrExceptnV => false
  | _ => true

def Vector.resumeAddress (thumb : Bool) (pc : ARMword) : Vector → ARMword
  | .undefinedInstrV => pc + if thumb then 2#32 else 4#32
  | .swiV => pc + if thumb then 2#32 else 4#32
  | _ => pc

def exceptionReturn (state : ARMulState Mem) (vector : Vector) : ARMulState Mem :=
  writeSR15 state (state.reg 14#4 - vector.returnOffset)

theorem Vector.is32_of_returns {vector : Vector} (returns : vector.returns = true) :
    vector.is32 = true := by
  cases vector <;> first | rfl | cases returns

theorem link_returns {vector : Vector} (returns : vector.returns = true) (thumb : Bool)
    (pc : ARMword) :
    (pc + 2#32 * if thumb then 2#32 else 4#32) - vector.linkOffset thumb - vector.returnOffset =
      vector.resumeAddress thumb pc := by
  cases vector <;> cases thumb <;>
    simp [Vector.linkOffset, Vector.returnOffset, Vector.resumeAddress, Vector.returns] at returns ⊢ <;>
    bv_omega

theorem alignPc_eq_self_iff (thumb : Bool) (address : ARMword) :
    alignPc thumb address = address ↔ address.toNat % (if thumb then 2 else 4) = 0 := by
  cases thumb with
  | true =>
      exact (WordBits.and_not_eq_self_iff address 1#32).trans
        (WordBits.and_low_eq_zero_iff address 1 (by omega))
  | false =>
      exact (WordBits.and_not_eq_self_iff address 3#32).trans
        (WordBits.and_low_eq_zero_iff address 2 (by omega))

theorem resume_aligned {thumb : Bool} {pc : ARMword} (aligned : alignPc thumb pc = pc)
    (vector : Vector) :
    alignPc thumb (vector.resumeAddress thumb pc) = vector.resumeAddress thumb pc := by
  have next : alignPc thumb (pc + if thumb then 2#32 else 4#32) =
      pc + if thumb then 2#32 else 4#32 := by
    rw [alignPc_eq_self_iff] at aligned ⊢
    cases thumb <;> simp at aligned ⊢ <;> omega
  cases vector <;> first | exact next | exact aligned

theorem registerRow_banked {number : RegNum} (banked : regClass number = .banked) (bank : Bank) :
    registerRow bank number = bank := by
  simp [registerRow, banked]

theorem bankedReg_abort {highVectors : Mem → Bool} {state : ARMulState Mem}
    (coherent : Coherent32 state) {vector : Vector} (is32 : vector.is32 = true) (bank : Bank)
    {number : RegNum} (notPc : number ≠ 15#4)
    (notLink : ¬(bank = modeToBank (vector.mode true) ∧ number = 14#4)) :
    bankedReg (armulAbort highVectors state vector).file bank number =
      bankedReg state.file bank number := by
  rw [armulAbort_eq highVectors coherent.prog32 coherent.valid is32, bankedReg_set, bankedReg_set,
    bankedReg_enterFile coherent.live coherent.valid (Vector.mode_valid is32)]
  have bank14 : (enterFile state.file state.mode (vector.mode true)).bank =
      modeToBank (vector.mode true) := enterFile_bank coherent.live _
  rw [if_neg (fun same => notPc same.1), if_neg]
  rintro ⟨link, shared⟩
  subst link
  rw [registerRow_banked rfl, registerRow_banked rfl, bank14] at shared
  exact notLink ⟨shared, rfl⟩

theorem armulAbort_coherent (highVectors : Mem → Bool) {state : ARMulState Mem}
    (coherent : Coherent32 state) {vector : Vector} (is32 : vector.is32 = true) :
    Coherent32 (armulAbort highVectors state vector) := by
  rw [armulAbort_eq highVectors coherent.prog32 coherent.valid is32]
  exact ⟨coherent.prog32, Vector.mode_valid is32, enterFile_bank coherent.live _⟩

theorem writeSR15_eq {state : ARMulState Mem} (coherent : Coherent32 state)
    (handler : state.file.bank ≠ .userbank)
    (returns : validMode ((state.spsr state.file.bank).setWidth 5) = true) (src : ARMword) :
    let saved := state.spsr state.file.bank
    writeSR15 state src =
      { enterMode state (saved.setWidth 5) with
        file := (enterFile state.file state.mode (saved.setWidth 5)).set 15#4
          (alignPc (unpackFlags saved).tFlag src)
        flags := unpackFlags saved
        cpsr := saved
        nextInstr := state.nextInstr ||| 4#8 } := by
  intro saved
  let taken : ARMulState Mem := { state with cpsr := saved }
  have altered := armulCPSRAltered_eq (show taken.prog32Sig = true from coherent.prog32)
    coherent.valid returns
  rw [writeSR15, if_neg handler]
  simp only [show armulCPSRAltered { state with cpsr := state.spsr state.file.bank } = _ from altered]
  rfl

theorem abort_link (highVectors : Mem → Bool) {state : ARMulState Mem}
    (coherent : Coherent32 state) {vector : Vector} (is32 : vector.is32 = true) :
    (armulAbort highVectors state vector).reg 14#4 = linkAddress state vector := by
  rw [armulAbort_eq highVectors coherent.prog32 coherent.valid is32]
  simp [ARMulState.reg, Registers.set]

theorem exceptionReturn_eq (highVectors : Mem → Bool) {state : ARMulState Mem}
    (coherent : Coherent32 state) {vector : Vector} (returns : vector.returns = true) :
    let entered := armulAbort highVectors state vector
    exceptionReturn entered vector =
      { enterMode entered state.mode with
        file := (enterFile entered.file entered.mode state.mode).set 15#4
          (alignPc state.tFlag (linkAddress state vector - vector.returnOffset))
        flags := state.flags
        cpsr := armulGetCPSR state
        nextInstr := entered.nextInstr ||| 4#8 } := by
  intro entered
  have is32 := Vector.is32_of_returns returns
  have bank : entered.file.bank = modeToBank (vector.mode true) := by
    rw [(armulAbort_coherent highVectors coherent is32).live,
      armulAbort_eq highVectors coherent.prog32 coherent.valid is32]
    rfl
  have saved : entered.spsr entered.file.bank = armulGetCPSR state := by
    rw [bank, show entered.spsr = _ from congrArg ARMulState.spsr
      (armulAbort_eq highVectors coherent.prog32 coherent.valid is32)]
    exact Function.update_self _ _ _
  have handler : entered.file.bank ≠ .userbank := by
    rw [bank]
    cases vector <;> simp [Vector.returns, Vector.mode, modeToBank] at returns ⊢ <;> decide
  have selects : (entered.spsr entered.file.bank).setWidth 5 = state.mode := by
    rw [saved]
    exact packCPSR_mode _ _
  have result := writeSR15_eq (armulAbort_coherent highVectors coherent is32) handler
    (by rw [selects]; exact coherent.valid) (entered.reg 14#4 - vector.returnOffset)
  rw [exceptionReturn, result]
  simp only [saved, show unpackFlags (armulGetCPSR state) = state.flags from
    unpackFlags_packCPSR _ _, show (armulGetCPSR state).setWidth 5 = state.mode from
    packCPSR_mode _ _, abort_link highVectors coherent is32, entered]
  rfl

/-- Returning from an exception restores the status word, every register of every
bank but the handler's own link register, and resumes where the architecture says. -/
theorem exception_round_trip (highVectors : Mem → Bool) (state : ARMulState Mem)
    (coherent : Coherent32 state) (vector : Vector) (returns : vector.returns = true)
    (pc : ARMword) (pipelined : state.reg 15#4 = pc + 2#32 * insnSize state) :
    let final := exceptionReturn (armulAbort highVectors state vector) vector
    let target := modeToBank (vector.mode true)
    armulGetCPSR final = armulGetCPSR state ∧ final.flags = state.flags ∧
      final.mode = state.mode ∧ final.file.bank = state.file.bank ∧
      (∀ bank number, number ≠ 15#4 → ¬(bank = target ∧ number = 14#4) →
        bankedReg final.file bank number = bankedReg state.file bank number) ∧
      (∀ bank, bank ≠ target → final.spsr bank = state.spsr bank) ∧
      final.reg 15#4 = alignPc state.tFlag (vector.resumeAddress state.tFlag pc) ∧
      (alignPc state.tFlag pc = pc → final.reg 15#4 = vector.resumeAddress state.tFlag pc) := by
  have is32 := Vector.is32_of_returns returns
  have entered32 := armulAbort_coherent highVectors coherent is32
  have spsrs : (armulAbort highVectors state vector).spsr =
      Function.update state.spsr (modeToBank (vector.mode true)) (armulGetCPSR state) := by
    rw [armulAbort_eq highVectors coherent.prog32 coherent.valid is32]
  have resume : linkAddress state vector - vector.returnOffset =
      vector.resumeAddress state.tFlag pc := by
    rw [linkAddress, pipelined]
    exact link_returns returns state.tFlag pc
  have pcEq : (exceptionReturn (armulAbort highVectors state vector) vector).reg 15#4 =
      alignPc state.tFlag (vector.resumeAddress state.tFlag pc) := by
    rw [exceptionReturn_eq highVectors coherent returns, ← resume]
    simp [ARMulState.reg, Registers.set]
  intro final target
  have finalEq : final = _ := exceptionReturn_eq highVectors coherent returns
  refine ⟨?_, ?_, ?_, ?_, ?_, ?_, pcEq, ?_⟩
  · rw [finalEq]
    rfl
  · rw [finalEq]
  · rw [finalEq]
    rfl
  · rw [finalEq, coherent.live]
    exact enterFile_bank entered32.live _
  · intro bank number notPc notLink
    rw [finalEq, bankedReg_set, if_neg (fun same => notPc same.1),
      bankedReg_enterFile entered32.live entered32.valid coherent.valid]
    exact bankedReg_abort coherent is32 bank notPc notLink
  · intro bank other
    rw [finalEq]
    simp only [enterMode, spsrs]
    exact Function.update_of_ne other _ _
  · intro aligned
    exact pcEq.trans (resume_aligned aligned vector)

/-- The handler of a data abort that `state` took at the instruction at `pc`. -/
structure AbortEntered (highVectors : Mem → Bool) (state final : ARMulState Mem) (pc : ARMword) :
    Prop where
  mode : final.mode = abort32mode
  bank : final.file.bank = .abortbank
  vector : final.reg 15#4 = vectorAddress highVectors final.mem .dataAbortV
  saved : final.spsr .abortbank = armulGetCPSR state
  others : ∀ bank, bank ≠ .abortbank → final.spsr bank = state.spsr bank
  link : final.reg 14#4 = pc + 8#32

theorem linkAddress_dataAbort {state : ARMulState Mem} {pc : ARMword}
    (pipelined : state.reg 15#4 = pc + 2#32 * insnSize state) :
    linkAddress state .dataAbortV = pc + 8#32 := by
  rw [linkAddress, pipelined]
  unfold insnSize
  cases state.tFlag with
  | false => simp [Vector.linkOffset]
  | true =>
      simp only [Vector.linkOffset, if_true]
      bv_omega

theorem abortEntered_of_kept {highVectors : Mem → Bool} {state faulted : ARMulState Mem}
    (coherent : Coherent32 faulted) (flags : faulted.flags = state.flags)
    (mode : faulted.mode = state.mode) (spsr : faulted.spsr = state.spsr) {pc : ARMword}
    (pipelined : faulted.reg 15#4 = pc + 2#32 * insnSize faulted) :
    AbortEntered highVectors state (armulAbort highVectors faulted .dataAbortV) pc := by
  have is32 : Vector.is32 .dataAbortV = true := rfl
  have link := (abort_link highVectors coherent is32).trans (linkAddress_dataAbort pipelined)
  have live := (armulAbort_coherent highVectors coherent is32).live
  have entered := armulAbort_eq highVectors coherent.prog32 coherent.valid is32
  have saved : armulGetCPSR faulted = armulGetCPSR state := by
    rw [armulGetCPSR, armulGetCPSR, flags, mode]
  have entersAbort : (armulAbort highVectors faulted .dataAbortV).mode = abort32mode := by
    rw [entered]
    rfl
  refine ⟨entersAbort, ?_, ?_, ?_, ?_, link⟩
  · rw [live, entersAbort]
    rfl
  · rw [entered]
    simp [ARMulState.reg, Registers.set, enterMode]
  · rw [entered, ← saved]
    exact Function.update_self Bank.abortbank (armulGetCPSR faulted) faulted.spsr
  · intro bank other
    rw [entered, ← spsr]
    exact Function.update_of_ne other (armulGetCPSR faulted) faulted.spsr

/-- A v5 core in the given mode with clear registers, about to execute at `pc`. -/
def coreAt (mode : ModeNum) (thumb : Bool) (pc : ARMword) (mem : Mem) : ARMulState Mem :=
  { file :=
      { reg := Function.update (fun _ => 0#32) 15#4 (pc + 2#32 * if thumb then 2#32 else 4#32)
        regBank := fun _ _ => 0#32
        bank := modeToBank mode }
    flags :=
      { nFlag := false, zFlag := true, cFlag := false, vFlag := false, sFlag := false
        tFlag := thumb
        ifFlags := 0#2 }
    cpsr := 0#32
    spsr := fun _ => 0#32
    mode
    nextInstr := 0#8
    emulate := .run
    abortSig := false
    ntransSig := mode &&& 3#5 != 0#5
    bigendSig := true
    prog32Sig := true
    lateabtSig := true
    aborted := 0#32
    abortAddr := 1#32
    isV4 := true
    isV5 := true
    isV5e := false
    isXScale := false
    mem }

theorem coreAt_coherent {mode : ModeNum} (valid : validMode mode = true) (thumb : Bool)
    (pc : ARMword) (mem : Mem) : Coherent32 (coreAt mode thumb pc mem) := by
  exact ⟨rfl, valid, rfl⟩

theorem exception_round_trip_irq :
    (exceptionReturn (armulAbort (fun _ => true) (coreAt user32mode true 0x8002#32 ()) .irqV)
      .irqV).reg 15#4 = 0x8002#32 := by
  have trip := exception_round_trip (fun _ => true) (coreAt user32mode true 0x8002#32 ())
    (coreAt_coherent (by decide) _ _ _) .irqV rfl 0x8002#32 (by decide)
  exact trip.2.2.2.2.2.2.2 (by decide)

end SkyeyeStarlet
