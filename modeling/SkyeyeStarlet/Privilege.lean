import SkyeyeStarlet.Kept
import SkyeyeStarlet.Pipeline
import SkyeyeStarlet.TransferAbortExact

/-!
User mode against the privileged ones: an instruction of User mode leaves the mode, the
interrupt masks, the saved status words and the banks of the other modes as they are, or enters
an exception at its vector.  A load or store that writes register 15 back as its base behind a
data abort is the one that goes elsewhere.
-/

namespace SkyeyeStarlet

variable {Mem : Type}

structure InUser (state : ARMulState Mem) : Prop where
  mode : state.mode = user32mode
  bank : state.file.bank = .userbank
  prog32 : state.prog32Sig = true

structure Confined (before after : ARMulState Mem) : Prop where
  user : InUser after
  masks : after.flags.ifFlags = before.flags.ifFlags
  spsr : after.spsr = before.spsr
  banked : ∀ bank, bank ≠ .userbank → after.file.regBank bank = before.file.regBank bank

structure InHandler (vector : Vector) (before after : ARMulState Mem) : Prop where
  mode : after.mode = vector.mode true
  bank : after.file.bank = modeToBank (vector.mode true)
  prog32 : after.prog32Sig = true
  arm : after.tFlag = false
  masks : after.flags.ifFlags = before.flags.ifFlags ||| vector.mask.extractLsb' 6 2

/-- The abort of an S form load that lists register 15 returns at once, through the status that
it has saved. -/
structure SentBack (before after : ARMulState Mem) : Prop where
  user : InUser after
  masks : after.flags.ifFlags = before.flags.ifFlags

/-- An exception has been entered from User mode: the next instruction is the one at the vector,
and the handler would return to User mode.  The registers of the handler's own bank are left
out, which the result of a refused `mrc` and a late base register reach too. -/
structure Entered (highVectors : Mem → Bool) (before after : ARMulState Mem) (vector : Vector) :
    Prop where
  is32 : vector.is32 = true
  next : after.reg 15#4 = vectorAddress highVectors after.mem vector
  flush : ¬after.nextInstr < 4#8
  control : InHandler vector before after ∨ SentBack before after
  savedMode : (after.spsr (modeToBank (vector.mode true))).setWidth 5 = user32mode
  savedMasks : (after.spsr (modeToBank (vector.mode true))).extractLsb' 6 2 = before.flags.ifFlags
  spsr : ∀ bank, bank ≠ modeToBank (vector.mode true) → after.spsr bank = before.spsr bank
  banked : ∀ bank, bank ≠ .userbank → bank ≠ modeToBank (vector.mode true) →
    after.file.regBank bank = before.file.regBank bank

variable {before state : ARMulState Mem}

theorem Confined.refl (user : InUser state) : Confined state state := by
  exact ⟨user, rfl, rfl, fun _ _ => rfl⟩

theorem confined_closed (before : ARMulState Mem) : Closed (Confined before) := by
  constructor
  · intro middle after confined same
    have file := congrArg View.file same
    have mode := congrArg View.mode same
    have spsr := congrArg View.spsr same
    have masks := congrArg View.ifFlags same
    have prog32 := congrArg View.prog32Sig same
    simp only [ARMulState.view] at file mode spsr masks prog32
    refine ⟨⟨mode.trans confined.user.mode, ?_, prog32.trans confined.user.prog32⟩,
      masks.trans confined.masks, spsr.trans confined.spsr, ?_⟩
    · rw [file]
      exact confined.user.bank
    · rw [file]
      exact confined.banked
  · intro middle number value confined
    exact ⟨⟨confined.user.mode, confined.user.bank, confined.user.prog32⟩, confined.masks,
      confined.spsr, confined.banked⟩

theorem Confined.altered (confined : Confined before state) {word : ARMword}
    (mode : word.setWidth 5 = user32mode) (masks : word.extractLsb' 6 2 = state.flags.ifFlags) :
    Confined before (armulCPSRAltered { state with cpsr := word }) := by
  have same : word.setWidth 5 = state.mode := mode.trans confined.user.mode.symm
  have old : validMode state.mode = true := by
    rw [confined.user.mode]
    decide
  have new : validMode (word.setWidth 5) = true := by
    rw [mode]
    decide
  have altered : armulCPSRAltered { state with cpsr := word } =
      { enterMode { state with cpsr := word } (word.setWidth 5) with
        flags := unpackFlags word } := by
    apply armulCPSRAltered_eq
    · exact confined.user.prog32
    · exact old
    · exact new
  rw [altered]
  have file : (enterMode { state with cpsr := word } (word.setWidth 5)).file = state.file := by
    exact if_pos same.symm
  refine ⟨⟨mode, ?_, confined.user.prog32⟩, masks.trans confined.masks, confined.spsr, ?_⟩
  · show (enterMode { state with cpsr := word } (word.setWidth 5)).file.bank = .userbank
    rw [file]
    exact confined.user.bank
  · intro bank other
    show (enterMode { state with cpsr := word } (word.setWidth 5)).file.regBank bank = _
    rw [file]
    exact confined.banked bank other

theorem packCPSR_masks (flags : Flags) (mode : ModeNum) :
    (packCPSR flags mode).extractLsb' 6 2 = flags.ifFlags := by
  exact congrArg Flags.ifFlags (unpackFlags_packCPSR flags mode)

theorem Confined.savedStatus (confined : Confined before state) :
    Confined before (armulCPSRAltered { state with cpsr := armulGetSPSR state state.mode }) := by
  have saved : armulGetSPSR state state.mode = packCPSR state.flags state.mode := by
    have noSpsr : bankCanAccessSpsr (modeToBank state.mode) = false := by
      rw [confined.user.mode]
      decide
    rw [armulGetSPSR, noSpsr, if_neg Bool.false_ne_true]
    rfl
  rw [saved]
  refine confined.altered ?_ (packCPSR_masks _ _)
  rw [packCPSR_mode]
  exact confined.user.mode

theorem fieldMask_user (instr : ARMword) {index : Nat} (low : index < 24) :
    (fieldMask instr false).getLsbD index = false := by
  have high : ∀ index < 24, (0xff000000#32).getLsbD index = false := by decide
  simp only [fieldMask, Bool.false_and, Bool.false_eq_true, if_false, BitVec.getLsbD_or,
    BitVec.getLsbD_zero, Bool.false_or]
  split
  · exact high index low
  · exact BitVec.getLsbD_zero

theorem fixedCPSR_low (user : InUser state) (instr rhs : ARMword) {index : Nat}
    (low : index < 24) :
    (fixedCPSR state instr rhs).getLsbD index = (armulGetCPSR state).getLsbD index := by
  have mode : inUserMode state.mode = true := by
    rw [user.mode]
    decide
  simp only [fixedCPSR, mode, Bool.not_true, BitVec.getLsbD_or, BitVec.getLsbD_and,
    BitVec.getLsbD_not, fieldMask_user instr low]
  simp
  omega

theorem Confined.fixCPSR (confined : Confined before state) (instr rhs : ARMword) :
    Confined before (armulFixCPSR state instr rhs) := by
  refine confined.altered ?_ ?_
  · rw [← confined.user.mode, ← packCPSR_mode state.flags state.mode]
    apply BitVec.eq_of_getLsbD_eq
    intro index bound
    have low := fixedCPSR_low confined.user instr rhs (show index < 24 by omega)
    simp only [BitVec.getLsbD_setWidth, low]
    rfl
  · rw [← packCPSR_masks state.flags state.mode]
    apply BitVec.eq_of_getLsbD_eq
    intro index bound
    have low := fixedCPSR_low confined.user instr rhs (show 6 + index < 24 by omega)
    simp only [BitVec.getLsbD_extractLsb', low]
    rfl

theorem Confined.fixSPSR (confined : Confined before state) (instr rhs : ARMword) :
    Confined before (armulFixSPSR state instr rhs) := by
  unfold armulFixSPSR
  dsimp only
  rw [confined.user.bank, if_neg (by decide)]
  exact confined

theorem Confined.rawReg (confined : Confined before state) (index : Nat) (value : ARMword) :
    Confined before { state with file := setRawReg state.file index value } := by
  unfold setRawReg
  split
  · exact ⟨⟨confined.user.mode, confined.user.bank, confined.user.prog32⟩, confined.masks,
      confined.spsr, confined.banked⟩
  · refine ⟨⟨confined.user.mode, confined.user.bank, confined.user.prog32⟩, confined.masks,
      confined.spsr, ?_⟩
    intro bank other
    exact (Function.update_of_ne other _ _).trans (confined.banked bank other)

theorem Confined.toUserBank (confined : Confined before state) :
    Confined before (SkyeyeStarlet.toUserBank state) := by
  unfold SkyeyeStarlet.toUserBank
  rw [confined.user.bank, if_neg (by decide)]
  exact confined

theorem Confined.toOwnBank (confined : Confined before state) :
    Confined before (SkyeyeStarlet.toOwnBank state) := by
  unfold SkyeyeStarlet.toOwnBank
  rw [confined.user.mode, if_pos (by decide)]
  exact confined

theorem armulSwitchMode_row (file : Registers) {oldmode newmode : ModeNum} {bank : Bank}
    (other : bank ≠ .userbank) (notOld : bank ≠ modeToBank oldmode) :
    (armulSwitchMode file oldmode newmode).regBank bank = file.regBank bank := by
  unfold armulSwitchMode
  dsimp only
  split
  · rfl
  · show saveBank file (modeToBank oldmode) (modeToBank newmode) bank = file.regBank bank
    generalize modeToBank oldmode = old at notOld
    cases old <;> simp only [saveBank] <;> try exact Function.update_of_ne notOld _ _
    all_goals
      rw [Function.update_of_ne notOld]
      split
      · exact Function.update_of_ne other _ _
      · rfl

theorem enterFile_row (file : Registers) {oldmode newmode : ModeNum} {bank : Bank}
    (other : bank ≠ .userbank) (notOld : bank ≠ modeToBank oldmode) :
    (enterFile file oldmode newmode).regBank bank = file.regBank bank := by
  unfold enterFile
  split
  · rfl
  · exact armulSwitchMode_row file other notOld

section Entry

variable {highVectors : Mem → Bool} {vector : Vector}

theorem Confined.entered (confined : Confined before state) (is32 : vector.is32 = true) :
    Entered highVectors before (armulAbort highVectors state vector) vector := by
  have valid : validMode state.mode = true := by
    rw [confined.user.mode]
    decide
  rw [armulAbort_eq highVectors confined.user.prog32 valid is32]
  refine ⟨is32, ?_, flushed_not_lt state.nextInstr,
    Or.inl ⟨rfl, ?_, confined.user.prog32, rfl, ?_⟩, ?_, ?_, ?_, ?_⟩
  · simp only [ARMulState.reg, Registers.set, Function.update_self]
    rfl
  · exact enterFile_bank (by rw [confined.user.bank, confined.user.mode]; decide) _
  · show state.flags.ifFlags ||| _ = _
    rw [confined.masks]
  · show (Function.update state.spsr _ (armulGetCPSR state) _).setWidth 5 = user32mode
    rw [Function.update_self]
    exact (packCPSR_mode _ _).trans confined.user.mode
  · show (Function.update state.spsr _ (armulGetCPSR state) _).extractLsb' 6 2 = _
    rw [Function.update_self]
    exact (packCPSR_masks _ _).trans confined.masks
  · intro bank other
    exact (Function.update_of_ne other _ _).trans (congrFun confined.spsr bank)
  · intro bank notUser _
    refine (enterFile_row state.file notUser ?_).trans (confined.banked bank notUser)
    rw [confined.user.mode]
    exact notUser

theorem Entered.keep (entered : Entered highVectors before state vector) {after : ARMulState Mem}
    (same : after.status = state.status) (mem : after.mem = state.mem)
    (cycle : after.nextInstr = state.nextInstr ∨ after.nextInstr = state.nextInstr ||| 1#8) :
    Entered highVectors before after vector := by
  have view := congrArg Status.view same
  have file : after.file = state.file := congrArg View.file view
  have mode : after.mode = state.mode := congrArg View.mode view
  have spsr : after.spsr = state.spsr := congrArg View.spsr view
  have masks : after.flags.ifFlags = state.flags.ifFlags := congrArg View.ifFlags view
  have prog32 : after.prog32Sig = state.prog32Sig := congrArg View.prog32Sig view
  have thumb : after.tFlag = state.tFlag := congrArg Status.tFlag same
  refine ⟨entered.is32, ?_, ?_, ?_, ?_, ?_, ?_, ?_⟩
  · rw [ARMulState.reg, file, mem]
    exact entered.next
  · rcases cycle with kept | marked
    · rw [kept]
      exact entered.flush
    · rw [marked, marked_lt]
      exact entered.flush
  · rcases entered.control with inside | back
    · exact Or.inl ⟨mode.trans inside.mode, by rw [file, inside.bank],
        prog32.trans inside.prog32, thumb.trans inside.arm, masks.trans inside.masks⟩
    · exact Or.inr ⟨⟨mode.trans back.user.mode, by rw [file, back.user.bank],
        prog32.trans back.user.prog32⟩, masks.trans back.masks⟩
  · rw [spsr]
    exact entered.savedMode
  · rw [spsr]
    exact entered.savedMasks
  · rw [spsr]
    exact entered.spsr
  · rw [file]
    exact entered.banked

theorem Entered.setReg (entered : Entered highVectors before state vector) {number : RegNum}
    (notPc : number ≠ 15#4) (value : ARMword) :
    Entered highVectors before (state.setReg number value) vector := by
  refine ⟨entered.is32, ?_, entered.flush, ?_, entered.savedMode, entered.savedMasks, entered.spsr,
    entered.banked⟩
  · rw [setReg_reg_of_ne notPc.symm]
    exact entered.next
  · rcases entered.control with inside | back
    · exact Or.inl ⟨inside.mode, inside.bank, inside.prog32, inside.arm, inside.masks⟩
    · exact Or.inr ⟨⟨back.user.mode, back.user.bank, back.user.prog32⟩, back.masks⟩

theorem Entered.unwound (entered : Entered highVectors before state vector) :
    Entered highVectors before (toOwnBank state) vector := by
  unfold SkyeyeStarlet.toOwnBank
  split
  · exact entered
  · rename_i other
    rcases entered.control with inside | back
    · refine ⟨entered.is32, (armulSwitchMode_pc _ _ _).trans entered.next, entered.flush,
        Or.inl ⟨inside.mode, ?_, inside.prog32, inside.arm, inside.masks⟩, entered.savedMode,
        entered.savedMasks, entered.spsr, ?_⟩
      · rw [armulSwitchMode_bank, inside.mode]
      · intro bank notUser notHandler
        exact (armulSwitchMode_row state.file notUser
          (show bank ≠ modeToBank user26mode from notUser)).trans
          (entered.banked bank notUser notHandler)
    · rw [back.user.mode] at other
      exact absurd rfl other

theorem Entered.returned (entered : Entered highVectors before state vector) :
    Entered highVectors before (returnFromList state) vector := by
  have aligned (thumb : Bool) : alignPc thumb (state.reg 15#4) = state.reg 15#4 := by
    rw [entered.next]
    exact alignPc_vectorAddress thumb _ _ _
  have is32 := entered.is32
  unfold returnFromList
  dsimp only
  split
  · have same : writeR15 state (state.reg 15#4) = flushpipe state := by
      rw [writeR15, aligned, ARMulState.setReg, Registers.set, ARMulState.reg,
        Function.update_eq_self]
    rw [same]
    refine ⟨is32, entered.next, flushed_not_lt state.nextInstr, ?_, entered.savedMode, entered.savedMasks,
      entered.spsr, entered.banked⟩
    rcases entered.control with inside | back
    · exact Or.inl ⟨inside.mode, inside.bank, inside.prog32, inside.arm, inside.masks⟩
    · exact Or.inr ⟨⟨back.user.mode, back.user.bank, back.user.prog32⟩, back.masks⟩
  · rename_i other
    rcases entered.control with inside | back
    · have saves : bankCanAccessSpsr (modeToBank (vector.mode true)) = true := by
        cases vector <;> rfl
      have status : armulGetSPSR state state.mode = state.spsr (modeToBank (vector.mode true)) := by
        rw [armulGetSPSR, inside.mode, if_pos saves]
      rw [status]
      generalize word_eq : state.spsr (modeToBank (vector.mode true)) = word
      have user : word.setWidth 5 = user32mode := by
        rw [← word_eq]
        exact entered.savedMode
      have masks : word.extractLsb' 6 2 = before.flags.ifFlags := by
        rw [← word_eq]
        exact entered.savedMasks
      have altered : armulCPSRAltered { state with cpsr := word } =
          { enterMode { state with cpsr := word } (word.setWidth 5) with
            flags := unpackFlags word } := by
        apply armulCPSRAltered_eq
        · exact inside.prog32
        · show validMode state.mode = true
          rw [inside.mode]
          exact Vector.mode_valid is32
        · show validMode (word.setWidth 5) = true
          rw [user]
          decide
      rw [altered, user]
      have pc : (enterFile state.file state.mode user32mode).reg 15#4 = state.reg 15#4 :=
        enterMode_pc state user32mode
      refine ⟨is32, ?_, flushed_not_lt state.nextInstr, Or.inr ⟨⟨rfl, ?_, inside.prog32⟩, masks⟩,
        entered.savedMode, entered.savedMasks, entered.spsr, ?_⟩
      · have target : alignPc (unpackFlags word).tFlag
            ((enterFile state.file state.mode user32mode).reg 15#4) =
              vectorAddress highVectors state.mem vector := by
          rw [pc, aligned, entered.next]
        simp only [writeR15, flushpipe, ARMulState.setReg, ARMulState.reg, Registers.set,
          Function.update_self]
        exact target
      · exact enterFile_bank (by rw [inside.bank, inside.mode]) user32mode
      · intro bank notUser notHandler
        refine (enterFile_row state.file notUser ?_).trans
          (entered.banked bank notUser notHandler)
        rw [inside.mode]
        exact notHandler
    · rw [back.user.mode] at other
      exact absurd rfl other

end Entry

section User

variable (bus : Bus Mem) (physical : PhysicalBus Mem)

/-- An instruction of User mode goes on in User mode, or has entered an exception. -/
def PrivilegeKept (highVectors : Mem → Bool) (before after : ARMulState Mem) : Prop :=
  Confined before after ∨ ∃ vector, Entered highVectors before after vector

theorem user_rules (before : ARMulState Mem) :
    StatusKept bus (starletTraps bus physical) (Confined before)
      (fun after => ∃ vector, Entered bus.highVectors before after vector) where
  work := (confined_closed before).stable
  rest :=
    { keep := fun entered same mem cycle => entered.imp fun _ entered => entered.keep same mem cycle
      setReg := fun _ value notPc entered => entered.imp fun _ entered => entered.setReg notPc value }
  rawReg index value confined := confined.rawReg index value
  fixCPSR instr rhs confined := confined.fixCPSR instr rhs
  fixSPSR instr rhs confined := confined.fixSPSR instr rhs
  bankStatus banked confined := absurd confined.user.bank banked
  savedStatus confined := confined.savedStatus
  userBank confined := confined.toUserBank
  ownBank confined := confined.toOwnBank
  trap {state} instr confined :=
    (confined_closed before).stable.status confined (starletTraps_peeks bus physical state instr).status
  enter vector is32 confined := ⟨vector, confined.entered is32⟩
  returned entered := entered.imp fun _ entered => entered.returned
  unwind entered := entered.imp fun _ entered => entered.unwound

/-- The word writes register 15 as its base register behind a data abort, and to an address that
is no vector of the abort handler. -/
def WritesPcBehind (state : ARMulState Mem) (word : ARMword) : Prop :=
  ∃ kind attempt, transferOf word = some kind ∧ (kind = .single ∨ kind = .half) ∧
    transferAttempt bus state word kind = some attempt ∧ attempt.taken = true ∧
    state.lateabtSig = true ∧ writesBack word = true ∧ lhsReg word = 15#4 ∧
    ∀ vector : Vector, vector.mode true = abort32mode →
      writtenAfter (offsetOf kind) state (takeAbort bus attempt.tested) word ≠
        vectorAddress bus.highVectors attempt.tested.mem vector

variable {bus physical}

theorem privilegeKept_congr {highVectors : Mem → Bool} {before first second : ARMulState Mem}
    (same : second.status = first.status) (mem : second.mem = first.mem)
    (cycle : second.nextInstr = first.nextInstr) :
    PrivilegeKept highVectors before second ↔ PrivilegeKept highVectors before first := by
  constructor
  · rintro (confined | ⟨vector, entered⟩)
    · exact Or.inl ((confined_closed before).stable.status confined same.symm)
    · exact Or.inr ⟨vector, entered.keep same.symm mem.symm (Or.inl cycle.symm)⟩
  · rintro (confined | ⟨vector, entered⟩)
    · exact Or.inl ((confined_closed before).stable.status confined same)
    · exact Or.inr ⟨vector, entered.keep same mem (Or.inl cycle)⟩

theorem Confined.coherent {before state : ARMulState Mem} (confined : Confined before state) :
    Coherent32 state := by
  refine ⟨confined.user.prog32, ?_, ?_⟩
  · rw [confined.user.mode]
    decide
  · rw [confined.user.mode, confined.user.bank]
    decide

theorem Confined.takeAbort_mode {before state : ARMulState Mem} (confined : Confined before state) :
    (takeAbort bus state).mode = abort32mode := by
  rw [takeAbort, armulAbort_eq bus.highVectors confined.user.prog32 confined.coherent.valid rfl]
  rfl

theorem Entered.redirected {before state : ARMulState Mem}
    (entered : Entered bus.highVectors before state .dataAbortV)
    (inside : state.mode = abort32mode) (value : ARMword) :
    PrivilegeKept bus.highVectors before (state.setReg 15#4 value) ↔
      ∃ vector : Vector, vector.mode true = abort32mode ∧
        value = vectorAddress bus.highVectors state.mem vector := by
  constructor
  · rintro (confined | ⟨vector, elsewhere⟩)
    · have user : state.mode = user32mode := confined.user.mode
      rw [inside] at user
      exact absurd user (by decide)
    · have next := elsewhere.next
      rw [setReg_reg_self] at next
      rcases elsewhere.control with handled | back
      · exact ⟨vector, handled.mode.symm.trans inside, next⟩
      · have user : state.mode = user32mode := back.user.mode
        rw [inside] at user
        exact absurd user (by decide)
  · rintro ⟨vector, aborts, rfl⟩
    have handled : InHandler .dataAbortV before state := by
      rcases entered.control with handled | back
      · exact handled
      · exact absurd (inside.symm.trans back.user.mode) (by decide)
    have which : vector = .prefetchAbortV ∨ vector = .dataAbortV := by
      revert aborts
      cases vector <;> decide
    have bank : modeToBank (vector.mode true) = modeToBank (Vector.mode true .dataAbortV) := by
      rw [aborts]
      rfl
    have mask : vector.mask = Vector.mask .dataAbortV := by
      rcases which with rfl | rfl <;> rfl
    refine Or.inr ⟨vector, ?_, setReg_reg_self _ _ _, entered.flush, Or.inl ⟨?_, ?_, handled.prog32,
      handled.arm, ?_⟩, ?_, ?_, ?_, ?_⟩
    · rcases which with rfl | rfl <;> rfl
    · exact inside.trans aborts.symm
    · rw [bank]
      exact handled.bank
    · rw [mask]
      exact handled.masks
    · rw [bank]
      exact entered.savedMode
    · rw [bank]
      exact entered.savedMasks
    · rw [bank]
      exact entered.spsr
    · rw [bank]
      exact entered.banked

theorem indexedAttempt_late (offset : ARMulState Mem → ARMword → ARMword) (size : AccessSize)
    (state : ARMulState Mem) (word : ARMword) :
    (indexedAttempt bus offset size state word).tested.lateabtSig = state.lateabtSig := by
  have reads (start : ARMulState Mem) (address : ARMword) :
      (armulRead bus size start address).1.lateabtSig = start.lateabtSig := by
    unfold armulRead
    dsimp only
    split <;> rfl
  have writes (start : ARMulState Mem) (address data : ARMword) :
      (armulWrite bus size start address data).lateabtSig = start.lateabtSig := by
    unfold armulWrite
    dsimp only
    split <;> rfl
  unfold indexedAttempt
  dsimp only
  cases word.getLsbD 20 with
  | true =>
      refine (reads _ _).trans ?_
      unfold bususedincpcs
      split <;> rfl
  | false =>
      refine (writes _ _ _).trans ?_
      unfold bususedincpcn
      split <;> rfl

theorem Confined.indexedTransfer_iff {before state : ARMulState Mem} {size : AccessSize}
    {access : ARMulState Mem → ARMword → ARMword → ARMulState Mem × Bool} {word : ARMword}
    (confined : Confined before state)
    (accesses : Accesses bus (Confined before) size access state word)
    (offset : ARMulState Mem → ARMword → ARMword) :
    let attempt := indexedAttempt bus offset size state word
    PrivilegeKept bus.highVectors before (indexedTransfer offset access state word) ↔
      ¬(attempt.taken = true ∧ state.lateabtSig = true ∧ writesBack word = true ∧
        lhsReg word = 15#4 ∧ ∀ vector : Vector, vector.mode true = abort32mode →
          writtenAfter offset state (takeAbort bus attempt.tested) word ≠
            vectorAddress bus.highVectors attempt.tested.mem vector) := by
  intro attempt
  have attempted : Attempted bus (Confined before) attempt _ :=
    accesses.attempted (confined_closed before).stable.toPassive offset confined
  cases taken : attempt.taken with
  | false =>
      simp only [Bool.false_eq_true, false_and, not_false_eq_true, iff_true]
      exact Or.inl
        ((confined_closed before).stable.indexedTransfer_clear (attempted.clear taken))
  | true =>
      have entered : Entered bus.highVectors before (takeAbort bus attempt.tested) .dataAbortV :=
        attempted.tested.entered rfl
      have kept := takeAbort_late bus attempted.tested.coherent
      rw [indexedTransfer_late (attempted.faulted taken), kept.1, indexedAttempt_late]
      cases writes : writesBack word && state.lateabtSig with
      | false =>
          rw [Bool.and_eq_false_iff] at writes
          refine iff_of_true (Or.inr ⟨_, entered⟩) ?_
          rintro ⟨-, late, back, -⟩
          rw [late, back] at writes
          exact absurd writes (by decide)
      | true =>
          rw [Bool.and_eq_true] at writes
          rw [if_pos rfl]
          by_cases pc : lhsReg word = 15#4
          · rw [pc, entered.redirected attempted.tested.takeAbort_mode, kept.2]
            simp only [writes.1, writes.2, true_and, not_forall, not_not, exists_prop, ne_eq]
          · refine iff_of_true (Or.inr ⟨_, entered.setReg pc _⟩) ?_
            exact fun behind => pc behind.2.2.2.1

theorem singleStarted_confined {before state : ARMulState Mem} (confined : Confined before state)
    (word : ARMword) : Confined before (singleStarted state word) := by
  unfold singleStarted
  split
  · exact (confined_closed before).view confined rfl
  · exact confined

theorem Confined.indexed_iff {state : ARMulState Mem} (confined : Confined state state)
    {word : ARMword} {kind : Transfer} (transfers : transferOf word = some kind)
    (indexed : kind = .single ∨ kind = .half) (traps : Traps Mem) :
    PrivilegeKept bus.highVectors state (dataTransfer bus traps state word kind) ↔
      ¬WritesPcBehind bus state word := by
  have stable := (confined_closed state).stable
  have unfolded (attempt : Attempt Mem) (attempts : transferAttempt bus state word kind = some attempt) :
      WritesPcBehind bus state word ↔
        attempt.taken = true ∧ state.lateabtSig = true ∧ writesBack word = true ∧
          lhsReg word = 15#4 ∧ ∀ vector : Vector, vector.mode true = abort32mode →
            writtenAfter (offsetOf kind) state (takeAbort bus attempt.tested) word ≠
              vectorAddress bus.highVectors attempt.tested.mem vector := by
    constructor
    · rintro ⟨other, found, same, -, attempts', behind⟩
      obtain rfl : kind = other := Option.some.inj (transfers.symm.trans same)
      obtain rfl : attempt = found := Option.some.inj (attempts.symm.trans attempts')
      exact behind
    · exact fun behind => ⟨kind, attempt, transfers, indexed, attempts, behind⟩
  rcases indexed with rfl | rfl
  · have started := singleStarted_confined confined word
    have final : PrivilegeKept bus.highVectors state (singleTransfer bus state word) ↔
        PrivilegeKept bus.highVectors state
          (indexedTransfer singleOffset (singleAccess bus) (singleStarted state word) word) := by
      unfold singleTransfer singleStarted
      split
      · exact privilegeKept_congr rfl rfl rfl
      · exact Iff.rfl
    have late : (singleStarted state word).lateabtSig = state.lateabtSig := by
      unfold singleStarted
      split <;> rfl
    have written (entered : ARMulState Mem) :
        writtenAfter singleOffset (singleStarted state word) entered word =
          writtenAfter singleOffset state entered word := by
      unfold singleStarted
      split <;> rfl
    have exact := started.indexedTransfer_iff (stable.accesses_single bus _ word) singleOffset
    rw [unfolded _ rfl]
    simp only [late, written] at exact
    exact final.trans exact
  · rw [unfolded _ rfl]
    exact confined.indexedTransfer_iff (stable.accesses_half bus state word) getLS7RHS

/-- One instruction of User mode, ARM or Thumb. -/
theorem user_confined_iff (bus : Bus Mem) (physical : PhysicalBus Mem) {cops : Coprocessors Mem}
    (quiet : QuietCoprocessors cops) (state : ARMulState Mem) (user : InUser state)
    (pc instr : ARMword) :
    PrivilegeKept bus.highVectors state
        (execute bus (starletTraps bus physical) cops state pc instr) ↔
      ∀ word, switchedWord state pc instr = some word → ¬WritesPcBehind bus state word := by
  have confined := Confined.refl user
  have rules := user_rules bus physical state
  have kept (word : ARMword) (switched : switchedWord state pc instr = some word) :
      execute bus (starletTraps bus physical) cops state pc instr =
        mainSwitch bus (starletTraps bus physical) cops state pc word :=
    execute_switched switched
  constructor
  · intro privilege word switched behind
    have ⟨kind, _, transfers, indexed, _⟩ := behind
    rw [kept word switched, mainSwitch, transfers] at privilege
    exact (confined.indexed_iff transfers indexed _).mp privilege behind
  · intro fine
    refine rules.execute (Or.inl quiet) ?_ confined
    intro word switched kind transfers indexed
    exact (confined.indexed_iff transfers indexed _).mpr (fine word switched)

def closedCore : ARMulState FlatMemory :=
  (coreAt user32mode false 0x8000#32 closedMemory).setReg 1#4 0x1000#32

theorem closedCore_user : InUser closedCore := by
  exact ⟨rfl, rfl, rfl⟩

/-- `ldr r0, [pc], r1` goes on in abort mode at `pc + r1`. -/
theorem user_chooses_handler :
    let after :=
      execute flatBus (starletTraps flatBus flatPhysical) noUnits closedCore 0x8000#32 0xe69f0001#32
    InUser closedCore ∧ after.mode = abort32mode ∧ after.reg 15#4 = 0x9008#32 ∧
      ¬after.nextInstr < 4#8 ∧ ¬PrivilegeKept flatBus.highVectors closedCore after := by
  intro after
  have mode : after.mode = abort32mode := by
    decide +kernel
  have next : after.reg 15#4 = 0x9008#32 := by
    decide +kernel
  refine ⟨closedCore_user, mode, next, by decide +kernel, ?_⟩
  rintro (confined | ⟨vector, entered⟩)
  · exact absurd (mode.symm.trans confined.user.mode) (by decide)
  · have vectored := next.symm.trans entered.next
    revert vectored
    cases vector <;> decide

/-- A `msr` that asks for supervisor mode with both interrupts masked changes neither, and
`ldr r0, [r1], #4` leads to the abort handler. -/
theorem user_confined_iff_closed :
    Confined closedCore (execute flatBus (starletTraps flatBus flatPhysical) noUnits closedCore
        0x8000#32 0xe321f0d3#32) ∧
      ∃ vector, Entered flatBus.highVectors closedCore
        (execute flatBus (starletTraps flatBus flatPhysical) noUnits closedCore
          0x8000#32 0xe4910004#32) vector := by
  have kept (instr : ARMword) (switched : switchedWord closedCore 0x8000#32 instr = some instr)
      (base : lhsReg instr ≠ 15#4 ∨ transferOf instr = none) :=
    (user_confined_iff flatBus flatPhysical noUnits_quiet closedCore closedCore_user 0x8000#32
      instr).mpr (by
        intro word same
        obtain rfl := Option.some.inj (switched.symm.trans same)
        rintro ⟨kind, _, transfers, -, -, -, -, -, pc, -⟩
        rcases base with other | none
        · exact other pc
        · rw [none] at transfers
          cases transfers)
  constructor
  · rcases kept 0xe321f0d3#32 (by decide) (Or.inr (by decide)) with confined | ⟨_, entered⟩
    · exact confined
    · exact absurd entered.flush (by decide +kernel)
  · rcases kept 0xe4910004#32 (by decide) (Or.inl (by decide)) with confined | entered
    · exact absurd confined.user.mode (by decide +kernel)
    · exact entered

end User

section Reachable

/-- A mode that uses the user bank has it live.  Interrupted S form transfers can leave
the user bank in other modes, never another bank in User mode. -/
def BankSound (state : ARMulState Mem) : Prop :=
  modeToBank state.mode = .userbank → state.file.bank = .userbank

theorem bankSound_enterMode (sound : BankSound state) (newmode : ModeNum) :
    BankSound (enterMode state newmode) := by
  intro user
  show (enterFile state.file state.mode newmode).bank = .userbank
  unfold enterFile
  split
  · rename_i same
    exact sound (by rw [same]; exact user)
  · rw [armulSwitchMode_bank]
    exact user

theorem bankSound_closed : Closed (BankSound : ARMulState Mem → Prop) := by
  constructor
  · intro before after sound same user
    have file := congrArg View.file same
    have mode := congrArg View.mode same
    simp only [ARMulState.view] at file mode
    rw [file]
    exact sound (by rw [← mode]; exact user)
  · intro state number value sound
    exact sound

theorem bankSound_altered (sound : BankSound state) (cpsr : ARMword) :
    BankSound (armulCPSRAltered { state with cpsr }) := by
  have entered (word : ARMword) :
      BankSound { enterMode { state with cpsr := word } (word.setWidth 5) with
        flags := unpackFlags word } :=
    bankSound_enterMode (bankSound_closed.view sound rfl) (word.setWidth 5)
  unfold armulCPSRAltered
  dsimp only
  generalize (if state.prog32Sig = true then cpsr else cpsr &&& 0xf80000c3#32) = word
  split
  · split
    · exact entered _
    · exact bankSound_closed.view (bankSound_closed.setReg 15#4 _ (entered _)) rfl
  · split
    · exact bankSound_closed.view (bankSound_closed.setReg 15#4 _ (entered _)) rfl
    · exact bankSound_closed.setReg 15#4 _ (entered _)

theorem bankSound_setR15 (sound : BankSound state) (value : ARMword) :
    BankSound (armulSetR15 state value) := by
  unfold armulSetR15
  split
  · exact bankSound_closed.stable.flushpipe (bankSound_closed.setReg 15#4 _ sound)
  · refine bankSound_closed.stable.flushpipe ?_
    exact bankSound_enterMode (bankSound_closed.setReg 15#4 value sound) _

theorem bankSound_abort (highVectors : Mem → Bool) (sound : BankSound state)
    (vector : Vector) : BankSound (armulAbort highVectors state vector) := by
  have entered : BankSound (setabort (clearAborted state vector) vector.mask
      (vector.mode state.prog32Sig) (exceptionPc state - vector.linkOffset state.tFlag)) := by
    refine bankSound_closed.setReg 14#4 _ (bankSound_altered ?_ _)
    exact sound
  unfold armulAbort
  dsimp only
  split
  · exact bankSound_setR15 entered _
  · exact bankSound_setR15 entered _

theorem bankSound_ownBank (sound : BankSound state) : BankSound (toOwnBank state) := by
  unfold toOwnBank
  split
  · exact sound
  · exact fun user => (armulSwitchMode_bank _ _ _).trans user

theorem bankSound_rules (bus : Bus Mem) (physical : PhysicalBus Mem) :
    StatusKept bus (starletTraps bus physical) BankSound BankSound where
  work := bankSound_closed.stable
  rest := bankSound_closed.stable.rested
  rawReg {state} index value sound := by
    intro user
    show (setRawReg state.file index value).bank = .userbank
    unfold setRawReg
    split
    · exact sound user
    · exact sound user
  fixCPSR instr rhs sound := bankSound_altered sound _
  fixSPSR {state} instr rhs sound := by
    unfold armulFixSPSR
    dsimp only
    split
    · exact sound
    · exact sound
  bankStatus _ sound := bankSound_altered sound _
  savedStatus sound := bankSound_altered sound _
  userBank {state} sound := by
    unfold toUserBank
    split
    · exact fun _ => armulSwitchMode_bank _ _ _
    · exact sound
  ownBank sound := bankSound_ownBank sound
  trap {state} instr sound :=
    bankSound_closed.stable.status sound (starletTraps_peeks bus physical state instr).status
  enter vector _ sound := bankSound_abort _ sound vector
  returned sound := bankSound_closed.stable.returnFromList
    (fun sound => bankSound_altered sound _) sound
  unwind sound := bankSound_ownBank sound

theorem bankSound_loose (bus : Bus Mem) : Loose bus (BankSound : ARMulState Mem → Prop) BankSound where
  rest := bankSound_closed.stable
  enter vector sound := bankSound_abort _ sound vector
  again vector sound := bankSound_abort _ sound vector

theorem inUser_run (bus : Bus Mem) (physical : PhysicalBus Mem) (cops : Coprocessors Mem)
    (emulator : Emulator Mem) (sound : BankSound emulator.cpu) (rounds : List (Round Mem)) :
    let reached :=
      (Runs.run (emulateRound bus (starletTraps bus physical) cops) emulator rounds).cpu
    reached.mode = user32mode → reached.prog32Sig = true → InUser reached := by
  intro reached mode prog32
  have kept : BankSound reached :=
    (bankSound_rules bus physical).run (bankSound_loose bus) cops emulator sound rounds
  exact ⟨mode, kept (by rw [mode]; decide), prog32⟩

end Reachable

end SkyeyeStarlet
