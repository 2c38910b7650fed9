import SkyeyeStarlet.TransferAbort

/-!
The single transfers that do not abort precisely, each on a processor whose memory
cannot be accessed at all or, for the swaps, can only be read.
-/

namespace SkyeyeStarlet

def closedMemory : FlatMemory :=
  { words := fun _ => 0x5a5a5a5a#32, unmapped := fun _ => true, readOnly := fun _ => false }

def transferProbe (mode : ModeNum) (pc : ARMword) (live : RegNum → ARMword) (cells : ARMword)
    (mem : FlatMemory) : ARMulState FlatMemory :=
  { coreAt mode false pc mem with
    file :=
      { reg := Function.update live 15#4 (pc + 8#32)
        regBank := fun _ _ => cells
        bank := modeToBank mode } }

theorem pageOf_doubleword {address : ARMword} (aligned : address &&& 7#32 = 0#32) :
    pageOf (address + 4#32) = pageOf address := by
  have bit : address &&& 4#32 = 0#32 := by
    calc address &&& 4#32 = address &&& (7#32 &&& 4#32) := by rfl
      _ = (address &&& 7#32) &&& 4#32 := (BitVec.and_assoc _ _ _).symm
      _ = 0#32 := by rw [aligned]; rfl
  rw [BitVec.add_eq_or_of_and_eq_zero _ _ bit]
  show (address ||| 4#32) &&& ~~~0x3ff#32 = address &&& ~~~0x3ff#32
  rw [BitVec.and_or_distrib_right]
  exact BitVec.or_zero

theorem flatBus_laws : MemoryLaws flatBus FlatMemory.words where
  read := fun _ _ _ _ => rfl
  faultyWrite := by
    intro size mode address data mem fault
    simp only [flatBus, flatWrite] at fault ⊢
    split
    · rfl
    · split
      · rfl
      · rename_i mapped writable
        simp [mapped, writable] at fault
  record := fun _ _ _ => rfl
  unreadable := by
    intro size mode address data mem first fault
    have unmapped : mem.unmapped (pageOf address) = true := by
      by_contra mapped
      simp [first, flatBus, flatRead, mapped] at fault
    simp [first, flatBus, flatRead, flatWrite, unmapped]
  doubleword := by
    intro mode address data data' mem aligned
    simp only [flatBus, flatWrite, pageOf_doubleword aligned]
    by_cases unmapped : mem.unmapped (pageOf address) = true
    · simp [unmapped]
    · by_cases readOnly : mem.readOnly (pageOf address) = true
      · simp [unmapped, readOnly]
      · simp [unmapped, readOnly]

theorem shiftConstant_zero (shift : ShiftType) (amount : BitVec 5) :
    shiftConstant shift amount false 0#32 = 0#32 := by
  cases shift with
  | lsl => simp [shiftConstant]
  | lsr => simp [shiftConstant]
  | asr => simp [shiftConstant]
  | ror => simp [shiftConstant, rotater, flagWord]

theorem shiftConstant_ne_zero {shift : ShiftType} {amount : BitVec 5}
    (partly : ¬(shift = .lsr ∧ amount = 0#5)) :
    shiftConstant shift amount false 0x80000001#32 ≠ 0#32 := by
  revert amount
  cases shift <;> decide

theorem shiftConstant_moved {shift : ShiftType} {amount : BitVec 5}
    (partly : ¬(shift = .lsr ∧ amount = 0#5)) :
    shiftConstant shift amount false 16#32 ≠ shiftConstant shift amount false 0x80000011#32 := by
  revert amount
  cases shift <;> decide

variable {Mem : Type}

def registerOffset (instr : ARMword) : Transfer → Option (ShiftType × BitVec 5)
  | .single => if instr.getLsbD 25 then some (shiftType instr, instr.extractLsb' 7 5) else none
  | _ => if instr.getLsbD 22 then none else some (.lsl, 0#5)

theorem offsetOf_register {instr : ARMword} {kind : Transfer} {shift : ShiftType}
    {amount : BitVec 5} (form : registerOffset instr kind = some (shift, amount))
    (state : ARMulState Mem) :
    offsetOf kind state instr =
      shiftConstant shift amount state.flags.cFlag (state.reg (rhsReg instr)) := by
  have single (register : instr.getLsbD 25 = true) : singleOffset state instr =
      shiftConstant (shiftType instr) (instr.extractLsb' 7 5) state.flags.cFlag
        (state.reg (rhsReg instr)) := by
    rw [singleOffset, if_pos register, lsRegRHS_eq]
    rfl
  have half (register : instr.getLsbD 22 = false) : getLS7RHS state instr =
      shiftConstant .lsl 0#5 state.flags.cFlag (state.reg (rhsReg instr)) := by
    rw [getLS7RHS, register]
    simp [shiftConstant]
  unfold registerOffset at form
  split at form
  · cases register : instr.getLsbD 25 <;> rw [register] at form <;> cases form
    exact single register
  · rename_i other
    have offset : offsetOf kind state instr = getLS7RHS state instr := by
      cases kind <;> first | rfl | exact absurd rfl other
    cases register : instr.getLsbD 22 <;> rw [register] at form <;> cases form
    rw [offset]
    exact half register

theorem offsetOf_immediate {instr : ARMword} {kind : Transfer}
    (form : registerOffset instr kind = none) :
    ∃ value : ARMword, value.toNat < 4096 ∧
      ∀ state : ARMulState Mem, offsetOf kind state instr = value := by
  have single : (lsImmRHS instr).toNat < 4096 := by
    have bound := (instr.extractLsb' 0 12).isLt
    rw [lsImmRHS, BitVec.toNat_setWidth]
    omega
  have half : ((instr.extractLsb' 0 4).setWidth 32 |||
      ((instr.extractLsb' 8 4).setWidth 32 <<< 4) : ARMword).toNat < 4096 := by
    have low := (instr.extractLsb' 0 4).isLt
    have high := (instr.extractLsb' 8 4).isLt
    rw [BitVec.toNat_or, BitVec.toNat_shiftLeft, BitVec.toNat_setWidth, BitVec.toNat_setWidth,
      Nat.shiftLeft_eq]
    exact Nat.or_lt_two_pow (n := 12) (by omega) (by omega)
  unfold registerOffset at form
  split at form
  · have immediate : instr.getLsbD 25 = false := by
      cases register : instr.getLsbD 25 with
      | false => rfl
      | true =>
          rw [register] at form
          cases form
    exact ⟨lsImmRHS instr, single, fun state => if_neg (by rw [immediate]; simp)⟩
  · rename_i other
    have immediate : instr.getLsbD 22 = true := by
      cases register : instr.getLsbD 22 with
      | true => rfl
      | false =>
          rw [register] at form
          cases form
    have offset (state : ARMulState Mem) : offsetOf kind state instr = getLS7RHS state instr := by
      cases kind <;> first | rfl | exact absurd rfl other
    exact ⟨_, half, fun state => (offset state).trans (if_pos immediate)⟩

/-- A write to a base that the mode does not share with abort mode hits the link register
or the program counter of the handler, or a register of abort mode. -/
theorem imprecise_base {state entered final : ARMulState FlatMemory} {instr pc temp : ARMword}
    {written : Option ARMword} (file : final.file = entered.file.set (lhsReg instr) temp)
    (unshared : sharedWithAbort state.mode (lhsReg instr) = false)
    (link : lhsReg instr = 14#4 → temp ≠ pc + 8#32) (vector : lhsReg instr = 15#4 → temp ≠ 16#32)
    (other : lhsReg instr ≠ 14#4 → lhsReg instr ≠ 15#4 →
      temp ≠ bankedReg state.file .abortbank (lhsReg instr)) :
    ¬PreciseTransferAbort flatBus FlatMemory.words state final instr pc written := by
  intro precise
  have handler := precise.entered
  have base : final.reg (lhsReg instr) = temp := by
    rw [ARMulState.reg, file]
    exact Function.update_self _ _ _
  by_cases isLink : lhsReg instr = 14#4
  · rw [isLink, handler.link] at base
    exact link isLink base.symm
  · by_cases isPc : lhsReg instr = 15#4
    · have low : vectorAddress flatBus.highVectors final.mem .dataAbortV = 16#32 := by
        simp [vectorAddress, flatBus, Vector.address]
      rw [isPc, handler.vector, low] at base
      exact vector isPc base.symm
    · have rows : registerRow (modeToBank state.mode) (lhsReg instr) ≠
          registerRow .abortbank (lhsReg instr) := by
        simpa [sharedWithAbort, isLink, isPc] using unshared
      have kept := precise.registers .abortbank (lhsReg instr) isPc (fun both => isLink both.2)
        (fun isBase => rows isBase.2.symm)
      rw [← handler.bank, bankedReg_current, handler.bank] at kept
      exact other isLink isPc (base.symm.trans kept)

section Probe

variable {mode : ModeNum} {pc cells instr : ARMword} {live : RegNum → ARMword} {kind : Transfer}

theorem transferProbe_coherent (valid : validMode mode = true) {mem : FlatMemory} :
    Coherent32 (transferProbe mode pc live cells mem) := by
  exact ⟨rfl, valid, rfl⟩

theorem transferProbe_reg {number : RegNum} (notPc : number ≠ 15#4) {mem : FlatMemory} :
    (transferProbe mode pc live cells mem).reg number = live number := by
  exact Function.update_of_ne notPc _ live

theorem transferProbe_pc {mem : FlatMemory} :
    (transferProbe mode pc live cells mem).reg 15#4 = pc + 8#32 := by
  exact Function.update_self 15#4 (pc + 8#32) live

theorem closed_reads (size : AccessSize) (state : ARMulState FlatMemory)
    (closed : state.mem = closedMemory) (address : ARMword) :
    readFaults flatBus size state address := by
  rw [readFaults, closed]
  show FaultT.pageTranslationFault ≠ .noFault
  decide

theorem closed_writes (size : AccessSize) (state : ARMulState FlatMemory)
    (closed : state.mem = closedMemory) (address data : ARMword) :
    writeFaults flatBus size state address data := by
  rw [writeFaults, closed]
  show FaultT.pageTranslationFault ≠ .noFault
  decide

theorem indexed_faults (offset : ARMulState FlatMemory → ARMword → ARMword) (size : AccessSize)
    {state : ARMulState FlatMemory} (closed : state.mem = closedMemory) :
    indexedFaults flatBus offset size state instr := by
  simp only [indexedFaults]
  split
  · exact closed_reads _ _ closed _
  · exact closed_writes _ _ closed _ _

theorem closed_single {state : ARMulState FlatMemory} (coherent : Coherent32 state)
    (isV4 : state.isV4 = true) (late : state.lateabtSig = true) (closed : state.mem = closedMemory)
    (writes : writesBack instr = true) :
    ∃ faulted, Faulted FlatMemory.words state faulted ∧
      (indexedTransfer singleOffset (singleAccess flatBus) state instr).file =
        (takeAbort flatBus faulted).file.set (lhsReg instr)
          (writtenAfter singleOffset state (takeAbort flatBus faulted) instr) := by
  obtain ⟨faulted, reaches, aborts⟩ := singleAccess_faulted flatBus_laws coherent isV4 late
    (indexed_faults singleOffset (singleSize instr) closed)
  refine ⟨faulted, reaches, ?_⟩
  rw [indexedTransfer_faulted aborts, if_pos writes]
  rfl

theorem closed_transfer (pc : ARMword) (live : RegNum → ARMword) (cells : ARMword)
    (valid : validMode mode = true) (isIndexed : kind = .single ∨ kind = .half)
    (writes : writesBack instr = true) (traps : Traps FlatMemory) :
    ∃ faulted, Faulted FlatMemory.words (transferProbe mode pc live cells closedMemory) faulted ∧
      (dataTransfer flatBus traps (transferProbe mode pc live cells closedMemory) instr kind).file =
        (takeAbort flatBus faulted).file.set (lhsReg instr)
          (writtenAfter (offsetOf kind) (transferProbe mode pc live cells closedMemory)
            (takeAbort flatBus faulted) instr) := by
  have probe32 : Coherent32 (transferProbe mode pc live cells closedMemory) :=
    transferProbe_coherent valid
  obtain rfl | rfl := isIndexed
  · simp only [dataTransfer, singleTransfer]
    split
    · let user : ARMulState FlatMemory :=
        { transferProbe mode pc live cells closedMemory with ntransSig := false }
      have user32 : Coherent32 user := ⟨probe32.prog32, probe32.valid, probe32.live⟩
      obtain ⟨faulted, reaches, file⟩ := closed_single user32 rfl rfl rfl writes
      exact ⟨faulted, ⟨⟨reaches.file, reaches.mode, reaches.flags, reaches.spsr, reaches.prog32⟩,
        reaches.memory, reaches.late⟩, file⟩
    · exact closed_single probe32 rfl rfl rfl writes
  · obtain ⟨faulted, reaches, aborts⟩ := halfAccess_faulted flatBus_laws probe32 rfl rfl
      (indexed_faults getLS7RHS (halfSize instr) rfl)
    refine ⟨faulted, reaches, ?_⟩
    show (indexedTransfer getLS7RHS (halfAccess flatBus) _ instr).file = _
    rw [indexedTransfer_faulted aborts, if_pos writes]
    rfl

theorem unshared_row {number : RegNum} (unshared : sharedWithAbort mode number = false)
    (notLink : number ≠ 14#4) (notPc : number ≠ 15#4) {mem : FlatMemory} :
    bankedReg (transferProbe mode pc live cells mem).file .abortbank number = cells := by
  have rows : registerRow .abortbank number ≠ registerRow (modeToBank mode) number := by
    have different : registerRow (modeToBank mode) number ≠ registerRow .abortbank number := by
      simpa [sharedWithAbort, notLink, notPc] using unshared
    exact Ne.symm different
  exact if_neg rows

/-- Every register that can be an offset is zero in the handler when it is zero in the
state, in the other banks and in the link register. -/
theorem entered_zero (valid : validMode mode = true) {number : RegNum} (notPc : number ≠ 15#4)
    {faulted : ARMulState FlatMemory}
    (reaches : Faulted FlatMemory.words (transferProbe mode 0xfffffff8#32 live 0#32 closedMemory)
      faulted)
    (zero : sharedWithAbort mode number = true → live number = 0#32) :
    (takeAbort flatBus faulted).reg number = 0#32 := by
  have probe32 : Coherent32 (transferProbe mode 0xfffffff8#32 live 0#32 closedMemory) :=
    transferProbe_coherent valid
  have precise : PreciseTransferAbort flatBus FlatMemory.words _ (takeAbort flatBus faulted)
      0#32 0xfffffff8#32 none := precise_of_faulted probe32 rfl reaches
  cases shared : sharedWithAbort mode number with
  | true =>
      rw [takeAbort_shared probe32 reaches shared, transferProbe_reg notPc]
      exact zero shared
  | false =>
      by_cases link : number = 14#4
      · rw [link, precise.entered.link]
        rfl
      · have kept := bankedReg_takeAbort flatBus (reaches.coherent probe32) .abortbank notPc
          (fun both => link both.2)
        rw [← precise.entered.bank, bankedReg_current, precise.entered.bank, reaches.file,
          unshared_row shared link notPc] at kept
        exact kept

def noTraps : Traps FlatMemory :=
  { undfTrap := fun state _ => (state, false) }

theorem probe_precise (pc : ARMword) (live : RegNum → ARMword) (cells : ARMword)
    (valid : validMode mode = true) (isIndexed : kind = .single ∨ kind = .half)
    (precise : TransferAbortsPrecisely mode instr kind) :
    PreciseTransferAbort flatBus FlatMemory.words (transferProbe mode pc live cells closedMemory)
      (dataTransfer flatBus noTraps (transferProbe mode pc live cells closedMemory) instr kind)
      instr pc (lateBase (transferProbe mode pc live cells closedMemory) instr kind) := by
  refine precise FlatMemory _ flatBus FlatMemory.words noTraps _ pc flatBus_laws
    (transferProbe_coherent valid) rfl rfl rfl rfl rfl ?_
  obtain rfl | rfl := isIndexed
  · exact indexed_faults _ _ rfl
  · exact indexed_faults _ _ rfl

theorem written_base_imprecise (pc : ARMword) (live : RegNum → ARMword)
    (cells base value : ARMword) (valid : validMode mode = true)
    (isIndexed : kind = .single ∨ kind = .half) (writes : writesBack instr = true)
    (unshared : sharedWithAbort mode (lhsReg instr) = false)
    (written : ∀ faulted, Faulted FlatMemory.words (transferProbe mode pc live cells closedMemory)
      faulted → writtenAfter (offsetOf kind) (transferProbe mode pc live cells closedMemory)
        (takeAbort flatBus faulted) instr =
          if instr.getLsbD 23 then
            lhsValue (transferProbe mode pc live cells closedMemory) instr + value
          else lhsValue (transferProbe mode pc live cells closedMemory) instr - value)
    (isBase : lhsReg instr ≠ 15#4 → live (lhsReg instr) = base)
    (link : base + value ≠ pc + 8#32 ∧ base - value ≠ pc + 8#32)
    (vector : ((pc + 8#32) &&& 0xfffffffc#32) + value ≠ 16#32 ∧
      ((pc + 8#32) &&& 0xfffffffc#32) - value ≠ 16#32)
    (other : base + value ≠ cells ∧ base - value ≠ cells) :
    ¬TransferAbortsPrecisely mode instr kind := by
  intro precise
  obtain ⟨faulted, reaches, file⟩ := closed_transfer pc live cells valid isIndexed writes noTraps
  have atBase (notPc : lhsReg instr ≠ 15#4) :
      lhsValue (transferProbe mode pc live cells closedMemory) instr = base := by
    rw [lhsValue, if_neg notPc, transferProbe_reg notPc]
    exact isBase notPc
  refine imprecise_base file unshared ?_ ?_ ?_ (probe_precise _ _ _ valid isIndexed precise)
  · intro isLink
    rw [written faulted reaches, atBase (by rw [isLink]; decide)]
    split
    · exact link.1
    · exact link.2
  · intro isPc
    rw [written faulted reaches, lhsValue, if_pos isPc, transferProbe_pc]
    split
    · exact vector.1
    · exact vector.2
  · intro notLink notPc
    rw [written faulted reaches, atBase notPc, unshared_row unshared notLink notPc]
    split
    · exact other.1
    · exact other.2

theorem early_base_imprecise (valid : validMode mode = true)
    (isIndexed : kind = .single ∨ kind = .half) (writes : writesBack instr = true)
    (unshared : sharedWithAbort mode (lhsReg instr) = false)
    (early : (instr.getLsbD 24 || instr.getLsbD 20) = true ∧ rhsReg instr ≠ 15#4 ∨
      registerOffset instr kind = none) :
    ¬TransferAbortsPrecisely mode instr kind := by
  let probe := transferProbe mode 0x8000#32 (fun _ => 0#32) 0x80000000#32 closedMemory
  obtain ⟨value, bound, offset⟩ : ∃ value : ARMword, value.toNat < 4096 ∧
      offsetOf kind probe instr = value := by
    cases form : registerOffset instr kind with
    | none =>
        obtain ⟨value, bound, same⟩ := offsetOf_immediate form
        exact ⟨value, bound, same probe⟩
    | some shifted =>
        obtain ⟨_, offsetPc⟩ | immediate := early
        · refine ⟨0#32, by decide, ?_⟩
          rw [offsetOf_register form, show probe.reg (rhsReg instr) = 0#32 from
            transferProbe_reg offsetPc]
          exact shiftConstant_zero _ _
        · rw [immediate] at form
          cases form
  refine written_base_imprecise 0x8000#32 (fun _ => 0#32) 0x80000000#32 0#32 value valid isIndexed
    writes unshared ?_ (fun _ => rfl) ?_ ?_ ?_
  · intro faulted _
    rw [writtenAfter_eq, indexed, offset]
    intro late
    obtain ⟨before, _⟩ | immediate := early
    · rw [late] at before
      cases before
    · obtain ⟨same, _, constant⟩ := offsetOf_immediate immediate
      rw [constant, constant]
  · constructor <;> bv_omega
  · show 0x8008#32 + value ≠ 16#32 ∧ 0x8008#32 - value ≠ 16#32
    constructor <;> bv_omega
  · constructor <;> bv_omega

theorem late_base_imprecise (valid : validMode mode = true)
    (isIndexed : kind = .single ∨ kind = .half) (offsetPc : rhsReg instr ≠ 15#4)
    (writes : writesBack instr = true) (unshared : sharedWithAbort mode (lhsReg instr) = false)
    (late : (instr.getLsbD 24 || instr.getLsbD 20) = false) {shift : ShiftType} {amount : BitVec 5}
    (form : registerOffset instr kind = some (shift, amount)) :
    ¬TransferAbortsPrecisely mode instr kind := by
  let live : RegNum → ARMword := Function.update (fun _ => 0#32) (lhsReg instr) 0x10000#32
  refine written_base_imprecise 0xfffffff8#32 live 0#32 0x10000#32 0#32 valid isIndexed writes
    unshared ?_ (fun _ => Function.update_self _ _ _) (by decide) (by decide) (by decide)
  intro faulted reaches
  have offset : offsetOf kind (takeAbort flatBus faulted) instr = 0#32 := by
    have carry : (takeAbort flatBus faulted).flags.cFlag = false :=
      takeAbort_carry (transferProbe_coherent valid) reaches
    have zero : (takeAbort flatBus faulted).reg (rhsReg instr) = 0#32 := by
      refine entered_zero valid offsetPc reaches ?_
      intro shared
      refine Function.update_of_ne ?_ _ _
      intro same
      rw [same, unshared] at shared
      cases shared
    rw [offsetOf_register form, carry, zero]
    exact shiftConstant_zero _ _
  rw [writtenAfter, if_neg (by rw [late]; simp), indexed, offset]

theorem entered_vector (valid : validMode mode = true) {faulted : ARMulState FlatMemory}
    (reaches : Faulted FlatMemory.words (transferProbe mode pc live cells closedMemory) faulted) :
    (takeAbort flatBus faulted).reg 15#4 = 16#32 := by
  have precise : PreciseTransferAbort flatBus FlatMemory.words _ (takeAbort flatBus faulted)
      0#32 pc none := precise_of_faulted (transferProbe_coherent valid) rfl reaches
  rw [precise.entered.vector]
  simp [vectorAddress, flatBus, Vector.address]

theorem shiftConstant_apart {word : ARMword} (isBit : word = 16#32 ∨ word = 0x4000#32)
    (shift : ShiftType) (amount : BitVec 5) :
    let value := shiftConstant shift amount false word
    (0x10#32 + value ≠ 0x4000#32 ∧ 0x10#32 - value ≠ 0x4000#32) ∧
      (0x4000#32 + value ≠ 16#32 ∧ 0x4000#32 - value ≠ 16#32) := by
  revert amount
  obtain rfl | rfl := isBit
  · cases shift <;> decide
  · cases shift <;> decide

theorem pc_base_imprecise (valid : validMode mode = true)
    (isIndexed : kind = .single ∨ kind = .half) (offsetPc : rhsReg instr = 15#4)
    (writes : writesBack instr = true) (unshared : sharedWithAbort mode (lhsReg instr) = false)
    {shift : ShiftType} {amount : BitVec 5}
    (form : registerOffset instr kind = some (shift, amount)) :
    ¬TransferAbortsPrecisely mode instr kind := by
  let counter : ARMword :=
    if instr.getLsbD 24 || instr.getLsbD 20 then 0x4000#32 else 16#32
  have isBit : counter = 16#32 ∨ counter = 0x4000#32 := by
    show (if _ then _ else _) = _ ∨ (if _ then _ else _) = _
    split
    · exact Or.inr rfl
    · exact Or.inl rfl
  obtain ⟨apart, atVector⟩ := shiftConstant_apart isBit shift amount
  refine written_base_imprecise 0x3ff8#32 (fun _ => 0x10#32) 0x4000#32 0x10#32
    (shiftConstant shift amount false counter) valid isIndexed writes unshared ?_ (fun _ => rfl)
    apart atVector apart
  intro faulted reaches
  have carry : (takeAbort flatBus faulted).flags.cFlag = false :=
    takeAbort_carry (transferProbe_coherent valid) reaches
  rw [writtenAfter, show counter = if instr.getLsbD 24 || instr.getLsbD 20 then _ else _ from rfl]
  split
  · rw [indexed, offsetOf_register form, offsetPc, transferProbe_pc]
    rfl
  · rw [indexed, offsetOf_register form, offsetPc, carry, entered_vector valid reaches]

theorem base_imprecise (valid : validMode mode = true) (isIndexed : kind = .single ∨ kind = .half)
    (writes : writesBack instr = true) (unshared : sharedWithAbort mode (lhsReg instr) = false) :
    ¬TransferAbortsPrecisely mode instr kind := by
  cases form : registerOffset instr kind with
  | none => exact early_base_imprecise valid isIndexed writes unshared (Or.inr form)
  | some shifted =>
      by_cases offsetPc : rhsReg instr = 15#4
      · exact pc_base_imprecise valid isIndexed offsetPc writes unshared form
      · cases late : instr.getLsbD 24 || instr.getLsbD 20 with
        | true =>
            exact early_base_imprecise valid isIndexed writes unshared (Or.inl ⟨late, offsetPc⟩)
        | false => exact late_base_imprecise valid isIndexed offsetPc writes unshared late form

theorem lateBase_indexed (isIndexed : kind = .single ∨ kind = .half)
    (writes : writesBack instr = true) (state : ARMulState Mem) :
    lateBase state instr kind = some (indexed (offsetOf kind) state instr (lhsValue state instr)) := by
  obtain rfl | rfl := isIndexed
  · exact if_pos writes
  · exact if_pos writes

theorem unsettled_form (isIndexed : kind = .single ∨ kind = .half)
    (unsettled : offsetSettled instr kind = false) :
    (instr.getLsbD 24 || instr.getLsbD 20) = false ∧
      ∃ shift amount, registerOffset instr kind = some (shift, amount) ∧
        ¬(shift = .lsr ∧ amount = 0#5) := by
  obtain rfl | rfl := isIndexed
  · simp only [offsetSettled, Bool.or_eq_false_iff, Bool.not_eq_false'] at unsettled
    obtain ⟨⟨⟨store, post⟩, register⟩, partly⟩ := unsettled
    refine ⟨by rw [store, post]; rfl, shiftType instr, instr.extractLsb' 7 5, ?_, ?_⟩
    · exact if_pos register
    · simpa using partly
  · simp only [offsetSettled, Bool.or_eq_false_iff] at unsettled
    obtain ⟨⟨store, post⟩, register⟩ := unsettled
    refine ⟨by rw [store, post]; rfl, .lsl, 0#5, ?_, by simp⟩
    exact if_neg (by rw [register]; simp)

theorem written_offset_imprecise (pc : ARMword) (live : RegNum → ARMword) (cells : ARMword)
    (valid : validMode mode = true) (isIndexed : kind = .single ∨ kind = .half)
    (writes : writesBack instr = true) (late : (instr.getLsbD 24 || instr.getLsbD 20) = false)
    (shared : sharedWithAbort mode (lhsReg instr) = true)
    (differs : ∀ faulted, Faulted FlatMemory.words (transferProbe mode pc live cells closedMemory)
      faulted → offsetOf kind (takeAbort flatBus faulted) instr ≠
        offsetOf kind (transferProbe mode pc live cells closedMemory) instr) :
    ¬TransferAbortsPrecisely mode instr kind := by
  intro precise
  obtain ⟨notLink, notPc, rows⟩ := sharedWithAbort_cases shared
  obtain ⟨faulted, reaches, file⟩ := closed_transfer pc live cells valid isIndexed writes noTraps
  have aborted := probe_precise pc live cells valid isIndexed precise
  have live : (takeAbort flatBus faulted).file.bank = .abortbank := by
    have bank := aborted.entered.bank
    rw [file] at bank
    exact bank
  have base := aborted.base notPc (fun both => notLink both.2)
  rw [file, bankedReg_set, live, if_pos ⟨rfl, rows⟩, lateBase_indexed isIndexed writes, writtenAfter,
    if_neg (by rw [late]; simp), indexed, indexed, Option.getD_some] at base
  apply differs faulted reaches
  split at base
  · exact (BitVec.add_right_inj _).mp base
  · bv_omega

theorem offset_imprecise (valid : validMode mode = true) (isIndexed : kind = .single ∨ kind = .half)
    (writes : writesBack instr = true) (shared : sharedWithAbort mode (lhsReg instr) = true)
    (unsettled : offsetSettled instr kind = false)
    (unshared : sharedWithAbort mode (rhsReg instr) = false) :
    ¬TransferAbortsPrecisely mode instr kind := by
  obtain ⟨late, shift, amount, form, partly⟩ := unsettled_form isIndexed unsettled
  by_cases offsetPc : rhsReg instr = 15#4
  · refine written_offset_imprecise 0x80000009#32 (fun _ => 0#32) 0#32 valid isIndexed writes late
      shared ?_
    intro faulted reaches
    have carry : (takeAbort flatBus faulted).flags.cFlag = false :=
      takeAbort_carry (transferProbe_coherent valid) reaches
    rw [offsetOf_register form, offsetOf_register form, offsetPc, carry,
      entered_vector valid reaches, transferProbe_pc]
    exact shiftConstant_moved partly
  · let live : RegNum → ARMword := Function.update (fun _ => 0#32) (rhsReg instr) 0x80000001#32
    refine written_offset_imprecise 0xfffffff8#32 live 0#32 valid isIndexed writes late shared ?_
    intro faulted reaches
    have carry : (takeAbort flatBus faulted).flags.cFlag = false :=
      takeAbort_carry (transferProbe_coherent valid) reaches
    have zero : (takeAbort flatBus faulted).reg (rhsReg instr) = 0#32 := by
      refine entered_zero valid offsetPc reaches ?_
      intro isShared
      rw [unshared] at isShared
      cases isShared
    have here : (transferProbe mode 0xfffffff8#32 live 0#32 closedMemory).reg (rhsReg instr) =
        0x80000001#32 := by
      exact (transferProbe_reg offsetPc).trans (Function.update_self _ _ _)
    rw [offsetOf_register form, offsetOf_register form, carry, zero, here, shiftConstant_zero]
    exact Ne.symm (shiftConstant_ne_zero partly)

theorem swapped_imprecise {swapped : ARMulState FlatMemory} (valid : validMode mode = true)
    (reaches : Faulted FlatMemory.words
      (transferProbe mode 0x8000#32 (fun _ => 0#32) 0#32 closedMemory) swapped)
    (kept : ¬(mode = abort32mode ∧ destReg instr = 14#4)) :
    ¬PreciseTransferAbort flatBus FlatMemory.words
      (transferProbe mode 0x8000#32 (fun _ => 0#32) 0#32 closedMemory)
      (takeAbort flatBus (swapped.setReg (destReg instr) 0xefffffff#32)) instr 0x8000#32 none := by
  intro precise
  let probe := transferProbe mode 0x8000#32 (fun _ => 0#32) 0#32 closedMemory
  let written := swapped.setReg (destReg instr) 0xefffffff#32
  have probe32 : Coherent32 probe := transferProbe_coherent valid
  have swapped32 := reaches.coherent probe32
  have written32 : Coherent32 written := ⟨swapped32.prog32, swapped32.valid, swapped32.live⟩
  have here : written.reg (destReg instr) = 0xefffffff#32 := Function.update_self _ _ _
  by_cases isPc : destReg instr = 15#4
  · have link := abort_link flatBus.highVectors written32 (show Vector.is32 .dataAbortV = true from rfl)
    have arm : written.tFlag = false := congrArg Flags.tFlag reaches.flags
    rw [isPc] at here
    rw [show (armulAbort flatBus.highVectors written .dataAbortV).reg 14#4 = 0x8008#32 from
      precise.entered.link, linkAddress, here, arm] at link
    exact absurd link (by decide)
  · have notLink : ¬(modeToBank mode = .abortbank ∧ destReg instr = 14#4) := by
      rw [bank_abort_iff valid]
      exact kept
    have lost : bankedReg (takeAbort flatBus written).file (modeToBank mode) (destReg instr) =
        0xefffffff#32 := by
      rw [bankedReg_takeAbort flatBus written32 _ isPc notLink,
        show mode = written.mode from reaches.mode.symm, base_current written32, here]
    have zero : probe.reg (destReg instr) = 0#32 := transferProbe_reg isPc
    by_cases isBase : destReg instr = lhsReg instr
    · rw [isBase] at isPc kept lost zero
      have same := precise.base isPc kept
      exact absurd ((zero.symm.trans same.symm).trans lost) (by decide)
    · have same := precise.registers (modeToBank mode) (destReg instr) isPc notLink
        (fun both => isBase both.1)
      have before : bankedReg probe.file (modeToBank mode) (destReg instr) = 0#32 :=
        (base_current probe32 _).trans zero
      exact absurd ((before.symm.trans same.symm).trans lost) (by decide)

theorem armulRead_closed (size : AccessSize) {state : ARMulState FlatMemory}
    (closed : state.mem = closedMemory) (address : ARMword) :
    armulRead flatBus size state address =
      (dataAbort flatBus state closedMemory .pageTranslationFault address, armulAbortWord state) := by
  unfold armulRead
  rw [closed]
  exact if_neg (by decide : FaultT.pageTranslationFault ≠ .noFault)

theorem armulWrite_closed (size : AccessSize) {state : ARMulState FlatMemory}
    (closed : state.mem = closedMemory) (address data : ARMword) :
    armulWrite flatBus size state address data =
      dataAbort flatBus state closedMemory .pageTranslationFault address := by
  unfold armulWrite
  rw [closed]
  exact if_neg (by decide : FaultT.pageTranslationFault ≠ .noFault)

theorem probe_aligned {mem : FlatMemory} :
    lhsValue (transferProbe mode 0x8000#32 (fun _ => 0#32) 0#32 mem) instr &&& 3#32 = 0#32 := by
  by_cases isPc : lhsReg instr = 15#4
  · rw [lhsValue, if_pos isPc, transferProbe_pc]
    rfl
  · rw [lhsValue, if_neg isPc, transferProbe_reg isPc]
    rfl

theorem swap_closed (mode : ModeNum) (instr : ARMword) {kind : Transfer}
    (isSwap : kind = .swapWord ∨ kind = .swapByte) :
    ∃ swapped, Faulted FlatMemory.words
        (transferProbe mode 0x8000#32 (fun _ => 0#32) 0#32 closedMemory) swapped ∧
      dataTransfer flatBus noTraps
          (transferProbe mode 0x8000#32 (fun _ => 0#32) 0#32 closedMemory) instr kind =
        takeAbort flatBus (swapped.setReg (destReg instr) 0xefffffff#32) := by
  let probe := transferProbe mode 0x8000#32 (fun _ => 0#32) 0#32 closedMemory
  have plain : bususedincpcs probe = probe := bususedincpcs_v4 rfl
  obtain rfl | rfl := isSwap
  · refine ⟨putWord flatBus (dataAbort flatBus probe closedMemory .pageTranslationFault
      (lhsValue probe instr)) (lhsValue probe instr) (probe.reg (rhsReg instr)),
      ⟨⟨rfl, rfl, rfl, rfl, rfl⟩, rfl, rfl⟩, ?_⟩
    simp only [dataTransfer, swapWord, armulSwapWord]
    rw [plain, armulRead_closed .word rfl, if_pos probe_aligned, swapEnd]
    exact if_pos rfl
  · refine ⟨dataAbort flatBus (dataAbort flatBus probe closedMemory .pageTranslationFault
      (lhsValue probe instr)) closedMemory .pageTranslationFault (lhsValue probe instr),
      ⟨⟨rfl, rfl, rfl, rfl, rfl⟩, rfl, rfl⟩, ?_⟩
    simp only [dataTransfer, swapByte, armulSwapByte]
    rw [plain, armulRead_closed .byte rfl, armulWrite_closed .byte rfl, swapEnd]
    exact if_pos rfl

theorem swap_imprecise (valid : validMode mode = true) (isSwap : kind = .swapWord ∨ kind = .swapByte)
    (kept : ¬(mode = abort32mode ∧ destReg instr = 14#4)) :
    ¬TransferAbortsPrecisely mode instr kind := by
  intro precise
  let probe := transferProbe mode 0x8000#32 (fun _ => 0#32) 0#32 closedMemory
  obtain ⟨swapped, reaches, final⟩ := swap_closed mode instr isSwap
  have faults : TransferFaults flatBus probe instr kind := by
    obtain rfl | rfl := isSwap
    · exact Or.inl (closed_reads _ _ rfl _)
    · exact Or.inl (closed_reads _ _ rfl _)
  have none : lateBase probe instr kind = none := by
    obtain rfl | rfl := isSwap <;> rfl
  have aborted := precise FlatMemory _ flatBus FlatMemory.words noTraps probe 0x8000#32 flatBus_laws
    (transferProbe_coherent valid) rfl rfl rfl rfl rfl faults
  rw [final, none] at aborted
  exact swapped_imprecise valid reaches kept aborted

def readOnlyMemory : FlatMemory :=
  { closedMemory with unmapped := fun _ => false, readOnly := fun _ => true }

theorem swapWord_imprecise (valid : validMode mode = true) :
    ¬TransferAbortsPrecisely mode instr .swapWord := by
  by_cases kept : mode = abort32mode ∧ destReg instr = 14#4
  · intro precise
    let probe := transferProbe mode 0x8000#32 (fun _ => 0#32) 0#32 readOnlyMemory
    have faults : TransferFaults flatBus probe instr .swapWord := by
      right
      show FaultT.subpagePermissionFault ≠ .noFault
      decide
    have aborted := precise FlatMemory _ flatBus FlatMemory.words noTraps probe 0x8000#32 flatBus_laws
      (transferProbe_coherent valid) rfl rfl rfl rfl rfl faults
    have plain : bususedincpcs probe = probe := bususedincpcs_v4 rfl
    have stays : (dataTransfer flatBus noTraps probe instr .swapWord).reg 15#4 = 0x8008#32 := by
      simp only [dataTransfer, swapWord, armulSwapWord]
      rw [plain, kept.2, swapEnd, if_neg]
      · rw [setReg_reg_of_ne (by decide)]
        exact transferProbe_pc
      · exact Bool.false_ne_true
    have low (mem : FlatMemory) : vectorAddress flatBus.highVectors mem .dataAbortV = 16#32 := by
      simp [vectorAddress, flatBus, Vector.address]
    rw [aborted.entered.vector, low] at stays
    exact absurd stays (by decide)
  · exact swap_imprecise valid (Or.inl rfl) kept

end Probe

theorem transferRestartable_of_precise {mode : ModeNum} (valid : validMode mode = true)
    {instr : ARMword} {kind : Transfer} (precise : TransferAbortsPrecisely mode instr kind) :
    transferRestartable mode instr kind = true := by
  have indexedForm (isIndexed : kind = .single ∨ kind = .half) :
      (!writesBack instr || sharedWithAbort mode (lhsReg instr) &&
        (offsetSettled instr kind || sharedWithAbort mode (rhsReg instr))) = true := by
    cases writes : writesBack instr with
    | false => rfl
    | true =>
        cases shared : sharedWithAbort mode (lhsReg instr) with
        | false => exact absurd precise (base_imprecise valid isIndexed writes shared)
        | true =>
            cases settled : offsetSettled instr kind with
            | true => rfl
            | false =>
                cases offset : sharedWithAbort mode (rhsReg instr) with
                | true => rfl
                | false =>
                    exact absurd precise
                      (offset_imprecise valid isIndexed writes shared settled offset)
  cases kind with
  | single => exact indexedForm (Or.inl rfl)
  | half => exact indexedForm (Or.inr rfl)
  | loadDouble => rfl
  | storeDouble => rfl
  | swapWord => exact absurd precise (swapWord_imprecise valid)
  | swapByte =>
      by_contra refused
      refine swap_imprecise valid (Or.inr rfl) ?_ precise
      rintro ⟨isAbort, isLink⟩
      exact refused (by simp [transferRestartable, isAbort, isLink])

/-- A data abort of a single transfer or a swap is precise, whatever the state, exactly for
the instructions that `transferRestartable` names. -/
theorem transfer_abort_precise_iff (mode : ModeNum) (valid : validMode mode = true)
    (instr : ARMword) (kind : Transfer) (_transfer : transferOf instr = some kind) :
    TransferAbortsPrecisely mode instr kind ↔ transferRestartable mode instr kind = true := by
  constructor
  · exact transferRestartable_of_precise valid
  · exact transferAborts_of_restartable

/-- `ldr r0, [r1], #4` in supervisor mode. -/
theorem transfer_abort_precise_ldr :
    TransferAbortsPrecisely svc32mode 0xe4910004#32 .single := by
  exact (transfer_abort_precise_iff svc32mode rfl 0xe4910004#32 .single (by decide)).mpr (by decide)

/-- `ldr r0, [sp], #4` in supervisor mode: the base goes to the stack pointer of abort mode. -/
theorem transfer_abort_imprecise_pop :
    let state := transferProbe svc32mode 0x8000#32 (fun _ => 0x100#32) 0x7000#32 closedMemory
    transferOf 0xe49d0004#32 = some .single ∧
      TransferFaults flatBus state 0xe49d0004#32 .single ∧
      (dataTransfer flatBus noTraps state 0xe49d0004#32 .single).mode = abort32mode ∧
      (dataTransfer flatBus noTraps state 0xe49d0004#32 .single).reg 13#4 = 0x104#32 ∧
      bankedReg state.file .abortbank 13#4 = 0x7000#32 ∧
      ¬TransferAbortsPrecisely svc32mode 0xe49d0004#32 .single := by
  intro state
  have faults : TransferFaults flatBus state 0xe49d0004#32 .single := by
    show indexedFaults flatBus singleOffset (singleSize 0xe49d0004#32) state 0xe49d0004#32
    exact indexed_faults _ _ rfl
  refine ⟨by decide, faults, by decide +kernel, by decide +kernel, by decide, ?_⟩
  exact base_imprecise (by decide) (Or.inl rfl) (by decide) (by decide)

end SkyeyeStarlet
