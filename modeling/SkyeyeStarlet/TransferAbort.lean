import SkyeyeStarlet.BlockAbort
import SkyeyeStarlet.TransferCore

/-!
Data aborts in single transfers.  The helpers take the abort, and with it the
switch to the abort bank, before the main switch writes the base register; the
write therefore reaches the base of the interrupted mode only where that mode
shares the register with abort mode.
-/

namespace SkyeyeStarlet

variable {Mem : Type}

/-- What the transfers rely on from the memory behind the bus: reads and accesses that
fault do not change its contents, what cannot be read cannot be written, and the two
words of a doubleword lie in one page. -/
structure MemoryLaws {Contents : Type} (bus : Bus Mem) (contents : Mem → Contents) : Prop where
  read : ∀ size mode address mem, contents (bus.read size mode address mem).mem = contents mem
  faultyWrite : ∀ size mode address data mem,
    (bus.write size mode address data mem).fault ≠ .noFault →
      contents (bus.write size mode address data mem).mem = contents mem
  record : ∀ fault address mem, contents (bus.recordFault fault address mem) = contents mem
  unreadable : ∀ size mode address data mem,
    let first := bus.read size mode address mem
    first.fault ≠ .noFault →
      (bus.write size mode address data (bus.recordFault first.fault address first.mem)).fault ≠
        .noFault
  doubleword : ∀ mode address data data' mem, address &&& 7#32 = 0#32 →
    let first := bus.write .word mode address data mem
    if first.fault = .noFault then
      (bus.write .word mode (address + 4#32) data' first.mem).fault = .noFault
    else
      (bus.write .word mode (address + 4#32) data'
        (bus.recordFault first.fault address first.mem)).fault ≠ .noFault

def readFaults (bus : Bus Mem) (size : AccessSize) (state : ARMulState Mem) (address : ARMword) :
    Prop :=
  (bus.read size state.mode address state.mem).fault ≠ .noFault

def writeFaults (bus : Bus Mem) (size : AccessSize) (state : ARMulState Mem)
    (address data : ARMword) : Prop :=
  (bus.write size state.mode address data state.mem).fault ≠ .noFault

def indexedFaults (bus : Bus Mem) (offset : ARMulState Mem → ARMword → ARMword)
    (size : AccessSize) (state : ARMulState Mem) (instr : ARMword) : Prop :=
  let lhs := lhsValue state instr
  let address := if instr.getLsbD 24 then indexed offset state instr lhs else lhs
  if instr.getLsbD 20 then readFaults bus size state address
  else writeFaults bus size state address (state.reg (destReg instr))

def singleSize (instr : ARMword) : AccessSize :=
  if instr.getLsbD 22 then .byte else .word

def halfSize (instr : ARMword) : AccessSize :=
  if instr.getLsbD 20 && instr.getLsbD 6 && !instr.getLsbD 5 then .byte else .halfword

def TransferFaults (bus : Bus Mem) (state : ARMulState Mem) (instr : ARMword) : Transfer → Prop
  | .single => indexedFaults bus singleOffset (singleSize instr) state instr
  | .half => indexedFaults bus getLS7RHS (halfSize instr) state instr
  | .loadDouble =>
      let address := doubleAddress state instr
      address.accepted = true ∧ destReg instr ≠ 14#4 ∧
        (readFaults bus .word state address.addr ∨
          readFaults bus .word (armulRead bus .word state address.addr).1 (address.addr + 4#32))
  | .storeDouble =>
      let address := doubleAddress state instr
      let low := state.reg (destReg instr)
      address.accepted = true ∧ lhsReg instr ≠ 15#4 ∧
        (writeFaults bus .word state address.addr low ∨
          writeFaults bus .word (armulWrite bus .word state address.addr low)
            (address.addr + 4#32) (state.reg (destReg instr + 1#4)))
  | .swapWord =>
      let address := lhsValue state instr
      readFaults bus .word state address ∨
        writeFaults bus .word (armulRead bus .word state address).1 address
          (state.reg (rhsReg instr))
  | .swapByte =>
      let address := lhsValue state instr
      readFaults bus .byte state address ∨
        writeFaults bus .byte (armulRead bus .byte state address).1 address
          (state.reg (rhsReg instr))

def writesBack (instr : ARMword) : Bool :=
  !instr.getLsbD 24 || instr.getLsbD 21

def offsetOf : Transfer → ARMulState Mem → ARMword → ARMword
  | .single => singleOffset
  | _ => getLS7RHS

def lateBase (state : ARMulState Mem) (instr : ARMword) : Transfer → Option ARMword
  | .single =>
      if writesBack instr then some (indexed singleOffset state instr (lhsValue state instr))
      else none
  | .half =>
      if writesBack instr then some (indexed getLS7RHS state instr (lhsValue state instr)) else none
  | _ => none

structure PreciseTransferAbort {Contents : Type} (bus : Bus Mem) (contents : Mem → Contents)
    (state final : ARMulState Mem) (instr pc : ARMword) (written : Option ARMword) : Prop where
  entered : AbortEntered bus.highVectors state final pc
  memory : contents final.mem = contents state.mem
  registers : ∀ bank number, number ≠ 15#4 → ¬(bank = .abortbank ∧ number = 14#4) →
    ¬IsBase state.mode instr bank number →
    bankedReg final.file bank number = bankedReg state.file bank number
  base : lhsReg instr ≠ 15#4 → ¬(state.mode = abort32mode ∧ lhsReg instr = 14#4) →
    bankedReg final.file (modeToBank state.mode) (lhsReg instr) =
      written.getD (state.reg (lhsReg instr))

/-- A register that a mode and abort mode have in common, and that the entry to the
handler does not set. -/
def sharedWithAbort (mode : ModeNum) (number : RegNum) : Bool :=
  number != 14#4 && number != 15#4 &&
    registerRow (modeToBank mode) number == registerRow .abortbank number

def offsetSettled (instr : ARMword) : Transfer → Bool
  | .single =>
      instr.getLsbD 20 || instr.getLsbD 24 || !instr.getLsbD 25 ||
        (shiftType instr == .lsr && instr.extractLsb' 7 5 == 0#5)
  | _ => instr.getLsbD 20 || instr.getLsbD 24 || instr.getLsbD 22

def transferRestartable (mode : ModeNum) (instr : ARMword) : Transfer → Bool
  | .loadDouble => true
  | .storeDouble => true
  | .swapWord => false
  | .swapByte => mode == abort32mode && destReg instr == 14#4
  | kind =>
      !writesBack instr || sharedWithAbort mode (lhsReg instr) &&
        (offsetSettled instr kind || sharedWithAbort mode (rhsReg instr))

/-- Every fault of the instruction in the late abort model is precise, whatever the
registers, the memory and its contents. -/
def TransferAbortsPrecisely (mode : ModeNum) (instr : ARMword) (kind : Transfer) : Prop :=
  ∀ (Mem Contents : Type) (bus : Bus Mem) (contents : Mem → Contents) (traps : Traps Mem)
    (state : ARMulState Mem) (pc : ARMword),
    MemoryLaws bus contents → Coherent32 state → state.isV4 = true → state.aborted = 0#32 →
    state.mode = mode → state.lateabtSig = true → state.reg 15#4 = pc + 2#32 * insnSize state →
    TransferFaults bus state instr kind →
    PreciseTransferAbort bus contents state (dataTransfer bus traps state instr kind) instr pc
      (lateBase state instr kind)

section Faulted

variable {Contents : Type} {bus : Bus Mem} {contents : Mem → Contents} {state : ARMulState Mem}

/-- A state that a fault led to from `state`: the same registers and contents. -/
structure Faulted (contents : Mem → Contents) (state faulted : ARMulState Mem) : Prop
    extends FaultedWith state faulted state.file where
  memory : contents faulted.mem = contents state.mem
  late : faulted.lateabtSig = state.lateabtSig

theorem takeAbort_late (bus : Bus Mem) (coherent : Coherent32 state) :
    (takeAbort bus state).lateabtSig = state.lateabtSig ∧ (takeAbort bus state).mem = state.mem := by
  rw [takeAbort, armulAbort_eq bus.highVectors coherent.prog32 coherent.valid rfl]
  exact ⟨rfl, rfl⟩

theorem Faulted.coherent {faulted : ARMulState Mem} (faults : Faulted contents state faulted)
    (coherent : Coherent32 state) : Coherent32 faulted := by
  exact FaultedWith.coherent faults.toFaultedWith coherent rfl

theorem dataAbort_faulted (laws : MemoryLaws bus contents) {mem : Mem}
    (kept : contents mem = contents state.mem) (fault : FaultT) (address : ARMword) :
    Faulted contents state (dataAbort bus state mem fault address) := by
  exact ⟨⟨rfl, rfl, rfl, rfl, rfl⟩, (laws.record _ _ _).trans kept, rfl⟩

theorem Faulted.trans {middle faulted : ARMulState Mem} (first : Faulted contents state middle)
    (second : Faulted contents middle faulted) : Faulted contents state faulted := by
  exact ⟨⟨second.file.trans first.file, second.mode.trans first.mode,
    second.flags.trans first.flags, second.spsr.trans first.spsr,
    second.prog32.trans first.prog32⟩, second.memory.trans first.memory,
    second.late.trans first.late⟩

theorem armulRead_kept (state : ARMulState Mem) (laws : MemoryLaws bus contents) (size : AccessSize) (address : ARMword) :
    Faulted contents state (armulRead bus size state address).1 ∧
      ((armulRead bus size state address).1.aborted = 16#32 ∨
        ¬readFaults bus size state address ∧
          (armulRead bus size state address).1.aborted = state.aborted) := by
  unfold armulRead readFaults
  by_cases ok : (bus.read size state.mode address state.mem).fault = .noFault
  · rw [if_pos ok]
    exact ⟨⟨⟨rfl, rfl, rfl, rfl, rfl⟩, laws.read _ _ _ _, rfl⟩, Or.inr ⟨fun fault => fault ok, rfl⟩⟩
  · rw [if_neg ok]
    exact ⟨dataAbort_faulted laws (laws.read _ _ _ _) _ _, Or.inl rfl⟩

theorem armulRead_faulted (laws : MemoryLaws bus contents) {size : AccessSize} {address : ARMword}
    (faults : readFaults bus size state address) :
    Faulted contents state (armulRead bus size state address).1 ∧
      (armulRead bus size state address).1.aborted = 16#32 := by
  unfold armulRead
  rw [if_neg faults]
  exact ⟨dataAbort_faulted laws (laws.read _ _ _ _) _ _, rfl⟩

theorem armulWrite_faulted (laws : MemoryLaws bus contents) {size : AccessSize}
    {address data : ARMword} (faults : writeFaults bus size state address data) :
    Faulted contents state (armulWrite bus size state address data) ∧
      (armulWrite bus size state address data).aborted = 16#32 := by
  unfold armulWrite
  rw [if_neg faults]
  exact ⟨dataAbort_faulted laws (laws.faultyWrite _ _ _ _ _ faults) _ _, rfl⟩

theorem loadData_faulted (laws : MemoryLaws bus contents) (coherent : Coherent32 state)
    (isV4 : state.isV4 = true) (late : state.lateabtSig = true) {size : AccessSize}
    {address : ARMword} (faults : readFaults bus size state address)
    (finish : ARMulState Mem → ARMword → ARMulState Mem) (instr : ARMword) :
    ∃ faulted, Faulted contents state faulted ∧
      loadData bus size finish state instr address = (takeAbort bus faulted, true) := by
  obtain ⟨faulted, aborted⟩ := armulRead_faulted laws faults
  refine ⟨_, faulted, ?_⟩
  rw [loadData, bususedincpcs_v4 isV4]
  simp only [aborted, show ¬16#32 = 0#32 by decide, if_false,
    (takeAbort_late bus (faulted.coherent coherent)).1, faulted.late, late]

theorem storeData_faulted (laws : MemoryLaws bus contents) (coherent : Coherent32 state)
    (isV4 : state.isV4 = true) (late : state.lateabtSig = true) {size : AccessSize}
    {instr address : ARMword}
    (faults : writeFaults bus size state address (state.reg (destReg instr))) :
    ∃ faulted, Faulted contents state faulted ∧
      storeData bus size state instr address = (takeAbort bus faulted, true) := by
  let started : ARMulState Mem := { state with nextInstr := state.nextInstr ||| 1#8 }
  obtain ⟨faulted, aborted⟩ := armulWrite_faulted laws (show writeFaults bus size started address
    (started.reg (destReg instr)) from faults)
  refine ⟨_, ⟨⟨faulted.file, faulted.mode, faulted.flags, faulted.spsr, faulted.prog32⟩,
    faulted.memory, faulted.late⟩, ?_⟩
  have started32 : Coherent32 started := ⟨coherent.prog32, coherent.valid, coherent.live⟩
  rw [storeData, bususedincpcn_v4 isV4]
  simp only [show ({ state with nextInstr := state.nextInstr ||| 1#8 } : ARMulState Mem) = started
    from rfl, aborted, show ¬16#32 = 0#32 by decide, if_false,
    (takeAbort_late bus (faulted.coherent started32)).1, faulted.late,
    show started.lateabtSig = true from late]

theorem singleAccess_faulted (laws : MemoryLaws bus contents) (coherent : Coherent32 state)
    (isV4 : state.isV4 = true) (late : state.lateabtSig = true) {instr address : ARMword}
    (faults : if instr.getLsbD 20 then readFaults bus (singleSize instr) state address
      else writeFaults bus (singleSize instr) state address (state.reg (destReg instr))) :
    ∃ faulted, Faulted contents state faulted ∧
      singleAccess bus state instr address = (takeAbort bus faulted, true) := by
  unfold singleAccess singleSize at *
  cases byte : instr.getLsbD 22 <;> cases load : instr.getLsbD 20 <;>
    simp only [byte, load, Bool.false_eq_true, if_false, if_true] at faults ⊢
  · exact storeData_faulted laws coherent isV4 late faults
  · exact loadData_faulted laws coherent isV4 late faults _ instr
  · exact storeData_faulted laws coherent isV4 late faults
  · exact loadData_faulted laws coherent isV4 late faults _ instr

theorem halfAccess_faulted (laws : MemoryLaws bus contents) (coherent : Coherent32 state)
    (isV4 : state.isV4 = true) (late : state.lateabtSig = true) {instr address : ARMword}
    (faults : if instr.getLsbD 20 then readFaults bus (halfSize instr) state address
      else writeFaults bus (halfSize instr) state address (state.reg (destReg instr))) :
    ∃ faulted, Faulted contents state faulted ∧
      halfAccess bus state instr address = (takeAbort bus faulted, true) := by
  unfold halfAccess halfSize at *
  cases load : instr.getLsbD 20 with
  | false =>
      simp only [load, Bool.false_and, Bool.false_eq_true, if_false] at faults ⊢
      exact storeData_faulted laws coherent isV4 late faults
  | true =>
      cases signed : instr.getLsbD 6 <;> cases half : instr.getLsbD 5 <;>
        simp only [load, signed, half, Bool.not_true, Bool.not_false, Bool.and_false, Bool.and_true,
          Bool.false_eq_true, if_false, if_true] at faults ⊢ <;>
        exact loadData_faulted laws coherent isV4 late faults _ instr

def writtenAfter (offset : ARMulState Mem → ARMword → ARMword) (state entered : ARMulState Mem)
    (instr : ARMword) : ARMword :=
  if instr.getLsbD 24 || instr.getLsbD 20 then indexed offset state instr (lhsValue state instr)
  else indexed offset entered instr (lhsValue state instr)

theorem indexedTransfer_late {offset : ARMulState Mem → ARMword → ARMword}
    {access : ARMulState Mem → ARMword → ARMword → ARMulState Mem × Bool} {instr : ARMword}
    {entered : ARMulState Mem} {late : Bool}
    (aborts : access state instr (if instr.getLsbD 24 then
      indexed offset state instr (lhsValue state instr) else lhsValue state instr) =
        (entered, late)) :
    indexedTransfer offset access state instr =
      if writesBack instr && late then
        entered.setReg (lhsReg instr) (writtenAfter offset state entered instr)
      else entered := by
  unfold indexedTransfer writesBack writtenAfter
  cases pre : instr.getLsbD 24 <;> cases load : instr.getLsbD 20 <;>
    cases writeback : instr.getLsbD 21 <;>
    simp only [pre, Bool.false_eq_true, if_false, if_true] at aborts <;>
    simp [aborts]

theorem indexedTransfer_faulted {offset : ARMulState Mem → ARMword → ARMword}
    {access : ARMulState Mem → ARMword → ARMword → ARMulState Mem × Bool} {instr : ARMword}
    {entered : ARMulState Mem}
    (aborts : access state instr (if instr.getLsbD 24 then
      indexed offset state instr (lhsValue state instr) else lhsValue state instr) =
        (entered, true)) :
    indexedTransfer offset access state instr =
      if writesBack instr then
        entered.setReg (lhsReg instr) (writtenAfter offset state entered instr)
      else entered := by
  rw [indexedTransfer_late aborts, Bool.and_true]

theorem precise_of_faulted {faulted : ARMulState Mem} {instr pc : ARMword}
    (coherent : Coherent32 state) (pipelined : state.reg 15#4 = pc + 2#32 * insnSize state)
    (faults : Faulted contents state faulted) :
    PreciseTransferAbort bus contents state (takeAbort bus faulted) instr pc none := by
  have faulted32 := faults.coherent coherent
  have faultedPc : faulted.reg 15#4 = pc + 2#32 * insnSize faulted := by
    rw [insnSize, ARMulState.tFlag, faults.flags, ARMulState.reg, faults.file]
    exact pipelined
  refine ⟨abortEntered_of_kept faulted32 faults.flags faults.mode faults.spsr faultedPc, ?_, ?_, ?_⟩
  · rw [(takeAbort_late bus faulted32).2]
    exact faults.memory
  · intro bank number notPc notLink _
    rw [bankedReg_takeAbort bus faulted32 bank notPc notLink, faults.file]
  · intro notPc notLink
    rw [bankedReg_takeAbort bus faulted32 _ notPc (by rw [bank_abort_iff coherent.valid]; exact notLink),
      faults.file]
    exact base_current coherent _

theorem sharedWithAbort_cases {mode : ModeNum} {number : RegNum}
    (shared : sharedWithAbort mode number = true) :
    number ≠ 14#4 ∧ number ≠ 15#4 ∧
      registerRow (modeToBank mode) number = registerRow .abortbank number := by
  simpa [sharedWithAbort, and_assoc] using shared

theorem PreciseTransferAbort.setBase {final : ARMulState Mem} {instr pc : ARMword}
    (shared : sharedWithAbort state.mode (lhsReg instr) = true) (value : ARMword)
    (precise : PreciseTransferAbort bus contents state final instr pc none) :
    PreciseTransferAbort bus contents state (final.setReg (lhsReg instr) value) instr pc
      (some value) := by
  obtain ⟨notLink, notPc, rows⟩ := sharedWithAbort_cases shared
  have handler := precise.entered
  have cells (bank : Bank) (number : RegNum) :
      bankedReg (final.setReg (lhsReg instr) value).file bank number =
        if number = lhsReg instr ∧ registerRow bank number = registerRow .abortbank number then value
        else bankedReg final.file bank number := by
    rw [← handler.bank]
    exact bankedReg_set final.file (lhsReg instr) value bank number
  refine ⟨⟨handler.mode, handler.bank, ?_, handler.saved, handler.others, ?_⟩, precise.memory, ?_, ?_⟩
  · exact (Function.update_of_ne (Ne.symm notPc) _ _).trans handler.vector
  · exact (Function.update_of_ne (Ne.symm notLink) _ _).trans handler.link
  · intro bank number other otherLink notBase
    rw [cells, if_neg]
    · exact precise.registers bank number other otherLink notBase
    · rintro ⟨same, row⟩
      subst same
      exact notBase ⟨rfl, row.trans rows.symm⟩
  · intro _ _
    rw [cells, if_pos ⟨rfl, rows⟩]
    rfl

theorem takeAbort_shared {faulted : ARMulState Mem} (coherent : Coherent32 state)
    (faults : Faulted contents state faulted) {number : RegNum}
    (shared : sharedWithAbort state.mode number = true) :
    (takeAbort bus faulted).reg number = state.reg number := by
  obtain ⟨notLink, notPc, rows⟩ := sharedWithAbort_cases shared
  have faulted32 := faults.coherent coherent
  have live : (takeAbort bus faulted).file.bank = .abortbank := by
    rw [takeAbort, (armulAbort_coherent bus.highVectors faulted32 rfl).live,
      armulAbort_eq bus.highVectors faulted32.prog32 faulted32.valid rfl]
    rfl
  calc (takeAbort bus faulted).reg number
      = bankedReg (takeAbort bus faulted).file .abortbank number := by
        rw [← live]
        exact (bankedReg_current _ _).symm
    _ = bankedReg state.file .abortbank number := by
        rw [bankedReg_takeAbort bus faulted32 _ notPc (fun both => notLink both.2), faults.file]
    _ = bankedReg state.file (modeToBank state.mode) number :=
        BankedFile.read_of_row_eq rows.symm
    _ = state.reg number := base_current coherent number

theorem takeAbort_carry {faulted : ARMulState Mem} (coherent : Coherent32 state)
    (faults : Faulted contents state faulted) :
    (takeAbort bus faulted).flags.cFlag = state.flags.cFlag := by
  have faulted32 := faults.coherent coherent
  rw [takeAbort, armulAbort_eq bus.highVectors faulted32.prog32 faulted32.valid rfl, ← faults.flags]
  rfl

theorem lsRegRHS_eq (state : ARMulState Mem) (instr : ARMword) :
    lsRegRHS state instr = getLSRegRHS state instr := by
  unfold lsRegRHS
  split
  · rename_i plain
    have bit (index : Nat) (bound : index < 8) : instr.getLsbD (4 + index) = false := by
      have field := congrArg (fun word => word.getLsbD index) plain
      simpa only [BitVec.getLsbD_extractLsb', bound, decide_true, Bool.true_and,
        BitVec.getLsbD_zero] using field
    have amount : instr.extractLsb' 7 5 = 0#5 := by
      apply BitVec.eq_of_getLsbD_eq
      intro index bound
      rw [BitVec.getLsbD_extractLsb', show 7 + index = 4 + (3 + index) by omega,
        bit (3 + index) (by omega)]
      simp
    rw [getLSRegRHS, shiftType, show instr.getLsbD 6 = false from bit 2 (by omega),
      show instr.getLsbD 5 = false from bit 1 (by omega), amount]
    simp [shiftConstant]
  · rfl

theorem singleOffset_congr {state other : ARMulState Mem} {instr : ARMword}
    (file : other.file = state.file) (flags : other.flags = state.flags) :
    singleOffset other instr = singleOffset state instr := by
  simp only [singleOffset, lsRegRHS, getLSRegRHS, ARMulState.reg, file, flags]

theorem getLS7RHS_congr {state other : ARMulState Mem} {instr : ARMword}
    (file : other.file = state.file) : getLS7RHS other instr = getLS7RHS state instr := by
  simp only [getLS7RHS, ARMulState.reg, file]

theorem singleOffset_settled {entered : ARMulState Mem} {instr : ARMword}
    (carry : entered.flags.cFlag = state.flags.cFlag)
    (settled : instr.getLsbD 25 = false ∨
      shiftType instr = .lsr ∧ instr.extractLsb' 7 5 = 0#5 ∨
      entered.reg (rhsReg instr) = state.reg (rhsReg instr)) :
    singleOffset entered instr = singleOffset state instr := by
  rw [singleOffset, singleOffset, lsRegRHS_eq, lsRegRHS_eq, getLSRegRHS, getLSRegRHS]
  obtain immediate | ⟨right, whole⟩ | same := settled
  · rw [immediate]
    rfl
  · rw [right, whole]
    rfl
  · rw [same, carry]

theorem writtenAfter_eq {offset : ARMulState Mem → ARMword → ARMword} {entered : ARMulState Mem}
    {instr : ARMword} (same : (instr.getLsbD 24 || instr.getLsbD 20) = false →
      offset entered instr = offset state instr) :
    writtenAfter offset state entered instr = indexed offset state instr (lhsValue state instr) := by
  unfold writtenAfter
  cases early : instr.getLsbD 24 || instr.getLsbD 20 with
  | true => rfl
  | false =>
      rw [if_neg Bool.false_ne_true, indexed, indexed, same early]

theorem indexedTransfer_precise {offset : ARMulState Mem → ARMword → ARMword}
    {access : ARMulState Mem → ARMword → ARMword → ARMulState Mem × Bool} {instr pc : ARMword}
    (coherent : Coherent32 state) (pipelined : state.reg 15#4 = pc + 2#32 * insnSize state)
    {faulted : ARMulState Mem} (faults : Faulted contents state faulted)
    (aborts : access state instr (if instr.getLsbD 24 then
      indexed offset state instr (lhsValue state instr) else lhsValue state instr) =
        (takeAbort bus faulted, true))
    (shared : writesBack instr = true → sharedWithAbort state.mode (lhsReg instr) = true)
    (settled : writesBack instr = true → (instr.getLsbD 24 || instr.getLsbD 20) = false →
      offset (takeAbort bus faulted) instr = offset state instr) :
    PreciseTransferAbort bus contents state (indexedTransfer offset access state instr) instr pc
      (if writesBack instr then some (indexed offset state instr (lhsValue state instr))
      else none) := by
  have precise : PreciseTransferAbort bus contents state (takeAbort bus faulted) instr pc none :=
    precise_of_faulted coherent pipelined faults
  rw [indexedTransfer_faulted aborts]
  cases writes : writesBack instr with
  | false => exact precise
  | true =>
      simp only [if_true]
      rw [writtenAfter_eq (settled writes)]
      exact precise.setBase (shared writes) _

end Faulted

section Restartable

variable {Contents : Type} {bus : Bus Mem} {contents : Mem → Contents} {state : ARMulState Mem}
  {instr pc : ARMword}

theorem restartable_cases {mode : ModeNum} {kind : Transfer}
    (can : (!writesBack instr || sharedWithAbort mode (lhsReg instr) &&
      (offsetSettled instr kind || sharedWithAbort mode (rhsReg instr))) = true)
    (writes : writesBack instr = true) :
    sharedWithAbort mode (lhsReg instr) = true ∧
      (offsetSettled instr kind = true ∨ sharedWithAbort mode (rhsReg instr) = true) := by
  simpa [writes] using can

theorem singleIndexed_precise (laws : MemoryLaws bus contents) (coherent : Coherent32 state)
    (isV4 : state.isV4 = true) (late : state.lateabtSig = true)
    (pipelined : state.reg 15#4 = pc + 2#32 * insnSize state)
    (faults : TransferFaults bus state instr .single)
    (can : transferRestartable state.mode instr .single = true) :
    PreciseTransferAbort bus contents state
      (indexedTransfer singleOffset (singleAccess bus) state instr) instr pc
      (lateBase state instr .single) := by
  obtain ⟨faulted, reaches, aborts⟩ := singleAccess_faulted laws coherent isV4 late faults
  refine indexedTransfer_precise coherent pipelined reaches aborts
    (fun writes => (restartable_cases can writes).1) ?_
  intro writes early
  apply singleOffset_settled (takeAbort_carry coherent reaches)
  obtain ⟨post, store⟩ := Bool.or_eq_false_iff.mp early
  obtain settled | shared := (restartable_cases can writes).2
  · simp only [offsetSettled, post, store, Bool.false_or, Bool.or_eq_true, Bool.not_eq_true',
      Bool.and_eq_true, beq_iff_eq] at settled
    exact settled.imp id Or.inl
  · exact Or.inr (Or.inr (takeAbort_shared coherent reaches shared))

theorem singleTransfer_precise (laws : MemoryLaws bus contents) (coherent : Coherent32 state)
    (isV4 : state.isV4 = true) (late : state.lateabtSig = true)
    (pipelined : state.reg 15#4 = pc + 2#32 * insnSize state)
    (faults : TransferFaults bus state instr .single)
    (can : transferRestartable state.mode instr .single = true) :
    PreciseTransferAbort bus contents state (singleTransfer bus state instr) instr pc
      (lateBase state instr .single) := by
  unfold singleTransfer
  split
  · let user : ARMulState Mem := { state with ntransSig := false }
    have user32 : Coherent32 user := ⟨coherent.prog32, coherent.valid, coherent.live⟩
    have precise : PreciseTransferAbort bus contents user _ instr pc (lateBase user instr .single) :=
      singleIndexed_precise laws user32 isV4 late pipelined faults can
    have handler := precise.entered
    exact ⟨⟨handler.mode, handler.bank, handler.vector, handler.saved, handler.others, handler.link⟩,
      precise.memory, precise.registers, precise.base⟩
  · exact singleIndexed_precise laws coherent isV4 late pipelined faults can

theorem halfTransfer_precise (laws : MemoryLaws bus contents) (coherent : Coherent32 state)
    (isV4 : state.isV4 = true) (late : state.lateabtSig = true)
    (pipelined : state.reg 15#4 = pc + 2#32 * insnSize state)
    (faults : TransferFaults bus state instr .half)
    (can : transferRestartable state.mode instr .half = true) :
    PreciseTransferAbort bus contents state (halfTransfer bus state instr) instr pc
      (lateBase state instr .half) := by
  obtain ⟨faulted, reaches, aborts⟩ := halfAccess_faulted laws coherent isV4 late faults
  refine indexedTransfer_precise coherent pipelined reaches aborts
    (fun writes => (restartable_cases can writes).1) ?_
  intro writes early
  unfold getLS7RHS
  obtain ⟨post, store⟩ := Bool.or_eq_false_iff.mp early
  obtain settled | shared := (restartable_cases can writes).2
  · simp only [offsetSettled, post, store, Bool.false_or] at settled
    rw [settled]
    rfl
  · rw [takeAbort_shared coherent reaches shared]

theorem handleLoadDouble_precise (laws : MemoryLaws bus contents) (traps : Traps Mem)
    (coherent : Coherent32 state) (isV4 : state.isV4 = true)
    (pipelined : state.reg 15#4 = pc + 2#32 * insnSize state)
    (faults : TransferFaults bus state instr .loadDouble) :
    PreciseTransferAbort bus contents state (handleLoadDouble bus traps state instr) instr pc
      none := by
  obtain ⟨accepted, notLink, faults⟩ := faults
  let address := doubleAddress state instr
  let first := (armulRead bus .word state address.addr).1
  let second := (armulRead bus .word first (address.addr + 4#32)).1
  obtain ⟨kept, firstFlag⟩ := armulRead_kept state laws .word address.addr
  obtain ⟨keptAgain, secondFlag⟩ := armulRead_kept first laws .word (address.addr + 4#32)
  -- The sticky flag of the first access outlives a second one that succeeds.
  have aborted : second.aborted = 16#32 := by
    obtain now | ⟨ok, same⟩ := secondFlag
    · exact now
    · obtain before | ⟨okFirst, _⟩ := firstFlag
      · exact same.trans before
      · exact absurd faults (not_or.mpr ⟨okFirst, ok⟩)
  have final : handleLoadDouble bus traps state instr = takeAbort bus second := by
    have taken : (address.accepted && destReg instr != 14#4) = true := by
      rw [show address.accepted = true from accepted]
      simpa using notLink
    unfold handleLoadDouble
    rw [bususedincpcs_v4 isV4]
    simp only [show doubleAddress state instr = address from rfl, taken, if_true]
    exact if_neg (by rw [show second.aborted = _ from aborted]; decide)
  rw [final]
  exact precise_of_faulted coherent pipelined (kept.trans keptAgain)

theorem doubleAddress_aligned (accepted : (doubleAddress state instr).accepted = true) :
    (doubleAddress state instr).addr &&& 7#32 = 0#32 := by
  simp only [doubleAddress, Bool.and_eq_true, beq_iff_eq] at accepted ⊢
  exact accepted.1.2

theorem handleStoreDouble_precise (laws : MemoryLaws bus contents) (traps : Traps Mem)
    (coherent : Coherent32 state) (isV4 : state.isV4 = true)
    (pipelined : state.reg 15#4 = pc + 2#32 * insnSize state)
    (faults : TransferFaults bus state instr .storeDouble) :
    PreciseTransferAbort bus contents state (handleStoreDouble bus traps state instr) instr pc
      none := by
  obtain ⟨accepted, notPc, faults⟩ := faults
  let address := doubleAddress state instr
  let low := state.reg (destReg instr)
  let high := state.reg (destReg instr + 1#4)
  let first := armulWrite bus .word state address.addr low
  let second := armulWrite bus .word first (address.addr + 4#32) high
  have onePage := laws.doubleword state.mode address.addr low high state.mem
    (doubleAddress_aligned accepted)
  have firstFaults : writeFaults bus .word state address.addr low := by
    intro ok
    simp only [if_pos ok] at onePage
    have started : first = { state with
        mem := (bus.write .word state.mode address.addr low state.mem).mem, abortSig := false } :=
      if_pos ok
    obtain fault | fault := faults
    · exact fault ok
    · rw [show armulWrite bus .word state address.addr low = _ from started] at fault
      exact fault onePage
  simp only [if_neg firstFaults] at onePage
  have secondFaults : writeFaults bus .word first (address.addr + 4#32) high := by
    rw [show first = dataAbort bus state _ _ _ from if_neg firstFaults]
    exact onePage
  have kept := (armulWrite_faulted laws firstFaults).1
  obtain ⟨keptAgain, aborted⟩ := armulWrite_faulted laws secondFaults
  have final : handleStoreDouble bus traps state instr = takeAbort bus second := by
    have taken : (address.accepted && lhsReg instr != 15#4) = true := by
      rw [show address.accepted = true from accepted]
      simpa using notPc
    have stored : first.reg (destReg instr + 1#4) = high := by
      rw [ARMulState.reg, kept.file]
      rfl
    unfold handleStoreDouble
    rw [bususedincpcs_v4 isV4]
    simp only [show doubleAddress state instr = address from rfl, taken, if_true]
    rw [show (armulWrite bus .word state address.addr (state.reg (destReg instr))).reg
      (destReg instr + 1#4) = high from stored]
    exact if_neg (by rw [show second.aborted = _ from aborted]; decide)
  rw [final]
  exact precise_of_faulted coherent pipelined (kept.trans keptAgain)

theorem swap_write_faults (laws : MemoryLaws bus contents) {size : AccessSize}
    {address data : ARMword}
    (faults : readFaults bus size state address ∨
      writeFaults bus size (armulRead bus size state address).1 address data) :
    writeFaults bus size (armulRead bus size state address).1 address data := by
  obtain fault | fault := faults
  · have failed : (armulRead bus size state address).1 =
        dataAbort bus state (bus.read size state.mode address state.mem).mem
          (bus.read size state.mode address state.mem).fault address := by
      unfold armulRead
      rw [if_neg fault]
    rw [failed]
    exact laws.unreadable size state.mode address data state.mem fault
  · exact fault

theorem takeAbort_setLink (coherent : Coherent32 state) (abortMode : state.mode = abort32mode)
    (value : ARMword) : takeAbort bus (state.setReg 14#4 value) = takeAbort bus state := by
  have linked := armulAbort_eq bus.highVectors
    (show (state.setReg 14#4 value).prog32Sig = true from coherent.prog32) coherent.valid
    (show Vector.is32 .dataAbortV = true from rfl)
  have plain := armulAbort_eq bus.highVectors coherent.prog32 coherent.valid
    (show Vector.is32 .dataAbortV = true from rfl)
  have stays (file : Registers) : enterFile file state.mode (Vector.mode true .dataAbortV) = file := by
    rw [abortMode]
    exact if_pos rfl
  have twice (link : ARMword) :
      (state.file.set 14#4 value).set 14#4 link = state.file.set 14#4 link := by
    simp [Registers.set]
  have files : enterFile (state.setReg 14#4 value).file (state.setReg 14#4 value).mode
      (Vector.mode true .dataAbortV) = state.file.set 14#4 value := stays _
  have link : linkAddress (state.setReg 14#4 value) .dataAbortV = linkAddress state .dataAbortV := by
    have kept : Function.update state.file.reg 14#4 value 15#4 = state.file.reg 15#4 :=
      Function.update_of_ne (by decide) _ _
    exact congrArg (fun counter => counter - Vector.linkOffset state.tFlag .dataAbortV) kept
  rw [takeAbort, takeAbort, linked, plain, files, link, stays, twice]
  rfl

theorem swapByte_precise (laws : MemoryLaws bus contents) (coherent : Coherent32 state)
    (isV4 : state.isV4 = true) (pipelined : state.reg 15#4 = pc + 2#32 * insnSize state)
    (faults : TransferFaults bus state instr .swapByte) (abortMode : state.mode = abort32mode)
    (link : destReg instr = 14#4) :
    PreciseTransferAbort bus contents state (swapByte bus state instr) instr pc none := by
  let address := lhsValue state instr
  let data := state.reg (rhsReg instr)
  let first := (armulRead bus .byte state address).1
  let second := armulWrite bus .byte first address data
  have kept : Faulted contents state first := (armulRead_kept state laws .byte address).1
  obtain ⟨keptAgain, aborted⟩ := armulWrite_faulted laws (swap_write_faults laws faults)
  have reaches := kept.trans keptAgain
  have final : swapByte bus state instr = takeAbort bus second := by
    unfold swapByte armulSwapByte
    rw [bususedincpcs_v4 isV4, link]
    simp only [swapEnd]
    rw [if_pos]
    · exact takeAbort_setLink (reaches.coherent coherent) (reaches.mode.trans abortMode) _
    · rw [Bool.or_eq_true]
      right
      rw [bne_iff_ne]
      rw [show (second.setReg 14#4 _).aborted = _ from aborted]
      decide
  rw [final]
  exact precise_of_faulted coherent pipelined reaches

end Restartable

theorem transferAborts_of_restartable {mode : ModeNum} {instr : ARMword} {kind : Transfer}
    (can : transferRestartable mode instr kind = true) :
    TransferAbortsPrecisely mode instr kind := by
  intro Mem Contents bus contents traps state pc laws coherent isV4 clear modeEq late pipelined faults
  subst modeEq
  cases kind with
  | single => exact singleTransfer_precise laws coherent isV4 late pipelined faults can
  | half => exact halfTransfer_precise laws coherent isV4 late pipelined faults can
  | loadDouble => exact handleLoadDouble_precise laws traps coherent isV4 pipelined faults
  | storeDouble => exact handleStoreDouble_precise laws traps coherent isV4 pipelined faults
  | swapWord => cases can
  | swapByte =>
      obtain ⟨abortMode, link⟩ := (Bool.and_eq_true _ _).mp can
      exact swapByte_precise laws coherent isV4 pipelined faults (by simpa using abortMode)
        (by simpa using link)

end SkyeyeStarlet
