import SkyeyeStarlet.Outcomes
import SkyeyeStarlet.Privilege
import SkyeyeStarlet.SavedCopies

/-!
What the client is told about the processor.  The answer to `MSG_STATE` copies `Cpsr` and
`RegBank`, which the emulator keeps apart from the flags and registers that are live.  The
control bits of `Cpsr` are always current, so that the answer can always be decoded; the rest
is current after a run that leaves no copy behind.
-/

namespace SkyeyeStarlet

variable {Mem : Type} {state : ARMulState Mem}

section Status

/-- The saved status word names the mode, the instruction set and the interrupt masks. -/
structure ControlBits (state : ARMulState Mem) : Prop where
  mode : state.cpsr.setWidth 5 = state.mode
  thumb : state.cpsr.getLsbD 5 = state.tFlag
  masks : state.cpsr.extractLsb' 6 2 = state.flags.ifFlags

def StatusHeld (state : ARMulState Mem) : Prop :=
  mode32bit state.mode = true → ControlBits state

theorem StatusHeld.keep {before after : ARMulState Mem} (held : StatusHeld before)
    (mode : after.mode = before.mode) (thumb : after.tFlag = before.tFlag)
    (masks : after.flags.ifFlags = before.flags.ifFlags) (cpsr : after.cpsr = before.cpsr) :
    StatusHeld after := by
  intro mode32
  rw [mode] at mode32
  obtain ⟨heldMode, heldThumb, heldMasks⟩ := held mode32
  refine ⟨?_, ?_, ?_⟩
  · rw [cpsr, mode, heldMode]
  · rw [cpsr, thumb, heldThumb]
  · rw [cpsr, masks, heldMasks]

theorem statusHeld_stable : Stable (StatusHeld : ARMulState Mem → Prop) := by
  refine { status := ?_, setReg := ?_, exchange := ?_ }
  · intro before after held same
    have view := congrArg Status.view same
    exact held.keep (congrArg View.mode view) (congrArg Status.tFlag same)
      (congrArg View.ifFlags view) (congrArg Status.cpsr same)
  · intro state number value held
    exact held.keep rfl rfl rfl rfl
  · intro state thumb held mode32
    have flags := unpackFlags_packCPSR { state.flags with tFlag := thumb } state.mode
    exact ⟨packCPSR_mode _ _, congrArg Flags.tFlag flags, packCPSR_masks _ _⟩

theorem statusHeld_altered (state : ARMulState Mem) : StatusHeld (armulCPSRAltered state) := by
  unfold armulCPSRAltered
  dsimp only
  generalize (if state.prog32Sig = true then state.cpsr else state.cpsr &&& 0xf80000c3#32) = word
  split
  · split
    · exact fun _ => ⟨rfl, rfl, rfl⟩
    · exact fun _ => ⟨rfl, rfl, rfl⟩
  · split
    · exact fun _ => ⟨rfl, rfl, rfl⟩
    · exact fun _ => ⟨rfl, rfl, rfl⟩

theorem statusHeld_setR15 (held : StatusHeld state) (value : ARMword) :
    StatusHeld (armulSetR15 state value) := by
  unfold armulSetR15
  split
  · exact statusHeld_stable.flushpipe (statusHeld_stable.setReg 15#4 _ held)
  · intro mode32
    exact absurd mode32 (Bool.eq_false_iff.mp (armulR15Altered_mode _))

theorem statusHeld_abort (highVectors : Mem → Bool) (state : ARMulState Mem) (vector : Vector) :
    StatusHeld (armulAbort highVectors state vector) := by
  have entered (mask : ARMword) (mode : ModeNum) (link : ARMword) :
      StatusHeld (setabort (clearAborted state vector) mask mode link) :=
    statusHeld_stable.setReg 14#4 link (statusHeld_altered _)
  unfold armulAbort
  dsimp only
  split
  · exact statusHeld_setR15 (entered _ _ _) _
  · exact statusHeld_setR15 (entered _ _ _) _

theorem statusHeld_ownBank (held : StatusHeld state) : StatusHeld (toOwnBank state) := by
  unfold toOwnBank
  split
  · exact held
  · exact held.keep rfl rfl rfl rfl

theorem statusHeld_rules (bus : Bus Mem) (physical : PhysicalBus Mem) :
    StatusKept bus (starletTraps bus physical) StatusHeld StatusHeld where
  work := statusHeld_stable
  rest := statusHeld_stable.rested
  rawReg index value held := held.keep rfl rfl rfl rfl
  fixCPSR instr rhs held := statusHeld_altered _
  fixSPSR {state} instr rhs held := by
    unfold armulFixSPSR
    dsimp only
    split
    · exact held.keep rfl rfl rfl rfl
    · exact held
  bankStatus _ held := statusHeld_altered _
  savedStatus held := statusHeld_altered _
  userBank {state} held := by
    unfold toUserBank
    split
    · exact held.keep rfl rfl rfl rfl
    · exact held
  ownBank held := statusHeld_ownBank held
  trap {state} instr held :=
    statusHeld_stable.status held (starletTraps_peeks bus physical state instr).status
  enter vector _ held := statusHeld_abort _ _ vector
  returned held := statusHeld_stable.returnFromList (fun _ => statusHeld_altered _) held
  unwind held := statusHeld_ownBank held

theorem statusHeld_loose (bus : Bus Mem) : Loose bus (StatusHeld : ARMulState Mem → Prop) StatusHeld where
  rest := statusHeld_stable
  enter vector _ := statusHeld_abort _ _ vector
  again vector _ := statusHeld_abort _ _ vector

theorem statusHeld_reset (highVectors : Mem → Bool) (state : ARMulState Mem) :
    StatusHeld (armReset highVectors state).cpu := by
  have taken := statusHeld_abort highVectors
    { armulReset state with nextInstr := 0#8, emulate := .run } .resetV
  unfold armReset
  dsimp only
  generalize armulAbort highVectors _ .resetV = after at taken ⊢
  exact taken.keep rfl rfl rfl rfl

end Status

namespace Wire

section Words

variable (order : ByteOrder)

theorem packWords_append (first second : List ARMword) :
    packWords order (first ++ second) = packWords order first ++ packWords order second := by
  exact List.flatMap_append

theorem packWords_length (words : List ARMword) :
    (packWords order words).length = 4 * words.length := by
  induction words with
  | nil => rfl
  | cons word rest ih =>
      simp only [packWords, List.flatMap_cons, List.length_append, wordBytes_length,
        List.length_cons] at ih ⊢
      omega

theorem drop_packWords (words : List ARMword) (index : Nat) :
    (packWords order words).drop (4 * index) = packWords order (words.drop index) := by
  induction words generalizing index with
  | nil => simp [packWords]
  | cons word rest ih =>
      cases index with
      | zero => rfl
      | succ index =>
          have first := wordBytes_length order word
          rw [List.drop_succ_cons, ← ih index, packWords, List.flatMap_cons,
            show 4 * (index + 1) = 4 + 4 * index by omega, ← List.drop_drop,
            List.drop_left' first]
          rfl

theorem unpackWords_packWords {words : List ARMword} {count : Nat} (all : words.length = count) :
    unpackWords order count (packWords order words) = .ok words := by
  rw [unpackWords, if_pos (by rw [packWords_length, all])]
  refine congrArg Except.ok (List.ext_getElem ?_ ?_)
  · rw [List.length_map, List.length_range, all]
  · intro index _ bound
    have first := wordBytes_length order words[index]
    rw [List.getElem_map, List.getElem_range, drop_packWords, List.drop_eq_getElem_cons bound,
      packWords, List.flatMap_cons, List.take_left' first, bytesWord_wordBytes]

theorem take_packWords {first : List ARMword} (rest : List ARMword) {bytes : Nat}
    (size : 4 * first.length = bytes) :
    (packWords order (first ++ rest)).take bytes = packWords order first := by
  rw [packWords_append, List.take_left' ((packWords_length order first).trans size)]

theorem skip_packWords {first : List ARMword} (rest : List ARMword) {bytes : Nat}
    (size : 4 * first.length = bytes) :
    (packWords order (first ++ rest)).drop bytes = packWords order rest := by
  rw [packWords_append, List.drop_left' ((packWords_length order first).trans size)]

theorem unpackBanks_packWords (banks : List (List ARMword)) (rest : List ARMword)
    (sized : ∀ bank ∈ banks, bank.length = 16) :
    unpackBanks order banks.length (packWords order (banks.flatten ++ rest)) =
      .ok (banks, packWords order rest) := by
  induction banks with
  | nil => rfl
  | cons bank banks ih =>
      have size := sized bank List.mem_cons_self
      have bytes : 4 * bank.length = 4 * 16 := by
        rw [size]
      rw [List.flatten_cons, List.append_assoc, List.length_cons, unpackBanks,
        take_packWords order _ bytes, skip_packWords order _ bytes,
        unpackWords_packWords order size,
        ih fun later member => sized later (List.mem_cons_of_mem bank member)]
      rfl

theorem emuState_words (cooked : CookedState) :
    emuState order (packWords order cooked.words) =
      selectBank (registerWords cooked.regs)
        (bankRows.map fun bank => registerWords (cooked.regsBanked bank)) cooked.cpsr
        (bankRows.map cooked.spsrs)
        [cooked.cr, cooked.ttbr, cooked.dacr, cooked.fsr, cooked.far] := by
  rw [CookedState.words, List.flatMap_def]
  have sized : ∀ row ∈ bankRows.map fun bank => registerWords (cooked.regsBanked bank),
      row.length = 16 := by
    intro row member
    obtain ⟨bank, -, same⟩ := List.mem_map.mp member
    rw [← same, registerWords, List.length_map, List.length_range]
  have regsSize : (registerWords cooked.regs).length = 16 := rfl
  have banksSize : (bankRows.map fun bank => registerWords (cooked.regsBanked bank)).length = 7 :=
    rfl
  have spsrsSize : (bankRows.map cooked.spsrs).length = 7 := rfl
  generalize registerWords cooked.regs = regs at regsSize ⊢
  generalize (bankRows.map fun bank => registerWords (cooked.regsBanked bank)) = banks
    at sized banksSize ⊢
  generalize bankRows.map cooked.spsrs = spsrs at spsrsSize ⊢
  generalize control_eq : [cooked.cr, cooked.ttbr, cooked.dacr, cooked.fsr, cooked.far] = control
  have controlSize : control.length = 5 := by
    rw [← control_eq]
    rfl
  have regsBytes : 4 * regs.length = 4 * 16 := by
    rw [regsSize]
  have statusBytes : 4 * ([cooked.cpsr] ++ spsrs).length = 8 * 4 := by
    rw [List.length_append, spsrsSize]
    rfl
  have cpsrBytes : 4 * [cooked.cpsr].length = 4 := rfl
  have banksRead := unpackBanks_packWords order banks ([cooked.cpsr] ++ spsrs ++ control) sized
  have cpsrRead := take_packWords order (spsrs ++ control) cpsrBytes
  have statusRead := take_packWords order control statusBytes
  have controlRead := skip_packWords order control statusBytes
  rw [banksSize] at banksRead
  simp only [List.append_assoc] at banksRead cpsrRead statusRead controlRead ⊢
  rw [emuState, take_packWords order _ regsBytes, skip_packWords order _ regsBytes,
    unpackWords_packWords order regsSize, banksRead]
  simp only [bind, Except.bind]
  rw [cpsrRead, statusRead, skip_packWords order spsrs cpsrBytes, controlRead,
    unpackWords_packWords order spsrsSize, unpackWords_packWords order controlSize,
    unpackWords_packWords order (show [cooked.cpsr].length = 1 from rfl)]
  rfl

end Words

section Saved

theorem registerWords_getD (reg : RegNum → ARMword) (number : RegNum) :
    (registerWords reg).getD number.toNat 0#32 = reg number := by
  have bound := number.isLt
  rw [registerWords, List.getD_eq_getElem?_getD, List.getElem?_map,
    List.getElem?_range bound, Option.map_some, Option.getD_some, BitVec.ofNat_toNat,
    BitVec.setWidth_eq]

theorem mode2bank_lookup (mode : ModeNum) :
    mode2bank.lookup (mode.setWidth 32) =
      if validMode mode then some (bankRows.idxOf (modeToBank mode)) else none := by
  revert mode
  decide

theorem bankRows_getD {α : Type} (row : Bank → α) (bank : Bank) (default : α) :
    (bankRows.map row).getD (bankRows.idxOf bank) default = row bank := by
  cases bank <;> rfl

/-- What the payload has: the registers that are live, and copies. -/
structure ShowsSaved (mmu : MmuState) (state : ARMulState Mem) (decoded : EmuState) : Prop where
  regs : decoded.regs = registerWords state.reg
  cpsr : decoded.cpsr = state.cpsr
  spsr : decoded.spsr = state.spsr (modeToBank state.mode)
  banks : decoded.banks = bankRows.map fun bank => registerWords (state.file.regBank bank)
  control : decoded.cr = mmu.control ∧ decoded.ttbr = mmu.translationTableBase ∧
    decoded.dacr = mmu.domainAccessControl ∧ decoded.fsr = mmu.faultStatus ∧
    decoded.far = mmu.faultAddress

theorem emuState_msgState (order : ByteOrder) (mmu : MmuState) (control : ControlBits state)
    (valid : validMode state.mode = true) :
    ∃ decoded, emuState order (msgState order mmu state).payload = .ok decoded ∧
      ShowsSaved mmu state decoded := by
  have mode : state.cpsr &&& 0x1f#32 = state.mode.setWidth 32 := by
    rw [← control.mode]
    apply BitVec.eq_of_getLsbD_eq
    intro index bound
    interval_cases index <;> simp
  have known : mode2bank.lookup (state.cpsr &&& 0x1f#32) =
      some (bankRows.idxOf (modeToBank state.mode)) := by
    rw [mode, mode2bank_lookup, if_pos valid]
  have read := emuState_words order (cookState mmu state)
  rw [selectBank, show (cookState mmu state).cpsr = state.cpsr from rfl] at read
  rw [known] at read
  exact ⟨_, read, ⟨rfl, rfl, bankRows_getD state.spsr _ 0#32, rfl, rfl, rfl, rfl, rfl, rfl⟩⟩

theorem msgState_length (order : ByteOrder) (mmu : MmuState) (state : ARMulState Mem) :
    (msgState order mmu state).payload.length = 564 := by
  have words : (cookState mmu state).words.length = 141 := rfl
  rw [msgState, packWords_length, words]

theorem msgState_received (order : ByteOrder) (mmu : MmuState) (state : ARMulState Mem)
    (cut cut' : Nat → Nat) (calls : Nat)
    (fits : (msgState order mmu state).payload.length < 2 ^ 32) :
    ∃ later,
      recvmsg order cut'
          ⟨(sendipcmsg order cut ⟨[], 0⟩ ⟨msgState order mmu state, fits⟩).bytes, calls⟩ =
        .ok (⟨[], later⟩, msgState order mmu state) := by
  have short : (msgState order mmu state).payload.length < 2 ^ 31 := by
    rw [msgState_length]
    decide
  obtain ⟨later, received⟩ :=
    (recvmsg_decodes order cut' (msgState order mmu state) fits).whole [] calls
  refine ⟨later, ?_⟩
  rw [sendipcmsg_bytes order cut _ _ short, List.nil_append, ← received, List.append_nil]

end Saved

section Current

/-- The registers that the row of a bank is there for. -/
def ownRegister (bank : Bank) (number : RegNum) : Prop :=
  regClass number ≠ .shared ∧ registerRow bank number = bank

structure ShowsProcessor (mmu : MmuState) (state : ARMulState Mem) (decoded : EmuState) : Prop where
  regs : decoded.regs = registerWords state.reg
  cpsr : decoded.cpsr = armulGetCPSR state
  spsr : bankCanAccessSpsr (modeToBank state.mode) = true →
    decoded.spsr = armulGetSPSR state state.mode
  banks : ∀ (mode : ModeNum) (row : Nat) (number : RegNum),
    mode2bank.lookup (mode.setWidth 32) = some row → ownRegister (modeToBank mode) number →
      (decoded.banks.getD row []).getD number.toNat 0#32 =
        bankedReg state.file (modeToBank mode) number
  control : decoded.cr = mmu.control ∧ decoded.ttbr = mmu.translationTableBase ∧
    decoded.dacr = mmu.domainAccessControl ∧ decoded.fsr = mmu.faultStatus ∧
    decoded.far = mmu.faultAddress

/-- The processor at the input and output cycle of the round behind a run from reset. -/
def cycledCpu (bus : Bus Mem) (physical : PhysicalBus Mem) (cops : Coprocessors Mem)
    (start : ARMulState Mem) (rounds : List (Round Mem)) : ARMulState Mem :=
  (primePipe bus (Runs.run (emulateRound bus (starletTraps bus physical) cops)
    (armReset bus.highVectors start) rounds)).cpu

theorem snapshot_saved (bus : Bus Mem) (physical : PhysicalBus Mem) (cops : Coprocessors Mem)
    (start : ARMulState Mem) (rounds : List (Round Mem)) (order : ByteOrder) (mmu : MmuState)
    (valid : validMode (cycledCpu bus physical cops start rounds).mode = true) :
    ∃ decoded,
      emuState order (msgState order mmu (cycledCpu bus physical cops start rounds)).payload =
          .ok decoded ∧
        ShowsSaved mmu (cycledCpu bus physical cops start rounds) decoded := by
  have held : StatusHeld (cycledCpu bus physical cops start rounds) :=
    statusHeld_stable.primePipe bus ((statusHeld_rules bus physical).run (statusHeld_loose bus) cops
      _ (statusHeld_reset bus.highVectors start) rounds)
  exact emuState_msgState order mmu (held (validMode_mode32bit valid)) valid

theorem ShowsSaved.processor {mmu : MmuState} {decoded : EmuState} (inStep : InStep state)
    (shows : ShowsSaved mmu state decoded) : ShowsProcessor mmu state decoded := by
  refine ⟨shows.regs, shows.cpsr.trans inStep.upToDate.cpsr, ?_, ?_, shows.control⟩
  · intro access
    rw [shows.spsr, armulGetSPSR, if_pos access]
  · intro mode index number found own
    have valid : validMode mode = true := by
      by_contra invalid
      rw [mode2bank_lookup, if_neg invalid] at found
      cases found
    rw [mode2bank_lookup, if_pos valid] at found
    have rows : RowsMirrored state.file state.file.bank := by
      rw [inStep.upToDate.bank]
      exact inStep.upToDate.rows
    have copied : bankedReg state.file (modeToBank mode) number =
        state.file.regBank (registerRow (modeToBank mode) number) number :=
      BankedFile.Mirrored.read rows own.1
    rw [← Option.some.inj found, shows.banks, bankRows_getD, registerWords_getD, copied, own.2]

/-- In every run from power-on whose rounds spare the copies, the client sees the processor as
it is. -/
theorem state_snapshot_current (bus : Bus Mem) (physical : PhysicalBus Mem)
    (cops : Coprocessors Mem) (mem : Mem) (rounds : List (Round Mem)) (order : ByteOrder)
    (mmu : MmuState)
    (spares : Runs.AllSteps (emulateRound bus (starletTraps bus physical) cops)
      (RoundSpares bus cops) (armReset bus.highVectors (starletMachInit mem)) rounds) :
    let state := cycledCpu bus physical cops (starletMachInit mem) rounds
    ∃ decoded, emuState order (msgState order mmu state).payload = .ok decoded ∧
      ShowsProcessor mmu state decoded := by
  intro state
  have reached : InStep (Runs.run (emulateRound bus (starletTraps bus physical) cops)
      (armReset bus.highVectors (starletMachInit mem)) rounds).cpu :=
    inStep_run bus physical cops (inStep_reset bus.highVectors mem) spares
  have inStep : InStep state := inStep_passive.primePipe bus reached
  obtain ⟨decoded, read, shows⟩ := snapshot_saved bus physical cops (starletMachInit mem) rounds
    order mmu inStep.valid
  exact ⟨decoded, read, shows.processor inStep⟩

def idleRound : Round FlatMemory :=
  { nresetSig := true, nfiqSig := true, nirqSig := true, ioDoCycle := id }

/-- `movs r0, #0` sets the Z flag, and the client does not see it. -/
theorem stale_flags_snapshot :
    let state := cycledCpu flatBus flatPhysical noUnits
      (starletMachInit (flatMemory fun _ => 0xe3b00000#32)) [idleRound]
    state.mode = svc32mode ∧ armulGetCPSR state = 0x400000d3#32 ∧
      (∃ decoded, emuState .little (msgState .little arm926ejsMmuInit state).payload = .ok decoded ∧
        decoded.cpsr = 0xd3#32) ∧
      ¬∃ decoded, emuState .little (msgState .little arm926ejsMmuInit state).payload = .ok decoded ∧
        ShowsProcessor arm926ejsMmuInit state decoded := by
  intro state
  have mode : state.mode = svc32mode := by
    decide +kernel
  have status : armulGetCPSR state = 0x400000d3#32 := by
    decide +kernel
  have saved : state.cpsr = 0xd3#32 := by
    decide +kernel
  have valid : validMode state.mode = true := by
    rw [mode]
    decide
  obtain ⟨decoded, read, shows⟩ := snapshot_saved flatBus flatPhysical noUnits
    (starletMachInit (flatMemory fun _ => 0xe3b00000#32)) [idleRound] .little arm926ejsMmuInit valid
  have shown : decoded.cpsr = 0xd3#32 := shows.cpsr.trans saved
  refine ⟨mode, status, ⟨decoded, read, shown⟩, ?_⟩
  rintro ⟨other, read', right⟩
  rw [← Except.ok.inj (read.symm.trans read')] at right
  exact absurd (shown.symm.trans (right.cpsr.trans status)) (by decide)

/-- `msr cpsr_c, #0xdf` goes to System mode, and `mov r0, #5` follows. -/
def sparingMemory : FlatMemory :=
  flatMemory fun address => if address = 0#32 then 0xe321f0df#32 else 0xe3a00005#32

theorem instrSpares_data {bus : Bus Mem} {cops : Coprocessors Mem} {pc instr word : ARMword}
    (switched : switchedWord state pc instr = some word) (plain : transferOf word = none)
    (group : word.extractLsb' 25 3 = 1#3) (spares : DataSpares state word) :
    InstrSpares bus cops state pc instr := by
  simp only [InstrSpares, switched, WordSpares, plain, group]
  exact spares

theorem state_snapshot_system :
    let state := cycledCpu flatBus flatPhysical noUnits (starletMachInit sparingMemory)
      [idleRound, idleRound]
    state.mode = system32mode ∧ state.reg 0#4 = 5#32 ∧
      ∃ decoded, emuState .little (msgState .little arm926ejsMmuInit state).payload = .ok decoded ∧
        ShowsProcessor arm926ejsMmuInit state decoded := by
  intro state
  let start := armReset flatBus.highVectors (starletMachInit sparingMemory)
  let later := emulateRound flatBus (starletTraps flatBus flatPhysical) noUnits start idleRound
  have first : InstrSpares flatBus noUnits ((primePipe flatBus start).executing idleRound)
      (primePipe flatBus start).pc (primePipe flatBus start).instr := by
    have switched : switchedWord ((primePipe flatBus start).executing idleRound)
        (primePipe flatBus start).pc (primePipe flatBus start).instr = some 0xe321f0df#32 := by
      decide +kernel
    have fits : StatusFits (fixedCPSR ((primePipe flatBus start).executing idleRound)
        0xe321f0df#32 (dpImmRHS 0xe321f0df#32)) :=
      ⟨by decide +kernel, by decide +kernel⟩
    refine instrSpares_data switched (by decide) (by decide) ?_
    simp [DataSpares, StatusSpares, isMultiply, fits]
  have second : InstrSpares flatBus noUnits ((primePipe flatBus later).executing idleRound)
      (primePipe flatBus later).pc (primePipe flatBus later).instr := by
    have switched : switchedWord ((primePipe flatBus later).executing idleRound)
        (primePipe flatBus later).pc (primePipe flatBus later).instr = some 0xe3a00005#32 := by
      decide +kernel
    refine instrSpares_data switched (by decide) (by decide) ?_
    simp [DataSpares, isMultiply, Unbanked, destReg, regClass]
  exact ⟨by decide +kernel, by decide +kernel, state_snapshot_current flatBus flatPhysical noUnits
    sparingMemory [idleRound, idleRound] .little arm926ejsMmuInit
    ⟨fun _ => ⟨by decide +kernel, first⟩, fun _ => ⟨by decide +kernel, second⟩, trivial⟩⟩

end Current

end Wire

end SkyeyeStarlet
