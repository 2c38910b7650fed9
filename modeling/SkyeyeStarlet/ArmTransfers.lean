import SkyeyeStarlet.ArmArithmetic
import SkyeyeStarlet.ArmData
import SkyeyeStarlet.ThumbBlocks

/-!
The loads, stores and swaps in ARM state: each makes the accesses of the architecture at the
address that its mode gives, and moves the base by what the offset was before the access.
-/

namespace SkyeyeStarlet

open ThumbIsa

variable {Mem : Type}

section Offsets

variable {state : ARMulState Mem} {pc instr : ARMword}

theorem shiftConstant_arm (kind : ShiftType) (amount : BitVec 5) (carry : Bool)
    (base : ARMword) :
    shiftConstant kind amount carry base =
      (ArmIsa.shiftConstant kind.isa amount carry base).1 := by
  have none : amount = 0#5 ↔ amount.toNat = 0 := by
    rw [← BitVec.toNat_inj]
    rfl
  have value : shiftConstant kind amount carry base =
      (shiftByConstant kind amount.toNat carry base).value := by
    cases kind with
    | lsl => rfl
    | lsr =>
        simp only [shiftConstant, shiftByConstant, none]
        split <;> rfl
    | asr =>
        simp only [shiftConstant, shiftByConstant, none]
        split <;> rfl
    | ror =>
        simp only [shiftConstant, shiftByConstant, none]
        split <;> rfl
  by_cases shifts : kind = .lsl ∧ amount = 0#5
  · obtain ⟨rfl, rfl⟩ := shifts
    exact BitVec.shiftLeft_zero base
  · rw [value, shiftByConstant_arm shifts]

theorem singleOffset_arm :
    singleOffset state instr =
      (if instr.getLsbD 25 then
        ArmIsa.Offset.shifted (ArmIsa.decodeShift (instr.extractLsb' 5 2))
          (instr.extractLsb' 7 5) (ArmIsa.rmOf instr)
      else ArmIsa.Offset.immediate (instr.extractLsb' 0 12)).value (machineOf state pc) := by
  unfold singleOffset
  cases instr.getLsbD 25 with
  | false => rfl
  | true =>
      have shifted : lsRegRHS state instr = shiftConstant (shiftType instr) (instr.extractLsb' 7 5)
          state.flags.cFlag (state.reg (rhsReg instr)) := by
        unfold lsRegRHS
        split
        · rename_i plain
          obtain ⟨-, kind, amount⟩ := (unshifted_arm instr).mp plain
          rw [kind, amount]
          exact (BitVec.shiftLeft_zero _).symm
        · rfl
      simp only [if_true]
      rw [shifted, shiftConstant_arm, shiftType_decodeShift]
      rfl

def halfOffset (instr : ARMword) : ArmIsa.Offset :=
  if instr.getLsbD 22 then
    .immediate (0#4 ++ instr.extractLsb' 8 4 ++ instr.extractLsb' 0 4)
  else .shifted .lsl 0#5 (ArmIsa.rmOf instr)

theorem getLS7RHS_arm :
    getLS7RHS state instr = (halfOffset instr).value (machineOf state pc) := by
  unfold getLS7RHS halfOffset
  split
  · apply BitVec.eq_of_getLsbD_eq
    intro index bound
    simp only [ArmIsa.Offset.value, BitVec.getLsbD_or, BitVec.getLsbD_shiftLeft,
      BitVec.getLsbD_setWidth, BitVec.getLsbD_append]
    grind
  · rfl

end Offsets

section Accesses

variable {state : ARMulState Mem} {pc instr : ARMword} (bus : NarrowBus Mem)

theorem turned_align (address value : ARMword) :
    (if address &&& 3#32 = 0#32 then value else armulAlign address value) =
      ArmIsa.turned .word address value := by
  have low : (address &&& 3#32).toNat = address.toNat % 4 := by
    rw [BitVec.toNat_and]
    exact Nat.and_two_pow_sub_one_eq_mod address.toNat 2
  have rotated : rotater value (8 * (address.toNat % 4)) =
      value.rotateRight (8 * (address.toNat % 4)) := by
    rw [← rotater_mod, Nat.mod_eq_of_lt (show 8 * (address.toNat % 4) < 32 by omega)]
  split
  · rename_i aligned
    rw [aligned] at low
    rw [ArmIsa.turned, ← low]
    exact ((rotater_mod value 0).symm.trans (rotater_zero value)).symm
  · rw [armulAlign, low, rotated]
    rfl

def IsAccess (bus : Bus Mem) (state : ARMulState Mem) (instr : ARMword)
    (run : ARMword → ARMulState Mem × Bool) : Access → Prop
  | .load width signed => ∀ target, ∃ finish,
      run target = loadData bus (accessSize width) finish state instr target ∧
        ((width ≠ .word → destReg instr ≠ 15#4) → ∀ read (value : BitVec width.bits),
          finish read (value.setWidth 32) =
            writeDestB read instr (ArmIsa.turned width target (extend signed value)))
  | .store width => ∀ target, run target = storeData bus (accessSize width) state instr target

def isLoad : Access → Bool
  | .load _ _ => true
  | .store _ => false

theorem writeDest_narrow (notPc : destReg instr ≠ 15#4) (value : ARMword) :
    writeDest state instr value = writeDestB state instr value := by
  rw [writeDest, writeDestB, if_neg notPc, if_neg notPc]

theorem singleAccess_isAccess (bus : Bus Mem) :
    IsAccess bus state instr (singleAccess bus state instr)
      (if instr.getLsbD 20 then
        .load (if instr.getLsbD 22 then .byte else .word) false
      else .store (if instr.getLsbD 22 then .byte else .word)) := by
  cases load : instr.getLsbD 20 with
  | false =>
      intro target
      unfold singleAccess
      rw [load]
      cases instr.getLsbD 22 <;> rfl
  | true =>
      intro target
      unfold singleAccess
      rw [load]
      cases instr.getLsbD 22 with
      | false =>
          refine ⟨_, rfl, fun _ read value => ?_⟩
          rw [turned_align]
          rfl
      | true =>
          refine ⟨_, rfl, fun narrow read value => ?_⟩
          rw [writeDest_narrow (narrow (by decide))]
          rfl

def halfKind (instr : ARMword) : Access :=
  match instr.getLsbD 20, instr.extractLsb' 5 2 with
  | true, 1#2 => .load .half false
  | true, 2#2 => .load .byte true
  | true, _ => .load .half true
  | false, _ => .store .half

theorem extract_five (instr : ARMword) :
    instr.extractLsb' 5 2 =
      BitVec.ofBool (instr.getLsbD 6) ++ BitVec.ofBool (instr.getLsbD 5) := by
  apply BitVec.eq_of_getLsbD_eq
  intro index bound
  simp only [BitVec.getLsbD_extractLsb', BitVec.getLsbD_append, BitVec.getLsbD_ofBool]
  grind

theorem halfAccess_isAccess (bus : Bus Mem) (form : instr.extractLsb' 5 2 ≠ 0#2) :
    IsAccess bus state instr (halfAccess bus state instr) (halfKind instr) := by
  have loads {width : Width} {signed : Bool} (narrow : width.bits < 32) (target : ARMword)
      (whole : width ≠ .word) :
      (width ≠ .word → destReg instr ≠ 15#4) → ∀ (read : ARMulState Mem)
        (value : BitVec width.bits),
        writeDest read instr (signExtendFrom width.bits signed (value.setWidth 32)) =
          writeDestB read instr (ArmIsa.turned width target (extend signed value)) := by
    intro dest read value
    rw [signExtendFrom_eq value (by cases width <;> decide) narrow, writeDest_narrow (dest whole)]
    cases width with
    | byte => rfl
    | half => rfl
    | word => exact absurd rfl whole
  rw [extract_five] at form
  unfold halfKind
  rw [extract_five]
  cases load : instr.getLsbD 20 with
  | false =>
      intro target
      rw [halfAccess, load]
      rfl
  | true =>
      cases high : instr.getLsbD 6 <;> cases low : instr.getLsbD 5
      · rw [high, low] at form
        exact absurd rfl form
      · intro target
        rw [halfAccess, load, high, low]
        exact ⟨fun read dest => writeDest read instr (signExtendFrom 16 false dest), rfl,
          @loads .half false (by decide) target (by decide)⟩
      · intro target
        rw [halfAccess, load, high, low]
        exact ⟨fun read dest => writeDest read instr (signExtendFrom 8 true dest), rfl,
          @loads .byte true (by decide) target (by decide)⟩
      · intro target
        rw [halfAccess, load, high, low]
        exact ⟨fun read dest => writeDest read instr (signExtendFrom 16 true dest), rfl,
          @loads .half true (by decide) target (by decide)⟩

theorem skip_moveBase (address : ArmIsa.Address) (rn : RegNum) (machine after : Processor Mem) :
    ArmIsa.skip (address.moveBase rn machine after) =
      address.moveBase rn machine (ArmIsa.skip after) := by
  unfold ArmIsa.Address.moveBase
  split <;> rfl

end Accesses

section Indexing

variable {state : ARMulState Mem} {pc instr : ARMword} (ready : ArmReady state pc)

include ready

theorem loadData_within (bus : NarrowBus Mem) {width : Width} {target : ARMword}
    {value : BitVec width.bits} {mem : Mem}
    (loaded : (busMemory bus.toBus bus.plain state.mode).load width target state.mem = some (value, mem))
    (finish : ARMulState Mem → ARMword → ARMulState Mem) :
    ∃ read, Within state read { machineOf state pc with mem } ∧
      loadData bus.toBus (accessSize width) finish state instr target =
        (finish read (value.setWidth 32), destReg instr != lhsReg instr) := by
  obtain ⟨fine, data, memory⟩ := busMemory_loaded bus loaded
  refine ⟨{ state with mem, abortSig := false }, ?_, ?_⟩
  · exact (within_refl ready.ready pc).withMem mem false state.aborted
  · rw [loadData, bususedincpcs_v4 ready.isV4, armulRead]
    simp only [fine, if_true, ready.clear]
    rw [data, memory]

theorem storeData_within (bus : NarrowBus Mem) {width : Width} {target : ARMword} {mem : Mem}
    (stored : (busMemory bus.toBus bus.plain state.mode).store width target
      ((state.reg (destReg instr)).setWidth width.bits) state.mem = some mem) :
    ∃ written, Within state written { machineOf state pc with mem } ∧
      written.file = state.file ∧ written.flags = state.flags ∧
      storeData bus.toBus (accessSize width) state instr target = (written, true) := by
  obtain ⟨fine, memory⟩ := busMemory_stored bus stored
  refine ⟨_, ?_, ?_, ?_, storeData_fine ready.isV4 ready.clear fine⟩
  · rw [memory]
    exact (within_refl ready.ready pc).busused.withMem mem false state.aborted
  · rfl
  · rfl

theorem shows_indexedTransfer {address : ArmIsa.Address}
    {offset : ARMulState Mem → ARMword → ARMword}
    {access : ARMulState Mem → ARMword → ARMword → ARMulState Mem × Bool}
    {moved : ARMulState Mem} {base : Bool} {after : Processor Mem}
    (before : address.before = instr.getLsbD 24) (up : address.up = instr.getLsbD 23)
    (writes : address.writes = (!instr.getLsbD 24 || instr.getLsbD 21))
    (value : offset state instr = address.offset.value (machineOf state pc))
    (ran : access state instr (address.target (lhsReg instr) (machineOf state pc)) = (moved, base))
    (shows : Shows state moved pc after)
    (based : address.writes = true → base = true ∧ lhsReg instr ≠ 15#4)
    (stores : instr.getLsbD 20 = false → offset moved instr = offset state instr) :
    Shows state (indexedTransfer offset access state instr) pc
      (address.moveBase (lhsReg instr) (machineOf state pc) after) := by
  have left := lhsValue_armRead ready instr
  have final (other : ARMulState Mem) (same : offset other instr = offset state instr) :
      indexed offset other instr (lhsValue state instr) =
        address.moved (lhsReg instr) (machineOf state pc) := by
    rw [indexed, ArmIsa.Address.moved, up, same, value, left]
  have temp := final state rfl
  unfold indexedTransfer ArmIsa.Address.moveBase
  dsimp only
  rw [temp]
  cases kind : instr.getLsbD 24 with
  | true =>
      have target : address.target (lhsReg instr) (machineOf state pc) =
          address.moved (lhsReg instr) (machineOf state pc) := by
        rw [ArmIsa.Address.target, before, kind, if_pos rfl]
      rw [target] at ran
      rw [kind, Bool.not_true, Bool.false_or] at writes
      simp only [if_true, ran, writes]
      cases moves : instr.getLsbD 21 with
      | true =>
          obtain ⟨keeps, notPc⟩ := based (writes.trans moves)
          rw [keeps]
          exact shows.setReg notPc _
      | false => exact shows
  | false =>
      have target : address.target (lhsReg instr) (machineOf state pc) = lhsValue state instr := by
        rw [ArmIsa.Address.target, before, kind, left]
        rfl
      rw [kind, Bool.not_false, Bool.true_or] at writes
      obtain ⟨keeps, notPc⟩ := based writes
      rw [target] at ran
      simp only [Bool.false_eq_true, if_false, ran, writes, keeps, if_true]
      cases load : instr.getLsbD 20 with
      | true => exact shows.setReg notPc _
      | false =>
          rw [final moved (stores load)]
          exact shows.setReg notPc _

end Indexing

section Singles

variable {state : ARMulState Mem} {pc instr : ARMword} (bus : NarrowBus Mem)
  (ready : ArmReady state pc) {address : ArmIsa.Address}

theorem legal_apart {rn rd : RegNum} (legal : address.legal rn rd = true)
    (writes : address.writes = true) : rn ≠ 15#4 ∧ rn ≠ rd := by
  simp only [ArmIsa.Address.legal, writes, Bool.not_true, Bool.false_or, Bool.and_eq_true,
    bne_iff_ne, ne_eq] at legal
  exact ⟨legal.2.1.1, legal.2.1.2⟩

include ready

theorem shows_load {width : Width} {signed : Bool} {run : ARMword → ARMulState Mem × Bool}
    (access : IsAccess bus.toBus state instr run (.load width signed)) {after : Processor Mem}
    (defined : ArmIsa.execLoad (busMemory bus.toBus bus.plain state.mode) width signed (lhsReg instr)
      (destReg instr) address (machineOf state pc) = some after) :
    ∃ moved middle, run (address.target (lhsReg instr) (machineOf state pc)) =
        (moved, destReg instr != lhsReg instr) ∧
      Shows state moved pc middle ∧
      after = address.moveBase (lhsReg instr) (machineOf state pc) middle := by
  obtain ⟨finish, ran, finishes⟩ := access (address.target (lhsReg instr) (machineOf state pc))
  unfold ArmIsa.execLoad at defined
  dsimp only at defined
  split at defined
  · cases defined
  · rename_i legal
    rw [not_or, not_and, not_or, not_not] at legal
    simp only [Option.bind_eq_bind, Option.bind_eq_some_iff] at defined
    obtain ⟨⟨value, mem⟩, loaded, defined⟩ := defined
    obtain ⟨read, within, fine⟩ := loadData_within ready bus loaded finish
    have whole : width ≠ .word → destReg instr ≠ 15#4 := by
      intro narrow isPc
      exact narrow (legal.2 isPc).1
    rw [finishes whole read value] at fine
    rw [ran, fine]
    dsimp only at defined
    unfold writeDestB
    split at defined
    · rename_i isPc
      obtain ⟨middle, exchanged, rfl⟩ := Option.map_eq_some_iff.mp defined
      rw [if_pos isPc]
      exact ⟨_, middle, rfl, within.exchange _ pc exchanged, rfl⟩
    · rename_i notPc
      cases defined
      rw [if_neg notPc]
      exact ⟨_, _, rfl, (within.setReg notPc _).skip ready.arm, skip_moveBase _ _ _ _⟩

theorem shows_store {width : Width} {run : ARMword → ARMulState Mem × Bool}
    (access : IsAccess bus.toBus state instr run (.store width)) {after : Processor Mem}
    (defined : ArmIsa.execStore (busMemory bus.toBus bus.plain state.mode) width (lhsReg instr)
      (destReg instr) address (machineOf state pc) = some after) :
    ∃ moved middle, run (address.target (lhsReg instr) (machineOf state pc)) = (moved, true) ∧
      moved.file = state.file ∧ moved.flags = state.flags ∧ Shows state moved pc middle ∧
      after = address.moveBase (lhsReg instr) (machineOf state pc) middle := by
  have ran := access (address.target (lhsReg instr) (machineOf state pc))
  unfold ArmIsa.execStore at defined
  dsimp only at defined
  split at defined
  · cases defined
  · simp only [Option.bind_eq_bind, Option.bind_eq_some_iff] at defined
    obtain ⟨mem, stored, same⟩ := defined
    cases same
    obtain ⟨written, within, file, flags, fine⟩ := storeData_within ready bus stored
    rw [ran]
    exact ⟨written, _, fine, file, flags, within.skip ready.arm, skip_moveBase _ _ _ _⟩

theorem shows_execTransfer {kind : Access} {offset : ARMulState Mem → ARMword → ARMword}
    {access : ARMulState Mem → ARMword → ARMword → ARMulState Mem × Bool}
    (isAccess : IsAccess bus.toBus state instr (access state instr) kind)
    (before : address.before = instr.getLsbD 24) (up : address.up = instr.getLsbD 23)
    (writes : address.writes = (!instr.getLsbD 24 || instr.getLsbD 21))
    (loads : instr.getLsbD 20 = isLoad kind)
    (value : offset state instr = address.offset.value (machineOf state pc))
    (steady : ∀ other : ARMulState Mem, other.file = state.file → other.flags = state.flags →
      offset other instr = offset state instr) {after : Processor Mem}
    (defined : ArmIsa.execTransfer (busMemory bus.toBus bus.plain state.mode) kind (lhsReg instr)
      (destReg instr) address (machineOf state pc) = some after) :
    Shows state (indexedTransfer offset access state instr) pc after := by
  unfold ArmIsa.execTransfer at defined
  split at defined
  · rename_i legal
    cases kind with
    | load width signed =>
        obtain ⟨moved, middle, ran, shown, rfl⟩ := shows_load bus ready isAccess defined
        refine shows_indexedTransfer ready before up writes value ran shown ?_ ?_
        · intro moves
          obtain ⟨notPc, apart⟩ := legal_apart legal moves
          exact ⟨bne_iff_ne.mpr apart.symm, notPc⟩
        · intro stores
          rw [loads] at stores
          cases stores
    | store width =>
        obtain ⟨moved, middle, ran, file, flags, shown, rfl⟩ :=
          shows_store bus ready isAccess defined
        refine shows_indexedTransfer ready before up writes value ran shown ?_ ?_
        · intro moves
          exact ⟨rfl, (legal_apart legal moves).1⟩
        · intro _
          exact steady moved file flags
  · cases defined

omit ready in
theorem decodeAddress_some {offset : ArmIsa.Offset}
    (named : ArmIsa.decodeAddress instr offset = some address) :
    ¬(instr.getLsbD 24 = false ∧ instr.getLsbD 21 = true) ∧
      address =
        { before := instr.getLsbD 24
          up := instr.getLsbD 23
          writes := !instr.getLsbD 24 || instr.getLsbD 21
          offset } := by
  unfold ArmIsa.decodeAddress at named
  split at named
  · cases named
  · rename_i own
    cases named
    exact ⟨own, rfl⟩

variable (traps : Traps Mem) (cops : Coprocessors Mem)

theorem performs_single (upper : instr.extractLsb' 26 2 = 1#2)
    (constant : ¬(instr.getLsbD 25 = true ∧ instr.getLsbD 4 = true)) {decoded : ArmIsa.Instr}
    (named : ArmIsa.decodeSingle instr = some decoded) {effect : ArmIsa.Effect Mem}
    {highVectors : Mem → Bool}
    (ran : ArmIsa.exec (busMemory bus.toBus bus.plain state.mode) decoded (armMachineOf state pc) =
      some effect) :
    ArmPerforms highVectors state (mainSwitch bus.toBus traps cops state pc instr) pc effect := by
  unfold ArmIsa.decodeSingle at named
  obtain ⟨address, found, rfl⟩ := Option.map_eq_some_iff.mp named
  obtain ⟨own, rfl⟩ := decodeAddress_some found
  have own' : (instr.getLsbD 21 && !instr.getLsbD 24) = false := by
    cases moves : instr.getLsbD 21 <;> cases indexes : instr.getLsbD 24 <;>
      simp_all
  have transfers : transferOf instr = some .single := by
    rw [transferOf, if_pos upper, if_neg]
    simpa using constant
  have access := @singleAccess_isAccess _ state instr bus.toBus
  have offset := @singleOffset_arm _ state pc instr
  have steady (other : ARMulState Mem) := @singleOffset_congr _ state other instr
  generalize (if instr.getLsbD 22 then Width.byte else Width.word) = width at ran access
  refine armPerforms_continues ran fun after defined => ?_
  simp only [mainSwitch, transfers, dataTransfer, singleTransfer, own', Bool.false_eq_true,
    if_false]
  cases load : instr.getLsbD 20 with
  | true =>
      rw [load] at access defined
      exact shows_execTransfer bus ready access rfl rfl rfl load offset steady defined
  | false =>
      rw [load] at access defined
      exact shows_execTransfer bus ready access rfl rfl rfl load offset steady defined

end Singles

section Doubles

variable {state : ARMulState Mem} {pc instr : ARMword} (bus : Bus Mem)
  {plain : Width → ModeNum → ARMword → Mem → Bool} (traps : Traps Mem)
  (ready : ArmReady state pc) {address : ArmIsa.Address}

structure DoubleForm (state : ARMulState Mem) (pc instr : ARMword) (address : ArmIsa.Address) :
    Prop where
  named : address =
    { before := instr.getLsbD 24
      up := instr.getLsbD 23
      writes := !instr.getLsbD 24 || instr.getLsbD 21
      offset := halfOffset instr }
  own : ¬(instr.getLsbD 24 = false ∧ instr.getLsbD 21 = true)
  even : (destReg instr).getLsbD 0 = false
  below : destReg instr ≠ 14#4
  aligned : (address.target (lhsReg instr) (machineOf state pc)).extractLsb' 0 3 = 0#3
  first : address.legal (lhsReg instr) (destReg instr) = true
  second : address.legal (lhsReg instr) (destReg instr + 1#4) = true

theorem DoubleForm.notPc (form : DoubleForm state pc instr address) :
    destReg instr ≠ 15#4 ∧ destReg instr + 1#4 ≠ 15#4 := by
  have even := form.even
  have below := form.below
  revert even below
  generalize destReg instr = rd
  revert rd
  decide

include ready

theorem doubleAddress_arm (form : DoubleForm state pc instr address) :
    doubleAddress state instr =
      { addr := address.target (lhsReg instr) (machineOf state pc)
        sum := address.moved (lhsReg instr) (machineOf state pc)
        accepted := true } := by
  have base : state.reg (lhsReg instr) = ArmIsa.read (machineOf state pc) (lhsReg instr) :=
    reg_armRead ready _
  have moved : (if instr.getLsbD 23 then state.reg (lhsReg instr) + getLS7RHS state instr
      else state.reg (lhsReg instr) - getLS7RHS state instr) =
        address.moved (lhsReg instr) (machineOf state pc) := by
    rw [form.named, ArmIsa.Address.moved, base, @getLS7RHS_arm _ state pc]
  have target : (if instr.getLsbD 24 then address.moved (lhsReg instr) (machineOf state pc)
      else state.reg (lhsReg instr)) = address.target (lhsReg instr) (machineOf state pc) := by
    rw [ArmIsa.Address.target, base, form.named]
  have low : address.target (lhsReg instr) (machineOf state pc) &&& 7#32 = 0#32 := by
    have bits := form.aligned
    have mask : ∀ index < 32, (7#32).getLsbD index = decide (index < 3) := by decide
    generalize address.target (lhsReg instr) (machineOf state pc) = word at bits
    apply BitVec.eq_of_getLsbD_eq
    intro index bound
    rw [BitVec.getLsbD_and, mask index bound, BitVec.getLsbD_zero]
    by_cases inside : index < 3
    · have bit := word_bit bits inside
      rw [Nat.zero_add] at bit
      simp [bit]
    · simp [inside]
  have own : (instr.getLsbD 21 && !instr.getLsbD 24) = false := by
    have own := form.own
    cases moves : instr.getLsbD 21 <;> cases indexes : instr.getLsbD 24 <;>
      simp_all
  have apart : ((!instr.getLsbD 24 || instr.getLsbD 21) &&
      (lhsReg instr == destReg instr || lhsReg instr == destReg instr + 1#4)) = false := by
    cases writes : (!instr.getLsbD 24 || instr.getLsbD 21) with
    | false => rfl
    | true =>
        have moves : address.writes = true := by
          rw [form.named]
          exact writes
        have first := (legal_apart form.first moves).2
        have second := (legal_apart form.second moves).2
        simp [first, second]
  unfold doubleAddress
  dsimp only
  rw [moved, target, own, form.even, low, apart]
  rfl

theorem doubleWriteBack_arm (form : DoubleForm state pc instr address)
    {after : ARMulState Mem} {machine : Processor Mem}
    (within : Within state after machine) (pcSame : machine.pc = pc)
    (arm : machine.thumb = false) :
    Shows state (doubleWriteBack after instr (doubleAddress state instr)) pc
      (ArmIsa.skip (address.moveBase (lhsReg instr) (machineOf state pc) machine)) := by
  have writes : address.writes = (!instr.getLsbD 24 || instr.getLsbD 21) := by
    rw [form.named]
  rw [doubleAddress_arm ready form, doubleWriteBack, skip_moveBase, ArmIsa.Address.moveBase,
    ← writes]
  subst pcSame
  split
  · rename_i moves
    exact (within.skip arm).setReg (legal_apart form.first moves).1 _
  · exact within.skip arm

theorem shows_loadDouble (form : DoubleForm state pc instr address) {words : List ARMword}
    {mem : Mem}
    (loaded : (busMemory bus plain state.mode).loadWords 2
      (address.target (lhsReg instr) (machineOf state pc)) state.mem = some (words, mem)) :
    Shows state (handleLoadDouble bus traps state instr) pc
      (ArmIsa.skip (address.moveBase (lhsReg instr) (machineOf state pc)
        ({ machineOf state pc with mem }.setAll [destReg instr, destReg instr + 1#4] words))) := by
  obtain ⟨notPc, notPc'⟩ := form.notPc
  simp only [Memory.loadWords, Option.bind_eq_bind, Option.bind_eq_some_iff] at loaded
  obtain ⟨⟨first, middle⟩, one, ⟨rest, last⟩, later, same⟩ := loaded
  cases same
  obtain ⟨⟨second, final⟩, two, ⟨none, done⟩, nothing, same⟩ := later
  cases same
  cases nothing
  obtain ⟨fine, data, memory⟩ := busMemory_load one
  obtain ⟨fine', data', memory'⟩ := busMemory_load two
  have read : armulRead bus .word state (address.target (lhsReg instr) (machineOf state pc)) =
      ({ state with mem := middle, abortSig := false }, first) := by
    rw [armulRead, if_pos fine, data, memory]
    rfl
  have read' : armulRead bus .word { state with mem := middle, abortSig := false }
      (address.target (lhsReg instr) (machineOf state pc) + 4#32) =
        ({ state with mem := final, abortSig := false }, second) := by
    rw [armulRead, if_pos fine', data', memory']
    rfl
  have within := (within_refl ready.ready pc).withMem final false state.aborted
  have shown := doubleWriteBack_arm ready form
    ((within.setReg notPc first).setReg notPc' second) rfl ready.arm
  have accepted := doubleAddress_arm ready form
  rw [accepted] at shown
  rw [handleLoadDouble, bususedincpcs_v4 ready.isV4]
  simp only [accepted, read, read', Bool.true_and, bne_iff_ne, ne_eq, form.below, not_false_eq_true,
    if_true]
  rw [if_pos ready.clear]
  exact shown

theorem shows_storeDouble (form : DoubleForm state pc instr address)
    (base : lhsReg instr ≠ 15#4) {mem : Mem}
    (stored : (busMemory bus plain state.mode).storeWords
      [state.reg (destReg instr), state.reg (destReg instr + 1#4)]
      (address.target (lhsReg instr) (machineOf state pc)) state.mem = some mem) :
    Shows state (handleStoreDouble bus traps state instr) pc
      (ArmIsa.skip (address.moveBase (lhsReg instr) (machineOf state pc)
        { machineOf state pc with mem })) := by
  simp only [Memory.storeWords, Option.bind_eq_bind, Option.bind_eq_some_iff] at stored
  obtain ⟨middle, one, final, two, same⟩ := stored
  cases same
  obtain ⟨fine, memory⟩ := busMemory_store one
  obtain ⟨fine', memory'⟩ := busMemory_store two
  have write : armulWrite bus .word state (address.target (lhsReg instr) (machineOf state pc))
      (state.reg (destReg instr)) = { state with mem := middle, abortSig := false } := by
    rw [armulWrite, if_pos fine, memory]
  have write' : armulWrite bus .word { state with mem := middle, abortSig := false }
      (address.target (lhsReg instr) (machineOf state pc) + 4#32)
      (state.reg (destReg instr + 1#4)) = { state with mem, abortSig := false } := by
    rw [armulWrite, if_pos fine', memory']
  have within := (within_refl ready.ready pc).withMem mem false state.aborted
  have shown := doubleWriteBack_arm ready form within rfl ready.arm
  have accepted := doubleAddress_arm ready form
  rw [accepted] at shown
  rw [handleStoreDouble, bususedincpcs_v4 ready.isV4]
  simp only [accepted, Bool.true_and, bne_iff_ne, ne_eq, base, not_false_eq_true, if_true]
  rw [write]
  refine Eq.mpr (congrArg (Shows state · pc _) ?_) shown
  rw [show ({ state with mem := middle, abortSig := false } : ARMulState Mem).reg
    (destReg instr + 1#4) = state.reg (destReg instr + 1#4) from rfl, write']
  exact if_pos ready.clear

end Doubles

section Extra

variable {state : ARMulState Mem} {pc instr : ARMword} (bus : NarrowBus Mem)
  (ready : ArmReady state pc) (traps : Traps Mem) (cops : Coprocessors Mem)

/-- The words whose bits 4 to 7 lie between those of the multiplications. -/
structure ExtraWord (instr : ARMword) : Prop where
  group : instr.extractLsb' 25 3 = 0#3
  four : instr.getLsbD 4 = true
  seven : instr.getLsbD 7 = true

theorem ExtraWord.code (word : ExtraWord instr) :
    instr.extractLsb' 4 4 =
      1#1 ++ (BitVec.ofBool (instr.getLsbD 6) ++ (BitVec.ofBool (instr.getLsbD 5) ++ 1#1)) := by
  have four := word.four
  have seven := word.seven
  apply BitVec.eq_of_getLsbD_eq
  intro index bound
  simp only [BitVec.getLsbD_extractLsb', BitVec.getLsbD_append, BitVec.getLsbD_ofBool]
  interval_cases index <;> simp_all

theorem decodeHalfAddress_some {address : ArmIsa.Address}
    (named : ArmIsa.decodeHalfAddress instr = some address) :
    (instr.getLsbD 22 = true ∨ instr.extractLsb' 8 4 = 0#4) ∧
      ArmIsa.decodeAddress instr (halfOffset instr) = some address := by
  unfold ArmIsa.decodeHalfAddress at named
  unfold halfOffset
  split at named
  · rename_i immediate
    exact ⟨Or.inl immediate, by rw [if_pos immediate]; exact named⟩
  · rename_i register
    split at named
    · rename_i zero
      exact ⟨Or.inr zero, by rw [if_neg register]; exact named⟩
    · cases named

theorem extra_transfer (word : ExtraWord instr)
    (plain : instr.getLsbD 22 = true ∨ instr.extractLsb' 8 4 = 0#4)
    (own : ¬(instr.getLsbD 24 = false ∧ instr.getLsbD 21 = true))
    (form : instr.extractLsb' 5 2 ≠ 0#2) :
    transferOf instr = some
      (if instr.getLsbD 20 = false ∧ instr.getLsbD 6 = true then
        if instr.getLsbD 5 then .storeDouble else .loadDouble
      else .half) := by
  have plain' : (instr.getLsbD 22 || instr.extractLsb' 8 4 == 0#4) = true := by
    rw [Bool.or_eq_true, beq_iff_eq]
    exact plain
  have own' : (instr.getLsbD 24 || !instr.getLsbD 21) = true := by
    cases indexes : instr.getLsbD 24 <;> cases moves : instr.getLsbD 21 <;>
      simp_all
  have upper : instr.extractLsb' 26 2 ≠ 1#2 := by
    rw [extract_upper, word.group]
    decide
  rw [extract_five] at form
  simp only [transferOf, upper, word.group, word.code, plain', own', if_true, if_false]
  cases instr.getLsbD 20 <;> cases high : instr.getLsbD 6 <;> cases low : instr.getLsbD 5 <;>
    first
    | rfl
    | exact absurd (by rw [high, low]; rfl) form

include ready

theorem performs_halfSingle (word : ExtraWord instr) {address : ArmIsa.Address}
    (named : ArmIsa.decodeHalfAddress instr = some address) (form : instr.extractLsb' 5 2 ≠ 0#2)
    (single : ¬(instr.getLsbD 20 = false ∧ instr.getLsbD 6 = true)) {after : Processor Mem}
    (defined : ArmIsa.execTransfer (busMemory bus.toBus bus.plain state.mode) (halfKind instr)
      (ArmIsa.rnOf instr) (ArmIsa.rdOf instr) address (machineOf state pc) = some after) :
    Shows state (mainSwitch bus.toBus traps cops state pc instr) pc after := by
  obtain ⟨plain, found⟩ := decodeHalfAddress_some named
  obtain ⟨own, rfl⟩ := decodeAddress_some found
  have transfers := extra_transfer word plain own form
  rw [if_neg single] at transfers
  simp only [mainSwitch, transfers, dataTransfer, halfTransfer]
  have access := @halfAccess_isAccess _ state instr bus.toBus form
  have offset := @getLS7RHS_arm _ state pc instr
  have steady (other : ARMulState Mem) (file : other.file = state.file)
    (_ : other.flags = state.flags) := @getLS7RHS_congr _ state other instr file
  have loads : instr.getLsbD 20 = isLoad (halfKind instr) := by
    unfold halfKind
    generalize instr.extractLsb' 5 2 = code
    cases instr.getLsbD 20 <;> revert code <;> decide
  exact shows_execTransfer bus ready access rfl rfl rfl loads offset steady defined

theorem performs_double (load : Bool) (word : ExtraWord instr) {address : ArmIsa.Address}
    (named : ArmIsa.decodeHalfAddress instr = some address)
    (double : instr.getLsbD 20 = false ∧ instr.getLsbD 6 = true)
    (kind : instr.getLsbD 5 = !load) (base : load = false → lhsReg instr ≠ 15#4)
    {after : Processor Mem}
    (defined : ArmIsa.execDouble (busMemory bus.toBus bus.plain state.mode) load (ArmIsa.rnOf instr)
      (ArmIsa.rdOf instr) address (machineOf state pc) = some after) :
    Shows state (mainSwitch bus.toBus traps cops state pc instr) pc after := by
  obtain ⟨plain, found⟩ := decodeHalfAddress_some named
  obtain ⟨own, built⟩ := decodeAddress_some found
  have form : instr.extractLsb' 5 2 ≠ 0#2 := by
    rw [extract_five, double.2]
    cases instr.getLsbD 5 <;> decide
  have transfers := extra_transfer word plain own form
  rw [if_pos double, kind] at transfers
  unfold ArmIsa.execDouble at defined
  dsimp only at defined
  split at defined
  · cases defined
  · rename_i legal
    simp only [not_or, not_and, Bool.not_eq_true, Bool.not_eq_false, ne_eq, not_not] at legal
    obtain ⟨even, below, aligned, first, second, -⟩ := legal
    have doubleForm : DoubleForm state pc instr address :=
      ⟨built, own, even, below, aligned, first, second⟩
    cases load with
    | true =>
        simp only [if_true, Option.bind_eq_bind, Option.bind_eq_some_iff] at defined
        obtain ⟨⟨words, mem⟩, loaded, same⟩ := defined
        cases same
        simp only [mainSwitch, transfers, Bool.not_true, Bool.false_eq_true, if_false,
          dataTransfer]
        exact shows_loadDouble bus.toBus traps ready doubleForm loaded
    | false =>
        simp only [Bool.false_eq_true, if_false, Option.bind_eq_bind,
          Option.bind_eq_some_iff] at defined
        obtain ⟨mem, stored, same⟩ := defined
        cases same
        simp only [mainSwitch, transfers, Bool.not_false, if_true, dataTransfer]
        exact shows_storeDouble bus.toBus traps ready doubleForm (base rfl) stored

theorem performs_half (word : ExtraWord instr) (form : instr.extractLsb' 5 2 ≠ 0#2)
    {decoded : ArmIsa.Instr} (named : ArmIsa.decodeHalf instr = some decoded)
    (base : ∀ rn rd address, decoded = .double false rn rd address → rn ≠ 15#4) {effect : ArmIsa.Effect Mem}
    {highVectors : Mem → Bool}
    (ran : ArmIsa.exec (busMemory bus.toBus bus.plain state.mode) decoded (armMachineOf state pc) =
      some effect) :
    ArmPerforms highVectors state (mainSwitch bus.toBus traps cops state pc instr) pc effect := by
  unfold ArmIsa.decodeHalf at named
  obtain ⟨address, found, same⟩ := Option.map_eq_some_iff.mp named
  have single := performs_halfSingle bus ready traps cops word found form
  unfold halfKind at single
  rw [extract_five] at form same single
  cases load : instr.getLsbD 20 <;> cases high : instr.getLsbD 6 <;>
    cases low : instr.getLsbD 5 <;>
    rw [load, high, low] at same single <;>
    rw [high, low] at form
  · exact absurd rfl form
  · subst same
    exact armPerforms_continues ran fun after => single (by decide)
  · subst same
    exact armPerforms_continues ran fun after =>
      performs_double bus ready traps cops true word found ⟨load, high⟩ low Bool.noConfusion
  · have notPc := base _ _ _ same.symm
    subst same
    exact armPerforms_continues ran fun after =>
      performs_double bus ready traps cops false word found ⟨load, high⟩ low fun _ => notPc
  · exact absurd rfl form
  · subst same
    exact armPerforms_continues ran fun after => single (by decide)
  · subst same
    exact armPerforms_continues ran fun after => single (by decide)
  · subst same
    exact armPerforms_continues ran fun after => single (by decide)

omit ready in
theorem lhsValue_own {other : ARMulState Mem} (notPc : lhsReg instr ≠ 15#4) :
    lhsValue other instr = other.reg (lhsReg instr) := by
  rw [lhsValue, if_neg notPc]

omit ready in
theorem swapEnd_fine {other : ARMulState Mem} (clear : other.aborted = 0#32)
    (fine : other.abortSig = false) : swapEnd bus.toBus other = other := by
  rw [swapEnd, fine, clear]
  rfl

theorem shows_swapWord (base : lhsReg instr ≠ 15#4) (dest : destReg instr ≠ 15#4)
    {value : BitVec Width.word.bits} {middle mem : Mem}
    (loaded : (busMemory bus.toBus bus.plain state.mode).load .word (state.reg (lhsReg instr)) state.mem =
      some (value, middle))
    (stored : (busMemory bus.toBus bus.plain state.mode).store .word (state.reg (lhsReg instr))
      ((state.reg (rhsReg instr)).setWidth Width.word.bits) middle = some mem) :
    Shows state (swapWord bus.toBus state instr) pc
      (ArmIsa.skip ({ machineOf state pc with mem }.set (destReg instr)
        (ArmIsa.turned .word (state.reg (lhsReg instr)) (value.setWidth 32)))) := by
  obtain ⟨fine, data, memory⟩ := busMemory_loaded bus loaded
  obtain ⟨-, memory'⟩ := busMemory_stored bus stored
  have swapped : armulSwapWord bus.toBus state (state.reg (lhsReg instr))
      (state.reg (rhsReg instr)) =
      ({ state with mem, abortSig := false }, value.setWidth 32) := by
    rw [armulSwapWord, armulRead]
    simp only [show AccessSize.word = accessSize .word from rfl, fine, if_true, data, memory,
      putWord, memory']
  have within := (within_refl ready.ready pc).withMem mem false state.aborted
  rw [swapWord, bususedincpcs_v4 ready.isV4, lhsValue_own base]
  simp only [swapped]
  rw [turned_align, swapEnd_fine bus]
  · exact (within.setReg dest _).skip ready.arm
  · exact ready.clear
  · rfl

theorem shows_swapByte (base : lhsReg instr ≠ 15#4) (dest : destReg instr ≠ 15#4)
    {value : BitVec Width.byte.bits} {middle mem : Mem}
    (loaded : (busMemory bus.toBus bus.plain state.mode).load .byte (state.reg (lhsReg instr)) state.mem =
      some (value, middle))
    (stored : (busMemory bus.toBus bus.plain state.mode).store .byte (state.reg (lhsReg instr))
      ((state.reg (rhsReg instr)).setWidth Width.byte.bits) middle = some mem) :
    Shows state (swapByte bus.toBus state instr) pc
      (ArmIsa.skip ({ machineOf state pc with mem }.set (destReg instr)
        (ArmIsa.turned .byte (state.reg (lhsReg instr)) (value.setWidth 32)))) := by
  obtain ⟨fine, data, memory⟩ := busMemory_loaded bus loaded
  obtain ⟨fine', memory'⟩ := busMemory_stored bus stored
  have swapped : armulSwapByte bus.toBus state (state.reg (lhsReg instr))
      (state.reg (rhsReg instr)) =
      ({ state with mem, abortSig := false }, value.setWidth 32) := by
    rw [armulSwapByte, armulRead]
    simp only [show AccessSize.byte = accessSize .byte from rfl, fine, if_true, data, memory,
      armulWrite, fine', memory']
  have within := (within_refl ready.ready pc).withMem mem false state.aborted
  rw [swapByte, bususedincpcs_v4 ready.isV4, lhsValue_own base]
  simp only [swapped]
  rw [swapEnd_fine bus]
  · exact (within.setReg dest _).skip ready.arm
  · exact ready.clear
  · rfl

omit ready in
theorem swap_transfer (word : ExtraWord instr) (form : instr.extractLsb' 5 2 = 0#2)
    (swaps : instr.getLsbD 24 = true) (zero : instr.extractLsb' 8 4 = 0#4)
    (plain : instr.extractLsb' 20 2 = 0#2) (short : instr.getLsbD 23 = false) :
    transferOf instr = some (if instr.getLsbD 22 then .swapByte else .swapWord) := by
  have upper : instr.extractLsb' 26 2 ≠ 1#2 := by
    rw [extract_upper, word.group]
    decide
  have stores : instr.getLsbD 20 = false := word_bit plain (show 0 < 2 by decide)
  have code : instr.extractLsb' 4 4 = 9#4 := extract_nine word.four word.seven form
  have parts : instr.extractLsb' 20 8 = instr.extractLsb' 25 3 ++
      (BitVec.ofBool (instr.getLsbD 24) ++ (BitVec.ofBool (instr.getLsbD 23) ++
        (BitVec.ofBool (instr.getLsbD 22) ++ instr.extractLsb' 20 2))) := by
    apply BitVec.eq_of_getLsbD_eq
    intro index bound
    simp only [BitVec.getLsbD_extractLsb', BitVec.getLsbD_append, BitVec.getLsbD_ofBool]
    grind
  rw [word.group, swaps, short, plain] at parts
  simp only [transferOf, upper, word.group, stores, code, zero, parts, if_true, if_false,
    and_true]
  cases instr.getLsbD 22 <;> rfl

theorem shows_execSwap (byte : Bool) {after : Processor Mem}
    (defined : ArmIsa.execSwap (busMemory bus.toBus bus.plain state.mode) byte (lhsReg instr)
      (destReg instr) (rhsReg instr) (machineOf state pc) = some after) :
    Shows state (if byte then swapByte bus.toBus state instr else swapWord bus.toBus state instr)
      pc after := by
  unfold ArmIsa.execSwap at defined
  cases byte with
  | true =>
      dsimp only [if_true] at defined ⊢
      split at defined
      · cases defined
      · rename_i legal
        simp only [ArmIsa.usesPc_iff, List.mem_cons, List.not_mem_nil, or_false, not_or] at legal
        obtain ⟨⟨base, dest, -⟩, -, -⟩ := legal
        simp only [Option.bind_eq_bind, Option.bind_eq_some_iff] at defined
        obtain ⟨⟨value, middle⟩, loaded, mem, stored, same⟩ := defined
        cases same
        exact shows_swapByte bus ready (Ne.symm base) (Ne.symm dest) loaded stored
  | false =>
      dsimp only [Bool.false_eq_true, if_false] at defined ⊢
      split at defined
      · cases defined
      · rename_i legal
        simp only [ArmIsa.usesPc_iff, List.mem_cons, List.not_mem_nil, or_false, not_or] at legal
        obtain ⟨⟨base, dest, -⟩, -, -⟩ := legal
        simp only [Option.bind_eq_bind, Option.bind_eq_some_iff] at defined
        obtain ⟨⟨value, middle⟩, loaded, mem, stored, same⟩ := defined
        cases same
        exact shows_swapWord bus ready (Ne.symm base) (Ne.symm dest) loaded stored

theorem performs_swap (word : ExtraWord instr) (form : instr.extractLsb' 5 2 = 0#2)
    (swaps : instr.getLsbD 24 = true) {decoded : ArmIsa.Instr}
    (named : ArmIsa.decodeSwap instr = some decoded) {effect : ArmIsa.Effect Mem}
    {highVectors : Mem → Bool}
    (ran : ArmIsa.exec (busMemory bus.toBus bus.plain state.mode) decoded (armMachineOf state pc) =
      some effect) :
    ArmPerforms highVectors state (mainSwitch bus.toBus traps cops state pc instr) pc effect := by
  unfold ArmIsa.decodeSwap at named
  split at named
  · rename_i zeros
    cases named
    have transfers := swap_transfer word form swaps zeros.1 zeros.2.1 zeros.2.2
    refine armPerforms_continues ran fun after defined => ?_
    have shown := shows_execSwap bus ready (instr.getLsbD 22) defined
    simp only [mainSwitch, transfers]
    cases byte : instr.getLsbD 22 with
    | true =>
        rw [byte] at shown
        exact shown
    | false =>
        rw [byte] at shown
        exact shown
  · cases named

end Extra

end SkyeyeStarlet
