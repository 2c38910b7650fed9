import SkyeyeStarlet.Blocks
import SkyeyeStarlet.ThumbData

/-!
The Thumb loads and stores: each makes the accesses of the architecture, in its order, and
leaves the registers that it gives.
-/

namespace SkyeyeStarlet

open ThumbIsa

variable {Mem : Type}

section Buses

def accessSize : Width → AccessSize
  | .byte => .byte
  | .half => .halfword
  | .word => .word

/-- A bus whose narrow accesses, where it is `plain`, carry the low bits of a word and no
more. -/
structure NarrowBus (Mem : Type) extends Bus Mem where
  plain : Width → ModeNum → ARMword → Mem → Bool
  read_narrow : ∀ width mode address mem, plain width mode address mem = true →
    (read (accessSize width) mode address mem).data =
      ((read (accessSize width) mode address mem).data.setWidth width.bits).setWidth 32
  write_narrow : ∀ width mode address data mem, plain width mode address mem = true →
    write (accessSize width) mode address data mem =
      write (accessSize width) mode address ((data.setWidth width.bits).setWidth 32) mem

/-- The memory of the architecture behind a bus.  It gives no meaning to a narrow access where
the bus is not plain. -/
def busMemory (bus : Bus Mem) (plain : Width → ModeNum → ARMword → Mem → Bool) (mode : ModeNum) :
    Memory Mem :=
  { load := fun width address mem =>
      let result := bus.read (accessSize width) mode address mem
      if result.fault = .noFault ∧ (width = .word ∨ plain width mode address mem = true) then
        some (result.data.setWidth width.bits, result.mem)
      else none
    store := fun width address value mem =>
      let result := bus.write (accessSize width) mode address (value.setWidth 32) mem
      if result.fault = .noFault ∧ (width = .word ∨ plain width mode address mem = true) then
        some result.mem
      else none }

variable (bus : NarrowBus Mem) {width : Width} {mode : ModeNum} {address : ARMword}
  {mem after : Mem}

theorem busMemory_loaded {value : BitVec width.bits}
    (loaded : (busMemory bus.toBus bus.plain mode).load width address mem = some (value, after)) :
    let result := bus.read (accessSize width) mode address mem
    result.fault = .noFault ∧ result.data = value.setWidth 32 ∧ result.mem = after := by
  intro result
  have read : (if result.fault = .noFault ∧
      (width = .word ∨ bus.plain width mode address mem = true) then
        some (result.data.setWidth width.bits, result.mem) else none) = some (value, after) := loaded
  split at read
  · rename_i defined
    cases read
    refine ⟨defined.1, ?_, rfl⟩
    rcases defined.2 with rfl | plain
    · simp [result, Width.bits]
    · exact bus.read_narrow width mode address mem plain
  · cases read

theorem busMemory_stored {word : ARMword}
    (stored : (busMemory bus.toBus bus.plain mode).store width address (word.setWidth width.bits)
      mem = some after) :
    let result := bus.write (accessSize width) mode address word mem
    result.fault = .noFault ∧ result.mem = after := by
  intro result
  let narrow := bus.write (accessSize width) mode address
    ((word.setWidth width.bits).setWidth 32) mem
  have written : (if narrow.fault = .noFault ∧
      (width = .word ∨ bus.plain width mode address mem = true) then some narrow.mem
        else none) = some after := stored
  split at written
  · rename_i defined
    cases written
    have same : result = narrow := by
      rcases defined.2 with rfl | plain
      · simp [result, narrow, Width.bits]
      · exact bus.write_narrow width mode address word mem plain
    rw [same]
    exact ⟨defined.1, rfl⟩
  · cases written

end Buses

section Extension

theorem signExtendFrom_eq {bits : Nat} (value : BitVec bits) (positive : 0 < bits)
    (narrow : bits < 32) (signed : Bool) :
    signExtendFrom bits signed (value.setWidth 32) = extend signed value := by
  have low : (value.setWidth 32).setWidth bits = value := by
    rw [BitVec.setWidth_setWidth_of_le value (by omega), BitVec.setWidth_eq]
  cases signed with
  | false => rfl
  | true =>
      rw [signExtendFrom, extend, Bool.true_and, if_pos rfl]
      cases sign : (value.setWidth 32).getLsbD (bits - 1) with
      | true => rw [if_pos rfl, WordBits.sub_eq_signExtend positive narrow sign, low]
      | false =>
          have top : value.msb = false := by
            rw [BitVec.getLsbD_setWidth, Bool.and_eq_false_iff, decide_eq_false_iff_not] at sign
            rw [BitVec.msb_eq_getLsbD_last]
            exact sign.resolve_left (by omega)
          rw [if_neg Bool.false_ne_true, BitVec.signExtend_eq_setWidth_of_msb_false top]

end Extension

section Words

/-- A word of a transfer that adds its offset and does not write the base. -/
structure TransferWord (instr : ARMword) (kind : Transfer) (rd : LowReg) (rn : RegNum) :
    Prop where
  always : instr.extractLsb' 28 4 = 0xe#4
  kind : transferOf instr = some kind
  indexes : instr.getLsbD 24 = true
  adds : instr.getLsbD 23 = true
  keeps : instr.getLsbD 21 = false
  dest : destReg instr = rd.setWidth 4
  left : lhsReg instr = rn

variable {state : ARMulState Mem} {pc : ARMword} (bus : Bus Mem) (traps : Traps Mem)
  (cops : Coprocessors Mem) {instr : ARMword} {rd : LowReg} {rn : RegNum}

theorem executeArm_single (word : TransferWord instr .single rd rn) :
    executeArm bus traps cops state pc instr =
      (singleAccess bus state instr (lhsValue state instr + singleOffset state instr)).1 := by
  rw [executeArm_always bus traps cops state pc word.always]
  simp only [mainSwitch, word.kind, dataTransfer, singleTransfer, indexedTransfer, indexed,
    word.indexes, word.adds, word.keeps, Bool.false_and, Bool.false_eq_true, if_false, if_true]

theorem executeArm_half (word : TransferWord instr .half rd rn) :
    executeArm bus traps cops state pc instr =
      (halfAccess bus state instr (lhsValue state instr + getLS7RHS state instr)).1 := by
  rw [executeArm_always bus traps cops state pc word.always]
  simp only [mainSwitch, word.kind, dataTransfer, halfTransfer, indexedTransfer, indexed,
    word.indexes, word.adds, word.keeps, Bool.false_and, Bool.false_eq_true, if_false, if_true]

end Words

section Accesses

theorem and_three_of_aligned {address : ARMword} (aligned : Width.word.aligned address = true) :
    address &&& 3#32 = 0#32 := by
  rw [Width.aligned, Bool.and_eq_true, Bool.not_eq_true', Bool.not_eq_true', getLsbD_div,
    getLsbD_div, decide_eq_false_iff_not, decide_eq_false_iff_not] at aligned
  have low := (WordBits.and_low_eq_zero_iff address 2 (by decide)).mpr (by omega)
  exact low

theorem storeData_fine {bus : Bus Mem} {size : AccessSize} {state : ARMulState Mem}
    {instr address : ARMword} (isV4 : state.isV4 = true) (clear : state.aborted = 0#32)
    (fault : (bus.write size state.mode address (state.reg (destReg instr)) state.mem).fault =
      .noFault) :
    storeData bus size state instr address =
      ({ state with
          nextInstr := state.nextInstr ||| 1#8
          mem := (bus.write size state.mode address (state.reg (destReg instr)) state.mem).mem
          abortSig := false }, true) := by
  have written : armulWrite bus size { state with nextInstr := state.nextInstr ||| 1#8 } address
      (state.reg (destReg instr)) =
      { state with
        nextInstr := state.nextInstr ||| 1#8
        mem := (bus.write size state.mode address (state.reg (destReg instr)) state.mem).mem
        abortSig := false } := by
    rw [armulWrite]
    exact if_pos fault
  unfold storeData
  dsimp only
  rw [bususedincpcn_v4 isV4]
  refine (if_pos ?_).trans (congrArg (fun state => (state, true)) written)
  exact (congrArg ARMulState.aborted written).trans clear

variable {state : ARMulState Mem} {pc : ARMword} (bus : NarrowBus Mem) {instr : ARMword}
  {rd : LowReg} {address : ARMword} {after : Processor Mem} {width : Width} {signed : Bool}
  (ready : ThumbReady state pc)

include ready

theorem shows_loadData {finish : ARMulState Mem → ARMword → ARMulState Mem}
    (finishes : width.aligned address = true → ∀ read (value : BitVec width.bits),
      finish read (value.setWidth 32) = read.setReg (rd.setWidth 4) (extend signed value))
    (defined : execAccess (busMemory bus.toBus bus.plain state.mode) (.load width signed) rd address
      (machineOf state pc) = some after) :
    Shows state (loadData bus.toBus (accessSize width) finish state instr address).1 pc after := by
  unfold execAccess at defined
  by_cases aligned : width.aligned address = true
  · simp only [aligned, if_true, Option.bind_eq_bind, Option.bind_eq_some_iff,
      Option.some.injEq] at defined
    obtain ⟨⟨value, mem⟩, loaded, rfl⟩ := defined
    obtain ⟨fine, data, memory⟩ := busMemory_loaded bus loaded
    have fault : (bus.read (accessSize width) state.mode address state.mem).fault = .noFault := fine
    rw [loadData, bususedincpcs_v4 ready.isV4, armulRead]
    simp only [fault, if_true, ready.clear]
    rw [show (bus.read (accessSize width) state.mode address state.mem).data = _ from data,
      show (bus.read (accessSize width) state.mode address state.mem).mem = mem from memory,
      finishes aligned]
    have within := (within_refl ready.ready pc).withMem mem false 0#32
    exact (within.setReg (low_ne_pc rd) _).next ready.thumb
  · simp [aligned] at defined

theorem shows_storeData (dest : destReg instr = rd.setWidth 4)
    (defined : execAccess (busMemory bus.toBus bus.plain state.mode) (.store width) rd address
      (machineOf state pc) = some after) :
    Shows state (storeData bus.toBus (accessSize width) state instr address).1 pc after := by
  unfold execAccess at defined
  dsimp only at defined
  by_cases aligned : width.aligned address = true
  · simp only [aligned, if_true, Option.bind_eq_bind, Option.bind_eq_some_iff,
      Option.some.injEq] at defined
    obtain ⟨mem, stored, rfl⟩ := defined
    obtain ⟨fault, memory⟩ := busMemory_stored bus
      (show (busMemory bus.toBus bus.plain state.mode).store width address
        ((state.reg (rd.setWidth 4)).setWidth width.bits) state.mem = some mem from stored)
    rw [← dest] at fault memory
    rw [storeData_fine ready.isV4 ready.clear fault, memory]
    have within := (within_refl ready.ready pc).busused.withMem mem false state.aborted
    exact within.next ready.thumb
  · rw [if_neg aligned] at defined
    cases defined

def SingleForm (instr : ARMword) : Access → Prop
  | .store .word => instr.getLsbD 22 = false ∧ instr.getLsbD 20 = false
  | .load .word false => instr.getLsbD 22 = false ∧ instr.getLsbD 20 = true
  | .store .byte => instr.getLsbD 22 = true ∧ instr.getLsbD 20 = false
  | .load .byte false => instr.getLsbD 22 = true ∧ instr.getLsbD 20 = true
  | _ => False

def HalfForm (instr : ARMword) : Access → Prop
  | .store .half => instr.getLsbD 20 = false
  | .load .half false =>
      instr.getLsbD 20 = true ∧ instr.getLsbD 6 = false ∧ instr.getLsbD 5 = true
  | .load .byte true =>
      instr.getLsbD 20 = true ∧ instr.getLsbD 6 = true ∧ instr.getLsbD 5 = false
  | .load .half true =>
      instr.getLsbD 20 = true ∧ instr.getLsbD 6 = true ∧ instr.getLsbD 5 = true
  | _ => False

variable (traps : Traps Mem) (cops : Coprocessors Mem)

theorem shows_single {rn : RegNum} {access : Access} (word : TransferWord instr .single rd rn)
    (form : SingleForm instr access)
    (defined : execAccess (busMemory bus.toBus bus.plain state.mode) access rd
      (lhsValue state instr + singleOffset state instr) (machineOf state pc) = some after) :
    Shows state (executeArm bus.toBus traps cops state pc instr) pc after := by
  have low : ¬destReg instr = 15#4 := by
    rw [word.dest]
    exact low_ne_pc rd
  rw [executeArm_single bus.toBus traps cops word]
  cases access with
  | store width =>
      cases width with
      | byte =>
          rw [singleAccess, form.1, form.2]
          exact shows_storeData bus ready word.dest defined
      | half => exact form.elim
      | word =>
          rw [singleAccess, form.1, form.2]
          exact shows_storeData bus ready word.dest defined
  | load width signed =>
      cases signed with
      | true => cases width <;> exact form.elim
      | false =>
          cases width with
          | half => exact form.elim
          | byte =>
              rw [singleAccess, form.1, form.2]
              refine shows_loadData bus ready (fun _ read value => ?_) defined
              rw [writeDest, if_neg low, word.dest]
              rfl
          | word =>
              rw [singleAccess, form.1, form.2]
              refine shows_loadData bus ready (fun aligned read value => ?_) defined
              rw [writeDestB, if_neg low, if_pos (and_three_of_aligned aligned), word.dest]
              rfl

theorem shows_half {rn : RegNum} {access : Access} (word : TransferWord instr .half rd rn)
    (form : HalfForm instr access)
    (defined : execAccess (busMemory bus.toBus bus.plain state.mode) access rd
      (lhsValue state instr + getLS7RHS state instr) (machineOf state pc) = some after) :
    Shows state (executeArm bus.toBus traps cops state pc instr) pc after := by
  have low : ¬destReg instr = 15#4 := by
    rw [word.dest]
    exact low_ne_pc rd
  have loads {width : Width} {signed : Bool} (narrow : width.bits < 32)
      (read : ARMulState Mem) (value : BitVec width.bits) :
      writeDest read instr (signExtendFrom width.bits signed (value.setWidth 32)) =
        read.setReg (rd.setWidth 4) (extend signed value) := by
    rw [writeDest, if_neg low, word.dest, signExtendFrom_eq value _ narrow]
    cases width <;> decide
  rw [executeArm_half bus.toBus traps cops word]
  cases access with
  | store width =>
      cases width with
      | half =>
          rw [halfAccess, show instr.getLsbD 20 = false from form]
          exact shows_storeData bus ready word.dest defined
      | byte => exact form.elim
      | word => exact form.elim
  | load width signed =>
      cases width with
      | word => cases signed <;> exact form.elim
      | byte =>
          cases signed with
          | false => exact form.elim
          | true =>
              simp only [halfAccess, form.1, form.2.1, form.2.2, if_true]
              exact shows_loadData bus ready (fun _ => loads (by decide)) defined
      | half =>
          cases signed with
          | false =>
              simp only [halfAccess, form.1, form.2.1, form.2.2, if_true]
              exact shows_loadData bus ready (fun _ => loads (by decide)) defined
          | true =>
              simp only [halfAccess, form.1, form.2.1, form.2.2, if_true]
              exact shows_loadData bus ready (fun _ => loads (by decide)) defined

end Accesses

section Formats

variable {state : ARMulState Mem} {pc : ARMword} (bus : NarrowBus Mem) (traps : Traps Mem)
  (cops : Coprocessors Mem) (tinstr : Halfword) {after : Processor Mem}

def literalWord : ARMword :=
  0xe59f0000#32 ||| field tinstr 8 3 12 ||| field tinstr 0 8 2

theorem literalWord_word :
    TransferWord (literalWord tinstr) .single (tinstr.extractLsb' 8 3) 15#4 := by
  unfold literalWord
  constructor
  · simp [BitVec.extractLsb'_or]
  · simp [transferOf, BitVec.extractLsb'_or]
  · simp
  · simp
  · simp
  · simp [destReg, BitVec.extractLsb'_or]
  · simp [lhsReg, BitVec.extractLsb'_or]

theorem thumbStackTransfer_word :
    TransferWord (thumbStackTransfer tinstr) .single (tinstr.extractLsb' 8 3) 13#4 := by
  unfold thumbStackTransfer
  constructor
  · split <;> simp [BitVec.extractLsb'_or]
  · split <;> simp [transferOf, BitVec.extractLsb'_or]
  · split <;> simp
  · split <;> simp
  · split <;> simp
  · split <;> simp [destReg, BitVec.extractLsb'_or]
  · split <;> simp [lhsReg, BitVec.extractLsb'_or]

theorem thumbImmTransfer_word :
    TransferWord (thumbImmTransfer tinstr) .single (tinstr.extractLsb' 0 3)
      ((tinstr.extractLsb' 3 3).setWidth 4) := by
  unfold thumbImmTransfer
  cases tinstr.getLsbD 12 <;> cases tinstr.getLsbD 11 <;> constructor <;>
    simp [transferOf, destReg, lhsReg, BitVec.extractLsb'_or]

theorem thumbHalfTransfer_word :
    TransferWord (thumbHalfTransfer tinstr) .half (tinstr.extractLsb' 0 3)
      ((tinstr.extractLsb' 3 3).setWidth 4) := by
  unfold thumbHalfTransfer
  cases tinstr.getLsbD 11 <;> constructor <;>
    simp [transferOf, destReg, lhsReg, BitVec.extractLsb'_or]

theorem thumbRegTransfer_single (single : tinstr.getLsbD 9 = false) :
    TransferWord (thumbRegTransfer tinstr) .single (tinstr.extractLsb' 0 3)
      ((tinstr.extractLsb' 3 3).setWidth 4) := by
  unfold thumbRegTransfer
  rw [single]
  cases tinstr.getLsbD 11 <;> cases tinstr.getLsbD 10 <;> constructor <;>
    simp [transferOf, destReg, lhsReg, BitVec.extractLsb'_or]

theorem thumbRegTransfer_half (half : tinstr.getLsbD 9 = true) :
    TransferWord (thumbRegTransfer tinstr) .half (tinstr.extractLsb' 0 3)
      ((tinstr.extractLsb' 3 3).setWidth 4) := by
  unfold thumbRegTransfer
  rw [half]
  cases tinstr.getLsbD 11 <;> cases tinstr.getLsbD 10 <;> constructor <;>
    simp [transferOf, destReg, lhsReg, BitVec.extractLsb'_or]

theorem TransferWord.base_low {instr : ARMword} {kind : Transfer} {rd rn : LowReg}
    (word : TransferWord instr kind rd (rn.setWidth 4)) :
    lhsValue state instr = (machineOf state pc).low rn := by
  rw [lhsValue, word.left, if_neg (low_ne_pc rn)]
  rfl

theorem register_offset (single : tinstr.getLsbD 9 = false) :
    singleOffset state (thumbRegTransfer tinstr) =
      (machineOf state pc).low (tinstr.extractLsb' 6 3) := by
  unfold thumbRegTransfer
  rw [single]
  cases tinstr.getLsbD 11 <;> cases tinstr.getLsbD 10 <;>
    simp [singleOffset, lsRegRHS, rhsReg, BitVec.extractLsb'_or, Processor.low, machineOf]

theorem register_offset_half (half : tinstr.getLsbD 9 = true) :
    getLS7RHS state (thumbRegTransfer tinstr) =
      (machineOf state pc).low (tinstr.extractLsb' 6 3) := by
  unfold thumbRegTransfer
  rw [half]
  cases tinstr.getLsbD 11 <;> cases tinstr.getLsbD 10 <;>
    simp [getLS7RHS, rhsReg, BitVec.extractLsb'_or, Processor.low, machineOf]

theorem immediate_offset {instr : ARMword} {first width place : Nat} (fits : place + width ≤ 12)
    (immediate : instr.getLsbD 25 = false)
    (bits : instr.extractLsb' 0 12 = (field tinstr first width place).extractLsb' 0 12) :
    singleOffset state instr = (tinstr.extractLsb' first width).setWidth 32 <<< place := by
  rw [singleOffset, immediate, if_neg Bool.false_ne_true, lsImmRHS, bits]
  apply BitVec.eq_of_getLsbD_eq
  intro index bound
  simp only [field, BitVec.getLsbD_setWidth, BitVec.getLsbD_extractLsb', BitVec.getLsbD_shiftLeft]
  grind

theorem half_offset :
    getLS7RHS state (thumbHalfTransfer tinstr) =
      (tinstr.extractLsb' 6 5).setWidth 32 <<< 1 := by
  have immediate : (thumbHalfTransfer tinstr).getLsbD 22 = true := by
    unfold thumbHalfTransfer
    split <;> simp
  have low : (thumbHalfTransfer tinstr).extractLsb' 0 4 =
      (tinstr.extractLsb' 6 3).setWidth 4 <<< 1 := by
    unfold thumbHalfTransfer
    split <;> simp [BitVec.extractLsb'_or]
  have high : (thumbHalfTransfer tinstr).extractLsb' 8 4 = (tinstr.extractLsb' 9 2).setWidth 4 := by
    unfold thumbHalfTransfer
    split <;> simp [BitVec.extractLsb'_or]
  rw [getLS7RHS, if_pos immediate, low, high]
  apply BitVec.eq_of_getLsbD_eq
  intro index bound
  simp only [BitVec.getLsbD_or, BitVec.getLsbD_setWidth, BitVec.getLsbD_extractLsb',
    BitVec.getLsbD_shiftLeft]
  grind

theorem extract_transfer (tinstr : Halfword) :
    tinstr.extractLsb' 9 3 =
      BitVec.ofBool (tinstr.getLsbD 11) ++ BitVec.ofBool (tinstr.getLsbD 10) ++
        BitVec.ofBool (tinstr.getLsbD 9) := by
  apply BitVec.eq_of_getLsbD_eq
  intro index bound
  simp only [BitVec.getLsbD_extractLsb', BitVec.getLsbD_append, BitVec.getLsbD_ofBool]
  grind

variable (ready : ThumbReady state pc)

include ready

theorem shows_literal
    (defined : execAccess (busMemory bus.toBus bus.plain state.mode) (.load .word false)
      (tinstr.extractLsb' 8 3)
      (((pc + 4#32) &&& ~~~3#32) + (tinstr.extractLsb' 0 8).setWidth 32 <<< 2)
      (machineOf state pc) = some after) :
    Shows state (executeArm bus.toBus traps cops state pc (literalWord tinstr)) pc after := by
  have word := literalWord_word tinstr
  have base : lhsValue state (literalWord tinstr) = (pc + 4#32) &&& ~~~3#32 := by
    rw [lhsValue, word.left, ← ready.ahead]
    rfl
  have offset : singleOffset state (literalWord tinstr) =
      (tinstr.extractLsb' 0 8).setWidth 32 <<< 2 := by
    refine immediate_offset tinstr (by decide) ?_ ?_
    · simp [literalWord]
    · simp [literalWord, BitVec.extractLsb'_or]
  have form : SingleForm (literalWord tinstr) (.load .word false) := by
    constructor <;> simp [literalWord]
  rw [← base, ← offset] at defined
  exact shows_single bus ready traps cops word form defined

theorem shows_stackTransfer
    (defined : execAccess (busMemory bus.toBus bus.plain state.mode)
      (if tinstr.getLsbD 11 then .load .word false else .store .word) (tinstr.extractLsb' 8 3)
      (state.reg 13#4 + (tinstr.extractLsb' 0 8).setWidth 32 <<< 2)
      (machineOf state pc) = some after) :
    Shows state (executeArm bus.toBus traps cops state pc (thumbStackTransfer tinstr)) pc
      after := by
  have word := thumbStackTransfer_word tinstr
  have base : lhsValue state (thumbStackTransfer tinstr) = state.reg 13#4 := by
    rw [lhsValue, word.left]
    rfl
  have offset : singleOffset state (thumbStackTransfer tinstr) =
      (tinstr.extractLsb' 0 8).setWidth 32 <<< 2 := by
    unfold thumbStackTransfer
    refine immediate_offset tinstr (by decide) ?_ ?_
    · split <;> simp
    · split <;> simp [BitVec.extractLsb'_or]
  have form : SingleForm (thumbStackTransfer tinstr)
      (if tinstr.getLsbD 11 then .load .word false else .store .word) := by
    unfold thumbStackTransfer
    cases tinstr.getLsbD 11 <;> constructor <;> simp
  rw [← base, ← offset] at defined
  exact shows_single bus ready traps cops word form defined

def immAccess (byte load : Bool) : Access :=
  let width := if byte then Width.byte else Width.word
  if load then .load width false else .store width

theorem shows_immTransfer
    (defined : execAccess (busMemory bus.toBus bus.plain state.mode)
      (immAccess (tinstr.getLsbD 12) (tinstr.getLsbD 11)) (tinstr.extractLsb' 0 3)
      ((machineOf state pc).low (tinstr.extractLsb' 3 3) +
        (tinstr.extractLsb' 6 5).setWidth 32 <<< if tinstr.getLsbD 12 then 0 else 2)
      (machineOf state pc) = some after) :
    Shows state (executeArm bus.toBus traps cops state pc (thumbImmTransfer tinstr)) pc
      after := by
  have word := thumbImmTransfer_word tinstr
  have offset : singleOffset state (thumbImmTransfer tinstr) =
      (tinstr.extractLsb' 6 5).setWidth 32 <<< if tinstr.getLsbD 12 then 0 else 2 := by
    unfold thumbImmTransfer
    refine immediate_offset tinstr (by split <;> decide) ?_ ?_
    · cases tinstr.getLsbD 12 <;> cases tinstr.getLsbD 11 <;> simp
    · cases tinstr.getLsbD 12 <;> cases tinstr.getLsbD 11 <;> simp [BitVec.extractLsb'_or]
  have form : SingleForm (thumbImmTransfer tinstr)
      (immAccess (tinstr.getLsbD 12) (tinstr.getLsbD 11)) := by
    unfold thumbImmTransfer
    cases tinstr.getLsbD 12 <;> cases tinstr.getLsbD 11 <;> constructor <;> simp
  rw [← @TransferWord.base_low _ state pc _ _ _ _ word, ← offset] at defined
  exact shows_single bus ready traps cops word form defined

theorem shows_halfTransfer
    (defined : execAccess (busMemory bus.toBus bus.plain state.mode)
      (if tinstr.getLsbD 11 then .load .half false else .store .half) (tinstr.extractLsb' 0 3)
      ((machineOf state pc).low (tinstr.extractLsb' 3 3) +
        (tinstr.extractLsb' 6 5).setWidth 32 <<< 1) (machineOf state pc) = some after) :
    Shows state (executeArm bus.toBus traps cops state pc (thumbHalfTransfer tinstr)) pc
      after := by
  have word := thumbHalfTransfer_word tinstr
  have form : HalfForm (thumbHalfTransfer tinstr)
      (if tinstr.getLsbD 11 then .load .half false else .store .half) := by
    unfold thumbHalfTransfer
    cases tinstr.getLsbD 11 <;> simp [HalfForm]
  rw [← @TransferWord.base_low _ state pc _ _ _ _ word, ← @half_offset _ state] at defined
  exact shows_half bus ready traps cops word form defined

theorem shows_regTransfer
    (defined : execAccess (busMemory bus.toBus bus.plain state.mode)
      (decodeAccess (tinstr.extractLsb' 9 3)) (tinstr.extractLsb' 0 3)
      ((machineOf state pc).low (tinstr.extractLsb' 3 3) +
        (machineOf state pc).low (tinstr.extractLsb' 6 3)) (machineOf state pc) = some after) :
    Shows state (executeArm bus.toBus traps cops state pc (thumbRegTransfer tinstr)) pc
      after := by
  cases kind : tinstr.getLsbD 9 with
  | false =>
      have word := thumbRegTransfer_single tinstr kind
      have form : SingleForm (thumbRegTransfer tinstr)
          (decodeAccess (tinstr.extractLsb' 9 3)) := by
        rw [extract_transfer, kind]
        unfold thumbRegTransfer
        rw [kind]
        cases tinstr.getLsbD 11 <;> cases tinstr.getLsbD 10 <;>
          simp [decodeAccess, SingleForm]
      rw [← @TransferWord.base_low _ state pc _ _ _ _ word,
        ← @register_offset _ state pc tinstr kind] at defined
      exact shows_single bus ready traps cops word form defined
  | true =>
      have word := thumbRegTransfer_half tinstr kind
      have form : HalfForm (thumbRegTransfer tinstr)
          (decodeAccess (tinstr.extractLsb' 9 3)) := by
        rw [extract_transfer, kind]
        unfold thumbRegTransfer
        rw [kind]
        cases tinstr.getLsbD 11 <;> cases tinstr.getLsbD 10 <;>
          simp [decodeAccess, HalfForm]
      rw [← @TransferWord.base_low _ state pc _ _ _ _ word,
        ← @register_offset_half _ state pc tinstr kind] at defined
      exact shows_half bus ready traps cops word form defined

end Formats

end SkyeyeStarlet
