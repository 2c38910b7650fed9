import SkyeyeStarlet.BlockModes
import SkyeyeStarlet.Shifter

/-!
The single transfers of `armemu.c`, for every encoding and addressing mode: the one access that
each makes, the base that it leaves, and the registers that it does not touch.
-/

namespace SkyeyeStarlet

open ThumbIsa

variable {Mem : Type}

section Encodings

/-- The two encodings: words and unsigned bytes, and the halfwords with the signed bytes. -/
inductive SingleEncoding where
  | wordByte
  | halfSigned
  deriving DecidableEq, Repr

def SingleEncoding.Encodes (instr : ARMword) : SingleEncoding → Prop
  | .wordByte =>
      instr.extractLsb' 26 2 = 1#2 ∧ (instr.getLsbD 25 = true → instr.getLsbD 4 = false)
  | .halfSigned =>
      instr.extractLsb' 25 3 = 0#3 ∧ instr.getLsbD 7 = true ∧ instr.getLsbD 4 = true ∧
        (instr.getLsbD 22 = false → instr.extractLsb' 8 4 = 0#4) ∧
        if instr.getLsbD 20 then instr.extractLsb' 5 2 ≠ 0#2 else instr.extractLsb' 5 2 = 1#2

def SingleEncoding.width (instr : ARMword) : SingleEncoding → Width
  | .wordByte => if instr.getLsbD 22 then .byte else .word
  | .halfSigned => if instr.getLsbD 5 then .half else .byte

def SingleEncoding.signed (instr : ARMword) : SingleEncoding → Bool
  | .wordByte => false
  | .halfSigned => instr.getLsbD 6

def SingleEncoding.offset (state : ARMulState Mem) (instr : ARMword) : SingleEncoding → ARMword
  | .wordByte =>
      if instr.getLsbD 25 then (shifterOperand state instr).value
      else (instr.extractLsb' 0 12).setWidth 32
  | .halfSigned =>
      if instr.getLsbD 22 then (instr.extractLsb' 8 4 ++ instr.extractLsb' 0 4).setWidth 32
      else state.reg (rhsReg instr)

def transferBase (state : ARMulState Mem) (instr : ARMword) : ARMword :=
  if lhsReg instr = 15#4 then wordIndex (state.reg 15#4) ++ 0#2 else state.reg (lhsReg instr)

def SingleEncoding.indexed (encoding : SingleEncoding) (state : ARMulState Mem)
    (instr : ARMword) : ARMword :=
  if instr.getLsbD 23 then transferBase state instr + encoding.offset state instr
  else transferBase state instr - encoding.offset state instr

def SingleEncoding.address (encoding : SingleEncoding) (state : ARMulState Mem)
    (instr : ARMword) : ARMword :=
  if instr.getLsbD 24 then encoding.indexed state instr else transferBase state instr

def writesBase (instr : ARMword) : Bool :=
  !instr.getLsbD 24 || instr.getLsbD 21

end Encodings

structure SingleInstr (encoding : SingleEncoding) (instr : ARMword) : Prop where
  encoded : encoding.Encodes instr
  apart : writesBase instr = true → instr.getLsbD 20 = true → lhsReg instr ≠ destReg instr

section Accesses

variable (bus : Bus Mem) (encoding : SingleEncoding) (state : ARMulState Mem) (instr : ARMword)

def singleRead : ReadResult Mem :=
  bus.read (accessSize (encoding.width instr)) state.mode (encoding.address state instr) state.mem

def singleWrite : WriteResult Mem :=
  bus.write (accessSize (encoding.width instr)) state.mode (encoding.address state instr)
    (state.reg (destReg instr)) state.mem

def singleFault : FaultT :=
  if instr.getLsbD 20 then (singleRead bus encoding state instr).fault
  else (singleWrite bus encoding state instr).fault

/-- What a transfer leaves behind, the base with it when `writes` says so. -/
structure MovesSingle (writes : Bool) (after : ARMulState Mem) : Prop where
  mem : after.mem =
    if instr.getLsbD 20 then (singleRead bus encoding state instr).mem
    else (singleWrite bus encoding state instr).mem
  loaded : instr.getLsbD 20 = true → destReg instr ≠ 15#4 →
    (encoding.width instr).aligned (encoding.address state instr) = true →
      ∀ value : BitVec (encoding.width instr).bits,
        (singleRead bus encoding state instr).data = value.setWidth 32 →
          after.reg (destReg instr) = extend (encoding.signed instr) value
  base : writes = true → after.reg (lhsReg instr) = encoding.indexed state instr
  others : ∀ number, (instr.getLsbD 20 = true → number ≠ destReg instr) →
    (writes = true → number ≠ lhsReg instr) → after.reg number = state.reg number
  straight : (instr.getLsbD 20 = true → destReg instr ≠ 15#4) →
    after = { state with
      file := after.file, mem := after.mem, abortSig := false
      nextInstr := after.nextInstr, ntransSig := after.ntransSig }
  banks : after.file.regBank = state.file.regBank ∧ after.file.bank = state.file.bank ∧
    after.spsr = state.spsr

end Accesses

section Operands

theorem lhsValue_base (state : ARMulState Mem) (instr : ARMword) :
    lhsValue state instr = transferBase state instr := by
  have aligned := (wordAddress_iff (state.reg 15#4) (wordIndex (state.reg 15#4))).mpr rfl
  rw [lhsValue, transferBase, aligned]
  rfl

theorem singleOffset_encoded (state : ARMulState Mem) {instr : ARMword}
    (encoded : SingleEncoding.wordByte.Encodes instr) :
    singleOffset state instr = SingleEncoding.wordByte.offset state instr := by
  rw [singleOffset, SingleEncoding.offset]
  cases register : instr.getLsbD 25 with
  | false => rfl
  | true =>
      have operand := lsRegRHS_operand state instr (encoded.2 register)
      rw [lsRegRHS_routine] at operand
      exact Option.some.inj operand

theorem getLS7RHS_encoded (state : ARMulState Mem) (instr : ARMword) :
    getLS7RHS state instr = SingleEncoding.halfSigned.offset state instr := by
  have halves (high low : BitVec 4) :
      low.setWidth 32 ||| (high.setWidth 32 <<< 4) = (high ++ low).setWidth 32 := by
    revert high low
    decide
  rw [getLS7RHS, SingleEncoding.offset, halves]

theorem transferOf_wordByte {instr : ARMword} (encoded : SingleEncoding.wordByte.Encodes instr) :
    transferOf instr = some .single := by
  obtain ⟨form, constant⟩ := encoded
  rw [transferOf, if_pos form]
  cases register : instr.getLsbD 25 with
  | false => rfl
  | true => rw [constant register]; rfl

theorem halfKind_cases {signs : BitVec 2} (kind : signs ≠ 0#2) :
    signs = 1#2 ∨ signs = 2#2 ∨ signs = 3#2 := by
  revert signs
  decide

theorem transferOf_halfSigned {instr : ARMword}
    (encoded : SingleEncoding.halfSigned.Encodes instr) : transferOf instr = some .half := by
  obtain ⟨form, high, low, plain, kind⟩ := encoded
  have nibble : instr.extractLsb' 4 4 =
      1#1 ++ instr.extractLsb' 5 2 ++ 1#1 := by
    apply BitVec.eq_of_getLsbD_eq
    intro index bound
    rw [BitVec.getLsbD_append, BitVec.getLsbD_append]
    simp only [BitVec.getLsbD_extractLsb']
    have cases : index = 0 ∨ index = 1 ∨ index = 2 ∨ index = 3 := by
      omega
    rcases cases with rfl | rfl | rfl | rfl
    · simpa using low
    · simp
    · simp
    · simpa using high
  have register : (instr.getLsbD 22 || instr.extractLsb' 8 4 == 0#4) = true := by
    cases immediate : instr.getLsbD 22 with
    | true => rfl
    | false => rw [plain immediate]; rfl
  rw [transferOf, extract_upper, form, if_neg (by decide), if_pos rfl, nibble, register]
  cases loads : instr.getLsbD 20 with
  | false =>
      rw [loads, if_neg Bool.false_ne_true] at kind
      rw [kind]
      rfl
  | true =>
      rw [loads, if_pos rfl] at kind
      rcases halfKind_cases kind with signs | signs | signs <;> rw [signs] <;> rfl

end Operands

section Helpers

structure WritesDest (read after : ARMulState Mem) (instr value : ARMword) : Prop where
  mem : after.mem = read.mem
  others : ∀ number, number ≠ destReg instr → after.reg number = read.reg number
  plain : destReg instr ≠ 15#4 → after = read.setReg (destReg instr) value
  banks : after.file.regBank = read.file.regBank ∧ after.file.bank = read.file.bank ∧
    after.spsr = read.spsr

theorem writeDest_writes (read : ARMulState Mem) (instr value : ARMword) :
    WritesDest read (writeDest read instr value) instr value := by
  unfold writeDest
  split_ifs with branches
  · refine ⟨rfl, fun number other => ?_, fun notPc => absurd branches notPc, rfl, rfl, rfl⟩
    exact setReg_reg_of_ne (branches ▸ other)
  · exact ⟨rfl, fun number other => setReg_reg_of_ne other, fun _ => rfl, rfl, rfl, rfl⟩

theorem writeDestB_writes (read : ARMulState Mem) (instr value : ARMword) :
    WritesDest read (writeDestB read instr value) instr value := by
  unfold writeDestB
  split_ifs with branches
  · refine ⟨rfl, fun number other => ?_, fun notPc => absurd branches notPc, rfl, rfl, rfl⟩
    exact setReg_reg_of_ne (branches ▸ other)
  · exact ⟨rfl, fun number other => setReg_reg_of_ne other, fun _ => rfl, rfl, rfl, rfl⟩

variable {bus : Bus Mem} {encoding : SingleEncoding} {state : ARMulState Mem} {instr : ARMword}

theorem loadData_moves {finish : ARMulState Mem → ARMword → ARMulState Mem} {value : ARMword}
    (isV4 : state.isV4 = true) (clear : state.aborted = 0#32) (loads : instr.getLsbD 20 = true)
    (fine : (singleRead bus encoding state instr).fault = .noFault)
    (finishes : ∀ read, WritesDest read (finish read (singleRead bus encoding state instr).data)
      instr value)
    (extended : (encoding.width instr).aligned (encoding.address state instr) = true →
      ∀ data : BitVec (encoding.width instr).bits,
        (singleRead bus encoding state instr).data = data.setWidth 32 →
          value = extend (encoding.signed instr) data) :
    ∃ moved, loadData bus (accessSize (encoding.width instr)) finish state instr
        (encoding.address state instr) = (moved, destReg instr != lhsReg instr) ∧
      MovesSingle bus encoding state instr false moved := by
  have written := finishes
    { state with mem := (singleRead bus encoding state instr).mem, abortSig := false }
  refine ⟨_, ?_, ?mem, ?loaded, fun never => absurd never Bool.false_ne_true, ?others, ?straight,
    written.banks⟩
  · rw [loadData, bususedincpcs_v4 isV4, armulRead]
    dsimp only
    rw [singleRead] at fine
    rw [if_pos fine]
    exact if_pos clear
  case mem => rw [written.mem, loads, if_pos rfl]
  case loaded =>
    intro _ notPc aligned data read
    rw [written.plain notPc, setReg_reg_self]
    exact extended aligned data read
  case others =>
    intro number other _
    exact written.others number (other loads)
  case straight =>
    intro notPc
    rw [written.plain (notPc loads)]
    rfl

theorem storeData_moves (isV4 : state.isV4 = true) (clear : state.aborted = 0#32)
    (stores : instr.getLsbD 20 = false)
    (fine : (singleWrite bus encoding state instr).fault = .noFault) :
    ∃ moved, storeData bus (accessSize (encoding.width instr)) state instr
        (encoding.address state instr) = (moved, true) ∧
      moved.file = state.file ∧ moved.flags = state.flags ∧
      MovesSingle bus encoding state instr false moved := by
  refine ⟨_, storeData_fine isV4 clear fine, rfl, rfl, ?_, ?_, ?_, fun _ _ _ => rfl, fun _ => rfl,
    rfl, rfl, rfl⟩
  · rw [stores, if_neg Bool.false_ne_true]
    rfl
  · exact fun loads => absurd loads (stores ▸ Bool.false_ne_true)
  · exact fun never => absurd never Bool.false_ne_true

theorem MovesSingle.writeBase {moved : ARMulState Mem}
    (moves : MovesSingle bus encoding state instr false moved)
    (apart : instr.getLsbD 20 = true → lhsReg instr ≠ destReg instr) :
    MovesSingle bus encoding state instr true
      (moved.setReg (lhsReg instr) (encoding.indexed state instr)) := by
  refine ⟨moves.mem, ?loaded, fun _ => setReg_reg_self _ _ _, ?others, ?straight, moves.banks⟩
  case loaded =>
    intro loads notPc aligned data read
    rw [setReg_reg_of_ne (apart loads).symm]
    exact moves.loaded loads notPc aligned data read
  case others =>
    intro number other notBase
    rw [setReg_reg_of_ne (notBase rfl)]
    exact moves.others number other fun never => absurd never Bool.false_ne_true
  case straight =>
    intro notPc
    have same := moves.straight notPc
    exact congrArg (ARMulState.setReg · (lhsReg instr) (encoding.indexed state instr)) same

theorem indexedTransfer_moves {offset : ARMulState Mem → ARMword → ARMword}
    {access : ARMulState Mem → ARMword → ARMword → ARMulState Mem × Bool}
    (single : SingleInstr encoding instr)
    (offsetEq : offset state instr = encoding.offset state instr)
    (offsetKept : ∀ moved : ARMulState Mem, moved.file = state.file → moved.flags = state.flags →
      offset moved instr = offset state instr)
    (loaded : instr.getLsbD 20 = true → ∃ moved,
      access state instr (encoding.address state instr) =
          (moved, destReg instr != lhsReg instr) ∧
        MovesSingle bus encoding state instr false moved)
    (stored : instr.getLsbD 20 = false → ∃ moved,
      access state instr (encoding.address state instr) = (moved, true) ∧
        moved.file = state.file ∧ moved.flags = state.flags ∧
        MovesSingle bus encoding state instr false moved) :
    MovesSingle bus encoding state instr (writesBase instr)
      (indexedTransfer offset access state instr) := by
  have base : indexed offset state instr (lhsValue state instr) = encoding.indexed state instr := by
    rw [indexed, SingleEncoding.indexed, offsetEq, lhsValue_base]
  obtain ⟨moved, writes, accessed, moves, granted, after⟩ : ∃ moved writes,
      access state instr (encoding.address state instr) = (moved, writes) ∧
      MovesSingle bus encoding state instr false moved ∧
      (writesBase instr = true → writes = true) ∧
      (if instr.getLsbD 20 then indexed offset state instr (lhsValue state instr)
        else indexed offset moved instr (lhsValue state instr)) = encoding.indexed state instr := by
    cases loads : instr.getLsbD 20 with
    | true =>
        obtain ⟨moved, accessed, moves⟩ := loaded loads
        refine ⟨moved, _, accessed, moves, fun written => ?_, base⟩
        exact bne_iff_ne.mpr (single.apart written loads).symm
    | false =>
        obtain ⟨moved, accessed, file, flags, moves⟩ := stored loads
        refine ⟨moved, _, accessed, moves, fun _ => rfl, ?_⟩
        rw [← base]
        simp only [indexed, offsetKept moved file flags, Bool.false_eq_true, if_false]
  unfold indexedTransfer
  cases pre : instr.getLsbD 24 with
  | true =>
      have address : encoding.address state instr = encoding.indexed state instr := by
        rw [SingleEncoding.address, pre, if_pos rfl]
      rw [address] at accessed
      simp only [if_true, base, accessed]
      cases writeBit : instr.getLsbD 21 with
      | false =>
          have kept : writesBase instr = false := by
            rw [writesBase, pre, writeBit]
            rfl
          rw [kept]
          exact moves
      | true =>
          have written : writesBase instr = true := by
            rw [writesBase, writeBit, Bool.or_true]
          rw [written, granted written, Bool.and_true, if_pos rfl]
          exact moves.writeBase (single.apart written)
  | false =>
      have address : encoding.address state instr = lhsValue state instr := by
        rw [SingleEncoding.address, pre, if_neg Bool.false_ne_true, lhsValue_base]
      have written : writesBase instr = true := by
        rw [writesBase, pre]
        rfl
      rw [address] at accessed
      simp only [Bool.false_eq_true, if_false, accessed, granted written, if_true, after, written]
      exact moves.writeBase (single.apart written)

end Helpers

section Transfers

variable (bus : Bus Mem) {encoding : SingleEncoding} {state : ARMulState Mem} {instr : ARMword}

theorem narrow_extended {width : Width} (narrow : width ≠ .word) (signed : Bool) {data : ARMword}
    {value : BitVec width.bits} (read : data = value.setWidth 32) :
    signExtendFrom width.bits signed data = extend signed value := by
  rw [read]
  cases width with
  | byte => exact signExtendFrom_eq value (by decide) (by decide) signed
  | half => exact signExtendFrom_eq value (by decide) (by decide) signed
  | word => exact absurd rfl narrow

section Loads

variable (isV4 : state.isV4 = true) (clear : state.aborted = 0#32)
  (loads : instr.getLsbD 20 = true)
  (fine : (singleRead bus encoding state instr).fault = .noFault)

include isV4 clear loads fine

theorem loadNarrow_moves {width : Width} (narrow : width ≠ .word)
    (named : encoding.width instr = width) :
    ∃ moved, loadData bus (accessSize width)
        (fun read dest =>
          writeDest read instr (signExtendFrom width.bits (encoding.signed instr) dest))
        state instr (encoding.address state instr) = (moved, destReg instr != lhsReg instr) ∧
      MovesSingle bus encoding state instr false moved := by
  subst named
  exact loadData_moves isV4 clear loads fine (fun read => writeDest_writes read instr _)
    fun _ _ read => narrow_extended narrow _ read

theorem loadWord_moves (named : encoding.width instr = .word)
    (unsigned : encoding.signed instr = false) :
    ∃ moved, loadWord bus state instr (encoding.address state instr) =
        (moved, destReg instr != lhsReg instr) ∧
      MovesSingle bus encoding state instr false moved := by
  let finish (read : ARMulState Mem) (dest : ARMword) : ARMulState Mem :=
    writeDestB read instr
      (if encoding.address state instr &&& 3#32 = 0#32 then dest
        else armulAlign (encoding.address state instr) dest)
  have finishes (read : ARMulState Mem) :
      WritesDest read (finish read (singleRead bus encoding state instr).data) instr _ :=
    writeDestB_writes read instr _
  have moves := loadData_moves isV4 clear loads fine finishes
  rw [named] at moves
  apply moves
  intro aligned data read
  rw [if_pos (and_three_of_aligned aligned), read, unsigned]
  rfl

end Loads

section Whole

variable (isV4 : state.isV4 = true) (clear : state.aborted = 0#32)

include isV4 clear

theorem wordByte_moves (single : SingleInstr .wordByte instr)
    (fine : singleFault bus .wordByte state instr = .noFault) :
    MovesSingle bus .wordByte state instr (writesBase instr)
      (indexedTransfer singleOffset (singleAccess bus) state instr) := by
  refine indexedTransfer_moves single (singleOffset_encoded state single.encoded)
    (fun moved file flags => singleOffset_congr file flags) ?loaded ?stored
  case loaded =>
    intro loads
    rw [singleFault, loads, if_pos rfl] at fine
    rw [singleAccess, loads]
    cases byte : instr.getLsbD 22 with
    | true =>
        have named : SingleEncoding.wordByte.width instr = .byte := by
          rw [SingleEncoding.width, byte, if_pos rfl]
        exact loadNarrow_moves bus isV4 clear loads fine (by decide) named
    | false =>
        have named : SingleEncoding.wordByte.width instr = .word := by
          rw [SingleEncoding.width, byte, if_neg Bool.false_ne_true]
        exact loadWord_moves bus isV4 clear loads fine named rfl
  case stored =>
    intro stores
    rw [singleFault, stores, if_neg Bool.false_ne_true] at fine
    have moves := storeData_moves isV4 clear stores fine
    rw [singleAccess, stores]
    cases byte : instr.getLsbD 22 with
    | true =>
        rw [SingleEncoding.width, byte, if_pos rfl] at moves
        exact moves
    | false =>
        rw [SingleEncoding.width, byte, if_neg Bool.false_ne_true] at moves
        exact moves

theorem halfSigned_moves (single : SingleInstr .halfSigned instr)
    (fine : singleFault bus .halfSigned state instr = .noFault) :
    MovesSingle bus .halfSigned state instr (writesBase instr) (halfTransfer bus state instr) := by
  have kind := single.encoded.2.2.2.2
  have bits (signs : BitVec 2) (named : instr.extractLsb' 5 2 = signs) :
      instr.getLsbD 5 = signs.getLsbD 0 ∧ instr.getLsbD 6 = signs.getLsbD 1 := by
    rw [← named]
    simp
  refine indexedTransfer_moves single (getLS7RHS_encoded state instr)
    (fun moved file _ => getLS7RHS_congr file) ?loaded ?stored
  case loaded =>
    intro loads
    rw [singleFault, loads, if_pos rfl] at fine
    rw [loads, if_pos rfl] at kind
    have narrow (width : Width) (narrow : width ≠ .word)
        (named : SingleEncoding.halfSigned.width instr = width) :=
      loadNarrow_moves bus isV4 clear loads fine narrow named
    simp only [SingleEncoding.width, SingleEncoding.signed] at narrow
    rw [halfAccess, loads, if_pos rfl]
    rcases halfKind_cases kind with signs | signs | signs
    · obtain ⟨half, signed⟩ := bits _ signs
      rw [half, signed] at narrow ⊢
      exact narrow .half (by decide) rfl
    · obtain ⟨half, signed⟩ := bits _ signs
      rw [half, signed] at narrow ⊢
      exact narrow .byte (by decide) rfl
    · obtain ⟨half, signed⟩ := bits _ signs
      rw [half, signed] at narrow ⊢
      exact narrow .half (by decide) rfl
  case stored =>
    intro stores
    rw [singleFault, stores, if_neg Bool.false_ne_true] at fine
    rw [stores, if_neg Bool.false_ne_true] at kind
    have moves := storeData_moves isV4 clear stores fine
    rw [SingleEncoding.width, (bits _ kind).1] at moves
    rw [halfAccess, stores, if_neg Bool.false_ne_true]
    exact moves

theorem singleTransfer_moves (single : SingleInstr .wordByte instr)
    (fine : singleFault bus .wordByte state instr = .noFault) :
    MovesSingle bus .wordByte state instr (writesBase instr) (singleTransfer bus state instr) := by
  unfold singleTransfer
  split
  · -- The user form differs in the signal around the access.
    have moves := @wordByte_moves _ bus { state with ntransSig := false } instr isV4 clear
      single fine
    generalize indexedTransfer singleOffset (singleAccess bus) { state with ntransSig := false }
      instr = moved at moves
    refine ⟨moves.mem, moves.loaded, moves.base, moves.others, ?_, moves.banks⟩
    intro notPc
    have same := moves.straight notPc
    exact congrArg (fun result : ARMulState Mem =>
      { result with ntransSig := moved.mode &&& 3#5 != 0#5 }) same
  · exact wordByte_moves bus isV4 clear single fine

end Whole

/-- A single load or store makes one access, at the base plus or minus the offset or at the base
itself, writes the base when post indexed or asked to, and keeps the other registers. -/
theorem single_transfers_exact (traps : Traps Mem) (cops : Coprocessors Mem) (pc : ARMword)
    (single : SingleInstr encoding instr) (ready : BlockReady state instr)
    (fine : singleFault bus encoding state instr = .noFault) :
    MovesSingle bus encoding state instr (writesBase instr)
      (executeArm bus traps cops state pc instr) := by
  rw [executeArm, if_neg ready.conditional, if_pos ready.passes]
  cases encoding with
  | wordByte =>
      simp only [mainSwitch, transferOf_wordByte single.encoded, dataTransfer]
      exact singleTransfer_moves bus ready.isV4 ready.clear single fine
  | halfSigned =>
      simp only [mainSwitch, transferOf_halfSigned single.encoded, dataTransfer]
      exact halfSigned_moves bus ready.isV4 ready.clear single fine

/-- `ldr r2, [r1, r2, lsl #2]!` reads the address given by the old value of r2. -/
theorem single_transfers_exact_load :
    let state := ((coreAt svc32mode false 0x8000#32
      (flatMemory fun address => address ^^^ 0xff#32)).setReg 1#4 0x2000#32).setReg 2#4 4#32
    let after := executeArm flatBus plainTraps silentCoprocessors state 0x8000#32 0xe7b12102#32
    after.reg 1#4 = 0x2010#32 ∧ after.reg 2#4 = 0x20ef#32 ∧ after.reg 3#4 = state.reg 3#4 := by
  intro state
  have single : SingleInstr .wordByte 0xe7b12102#32 := by
    refine ⟨⟨?_, ?_⟩, ?_⟩ <;> decide
  have ready : BlockReady state 0xe7b12102#32 := by
    constructor <;> decide
  have moves := single_transfers_exact flatBus plainTraps silentCoprocessors 0x8000#32 single ready
    (by decide)
  dsimp only
  generalize executeArm flatBus plainTraps silentCoprocessors state 0x8000#32 0xe7b12102#32 = after
    at moves ⊢
  have loaded := moves.loaded (by decide) (by decide) (by decide) 0x20ef#32 (by decide)
  exact ⟨(moves.base (by decide)).trans (by decide), loaded,
    moves.others 3#4 (by decide) (by decide)⟩

end Transfers

end SkyeyeStarlet
