import SkyeyeStarlet.Exceptions
import SkyeyeStarlet.LoadsCore
import SkyeyeStarlet.Outcomes
import SkyeyeStarlet.RamCopies
import SkyeyeStarlet.Sram

/-!
How wide the result of a byte or halfword load is.  RAM, SRAM and the NAND controller answer
with as many bits as are asked for.  The other registers of the machine answer with a whole
word that no layer cuts, so such a load is narrow exactly when the word is.
-/

namespace SkyeyeStarlet

section Width

def NarrowLoad.extension (load : NarrowLoad) (word : ARMword) : ARMword :=
  let low := word.setWidth (sizeBits load.size)
  if load.signed then low.signExtend 32 else low.setWidth 32

def NarrowLoad.Fits (load : NarrowLoad) (word : ARMword) : Prop :=
  word.toNat < 2 ^ sizeBits load.size ∨
    (load.signed = true ∧ word.getLsbD (sizeBits load.size - 1) = true)

def NarrowLoad.result (load : NarrowLoad) (word : ARMword) : ARMword :=
  signExtendFrom (sizeBits load.size) load.signed word

theorem setWidth_eq_self_iff {bits : Nat} (bound : bits ≤ 32) (word : ARMword) :
    word = (word.setWidth bits).setWidth 32 ↔ word.toNat < 2 ^ bits := by
  have power : 2 ^ bits ≤ 2 ^ 32 := Nat.pow_le_pow_right (by decide) bound
  have positive : 0 < 2 ^ bits := Nat.two_pow_pos bits
  have low := Nat.mod_lt word.toNat positive
  rw [← BitVec.toNat_inj, BitVec.toNat_setWidth, BitVec.toNat_setWidth,
    Nat.mod_eq_of_lt (show word.toNat % 2 ^ bits < 2 ^ 32 by omega)]
  constructor
  · intro same
    omega
  · intro small
    rw [Nat.mod_eq_of_lt small]

theorem result_iff (load : NarrowLoad) (word : ARMword) :
    load.result word = load.extension word ↔ load.Fits word := by
  have bounds : 0 < sizeBits load.size ∧ sizeBits load.size < 32 := by
    cases load <;> decide
  rw [NarrowLoad.result, NarrowLoad.extension, NarrowLoad.Fits, signExtendFrom]
  cases load.signed with
  | false =>
      simp only [Bool.false_and, Bool.false_eq_true, if_false, false_and, or_false]
      exact setWidth_eq_self_iff (by omega) word
  | true =>
      cases sign : word.getLsbD (sizeBits load.size - 1) with
      | true =>
          simp only [Bool.and_true, if_true, and_true, or_true, iff_true]
          exact WordBits.sub_eq_signExtend bounds.1 bounds.2 sign
      | false =>
          have top : (word.setWidth (sizeBits load.size)).msb = false := by
            rw [BitVec.msb_eq_getLsbD_last, BitVec.getLsbD_setWidth, sign, Bool.and_false]
          simp only [Bool.and_false, Bool.false_eq_true, if_false, if_true, and_false, or_false]
          rw [BitVec.signExtend_eq_setWidth_of_msb_false top]
          exact setWidth_eq_self_iff (by omega) word

end Width

section Answers

variable {Hash : Type} (board : ReadBoard) (machine : Machine (PlainIo Roms Hash))

def wholeRegister (size : AccessSize) (addr : ARMword) : Option ARMword :=
  match size with
  | .byte =>
      if (nandflashStarletReadWord machine board.ready addr).isSome ∨ isSram addr = true then none
      else starletIoReadWord board.otp board.inserted machine addr
  | .halfword =>
      if addr >>> 16 = 0x0d8b#32 then some (starletAhbReadHalfword machine addr)
      else if isSram addr then none
      else starletIoReadWord board.otp board.inserted machine addr
  | .word => none

def wholeRead : Nat → AccessSize → ARMword → Option ARMword
  | 0, _, _ => none
  | hops + 1, size, addr =>
      match board.banks.findIdx? fun bank => decide (bank.range.Covers addr) with
      | none => none
      | some index =>
          let bank := board.banks.getD index ⟨⟨0#32, 0#32⟩, .ram⟩
          match bank.kind with
          | .ram => none
          | .io => wholeRegister board machine size addr
          | .aliasOf dest => wholeRead hops size (addr - bank.range.addr + dest)

variable {board machine} {load : NarrowLoad} {addr word : ARMword}

theorem field32_lt (data : ARMword) (offset : Nat) {width : Nat} (bound : width < 32) :
    (field32 data offset width).toNat < 2 ^ width := by
  have power : 2 ^ width < 2 ^ 32 := Nat.pow_lt_pow_right (by decide) bound
  have some : 0 < 2 ^ width := Nat.two_pow_pos width
  rw [field32, BitVec.toNat_and]
  refine Nat.lt_of_le_of_lt Nat.and_le_right ?_
  rw [BitVec.toNat_ofNat, Nat.mod_eq_of_lt (by omega)]
  omega

theorem realRead_lt (bigend : Bool) (rom : Ram) (base : ARMword) (load : NarrowLoad)
    (addr : ARMword) :
    (realRead bigend rom base load.size addr).toNat < 2 ^ sizeBits load.size := by
  cases load with
  | ldrb => exact field32_lt _ _ (by decide)
  | ldrsb => exact field32_lt _ _ (by decide)
  | ldrh => exact field32_lt _ _ (by decide)
  | ldrsh => exact field32_lt _ _ (by decide)

theorem wideValue_lt (load : NarrowLoad) (buf : Nat → BitVec 8) (index : Nat) :
    (wideValue load.size buf index).toNat < 2 ^ sizeBits load.size := by
  have byte : (wideValue .byte buf index).toNat < 2 ^ 8 := by
    rw [wideValue, BitVec.toNat_setWidth]
    exact Nat.lt_of_le_of_lt (Nat.mod_le _ _) (buf index).isLt
  have halfword : (wideValue .halfword buf index).toNat < 2 ^ 16 := by
    rw [wideValue, BitVec.toNat_setWidth]
    exact Nat.lt_of_le_of_lt (Nat.mod_le _ _) (buf index ++ buf (index + 1)).isLt
  cases load with
  | ldrb => exact byte
  | ldrsb => exact byte
  | ldrh => exact halfword
  | ldrsh => exact halfword

theorem sramValue_lt (io : PlainIo Roms Hash) (load : NarrowLoad) (addr : ARMword)
    (read : sramValue load.size io addr = some word) : word.toNat < 2 ^ sizeBits load.size := by
  rw [sramValue, starletSramRead, Option.map_map] at read
  obtain ⟨⟨array, offset⟩, -, rfl⟩ := Option.map_eq_some_iff.mp read
  exact wideValue_lt load _ offset

theorem starletIoReadWord_some (sram : isSram addr = false) :
    ∃ whole, starletIoReadWord board.otp board.inserted machine addr = some whole := by
  have notSram : ¬(addr >>> 20 = 0x0d4#32 ∨ addr >>> 20 = 0x0dc#32 ∨ addr >>> 20 = 0xfff#32) := by
    intro window
    rw [isSram_iff.mpr window] at sram
    exact Bool.false_ne_true sram.symm
  have other : starletIoDevice addr ≠ .sram := by
    rw [starletIoDevice, if_neg notSram]
    split_ifs <;> exact fun same => IoDevice.noConfusion same
  refine Option.isSome_iff_exists.mp ?_
  unfold starletIoReadWord
  split <;> first | rfl | exact absurd ‹_› other

/-- A read is answered by a whole register, or by as many bits as it asks for. -/
inductive Answered (load : NarrowLoad) (whole answer : Option ARMword) : Prop where
  | register (word : ARMword) (found : whole = some word) (same : answer = some word)
  | narrow (none : whole = none)
      (small : ∀ word, answer = some word → word.toNat < 2 ^ sizeBits load.size)

theorem byte_answered (narrow : load.size = .byte) (addr : ARMword) :
    Answered load (wholeRegister board machine .byte addr) (ioRead board machine .byte addr) := by
  rw [wholeRegister, ioRead]
  cases nand : nandflashStarletReadWord machine board.ready addr with
  | some data =>
      refine .narrow (if_pos (Or.inl rfl)) fun word answer => ?_
      obtain rfl := Option.some.inj answer
      rw [narrow, BitVec.toNat_and]
      exact Nat.lt_of_le_of_lt Nat.and_le_right (by decide)
  | none =>
      simp only [starletIoReadByte]
      cases sram : isSram addr with
      | true =>
          refine .narrow (if_pos (Or.inr rfl)) fun word answer => ?_
          rw [if_pos rfl, ← narrow] at answer
          exact sramValue_lt machine.rest.other load addr answer
      | false =>
          obtain ⟨whole, read⟩ := @starletIoReadWord_some _ board machine addr sram
          refine .register whole ?_ ?_
          · rw [if_neg (by simp), read]
          · rw [if_neg Bool.false_ne_true, read]

theorem halfword_answered (narrow : load.size = .halfword) (addr : ARMword) :
    Answered load (wholeRegister board machine .halfword addr)
      (ioRead board machine .halfword addr) := by
  rw [wholeRegister, ioRead, starletIoReadHalfword]
  by_cases ahb : addr >>> 16 = 0x0d8b#32
  · exact .register _ (if_pos ahb) (if_pos ahb)
  · rw [if_neg ahb, if_neg ahb]
    cases sram : isSram addr with
    | true =>
        refine .narrow (if_pos rfl) fun word answer => ?_
        rw [if_pos rfl, ← narrow] at answer
        exact sramValue_lt machine.rest.other load addr answer
    | false =>
        obtain ⟨whole, read⟩ := @starletIoReadWord_some _ board machine addr sram
        exact .register whole (by rw [if_neg Bool.false_ne_true, read])
          (by rw [if_neg Bool.false_ne_true, read])

theorem ioRead_answered (load : NarrowLoad) (addr : ARMword) :
    Answered load (wholeRegister board machine load.size addr)
      (ioRead board machine load.size addr) := by
  cases load with
  | ldrb => exact byte_answered rfl addr
  | ldrsb => exact byte_answered rfl addr
  | ldrh => exact halfword_answered rfl addr
  | ldrsh => exact halfword_answered rfl addr

theorem memRead_answered (load : NarrowLoad) (hops : Nat) (addr : ARMword) :
    Answered load (wholeRead board machine hops load.size addr)
      (memRead board machine hops load.size addr) := by
  induction hops generalizing addr with
  | zero => exact .narrow rfl fun word answer => absurd answer (by simp [memRead])
  | succ hops ih =>
      rw [wholeRead, memRead]
      cases board.banks.findIdx? fun bank => decide (bank.range.Covers addr) with
      | none =>
          refine .narrow rfl fun word answer => ?_
          obtain rfl := Option.some.inj answer
          exact Nat.two_pow_pos _
      | some index =>
          dsimp only
          cases (board.banks.getD index ⟨⟨0#32, 0#32⟩, .ram⟩).kind with
          | ram =>
              refine .narrow rfl fun word answer => ?_
              obtain rfl := Option.some.inj answer
              exact realRead_lt _ _ _ load addr
          | io => exact ioRead_answered load addr
          | aliasOf dest => exact ih _

theorem answer_fits_iff {whole answer : Option ARMword} (answered : Answered load whole answer) :
    load.Fits (answer.getD 0#32) ↔ ∀ word, whole = some word → load.Fits word := by
  cases answered with
  | register word found same =>
      rw [same, found, Option.getD_some]
      constructor
      · intro fits other equal
        rwa [← Option.some.inj equal]
      · intro fits
        exact fits word rfl
  | narrow none small =>
      have narrow : load.Fits (answer.getD 0#32) := by
        cases value : answer with
        | none => exact Or.inl (Nat.two_pow_pos _)
        | some word => exact Or.inl (small word value)
      refine iff_of_true narrow fun word found => ?_
      rw [none] at found
      exact absurd found (Option.some_ne_none word).symm

end Answers

section Loads

variable {Hash : Type} {board : ReadBoard} {hops : Nat} {rest : Bus (BoardMemory Hash)}
  {load : NarrowLoad} {state : ARMulState (BoardMemory Hash)} {instr : ARMword}

/-- The register that a load finds is narrow, or the load finds none.  Where the unit writes no
data, it is about what the caller's variable holds. -/
def SourceFits (board : ReadBoard) (hops : Nat) (load : NarrowLoad) (mode : ModeNum)
    (address : ARMword) (mem : BoardMemory Hash) : Prop :=
  match (dataRoute board hops load.size mode address mem).2 with
  | .fault _ | .unwritten => load.Fits board.stale
  | .memory pa =>
      ∀ word, wholeRead board mem.machine hops load.size pa = some word → load.Fits word

/-- A load that the unit does not refuse. -/
def LoadsWell (board : ReadBoard) (hops : Nat) (load : NarrowLoad) (mode : ModeNum)
    (address : ARMword) (mem : BoardMemory Hash) : Prop :=
  (boardRead board hops load.size mode address mem).fault = .noFault

theorem source_fits_iff (mode : ModeNum) (address : ARMword) (mem : BoardMemory Hash) :
    load.Fits (boardRead board hops load.size mode address mem).data ↔
      SourceFits board hops load mode address mem := by
  rw [boardRead, SourceFits]
  cases dataRoute board hops load.size mode address mem with
  | mk after route =>
      cases route with
      | fault fault => exact Iff.rfl
      | unwritten => exact Iff.rfl
      | memory pa => exact answer_fits_iff (memRead_answered load hops pa)

/-- The state that a load helper finds after its read, and the word read. -/
def afterRead (bus : Bus (BoardMemory Hash)) (load : NarrowLoad)
    (state : ARMulState (BoardMemory Hash)) (address : ARMword) :
    ARMulState (BoardMemory Hash) × ARMword :=
  armulRead bus load.size (bususedincpcs state) address

theorem bususedincpcs_bank (state : ARMulState (BoardMemory Hash)) :
    (bususedincpcs state).mode = state.mode ∧ (bususedincpcs state).mem = state.mem ∧
      (bususedincpcs state).aborted = state.aborted := by
  unfold bususedincpcs
  split_ifs
  · exact ⟨rfl, rfl, rfl⟩
  · exact ⟨rfl, rfl, rfl⟩

theorem afterRead_fine {address : ARMword}
    (fine : LoadsWell board hops load state.mode address state.mem) :
    (afterRead (boardBus board hops rest) load state address).1.aborted = state.aborted ∧
      (afterRead (boardBus board hops rest) load state address).2 =
        (boardRead board hops load.size state.mode address state.mem).data := by
  obtain ⟨mode, mem, aborted⟩ := bususedincpcs_bank state
  rw [LoadsWell] at fine
  rw [afterRead, armulRead, mode, mem]
  simp only [boardBus, fine, if_true]
  exact ⟨aborted, trivial⟩

theorem helper_writes {address : ARMword} (clean : state.aborted = 0#32)
    (fine : LoadsWell board hops load state.mode address state.mem) :
    load.helper (boardBus board hops rest) state instr address =
      (writeDest (afterRead (boardBus board hops rest) load state address).1 instr
        (load.result (boardRead board hops load.size state.mode address state.mem).data),
        destReg instr != lhsReg instr) := by
  obtain ⟨aborted, data⟩ := @afterRead_fine _ board hops rest load state address fine
  have loaded (finish : ARMulState (BoardMemory Hash) → ARMword → ARMulState (BoardMemory Hash)) :
      loadData (boardBus board hops rest) load.size finish state instr address =
        (finish (afterRead (boardBus board hops rest) load state address).1
          (boardRead board hops load.size state.mode address state.mem).data,
          destReg instr != lhsReg instr) := by
    rw [loadData, ← data]
    exact if_pos (aborted.trans clean)
  cases load with
  | ldrb => exact loaded fun read dest => writeDest read instr (signExtendFrom 8 false dest)
  | ldrh => exact loaded fun read dest => writeDest read instr (signExtendFrom 16 false dest)
  | ldrsb => exact loaded fun read dest => writeDest read instr (signExtendFrom 8 true dest)
  | ldrsh => exact loaded fun read dest => writeDest read instr (signExtendFrom 16 true dest)

theorem writeDest_reg {Mem : Type} (state : ARMulState Mem) {instr : ARMword} (value : ARMword)
    (notPc : destReg instr ≠ 15#4) : (writeDest state instr value).reg (destReg instr) = value := by
  rw [writeDest, if_neg notPc]
  exact setReg_reg_self state (destReg instr) value

theorem indexedTransfer_keeps {Mem : Type} {offset : ARMulState Mem → ARMword → ARMword}
    {access : ARMulState Mem → ARMword → ARMword → ARMulState Mem × Bool} {state : ARMulState Mem}
    {instr : ARMword} {moved : ARMulState Mem} {shown : ARMulState Mem → Prop} (here : shown moved)
    (kept : ∀ number value, number ≠ destReg instr → shown (moved.setReg number value))
    (loads : access state instr
        (if instr.getLsbD 24 then indexed offset state instr (lhsValue state instr)
          else lhsValue state instr) =
      (moved, destReg instr != lhsReg instr)) :
    shown (indexedTransfer offset access state instr) := by
  have base (after : ARMword) (moves : (destReg instr != lhsReg instr) = true) :
      shown (moved.setReg (lhsReg instr) after) :=
    kept _ _ (bne_iff_ne.mp moves).symm
  unfold indexedTransfer
  cases pre : instr.getLsbD 24 with
  | true =>
      rw [pre, if_pos rfl] at loads
      simp only [loads, if_true]
      split_ifs with moves
      · exact base _ (Bool.and_eq_true_iff.mp moves).2
      · exact here
  | false =>
      rw [pre, if_neg Bool.false_ne_true] at loads
      simp only [loads, Bool.false_eq_true, if_false]
      split_ifs with moves
      · exact base _ moves
      · exact base _ moves
      · exact here

theorem indexedTransfer_reg {Mem : Type} {offset : ARMulState Mem → ARMword → ARMword}
    {access : ARMulState Mem → ARMword → ARMword → ARMulState Mem × Bool} {state : ARMulState Mem}
    {instr : ARMword} {read : ARMulState Mem} {value : ARMword} (notPc : destReg instr ≠ 15#4)
    (loads : access state instr
        (if instr.getLsbD 24 then indexed offset state instr (lhsValue state instr)
          else lhsValue state instr) =
      (writeDest read instr value, destReg instr != lhsReg instr)) :
    (indexedTransfer offset access state instr).reg (destReg instr) = value := by
  have written := writeDest_reg read value notPc
  have kept (number : RegNum) (other : ARMword) (apart : number ≠ destReg instr) :
      ((writeDest read instr value).setReg number other).reg (destReg instr) = value := by
    rw [setReg_reg_of_ne apart.symm, written]
  have keeps := @indexedTransfer_keeps _ offset access state instr (writeDest read instr value)
    fun after => after.reg (destReg instr) = value
  exact keeps written kept loads

theorem execute_reg (encodes : load.Encodes instr) (notPc : destReg instr ≠ 15#4)
    (clean : state.aborted = 0#32)
    (fine : LoadsWell board hops load state.mode (load.address state instr) state.mem) :
    (load.execute (boardBus board hops rest) state instr).reg (destReg instr) =
      load.result
        (boardRead board hops load.size state.mode (load.address state instr) state.mem).data := by
  obtain ⟨loads, selected⟩ := encodes
  have half (isHalf : load ≠ .ldrb) (access : ∀ address,
      halfAccess (boardBus board hops rest) state instr address =
        load.helper (boardBus board hops rest) state instr address) :
      (halfTransfer (boardBus board hops rest) state instr).reg (destReg instr) =
        load.result (boardRead board hops load.size state.mode
          (load.address state instr) state.mem).data := by
    have offset :
        (load.offset : ARMulState (BoardMemory Hash) → ARMword → ARMword) = getLS7RHS := by
      cases load with
      | ldrb => exact absurd rfl isHalf
      | _ => rfl
    rw [NarrowLoad.address, offset] at fine ⊢
    exact indexedTransfer_reg notPc ((access _).trans (helper_writes clean fine))
  cases load with
  | ldrb =>
      have access (user : ARMulState (BoardMemory Hash)) (address : ARMword) :
          singleAccess (boardBus board hops rest) user instr address =
            NarrowLoad.ldrb.helper (boardBus board hops rest) user instr address := by
        rw [singleAccess, loads, selected]
        rfl
      show (singleTransfer (boardBus board hops rest) state instr).reg (destReg instr) = _
      unfold singleTransfer
      split
      · exact indexedTransfer_reg notPc ((access _ _).trans (helper_writes clean fine))
      · exact indexedTransfer_reg notPc ((access _ _).trans (helper_writes clean fine))
  | ldrh =>
      refine half (by decide) fun address => ?_
      rw [halfAccess, loads, selected.1, selected.2]
      rfl
  | ldrsb =>
      refine half (by decide) fun address => ?_
      rw [halfAccess, loads, selected.1, selected.2]
      rfl
  | ldrsh =>
      refine half (by decide) fun address => ?_
      rw [halfAccess, loads, selected.1, selected.2]
      rfl

/-- A load that does not fault writes the extension of its low bits exactly when the register it
finds, if it finds one that answers with a word, is that narrow. -/
theorem narrow_load_iff (board : ReadBoard) (hops : Nat) (rest : Bus (BoardMemory Hash))
    (load : NarrowLoad) (state : ARMulState (BoardMemory Hash)) (instr : ARMword)
    (encodes : load.Encodes instr) (clean : state.aborted = 0#32)
    (fine : LoadsWell board hops load state.mode (load.address state instr) state.mem) :
    let bus := boardBus board hops rest
    let address := load.address state instr
    let word := (boardRead board hops load.size state.mode address state.mem).data
    ∃ value,
      load.helper bus state instr address =
          (writeDest (afterRead bus load state address).1 instr value,
            destReg instr != lhsReg instr) ∧
        (destReg instr ≠ 15#4 → (load.execute bus state instr).reg (destReg instr) = value) ∧
        (value = load.extension word ↔
          SourceFits board hops load state.mode address state.mem) := by
  intro bus address word
  refine ⟨load.result word, helper_writes clean fine,
    fun notPc => execute_reg encodes notPc clean fine, ?_⟩
  rw [result_iff]
  exact source_fits_iff state.mode address state.mem

end Loads

section Inputs

/-- A bank of RAM and the bank of the registers, as in `skyeye.conf`. -/
def twoBankBoard : ReadBoard :=
  { bigend := true
    isXScale := false
    banks := [⟨⟨0x00000000#32, 0x01800000#32⟩, .ram⟩, ⟨⟨0x0d800000#32, 0x00100000#32⟩, .io⟩]
    otp := fun _ => 0#32
    inserted := false
    ready := 1#32
    stale := 0#32 }

def timerMemory : BoardMemory Unit :=
  { mmu := arm926ejsMmuInit
    machine := { plainMachine (fun _ _ => 0xffffffff#32) () with timer := 0x12345678#32 } }

def silentBus : Bus (BoardMemory Unit) :=
  { read := fun _ _ _ mem => { mem, fault := .noFault, data := 0#32 }
    write := fun _ _ _ _ mem => { mem, fault := .noFault }
    fetch := fun _ _ mem => { mem, fault := .noFault, data := 0#32 }
    recordFault := fun _ _ mem => mem
    highVectors := fun _ => false }

/-- `ldrb r0, [r1]` with an address in the base register. -/
def byteLoadAt (address : ARMword) : ARMulState (BoardMemory Unit) :=
  (coreAt svc32mode false 0x100#32 timerMemory).setReg 1#4 address

/-- A byte load of the timer fills the register with the whole word. -/
theorem timer_byte_wide :
    NarrowLoad.ldrb.Encodes 0xe5d10000#32 ∧
      LoadsWell twoBankBoard 2 .ldrb svc32mode 0x0d800010#32 timerMemory ∧
      ¬((NarrowLoad.ldrb.execute (boardBus twoBankBoard 2 silentBus) (byteLoadAt 0x0d800010#32)
        0xe5d10000#32).reg 0#4).toNat < 2 ^ 8 := by
  have loaded : (NarrowLoad.ldrb.execute (boardBus twoBankBoard 2 silentBus)
      (byteLoadAt 0x0d800010#32) 0xe5d10000#32).reg 0#4 = 0x12345678#32 := by
    rfl
  rw [loaded]
  exact ⟨⟨by decide, by decide⟩, by rfl, by decide⟩

/-- A byte load from RAM. -/
theorem narrow_load_ram :
    ∃ value, (NarrowLoad.ldrb.execute (boardBus twoBankBoard 2 silentBus) (byteLoadAt 0x44#32)
        0xe5d10000#32).reg 0#4 = value ∧
      value = NarrowLoad.ldrb.extension
        (boardRead twoBankBoard 2 .byte svc32mode 0x44#32 timerMemory).data := by
  obtain ⟨value, -, loaded, narrow⟩ := narrow_load_iff twoBankBoard 2 silentBus .ldrb
    (byteLoadAt 0x44#32) 0xe5d10000#32 ⟨by decide, by decide⟩ rfl (by rfl)
  refine ⟨value, loaded (by decide), narrow.mpr ?_⟩
  have missing : wholeRead twoBankBoard timerMemory.machine 2 .byte 0x44#32 = none := by
    rfl
  intro word found
  exact absurd (missing.symm.trans found) (Option.some_ne_none word).symm

end Inputs

end SkyeyeStarlet
