import SkyeyeStarlet.Library.RangeUpdate
import SkyeyeStarlet.MmuCore
import SkyeyeStarlet.ThumbBlocks

/-!
`LDM` and `STM` without the S bit, for every list and addressing mode: the words that they move,
the base that they leave, and the way back.
-/

namespace SkyeyeStarlet

open RangeUpdate ThumbIsa

variable {Mem : Type}

theorem wordIndex_add (address : ARMword) (count : Nat) :
    wordIndex (address + BitVec.ofNat 32 (4 * count)) =
      wordIndex address + BitVec.ofNat 30 count := by
  apply BitVec.eq_of_toNat_eq
  have bound := address.isLt
  simp only [wordIndex, BitVec.extractLsb'_toNat, BitVec.toNat_add, BitVec.toNat_ofNat,
    Nat.shiftRight_eq_div_pow]
  omega

/-- Where the bus leads to memory: the words that its accesses see, those that are memory, and
what holds of the memory between two accesses. -/
structure WordMemory (bus : Bus Mem) where
  view : Mem → BitVec 30 → ARMword
  valid : Mem → Prop
  covers : BitVec 30 → Prop
  read : ∀ {mode address mem}, valid mem → covers (wordIndex address) →
    let result := bus.read .word mode address mem
    result.fault = .noFault →
      result.data = view mem (wordIndex address) ∧ view result.mem = view mem ∧ valid result.mem
  write : ∀ {mode address data mem}, valid mem → covers (wordIndex address) →
    let result := bus.write .word mode address data mem
    result.fault = .noFault →
      view result.mem = Function.update (view mem) (wordIndex address) data ∧ valid result.mem

section Words

variable {bus : Bus Mem} {mode : ModeNum} (memory : WordMemory bus)

def WordMemory.CoversBlock (address : ARMword) (count : Nat) : Prop :=
  ∀ index < count, memory.covers (wordIndex address + BitVec.ofNat 30 index)

theorem wordIndex_next (address : ARMword) (count : Nat) :
    wordIndex (address + 4#32) + BitVec.ofNat 30 count =
      wordIndex address + BitVec.ofNat 30 (count + 1) := by
  have step := wordIndex_add address 1
  rw [show BitVec.ofNat 32 (4 * 1) = 4#32 from rfl] at step
  rw [step, BitVec.add_assoc, Nat.add_comm count, BitVec.ofNat_add]

theorem WordMemory.coversBlock_succ {memory : WordMemory bus} {address : ARMword}
    {count : Nat} (covered : memory.CoversBlock address (count + 1)) :
    memory.covers (wordIndex address) ∧ memory.CoversBlock (address + 4#32) count := by
  refine ⟨?_, ?_⟩
  · have first := covered 0 (Nat.zero_lt_succ count)
    rwa [BitVec.add_zero] at first
  · intro index below
    rw [wordIndex_next]
    exact covered (index + 1) (Nat.succ_lt_succ below)

theorem WordMemory.readBlock {count : Nat} {address : ARMword} {mem : Mem}
    (valid : memory.valid mem) (covered : memory.CoversBlock address count)
    (fine : (readBlock bus mode count address mem).failed = false) :
    let read := SkyeyeStarlet.readBlock bus mode count address mem
    read.words = (List.range count).map (fun index =>
        memory.view mem (wordIndex address + BitVec.ofNat 30 index)) ∧
      memory.view read.mem = memory.view mem ∧ memory.valid read.mem := by
  induction count generalizing address mem with
  | zero => exact ⟨rfl, rfl, valid⟩
  | succ count ih =>
      obtain ⟨first, rest⟩ := memory.coversBlock_succ covered
      by_cases ok : (bus.read .word mode address mem).fault = .noFault
      · obtain ⟨data, same, still⟩ := memory.read valid first ok
        rw [SkyeyeStarlet.readBlock, if_pos ok] at fine ⊢
        obtain ⟨words, later, kept⟩ := ih still rest fine
        refine ⟨?_, later.trans same, kept⟩
        dsimp only
        rw [words, data, same, List.range_succ_eq_map, List.map_cons, List.map_map, BitVec.add_zero]
        congr 2
        funext index
        rw [wordIndex_next]
        rfl
      · rw [SkyeyeStarlet.readBlock, if_neg ok] at fine
        cases fine

theorem WordMemory.writeBlock {words : List ARMword} {address : ARMword} {mem : Mem}
    (valid : memory.valid mem) (covered : memory.CoversBlock address words.length)
    (fine : (writeBlock bus mode words address mem).failed = false) :
    let written := SkyeyeStarlet.writeBlock bus mode words address mem
    memory.view written.mem = updateRange (memory.view mem) (wordIndex address)
        (fun index _ => words.getD index 0#32) words.length ∧
      memory.valid written.mem := by
  induction words generalizing address mem with
  | nil => exact ⟨(updateRange_zero _ _ _).symm, valid⟩
  | cons word words ih =>
      obtain ⟨first, rest⟩ := memory.coversBlock_succ covered
      by_cases ok : (bus.write .word mode address word mem).fault = .noFault
      · obtain ⟨updated, still⟩ := memory.write valid first ok
        rw [SkyeyeStarlet.writeBlock, if_pos ok] at fine ⊢
        obtain ⟨later, kept⟩ := ih still rest fine
        refine ⟨?_, kept⟩
        have next := wordIndex_next address 0
        rw [BitVec.add_zero] at next
        rw [List.length_cons, updateRange_cons]
        exact later.trans (by rw [updated, next]; rfl)
      · rw [SkyeyeStarlet.writeBlock, if_neg ok] at fine
        cases fine

end Words

section Lists

theorem setListed_reg_of_ne (file : Registers) {indices : List Nat} (words : List ARMword)
    {number : RegNum} (other : ∀ index ∈ indices, BitVec.ofNat 4 index ≠ number)
    (low : ∀ index ∈ indices, index < 16) :
    (setListed file indices words).reg number = file.reg number := by
  induction indices generalizing file words with
  | nil => rfl
  | cons index indices ih =>
      cases words with
      | nil => rfl
      | cons word words =>
          have first := other index List.mem_cons_self
          rw [setListed,
            ih _ _ (fun later member => other later (List.mem_cons_of_mem index member))
              (fun later member => low later (List.mem_cons_of_mem index member)),
            setRawReg_low (low index List.mem_cons_self)]
          exact Function.update_of_ne first.symm word file.reg

theorem ofNat_register_inj {index other : Nat} (low : index < 16) (below : other < 16) :
    BitVec.ofNat 4 index = BitVec.ofNat 4 other ↔ index = other := by
  rw [← BitVec.toNat_inj, BitVec.toNat_ofNat, BitVec.toNat_ofNat, Nat.mod_eq_of_lt low,
    Nat.mod_eq_of_lt below]

theorem setListed_reg (file : Registers) {indices : List Nat} {words : List ARMword}
    (low : ∀ index ∈ indices, index < 16) (distinct : indices.Nodup) {place index : Nat}
    {word : ARMword} (listed : indices[place]? = some index) (loaded : words[place]? = some word) :
    (setListed file indices words).reg (BitVec.ofNat 4 index) = word := by
  induction indices generalizing file words place with
  | nil => cases listed
  | cons first indices ih =>
      cases words with
      | nil => cases loaded
      | cons value words =>
          obtain ⟨absent, later⟩ := List.nodup_cons.mp distinct
          have below : ∀ other ∈ indices, other < 16 :=
            fun other member => low other (List.mem_cons_of_mem first member)
          cases place with
          | zero =>
              obtain rfl : first = index := Option.some.inj listed
              obtain rfl : value = word := Option.some.inj loaded
              have apart : ∀ other ∈ indices, BitVec.ofNat 4 other ≠ BitVec.ofNat 4 first := by
                intro other member same
                have equal := (ofNat_register_inj (below other member)
                  (low first List.mem_cons_self)).mp same
                exact absent (equal ▸ member)
              rw [setListed, setListed_reg_of_ne _ words apart below,
                setRawReg_low (low first List.mem_cons_self)]
              exact Function.update_self (BitVec.ofNat 4 first) value file.reg
          | succ place => exact ih _ below later listed loaded

theorem setListed_regBank (file : Registers) {indices : List Nat}
    (low : ∀ index ∈ indices, index < 16) (words : List ARMword) :
    (setListed file indices words).regBank = file.regBank := by
  induction indices generalizing file words with
  | nil => rfl
  | cons index indices ih =>
      cases words with
      | nil => rfl
      | cons word words =>
          rw [setListed, ih _ (fun later member => low later (List.mem_cons_of_mem index member)),
            setRawReg_low (low index List.mem_cons_self)]
          rfl

theorem readBlock_length {bus : Bus Mem} {mode : ModeNum} {count : Nat} {address : ARMword}
    {mem : Mem} (fine : (readBlock bus mode count address mem).failed = false) :
    (readBlock bus mode count address mem).words.length = count := by
  induction count generalizing address mem with
  | zero => rfl
  | succ count ih =>
      by_cases ok : (bus.read .word mode address mem).fault = .noFault
      · rw [readBlock, if_pos ok] at fine ⊢
        exact congrArg (· + 1) (ih fine)
      · rw [readBlock, if_neg ok] at fine
        cases fine

end Lists

inductive BlockMode where
  | decrementAfter
  | incrementAfter
  | decrementBefore
  | incrementBefore
  deriving DecidableEq, Repr

namespace BlockMode

def lowest (base : ARMword) (count : Nat) : BlockMode → ARMword
  | decrementAfter => base - size count + 4#32
  | incrementAfter => base
  | decrementBefore => base - size count
  | incrementBefore => base + 4#32

def final (base : ARMword) (count : Nat) : BlockMode → ARMword
  | decrementAfter | decrementBefore => base - size count
  | incrementAfter | incrementBefore => base + size count

def mirrored : BlockMode → BlockMode
  | decrementAfter => incrementBefore
  | incrementAfter => decrementBefore
  | decrementBefore => incrementAfter
  | incrementBefore => decrementAfter

theorem final_mirrored (mode : BlockMode) (base : ARMword) (count : Nat) :
    mode.mirrored.final (mode.final base count) count = base := by
  cases mode with
  | decrementAfter | decrementBefore => exact BitVec.sub_add_cancel base (size count)
  | incrementAfter | incrementBefore => exact BitVec.add_sub_cancel base (size count)

theorem lowest_mirrored (mode : BlockMode) (base : ARMword) (count : Nat) :
    mode.mirrored.lowest (mode.final base count) count = mode.lowest base count := by
  cases mode with
  | decrementAfter | decrementBefore => rfl
  | incrementAfter => exact BitVec.add_sub_cancel base (size count)
  | incrementBefore => exact congrArg (· + 4#32) (BitVec.add_sub_cancel base (size count))

end BlockMode

def blockMode (instr : ARMword) : BlockMode :=
  match instr.getLsbD 24, instr.getLsbD 23 with
  | false, false => .decrementAfter
  | false, true => .incrementAfter
  | true, false => .decrementBefore
  | true, true => .incrementBefore

def armulBitList (byte : BitVec 8) : Nat :=
  4 * (List.range 8).foldl (fun count bit => if byte.getLsbD bit then count + 1 else count) 0

section Modes

variable (instr base : ARMword)

theorem armulBitList_eq (byte : BitVec 8) :
    armulBitList byte = 4 * ((List.range 8).filter fun bit => byte.getLsbD bit).length := by
  have counted (bits : List Nat) (start : Nat) :
      bits.foldl (fun count bit => if byte.getLsbD bit then count + 1 else count) start =
        start + (bits.filter fun bit => byte.getLsbD bit).length := by
    induction bits generalizing start with
    | nil => rfl
    | cons bit bits ih =>
        rw [List.foldl_cons, ih, List.filter_cons]
        split
        · rw [List.length_cons]
          omega
        · rfl
  rw [armulBitList, counted, Nat.zero_add]

theorem lsmNumRegs_bitList :
    lsmNumRegs instr =
      BitVec.ofNat 32 (armulBitList (instr.extractLsb' 0 8)) +
        BitVec.ofNat 32 (armulBitList (instr.extractLsb' 8 8)) := by
  rw [lsmNumRegs_eq, listedRegs_eq, armulBitList_eq, armulBitList_eq, ← BitVec.ofNat_add,
    ← Nat.mul_add, List.length_append, List.length_map]
  rfl

theorem blockStart_mode :
    blockStart instr base = (blockMode instr).lowest base (listedRegs instr).length := by
  unfold blockStart blockMode
  rw [lsmNumRegs_eq]
  cases instr.getLsbD 24 <;> cases instr.getLsbD 23 <;> rfl

theorem blockBase_mode (writes : instr.getLsbD 21 = true) :
    blockBase instr base = (blockMode instr).final base (listedRegs instr).length := by
  unfold blockBase blockMode
  rw [lsmNumRegs_eq, if_pos writes]
  cases instr.getLsbD 24 <;> cases instr.getLsbD 23 <;> rfl

end Modes

/-- A block transfer of the current bank: a list that is not empty, and a base that is neither
register 15 nor in the list when it is written back. -/
structure BlockInstr (instr : ARMword) : Prop where
  form : instr.extractLsb' 25 3 = 4#3
  ordinary : instr.getLsbD 22 = false
  listed : listedRegs instr ≠ []
  base : lhsReg instr ≠ 15#4
  apart : instr.getLsbD 21 = true → instr.getLsbD (lhsReg instr).toNat = false

structure BlockReady (state : ARMulState Mem) (instr : ARMword) : Prop where
  conditional : instr.extractLsb' 28 4 ≠ 0xf#4
  passes : conditionHolds state.flags (instr.extractLsb' 28 4) = true
  isV4 : state.isV4 = true
  clear : state.aborted = 0#32

def blockRegs (instr : ARMword) : List RegNum :=
  (listedRegs instr).map (BitVec.ofNat 4)

theorem listedRegs_nodup (instr : ARMword) : (listedRegs instr).Nodup := by
  exact List.Nodup.filter _ List.nodup_range

theorem blockRegs_getElem {instr : ARMword} {place : Nat} {number : RegNum}
    (listed : (blockRegs instr)[place]? = some number) :
    (listedRegs instr)[place]? = some number.toNat ∧ instr.getLsbD number.toNat = true := by
  rw [blockRegs, List.getElem?_map] at listed
  obtain ⟨index, found, rfl⟩ := Option.map_eq_some_iff.mp listed
  have member := List.mem_of_getElem? found
  have low := mem_listedRegs_lt member
  have same : (BitVec.ofNat 4 index).toNat = index := by
    rw [BitVec.toNat_ofNat, Nat.mod_eq_of_lt low]
  rw [same]
  exact ⟨found, (List.mem_filter.mp member).2⟩

theorem blockRegs_of_listed {instr : ARMword} {number : RegNum}
    (present : instr.getLsbD number.toNat = true) :
    ∃ place : Nat, (blockRegs instr)[place]? = some number := by
  have member : number ∈ blockRegs instr := by
    refine List.mem_map.mpr ⟨number.toNat, List.mem_filter.mpr ⟨?_, present⟩, ?_⟩
    · exact List.mem_range.mpr number.isLt
    · rw [BitVec.ofNat_toNat, BitVec.setWidth_eq]
  exact List.mem_iff_getElem?.mp member

def lowestAddress (state : ARMulState Mem) (instr : ARMword) : ARMword :=
  (blockMode instr).lowest (state.reg (lhsReg instr)) (blockRegs instr).length

def blockLoads (bus : Bus Mem) (state : ARMulState Mem) (instr : ARMword) : BlockRead Mem :=
  readBlock bus state.mode (blockRegs instr).length (lowestAddress state instr) state.mem

def blockStores (bus : Bus Mem) (state : ARMulState Mem) (instr : ARMword) : BlockWrite Mem :=
  writeBlock bus state.mode ((blockRegs instr).map state.reg) (lowestAddress state instr) state.mem

structure LoadsBlock (bus : Bus Mem) (state after : ARMulState Mem) (instr : ARMword) : Prop where
  mem : after.mem = (blockLoads bus state instr).mem
  count : (blockLoads bus state instr).words.length = (blockRegs instr).length
  listed : ∀ (place : Nat) (number : RegNum), (blockRegs instr)[place]? = some number →
    number ≠ 15#4 → (blockLoads bus state instr).words[place]? = some (after.reg number)
  others : ∀ number, instr.getLsbD number.toNat = false → number ≠ 15#4 →
    (instr.getLsbD 21 = true → number ≠ lhsReg instr) → after.reg number = state.reg number
  base : instr.getLsbD 21 = true →
    after.reg (lhsReg instr) =
      (blockMode instr).final (state.reg (lhsReg instr)) (blockRegs instr).length
  straight : instr.getLsbD 15 = false →
    after = { state with file := after.file, mem := after.mem, abortSig := false } ∧
      after.reg 15#4 = state.reg 15#4
  branches : instr.getLsbD 15 = true → ∀ (place : Nat) (word : ARMword),
    (blockRegs instr)[place]? = some 15#4 →
    (blockLoads bus state instr).words[place]? = some word →
      after = { writeR15Branch state word with
        file := after.file, mem := after.mem, abortSig := false } ∧
        after.flags.tFlag = word.getLsbD 0 ∧ after.reg 15#4 = alignPc (word.getLsbD 0) word
  banks : after.file.regBank = state.file.regBank ∧ after.file.bank = state.file.bank

structure StoresBlock (bus : Bus Mem) (state after : ARMulState Mem) (instr : ARMword) : Prop where
  mem : after.mem = (blockStores bus state instr).mem
  others : ∀ number, (instr.getLsbD 21 = true → number ≠ lhsReg instr) →
    after.reg number = state.reg number
  base : instr.getLsbD 21 = true →
    after.reg (lhsReg instr) =
      (blockMode instr).final (state.reg (lhsReg instr)) (blockRegs instr).length
  straight : after =
    { state with
      file := after.file, mem := after.mem, abortSig := false, nextInstr := after.nextInstr }
  banks : after.file.regBank = state.file.regBank ∧ after.file.bank = state.file.bank

structure LoadsWords {bus : Bus Mem} (memory : WordMemory bus)
    (state after : ARMulState Mem) (instr : ARMword) : Prop where
  view : memory.view after.mem = memory.view state.mem
  words : ∀ (place : Nat) (number : RegNum), (blockRegs instr)[place]? = some number →
    let word := memory.view state.mem
      (wordIndex (lowestAddress state instr) + BitVec.ofNat 30 place)
    after.reg number = if number = 15#4 then alignPc (word.getLsbD 0) word else word

structure StoresWords {bus : Bus Mem} (memory : WordMemory bus)
    (state after : ARMulState Mem) (instr : ARMword) : Prop where
  words : ∀ (place : Nat) (number : RegNum), (blockRegs instr)[place]? = some number →
    memory.view after.mem (wordIndex (lowestAddress state instr) + BitVec.ofNat 30 place) =
      state.reg number
  others : ∀ index, (∀ place < (blockRegs instr).length,
      index ≠ wordIndex (lowestAddress state instr) + BitVec.ofNat 30 place) →
    memory.view after.mem index = memory.view state.mem index

/-- A store with write back, and the load that goes the same way back. -/
structure Mirrors (store load : ARMword) : Prop where
  stores : store.getLsbD 20 = false
  loads : load.getLsbD 20 = true
  writesStore : store.getLsbD 21 = true
  writesLoad : load.getLsbD 21 = true
  mode : blockMode load = (blockMode store).mirrored
  operands : load.extractLsb' 0 20 = store.extractLsb' 0 20

/-- The registers are those of the state again, and a listed register 15 is branched to. -/
structure RestoresBlock (state final : ARMulState Mem) (instr : ARMword) : Prop where
  regs : ∀ number, number ≠ 15#4 → final.reg number = state.reg number
  pc : instr.getLsbD 15 = true →
    final.reg 15#4 = alignPc ((state.reg 15#4).getLsbD 0) (state.reg 15#4)

/-- The load is reached with the registers and the memory of the store. -/
structure Resumes {bus : Bus Mem} (memory : WordMemory bus) (after between : ARMulState Mem) :
    Prop where
  regs : ∀ number, number ≠ 15#4 → between.reg number = after.reg number
  valid : memory.valid between.mem
  view : memory.view between.mem = memory.view after.mem

section Transfers

variable (bus : Bus Mem) (traps : Traps Mem) (cops : Coprocessors Mem) {state : ARMulState Mem}
  (pc : ARMword) {instr : ARMword} (block : BlockInstr instr) (ready : BlockReady state instr)

include block ready

theorem executeArm_blockTransfer :
    executeArm bus traps cops state pc instr = blockTransfer bus state instr := by
  have single : transferOf instr = none := by
    simp [transferOf, extract_upper, block.form]
  rw [executeArm, if_neg ready.conditional, if_pos ready.passes]
  simp only [mainSwitch, single, block.form]

theorem executeArm_load (loads : instr.getLsbD 20 = true)
    (fine : (blockLoads bus state instr).failed = false) :
    let read := blockLoads bus state instr
    let moved : ARMulState Mem :=
      { state with
        file := setListed state.file (listedRegs instr) read.words, mem := read.mem
        abortSig := false }
    executeArm bus traps cops state pc instr =
      writeBack instr (blockBase instr (state.reg (lhsReg instr)))
        (if instr.getLsbD 15 then writeR15Branch moved (moved.reg 15#4) else moved) := by
  intro read moved
  have all := loadAll_eq bus true block.listed
    (blockStart instr (state.reg (lhsReg instr))) state ready.clear
  have words : readBlock bus state.mode (listedRegs instr).length
      (blockStart instr (state.reg (lhsReg instr))) state.mem = read := by
    rw [blockStart_mode, ← List.length_map (f := BitVec.ofNat 4)]
    rfl
  rw [words] at all
  have loaded : transferAll (loadListed bus true) (loadListed bus true) instr
      (blockStart instr (state.reg (lhsReg instr))) state = moved := by
    rw [all]
    simp only [moved, read, fine, abortCode, Bool.false_eq_true, if_false, ← ready.clear]
  rw [executeArm_blockTransfer bus traps cops pc block ready]
  simp only [blockTransfer, block.ordinary, loads, loadMult, bususedincpcs_v4 ready.isV4, loaded,
    show moved.aborted = 0#32 from ready.clear, if_true]

theorem executeArm_store (stores : instr.getLsbD 20 = false)
    (fine : (blockStores bus state instr).failed = false) :
    executeArm bus traps cops state pc instr =
      writeBack instr (blockBase instr (state.reg (lhsReg instr)))
        { state with
          mem := (blockStores bus state instr).mem, abortSig := false
          nextInstr := if state.tFlag then state.nextInstr else state.nextInstr ||| 1#8 } := by
  have values : (listedRegs instr).map (rawReg state.file) = (blockRegs instr).map state.reg := by
    rw [blockRegs, List.map_map]
    apply List.map_congr_left
    intro index member
    exact rawReg_low (mem_listedRegs_lt member)
  have words : writeBlock bus state.mode ((listedRegs instr).map (rawReg state.file))
      (blockStart instr (state.reg (lhsReg instr))) state.mem = blockStores bus state instr := by
    rw [values, blockStart_mode, ← List.length_map (f := BitVec.ofNat 4)]
    rfl
  have started : (if state.tFlag then state else bususedincpcn state) =
      { state with
        nextInstr := if state.tFlag then state.nextInstr else state.nextInstr ||| 1#8 } := by
    rw [bususedincpcn_v4 ready.isV4]
    split <;> rfl
  have stored := storeAll_eq bus block.listed (blockStart instr (state.reg (lhsReg instr)))
    { state with
      nextInstr := if state.tFlag then state.nextInstr else state.nextInstr ||| 1#8 } ready.clear
  dsimp only at stored
  rw [words, fine] at stored
  have kept (moved : ARMulState Mem) (clear : moved.aborted = 0#32) :
      (writeBack instr (blockBase instr (state.reg (lhsReg instr))) moved).aborted = 0#32 := by
    unfold writeBack
    split <;> exact clear
  rw [executeArm_blockTransfer bus traps cops pc block ready]
  simp only [blockTransfer, block.ordinary, stores, storeMult, started, stored, writeBackLate,
    Bool.false_and, Bool.false_eq_true, if_false]
  rw [if_pos (kept _ rfl), ready.clear]
  rfl

omit ready in
theorem writeBack_eq (wbBase : ARMword) (moved : ARMulState Mem) :
    writeBack instr wbBase moved =
      if instr.getLsbD 21 then moved.setReg (lhsReg instr) wbBase else moved := by
  rw [writeBack, bne_iff_ne.mpr block.base, Bool.and_true]

omit ready in
theorem writeBack_reg_of_ne (wbBase : ARMword) (moved : ARMulState Mem) {number : RegNum}
    (other : instr.getLsbD 21 = true → number ≠ lhsReg instr) :
    (writeBack instr wbBase moved).reg number = moved.reg number := by
  rw [writeBack_eq block]
  split
  · rename_i writes
    exact setReg_reg_of_ne (other writes)
  · rfl

omit ready in
theorem writeBack_straight (wbBase : ARMword) (moved : ARMulState Mem) :
    let after := writeBack instr wbBase moved
    after = { moved with file := after.file } ∧ after.file.regBank = moved.file.regBank ∧
      after.file.bank = moved.file.bank := by
  intro after
  have found : after = _ := writeBack_eq block wbBase moved
  rw [found]
  split <;> exact ⟨rfl, rfl, rfl⟩

omit ready in
theorem writeBack_base (wbBase : ARMword) (moved : ARMulState Mem)
    (writes : instr.getLsbD 21 = true) :
    (writeBack instr wbBase moved).reg (lhsReg instr) = wbBase := by
  rw [writeBack_eq block, if_pos writes]
  exact setReg_reg_self moved (lhsReg instr) wbBase

theorem storesBlock (stores : instr.getLsbD 20 = false)
    (fine : (blockStores bus state instr).failed = false) :
    StoresBlock bus state (executeArm bus traps cops state pc instr) instr := by
  rw [executeArm_store bus traps cops pc block ready stores fine]
  obtain ⟨straight, banks, bank⟩ := writeBack_straight block
    (blockBase instr (state.reg (lhsReg instr)))
    { state with
      mem := (blockStores bus state instr).mem, abortSig := false
      nextInstr := if state.tFlag then state.nextInstr else state.nextInstr ||| 1#8 }
  refine ⟨?_, ?_, ?_, ?_, banks, bank⟩
  · rw [straight]
  · intro number other
    exact writeBack_reg_of_ne block _ _ other
  · intro writes
    rw [writeBack_base block _ _ writes, blockBase_mode instr _ writes, blockRegs, List.length_map]
  · rw [straight]

omit block ready in
theorem moved_reg (words : List ARMword) {place : Nat} {number : RegNum} {word : ARMword}
    (listed : (blockRegs instr)[place]? = some number) (loaded : words[place]? = some word) :
    (setListed state.file (listedRegs instr) words).reg number = word := by
  have found := setListed_reg state.file (fun _ => mem_listedRegs_lt) (listedRegs_nodup instr)
    (blockRegs_getElem listed).1 loaded
  rwa [BitVec.ofNat_toNat, BitVec.setWidth_eq] at found

theorem loadsBlock (loads : instr.getLsbD 20 = true)
    (fine : (blockLoads bus state instr).failed = false) :
    LoadsBlock bus state (executeArm bus traps cops state pc instr) instr := by
  have executed := executeArm_load bus traps cops pc block ready loads fine
  dsimp only at executed
  rw [executed]
  let read := blockLoads bus state instr
  let moved : ARMulState Mem :=
    { state with
      file := setListed state.file (listedRegs instr) read.words, mem := read.mem
      abortSig := false }
  let branched := if instr.getLsbD 15 then writeR15Branch moved (moved.reg 15#4) else moved
  have length : read.words.length = (blockRegs instr).length := readBlock_length fine
  have low : ∀ index ∈ listedRegs instr, index < 16 := fun _ => mem_listedRegs_lt
  have branchedReg {number : RegNum} (other : number ≠ 15#4) :
      branched.reg number = moved.reg number := by
    simp only [branched]
    split
    · exact setReg_reg_of_ne other
    · rfl
  have branchedRest : branched.mem = read.mem ∧ branched.file.regBank = state.file.regBank ∧
      branched.file.bank = state.file.bank := by
    have regBank := setListed_regBank state.file low read.words
    have bank := setListed_bank state.file (listedRegs instr) read.words
    simp only [branched]
    split <;> exact ⟨rfl, regBank, bank⟩
  obtain ⟨straight, banks, bank⟩ := writeBack_straight block
    (blockBase instr (state.reg (lhsReg instr))) branched
  have kept : (writeBack instr (blockBase instr (state.reg (lhsReg instr))) branched).reg 15#4 =
      branched.reg 15#4 :=
    writeBack_reg_of_ne block _ _ fun _ => block.base.symm
  refine ⟨?_, length, ?_, ?_, ?_, ?_, ?_, banks.trans branchedRest.2.1,
    bank.trans branchedRest.2.2⟩
  · exact (congrArg ARMulState.mem straight).trans branchedRest.1
  · intro place number listed other
    obtain ⟨found, bit⟩ := blockRegs_getElem listed
    have inside : place < read.words.length := by
      rw [length]
      exact (List.getElem?_eq_some_iff.mp listed).1
    have loaded : read.words[place]? = some read.words[place] := List.getElem?_eq_getElem inside
    have notBase : instr.getLsbD 21 = true → number ≠ lhsReg instr := by
      rintro writes rfl
      exact absurd bit (Bool.eq_false_iff.mp (block.apart writes))
    refine loaded.trans (congrArg some ?_)
    exact ((writeBack_reg_of_ne block _ _ notBase).trans
      ((branchedReg other).trans (moved_reg _ listed loaded))).symm
  · intro number absent other notBase
    refine (writeBack_reg_of_ne block _ _ notBase).trans ((branchedReg other).trans ?_)
    refine setListed_reg_of_ne state.file read.words ?_ low
    rintro index member rfl
    have same : (BitVec.ofNat 4 index).toNat = index := by
      rw [BitVec.toNat_ofNat, Nat.mod_eq_of_lt (low index member)]
    rw [same, (List.mem_filter.mp member).2] at absent
    cases absent
  · intro writes
    rw [writeBack_base block _ _ writes, blockBase_mode instr _ writes, blockRegs, List.length_map]
  · intro absent
    have stays : branched = moved := if_neg (Bool.eq_false_iff.mp absent)
    refine ⟨?_, kept.trans ?_⟩
    · rw [straight, stays]
    · rw [stays]
      refine setListed_reg_of_ne state.file read.words ?_ low
      intro index member same
      obtain rfl : index = 15 := (ofNat_register_inj (low index member) (by decide)).mp same
      rw [(List.mem_filter.mp member).2] at absent
      cases absent
  · intro present place word listed loaded
    have target : moved.reg 15#4 = word := moved_reg read.words listed loaded
    have goes : branched = writeR15Branch moved word := by
      rw [← target]
      exact if_pos present
    refine ⟨?_, ?_, ?_⟩
    · rw [straight, goes]
      rfl
    · rw [straight, goes]
      rfl
    · rw [kept, goes]
      exact setReg_reg_self _ 15#4 _

end Transfers

section Memory

variable (bus : Bus Mem) (traps : Traps Mem) (cops : Coprocessors Mem) {state : ARMulState Mem}
  (pc : ARMword) {instr : ARMword} (block : BlockInstr instr) (ready : BlockReady state instr)
  (memory : WordMemory bus) (valid : memory.valid state.mem)
  (covered : memory.CoversBlock (lowestAddress state instr) (blockRegs instr).length)

theorem blockRegs_length_le : (blockRegs instr).length ≤ 16 := by
  have shorter := List.length_filter_le (fun index => instr.getLsbD index) (List.range 16)
  rw [List.length_range] at shorter
  rw [blockRegs, List.length_map]
  exact shorter

include block ready valid covered

theorem loadsWords (loads : instr.getLsbD 20 = true)
    (fine : (blockLoads bus state instr).failed = false) :
    LoadsWords memory state (executeArm bus traps cops state pc instr) instr := by
  obtain ⟨words, view, -⟩ := memory.readBlock valid covered fine
  have loaded := loadsBlock bus traps cops pc block ready loads fine
  refine ⟨?_, ?_⟩
  · rw [loaded.mem]
    exact view
  · intro place number listed word
    have below : place < (blockRegs instr).length := (List.getElem?_eq_some_iff.mp listed).1
    have read : (blockLoads bus state instr).words[place]? = some word := by
      rw [show (blockLoads bus state instr).words = _ from words, List.getElem?_map,
        List.getElem?_range below]
      rfl
    by_cases isPc : number = 15#4
    · subst isPc
      have present := (blockRegs_getElem listed).2
      obtain ⟨-, -, target⟩ := loaded.branches present place word listed read
      rw [if_pos rfl, target]
    · have found := loaded.listed place number listed isPc
      rw [if_neg isPc]
      exact Option.some.inj (found.symm.trans read)

theorem stores_view (stores : instr.getLsbD 20 = false)
    (fine : (blockStores bus state instr).failed = false) :
    memory.view (executeArm bus traps cops state pc instr).mem =
      updateRange (memory.view state.mem) (wordIndex (lowestAddress state instr))
        (fun index _ => ((blockRegs instr).map state.reg).getD index 0#32)
        ((blockRegs instr).map state.reg).length := by
  have stored := storesBlock bus traps cops pc block ready stores fine
  rw [stored.mem]
  rw [← List.length_map (f := state.reg)] at covered
  exact (memory.writeBlock valid covered fine).1

theorem storesWords (stores : instr.getLsbD 20 = false)
    (fine : (blockStores bus state instr).failed = false) :
    StoresWords memory state (executeArm bus traps cops state pc instr) instr := by
  have view := stores_view bus traps cops pc block ready memory valid covered stores fine
  have length : ((blockRegs instr).map state.reg).length = (blockRegs instr).length :=
    List.length_map _
  have short := @blockRegs_length_le instr
  have bound : ((blockRegs instr).map state.reg).length ≤ 2 ^ 30 := by
    omega
  refine ⟨?_, ?_⟩
  · intro place number listed
    have below : place < (blockRegs instr).length := (List.getElem?_eq_some_iff.mp listed).1
    have offset : (wordIndex (lowestAddress state instr) + BitVec.ofNat 30 place -
        wordIndex (lowestAddress state instr)).toNat = place :=
      (sub_eq_iff _ _ (by omega)).mpr rfl
    rw [view, updateRange_apply _ _ _ bound, offset, length, if_pos below,
      List.getD_eq_getElem?_getD, List.getElem?_map, listed]
    rfl
  · intro index outside
    rw [view, updateRange_apply _ _ _ bound, if_neg]
    intro inside
    rw [length] at inside
    exact outside _ inside ((sub_eq_iff _ _ (by omega)).mp rfl)

theorem restoresBlock {load pc' : ARMword} {between : ARMulState Mem}
    (fine : (blockStores bus state instr).failed = false) (mirrors : Mirrors instr load)
    (back : BlockInstr load) (next : BlockReady between load)
    (resumes : Resumes memory (executeArm bus traps cops state pc instr) between)
    (fineLoad : (blockLoads bus between load).failed = false) :
    RestoresBlock state (executeArm bus traps cops between pc' load) instr := by
  have stored := storesBlock bus traps cops pc block ready mirrors.stores fine
  have view := stores_view bus traps cops pc block ready memory valid covered mirrors.stores fine
  have bit (index : Nat) (below : index < 20) : load.getLsbD index = instr.getLsbD index := by
    have same := congrArg (·.getLsbD index) mirrors.operands
    simpa [below] using same
  have lists : listedRegs load = listedRegs instr := by
    apply List.filter_congr
    intro index member
    exact bit index (by have := List.mem_range.mp member; omega)
  have regs : blockRegs load = blockRegs instr := congrArg (List.map (BitVec.ofNat 4)) lists
  have base : lhsReg load = lhsReg instr := by
    apply BitVec.eq_of_getLsbD_eq
    intro index below
    simp only [lhsReg, BitVec.getLsbD_extractLsb', bit (16 + index) (by omega)]
  have baseBetween : between.reg (lhsReg instr) =
      (blockMode instr).final (state.reg (lhsReg instr)) (blockRegs instr).length :=
    (resumes.regs _ block.base).trans (stored.base mirrors.writesStore)
  have lowest : lowestAddress between load = lowestAddress state instr := by
    rw [lowestAddress, mirrors.mode, base, regs, baseBetween, BlockMode.lowest_mirrored]
    rfl
  have loaded := loadsBlock bus traps cops pc' back next mirrors.loads fineLoad
  have coveredLoad : memory.CoversBlock (lowestAddress between load) (blockRegs load).length := by
    rwa [lowest, regs]
  have words := (loadsWords bus traps cops pc' back next memory resumes.valid coveredLoad
    mirrors.loads fineLoad).words
  have wrote := (storesWords bus traps cops pc block ready memory valid covered mirrors.stores
    fine).words
  rw [regs, lowest, resumes.view] at words
  refine ⟨?_, ?_⟩
  · intro number other
    by_cases isBase : number = lhsReg instr
    · subst isBase
      have found := loaded.base mirrors.writesLoad
      rw [base, baseBetween, regs, mirrors.mode, BlockMode.final_mirrored] at found
      exact found
    · by_cases present : instr.getLsbD number.toNat = true
      · obtain ⟨place, found⟩ := blockRegs_of_listed present
        have value := words place number found
        rw [wrote place number found] at value
        exact value.trans (if_neg other)
      · have absent : load.getLsbD number.toNat = false := by
          rw [bit _ (by have := number.isLt; omega)]
          exact Bool.eq_false_iff.mpr present
        refine (loaded.others number absent other fun _ => base ▸ isBase).trans ?_
        exact (resumes.regs number other).trans (stored.others number fun _ => isBase)
  · intro present
    obtain ⟨place, found⟩ := @blockRegs_of_listed _ 15#4 present
    have value := words place 15#4 found
    rw [wrote place 15#4 found] at value
    exact value.trans (if_pos rfl)

omit valid covered in
/-- Block transfers without the S bit move the listed registers, lowest first, to or from the
ascending words of the range that the mode prescribes, and write the base back; the mirrored load
takes a store back. -/
theorem block_transfers_exact :
    (instr.getLsbD 20 = true → (blockLoads bus state instr).failed = false →
      let after := executeArm bus traps cops state pc instr
      LoadsBlock bus state after instr ∧
        ∀ memory : WordMemory bus, memory.valid state.mem →
          memory.CoversBlock (lowestAddress state instr) (blockRegs instr).length →
            LoadsWords memory state after instr) ∧
    (instr.getLsbD 20 = false → (blockStores bus state instr).failed = false →
      let after := executeArm bus traps cops state pc instr
      StoresBlock bus state after instr ∧
        ∀ memory : WordMemory bus, memory.valid state.mem →
          memory.CoversBlock (lowestAddress state instr) (blockRegs instr).length →
            StoresWords memory state after instr ∧
              ∀ load pc' between, Mirrors instr load → BlockInstr load →
                BlockReady between load → Resumes memory after between →
                  (blockLoads bus between load).failed = false →
                    RestoresBlock state (executeArm bus traps cops between pc' load) instr) := by
  refine ⟨?_, ?_⟩
  · intro loads fine after
    refine ⟨loadsBlock bus traps cops pc block ready loads fine, ?_⟩
    intro memory valid covered
    exact loadsWords bus traps cops pc block ready memory valid covered loads fine
  · intro stores fine after
    refine ⟨storesBlock bus traps cops pc block ready stores fine, ?_⟩
    intro memory valid covered
    refine ⟨storesWords bus traps cops pc block ready memory valid covered stores fine, ?_⟩
    intro load pc' between mirrors back next resumes fineLoad
    exact restoresBlock bus traps cops pc block ready memory valid covered fine mirrors back next
      resumes fineLoad

end Memory

section Flat

theorem wordAddress_iff (address : ARMword) (index : BitVec 30) :
    index ++ 0#2 = address &&& ~~~3#32 ↔ index = wordIndex address := by
  have aligned : address &&& ~~~3#32 = wordIndex address ++ 0#2 := by
    apply BitVec.eq_of_getLsbD_eq
    intro bit below
    have mask : ∀ bit < 32, (~~~3#32 : ARMword).getLsbD bit = decide (2 ≤ bit) := by
      decide
    rw [BitVec.getLsbD_and, mask bit below, BitVec.getLsbD_append, wordIndex,
      BitVec.getLsbD_extractLsb']
    by_cases low : bit < 2
    · simp [low, Nat.not_le.mpr low]
    · have high : 2 ≤ bit := Nat.not_lt.mp low
      have inside : bit - 2 < 30 := by
        omega
      simp [low, high, inside, Nat.add_sub_cancel' high]
  rw [aligned]
  constructor
  · intro same
    have upper := congrArg (BitVec.extractLsb' 2 30) same
    rwa [BitVec.extractLsb'_append_eq_left, BitVec.extractLsb'_append_eq_left] at upper
  · rintro rfl
    rfl

theorem flatWrite_word {address data : ARMword} {mem : FlatMemory}
    (fine : (flatWrite .word address data mem).fault = .noFault) :
    (flatWrite .word address data mem).mem.words =
      Function.update mem.words (address &&& ~~~3#32) data := by
  have whole (old : ARMword) : (old &&& ~~~(0xffffffff#32 <<< 0)) |||
      ((data <<< 0) &&& (0xffffffff#32 <<< 0)) = data := by
    have ones : (0xffffffff#32 : ARMword) <<< 0 = BitVec.allOnes 32 := by
      decide
    rw [ones, BitVec.not_allOnes, BitVec.and_zero, BitVec.shiftLeft_zero, BitVec.and_allOnes,
      BitVec.zero_or]
  unfold flatWrite at fine ⊢
  split at fine
  · cases fine
  · split at fine
    · cases fine
    · rename_i mapped writable
      rw [if_neg mapped, if_neg writable]
      exact congrArg (Function.update mem.words (address &&& ~~~3#32)) (whole _)

def flatWords : WordMemory flatBus where
  view mem index := mem.words (index ++ 0#2)
  valid _ := True
  covers _ := True
  read := by
    intro mode address mem _ _ result fine
    have aligned := (wordAddress_iff address (wordIndex address)).mpr rfl
    have shifted (word : ARMword) : word >>> 0 &&& 0xffffffff#32 = word := by
      rw [BitVec.ushiftRight_zero]
      exact BitVec.and_allOnes
    refine ⟨?_, rfl, trivial⟩
    rw [aligned]
    exact shifted _
  write := by
    intro mode address data mem _ _ result fine
    refine ⟨?_, trivial⟩
    funext index
    rw [show result.mem.words = _ from flatWrite_word fine, Function.update_apply,
      Function.update_apply]
    exact if_congr (wordAddress_iff address index) rfl rfl

theorem readBlock_flat {mode : ModeNum} {count : Nat} {address : ARMword} {mem : FlatMemory}
    (mapped : ∀ page, mem.unmapped page = false) :
    (readBlock flatBus mode count address mem).failed = false := by
  induction count generalizing address with
  | zero => rfl
  | succ count ih =>
      have fine : (flatBus.read .word mode address mem).fault = .noFault :=
        if_neg (Bool.eq_false_iff.mp (mapped _))
      rw [readBlock, if_pos fine]
      exact ih

theorem writeBlock_flat {mode : ModeNum} (words : List ARMword) {address : ARMword}
    {mem : FlatMemory} :
    (writeBlock flatBus mode words address mem).mem.unmapped = mem.unmapped := by
  induction words generalizing address mem with
  | nil => rfl
  | cons word words ih =>
      have kept : (flatBus.write .word mode address word mem).mem.unmapped = mem.unmapped := by
        change (flatWrite .word address word mem).mem.unmapped = mem.unmapped
        unfold flatWrite
        split
        · rfl
        · split <;> rfl
      by_cases fine : (flatBus.write .word mode address word mem).fault = .noFault
      · rw [writeBlock, if_pos fine]
        exact ih.trans kept
      · rw [writeBlock, if_neg fine]
        exact kept

def plainTraps : Traps Mem :=
  { undfTrap := fun state _ => (state, false) }

def silentCoprocessors : Coprocessors Mem :=
  { mrc := fun _ mem => (.cant mem, 0#32)
    mcr := fun _ _ mem => .cant mem
    cdp := fun _ mem => .cant mem
    transfer := fun _ mem => .cant mem
    words := fun _ => 0
    load := fun _ _ mem => mem
    store := fun _ mem => (mem, 0#32) }

/-- `stmdb r13!, {r0, r1, r14}`, and `ldmia r13!, {r0, r1, r14}` behind it. -/
theorem block_transfers_exact_push :
    let state := (((coreAt svc32mode false 0x8000#32 (flatMemory fun _ => 0#32)).setReg 0#4
      0x11#32).setReg 1#4 0x22#32).setReg 13#4 0x2000#32
    let after := executeArm flatBus plainTraps silentCoprocessors state 0x8000#32 0xe92d4003#32
    after.reg 13#4 = 0x1ff4#32 ∧ flatWords.view after.mem (wordIndex 0x1ff8#32) = 0x22#32 ∧
      (executeArm flatBus plainTraps silentCoprocessors after 0x8004#32 0xe8bd4003#32).reg 13#4 =
        0x2000#32 := by
  intro state
  have block : BlockInstr 0xe92d4003#32 := by
    constructor <;> decide
  have back : BlockInstr 0xe8bd4003#32 := by
    constructor <;> decide
  have ready : BlockReady state 0xe92d4003#32 := by
    constructor <;> decide
  have result := (block_transfers_exact flatBus plainTraps silentCoprocessors 0x8000#32
    block ready).2 (by decide) (by decide)
  dsimp only at result ⊢
  -- What the first instruction does is known from the theorem alone.
  generalize executeArm flatBus plainTraps silentCoprocessors state 0x8000#32 0xe92d4003#32 = after
    at result ⊢
  obtain ⟨stored, memory⟩ := result
  obtain ⟨words, restores⟩ := memory flatWords trivial fun _ _ => trivial
  have mirrors : Mirrors 0xe92d4003#32 0xe8bd4003#32 := by
    constructor <;> decide
  have always (flags : Flags) :
      conditionHolds flags ((0xe8bd4003#32 : ARMword).extractLsb' 28 4) = true := by
    rfl
  have next : BlockReady after 0xe8bd4003#32 :=
    ⟨by decide, always _, (congrArg ARMulState.isV4 stored.straight).trans ready.isV4,
      (congrArg ARMulState.aborted stored.straight).trans ready.clear⟩
  have mapped : after.mem.unmapped = fun _ => false :=
    (congrArg FlatMemory.unmapped stored.mem).trans (writeBlock_flat _)
  have restored := restores 0xe8bd4003#32 0x8004#32 after mirrors back next
    ⟨fun _ _ => rfl, trivial, rfl⟩ (readBlock_flat fun page => congrFun mapped page)
  have base := stored.base (by decide)
  have word := words.words 1 1#4 (by decide)
  have place : wordIndex (lowestAddress state 0xe92d4003#32) + BitVec.ofNat 30 1 =
      wordIndex 0x1ff8#32 := by
    decide
  rw [place] at word
  exact ⟨base.trans (by decide), word.trans (by decide), restored.regs 13#4 (by decide)⟩

end Flat

end SkyeyeStarlet
