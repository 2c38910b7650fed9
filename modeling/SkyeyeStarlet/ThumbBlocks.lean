import SkyeyeStarlet.ThumbBranches
import SkyeyeStarlet.ThumbTransfers

/-!
The Thumb block transfers.  `LoadMult` and `StoreMult` move the words of the architecture and
write the base last, which only a base in the list of `LDMIA` shows.
-/

namespace SkyeyeStarlet

open ThumbIsa

variable {Mem : Type}

section Words

variable {bus : Bus Mem} {plain : Width → ModeNum → ARMword → Mem → Bool} {mode : ModeNum}

theorem busMemory_load {address word : ARMword} {mem after : Mem}
    (loaded : (busMemory bus plain mode).load .word address mem = some (word, after)) :
    let result := bus.read .word mode address mem
    result.fault = .noFault ∧ result.data = word ∧ result.mem = after := by
  intro result
  have read : (if result.fault = .noFault ∧
      (Width.word = .word ∨ plain .word mode address mem = true) then
        some (result.data.setWidth 32, result.mem) else none) = some (word, after) := loaded
  split at read
  · rename_i fine
    rw [BitVec.setWidth_eq] at read
    cases read
    exact ⟨fine.1, rfl, rfl⟩
  · cases read

theorem busMemory_store {address word : ARMword} {mem after : Mem}
    (stored : (busMemory bus plain mode).store .word address word mem = some after) :
    let result := bus.write .word mode address word mem
    result.fault = .noFault ∧ result.mem = after := by
  intro result
  have whole : bus.write .word mode address (word.setWidth 32) mem = result := by
    rw [BitVec.setWidth_eq]
  have written : (if result.fault = .noFault ∧
      (Width.word = .word ∨ plain .word mode address mem = true) then some result.mem
        else none) = some after := by
    rw [← whole]
    exact stored
  split at written
  · rename_i fine
    cases written
    exact ⟨fine.1, rfl⟩
  · cases written

theorem readBlock_loaded {count : Nat} {address : ARMword} {mem after : Mem}
    {words : List ARMword}
    (loaded : (busMemory bus plain mode).loadWords count address mem = some (words, after)) :
    readBlock bus mode count address mem = { words, mem := after, failed := false } ∧
      words.length = count := by
  induction count generalizing address mem words with
  | zero =>
      cases loaded
      exact ⟨rfl, rfl⟩
  | succ count ih =>
      simp only [Memory.loadWords, Option.bind_eq_bind, Option.bind_eq_some_iff] at loaded
      obtain ⟨⟨word, middle⟩, first, ⟨rest, last⟩, later, same⟩ := loaded
      cases same
      obtain ⟨fine, data, memory⟩ := busMemory_load first
      obtain ⟨read, length⟩ := ih later
      constructor
      · rw [readBlock, if_pos fine, data, memory, read]
      · exact congrArg (· + 1) length

theorem writeBlock_stored {words : List ARMword} {address : ARMword} {mem after : Mem}
    (stored : (busMemory bus plain mode).storeWords words address mem = some after) :
    writeBlock bus mode words address mem =
      { count := words.length, mem := after, failed := false } := by
  induction words generalizing address mem with
  | nil =>
      cases stored
      rfl
  | cons word words ih =>
      simp only [Memory.storeWords, Option.bind_eq_bind, Option.bind_eq_some_iff] at stored
      obtain ⟨middle, first, later⟩ := stored
      obtain ⟨fine, memory⟩ := busMemory_store first
      rw [writeBlock, if_pos fine, memory, ih later]
      rfl

end Words

section Lists

def lowIndices (list : BitVec 8) : List Nat :=
  (List.range 8).filter fun index => list.getLsbD index

theorem listed_eq (list : BitVec 8) : listed list = (lowIndices list).map (BitVec.ofNat 4) := by
  rfl

theorem lowIndices_lt {list : BitVec 8} {index : Nat} (member : index ∈ lowIndices list) :
    index < 8 := by
  exact List.mem_range.mp (List.mem_filter.mp member).1

theorem listedRegs_eq (instr : ARMword) :
    listedRegs instr = lowIndices (instr.extractLsb' 0 8) ++
      ((List.range 8).filter fun index => (instr.extractLsb' 8 8).getLsbD index).map (8 + ·) := by
  have halves : List.range 16 = List.range 8 ++ (List.range 8).map (8 + ·) := by
    decide
  rw [listedRegs, halves, List.filter_append, List.filter_map, lowIndices]
  congr 1
  · apply List.filter_congr
    intro index member
    simp [List.mem_range.mp member]
  · congr 1
    apply List.filter_congr
    intro index member
    simp [List.mem_range.mp member]

theorem setRawReg_low {file : Registers} {index : Nat} (low : index < 16) (value : ARMword) :
    setRawReg file index value = file.set (BitVec.ofNat 4 index) value := by
  rw [setRawReg, if_pos low]

theorem Within.setListed {before state : ARMulState Mem} {machine : Processor Mem}
    (within : Within before state machine) {indices : List Nat}
    (low : ∀ index ∈ indices, index < 15) (words : List ARMword) :
    Within before { state with file := setListed state.file indices words }
      (machine.setAll (indices.map (BitVec.ofNat 4)) words) := by
  induction indices generalizing state machine words with
  | nil => exact within
  | cons index indices ih =>
      cases words with
      | nil => exact within
      | cons word words =>
          have first := low index List.mem_cons_self
          have notPc : BitVec.ofNat 4 index ≠ 15#4 := by
            intro same
            have number := congrArg BitVec.toNat same
            simp at number
            omega
          have step := ih (within.setReg notPc word)
            (fun other member => low other (List.mem_cons_of_mem index member)) words
          simp only [SkyeyeStarlet.setListed, List.map_cons, Processor.setAll]
          rw [setRawReg_low (by omega)]
          exact step

theorem Within.setPc {before state : ARMulState Mem} {machine : Processor Mem}
    (within : Within before state machine) (value : ARMword) :
    Within before (state.setReg 15#4 value) machine := by
  refine ⟨{ within.toAgrees with regs := ?_, background := within.background }, within.sequential⟩
  intro number notPc
  exact (setReg_reg_of_ne notPc).trans (within.regs number notPc)

theorem setListed_append (file : Registers) {indices : List Nat} (later : List Nat)
    {words : List ARMword} (rest : List ARMword) (same : words.length = indices.length) :
    setListed file (indices ++ later) (words ++ rest) =
      setListed (setListed file indices words) later rest := by
  induction indices generalizing file words with
  | nil =>
      rw [List.length_nil, List.length_eq_zero_iff] at same
      subst same
      rfl
  | cons index indices ih =>
      cases words with
      | nil => cases same
      | cons word words => exact ih _ (Nat.succ.inj same)

end Lists

section Execution

structure BlockWord (instr : ARMword) (rn : RegNum) : Prop where
  always : instr.extractLsb' 28 4 = 0xe#4
  kind : instr.extractLsb' 25 3 = 4#3
  own : instr.getLsbD 22 = false
  writes : instr.getLsbD 21 = true
  left : lhsReg instr = rn
  notPc : rn ≠ 15#4
  nonempty : listedRegs instr ≠ []

theorem lsmNumRegs_eq (instr : ARMword) : lsmNumRegs instr = size (listedRegs instr).length := by
  rfl

theorem block_before {instr : ARMword} (indexes : instr.getLsbD 24 = true)
    (down : instr.getLsbD 23 = false) (writes : instr.getLsbD 21 = true) (base : ARMword) :
    blockStart instr base = base - size (listedRegs instr).length ∧
      blockBase instr base = base - size (listedRegs instr).length := by
  rw [blockStart, blockBase, indexes, down, writes, lsmNumRegs_eq]
  exact ⟨rfl, rfl⟩

theorem block_after {instr : ARMword} (indexes : instr.getLsbD 24 = false)
    (up : instr.getLsbD 23 = true) (writes : instr.getLsbD 21 = true) (base : ARMword) :
    blockStart instr base = base ∧
      blockBase instr base = base + size (listedRegs instr).length := by
  rw [blockStart, blockBase, indexes, up, writes, lsmNumRegs_eq]
  exact ⟨rfl, rfl⟩

variable {state : ARMulState Mem} {pc : ARMword} (bus : Bus Mem)
  {plain : Width → ModeNum → ARMword → Mem → Bool} (traps : Traps Mem)
  (cops : Coprocessors Mem) {instr : ARMword} {rn : RegNum}

theorem executeArm_block (word : BlockWord instr rn) :
    executeArm bus traps cops state pc instr = blockTransfer bus state instr := by
  have single : transferOf instr = none := by
    simp [transferOf, extract_upper, word.kind]
  rw [executeArm_always bus traps cops state pc word.always]
  simp only [mainSwitch, single, word.kind]

theorem writeBack_block (word : BlockWord instr rn) (wbBase : ARMword)
    (state : ARMulState Mem) : writeBack instr wbBase state = state.setReg rn wbBase := by
  simp [writeBack, word.writes, word.left, word.notPc]

theorem rawReg_low {file : Registers} {index : Nat} (low : index < 16) :
    rawReg file index = file.reg (BitVec.ofNat 4 index) := by
  rw [rawReg, if_pos low]

variable (ready : ThumbReady state pc) (word : BlockWord instr rn)

include ready word

theorem shows_storeMult (stores : instr.getLsbD 20 = false) {mem : Mem}
    (stored : (busMemory bus plain state.mode).storeWords
      (((listedRegs instr).map (BitVec.ofNat 4)).map state.reg)
      (blockStart instr (state.reg rn)) state.mem = some mem) :
    Shows state (executeArm bus traps cops state pc instr) pc
      ({ machineOf state pc with mem }.set rn (blockBase instr (state.reg rn))).next := by
  have values : (listedRegs instr).map (rawReg state.file) =
      ((listedRegs instr).map (BitVec.ofNat 4)).map state.reg := by
    rw [List.map_map]
    apply List.map_congr_left
    intro index member
    exact rawReg_low (mem_listedRegs_lt member)
  have moved := storeAll_eq bus word.nonempty (blockStart instr (state.reg rn)) state ready.clear
  rw [values, writeBlock_stored stored] at moved
  have within := (within_refl ready.ready pc).withMem mem false 0#32
  rw [executeArm_block bus traps cops word]
  simp only [blockTransfer, word.own, stores, word.left, storeMult, ready.thumb, if_true, moved,
    abortCode, Bool.false_eq_true, if_false, writeBackLate, Bool.false_and,
    writeBack_block word]
  exact (within.setReg word.notPc _).next ready.thumb

theorem loadMult_loaded {words : List ARMword} {mem : Mem}
    (loads : instr.getLsbD 20 = true)
    (loaded : (busMemory bus plain state.mode).loadWords (listedRegs instr).length
      (blockStart instr (state.reg rn)) state.mem = some (words, mem)) :
    let moved : ARMulState Mem :=
      { state with
        file := setListed state.file (listedRegs instr) words
        mem
        abortSig := false
        aborted := 0#32 }
    executeArm bus traps cops state pc instr =
      (if instr.getLsbD 15 then writeR15Branch moved (moved.reg 15#4) else moved).setReg rn
        (blockBase instr (state.reg rn)) := by
  have all := loadAll_eq bus true word.nonempty (blockStart instr (state.reg rn)) state ready.clear
  rw [(readBlock_loaded loaded).1] at all
  rw [executeArm_block bus traps cops word]
  simp only [blockTransfer, word.own, loads, word.left, loadMult, bususedincpcs_v4 ready.isV4, all,
    abortCode, Bool.false_eq_true, if_false, if_true, writeBack_block word]

end Execution

section Formats

variable (tinstr : Halfword)

def pushWord (link : Bool) : ARMword :=
  (if link then 0xe92d4000#32 else 0xe92d0000#32) ||| field tinstr 0 8 0

def popWord (returns : Bool) : ARMword :=
  (if returns then 0xe8bd8000#32 else 0xe8bd0000#32) ||| field tinstr 0 8 0

theorem pushWord_listed (link : Bool) :
    listedRegs (pushWord tinstr link) =
      lowIndices (tinstr.extractLsb' 0 8) ++ if link then [14] else [] := by
  have low : (pushWord tinstr link).extractLsb' 0 8 = tinstr.extractLsb' 0 8 := by
    cases link <;> simp [pushWord, BitVec.extractLsb'_or]
  have high : (pushWord tinstr link).extractLsb' 8 8 = if link then 0x40#8 else 0#8 := by
    cases link <;> simp [pushWord, BitVec.extractLsb'_or]
  rw [listedRegs_eq, low, high]
  cases link <;> rfl

theorem popWord_listed (returns : Bool) :
    listedRegs (popWord tinstr returns) =
      lowIndices (tinstr.extractLsb' 0 8) ++ if returns then [15] else [] := by
  have low : (popWord tinstr returns).extractLsb' 0 8 = tinstr.extractLsb' 0 8 := by
    cases returns <;> simp [popWord, BitVec.extractLsb'_or]
  have high : (popWord tinstr returns).extractLsb' 8 8 = if returns then 0x80#8 else 0#8 := by
    cases returns <;> simp [popWord, BitVec.extractLsb'_or]
  rw [listedRegs_eq, low, high]
  cases returns <;> rfl

theorem thumbBlock_listed :
    listedRegs (thumbBlock tinstr) = lowIndices (tinstr.extractLsb' 0 8) := by
  have low : (thumbBlock tinstr).extractLsb' 0 8 = tinstr.extractLsb' 0 8 := by
    unfold thumbBlock
    split <;> simp [BitVec.extractLsb'_or]
  have high : (thumbBlock tinstr).extractLsb' 8 8 = 0#8 := by
    unfold thumbBlock
    split <;> simp [BitVec.extractLsb'_or]
  rw [listedRegs_eq, low, high]
  exact List.append_nil _

theorem pushWord_word {link : Bool} (nonempty : listedRegs (pushWord tinstr link) ≠ []) :
    BlockWord (pushWord tinstr link) 13#4 := by
  refine ⟨?_, ?_, ?_, ?_, ?_, by decide, nonempty⟩ <;>
    cases link <;> simp [pushWord, lhsReg, BitVec.extractLsb'_or]

theorem popWord_word {returns : Bool} (nonempty : listedRegs (popWord tinstr returns) ≠ []) :
    BlockWord (popWord tinstr returns) 13#4 := by
  refine ⟨?_, ?_, ?_, ?_, ?_, by decide, nonempty⟩ <;>
    cases returns <;> simp [popWord, lhsReg, BitVec.extractLsb'_or]

theorem thumbBlock_word (nonempty : listedRegs (thumbBlock tinstr) ≠ []) :
    BlockWord (thumbBlock tinstr) ((tinstr.extractLsb' 8 3).setWidth 4) := by
  unfold thumbBlock at nonempty ⊢
  refine ⟨?_, ?_, ?_, ?_, ?_, low_ne_pc _, nonempty⟩ <;>
    split <;> simp [lhsReg, BitVec.extractLsb'_or]

theorem thumbStack_push {link : Bool}
    (code : tinstr.extractLsb' 8 4 = if link then 0x5#4 else 0x4#4) :
    thumbStack tinstr = pushWord tinstr link := by
  have load := extract_bit code (show 3 < 4 by decide)
  have last := extract_bit code (show 0 < 4 by decide)
  rw [thumbStack, code, load, last]
  cases link <;> rfl

theorem thumbStack_pop {returns : Bool}
    (code : tinstr.extractLsb' 8 4 = if returns then 0xd#4 else 0xc#4) :
    thumbStack tinstr = popWord tinstr returns := by
  have load := extract_bit code (show 3 < 4 by decide)
  have last := extract_bit code (show 0 < 4 by decide)
  rw [thumbStack, code, load, last]
  cases returns <;> rfl

variable {state : ARMulState Mem} {pc : ARMword} (bus : Bus Mem)
  {plain : Width → ModeNum → ARMword → Mem → Bool} (traps : Traps Mem)
  (cops : Coprocessors Mem) {after : Processor Mem} (ready : ThumbReady state pc)

include ready

theorem shows_push {link : Bool}
    (defined : execPush (busMemory bus plain state.mode) (tinstr.extractLsb' 0 8) link
      (machineOf state pc) = some after) :
    Shows state (executeArm bus traps cops state pc (pushWord tinstr link)) pc after := by
  have numbers : listed (tinstr.extractLsb' 0 8) ++ (if link then [14#4] else []) =
      (listedRegs (pushWord tinstr link)).map (BitVec.ofNat 4) := by
    rw [pushWord_listed, List.map_append, listed_eq]
    cases link <;> rfl
  have bits : (pushWord tinstr link).getLsbD 20 = false ∧
      (pushWord tinstr link).getLsbD 24 = true ∧ (pushWord tinstr link).getLsbD 23 = false ∧
      (pushWord tinstr link).getLsbD 21 = true := by
    cases link <;> simp [pushWord]
  obtain ⟨stores, indexes, down, writes⟩ := bits
  obtain ⟨start, base⟩ := block_before indexes down writes (state.reg 13#4)
  simp only [execPush, numbers, List.length_map] at defined
  split at defined
  · cases defined
  · rename_i some
    have nonempty : listedRegs (pushWord tinstr link) ≠ [] := mt List.map_eq_nil_iff.mpr some
    simp only [Option.bind_eq_bind, Option.bind_eq_some_iff] at defined
    obtain ⟨mem, stored, same⟩ := defined
    cases same
    have shown := @shows_storeMult _ state pc bus plain traps cops _ _ ready
      (pushWord_word tinstr nonempty) stores mem
    rw [start, base] at shown
    exact shown stored

theorem popWord_loaded {returns : Bool} {words : List ARMword} {mem : Mem}
    (nonempty : listedRegs (popWord tinstr returns) ≠ [])
    (loaded : (busMemory bus plain state.mode).loadWords (listedRegs (popWord tinstr returns)).length
      (state.reg 13#4) state.mem = some (words, mem)) :
    let moved : ARMulState Mem :=
      { state with
        file := setListed state.file (listedRegs (popWord tinstr returns)) words
        mem
        abortSig := false
        aborted := 0#32 }
    executeArm bus traps cops state pc (popWord tinstr returns) =
      (if returns then writeR15Branch moved (moved.reg 15#4) else moved).setReg 13#4
        (state.reg 13#4 + size (listedRegs (popWord tinstr returns)).length) := by
  have bits : (popWord tinstr returns).getLsbD 20 = true ∧
      (popWord tinstr returns).getLsbD 24 = false ∧ (popWord tinstr returns).getLsbD 23 = true ∧
      (popWord tinstr returns).getLsbD 21 = true ∧
      (popWord tinstr returns).getLsbD 15 = returns := by
    cases returns <;> simp [popWord]
  obtain ⟨loads, indexes, up, writes, branches⟩ := bits
  obtain ⟨start, base⟩ := block_after indexes up writes (state.reg 13#4)
  rw [← start] at loaded
  have executed :=
    loadMult_loaded bus traps cops ready (popWord_word tinstr nonempty) loads loaded
  rw [branches, base] at executed
  exact executed

theorem shows_pop {returns : Bool}
    (defined : execPop (busMemory bus plain state.mode) (tinstr.extractLsb' 0 8) returns
      (machineOf state pc) = some after) :
    Shows state (executeArm bus traps cops state pc (popWord tinstr returns)) pc after := by
  have indices := popWord_listed tinstr returns
  have count : (listed (tinstr.extractLsb' 0 8)).length + returns.toNat =
      (listedRegs (popWord tinstr returns)).length := by
    rw [indices, List.length_append, listed_eq, List.length_map]
    cases returns <;> rfl
  have low : ∀ index ∈ lowIndices (tinstr.extractLsb' 0 8), index < 15 :=
    fun index member => (lowIndices_lt member).trans (by decide)
  simp only [execPop, count] at defined
  split at defined
  · cases defined
  · rename_i some
    have nonempty : listedRegs (popWord tinstr returns) ≠ [] :=
      mt List.length_eq_zero_iff.mpr some
    simp only [Option.bind_eq_bind, Option.bind_eq_some_iff] at defined
    obtain ⟨⟨words, mem⟩, loaded, popped⟩ := defined
    have within := (within_refl ready.ready pc).withMem mem false 0#32
    rw [popWord_loaded tinstr bus traps cops ready nonempty loaded]
    have length := (readBlock_loaded loaded).2
    generalize total : size (listedRegs (popWord tinstr returns)).length = bytes at popped ⊢
    cases returns with
    | false =>
        cases popped
        rw [show listedRegs (popWord tinstr false) = _ from indices.trans (List.append_nil _)]
        have based := (within.setListed low words).setReg (show 13#4 ≠ 15#4 by decide)
          (state.reg 13#4 + bytes)
        have shown := based.next ((Processor.setAll_thumb _ _ _).trans ready.thumb)
        rw [Processor.set_pc, Processor.setAll_pc] at shown
        exact shown
    | true =>
        have last : listedRegs (popWord tinstr true) =
          lowIndices (tinstr.extractLsb' 0 8) ++ [15] := indices
        rw [last, List.length_append] at length
        obtain rfl | ⟨init, target, rfl⟩ := List.eq_nil_or_concat' words
        · simp at length
        · have same : init.length = (lowIndices (tinstr.extractLsb' 0 8)).length := by
            simpa using length
          simp only [List.getLast?_append, List.getLast?_singleton, Option.some_or,
            Option.bind_some, if_true, Processor.exchange_set, Option.map_eq_some_iff] at popped
          obtain ⟨branched, exchanged, rfl⟩ := popped
          rw [Processor.setAll_append _ _ (by rw [listed_eq, List.length_map, same])] at exchanged
          rw [last, setListed_append _ _ _ same]
          have loadedPc := (within.setListed low init).setPc target
          have shown := (loadedPc.exchange target pc exchanged).setReg
            (show 13#4 ≠ 15#4 by decide) (state.reg 13#4 + bytes)
          exact shown

omit ready in
theorem thumbBlock_after :
    (thumbBlock tinstr).getLsbD 24 = false ∧ (thumbBlock tinstr).getLsbD 23 = true ∧
      (thumbBlock tinstr).getLsbD 21 = true ∧ (thumbBlock tinstr).getLsbD 15 = false ∧
      (thumbBlock tinstr).getLsbD 20 = tinstr.getLsbD 11 := by
  unfold thumbBlock
  cases tinstr.getLsbD 11 <;> simp

theorem shows_stmia (stores : tinstr.getLsbD 11 = false)
    (defined : execStmia (busMemory bus plain state.mode) (tinstr.extractLsb' 8 3)
      (tinstr.extractLsb' 0 8) (machineOf state pc) = some after) :
    Shows state (executeArm bus traps cops state pc (thumbBlock tinstr)) pc after := by
  have indices := thumbBlock_listed tinstr
  obtain ⟨indexes, up, writes, -, kind⟩ := thumbBlock_after tinstr
  obtain ⟨start, base⟩ := block_after indexes up writes
    (state.reg ((tinstr.extractLsb' 8 3).setWidth 4))
  simp only [execStmia, listed_eq, ← indices, List.length_map] at defined
  split at defined
  · cases defined
  · rename_i fine
    rw [not_or, List.map_eq_nil_iff] at fine
    simp only [Option.bind_eq_bind, Option.bind_eq_some_iff] at defined
    obtain ⟨mem, stored, same⟩ := defined
    cases same
    have shown := @shows_storeMult _ state pc bus plain traps cops _ _ ready
      (thumbBlock_word tinstr fine.1) (kind.trans stores) mem
    rw [start, base] at shown
    exact shown stored

theorem shows_ldmia_written (loads : tinstr.getLsbD 11 = true)
    (defined : execLdmia (busMemory bus plain state.mode) (tinstr.extractLsb' 8 3)
      (tinstr.extractLsb' 0 8) (machineOf state pc) = some after) :
    Shows state (executeArm bus traps cops state pc (thumbBlock tinstr)) pc
      (after.set ((tinstr.extractLsb' 8 3).setWidth 4)
        ((machineOf state pc).low (tinstr.extractLsb' 8 3) +
          size (listed (tinstr.extractLsb' 0 8)).length)) := by
  have indices := thumbBlock_listed tinstr
  obtain ⟨indexes, up, writes, stays, kind⟩ := thumbBlock_after tinstr
  obtain ⟨start, base⟩ := block_after indexes up writes
    (state.reg ((tinstr.extractLsb' 8 3).setWidth 4))
  have low : ∀ index ∈ listedRegs (thumbBlock tinstr), index < 15 := by
    intro index member
    rw [indices] at member
    exact (lowIndices_lt member).trans (by decide)
  rw [listed_eq, ← indices, List.length_map]
  simp only [execLdmia, listed_eq, ← indices, List.length_map] at defined
  split at defined
  · cases defined
  · rename_i some
    simp only [Option.bind_eq_bind, Option.bind_eq_some_iff] at defined
    obtain ⟨⟨words, mem⟩, loaded, same⟩ := defined
    cases same
    have executed := @loadMult_loaded _ state pc bus plain traps cops _ _ ready
      (thumbBlock_word tinstr (mt List.map_eq_nil_iff.mpr some)) words mem (kind.trans loads)
    rw [start, base, stays] at executed
    have within := (within_refl ready.ready pc).withMem mem false 0#32
    have based := (within.setListed low words).setReg
      (low_ne_pc (tinstr.extractLsb' 8 3))
      (state.reg ((tinstr.extractLsb' 8 3).setWidth 4) +
        size (listedRegs (thumbBlock tinstr)).length)
    have shown := based.next ((Processor.setAll_thumb _ _ _).trans ready.thumb)
    rw [Processor.set_pc, Processor.setAll_pc, ← Processor.setAll_set] at shown
    rw [executed loaded]
    exact shown

theorem shows_ldmia (loads : tinstr.getLsbD 11 = true)
    (apart : (tinstr.extractLsb' 8 3).setWidth 4 ∉ listed (tinstr.extractLsb' 0 8))
    (defined : execLdmia (busMemory bus plain state.mode) (tinstr.extractLsb' 8 3)
      (tinstr.extractLsb' 0 8) (machineOf state pc) = some after) :
    Shows state (executeArm bus traps cops state pc (thumbBlock tinstr)) pc after := by
  have shown := shows_ldmia_written tinstr bus traps cops ready loads defined
  rw [← execLdmia_base apart defined, Processor.set_self] at shown
  exact shown

end Formats

end SkyeyeStarlet
