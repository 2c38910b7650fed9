import SkyeyeStarlet.Blocks
import SkyeyeStarlet.FaultReports

/-!
The fault registers after a whole data instruction.  A block transfer stops at its first fault;
the doubleword transfers and the swaps go on to their second access.
-/

namespace SkyeyeStarlet

variable {Mem : Type}

section Accesses

def transferAddress (offset : ARMulState Mem → ARMword → ARMword) (state : ARMulState Mem)
    (instr : ARMword) : ARMword :=
  if instr.getLsbD 24 then indexed offset state instr (lhsValue state instr)
  else lhsValue state instr

def transferData (state : ARMulState Mem) (instr : ARMword) : Option ARMword :=
  if instr.getLsbD 20 then none else some (storedWord state instr)

def transferAccesses (state : ARMulState Mem) (instr : ARMword) : Transfer → List DataAccess
  | .single => [⟨singleSize instr, transferAddress singleOffset state instr,
      transferData state instr⟩]
  | .half => [⟨halfSize instr, transferAddress getLS7RHS state instr, transferData state instr⟩]
  | .loadDouble =>
      let address := doubleAddress (bususedincpcs state) instr
      if address.accepted && destReg instr != 14#4 then
        [⟨.word, address.addr, none⟩, ⟨.word, address.addr + 4#32, none⟩]
      else []
  | .storeDouble =>
      let started := bususedincpcs state
      let address := doubleAddress started instr
      if address.accepted && lhsReg instr != 15#4 then
        [⟨.word, address.addr, some (started.reg (destReg instr))⟩,
          ⟨.word, address.addr + 4#32, some (started.reg (destReg instr + 1#4))⟩]
      else []
  | .swapWord =>
      [⟨.word, lhsValue state instr, none⟩,
        ⟨.word, lhsValue state instr, some ((bususedincpcs state).reg (rhsReg instr))⟩]
  | .swapByte =>
      [⟨.byte, lhsValue state instr, none⟩,
        ⟨.byte, lhsValue state instr, some ((bususedincpcs state).reg (rhsReg instr))⟩]

def consecutive (address : ARMword) : List (Option ARMword) → List DataAccess
  | [] => []
  | data :: rest => ⟨.word, address, data⟩ :: consecutive (address + 4#32) rest

/-- The registers that a block transfer moves: with an empty list, one that the search for the
first register ran on to. -/
def movedRegs (instr : ARMword) : List Nat :=
  firstListed instr :: laterListed instr

def sourceFile (state : ARMulState Mem) (instr : ARMword) : Registers :=
  if instr.getLsbD 22 then (toUserBank (bususedincpcn state)).file
  else (if state.tFlag then state else bususedincpcn state).file

def blockData (state : ARMulState Mem) (instr : ARMword) : List (Option ARMword) :=
  if instr.getLsbD 20 then (movedRegs instr).map fun _ => none
  else (movedRegs instr).map fun index => some (rawReg (sourceFile state instr) index)

def blockAccesses (state : ARMulState Mem) (instr : ARMword) : List DataAccess :=
  consecutive (blockStart instr (state.reg (lhsReg instr))) (blockData state instr)

inductive DataForm where
  | transfer (kind : Transfer)
  | block
  deriving DecidableEq, Repr

def DataForm.accesses (state : ARMulState Mem) (instr : ARMword) : DataForm → List DataAccess
  | .transfer kind => transferAccesses state instr kind
  | .block => blockAccesses state instr

def DataForm.run (bus : Bus Mem) (traps : Traps Mem) (state : ARMulState Mem) (instr : ARMword) :
    DataForm → ARMulState Mem
  | .transfer kind => dataTransfer bus traps state instr kind
  | .block => blockTransfer bus state instr

end Accesses

section Singles

variable {bus : Bus Mem}

theorem armulRead_mem (size : AccessSize) (state : ARMulState Mem) (address : ARMword) :
    (armulRead bus size state address).1.mem =
      bus.transfer state.mode ⟨size, address, none⟩ state.mem := by
  unfold armulRead Bus.transfer Bus.access
  dsimp only
  split <;> rfl

theorem armulWrite_mem (size : AccessSize) (state : ARMulState Mem) (address data : ARMword) :
    (armulWrite bus size state address data).mem =
      bus.transfer state.mode ⟨size, address, some data⟩ state.mem := by
  unfold armulWrite Bus.transfer Bus.access
  dsimp only
  split <;> rfl

theorem armulRead_mode (size : AccessSize) (state : ARMulState Mem) (address : ARMword) :
    (armulRead bus size state address).1.mode = state.mode := by
  unfold armulRead
  dsimp only
  split <;> rfl

theorem armulWrite_kept (size : AccessSize) (state : ARMulState Mem) (address data : ARMword) :
    (armulWrite bus size state address data).mode = state.mode ∧
      (armulWrite bus size state address data).reg = state.reg := by
  unfold armulWrite
  dsimp only
  split <;> exact ⟨rfl, rfl⟩

theorem bususedincpcs_kept (state : ARMulState Mem) :
    (bususedincpcs state).mode = state.mode ∧ (bususedincpcs state).mem = state.mem := by
  unfold bususedincpcs
  split <;> exact ⟨rfl, rfl⟩

theorem takeAbort_mem (state : ARMulState Mem) : (takeAbort bus state).mem = state.mem := by
  exact (armulAbort_outside _ _ _).mem

theorem accessOutcome_mem (mode : ModeNum) (mem : Mem) (instr address data : ARMword) :
    (accessOutcome bus mode mem instr address data).1 =
      bus.transfer mode
        ⟨singleSize instr, address, if instr.getLsbD 20 then none else some data⟩ mem := by
  unfold accessOutcome Bus.transfer Bus.access
  split
  · dsimp only
    split <;> rfl
  · dsimp only
    split <;> rfl

theorem singleAccess_mem (state : ARMulState Mem) (instr address : ARMword) :
    (singleAccess bus state instr address).1.mem =
      bus.transfer state.mode ⟨singleSize instr, address, transferData state instr⟩ state.mem := by
  have outcome := congrArg Prod.fst (@singleAccess_busOutcome _ bus state instr address)
  exact outcome.trans (accessOutcome_mem state.mode state.mem instr address _)

theorem halfAccess_mem (state : ARMulState Mem) (instr address : ARMword) :
    (halfAccess bus state instr address).1.mem =
      bus.transfer state.mode ⟨halfSize instr, address, transferData state instr⟩ state.mem := by
  have loads (size : AccessSize) (bits : Nat) (signextend : Bool) :
      (loadData bus size
        (fun read dest => writeDest read instr (signExtendFrom bits signextend dest)) state instr
        address).1.mem = bus.transfer state.mode ⟨size, address, none⟩ state.mem := by
    have outcome := congrArg Prod.fst (@loadData_busOutcome _ bus size
      (fun read dest => writeDest read instr (signExtendFrom bits signextend dest))
      (fun _ _ => (writeDest_busOutcome _ _ _).1) state instr address)
    refine outcome.trans ((armulRead_mem _ _ _).trans ?_)
    rw [(bususedincpcs_kept state).1, (bususedincpcs_kept state).2]
  unfold halfAccess halfSize transferData
  cases load : instr.getLsbD 20 with
  | true =>
      cases signed : instr.getLsbD 6 <;> cases half : instr.getLsbD 5
      · exact loads .halfword 16 false
      · exact loads .halfword 16 false
      · exact loads .byte 8 true
      · exact loads .halfword 16 true
  | false =>
      have outcome := congrArg Prod.fst (@storeData_busOutcome _ bus .halfword state instr address)
      refine outcome.trans ((armulWrite_mem _ _ _ _).trans ?_)
      rw [bususedincpcn_mode, bususedincpcn_mem]
      rfl

theorem indexedTransfer_mem (offset : ARMulState Mem → ARMword → ARMword)
    (access : ARMulState Mem → ARMword → ARMword → ARMulState Mem × Bool) (state : ARMulState Mem)
    (instr : ARMword) :
    (indexedTransfer offset access state instr).mem =
      (access state instr (transferAddress offset state instr)).1.mem := by
  unfold indexedTransfer transferAddress
  dsimp only
  split
  · split <;> rfl
  · split <;> rfl

theorem singleTransfer_mem (state : ARMulState Mem) (instr : ARMword) :
    (singleTransfer bus state instr).mem =
      bus.transfer state.mode ⟨singleSize instr, transferAddress singleOffset state instr,
        transferData state instr⟩ state.mem := by
  unfold singleTransfer
  split
  · have stored : transferData { state with ntransSig := false } instr =
        transferData state instr := by
      unfold transferData storedWord bususedincpcn
      dsimp only
      split
      · rfl
      · split <;> rfl
    have moved := (indexedTransfer_mem singleOffset (singleAccess bus)
      { state with ntransSig := false } instr).trans (singleAccess_mem _ instr _)
    rw [stored] at moved
    exact moved
  · exact (indexedTransfer_mem _ _ state instr).trans (singleAccess_mem state instr _)

theorem halfTransfer_mem (state : ARMulState Mem) (instr : ARMword) :
    (halfTransfer bus state instr).mem =
      bus.transfer state.mode ⟨halfSize instr, transferAddress getLS7RHS state instr,
        transferData state instr⟩ state.mem := by
  exact (indexedTransfer_mem _ _ state instr).trans (halfAccess_mem state instr _)

end Singles

section Pairs

variable {bus : Bus Mem} {traps : Traps Mem}

theorem doubleWriteBack_mem (state : ARMulState Mem) (instr : ARMword) (address : DoubleAddress) :
    (doubleWriteBack state instr address).mem = state.mem := by
  unfold doubleWriteBack
  split <;> rfl

theorem readPair_mem (state : ARMulState Mem) (address : ARMword) :
    (armulRead bus .word (armulRead bus .word (bususedincpcs state) address).1
        (address + 4#32)).1.mem =
      bus.transfer state.mode ⟨.word, address + 4#32, none⟩
        (bus.transfer state.mode ⟨.word, address, none⟩ state.mem) := by
  rw [armulRead_mem, armulRead_mode, armulRead_mem, (bususedincpcs_kept state).1,
    (bususedincpcs_kept state).2]

theorem writePair_mem (state : ARMulState Mem) (address data next : ARMword) :
    (armulWrite bus .word (armulWrite bus .word (bususedincpcs state) address data)
        (address + 4#32) next).mem =
      bus.transfer state.mode ⟨.word, address + 4#32, some next⟩
        (bus.transfer state.mode ⟨.word, address, some data⟩ state.mem) := by
  have first := @armulWrite_mem _ bus .word (bususedincpcs state) address data
  rw [(bususedincpcs_kept state).1, (bususedincpcs_kept state).2] at first
  rw [armulWrite_mem, (armulWrite_kept _ _ _ _).1, first, (bususedincpcs_kept state).1]

theorem handleLoadDouble_mem (state : ARMulState Mem) {instr : ARMword} {first second : DataAccess}
    (accesses : transferAccesses state instr .loadDouble = [first, second]) :
    (handleLoadDouble bus traps state instr).mem =
      bus.transfer state.mode second (bus.transfer state.mode first state.mem) := by
  unfold transferAccesses at accesses
  unfold handleLoadDouble
  dsimp only at accesses ⊢
  split at accesses
  · rename_i accepted
    injection accesses with one rest
    injection rest with two
    rw [if_pos accepted, ← one, ← two, ← readPair_mem]
    split
    · exact doubleWriteBack_mem _ _ _
    · exact takeAbort_mem _
  · cases accesses

theorem handleStoreDouble_mem (state : ARMulState Mem) {instr : ARMword}
    {first second : DataAccess}
    (accesses : transferAccesses state instr .storeDouble = [first, second]) :
    (handleStoreDouble bus traps state instr).mem =
      bus.transfer state.mode second (bus.transfer state.mode first state.mem) := by
  unfold transferAccesses at accesses
  unfold handleStoreDouble
  dsimp only at accesses ⊢
  split at accesses
  · rename_i accepted
    injection accesses with one rest
    injection rest with two
    rw [if_pos accepted, ← one, ← two, (armulWrite_kept _ _ _ _).2, ← writePair_mem]
    split
    · exact doubleWriteBack_mem _ _ _
    · exact takeAbort_mem _
  · cases accesses

theorem swapEnd_mem (state : ARMulState Mem) : (swapEnd bus state).mem = state.mem := by
  unfold swapEnd
  split
  · exact takeAbort_mem state
  · rfl

theorem swapWord_mem (state : ARMulState Mem) (instr : ARMword) :
    (swapWord bus state instr).mem =
      (bus.access state.mode
        ⟨.word, lhsValue state instr, some ((bususedincpcs state).reg (rhsReg instr))⟩
        (bus.transfer state.mode ⟨.word, lhsValue state instr, none⟩ state.mem)).mem := by
  unfold swapWord
  dsimp only
  rw [swapEnd_mem]
  change (bus.write .word (armulRead bus .word (bususedincpcs state) (lhsValue state instr)).1.mode
    _ _ (armulRead bus .word (bususedincpcs state) (lhsValue state instr)).1.mem).mem = _
  rw [armulRead_mode, armulRead_mem, (bususedincpcs_kept state).1, (bususedincpcs_kept state).2]
  rfl

theorem swapByte_mem (state : ARMulState Mem) (instr : ARMword) :
    (swapByte bus state instr).mem =
      bus.transfer state.mode
        ⟨.byte, lhsValue state instr, some ((bususedincpcs state).reg (rhsReg instr))⟩
        (bus.transfer state.mode ⟨.byte, lhsValue state instr, none⟩ state.mem) := by
  unfold swapByte
  dsimp only
  rw [swapEnd_mem]
  change (armulWrite bus .byte (armulRead bus .byte (bususedincpcs state)
    (lhsValue state instr)).1 (lhsValue state instr)
      ((bususedincpcs state).reg (rhsReg instr))).mem = _
  rw [armulWrite_mem, armulRead_mode, armulRead_mem, (bususedincpcs_kept state).1,
    (bususedincpcs_kept state).2]

end Pairs

section Blocks

variable {bus : Bus Mem}

theorem readBlock_mem (mode : ModeNum) (list : List Nat) (address : ARMword) (mem : Mem) :
    (readBlock bus mode list.length address mem).mem =
      bus.transfers mode (consecutive address (list.map fun _ => none)) mem := by
  induction list generalizing address mem with
  | nil => rfl
  | cons index rest ih =>
      rw [List.length_cons, readBlock, List.map_cons, consecutive, Bus.transfers, Bus.access]
      dsimp only
      split
      · exact ih _ _
      · rfl

theorem writeBlock_mem (mode : ModeNum) (words : List ARMword) (address : ARMword) (mem : Mem) :
    (writeBlock bus mode words address mem).mem =
      bus.transfers mode (consecutive address (words.map some)) mem := by
  induction words generalizing address mem with
  | nil => rfl
  | cons word rest ih =>
      rw [writeBlock, List.map_cons, consecutive, Bus.transfers, Bus.access]
      dsimp only
      split
      · exact ih _ _
      · rfl

/-- A state from which the same transfers are made: no fault is pending, and the mode and the
memory are those of the instruction. -/
structure Begins (state started : ARMulState Mem) : Prop where
  mode : started.mode = state.mode
  mem : started.mem = state.mem
  clear : started.aborted = 0#32

theorem loadAll_mem {state started : ARMulState Mem} (begins : Begins state started)
    (sticky : Bool) (instr address : ARMword) :
    (transferAll (loadListed bus sticky) (loadListed bus true) instr address started).mem =
      bus.transfers state.mode (consecutive address ((movedRegs instr).map fun _ => none))
        state.mem := by
  have alike : loadListed bus sticky started (firstListed instr) address =
      loadListed bus true started (firstListed instr) address := by
    rw [loadListed_eq bus sticky begins.clear, loadListed_eq bus true begins.clear]
  have listed : transferAll (loadListed bus sticky) (loadListed bus true) instr address started =
      transferList (loadListed bus true) (movedRegs instr) address started := by
    simp only [transferAll, movedRegs, transferList, alike, transferRest_eq]
  rw [listed, loadList_eq bus _ address started begins.clear, ← begins.mode, ← begins.mem]
  exact readBlock_mem started.mode (movedRegs instr) address started.mem

theorem storeAll_mem {state started : ARMulState Mem} (begins : Begins state started)
    (instr address : ARMword) :
    (transferAll (storeListed bus) (storeListed bus) instr address started).mem =
      bus.transfers state.mode (consecutive address
        ((movedRegs instr).map fun index => some (rawReg started.file index))) state.mem := by
  have listed : transferAll (storeListed bus) (storeListed bus) instr address started =
      transferList (storeListed bus) (movedRegs instr) address started := by
    simp only [transferAll, movedRegs, transferList, transferRest_eq]
  rw [listed, storeList_eq bus _ address started begins.clear, ← begins.mode, ← begins.mem]
  refine (writeBlock_mem started.mode _ address started.mem).trans ?_
  rw [List.map_map]
  rfl

theorem writeBack_mem (instr wbBase : ARMword) (state : ARMulState Mem) :
    (writeBack instr wbBase state).mem = state.mem := by
  unfold writeBack
  split <;> rfl

theorem writeBackLate_mem (instr wbBase : ARMword) (state : ARMulState Mem) :
    (writeBackLate instr wbBase state).mem = state.mem := by
  unfold writeBackLate
  split
  · rfl
  · exact writeBack_mem instr wbBase state

theorem orAbort_mem (state : ARMulState Mem) :
    (if state.aborted = 0#32 then state else takeAbort bus state).mem = state.mem := by
  split
  · rfl
  · exact takeAbort_mem state

theorem toOwnBank_mem (state : ARMulState Mem) : (toOwnBank state).mem = state.mem := by
  rw [toOwnBank_eq]

theorem returnFromList_mem (state : ARMulState Mem) : (returnFromList state).mem = state.mem := by
  unfold returnFromList
  dsimp only
  split
  · rfl
  · exact (armulCPSRAltered_outside _).mem

variable {state : ARMulState Mem} (clear : state.aborted = 0#32)

include clear

theorem begins_bususedincpcs : Begins state (bususedincpcs state) := by
  unfold bususedincpcs
  split <;> exact ⟨rfl, rfl, clear⟩

theorem begins_bususedincpcn : Begins state (bususedincpcn state) := by
  unfold bususedincpcn
  split <;> exact ⟨rfl, rfl, clear⟩

omit clear in
theorem begins_toUserBank {started : ARMulState Mem} (begins : Begins state started) :
    Begins state (toUserBank started) := by
  rw [toUserBank_eq]
  exact ⟨begins.mode, begins.mem, begins.clear⟩

variable (instr address wbBase : ARMword)

theorem loadMult_mem :
    (loadMult bus state instr address wbBase).mem =
      bus.transfers state.mode (consecutive address ((movedRegs instr).map fun _ => none))
        state.mem := by
  rw [← loadAll_mem (begins_bususedincpcs clear) true]
  unfold loadMult
  dsimp only
  split
  · rw [writeBack_mem]
    split <;> rfl
  · exact takeAbort_mem _

theorem loadSMult_mem :
    (loadSMult bus state instr address wbBase).mem =
      bus.transfers state.mode (consecutive address ((movedRegs instr).map fun _ => none))
        state.mem := by
  have based : ∀ loaded : ARMulState Mem,
      (if loaded.aborted = 0#32 then writeBack instr wbBase loaded
        else takeAbort bus (writeBackLate instr wbBase loaded)).mem = loaded.mem := by
    intro loaded
    split
    · exact writeBack_mem _ _ _
    · rw [takeAbort_mem, writeBackLate_mem]
  have returned : ∀ (returns : Bool) (ended : ARMulState Mem),
      (if returns then returnFromList ended else ended).mem = ended.mem := by
    intro returns ended
    cases returns with
    | true => exact returnFromList_mem ended
    | false => rfl
  unfold loadSMult
  dsimp only
  cases instr.getLsbD 15 with
  | true =>
      rw [if_pos rfl, if_pos rfl, returned, based]
      exact loadAll_mem (begins_bususedincpcs clear) false instr address
  | false =>
      rw [if_neg Bool.false_ne_true, if_neg Bool.false_ne_true, toOwnBank_mem, returned, based]
      exact loadAll_mem (begins_toUserBank (begins_bususedincpcs clear)) false instr address

theorem storeMult_mem :
    (storeMult bus state instr address wbBase).mem =
      bus.transfers state.mode (consecutive address ((movedRegs instr).map fun index =>
        some (rawReg (if state.tFlag then state else bususedincpcn state).file index)))
        state.mem := by
  have begins : Begins state (if state.tFlag then state else bususedincpcn state) := by
    split
    · exact ⟨rfl, rfl, clear⟩
    · exact begins_bususedincpcn clear
  rw [← storeAll_mem begins]
  unfold storeMult
  dsimp only
  rw [orAbort_mem, writeBackLate_mem]

theorem storeSMult_mem :
    (storeSMult bus state instr address wbBase).mem =
      bus.transfers state.mode (consecutive address ((movedRegs instr).map fun index =>
        some (rawReg (toUserBank (bususedincpcn state)).file index))) state.mem := by
  have restored : ∀ stored : ARMulState Mem,
      (if stored.aborted = 0#32 then toOwnBank stored else stored).mem = stored.mem := by
    intro stored
    split
    · exact toOwnBank_mem stored
    · rfl
  rw [← storeAll_mem (begins_toUserBank (begins_bususedincpcn clear))]
  unfold storeSMult
  dsimp only
  rw [orAbort_mem, writeBackLate_mem, restored]

theorem blockTransfer_mem :
    (blockTransfer bus state instr).mem =
      bus.transfers state.mode (blockAccesses state instr) state.mem := by
  unfold blockTransfer blockAccesses blockData sourceFile
  dsimp only
  cases instr.getLsbD 22 <;> cases instr.getLsbD 20
  · exact storeMult_mem clear instr _ _
  · exact loadMult_mem clear instr _ _
  · exact storeSMult_mem clear instr _ _
  · exact loadSMult_mem clear instr _ _

end Blocks

section Result

variable (signals : Signals) {state : ARMulState Attached} {instr : ARMword}

def secondFailing (state : ARMulState Attached) (first second : DataAccess) : Option FailedCheck :=
  firstFailing signals ((mmuBus signals).transfer state.mode first state.mem).memory state.mode
    second

/-- A fault that the registers do not show: the store of a word swap is not recorded, and the
second word of a doubleword transfer is recorded after the first. -/
def HiddenIn (state : ARMulState Attached) : Transfer → List DataAccess → Prop
  | .swapWord, [read, write] =>
      firstFailing signals state.mem.memory state.mode read = none ∧
        secondFailing signals state read write ≠ none
  | .loadDouble, [first, second] =>
      firstFailing signals state.mem.memory state.mode first ≠ none ∧
        secondFailing signals state first second ≠ none
  | .storeDouble, [first, second] =>
      firstFailing signals state.mem.memory state.mode first ≠ none ∧
        secondFailing signals state first second ≠ none
  | _, _ => False

def Hidden (state : ARMulState Attached) (instr : ARMword) : DataForm → Prop
  | .transfer kind => HiddenIn signals state kind (transferAccesses state instr kind)
  | .block => False

theorem pair_tells {first second : DataAccess}
    (shown : ¬(firstFailing signals state.mem.memory state.mode first ≠ none ∧
      secondFailing signals state first second ≠ none)) :
    Tells (firstFault signals state.mode [first, second] state.mem) state.mem.memory.mmu
      ((mmuBus signals).transfer state.mode second
        ((mmuBus signals).transfer state.mode first state.mem)).memory.mmu := by
  apply both_tell
  intro check failed
  left
  by_contra hidden
  exact shown ⟨by simp [failed], hidden⟩

theorem doubleAccesses {kind : Transfer} (double : kind = .loadDouble ∨ kind = .storeDouble)
    (made : transferAccesses state instr kind ≠ []) :
    ∃ first second, transferAccesses state instr kind = [first, second] := by
  rcases double with rfl | rfl
  · unfold transferAccesses at made ⊢
    dsimp only at made ⊢
    split
    · exact ⟨_, _, rfl⟩
    · rename_i refused
      rw [if_neg refused] at made
      exact absurd rfl made
  · unfold transferAccesses at made ⊢
    dsimp only at made ⊢
    split
    · exact ⟨_, _, rfl⟩
    · rename_i refused
      rw [if_neg refused] at made
      exact absurd rfl made

theorem swapWord_tells
    (shown : ¬HiddenIn signals state .swapWord (transferAccesses state instr .swapWord)) :
    Tells (firstFault signals state.mode (transferAccesses state instr .swapWord) state.mem)
      state.mem.memory.mmu (swapWord (mmuBus signals) state instr).mem.memory.mmu := by
  rw [swapWord_mem]
  unfold transferAccesses at shown ⊢
  unfold HiddenIn at shown
  dsimp only at shown ⊢
  rw [firstFault]
  cases failed : firstFailing signals state.mem.memory state.mode
      ⟨.word, lhsValue state instr, none⟩ with
  | some check =>
      exact (transfer_told signals state.mode failed _).of_same (access_sameRegisters ..)
  | none =>
      rw [failed] at shown
      have passed : secondFailing signals state ⟨.word, lhsValue state instr, none⟩
          ⟨.word, lhsValue state instr, some ((bususedincpcs state).reg (rhsReg instr))⟩ =
            none := by
        by_contra hidden
        exact shown ⟨rfl, hidden⟩
      unfold secondFailing at passed
      rw [transfer_passed signals state.mode failed] at passed ⊢
      dsimp only
      rw [firstFault, passed]
      have same := (access_sameRegisters signals state.mode ⟨.word, lhsValue state instr, none⟩
        state.mem).trans (access_sameRegisters signals state.mode
          ⟨.word, lhsValue state instr, some ((bususedincpcs state).reg (rhsReg instr))⟩ _)
      exact ⟨same.faultStatus, same.faultAddress⟩

theorem transfer_form_tells (traps : Traps Attached) (kind : Transfer)
    (made : transferAccesses state instr kind ≠ [])
    (shown : ¬HiddenIn signals state kind (transferAccesses state instr kind)) :
    Tells (firstFault signals state.mode (transferAccesses state instr kind) state.mem)
      state.mem.memory.mmu
      (dataTransfer (mmuBus signals) traps state instr kind).mem.memory.mmu := by
  cases kind with
  | single =>
      change Tells _ _ (singleTransfer (mmuBus signals) state instr).mem.memory.mmu
      rw [singleTransfer_mem]
      exact transfer_tells ..
  | half =>
      change Tells _ _ (halfTransfer (mmuBus signals) state instr).mem.memory.mmu
      rw [halfTransfer_mem]
      exact transfer_tells ..
  | loadDouble =>
      obtain ⟨first, second, accesses⟩ := doubleAccesses (.inl rfl) made
      change Tells _ _ (handleLoadDouble (mmuBus signals) traps state instr).mem.memory.mmu
      rw [handleLoadDouble_mem state accesses]
      rw [accesses] at shown ⊢
      exact pair_tells signals shown
  | storeDouble =>
      obtain ⟨first, second, accesses⟩ := doubleAccesses (.inr rfl) made
      change Tells _ _ (handleStoreDouble (mmuBus signals) traps state instr).mem.memory.mmu
      rw [handleStoreDouble_mem state accesses]
      rw [accesses] at shown ⊢
      exact pair_tells signals shown
  | swapWord => exact swapWord_tells signals shown
  | swapByte =>
      change Tells _ _ (swapByte (mmuBus signals) state instr).mem.memory.mmu
      rw [swapByte_mem]
      apply both_tell
      intro check failed
      exact .inr ⟨firstFailing_again signals state.mode failed, rfl⟩

/-- After a data instruction, and after each access of the core, the fault registers tell of the
transfer that failed first. -/
theorem fault_registers_tell (signals : Signals) (state : ARMulState Attached) :
    (∀ size address,
      Tells (firstFault signals state.mode [⟨size, address, none⟩] state.mem) state.mem.memory.mmu
        (armulRead (mmuBus signals) size state address).1.mem.memory.mmu) ∧
    (∀ size address data,
      Tells (firstFault signals state.mode [⟨size, address, some data⟩] state.mem)
        state.mem.memory.mmu (armulWrite (mmuBus signals) size state address data).mem.memory.mmu) ∧
    ∀ (traps : Traps Attached) (instr : ARMword) (form : DataForm), state.aborted = 0#32 →
      form.accesses state instr ≠ [] → ¬Hidden signals state instr form →
      Tells (firstFault signals state.mode (form.accesses state instr) state.mem)
        state.mem.memory.mmu (form.run (mmuBus signals) traps state instr).mem.memory.mmu := by
  refine ⟨fun size address => ?_, fun size address data => ?_,
    fun traps instr form clear made shown => ?_⟩
  · rw [armulRead_mem]
    exact transfer_tells ..
  · rw [armulWrite_mem]
    exact transfer_tells ..
  · cases form with
    | transfer kind => exact transfer_form_tells signals traps kind made shown
    | block =>
        change Tells _ _ (blockTransfer (mmuBus signals) state instr).mem.memory.mmu
        rw [blockTransfer_mem clear]
        exact transfers_tell ..

def systemEntry : TlbEntry :=
  maskedEntry 0#32 0x402#32 0x400#32 0#32 .tlbSection

/-- `ldmia r1, {r0, r2}` of User mode at a section of the system. -/
theorem fault_registers_tell_permission :
    let signals : Signals := ⟨true, false, 0x41069265#32⟩
    let state := coreAt user32mode false 0#32 (⟨systemSection, fun _ => 0#32⟩ : Attached)
    let traps : Traps Attached := { undfTrap := fun state _ => (state, true) }
    firstFault signals state.mode (blockAccesses state 0xe8910005#32) state.mem =
        some (.permission systemEntry, 0#32) ∧
      Told (.permission systemEntry) 0#32 state.mem.memory.mmu
        (DataForm.block.run (mmuBus signals) traps state 0xe8910005#32).mem.memory.mmu := by
  intro signals state traps
  have first : firstFault signals state.mode (DataForm.block.accesses state 0xe8910005#32)
      state.mem = some (.permission systemEntry, 0#32) := by
    decide +kernel
  have tells := (fault_registers_tell signals state).2.2 traps 0xe8910005#32 .block rfl
    (by decide +kernel) not_false
  rw [first] at tells
  exact ⟨first, tells⟩

/-- The registers with the code of the check and the address that the process maps. -/
structure ToldExactly (check : FailedCheck) (address : ARMword) (before after : MmuState) :
    Prop where
  status : after.faultStatus.extractLsb' 0 4 = check.code.code.extractLsb' 0 4
  domain : ∀ domain, check.descriptorDomain = some domain →
    after.faultStatus.extractLsb' 4 4 = domain.extractLsb' 0 4
  address : after.faultAddress = mmuPidVaMap before address

def closedPage : MmuMemory :=
  { mmu :=
      { arm926ejsMmuInit with
        control := 0x52079#32
        translationTableBase := 0x4000#32
        domainAccessControl := 0#32 }
    ram := fun index =>
      if index = 0x1000#30 then 0x8001#32 else if index = 0x2000#30 then 0xff2#32 else 0#32 }

def closedEntry : TlbEntry :=
  maskedEntry 0#32 0xff2#32 0xff0#32 0#32 .tlbSmallpage

/-- `ldr r0, [r1]` there records the domain fault of a section. -/
theorem page_domain_untold :
    let signals : Signals := ⟨true, false, 0x41069265#32⟩
    let state := coreAt svc32mode false 0#32 (⟨closedPage, fun _ => 0#32⟩ : Attached)
    let traps : Traps Attached := { undfTrap := fun state _ => (state, true) }
    let load : DataForm := .transfer .single
    firstFault signals state.mode (load.accesses state 0xe5910000#32) state.mem =
        some (.domain closedEntry, 0#32) ∧
      ¬ToldExactly (.domain closedEntry) 0#32 state.mem.memory.mmu
        (load.run (mmuBus signals) traps state 0xe5910000#32).mem.memory.mmu := by
  intro signals state traps load
  refine ⟨by decide +kernel, fun told => ?_⟩
  have status := told.status
  revert status
  decide +kernel

end Result

end SkyeyeStarlet
