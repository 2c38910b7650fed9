import SkyeyeStarlet.ArmBranches
import SkyeyeStarlet.ThumbBlocks

/-!
The block transfers in ARM state.  The base is written after the transfers, so a load of the
program counter branches before it, and neither of the two disturbs the other.
-/

namespace SkyeyeStarlet

open ThumbIsa

variable {Mem : Type}

section Lists

def lowerIndices (list : BitVec 16) : List Nat :=
  (List.range 15).filter fun index => list.getLsbD index

theorem armListed_eq (list : BitVec 16) :
    ArmIsa.listed list = (lowerIndices list).map (BitVec.ofNat 4) := by
  rfl

theorem lowerIndices_lt {list : BitVec 16} {index : Nat} (member : index ∈ lowerIndices list) :
    index < 15 := by
  exact List.mem_range.mp (List.mem_filter.mp member).1

theorem listedRegs_lower (instr : ARMword) :
    listedRegs instr = lowerIndices (instr.extractLsb' 0 16) ++
      if instr.getLsbD 15 then [15] else [] := by
  rw [listedRegs, List.range_succ, List.filter_append, lowerIndices]
  congr 1
  · apply List.filter_congr
    intro index member
    have bound : index < 15 := List.mem_range.mp member
    simp [show index < 16 by omega]
  · cases last : instr.getLsbD 15 <;> simp only [List.filter_cons, last] <;> rfl

theorem list_last (instr : ARMword) :
    (instr.extractLsb' 0 16).getLsbD 15 = instr.getLsbD 15 := by
  rw [BitVec.getLsbD_extractLsb']
  rfl

end Lists

section Ranges

variable {instr : ARMword}

theorem blockStart_range (instr base : ARMword) :
    blockStart instr base = (ArmIsa.blockRange (instr.getLsbD 24) (instr.getLsbD 23) base
      (listedRegs instr).length).1 := by
  rw [blockStart, lsmNumRegs_eq]
  cases instr.getLsbD 24 <;> cases instr.getLsbD 23 <;> rfl

theorem blockBase_range (writes : instr.getLsbD 21 = true) (base : ARMword) :
    blockBase instr base = (ArmIsa.blockRange (instr.getLsbD 24) (instr.getLsbD 23) base
      (listedRegs instr).length).2 := by
  rw [blockBase, writes, lsmNumRegs_eq]
  cases instr.getLsbD 24 <;> cases instr.getLsbD 23 <;> rfl

variable {before state : ARMulState Mem} {machine : Processor Mem} {wbBase final : ARMword}

theorem writeBack_based (notPc : lhsReg instr ≠ 15#4) (wbBase : ARMword)
    (state : ARMulState Mem) :
    writeBack instr wbBase state =
      if instr.getLsbD 21 then state.setReg (lhsReg instr) wbBase else state := by
  simp [writeBack, notPc]

theorem Within.writeBack (within : Within before state machine) (arm : machine.thumb = false)
    (notPc : lhsReg instr ≠ 15#4) (moved : instr.getLsbD 21 = true → wbBase = final) :
    Shows before (writeBack instr wbBase state) machine.pc
      (ArmIsa.skip (if instr.getLsbD 21 then machine.set (lhsReg instr) final else machine)) := by
  rw [writeBack_based notPc]
  cases writes : instr.getLsbD 21 with
  | true =>
      rw [moved writes]
      exact (within.setReg notPc final).skip arm
  | false => exact within.skip arm

theorem Shows.writeBack {pc : ARMword} (shows : Shows before state pc machine)
    (notPc : lhsReg instr ≠ 15#4) (moved : instr.getLsbD 21 = true → wbBase = final) :
    Shows before (SkyeyeStarlet.writeBack instr wbBase state) pc
      (if instr.getLsbD 21 then machine.set (lhsReg instr) final else machine) := by
  rw [writeBack_based notPc]
  cases writes : instr.getLsbD 21 with
  | true =>
      rw [moved writes]
      exact shows.setReg notPc final
  | false => exact shows

end Ranges

section Execution

variable {state : ARMulState Mem} {pc instr : ARMword} (bus : Bus Mem)
  {plain : Width → ModeNum → ARMword → Mem → Bool}
  (ready : ArmReady state pc)

theorem mainSwitch_block (traps : Traps Mem) (cops : Coprocessors Mem)
    (group : instr.extractLsb' 25 3 = 4#3) :
    mainSwitch bus traps cops state pc instr = blockTransfer bus state instr := by
  simp only [mainSwitch, transferOf_class group (by decide) (by decide), group]

include ready

theorem shows_storeBlock (stores : instr.getLsbD 20 = false) (own : instr.getLsbD 22 = false)
    {after : Processor Mem}
    (defined : ArmIsa.execStoreBlock (busMemory bus plain state.mode) (instr.getLsbD 24)
      (instr.getLsbD 23) (instr.getLsbD 21) (lhsReg instr) (instr.extractLsb' 0 16)
      (machineOf state pc) = some after) :
    Shows state (blockTransfer bus state instr) pc after := by
  have indices := listedRegs_lower instr
  unfold ArmIsa.execStoreBlock at defined
  dsimp only at defined
  split at defined
  · cases defined
  · rename_i fine
    simp only [not_or, Bool.not_eq_true, list_last] at fine
    obtain ⟨notPc, nonempty, last, -⟩ := fine
    rw [last, if_neg Bool.false_ne_true, List.append_nil] at indices
    rw [armListed_eq, ← indices] at defined nonempty
    simp only [Option.bind_eq_bind, Option.bind_eq_some_iff, List.length_map] at defined
    obtain ⟨mem, stored, same⟩ := defined
    cases same
    have values : (listedRegs instr).map (rawReg state.file) =
        ((listedRegs instr).map (BitVec.ofNat 4)).map state.reg := by
      rw [List.map_map]
      apply List.map_congr_left
      intro index member
      exact rawReg_low (mem_listedRegs_lt member)
    have all : writeBlock bus state.mode ((listedRegs instr).map (rawReg state.file))
        (blockStart instr (state.reg (lhsReg instr))) state.mem =
        
        { count := (((listedRegs instr).map (BitVec.ofNat 4)).map state.reg).length
          mem
          failed := false } := by
      rw [values, blockStart_range]
      exact writeBlock_stored stored
    have moved := storeAll_eq bus (mt List.map_eq_nil_iff.mpr nonempty)
      (blockStart instr (state.reg (lhsReg instr)))
      { state with nextInstr := state.nextInstr ||| 1#8 } ready.clear
    simp only [all] at moved
    have within := (within_refl ready.ready pc).busused.withMem mem false 0#32
    simp only [blockTransfer, own, stores, storeMult, ready.arm, Bool.false_eq_true, if_false,
      bususedincpcn_v4 ready.isV4, moved, abortCode, if_true, writeBackLate, Bool.false_and,
      writeBack_aborted]
    have base (writes : instr.getLsbD 21 = true) :=
      blockBase_range writes (state.reg (lhsReg instr))
    exact within.writeBack ready.arm notPc base

def loadedBlock (state : ARMulState Mem) (instr : ARMword) (words : List ARMword) (mem : Mem) :
    ARMulState Mem :=
  { state with
    file := setListed state.file (listedRegs instr) words
    mem
    abortSig := false
    aborted := 0#32 }

theorem blockTransfer_load (loads : instr.getLsbD 20 = true) (own : instr.getLsbD 22 = false)
    (nonempty : listedRegs instr ≠ []) {words : List ARMword} {mem : Mem}
    (loaded : (busMemory bus plain state.mode).loadWords (listedRegs instr).length
      (blockStart instr (state.reg (lhsReg instr))) state.mem = some (words, mem)) :
    blockTransfer bus state instr =
      writeBack instr (blockBase instr (state.reg (lhsReg instr)))
        (if instr.getLsbD 15 then
          writeR15Branch (loadedBlock state instr words mem)
            ((loadedBlock state instr words mem).reg 15#4)
        else loadedBlock state instr words mem) := by
  have all := loadAll_eq bus true nonempty (blockStart instr (state.reg (lhsReg instr))) state
    ready.clear
  rw [(readBlock_loaded loaded).1] at all
  simp only [blockTransfer, own, loads, loadMult, bususedincpcs_v4 ready.isV4, all, abortCode,
    Bool.false_eq_true, if_false, if_true]
  rfl

theorem shows_loadBlock (loads : instr.getLsbD 20 = true) (own : instr.getLsbD 22 = false)
    {after : Processor Mem}
    (defined : ArmIsa.execLoadBlock (busMemory bus plain state.mode) (instr.getLsbD 24)
      (instr.getLsbD 23) (instr.getLsbD 21) (lhsReg instr) (instr.extractLsb' 0 16)
      (machineOf state pc) = some after) :
    Shows state (blockTransfer bus state instr) pc after := by
  have indices := listedRegs_lower instr
  have count : (lowerIndices (instr.extractLsb' 0 16)).length + (instr.getLsbD 15).toNat =
      (listedRegs instr).length := by
    rw [indices, List.length_append]
    cases instr.getLsbD 15 <;> rfl
  have low : ∀ index ∈ lowerIndices (instr.extractLsb' 0 16), index < 15 :=
    fun index member => lowerIndices_lt member
  unfold ArmIsa.execLoadBlock at defined
  simp only [armListed_eq, List.length_map, list_last, count] at defined
  split at defined
  · cases defined
  · rename_i fine
    simp only [not_or] at fine
    obtain ⟨notPc, nonempty, -⟩ := fine
    simp only [Option.bind_eq_bind, Option.bind_eq_some_iff] at defined
    obtain ⟨⟨words, mem⟩, loaded, rest⟩ := defined
    have moved (writes : instr.getLsbD 21 = true) :=
      blockBase_range writes (state.reg (lhsReg instr))
    have within := (within_refl ready.ready pc).withMem mem false 0#32
    have length := (readBlock_loaded loaded).2
    rw [blockTransfer_load bus ready loads own (mt List.length_eq_zero_iff.mpr nonempty)
      (blockStart_range instr _ ▸ loaded)]
    cases last : instr.getLsbD 15 with
    | false =>
        rw [last, if_neg Bool.false_ne_true, List.append_nil] at indices
        rw [last, if_neg Bool.false_ne_true] at rest
        cases rest
        have shown := (within.setListed low words).writeBack
          ((Processor.setAll_thumb _ _ _).trans ready.arm) notPc moved
        rw [Processor.setAll_pc] at shown
        rw [loadedBlock, indices]
        rw [indices] at shown
        exact shown
    | true =>
        rw [last, if_pos rfl] at indices
        obtain rfl | ⟨init, target, rfl⟩ := List.eq_nil_or_concat' words
        · exact absurd length.symm nonempty
        · have same : init.length = (lowerIndices (instr.extractLsb' 0 16)).length := by
            rw [indices] at length
            simpa using length
          simp only [last, if_true, List.getLast?_append, List.getLast?_singleton, Option.some_or,
            Option.bind_some] at rest
          rw [Processor.setAll_append _ _ (by rw [List.length_map, same])] at rest
          have loadedPc := (within.setListed low init).setPc target
          rw [loadedBlock, indices, setListed_append _ _ _ same]
          rw [indices] at moved rest
          cases writes : instr.getLsbD 21 with
          | true =>
              rw [writes, if_pos rfl, Processor.exchange_set, Option.map_eq_some_iff] at rest
              obtain ⟨branched, exchanged, rfl⟩ := rest
              have shown := (loadedPc.exchange target pc exchanged).writeBack notPc moved
              rw [writes, if_pos rfl] at shown
              exact shown
          | false =>
              rw [writes, if_neg Bool.false_ne_true] at rest
              have shown := (loadedPc.exchange target pc rest).writeBack notPc moved
              rw [writes, if_neg Bool.false_ne_true] at shown
              exact shown

theorem performs_block (traps : Traps Mem) (cops : Coprocessors Mem)
    (group : instr.extractLsb' 25 3 = 4#3) {decoded : ArmIsa.Instr}
    (named : ArmIsa.decodeBlock instr = some decoded) {effect : ArmIsa.Effect Mem}
    {highVectors : Mem → Bool}
    (ran : ArmIsa.exec (busMemory bus plain state.mode) decoded (armMachineOf state pc) =
      some effect) :
    ArmPerforms highVectors state (mainSwitch bus traps cops state pc instr) pc effect := by
  unfold ArmIsa.decodeBlock at named
  split at named
  · cases named
  · rename_i own
    cases named
    refine armPerforms_continues ran fun after defined => ?_
    rw [mainSwitch_block bus traps cops group]
    unfold ArmIsa.execBlock at defined
    cases loads : instr.getLsbD 20 with
    | true =>
        rw [loads, if_pos rfl] at defined
        exact shows_loadBlock bus ready loads (Bool.eq_false_iff.mpr own) defined
    | false =>
        rw [loads, if_neg Bool.false_ne_true] at defined
        exact shows_storeBlock bus ready loads (Bool.eq_false_iff.mpr own) defined

end Execution

end SkyeyeStarlet
