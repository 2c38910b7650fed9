import SkyeyeStarlet.AttemptCore
import SkyeyeStarlet.Flow
import SkyeyeStarlet.Kept

/-!
The sticky abort flag through every instruction.  An exception clears it, and behind every
load and store it is clear, since each takes the abort where it is set; the other
instructions leave it alone, but for the traps that the machine deals with itself.
-/

namespace SkyeyeStarlet

variable {Mem : Type}

section Primitives

variable (state : ARMulState Mem)

@[simp] theorem setReg_aborted (number : RegNum) (value : ARMword) :
    (state.setReg number value).aborted = state.aborted := by
  rfl

@[simp] theorem flushpipe_aborted : (flushpipe state).aborted = state.aborted := by
  rfl

@[simp] theorem armulCPSRAltered_aborted : (armulCPSRAltered state).aborted = state.aborted := by
  unfold armulCPSRAltered
  dsimp only
  generalize (if state.prog32Sig = true then state.cpsr else state.cpsr &&& 0xf80000c3#32) = cpsr
  split <;> split <;> rfl

@[simp] theorem armulSetR15_aborted (value : ARMword) :
    (armulSetR15 state value).aborted = state.aborted := by
  simp only [armulSetR15]
  split <;> rfl

theorem setabort_aborted (mask : ARMword) (mode : ModeNum) (link : ARMword) :
    (setabort state mask mode link).aborted = state.aborted := by
  simp [setabort, armulSetCPSR, armulSetSPSR]

@[simp] theorem armulAbort_aborted (highVectors : Mem → Bool) (vector : Vector) :
    (armulAbort highVectors state vector).aborted = 0#32 := by
  simp only [armulAbort]
  split <;> rw [armulSetR15_aborted, setabort_aborted] <;> rfl

@[simp] theorem takeAbort_aborted (bus : Bus Mem) : (takeAbort bus state).aborted = 0#32 := by
  exact armulAbort_aborted state _ _

@[simp] theorem writeR15_aborted (src : ARMword) :
    (writeR15 state src).aborted = state.aborted := by
  rfl

@[simp] theorem writeR15Branch_aborted (src : ARMword) :
    (writeR15Branch state src).aborted = state.aborted := by
  rfl

@[simp] theorem writeSR15_aborted (src : ARMword) :
    (writeSR15 state src).aborted = state.aborted := by
  simp only [writeSR15]
  split <;> simp

@[simp] theorem writeDest_aborted (instr value : ARMword) :
    (writeDest state instr value).aborted = state.aborted := by
  simp only [writeDest]
  split <;> simp

@[simp] theorem writeDestB_aborted (instr value : ARMword) :
    (writeDestB state instr value).aborted = state.aborted := by
  simp only [writeDestB]
  split <;> simp

@[simp] theorem bususedincpcs_aborted : (bususedincpcs state).aborted = state.aborted := by
  simp only [bususedincpcs]
  split <;> rfl

@[simp] theorem bususedincpcn_aborted : (bususedincpcn state).aborted = state.aborted := by
  simp only [bususedincpcn]
  split <;> rfl

theorem busused_aborted : (busused state).aborted = state.aborted := by
  rfl

@[simp] theorem incpc_aborted : (incpc state).aborted = state.aborted := by
  rfl

@[simp] theorem toUserBank_aborted : (toUserBank state).aborted = state.aborted := by
  simp only [toUserBank]
  split <;> rfl

@[simp] theorem toOwnBank_aborted : (toOwnBank state).aborted = state.aborted := by
  simp only [toOwnBank]
  split <;> rfl

@[simp] theorem returnFromList_aborted : (returnFromList state).aborted = state.aborted := by
  simp only [returnFromList]
  split <;> simp

@[simp] theorem writeBackLate_aborted (instr wbBase : ARMword) :
    (writeBackLate instr wbBase state).aborted = state.aborted := by
  simp only [writeBackLate]
  split
  · rfl
  · exact writeBack_aborted instr wbBase state

@[simp] theorem doubleWriteBack_aborted (instr : ARMword) (address : DoubleAddress) :
    (doubleWriteBack state instr address).aborted = state.aborted := by
  simp only [doubleWriteBack]
  split <;> rfl

end Primitives

section DataProcessing

variable (state : ARMulState Mem)

@[simp] theorem negZero_aborted (result : ARMword) :
    (negZero state result).aborted = state.aborted := by
  rfl

@[simp] theorem sets_aborted (saturated : Bool) :
    (sets state saturated).aborted = state.aborted := by
  rfl

@[simp] theorem opcodeFlags_aborted (opcode : Opcode) (lhs rhs dest : ARMword) :
    (opcode.flags state lhs rhs dest).aborted = state.aborted := by
  have adds (a b : ARMword) : (addFlags state a b dest).aborted = state.aborted := by
    simp only [addFlags]
    split <;> rfl
  have subtracts (a b : ARMword) : (subFlags state a b dest).aborted = state.aborted := by
    simp only [subFlags]
    split <;> rfl
  cases opcode <;> first | rfl | exact adds _ _ | exact subtracts _ _

@[simp] theorem dpRegRHS_aborted (instr : ARMword) :
    (dpRegRHS state instr).1.aborted = state.aborted := by
  simp only [dpRegRHS]
  split
  · rfl
  · dsimp only
    split <;> rfl

@[simp] theorem plainRHS_aborted (instr : ARMword) :
    (plainRHS state instr).1.aborted = state.aborted := by
  simp only [plainRHS]
  split
  · rfl
  · exact dpRegRHS_aborted state instr

theorem dpsRegRHS_aborted (instr : ARMword) :
    (dpsRegRHS state instr).1.aborted = state.aborted := by
  simp only [dpsRegRHS]
  split
  · rfl
  · have advanced : (if instr.getLsbD 4 then incpc state else state).aborted = state.aborted := by
      split <;> rfl
    split <;> exact advanced

@[simp] theorem carryRHS_aborted (instr : ARMword) :
    (carryRHS state instr).1.aborted = state.aborted := by
  unfold carryRHS dpsImmRHS
  split
  · split <;> rfl
  · exact dpsRegRHS_aborted state instr

@[simp] theorem writeSDest_aborted (instr value : ARMword) :
    (writeSDest state instr value).aborted = state.aborted := by
  simp only [writeSDest]
  split <;> simp

theorem dataFlags_aborted (instr : ARMword) : (dataFlags state instr).aborted = state.aborted := by
  simp only [dataFlags]
  split <;> simp

theorem dataTest_aborted (instr : ARMword) : (dataTest state instr).aborted = state.aborted := by
  simp only [dataTest]
  split
  · simp
  · split <;> simp

@[simp] theorem scc64_aborted (instr hi lo : ARMword) :
    (scc64 state instr hi lo).aborted = state.aborted := by
  simp only [scc64]
  split <;> rfl

@[simp] theorem multiplied64_aborted (instr : ARMword) :
    (multiplied64 state instr).1.aborted = state.aborted := by
  simp only [multiplied64]
  split <;> rfl

theorem multiply_aborted (instr : ARMword) : (multiply state instr).aborted = state.aborted := by
  simp only [multiply]
  split
  · rfl
  · split <;> rfl

theorem multiplyCase_aborted (instr : ARMword) :
    (multiplyCase state instr).aborted = state.aborted := by
  simp only [multiplyCase]
  split
  · exact multiply_aborted state instr
  · simp [multiply64]
  · simp [multiplyAdd64]

@[simp] theorem signedMultiply_aborted (instr : ARMword) :
    (signedMultiply state instr).aborted = state.aborted := by
  simp only [signedMultiply]
  split
  · rfl
  · split <;> rfl
  · rfl
  · rfl

@[simp] theorem saturating_aborted (instr : ARMword) :
    (saturating state instr).aborted = state.aborted := by
  rfl

@[simp] theorem armulFixCPSR_aborted (instr rhs : ARMword) :
    (armulFixCPSR state instr rhs).aborted = state.aborted := by
  unfold armulFixCPSR
  simp

@[simp] theorem armulFixSPSR_aborted (instr rhs : ARMword) :
    (armulFixSPSR state instr rhs).aborted = state.aborted := by
  simp only [armulFixSPSR]
  split <;> rfl

theorem statusCase_aborted (pc instr : ARMword) :
    (statusCase state pc instr).aborted = state.aborted := by
  have mrs : (mrsCase state instr).aborted = state.aborted := by
    simp [mrsCase, apply_ite ARMulState.aborted]
  have msr : (msrCase state pc instr).aborted = state.aborted := by
    simp [msrCase, apply_ite ARMulState.aborted, osBreakpoint]
  have clz : (clzCase state instr).aborted = state.aborted := by
    simp [clzCase, apply_ite ARMulState.aborted]
  simp only [statusCase]
  split
  · exact mrs
  · exact msr
  · exact clz
  · rfl
  · split <;> simp
  · split <;> simp

theorem dataProcessing_aborted (pc instr : ARMword) :
    (dataProcessing state pc instr).aborted = state.aborted := by
  simp only [dataProcessing]
  split
  · exact multiplyCase_aborted state instr
  · split
    · split
      · exact dataTest_aborted state instr
      · exact statusCase_aborted state pc instr
    · split
      · exact dataFlags_aborted state instr
      · simp [dataPlain]

theorem branch_aborted (pc instr : ARMword) : (branch state pc instr).aborted = state.aborted := by
  simp only [branch]
  split <;> rfl

end DataProcessing

section Accesses

variable (bus : Bus Mem) (size : AccessSize) (state : ARMulState Mem) (address : ARMword)

theorem armulRead_aborted :
    (armulRead bus size state address).1.aborted =
      if ({ state, size, address, data := none } : Access Mem).faults bus then 16#32
      else state.aborted := by
  simp only [armulRead, Access.faults, bne_iff_ne, ne_eq, ite_not]
  split <;> rfl

theorem armulRead_abortSig :
    (armulRead bus size state address).1.abortSig =
      ({ state, size, address, data := none } : Access Mem).faults bus := by
  simp only [armulRead, Access.faults]
  split
  · rename_i fine
    simp [fine]
  · rename_i fault
    simp [fault, dataAbort]

theorem armulWrite_aborted (word : ARMword) :
    (armulWrite bus size state address word).aborted =
      if ({ state, size, address, data := some word } : Access Mem).faults bus then 16#32
      else state.aborted := by
  simp only [armulWrite, Access.faults, bne_iff_ne, ne_eq, ite_not]
  split <;> rfl

theorem armulWrite_abortSig (word : ARMword) :
    (armulWrite bus size state address word).abortSig =
      ({ state, size, address, data := some word } : Access Mem).faults bus := by
  simp only [armulWrite, Access.faults]
  split
  · rename_i fine
    simp [fine]
  · rename_i fault
    simp [fault, dataAbort]

end Accesses

section Trap

variable {bus : Bus Mem} {physical : PhysicalBus Mem} {state : ARMulState Mem} {instr : ARMword}

theorem semihostingWord_top (call : semihostingWord instr = true) {start len : Nat}
    (inside : start + len ≤ 8) :
    instr.extractLsb' (24 + start) len = (0xef#8).extractLsb' start len := by
  simp only [semihostingWord, Bool.and_eq_true, beq_iff_eq] at call
  rw [← call.1]
  ext index bound
  simp [show start + index < 8 by omega, Nat.add_assoc]

theorem starletUndefinedTrap_call (call : semihostingWord instr = true) :
    starletUndefinedTrap bus physical state instr = (semihosting bus state, true) := by
  simp only [semihostingWord, Bool.and_eq_true, beq_iff_eq] at call
  unfold starletUndefinedTrap
  rw [if_neg ?_, if_pos call.1, if_pos call.2]
  intro syscall
  have bit : instr[27] = true := by
    have nibble := congrArg (fun word => BitVec.getLsbD word 3) call.1
    simpa using nibble
  have masked := congrArg (fun word => BitVec.getLsbD word 27) syscall
  simp [bit] at masked

theorem starletUndefinedTrap_other (other : semihostingWord instr = false) :
    (starletUndefinedTrap bus physical state instr).2 = false := by
  simp only [starletUndefinedTrap]
  split
  · rfl
  · split
    · rename_i top
      split
      · rename_i number
        simp [semihostingWord, top, number] at other
      · rfl
    · rfl

theorem armulUndefInstr_aborted (other : semihostingWord instr = false) :
    (armulUndefInstr bus (starletTraps bus physical) state instr).aborted = 0#32 := by
  unfold armulUndefInstr
  have declined : ((starletTraps bus physical).undfTrap state instr).2 = false :=
    starletUndefinedTrap_other other
  simp [declined]

theorem semihostingWord_transfer {kind : Transfer} (transfers : transferOf instr = some kind) :
    semihostingWord instr = false := by
  refine Bool.eq_false_iff.mpr fun call => ?_
  have memory : instr.extractLsb' 26 2 = 3#2 := semihostingWord_top call (by decide : 2 + 2 ≤ 8)
  have other : instr.extractLsb' 25 3 = 7#3 := semihostingWord_top call (by decide : 1 + 3 ≤ 8)
  simp [transferOf, memory, other] at transfers

theorem semihostingWord_switch (call : semihostingWord instr = true) :
    transferOf instr = none ∧ instr.extractLsb' 25 3 = 7#3 ∧ instr.getLsbD 24 = true := by
  have memory : instr.extractLsb' 26 2 = 3#2 := semihostingWord_top call (by decide : 2 + 2 ≤ 8)
  have other : instr.extractLsb' 25 3 = 7#3 := semihostingWord_top call (by decide : 1 + 3 ≤ 8)
  have bit : instr.extractLsb' 24 1 = 1#1 := semihostingWord_top call (by decide : 0 + 1 ≤ 8)
  have low := congrArg (fun word => BitVec.getLsbD word 0) bit
  refine ⟨by simp [transferOf, memory, other], other, by simpa using low⟩

end Trap

section Transfers

variable {bus : Bus Mem} {physical : PhysicalBus Mem} (state : ARMulState Mem) (instr : ARMword)

theorem loadData_aborted (size : AccessSize) {finish : ARMulState Mem → ARMword → ARMulState Mem}
    (keeps : ∀ read dest, (finish read dest).aborted = read.aborted) (address : ARMword) :
    (loadData bus size finish state instr address).1.aborted = 0#32 := by
  simp only [loadData]
  split
  · rename_i clear
    exact (keeps _ _).trans clear
  · exact takeAbort_aborted _ bus

theorem storeData_aborted (size : AccessSize) (address : ARMword) :
    (storeData bus size state instr address).1.aborted = 0#32 := by
  simp only [storeData]
  split
  · assumption
  · exact takeAbort_aborted _ bus

theorem loadByte_aborted (signextend : Bool) (address : ARMword) :
    (loadByte bus signextend state instr address).1.aborted = 0#32 := by
  exact loadData_aborted state instr .byte (fun read _ => writeDest_aborted read instr _) address

theorem loadHalfWord_aborted (signextend : Bool) (address : ARMword) :
    (loadHalfWord bus signextend state instr address).1.aborted = 0#32 := by
  exact loadData_aborted state instr .halfword (fun read _ => writeDest_aborted read instr _)
    address

theorem singleAccess_aborted (address : ARMword) :
    (singleAccess bus state instr address).1.aborted = 0#32 := by
  simp only [singleAccess]
  split
  · exact storeData_aborted state instr .word address
  · exact loadData_aborted state instr .word (fun read _ => writeDestB_aborted read instr _) address
  · exact storeData_aborted state instr .byte address
  · exact loadByte_aborted state instr false address

theorem halfAccess_aborted (address : ARMword) :
    (halfAccess bus state instr address).1.aborted = 0#32 := by
  simp only [halfAccess]
  split
  · split
    · exact loadByte_aborted state instr true address
    · exact loadHalfWord_aborted state instr true address
    · exact loadHalfWord_aborted state instr false address
  · exact storeData_aborted state instr .halfword address

theorem indexedTransfer_aborted (offset : ARMulState Mem → ARMword → ARMword)
    {access : ARMulState Mem → ARMword → ARMword → ARMulState Mem × Bool}
    (clears : ∀ state instr address, (access state instr address).1.aborted = 0#32) :
    (indexedTransfer offset access state instr).aborted = 0#32 := by
  simp only [indexedTransfer]
  split <;> split <;> exact clears _ _ _

theorem singleTransfer_aborted : (singleTransfer bus state instr).aborted = 0#32 := by
  simp only [singleTransfer]
  split <;> exact indexedTransfer_aborted _ _ _ singleAccess_aborted

theorem swapEnd_aborted : (swapEnd bus state).aborted = 0#32 := by
  simp only [swapEnd]
  split
  · exact takeAbort_aborted state bus
  · rename_i clear
    simp only [Bool.or_eq_true, bne_iff_ne, not_or, not_not] at clear
    exact clear.2

theorem dataTransfer_aborted {kind : Transfer} (transfers : transferOf instr = some kind) :
    (dataTransfer bus (starletTraps bus physical) state instr kind).aborted = 0#32 := by
  have other := semihostingWord_transfer transfers
  cases kind with
  | single => exact singleTransfer_aborted state instr
  | half => exact indexedTransfer_aborted state instr _ halfAccess_aborted
  | loadDouble =>
      unfold dataTransfer handleLoadDouble
      dsimp only
      split
      · split
        · simpa
        · exact takeAbort_aborted _ bus
      · exact armulUndefInstr_aborted other
  | storeDouble =>
      unfold dataTransfer handleStoreDouble
      dsimp only
      split
      · split
        · simpa
        · exact takeAbort_aborted _ bus
      · exact armulUndefInstr_aborted other
  | swapWord => exact swapEnd_aborted _
  | swapByte => exact swapEnd_aborted _

theorem blockFinished_aborted (wbBase : ARMword) :
    (blockFinished bus instr wbBase state).aborted = 0#32 := by
  unfold blockFinished
  have late (moved : ARMulState Mem) :
      (if moved.aborted = 0#32 then moved else takeAbort bus moved).aborted = 0#32 := by
    split
    · assumption
    · exact takeAbort_aborted moved bus
  have returned (based : ARMulState Mem) (clear : based.aborted = 0#32) :
      (let returned :=
        if instr.getLsbD 15 && based.aborted == 0#32 then returnFromList based else based
      if instr.getLsbD 15 then returned else toOwnBank returned).aborted = 0#32 := by
    dsimp only
    split <;> split <;> simpa using clear
  split
  · exact late _
  · split
    · rename_i clear
      rw [writeBack_aborted]
      split <;> simpa using clear
    · exact takeAbort_aborted state bus
  · exact late _
  · refine returned _ ?_
    split
    · rwa [writeBack_aborted]
    · exact takeAbort_aborted _ bus

theorem coprocessorWords_aborted (cops : Coprocessors Mem) (address base : ARMword) :
    (coprocessorWords bus cops state instr address base).aborted = 0#32 := by
  have tested (based : ARMulState Mem) :
      (if accessAborted based then takeAbort bus based else based).aborted = 0#32 := by
    split
    · exact takeAbort_aborted based bus
    · rename_i clear
      simp only [accessAborted, Bool.or_eq_true, bne_iff_ne, not_or, not_not] at clear
      exact clear.2
  simp only [coprocessorWords]
  split
  · exact tested _
  · exact armulAbort_aborted _ _ _
  · exact armulAbort_aborted _ _ _

end Transfers

section Switch

variable {bus : Bus Mem} {physical : PhysicalBus Mem} {cops : Coprocessors Mem}
  {state : ARMulState Mem} {pc instr : ARMword}

theorem coprocessorTransfer_aborted (other : semihostingWord instr = false) :
    (coprocessorTransfer bus (starletTraps bus physical) cops state instr).aborted = 0#32 := by
  simp only [coprocessorTransfer]
  split
  · exact armulUndefInstr_aborted other
  · exact coprocessorWords_aborted state instr cops _ _

theorem undefinedTransfer_aborted (clear : state.aborted = 0#32)
    (other : semihostingWord instr = false) :
    (undefinedTransfer bus (starletTraps bus physical) state instr).aborted = 0#32 := by
  simp only [undefinedTransfer]
  split
  · exact clear
  · exact armulUndefInstr_aborted other

theorem coprocessorCall_aborted {finish : ARMulState Mem → ARMulState Mem}
    (keeps : ∀ state, (finish state).aborted = state.aborted) (clear : state.aborted = 0#32)
    (answer : Answer Mem) : (coprocessorCall bus finish state answer).aborted = 0#32 := by
  cases answer with
  | done mem vector =>
      refine (keeps _).trans ?_
      cases vector with
      | none => exact clear
      | some vector => exact armulAbort_aborted _ _ vector
  | cant mem => exact armulAbort_aborted _ _ _
  | interrupted mem vector => exact armulAbort_aborted _ _ vector

theorem coprocessorRegister_aborted (clear : state.aborted = 0#32) :
    (coprocessorRegister bus cops state instr).aborted = 0#32 := by
  simp only [coprocessorRegister]
  split
  · split
    · split
      · exact coprocessorCall_aborted bususedincpcn_aborted clear _
      · exact coprocessorCall_aborted bususedincpcn_aborted clear _
    · exact coprocessorCall_aborted bususedincpcn_aborted clear _
  · exact coprocessorCall_aborted busused_aborted clear _

theorem armulAbortWord_other : semihostingWord (armulAbortWord state) = false := by
  simp only [armulAbortWord]
  split <;> decide

theorem softwareInterrupt_other (other : semihostingWord instr = false) :
    (softwareInterrupt bus (starletTraps bus physical) state pc instr).aborted = 0#32 := by
  unfold softwareInterrupt
  have declined : ((starletTraps bus physical).undfTrap state instr).2 = false :=
    starletUndefinedTrap_other other
  split <;> simp [declined]

theorem softwareInterrupt_call (call : semihostingWord instr = true) :
    softwareInterrupt bus (starletTraps bus physical) state pc instr = semihosting bus state := by
  have fetched : ¬(instr = armulAbortWord state ∧ state.abortAddr = pc) := by
    rintro ⟨rfl, -⟩
    rw [armulAbortWord_other] at call
    exact absurd call (by decide)
  unfold softwareInterrupt
  rw [if_neg fetched, show (starletTraps bus physical).undfTrap state instr = _ from
    starletUndefinedTrap_call call]
  rfl

theorem mainSwitch_aborted (clear : state.aborted = 0#32) :
    (mainSwitch bus (starletTraps bus physical) cops state pc instr).aborted =
      if semihostingWord instr then (semihosting bus state).aborted else 0#32 := by
  cases call : semihostingWord instr with
  | true =>
      obtain ⟨noTransfer, other, bit⟩ := semihostingWord_switch call
      simp only [mainSwitch, noTransfer, other, bit, if_true]
      rw [softwareInterrupt_call call]
      rfl
  | false =>
      rw [if_neg Bool.false_ne_true]
      simp only [mainSwitch]
      split
      · rename_i transfers
        exact dataTransfer_aborted state instr transfers
      · split
        · exact (dataProcessing_aborted state pc instr).trans clear
        · exact (dataProcessing_aborted state pc instr).trans clear
        · exact undefinedTransfer_aborted clear call
        · exact undefinedTransfer_aborted clear call
        · rw [blockTransfer_finished]
          exact blockFinished_aborted _ instr _
        · exact (branch_aborted state pc instr).trans clear
        · exact coprocessorTransfer_aborted call
        · split
          · exact softwareInterrupt_other call
          · exact coprocessorRegister_aborted clear

theorem unconditional_other (never : instr.extractLsb' 28 4 = 0xf#4) :
    semihostingWord instr = false := by
  refine Bool.eq_false_iff.mpr fun call => ?_
  have always : instr.extractLsb' 28 4 = 0xe#4 := semihostingWord_top call (by decide : 4 + 4 ≤ 8)
  rw [always] at never
  exact absurd never (by decide)

theorem executeArm_skipped (clear : state.aborted = 0#32)
    (skipped : passedWord state instr = none) :
    (executeArm bus (starletTraps bus physical) cops state pc instr).aborted = 0#32 := by
  unfold passedWord at skipped
  simp only [executeArm]
  split at skipped
  · rename_i never
    rw [if_pos never]
    simp only [unconditional]
    split
    · exact clear
    · split
      · exact clear
      · split
        · exact clear
        · split
          · rename_i newer notBranch notPreload coprocessor
            have isV5 : state.isV5 = true := by
              simpa using newer
            simp [isV5, notBranch, notPreload, coprocessor] at skipped
          · exact armulUndefInstr_aborted (unconditional_other never)
  · rename_i conditional
    rw [if_neg conditional]
    split at skipped
    · cases skipped
    · rename_i fails
      rwa [if_neg fails]

theorem executeArm_aborted (clear : state.aborted = 0#32) :
    (executeArm bus (starletTraps bus physical) cops state pc instr).aborted =
      if (passedWord state instr).any semihostingWord then (semihosting bus state).aborted
      else 0#32 := by
  cases passed : passedWord state instr with
  | none => exact executeArm_skipped clear passed
  | some word =>
      rw [executeArm_passed passed]
      exact mainSwitch_aborted clear

theorem thumbSuffix_aborted {before : ARMulState Mem} (clear : before.aborted = 0#32)
    (tinstr : Halfword) : branchesKept (·.aborted = 0#32) (thumbSuffix before pc tinstr) := by
  simp only [thumbSuffix]
  split
  · trivial
  · split <;> exact clear

theorem thumbDecode_aborted (pc instr : ARMword) (clear : state.aborted = 0#32) :
    branchesKept (·.aborted = 0#32) (armulThumbDecode state pc instr) := by
  have conditional (tinstr : Halfword) : (thumbCondBranch state pc tinstr).aborted = 0#32 := by
    simp only [thumbCondBranch]
    split <;> exact clear
  unfold armulThumbDecode
  dsimp only
  simp only [thumbDecodeHalf]
  split <;> try trivial
  · split
    · split <;> trivial
    · trivial
  · split
    · trivial
    · split
      · trivial
      · exact conditional _
  · split
    · trivial
    · split
      · trivial
      · exact conditional _
  · unfold thumbPrefix
    dsimp only
    split
    · exact clear
    · exact thumbSuffix_aborted ((setReg_aborted state _ _).trans clear) _
  · exact thumbSuffix_aborted clear _

theorem execute_aborted (clear : state.aborted = 0#32) :
    (execute bus (starletTraps bus physical) cops state pc instr).aborted =
      if callsSemihosting state pc instr then (semihosting bus state).aborted else 0#32 := by
  unfold execute callsSemihosting
  split
  · have decoded := thumbDecode_aborted pc instr clear
    cases result : armulThumbDecode state pc instr with
    | undefined =>
        dsimp only
        cases call : semihostingWord instr with
        | true =>
            unfold armulUndefInstr
            rw [show (starletTraps bus physical).undfTrap state instr = _ from
              starletUndefinedTrap_call call]
            rfl
        | false => exact armulUndefInstr_aborted call
    | branched after =>
        rw [result] at decoded
        exact decoded
    | decoded word => exact executeArm_aborted clear
  · exact executeArm_aborted clear

end Switch

end SkyeyeStarlet
