import SkyeyeStarlet.StickyFlag

/-!
What an attempt has to do with the data abort: behind a load or store, the saved status word
of abort mode shows whether `TAKEABORT` was run.
-/

namespace SkyeyeStarlet

variable {Mem : Type}

section Taken

variable {bus : Bus Mem} {traps : Traps Mem} {cops : Coprocessors Mem} {state : ARMulState Mem}
  {pc instr : ARMword}

/-- `SPSR_abt` behind the instruction: the abort saves the status word in it. -/
def Attempt.saved (attempt : Attempt Mem) : ARMword :=
  if attempt.taken then armulGetCPSR attempt.tested else attempt.tested.spsr .abortbank

theorem armulCPSRAltered_spsr (state : ARMulState Mem) :
    (armulCPSRAltered state).spsr = state.spsr := by
  unfold armulCPSRAltered
  dsimp only
  generalize (if state.prog32Sig = true then state.cpsr else state.cpsr &&& 0xf80000c3#32) = cpsr
  split <;> split <;> rfl

theorem armulAbort_spsr (highVectors : Mem → Bool) (state : ARMulState Mem) (vector : Vector) :
    (armulAbort highVectors state vector).spsr =
      (armulSetSPSR state (vector.mode state.prog32Sig) (armulGetCPSR state)).spsr := by
  have altered (entered : ARMulState Mem) (value : ARMword) :
      (armulSetR15 entered value).spsr = entered.spsr := by
    simp only [armulSetR15]
    split <;> rfl
  simp only [armulAbort]
  split <;> rw [altered] <;> exact armulCPSRAltered_spsr _

structure Attempt.Tested (attempt : Attempt Mem) (state : ARMulState Mem) : Prop where
  spsr : state.spsr = attempt.tested.spsr
  status : armulGetCPSR state = armulGetCPSR attempt.tested
  prog32 : state.prog32Sig = true

theorem Attempt.Tested.takes {attempt : Attempt Mem} (tested : attempt.Tested state)
    (taken : attempt.taken = true) : (takeAbort bus state).spsr .abortbank = attempt.saved := by
  rw [Attempt.saved, if_pos taken, ← tested.status, takeAbort, armulAbort_spsr, tested.prog32]
  exact Function.update_self Bank.abortbank (armulGetCPSR state) state.spsr

theorem Attempt.Tested.leaves {attempt : Attempt Mem} (tested : attempt.Tested state)
    (left : attempt.taken = false) : state.spsr .abortbank = attempt.saved := by
  rw [Attempt.saved, left, if_neg Bool.false_ne_true, tested.spsr]

theorem Attempt.tested_self {attempt : Attempt Mem} (prog32 : attempt.tested.prog32Sig = true) :
    attempt.Tested attempt.tested := by
  exact ⟨rfl, rfl, prog32⟩

theorem Attempt.Tested.file {attempt : Attempt Mem} (tested : attempt.Tested state)
    {late : ARMulState Mem} (same : late = { state with file := late.file }) :
    attempt.Tested late := by
  rw [same]
  exact ⟨tested.spsr, tested.status, tested.prog32⟩

theorem Attempt.taken_flag {attempt : Attempt Mem} (plain : attempt.signal = false) :
    attempt.taken = (attempt.tested.aborted != 0#32) := by
  rw [Attempt.taken, plain, Bool.false_and, Bool.false_or]

theorem Attempt.Tested.clear {attempt : Attempt Mem} (tested : attempt.Tested state)
    (flag : attempt.taken = (state.aborted != 0#32)) (clear : state.aborted = 0#32) :
    state.spsr .abortbank = attempt.saved := by
  exact tested.leaves (flag.trans (bne_eq_false_iff_eq.mpr clear))

theorem Attempt.Tested.faulted {attempt : Attempt Mem} (tested : attempt.Tested state)
    (flag : attempt.taken = (state.aborted != 0#32)) (faulted : state.aborted ≠ 0#32) :
    (takeAbort bus state).spsr .abortbank = attempt.saved := by
  exact tested.takes (flag.trans (bne_iff_ne.mpr faulted))

theorem Attempt.Tested.ends {attempt : Attempt Mem} (tested : attempt.Tested state)
    (flag : attempt.taken = (state.aborted != 0#32)) {final : ARMulState Mem}
    (kept : final.spsr = state.spsr) :
    (if state.aborted = 0#32 then final else takeAbort bus state).spsr .abortbank =
      attempt.saved := by
  split
  · rename_i clear
    rw [kept]
    exact tested.clear flag clear
  · rename_i faulted
    exact tested.faulted flag faulted

theorem writeDest_spsr (state : ARMulState Mem) (instr value : ARMword) :
    (writeDest state instr value).spsr = state.spsr := by
  simp only [writeDest]
  split <;> rfl

theorem writeDestB_spsr (state : ARMulState Mem) (instr value : ARMword) :
    (writeDestB state instr value).spsr = state.spsr := by
  simp only [writeDestB]
  split <;> rfl

theorem loadData_saved (size : AccessSize) {finish : ARMulState Mem → ARMword → ARMulState Mem}
    (keeps : ∀ read dest, (finish read dest).spsr = read.spsr) (address : ARMword)
    (prog32 : (readAttempt bus size (bususedincpcs state) address).tested.prog32Sig = true) :
    (loadData bus size finish state instr address).1.spsr .abortbank =
      (readAttempt bus size (bususedincpcs state) address).saved := by
  have tested := Attempt.tested_self prog32
  have flag := Attempt.taken_flag (show
    (readAttempt bus size (bususedincpcs state) address).signal = false from rfl)
  simp only [loadData]
  split
  · rename_i clear
    rw [keeps]
    exact tested.clear flag clear
  · rename_i faulted
    exact tested.faulted flag faulted

theorem storeData_saved (size : AccessSize) (address : ARMword)
    (prog32 : (writeAttempt bus size (bususedincpcn state) address
      ((bususedincpcn state).reg (destReg instr))).tested.prog32Sig = true) :
    (storeData bus size state instr address).1.spsr .abortbank =
      (writeAttempt bus size (bususedincpcn state) address
        ((bususedincpcn state).reg (destReg instr))).saved := by
  have tested := Attempt.tested_self prog32
  have flag := Attempt.taken_flag (show (writeAttempt bus size (bususedincpcn state) address
    ((bususedincpcn state).reg (destReg instr))).signal = false from rfl)
  simp only [storeData]
  split
  · rename_i clear
    exact tested.clear flag clear
  · rename_i faulted
    exact tested.faulted flag faulted

theorem indexedTransfer_spsr (offset : ARMulState Mem → ARMword → ARMword)
    (access : ARMulState Mem → ARMword → ARMword → ARMulState Mem × Bool)
    (state : ARMulState Mem) (instr : ARMword) :
    (indexedTransfer offset access state instr).spsr =
      (access state instr
        (if instr.getLsbD 24 then indexed offset state instr (lhsValue state instr)
          else lhsValue state instr)).1.spsr := by
  simp only [indexedTransfer]
  split <;> split <;> rfl

theorem indexedTransfer_saved (offset : ARMulState Mem → ARMword → ARMword) (size : AccessSize)
    {access : ARMulState Mem → ARMword → ARMword → ARMulState Mem × Bool}
    (loads : instr.getLsbD 20 = true → ∀ address,
      (readAttempt bus size (bususedincpcs state) address).tested.prog32Sig = true →
        (access state instr address).1.spsr .abortbank =
          (readAttempt bus size (bususedincpcs state) address).saved)
    (stores : instr.getLsbD 20 = false → ∀ address,
      access state instr address = storeData bus size state instr address)
    (prog32 : (indexedAttempt bus offset size state instr).tested.prog32Sig = true) :
    (indexedTransfer offset access state instr).spsr .abortbank =
      (indexedAttempt bus offset size state instr).saved := by
  rw [indexedTransfer_spsr]
  unfold indexedAttempt at prog32 ⊢
  dsimp only at prog32 ⊢
  cases load : instr.getLsbD 20 with
  | true =>
      rw [load, if_pos rfl] at prog32
      exact loads load _ prog32
  | false =>
      rw [load, if_neg Bool.false_ne_true] at prog32
      rw [stores load]
      exact storeData_saved size _ prog32

theorem singleTransfer_saved
    (prog32 : (indexedAttempt bus singleOffset (singleSize instr) (singleStarted state instr)
      instr).tested.prog32Sig = true) :
    (singleTransfer bus state instr).spsr .abortbank =
      (indexedAttempt bus singleOffset (singleSize instr) (singleStarted state instr)
        instr).saved := by
  have started : (singleTransfer bus state instr).spsr =
      (indexedTransfer singleOffset (singleAccess bus) (singleStarted state instr) instr).spsr := by
    unfold singleTransfer singleStarted
    dsimp only
    split <;> rfl
  rw [started]
  refine indexedTransfer_saved singleOffset (singleSize instr) ?_ ?_ prog32
  · intro load address read32
    cases byte : instr.getLsbD 22 with
    | false =>
        simp only [singleAccess, singleSize, byte, load, Bool.false_eq_true, if_false] at read32 ⊢
        exact loadData_saved .word (fun read _ => writeDestB_spsr read instr _) address read32
    | true =>
        simp only [singleAccess, singleSize, byte, load, if_true] at read32 ⊢
        exact loadData_saved .byte (fun read _ => writeDest_spsr read instr _) address read32
  · intro store address
    cases byte : instr.getLsbD 22 with
    | false => simp only [singleAccess, singleSize, byte, store, Bool.false_eq_true, if_false]; rfl
    | true => simp only [singleAccess, singleSize, byte, store, if_true]; rfl

theorem halfTransfer_saved
    (prog32 : (indexedAttempt bus getLS7RHS (halfSize instr) state instr).tested.prog32Sig = true) :
    (halfTransfer bus state instr).spsr .abortbank =
      (indexedAttempt bus getLS7RHS (halfSize instr) state instr).saved := by
  refine indexedTransfer_saved getLS7RHS (halfSize instr) ?_ ?_ prog32
  · intro load address read32
    cases signed : instr.getLsbD 6 <;> cases half : instr.getLsbD 5 <;>
      simp only [halfAccess, halfSize, load, signed, half, if_true, Bool.and_true, Bool.and_false,
        Bool.not_true, Bool.not_false, Bool.false_eq_true, if_false] at read32 ⊢ <;>
      exact loadData_saved _ (fun read _ => writeDest_spsr read instr _) address read32
  · intro store address
    simp only [halfAccess, halfSize, store, Bool.false_and, Bool.false_eq_true, if_false]
    rfl

theorem doubleWriteBack_spsr (state : ARMulState Mem) (instr : ARMword) (address : DoubleAddress) :
    (doubleWriteBack state instr address).spsr = state.spsr := by
  simp only [doubleWriteBack]
  split <;> rfl

theorem handleLoadDouble_saved {attempt : Attempt Mem}
    (attempts : loadDoubleAttempt bus state instr = some attempt)
    (prog32 : attempt.tested.prog32Sig = true) :
    (handleLoadDouble bus traps state instr).spsr .abortbank = attempt.saved := by
  have tested := Attempt.tested_self prog32
  unfold loadDoubleAttempt at attempts
  unfold handleLoadDouble
  dsimp only at attempts ⊢
  split at attempts
  · rename_i accepted
    cases attempts
    rw [if_pos accepted]
    exact tested.ends (Attempt.taken_flag rfl) (doubleWriteBack_spsr _ instr _)
  · cases attempts

theorem handleStoreDouble_saved {attempt : Attempt Mem}
    (attempts : storeDoubleAttempt bus state instr = some attempt)
    (prog32 : attempt.tested.prog32Sig = true) :
    (handleStoreDouble bus traps state instr).spsr .abortbank = attempt.saved := by
  have tested := Attempt.tested_self prog32
  unfold storeDoubleAttempt at attempts
  unfold handleStoreDouble
  dsimp only at attempts ⊢
  split at attempts
  · rename_i accepted
    cases attempts
    rw [if_pos accepted]
    exact tested.ends (Attempt.taken_flag rfl) (doubleWriteBack_spsr _ instr _)
  · cases attempts

theorem swapEnd_saved {size : AccessSize}
    {swap : ARMulState Mem → ARMword → ARMword → ARMulState Mem × ARMword} (value : ARMword)
    (prog32 : (swapAttempt bus size state instr swap).tested.prog32Sig = true) :
    (swapEnd bus ((swapAttempt bus size state instr swap).tested.setReg (destReg instr)
        value)).spsr .abortbank =
      (swapAttempt bus size state instr swap).saved := by
  have tested := (Attempt.tested_self prog32).file
    (show (swapAttempt bus size state instr swap).tested.setReg (destReg instr) value = _ from rfl)
  simp only [swapEnd]
  split
  · rename_i faulted
    exact tested.takes faulted
  · rename_i clear
    exact tested.leaves (Bool.eq_false_iff.mpr clear)

theorem writeBack_file (instr wbBase : ARMword) (state : ARMulState Mem) :
    writeBack instr wbBase state = { state with file := (writeBack instr wbBase state).file } := by
  simp only [writeBack]
  split <;> rfl

theorem writeBackLate_file (instr wbBase : ARMword) (state : ARMulState Mem) :
    writeBackLate instr wbBase state =
      { state with file := (writeBackLate instr wbBase state).file } := by
  simp only [writeBackLate]
  split
  · rfl
  · exact writeBack_file instr wbBase state

theorem toOwnBank_file (state : ARMulState Mem) :
    toOwnBank state = { state with file := (toOwnBank state).file } := by
  simp only [toOwnBank]
  split <;> rfl

theorem coprocessorBase_file (state : ARMulState Mem) (instr base : ARMword) :
    coprocessorBase state instr base =
      { state with file := (coprocessorBase state instr base).file } := by
  simp only [coprocessorBase]
  split <;> rfl

theorem returnFromList_spsr (state : ARMulState Mem) :
    (returnFromList state).spsr = state.spsr := by
  have restored : (if inUserMode state.mode then state
      else armulCPSRAltered { state with cpsr := armulGetSPSR state state.mode }).spsr =
        state.spsr := by
    split
    · rfl
    · exact armulCPSRAltered_spsr _
  exact restored

theorem blockFinished_saved {attempt : Attempt Mem} (tested : attempt.Tested state)
    (flag : attempt.taken = (state.aborted != 0#32)) (wbBase : ARMword) :
    (blockFinished bus instr wbBase state).spsr .abortbank = attempt.saved := by
  have late (moved : ARMulState Mem) (reached : attempt.Tested moved)
      (same : moved.aborted = state.aborted) :
      (if moved.aborted = 0#32 then moved else takeAbort bus moved).spsr .abortbank =
        attempt.saved := by
    rw [← same] at flag
    exact reached.ends flag rfl
  have returned (based : ARMulState Mem) :
      (let returned :=
        if instr.getLsbD 15 && based.aborted == 0#32 then returnFromList based else based
      if instr.getLsbD 15 then returned else toOwnBank returned).spsr = based.spsr := by
    have kept : (if instr.getLsbD 15 && based.aborted == 0#32 then returnFromList based
        else based).spsr = based.spsr := by
      split
      · exact returnFromList_spsr based
      · rfl
    dsimp only
    split
    · exact kept
    · rw [toOwnBank_file]
      exact kept
  simp only [blockFinished]
  split
  · exact late _ (tested.file (writeBackLate_file instr wbBase state))
      (writeBackLate_aborted state instr wbBase)
  · refine tested.ends flag ?_
    rw [writeBack_file]
    split <;> rfl
  · refine late _ (Attempt.Tested.file ?_ (writeBackLate_file instr wbBase _))
      ((writeBackLate_aborted _ instr wbBase).trans ?_)
    · split
      · exact tested.file (toOwnBank_file state)
      · exact tested
    · split
      · exact toOwnBank_aborted state
      · rfl
  · rw [returned]
    split
    · rename_i clear
      rw [writeBack_file]
      exact tested.clear flag clear
    · rename_i faulted
      exact (tested.file (writeBackLate_file instr wbBase state)).takes
        (flag.trans (bne_iff_ne.mpr faulted))

theorem coprocessorBase_saved {attempt : Attempt Mem} (tested : attempt.Tested state)
    (flag : attempt.taken = accessAborted state) (base : ARMword) :
    (let based := coprocessorBase state instr base
      if accessAborted based then takeAbort bus based else based).spsr .abortbank =
        attempt.saved := by
  have reached := tested.file (coprocessorBase_file state instr base)
  have same : accessAborted (coprocessorBase state instr base) = accessAborted state := by
    rw [coprocessorBase_file]
    rfl
  dsimp only
  split
  · rename_i faulted
    exact reached.takes (flag.trans (same.symm.trans faulted))
  · rename_i fine
    exact reached.leaves (flag.trans (same.symm.trans (Bool.eq_false_iff.mpr fine)))

theorem cpTakeAbort_saved {attempt : Attempt Mem} (tested : attempt.Tested state)
    (flag : attempt.taken = (state.aborted != 0#32)) :
    (cpTakeAbort bus state).spsr .abortbank = attempt.saved := by
  simp only [cpTakeAbort]
  split
  · rename_i clear
    rw [← tested.clear flag clear, armulAbort_spsr, tested.prog32]
    exact Function.update_of_ne (by decide : Bank.abortbank ≠ .undefbank) (armulGetCPSR state)
      state.spsr
  · rename_i faulted
    exact tested.faulted flag faulted

theorem coprocessorWords_saved {address base : ARMword} {attempt : Attempt Mem}
    (attempts : coprocessorAttempt bus cops state instr address = some attempt)
    (prog32 : attempt.tested.prog32Sig = true) :
    (coprocessorWords bus cops state instr address base).spsr .abortbank = attempt.saved := by
  have tested := Attempt.tested_self prog32
  unfold coprocessorAttempt at attempts
  unfold coprocessorWords
  cases answer : cops.transfer instr state.mem with
  | done mem vector =>
      rw [answer] at attempts
      dsimp only at attempts ⊢
      split at attempts
      · rename_i load
        cases attempts
        rw [if_pos load]
        exact coprocessorBase_saved tested rfl base
      · rename_i store
        cases attempts
        rw [if_neg store]
        exact coprocessorBase_saved tested rfl base
  | cant mem =>
      rw [answer] at attempts
      cases attempts
      exact cpTakeAbort_saved tested (Attempt.taken_flag rfl)
  | interrupted mem vector =>
      rw [answer] at attempts
      cases attempts

theorem mainSwitch_saved {attempt : Attempt Mem}
    (attempts : attemptOf bus cops state instr = some attempt)
    (prog32 : attempt.tested.prog32Sig = true) :
    (mainSwitch bus traps cops state pc instr).spsr .abortbank = attempt.saved := by
  unfold attemptOf at attempts
  unfold mainSwitch
  cases transfers : transferOf instr with
  | some kind =>
      rw [transfers] at attempts
      cases kind with
      | single =>
          cases attempts
          exact singleTransfer_saved prog32
      | half =>
          cases attempts
          exact halfTransfer_saved prog32
      | loadDouble => exact handleLoadDouble_saved attempts prog32
      | storeDouble => exact handleStoreDouble_saved attempts prog32
      | swapWord =>
          cases attempts
          exact swapEnd_saved _ prog32
      | swapByte =>
          cases attempts
          exact swapEnd_saved _ prog32
  | none =>
      rw [transfers] at attempts
      dsimp only at attempts ⊢
      split at attempts
      · rename_i block
        cases attempts
        rw [block]
        refine (congrArg (fun final => final.spsr .abortbank)
          (blockTransfer_finished bus state instr)).trans ?_
        exact blockFinished_saved (Attempt.tested_self prog32) (Attempt.taken_flag rfl) _
      · rename_i coprocessor
        rw [coprocessor]
        simp only [coprocessorTransfer]
        split at attempts
        · cases attempts
        · rename_i known
          rw [if_neg known]
          exact coprocessorWords_saved attempts prog32
      · cases attempts

theorem prog32_stable : Stable fun state : ARMulState Mem => state.prog32Sig = true where
  status holds same := (congrArg (·.view.prog32Sig) same).trans holds
  setReg _ _ holds := holds
  exchange _ holds := holds

theorem armulAbort_prog32 (highVectors : Mem → Bool) (prog32 : state.prog32Sig = true)
    (vector : Vector) : (armulAbort highVectors state vector).prog32Sig = true := by
  have core : (armulAbort highVectors state vector).core = state.core :=
    (show Jumps True state _ from jumps_abort highVectors prog32 vector).core
  exact (congrArg Core.prog32Sig core).trans prog32

theorem indexedAttempt_prog32 (offset : ARMulState Mem → ARMword → ARMword) (size : AccessSize)
    (prog32 : state.prog32Sig = true) :
    (indexedAttempt bus offset size state instr).tested.prog32Sig = true := by
  simp only [indexedAttempt]
  split
  · exact prog32_stable.read bus size _ (prog32_stable.bususedincpcs prog32)
  · exact prog32_stable.write bus size _ _ (prog32_stable.bususedincpcn prog32)

theorem transferAttempt_prog32 {kind : Transfer} {attempt : Attempt Mem}
    (attempts : transferAttempt bus state instr kind = some attempt)
    (prog32 : state.prog32Sig = true) : attempt.tested.prog32Sig = true := by
  have started := prog32_stable.bususedincpcs prog32
  cases kind with
  | single =>
      cases attempts
      refine indexedAttempt_prog32 _ _ ?_
      simp only [singleStarted]
      split <;> exact prog32
  | half =>
      cases attempts
      exact indexedAttempt_prog32 _ _ prog32
  | loadDouble =>
      simp only [transferAttempt, loadDoubleAttempt] at attempts
      split at attempts <;> cases attempts
      exact prog32_stable.read bus .word _ (prog32_stable.read bus .word _ started)
  | storeDouble =>
      simp only [transferAttempt, storeDoubleAttempt] at attempts
      split at attempts <;> cases attempts
      exact prog32_stable.write bus .word _ _ (prog32_stable.write bus .word _ _ started)
  | swapWord =>
      cases attempts
      exact prog32_stable.read bus .word _ started
  | swapByte =>
      cases attempts
      exact prog32_stable.write bus .byte _ _ (prog32_stable.read bus .byte _ started)

theorem blockAttempt_prog32 (prog32 : state.prog32Sig = true) :
    (blockAttempt bus state instr).tested.prog32Sig = true := by
  have loads (sticky : Bool) (state : ARMulState Mem) (index : Nat) (address : ARMword)
      (prog32 : state.prog32Sig = true) :
      (loadListed bus sticky state index address).prog32Sig = true := by
    have read := prog32_stable.read bus .word address prog32
    simp only [loadListed]
    split
    · exact read
    · split <;> exact read
  have switched (state : ARMulState Mem) (prog32 : state.prog32Sig = true) :
      (toUserBank state).prog32Sig = true := by
    simp only [toUserBank]
    split <;> exact prog32
  have started : (blockStarted state instr).prog32Sig = true := by
    simp only [blockStarted]
    split
    · split
      · exact prog32
      · exact prog32_stable.bususedincpcn prog32
    · exact prog32_stable.bususedincpcs prog32
    · exact switched _ (prog32_stable.bususedincpcn prog32)
    · split
      · exact prog32_stable.bususedincpcs prog32
      · exact switched _ (prog32_stable.bususedincpcs prog32)
  unfold blockAttempt blockMoved blockFirst blockNext
  dsimp only
  split
  · exact transferAll_kept (loads _) (loads _) started
  · exact transferAll_kept (prog32_stable.storeListed bus) (prog32_stable.storeListed bus) started

theorem coprocessorAttempt_prog32 {address : ARMword} {attempt : Attempt Mem}
    (attempts : coprocessorAttempt bus cops state instr address = some attempt)
    (prog32 : state.prog32Sig = true) : attempt.tested.prog32Sig = true := by
  simp only [coprocessorAttempt] at attempts
  split at attempts
  · rename_i mem vector _
    have answered : { state with mem }.prog32Sig = true := prog32
    have accepted : (raised bus { state with mem } vector).prog32Sig = true := by
      cases vector with
      | none => exact answered
      | some vector => exact armulAbort_prog32 bus.highVectors answered vector
    split at attempts <;> cases attempts
    · exact prog32_stable.ldcWords bus cops instr address accepted
    · exact prog32_stable.stcWords bus cops instr address accepted
  · cases attempts
    exact prog32
  · cases attempts

theorem attempt_prog32 {attempt : Attempt Mem} (prog32 : state.prog32Sig = true)
    (attempts : attemptOf bus cops state instr = some attempt) :
    attempt.tested.prog32Sig = true := by
  simp only [attemptOf] at attempts
  split at attempts
  · exact transferAttempt_prog32 attempts prog32
  · split at attempts
    · cases attempts
      exact blockAttempt_prog32 prog32
    · split at attempts
      · cases attempts
      · exact coprocessorAttempt_prog32 attempts prog32
    · cases attempts

end Taken

end SkyeyeStarlet
