import SkyeyeStarlet.Outcomes

/-!
The flow of each family of instructions: under `regularArm` every instruction has
one of the outcomes of `Outcome`.
-/

namespace SkyeyeStarlet

variable {Mem : Type} {W : Prop} {before middle after : ARMulState Mem}

/-- The trap of the machine reads memory to print it, and changes nothing else. -/
structure TrapsReadOnly (traps : Traps Mem) : Prop where
  steady : ∀ state instr, Steady state (traps.undfTrap state instr).1

theorem Outcome.refl {state : ARMulState Mem} (ready : state.nextInstr = 0#8) :
    Outcome W state state := by
  exact (through_refl ready).outcome rfl

theorem outcome_undefInstr (bus : Bus Mem) {traps : Traps Mem} (trapsRead : TrapsReadOnly traps)
    {state : ARMulState Mem} (ready : state.nextInstr = 0#8)
    (prog32 : state.core.prog32Sig = true) (instr : ARMword) :
    Outcome W state (armulUndefInstr bus traps state instr) := by
  have steady := trapsRead.steady state instr
  unfold armulUndefInstr
  dsimp only
  split
  · exact steady.outcome ready
  · exact (jumps_abort _ (by rw [steady.core]; exact prog32) _).outcome steady.core

section DataProcessing

theorem steady_assignC (state : ARMulState Mem) (carry : Bool) :
    Steady state (assignC state carry) := by
  exact steady_flags state rfl

theorem steady_negZero (state : ARMulState Mem) (result : ARMword) :
    Steady state (negZero state result) := by
  exact steady_flags state rfl

theorem steady_addFlags (state : ARMulState Mem) (lhs rhs dest : ARMword) :
    Steady state (addFlags state lhs rhs dest) := by
  unfold addFlags
  split
  · exact steady_flags state rfl
  · exact steady_flags state rfl

theorem steady_subFlags (state : ARMulState Mem) (lhs rhs dest : ARMword) :
    Steady state (subFlags state lhs rhs dest) := by
  unfold subFlags
  split
  · exact steady_flags state rfl
  · exact steady_flags state rfl

theorem steady_opcodeFlags (opcode : Opcode) (state : ARMulState Mem) (lhs rhs dest : ARMword) :
    Steady state (opcode.flags state lhs rhs dest) := by
  cases opcode <;>
    first
      | exact Steady.refl state
      | exact steady_addFlags state _ _ _
      | exact steady_subFlags state _ _ _

theorem dpRegRHS_through {state : ARMulState Mem} (ready : state.nextInstr = 0#8)
    (instr : ARMword) :
    Through state (dpRegRHS state instr).1 ∧ (dpRegRHS state instr).1.core = state.core ∧
      (dpRegRHS state instr).1.mode = state.mode := by
  unfold dpRegRHS
  split
  · exact ⟨through_refl ready, rfl, rfl⟩
  · dsimp only
    split
    · exact ⟨through_incpc ready, rfl, rfl⟩
    · exact ⟨through_refl ready, rfl, rfl⟩

theorem dpsRegRHS_steady (state : ARMulState Mem) (instr : ARMword) :
    Steady (dpRegRHS state instr).1 (dpsRegRHS state instr).1 := by
  unfold dpRegRHS dpsRegRHS
  split
  · exact Steady.refl state
  · dsimp only
    cases (shiftOperand (if instr.getLsbD 4 = true then incpc state else state) instr).carry with
    | none => exact Steady.refl _
    | some carry => exact steady_assignC _ carry

theorem plainRHS_through {state : ARMulState Mem} (ready : state.nextInstr = 0#8)
    (instr : ARMword) :
    Through state (plainRHS state instr).1 ∧ (plainRHS state instr).1.core = state.core := by
  unfold plainRHS
  split
  · exact ⟨through_refl ready, rfl⟩
  · obtain ⟨through, core, _⟩ := dpRegRHS_through ready instr
    exact ⟨through, core⟩

theorem carryRHS_through {state : ARMulState Mem} (ready : state.nextInstr = 0#8)
    (instr : ARMword) :
    Through state (carryRHS state instr).1 ∧ (carryRHS state instr).1.core = state.core := by
  unfold carryRHS
  split
  · unfold dpsImmRHS
    split
    · exact ⟨through_refl ready, rfl⟩
    · exact ⟨(through_refl ready).steady (steady_assignC state _), rfl⟩
  · obtain ⟨through, core, _⟩ := dpRegRHS_through ready instr
    have steady := dpsRegRHS_steady state instr
    exact ⟨through.steady steady, steady.core.trans core⟩

theorem Outcome.writeDest (outcome : Outcome W before middle) (instr value : ARMword) :
    Outcome W before (SkyeyeStarlet.writeDest middle instr value) := by
  unfold SkyeyeStarlet.writeDest
  split
  · exact (jumps_writeR15 middle value).outcome outcome.core
  · rename_i notPc
    exact outcome.steady (steady_setReg middle notPc value)

theorem Outcome.writeDestB (outcome : Outcome W before middle) (instr value : ARMword) :
    Outcome W before (SkyeyeStarlet.writeDestB middle instr value) := by
  unfold SkyeyeStarlet.writeDestB
  split
  · exact (jumps_writeR15Branch middle value).outcome outcome.core
  · rename_i notPc
    exact outcome.steady (steady_setReg middle notPc value)

theorem Outcome.writeSDest (outcome : Outcome W before middle)
    (prog32 : before.core.prog32Sig = true) (instr value : ARMword) :
    Outcome W before (SkyeyeStarlet.writeSDest middle instr value) := by
  unfold SkyeyeStarlet.writeSDest
  split
  · exact (jumps_writeSR15 (by rw [outcome.core]; exact prog32) value).outcome outcome.core
  · rename_i notPc
    exact outcome.steady
      ((steady_setReg middle notPc value).trans (steady_negZero _ value))

theorem outcome_dataPlain {state : ARMulState Mem} (ready : state.nextInstr = 0#8)
    (instr : ARMword) : Outcome W state (dataPlain state instr) := by
  obtain ⟨through, core⟩ := plainRHS_through ready instr
  exact (through.outcome core).writeDest instr _

theorem outcome_dataFlags {state : ARMulState Mem} (ready : state.nextInstr = 0#8)
    (prog32 : state.core.prog32Sig = true) (instr : ARMword) :
    Outcome W state (dataFlags state instr) := by
  unfold dataFlags
  split
  · obtain ⟨through, core⟩ := plainRHS_through ready instr
    exact ((through.outcome core).steady (steady_opcodeFlags _ _ _ _ _)).writeSDest prog32 instr _
  · obtain ⟨through, core⟩ := carryRHS_through ready instr
    exact (through.outcome core).writeSDest prog32 instr _

def regularTest (state : ARMulState Mem) (instr : ARMword) : Prop :=
  destReg instr = 15#4 → (armulGetSPSR state state.mode).getLsbD 5 = state.tFlag

theorem outcome_dataTest {state : ARMulState Mem} (ready : state.nextInstr = 0#8)
    (prog32 : state.core.prog32Sig = true) (mode32 : mode32bit state.mode = true)
    {instr : ARMword} (regular : regularTest state instr) :
    Outcome W state (dataTest state instr) := by
  unfold dataTest
  split
  · rename_i pcDest
    exact (through_refl ready).altered rfl prog32 mode32 (regular pcDest)
  · split
    · obtain ⟨through, core⟩ := plainRHS_through ready instr
      exact (through.outcome core).steady
        ((steady_negZero _ _).trans (steady_opcodeFlags _ _ _ _ _))
    · obtain ⟨through, core⟩ := carryRHS_through ready instr
      exact (through.outcome core).steady (steady_negZero _ _)

end DataProcessing

section Registers

theorem steady_scc64 (state : ARMulState Mem) (instr hi lo : ARMword) :
    Steady state (scc64 state instr hi lo) := by
  unfold scc64
  split
  · exact steady_negZero state _
  · exact Steady.refl state

theorem steady_multiplied64 (state : ARMulState Mem) (instr : ARMword) :
    Steady state (multiplied64 state instr).1 := by
  unfold multiplied64
  split
  · rename_i legal
    simp only [multiply64Legal, Bool.and_eq_true, bne_iff_ne] at legal
    exact (steady_setReg state legal.1.1.1.1.1.2 _).trans
      (steady_setReg _ legal.1.1.1.1.1.1 _)
  · exact Steady.refl state

def regularMultiply (instr : ARMword) : Prop :=
  match instr.getLsbD 23, instr.getLsbD 21 with
  | false, _ => ¬(lhsReg instr = 15#4 ∧ rhsReg instr = 15#4)
  | true, false => True
  | true, true => lhsReg instr ≠ 15#4 ∧ destReg instr ≠ 15#4

theorem steady_multiply (state : ARMulState Mem) {instr : ARMword}
    (regular : ¬(lhsReg instr = 15#4 ∧ rhsReg instr = 15#4)) :
    Steady state (multiply state instr) := by
  unfold multiply
  dsimp only
  split
  · exact Steady.refl state
  · rename_i written
    have notPc : instr.extractLsb' 16 4 ≠ 15#4 := by
      intro pcDest
      by_cases same : instr.extractLsb' 0 4 = instr.extractLsb' 16 4
      · exact regular ⟨pcDest, same.trans pcDest⟩
      · exact written ⟨same, pcDest⟩
    split
    · exact (steady_negZero state _).trans (steady_setReg _ notPc _)
    · exact steady_setReg state notPc _

theorem steady_multiplyCase (state : ARMulState Mem) {instr : ARMword}
    (regular : regularMultiply instr) : Steady state (multiplyCase state instr) := by
  unfold multiplyCase
  unfold regularMultiply at regular
  cases long : instr.getLsbD 23 <;> cases adds : instr.getLsbD 21 <;>
    simp only [long, adds] at regular ⊢
  · exact steady_multiply state regular
  · exact steady_multiply state regular
  · exact (steady_multiplied64 state instr).trans (steady_scc64 _ _ _ _)
  · exact (((steady_multiplied64 state instr).trans (steady_setReg _ regular.2 _)).trans
      (steady_setReg _ regular.1 _)).trans (steady_scc64 _ _ _ _)

def regularSigned (instr : ARMword) : Prop :=
  lhsReg instr ≠ 15#4 ∧ (instr.extractLsb' 21 2 = 2#2 → destReg instr ≠ 15#4)

theorem steady_sets (state : ARMulState Mem) (saturated : Bool) :
    Steady state (sets state saturated) := by
  exact steady_flags state rfl

theorem steady_signedMultiply (state : ARMulState Mem) {instr : ARMword}
    (regular : regularSigned instr) : Steady state (signedMultiply state instr) := by
  unfold signedMultiply
  dsimp only
  split
  · exact (steady_sets state _).trans (steady_setReg _ regular.1 _)
  · split
    · exact steady_setReg state regular.1 _
    · exact (steady_sets state _).trans (steady_setReg _ regular.1 _)
  · rename_i long
    exact (steady_setReg state (regular.2 long) _).trans (steady_setReg _ regular.1 _)
  · exact steady_setReg state regular.1 _

theorem steady_saturating (state : ARMulState Mem) {instr : ARMword}
    (regular : destReg instr ≠ 15#4) : Steady state (saturating state instr) := by
  exact (steady_sets state _).trans (steady_setReg _ regular _)

theorem steady_armulFixSPSR (state : ARMulState Mem) (instr rhs : ARMword) :
    Steady state (armulFixSPSR state instr rhs) := by
  unfold armulFixSPSR
  dsimp only
  split
  · exact ⟨rfl, Or.inl rfl⟩
  · exact Steady.refl state

def keepsThumb (state : ARMulState Mem) (instr rhs : ARMword) : Prop :=
  (fixedCPSR state instr rhs).getLsbD 5 = state.tFlag

/-- Cases `0x10` and `0x14`, `0x12`, and `0x16` do not write register 15 or the T bit
without filling the pipeline again. -/
def regularMrs (state : ARMulState Mem) (instr : ARMword) : Prop :=
  if state.isV5e && isSignedMultiply instr then regularSigned instr
  else if (state.isV5e && instr.extractLsb' 4 8 == 5#8) = true ∨
      instr.extractLsb' 0 12 = 0#12 ∧ lhsReg instr = 15#4 then destReg instr ≠ 15#4
  else True

def regularMsr (state : ARMulState Mem) (instr : ARMword) : Prop :=
  if state.isV5 && instr.extractLsb' 4 4 == 3#4 then True
  else if state.isV5e && isSignedMultiply instr then regularSigned instr
  else if state.isV5e && instr.extractLsb' 4 8 == 5#8 then destReg instr ≠ 15#4
  else if instr.extractLsb' 4 24 = 0x12fff1#24 ∨ destReg instr ≠ 15#4 then True
  else
    keepsThumb (dpRegRHS state instr).1 instr ((dpRegRHS state instr).2 &&& ~~~0x20#32)

def regularClz (state : ARMulState Mem) (instr : ARMword) : Prop :=
  if state.isV5e && isSignedMultiply instr then regularSigned instr
  else if (state.isV5e && instr.extractLsb' 4 8 == 5#8) = true ∨
      (state.isV5 && instr.extractLsb' 4 8 == 0xf1#8 && instr.extractLsb' 16 4 == 15#4) = true
    then destReg instr ≠ 15#4
  else True

def regularStatus (state : ARMulState Mem) (instr : ARMword) : Prop :=
  match instr.getLsbD 25, instr.getLsbD 22, instr.getLsbD 21 with
  | false, _, false => regularMrs state instr
  | false, false, true => regularMsr state instr
  | false, true, true => regularClz state instr
  | true, false, true => destReg instr = 15#4 → keepsThumb state instr (dpImmRHS instr)
  | _, _, _ => True

theorem steady_mrsCase (state : ARMulState Mem) {instr : ARMword}
    (regular : regularMrs state instr) : Steady state (mrsCase state instr) := by
  unfold mrsCase
  unfold regularMrs at regular
  split at regular
  · rename_i signed
    rw [if_pos signed]
    exact steady_signedMultiply state regular
  · rename_i notSigned
    rw [if_neg notSigned]
    split
    · rename_i saturates
      rw [if_pos (Or.inl saturates)] at regular
      exact steady_saturating state regular
    · split
      · rename_i reads
        rw [if_pos (Or.inr reads)] at regular
        exact steady_setReg state regular _
      · exact Steady.refl state

theorem outcome_clzCase {state : ARMulState Mem} (ready : state.nextInstr = 0#8)
    {instr : ARMword} (regular : regularClz state instr) :
    Outcome W state (clzCase state instr) := by
  unfold clzCase
  unfold regularClz at regular
  split at regular
  · rename_i signed
    rw [if_pos signed]
    exact (steady_signedMultiply state regular).outcome ready
  · rename_i notSigned
    rw [if_neg notSigned]
    split
    · rename_i saturates
      rw [if_pos (Or.inl saturates)] at regular
      exact (steady_saturating state regular).outcome ready
    · split
      · rename_i counts
        rw [if_pos (Or.inr counts)] at regular
        exact (steady_setReg state regular _).outcome ready
      · split
        · obtain ⟨through, core, _⟩ := dpRegRHS_through ready instr
          exact (through.outcome core).steady (steady_armulFixSPSR _ _ _)
        · exact Outcome.refl ready

theorem outcome_msrCase {state : ARMulState Mem} (ready : state.nextInstr = 0#8)
    (prog32 : state.core.prog32Sig = true) (mode32 : mode32bit state.mode = true)
    {instr : ARMword} (regular : regularMsr state instr) (pc : ARMword) :
    Outcome W state (msrCase state pc instr) := by
  unfold msrCase
  unfold regularMsr at regular
  split at regular
  · rename_i links
    rw [if_pos links]
    exact ((jumps_writeR15Branch state _).steady (steady_setReg _ (by decide) _)).outcome rfl
  · rename_i notLinks
    rw [if_neg notLinks]
    split at regular
    · rename_i signed
      rw [if_pos signed]
      exact (steady_signedMultiply state regular).outcome ready
    · rename_i notSigned
      rw [if_neg notSigned]
      split at regular
      · rename_i saturates
        rw [if_pos saturates]
        exact (steady_saturating state regular).outcome ready
      · rename_i notSaturates
        rw [if_neg notSaturates]
        split
        · exact (jumps_writeR15Branch state _).outcome rfl
        · rename_i notBranch
          split
          · exact ⟨rfl, Or.inl rfl⟩
          · split
            · rename_i pcDest
              rw [if_neg (not_or.mpr ⟨notBranch, not_not.mpr pcDest⟩)] at regular
              obtain ⟨through, core, mode⟩ := dpRegRHS_through ready instr
              refine through.altered core prog32 (by rw [mode]; exact mode32) ?_
              exact Eq.trans regular through.thumb
            · exact Outcome.refl ready

theorem outcome_statusCase {state : ARMulState Mem} (ready : state.nextInstr = 0#8)
    (prog32 : state.core.prog32Sig = true) (mode32 : mode32bit state.mode = true)
    {instr : ARMword} (regular : regularStatus state instr) (pc : ARMword) :
    Outcome W state (statusCase state pc instr) := by
  unfold statusCase
  unfold regularStatus at regular
  cases immediate : instr.getLsbD 25 <;> cases high : instr.getLsbD 22 <;>
    cases low : instr.getLsbD 21 <;> simp only [immediate, high, low] at regular ⊢
  · exact (steady_mrsCase state regular).outcome ready
  · exact outcome_msrCase ready prog32 mode32 regular pc
  · exact (steady_mrsCase state regular).outcome ready
  · exact outcome_clzCase ready regular
  · exact Outcome.refl ready
  · split
    · rename_i pcDest
      exact (through_refl ready).altered rfl prog32 mode32 (regular pcDest)
    · exact Outcome.refl ready
  · exact Outcome.refl ready
  · split
    · exact (steady_armulFixSPSR state _ _).outcome ready
    · exact Outcome.refl ready

def regularData (state : ARMulState Mem) (instr : ARMword) : Prop :=
  if isMultiply instr then regularMultiply instr
  else if instr.extractLsb' 23 2 = 2#2 then
    if instr.getLsbD 20 then regularTest state instr else regularStatus state instr
  else True

theorem outcome_dataProcessing {state : ARMulState Mem} (ready : state.nextInstr = 0#8)
    (prog32 : state.core.prog32Sig = true) (mode32 : mode32bit state.mode = true)
    {instr : ARMword} (regular : regularData state instr) (pc : ARMword) :
    Outcome W state (dataProcessing state pc instr) := by
  unfold dataProcessing
  unfold regularData at regular
  split at regular
  · rename_i multiplies
    rw [if_pos multiplies]
    exact (steady_multiplyCase state regular).outcome ready
  · rename_i notMultiplies
    rw [if_neg notMultiplies]
    split at regular
    · rename_i tests
      rw [if_pos tests]
      split at regular
      · rename_i sets
        rw [if_pos sets]
        exact outcome_dataTest ready prog32 mode32 regular
      · rename_i plain
        rw [if_neg plain]
        exact outcome_statusCase ready prog32 mode32 regular pc
    · rename_i computes
      rw [if_neg computes]
      split
      · exact outcome_dataFlags ready prog32 instr
      · exact outcome_dataPlain ready instr

end Registers

section Transfers

variable {bus : Bus Mem}

def regularTransfer (instr : ARMword) : Transfer → Prop
  | .swapWord | .swapByte => destReg instr ≠ 15#4
  | _ => writesBack instr = true → lhsReg instr ≠ 15#4

theorem jumps_takeAbort (bus : Bus Mem) {state : ARMulState Mem} (prog32 : state.core.prog32Sig = true) :
    Jumps W state (takeAbort bus state) := by
  exact jumps_abort _ prog32 _

theorem Outcome.takeAbort (outcome : Outcome W before middle)
    (prog32 : before.core.prog32Sig = true) :
    Outcome W before (SkyeyeStarlet.takeAbort bus middle) := by
  exact (jumps_takeAbort bus (by rw [outcome.core]; exact prog32)).outcome outcome.core

theorem outcome_loadData {state : ARMulState Mem} (ready : state.nextInstr = 0#8)
    (isV4 : state.core.isV4 = true) (prog32 : state.core.prog32Sig = true) (size : AccessSize)
    {finish : ARMulState Mem → ARMword → ARMulState Mem}
    (finishes : ∀ middle value, Outcome W state middle → Outcome W state (finish middle value))
    (instr address : ARMword) :
    Outcome W state (loadData bus size finish state instr address).1 := by
  have read := (steady_bususedincpcs isV4).trans (steady_read bus size _ address)
  have outcome : Outcome W state _ := read.outcome ready
  unfold loadData
  dsimp only
  split
  · exact finishes _ _ outcome
  · exact outcome.takeAbort prog32

theorem outcome_storeData {state : ARMulState Mem} (ready : state.nextInstr = 0#8)
    (isV4 : state.core.isV4 = true) (prog32 : state.core.prog32Sig = true) (size : AccessSize)
    (instr address : ARMword) :
    Outcome W state (storeData bus size state instr address).1 := by
  have written := (steady_bususedincpcn isV4).trans
    (steady_write bus size _ address ((bususedincpcn state).reg (destReg instr)))
  have outcome : Outcome W state _ := written.outcome ready
  unfold storeData
  dsimp only
  split
  · exact outcome
  · exact outcome.takeAbort prog32

theorem outcome_singleAccess {state : ARMulState Mem} (ready : state.nextInstr = 0#8)
    (isV4 : state.core.isV4 = true) (prog32 : state.core.prog32Sig = true)
    (instr address : ARMword) :
    Outcome W state (singleAccess bus state instr address).1 := by
  unfold singleAccess
  split
  · exact outcome_storeData ready isV4 prog32 _ _ _
  · exact outcome_loadData ready isV4 prog32 _
      (fun middle value outcome => outcome.writeDestB instr _) _ _
  · exact outcome_storeData ready isV4 prog32 _ _ _
  · exact outcome_loadData ready isV4 prog32 _
      (fun middle value outcome => outcome.writeDest instr _) _ _

theorem outcome_halfAccess {state : ARMulState Mem} (ready : state.nextInstr = 0#8)
    (isV4 : state.core.isV4 = true) (prog32 : state.core.prog32Sig = true)
    (instr address : ARMword) :
    Outcome W state (halfAccess bus state instr address).1 := by
  unfold halfAccess
  split
  · split
    · exact outcome_loadData ready isV4 prog32 _
        (fun middle value outcome => outcome.writeDest instr _) _ _
    · exact outcome_loadData ready isV4 prog32 _
        (fun middle value outcome => outcome.writeDest instr _) _ _
    · exact outcome_loadData ready isV4 prog32 _
        (fun middle value outcome => outcome.writeDest instr _) _ _
  · exact outcome_storeData ready isV4 prog32 _ _ _

theorem outcome_indexedTransfer {offset : ARMulState Mem → ARMword → ARMword}
    {access : ARMulState Mem → ARMword → ARMword → ARMulState Mem × Bool}
    {state : ARMulState Mem} {instr : ARMword}
    (accesses : ∀ address, Outcome W state (access state instr address).1)
    (regular : writesBack instr = true → lhsReg instr ≠ 15#4) :
    Outcome W state (indexedTransfer offset access state instr) := by
  unfold indexedTransfer
  dsimp only
  split
  · split
    · rename_i writes
      have notPc : lhsReg instr ≠ 15#4 := by
        apply regular
        rw [writesBack, (Bool.and_eq_true_iff.mp writes).1, Bool.or_true]
      exact (accesses _).steady (steady_setReg _ notPc _)
    · exact accesses _
  · rename_i post
    split
    · have notPc : lhsReg instr ≠ 15#4 := by
        apply regular
        rw [Bool.not_eq_true] at post
        rw [writesBack, post]
        rfl
      exact (accesses _).steady (steady_setReg _ notPc _)
    · exact accesses _

theorem steady_ntransSig (state : ARMulState Mem) (ntransSig : Bool) :
    Steady state { state with ntransSig } := by
  exact ⟨rfl, Or.inl rfl⟩

theorem outcome_singleTransfer {state : ARMulState Mem} (ready : state.nextInstr = 0#8)
    (isV4 : state.core.isV4 = true) (prog32 : state.core.prog32Sig = true) {instr : ARMword}
    (regular : writesBack instr = true → lhsReg instr ≠ 15#4) :
    Outcome W state (singleTransfer bus state instr) := by
  unfold singleTransfer
  split
  · have started := steady_ntransSig state false
    refine Outcome.after_steady started (Outcome.steady ?_ (steady_ntransSig _ _))
    refine outcome_indexedTransfer (fun address => ?_) regular
    apply outcome_singleAccess
    · exact ready
    · exact isV4
    · exact prog32
  · exact outcome_indexedTransfer
      (fun address => outcome_singleAccess ready isV4 prog32 instr address) regular

theorem steady_doubleWriteBack (state : ARMulState Mem) {instr : ARMword}
    (regular : writesBack instr = true → lhsReg instr ≠ 15#4) (address : DoubleAddress) :
    Steady state (doubleWriteBack state instr address) := by
  unfold doubleWriteBack
  split
  · rename_i writes
    exact steady_setReg state (regular writes) _
  · exact Steady.refl state

theorem outcome_handleLoadDouble {traps : Traps Mem} (trapsRead : TrapsReadOnly traps)
    {state : ARMulState Mem} (ready : state.nextInstr = 0#8) (isV4 : state.core.isV4 = true)
    (prog32 : state.core.prog32Sig = true) {instr : ARMword}
    (regular : writesBack instr = true → lhsReg instr ≠ 15#4) :
    Outcome W state (handleLoadDouble bus traps state instr) := by
  unfold handleLoadDouble
  rw [bususedincpcs_v4 isV4]
  dsimp only
  split
  · rename_i taken
    have read := (steady_read bus .word state (doubleAddress state instr).addr).trans
      (steady_read bus .word _ ((doubleAddress state instr).addr + 4#32))
    split
    · simp only [doubleAddress, Bool.and_eq_true, Bool.not_eq_true', bne_iff_ne] at taken
      have even : (destReg instr).getLsbD 0 = false := taken.1.1.1.2
      have notPc : destReg instr ≠ 15#4 := by
        intro pcDest
        rw [pcDest] at even
        exact absurd even (by decide)
      have nextNotPc : destReg instr + 1#4 ≠ 15#4 := by
        intro pcNext
        exact taken.2 (by rw [← BitVec.add_sub_cancel (destReg instr) 1#4, pcNext]; rfl)
      exact (((read.trans (steady_setReg _ notPc _)).trans (steady_setReg _ nextNotPc _)).trans
        (steady_doubleWriteBack _ regular _)).outcome ready
    · exact (read.outcome ready).takeAbort prog32
  · exact outcome_undefInstr bus trapsRead ready prog32 instr

theorem outcome_handleStoreDouble {traps : Traps Mem} (trapsRead : TrapsReadOnly traps)
    {state : ARMulState Mem} (ready : state.nextInstr = 0#8) (isV4 : state.core.isV4 = true)
    (prog32 : state.core.prog32Sig = true) {instr : ARMword}
    (regular : writesBack instr = true → lhsReg instr ≠ 15#4) :
    Outcome W state (handleStoreDouble bus traps state instr) := by
  unfold handleStoreDouble
  rw [bususedincpcs_v4 isV4]
  dsimp only
  split
  · have written := (steady_write bus .word state (doubleAddress state instr).addr
      (state.reg (destReg instr))).trans (steady_write bus .word _
        ((doubleAddress state instr).addr + 4#32) ((armulWrite bus .word state
          (doubleAddress state instr).addr (state.reg (destReg instr))).reg
            (destReg instr + 1#4)))
    split
    · exact (written.trans (steady_doubleWriteBack _ regular _)).outcome ready
    · exact (written.outcome ready).takeAbort prog32
  · exact outcome_undefInstr bus trapsRead ready prog32 instr

theorem outcome_swapEnd {state : ARMulState Mem} (outcome : Outcome W before state)
    (prog32 : before.core.prog32Sig = true) : Outcome W before (swapEnd bus state) := by
  unfold swapEnd
  split
  · exact outcome.takeAbort prog32
  · exact outcome

theorem outcome_swapWord {state : ARMulState Mem} (ready : state.nextInstr = 0#8)
    (isV4 : state.core.isV4 = true) (prog32 : state.core.prog32Sig = true) {instr : ARMword}
    (regular : destReg instr ≠ 15#4) : Outcome W state (swapWord bus state instr) := by
  have swapped := ((steady_bususedincpcs isV4).trans
    (steady_read bus .word _ (lhsValue state instr))).trans (steady_mem _
      (bus.write .word (armulRead bus .word (bususedincpcs state) (lhsValue state instr)).1.mode
        (lhsValue state instr) ((bususedincpcs state).reg (rhsReg instr))
        (armulRead bus .word (bususedincpcs state) (lhsValue state instr)).1.mem).mem)
  exact outcome_swapEnd ((swapped.trans (steady_setReg _ regular _)).outcome ready) prog32

theorem outcome_swapByte {state : ARMulState Mem} (ready : state.nextInstr = 0#8)
    (isV4 : state.core.isV4 = true) (prog32 : state.core.prog32Sig = true) {instr : ARMword}
    (regular : destReg instr ≠ 15#4) : Outcome W state (swapByte bus state instr) := by
  have swapped := ((steady_bususedincpcs isV4).trans
    (steady_read bus .byte _ (lhsValue state instr))).trans (steady_write bus .byte _
      (lhsValue state instr) ((bususedincpcs state).reg (rhsReg instr)))
  exact outcome_swapEnd ((swapped.trans (steady_setReg _ regular _)).outcome ready) prog32

theorem outcome_dataTransfer {traps : Traps Mem} (trapsRead : TrapsReadOnly traps)
    {state : ARMulState Mem} (ready : state.nextInstr = 0#8) (isV4 : state.core.isV4 = true)
    (prog32 : state.core.prog32Sig = true) {instr : ARMword} {kind : Transfer}
    (regular : regularTransfer instr kind) :
    Outcome W state (dataTransfer bus traps state instr kind) := by
  cases kind with
  | single => exact outcome_singleTransfer ready isV4 prog32 regular
  | half =>
      exact outcome_indexedTransfer
        (fun address => outcome_halfAccess ready isV4 prog32 instr address) regular
  | loadDouble => exact outcome_handleLoadDouble trapsRead ready isV4 prog32 regular
  | storeDouble => exact outcome_handleStoreDouble trapsRead ready isV4 prog32 regular
  | swapWord => exact outcome_swapWord ready isV4 prog32 regular
  | swapByte => exact outcome_swapByte ready isV4 prog32 regular

end Transfers

section Blocks

variable {bus : Bus Mem}

theorem transferRest_related {Related : ARMulState Mem → ARMulState Mem → Prop}
    (refl : ∀ state, Related state state)
    (trans : ∀ first second third, Related first second → Related second third →
      Related first third)
    {transfer : ARMulState Mem → Nat → ARMword → ARMulState Mem} {list : List Nat}
    (each : ∀ state index address, index ∈ list → Related state (transfer state index address))
    (address : ARMword) (state : ARMulState Mem) :
    Related state (transferRest transfer list address state) := by
  induction list generalizing address state with
  | nil => exact refl state
  | cons index rest ih =>
      have moved := each state index (address + 4#32) List.mem_cons_self
      unfold transferRest
      dsimp only
      split
      · exact trans _ _ _ moved
          (ih (fun state index address member =>
            each state index address (List.mem_cons_of_mem _ member)) _ _)
      · exact moved

theorem transferAll_related {Related : ARMulState Mem → ARMulState Mem → Prop}
    (refl : ∀ state, Related state state)
    (trans : ∀ first second third, Related first second → Related second third →
      Related first third)
    {first transfer : ARMulState Mem → Nat → ARMword → ARMulState Mem} {instr : ARMword}
    (starts : ∀ state address, Related state (first state (firstListed instr) address))
    (each : ∀ state index address, index ∈ laterListed instr →
      Related state (transfer state index address))
    (address : ARMword) (state : ARMulState Mem) :
    Related state (transferAll first transfer instr address state) := by
  unfold transferAll
  dsimp only
  split
  · exact trans _ _ _ (starts state address) (transferRest_related refl trans each _ _)
  · exact starts state address

theorem setRawReg_pc (file : Registers) {index : Nat} (notPc : index ≠ 15) (value : ARMword) :
    (setRawReg file index value).reg 15#4 = file.reg 15#4 := by
  unfold setRawReg
  split
  · rename_i small
    refine Function.update_of_ne ?_ _ _
    intro same
    have sizes := congrArg BitVec.toNat same
    simp only [BitVec.toNat_ofNat] at sizes
    omega
  · rfl

theorem steady_loadListed (sticky : Bool) (state : ARMulState Mem) {index : Nat}
    (notPc : index ≠ 15) (address : ARMword) :
    Steady state (loadListed bus sticky state index address) := by
  have read := steady_read bus .word state address
  unfold loadListed
  dsimp only
  split
  · exact read.trans (steady_file _ (setRawReg_pc _ notPc _))
  · split
    · exact read.trans (steady_aborted _ _)
    · exact read

theorem loadListed_core (sticky : Bool) (state : ARMulState Mem) (index : Nat)
    (address : ARMword) : (loadListed bus sticky state index address).core = state.core := by
  have read := (steady_read bus .word state address).core
  unfold loadListed
  dsimp only
  split
  · exact read
  · split
    · exact read
    · exact read

theorem steady_storeListed (state : ARMulState Mem) (index : Nat) (address : ARMword) :
    Steady state (storeListed bus state index address) := by
  have written := steady_write bus .word state address (rawReg state.file index)
  unfold storeListed
  dsimp only
  split
  · exact written.trans (steady_aborted _ _)
  · exact written

theorem firstListed_ne_pc {instr : ARMword} (unlisted : instr.getLsbD 15 = false) :
    firstListed instr ≠ 15 := by
  intro first
  unfold firstListed at first
  cases found : (List.range 32).find? fun index => instr.getLsbD index with
  | none =>
      rw [found] at first
      exact absurd first (by decide)
  | some index =>
      rw [found] at first
      have listed := List.find?_some found
      rw [show index = 15 from first, unlisted] at listed
      exact absurd listed (by decide)

theorem laterListed_ne_pc {instr : ARMword} (unlisted : instr.getLsbD 15 = false) {index : Nat}
    (member : index ∈ laterListed instr) : index ≠ 15 := by
  rintro rfl
  have listed := (List.mem_filter.mp member).2
  rw [unlisted, Bool.and_false] at listed
  exact absurd listed (by decide)

theorem steady_loadAll (bus : Bus Mem) {instr : ARMword} (unlisted : instr.getLsbD 15 = false)
    (sticky : Bool) (address : ARMword) (state : ARMulState Mem) :
    Steady state
      (transferAll (loadListed bus sticky) (loadListed bus true) instr address state) := by
  refine transferAll_related Steady.refl (fun _ _ _ => Steady.trans) ?_ ?_ address state
  · intro state address
    exact steady_loadListed sticky state (firstListed_ne_pc unlisted) address
  · intro state index address member
    exact steady_loadListed true state (laterListed_ne_pc unlisted member) address

def SameCore (before after : ARMulState Mem) : Prop :=
  after.core = before.core

theorem loadAll_core (bus : Bus Mem) (instr : ARMword) (sticky : Bool) (address : ARMword)
    (state : ARMulState Mem) :
    SameCore state
      (transferAll (loadListed bus sticky) (loadListed bus true) instr address state) := by
  have trans (first second third : ARMulState Mem) (start : SameCore first second)
      (rest : SameCore second third) : SameCore first third := Eq.trans rest start
  have refl (state : ARMulState Mem) : SameCore state state := rfl
  refine transferAll_related refl trans ?_ ?_ address state
  · intro state address
    exact loadListed_core sticky state _ address
  · intro state index address _
    exact loadListed_core true state index address

theorem steady_storeAll (bus : Bus Mem) (instr address : ARMword) (state : ARMulState Mem) :
    Steady state (transferAll (storeListed bus) (storeListed bus) instr address state) := by
  refine transferAll_related Steady.refl (fun _ _ _ => Steady.trans) ?_ ?_ address state
  · intro state address
    exact steady_storeListed state _ address
  · intro state index address _
    exact steady_storeListed state index address

theorem steady_writeBack (instr wbBase : ARMword) (state : ARMulState Mem) :
    Steady state (writeBack instr wbBase state) := by
  unfold writeBack
  split
  · rename_i writes
    have notPc := (Bool.and_eq_true_iff.mp writes).2
    exact steady_setReg state (bne_iff_ne.mp notPc) _
  · exact Steady.refl state

theorem steady_writeBackLate (instr wbBase : ARMword) (state : ARMulState Mem) :
    Steady state (writeBackLate instr wbBase state) := by
  unfold writeBackLate
  split
  · exact Steady.refl state
  · exact steady_writeBack instr wbBase state

theorem jumps_returnFromList {state : ARMulState Mem} (prog32 : state.core.prog32Sig = true) :
    Jumps W state (returnFromList state) := by
  unfold returnFromList
  dsimp only
  refine (jumps_writeR15 _ _).rebase ?_
  split
  · rfl
  · exact (armulCPSRAltered_fields { state with cpsr := armulGetSPSR state state.mode } prog32).1

variable {state : ARMulState Mem} {instr address wbBase : ARMword}

theorem outcome_loadMult (ready : state.nextInstr = 0#8) (isV4 : state.core.isV4 = true)
    (prog32 : state.core.prog32Sig = true) :
    Outcome W state (loadMult bus state instr address wbBase) := by
  unfold loadMult
  rw [bususedincpcs_v4 isV4]
  dsimp only
  have core := loadAll_core bus instr true address state
  cases listed : instr.getLsbD 15 with
  | true =>
      split
      · refine Outcome.steady ?_ (steady_writeBack instr wbBase _)
        rw [if_pos rfl]
        exact (jumps_writeR15Branch _ _).outcome core
      · exact (jumps_takeAbort bus (by rw [core]; exact prog32)).outcome core
  | false =>
      have loaded := steady_loadAll bus listed true address state
      rw [if_neg Bool.false_ne_true]
      split
      · exact (loaded.trans (steady_writeBack instr wbBase _)).outcome ready
      · exact (loaded.outcome ready).takeAbort prog32

theorem jumps_loadList (prog32 : state.core.prog32Sig = true) {loaded : ARMulState Mem}
    (core : loaded.core = state.core) :
    let based :=
      if loaded.aborted = 0#32 then writeBack instr wbBase loaded
      else takeAbort bus (writeBackLate instr wbBase loaded)
    Outcome W state (if based.aborted == 0#32 then returnFromList based else based) := by
  dsimp only
  by_cases clear : loaded.aborted = 0#32
  · have aborted := (writeBack_aborted instr wbBase loaded).trans clear
    have based := (steady_writeBack instr wbBase loaded).core.trans core
    rw [if_pos clear, aborted, if_pos (beq_self_eq_true _)]
    exact (jumps_returnFromList (by rw [based]; exact prog32)).outcome based
  · have late := (steady_writeBackLate instr wbBase loaded).core.trans core
    have taken : Jumps W _ _ := jumps_takeAbort bus (by rw [late]; exact prog32)
    have based := taken.core.trans late
    rw [if_neg clear]
    split
    · exact (jumps_returnFromList (by rw [based]; exact prog32)).outcome based
    · exact taken.outcome late

theorem outcome_loadSMult (ready : state.nextInstr = 0#8) (isV4 : state.core.isV4 = true)
    (prog32 : state.core.prog32Sig = true) :
    Outcome W state (loadSMult bus state instr address wbBase) := by
  unfold loadSMult
  rw [bususedincpcs_v4 isV4]
  cases listed : instr.getLsbD 15 with
  | true =>
      simp only [if_true, Bool.true_and]
      exact jumps_loadList prog32 (loadAll_core bus instr false address state)
  | false =>
      simp only [Bool.false_eq_true, if_false, Bool.false_and]
      have loaded := (steady_toUserBank state).trans
        (steady_loadAll bus listed false address (toUserBank state))
      split
      · exact ((loaded.trans (steady_writeBack instr wbBase _)).trans
          (steady_toOwnBank _)).outcome ready
      · exact (((loaded.trans (steady_writeBackLate instr wbBase _)).outcome ready).takeAbort
          prog32).steady (steady_toOwnBank _)

theorem Outcome.orAbort (outcome : Outcome W before middle)
    (prog32 : before.core.prog32Sig = true) :
    Outcome W before
      (if middle.aborted = 0#32 then middle else SkyeyeStarlet.takeAbort bus middle) := by
  split
  · exact outcome
  · exact outcome.takeAbort prog32

theorem outcome_storeMult (ready : state.nextInstr = 0#8) (isV4 : state.core.isV4 = true)
    (prog32 : state.core.prog32Sig = true) :
    Outcome W state (storeMult bus state instr address wbBase) := by
  have started : Steady state (if state.tFlag then state else bususedincpcn state) := by
    split
    · exact Steady.refl state
    · exact steady_bususedincpcn isV4
  have based := (started.trans (steady_storeAll bus instr address _)).trans
    (steady_writeBackLate instr wbBase _)
  exact (based.outcome ready).orAbort prog32

theorem outcome_storeSMult (ready : state.nextInstr = 0#8) (isV4 : state.core.isV4 = true)
    (prog32 : state.core.prog32Sig = true) :
    Outcome W state (storeSMult bus state instr address wbBase) := by
  have stored := ((steady_bususedincpcn isV4).trans (steady_toUserBank _)).trans
    (steady_storeAll bus instr address _)
  have restored : Steady state
      (if (transferAll (storeListed bus) (storeListed bus) instr address
          (toUserBank (bususedincpcn state))).aborted = 0#32 then
        toOwnBank (transferAll (storeListed bus) (storeListed bus) instr address
          (toUserBank (bususedincpcn state)))
      else transferAll (storeListed bus) (storeListed bus) instr address
        (toUserBank (bususedincpcn state))) := by
    split
    · exact stored.trans (steady_toOwnBank _)
    · exact stored
  have based := restored.trans (steady_writeBackLate instr wbBase _)
  exact (based.outcome ready).orAbort prog32

theorem outcome_blockTransfer (ready : state.nextInstr = 0#8) (isV4 : state.core.isV4 = true)
    (prog32 : state.core.prog32Sig = true) : Outcome W state (blockTransfer bus state instr) := by
  unfold blockTransfer
  dsimp only
  split
  · exact outcome_storeMult ready isV4 prog32
  · exact outcome_loadMult ready isV4 prog32
  · exact outcome_storeSMult ready isV4 prog32
  · exact outcome_loadSMult ready isV4 prog32

end Blocks

section Coprocessors

variable {bus : Bus Mem} {cops : Coprocessors Mem} {state : ARMulState Mem}

theorem outcome_abortMem (prog32 : state.core.prog32Sig = true) (mem : Mem) (vector : Vector) :
    Outcome W state (armulAbort bus.highVectors { state with mem } vector) := by
  have stored := steady_mem state mem
  have prog32' : ({ state with mem } : ARMulState Mem).core.prog32Sig = true := prog32
  exact (jumps_abort bus.highVectors prog32' vector).outcome stored.core

theorem outcome_raised (ready : state.nextInstr = 0#8) (prog32 : state.core.prog32Sig = true)
    (mem : Mem) (vector : Option Vector) :
    Outcome W state (raised bus { state with mem } vector) := by
  cases vector with
  | none => exact (steady_mem state mem).outcome ready
  | some vector => exact outcome_abortMem prog32 mem vector

theorem outcome_coprocessorCall (bus : Bus Mem) (ready : state.nextInstr = 0#8)
    (prog32 : state.core.prog32Sig = true) {finish : ARMulState Mem → ARMulState Mem}
    (finishes : ∀ middle, middle.core = state.core → Steady middle (finish middle))
    (answer : Answer Mem) : Outcome W state (coprocessorCall bus finish state answer) := by
  cases answer with
  | done mem vector =>
      have called : Outcome W state (raised bus { state with mem } vector) :=
        outcome_raised ready prog32 mem vector
      exact called.steady (finishes _ called.core)
  | cant mem => exact outcome_abortMem prog32 mem _
  | interrupted mem vector => exact outcome_abortMem prog32 mem vector

theorem outcome_coprocessorRegister (ready : state.nextInstr = 0#8)
    (isV4 : state.core.isV4 = true) (prog32 : state.core.prog32Sig = true) (instr : ARMword) :
    Outcome W state (coprocessorRegister bus cops state instr) := by
  have counts (middle : ARMulState Mem) (core : middle.core = state.core) :
      Steady middle (bususedincpcn middle) :=
    steady_bususedincpcn (by rw [core]; exact isV4)
  unfold coprocessorRegister
  split
  · split
    · have called : Outcome W state _ := outcome_coprocessorCall bus ready prog32 counts
        (cops.mrc instr state.mem).1
      dsimp only
      split
      · exact called.steady (steady_flags _ rfl)
      · rename_i notPc
        exact called.steady (steady_setReg _ notPc _)
    · exact outcome_coprocessorCall bus ready prog32 counts _
  · exact outcome_coprocessorCall bus ready prog32 (fun middle _ => steady_busused middle) _

theorem steady_ldcRest (instr : ARMword) (words : Nat) (address : ARMword)
    (state : ARMulState Mem) :
    Steady state (ldcRest bus cops instr words address state) := by
  induction words generalizing address state with
  | zero => exact Steady.refl state
  | succ words ih =>
      have read := steady_read bus .word state (address + 4#32)
      unfold ldcRest
      dsimp only
      split
      · exact read
      · exact (read.trans (steady_mem _ _)).trans (ih _ _)

theorem steady_stcRest (instr : ARMword) (words : Nat) (address : ARMword)
    (state : ARMulState Mem) :
    Steady state (stcRest bus cops instr words address state) := by
  induction words generalizing address state with
  | zero => exact Steady.refl state
  | succ words ih =>
      have written := (steady_mem state (cops.store instr state.mem).1).trans
        (steady_write bus .word _ (address + 4#32) (cops.store instr state.mem).2)
      unfold stcRest
      dsimp only
      split
      · exact written
      · exact written.trans (ih _ _)

theorem steady_ldcWords (isV4 : state.core.isV4 = true) (instr address : ARMword) :
    Steady state (ldcWords bus cops state instr address) := by
  have read := steady_read bus .word state address
  have counts := steady_bususedincpcn (show (armulRead bus .word state address).1.core.isV4 = true
    by rw [read.core]; exact isV4)
  unfold ldcWords
  dsimp only
  split
  · exact read
  · exact ((read.trans counts).trans (steady_mem _ _)).trans (steady_ldcRest _ _ _ _)

theorem steady_stcWords (isV4 : state.core.isV4 = true) (instr address : ARMword) :
    Steady state (stcWords bus cops state instr address) := by
  have written := ((steady_bususedincpcn isV4).trans
    (steady_mem _ (cops.store instr (bususedincpcn state).mem).1)).trans
      (steady_write bus .word _ address (cops.store instr (bususedincpcn state).mem).2)
  unfold stcWords
  dsimp only
  split
  · exact written
  · exact written.trans (steady_stcRest _ _ _ _)

theorem steady_coprocessorBase {instr : ARMword}
    (regular : instr.getLsbD 21 = true → lhsReg instr ≠ 15#4) (base : ARMword) :
    Steady state (coprocessorBase state instr base) := by
  unfold coprocessorBase
  split
  · rename_i writes
    exact steady_setReg state (regular (Bool.and_eq_true_iff.mp writes).1) _
  · exact Steady.refl state

theorem steady_transferred (isV4 : state.core.isV4 = true) (instr address : ARMword) :
    Steady state
      (if instr.getLsbD 20 then ldcWords bus cops state instr address
      else stcWords bus cops state instr address) := by
  split
  · exact steady_ldcWords isV4 instr address
  · exact steady_stcWords isV4 instr address

theorem outcome_transferred (prog32 : before.core.prog32Sig = true) {instr : ARMword}
    (regular : instr.getLsbD 21 = true → lhsReg instr ≠ 15#4) (base : ARMword)
    (moved : Outcome W before state) :
    Outcome W before
      (if accessAborted (coprocessorBase state instr base) then
        takeAbort bus (coprocessorBase state instr base)
      else coprocessorBase state instr base) := by
  have based := moved.steady (steady_coprocessorBase regular base)
  split
  · exact based.takeAbort prog32
  · exact based

theorem outcome_coprocessorWords (ready : state.nextInstr = 0#8)
    (isV4 : state.core.isV4 = true) (prog32 : state.core.prog32Sig = true) {instr : ARMword}
    (regular : instr.getLsbD 21 = true → lhsReg instr ≠ 15#4) (address base : ARMword) :
    Outcome W state (coprocessorWords bus cops state instr address base) := by
  unfold coprocessorWords
  split
  · rename_i mem vector _
    have accepted : Outcome W state (raised bus { state with mem } vector) :=
      outcome_raised ready prog32 mem vector
    have isV4' : (raised bus { state with mem } vector).core.isV4 = true := by
      rw [accepted.core]
      exact isV4
    exact outcome_transferred prog32 regular base (accepted.steady
      (steady_transferred isV4' instr address))
  · rename_i mem _
    exact outcome_abortMem prog32 mem _
  · rename_i mem vector _
    exact outcome_abortMem prog32 mem vector

theorem outcome_coprocessorTransfer {traps : Traps Mem} (trapsRead : TrapsReadOnly traps)
    (ready : state.nextInstr = 0#8) (isV4 : state.core.isV4 = true)
    (prog32 : state.core.prog32Sig = true) {instr : ARMword}
    (regular : instr.getLsbD 21 = true → lhsReg instr ≠ 15#4) :
    Outcome W state (coprocessorTransfer bus traps cops state instr) := by
  unfold coprocessorTransfer
  split
  · exact outcome_undefInstr bus trapsRead ready prog32 instr
  · exact outcome_coprocessorWords ready isV4 prog32 regular _ _

end Coprocessors

section Instructions

variable {bus : Bus Mem} {traps : Traps Mem} {cops : Coprocessors Mem}
  {state : ARMulState Mem} {pc instr : ARMword}

theorem branchOffset_aligned (instr : ARMword) : branchOffset instr &&& 3#32 = 0#32 := by
  have shifted (word : ARMword) : word <<< 2 &&& 3#32 = 0#32 := by
    apply BitVec.eq_of_getLsbD_eq
    intro index bound
    by_cases low : index < 2
    · simp [BitVec.getLsbD_shiftLeft, low]
    · have high : (3#32).getLsbD index = false := by
        interval_cases index <;> rfl
      simp [high]
  unfold branchOffset
  split
  · exact shifted _
  · exact shifted _

theorem alignPc_iff (word : ARMword) :
    alignPc false word = word ↔ word.toNat % 4 = 0 := by
  exact alignPc_eq_self_iff false word

theorem branch_aligned (aligned : alignPc false pc = pc) (instr : ARMword) :
    alignPc false (pc + 8#32 + branchOffset instr) = pc + 8#32 + branchOffset instr := by
  have offset := (WordBits.and_not_eq_self_iff (branchOffset instr) 3#32).mpr
    (branchOffset_aligned instr)
  have multiple := (alignPc_iff (branchOffset instr)).mp offset
  rw [alignPc_iff] at aligned ⊢
  rw [BitVec.toNat_add, BitVec.toNat_add]
  simp only [BitVec.toNat_ofNat]
  omega

theorem outcome_branch (aligned : W → state.tFlag = false → alignPc false pc = pc) :
    Outcome W state (branch state pc instr) := by
  have linked : Steady state
      (if instr.getLsbD 24 then state.setReg 14#4 (pc + 4#32) else state) := by
    split
    · exact steady_setReg state (by decide) _
    · exact Steady.refl state
  refine Jumps.outcome ⟨rfl, Or.inr (flushpipe_redirected _ ?_)⟩ linked.core
  intro words thumb
  rw [setReg_reg_self]
  exact branch_aligned (aligned words (linked.thumb.symm.trans thumb)) instr

theorem outcome_softwareInterrupt (trapsRead : TrapsReadOnly traps)
    (ready : state.nextInstr = 0#8) (prog32 : state.core.prog32Sig = true) :
    Outcome W state (softwareInterrupt bus traps state pc instr) := by
  have trapped := trapsRead.steady state instr
  unfold softwareInterrupt
  split
  · exact (jumps_abort _ prog32 _).outcome rfl
  · dsimp only
    split
    · exact trapped.outcome ready
    · exact (jumps_abort _ (by rw [trapped.core]; exact prog32) _).outcome trapped.core

/-- The condition on a word of the main switch: it writes neither register 15 nor the
T bit without filling the pipeline again. -/
def regularSwitch (state : ARMulState Mem) (instr : ARMword) : Prop :=
  match transferOf instr with
  | some kind => regularTransfer instr kind
  | none =>
      match instr.extractLsb' 25 3 with
      | 0#3 | 1#3 => regularData state instr
      | 6#3 => instr.getLsbD 21 = true → lhsReg instr ≠ 15#4
      | _ => True

theorem outcome_mainSwitch (trapsRead : TrapsReadOnly traps) (ready : state.nextInstr = 0#8)
    (isV4 : state.core.isV4 = true) (prog32 : state.core.prog32Sig = true)
    (mode32 : mode32bit state.mode = true)
    (aligned : W → state.tFlag = false → alignPc false pc = pc)
    (regular : regularSwitch state instr) :
    Outcome W state (mainSwitch bus traps cops state pc instr) := by
  unfold mainSwitch
  unfold regularSwitch at regular
  cases kind : transferOf instr with
  | some kind =>
      rw [kind] at regular
      exact outcome_dataTransfer trapsRead ready isV4 prog32 regular
  | none =>
      rw [kind] at regular
      dsimp only at regular ⊢
      split
      · rename_i group
        rw [group] at regular
        exact outcome_dataProcessing ready prog32 mode32 regular pc
      · rename_i group
        rw [group] at regular
        exact outcome_dataProcessing ready prog32 mode32 regular pc
      · unfold undefinedTransfer
        split
        · exact ⟨rfl, Or.inl rfl⟩
        · exact outcome_undefInstr bus trapsRead ready prog32 instr
      · unfold undefinedTransfer
        split
        · exact ⟨rfl, Or.inl rfl⟩
        · exact outcome_undefInstr bus trapsRead ready prog32 instr
      · exact outcome_blockTransfer ready isV4 prog32
      · exact outcome_branch aligned
      · rename_i group
        rw [group] at regular
        exact outcome_coprocessorTransfer trapsRead ready isV4 prog32 regular
      · split
        · exact outcome_softwareInterrupt trapsRead ready prog32
        · exact outcome_coprocessorRegister ready isV4 prog32 instr

def unconditionalSwitch (instr : ARMword) : Prop :=
  instr.extractLsb' 25 3 ≠ 5#3 ∧ instr &&& 0xfc70f000#32 ≠ 0xf450f000#32 ∧
    (instr &&& 0xfe500f00#32 = 0xfc100100#32 ∨ instr &&& 0xfe500f00#32 = 0xfc000100#32)

def regularArm (state : ARMulState Mem) (instr : ARMword) : Prop :=
  if instr.extractLsb' 28 4 = 0xf#4 then
    state.isV5 = true → unconditionalSwitch instr → regularSwitch state instr
  else conditionHolds state.flags (instr.extractLsb' 28 4) = true → regularSwitch state instr

theorem outcome_executeArm (trapsRead : TrapsReadOnly traps) (ready : state.nextInstr = 0#8)
    (isV4 : state.core.isV4 = true) (prog32 : state.core.prog32Sig = true)
    (mode32 : mode32bit state.mode = true)
    (aligned : W → state.tFlag = false → alignPc false pc = pc) (regular : regularArm state instr) :
    Outcome W state (executeArm bus traps cops state pc instr) := by
  unfold executeArm
  unfold regularArm at regular
  split
  · rename_i never
    rw [if_pos never] at regular
    unfold unconditional
    split
    · exact Outcome.refl ready
    · rename_i isV5
      split
      · exact (jumps_writeR15Branch _ _).outcome (steady_setReg state (by decide) _).core
      · rename_i notBranch
        split
        · exact Outcome.refl ready
        · rename_i notPreload
          split
          · rename_i switches
            have reaches := regular (by simpa using isV5) ⟨notBranch, notPreload, switches⟩
            exact outcome_mainSwitch trapsRead ready isV4 prog32 mode32 aligned reaches
          · exact outcome_undefInstr bus trapsRead ready prog32 instr
  · rename_i conditional
    rw [if_neg conditional] at regular
    split
    · rename_i holds
      exact outcome_mainSwitch trapsRead ready isV4 prog32 mode32 aligned (regular holds)
    · exact Outcome.refl ready

theorem jumps_thumbJump (thumb : state.tFlag = true) (target : ARMword) :
    Jumps W state (thumbJump state target) := by
  refine ⟨rfl, Or.inr (flushpipe_redirected _ ?_)⟩
  intro _ arm
  exact absurd (thumb.symm.trans arm) (by decide)

theorem jumps_thumbSuffix (thumb : state.tFlag = true) {tinstr : Halfword}
    {after : ARMulState Mem} (branches : thumbSuffix state pc tinstr = .branched after) :
    Jumps W state after := by
  have linked := steady_setReg state (show (14#4 : RegNum) ≠ 15#4 by decide)
    ((pc + 2#32) ||| 1#32)
  unfold thumbSuffix at branches
  dsimp only at branches
  split at branches
  · cases branches
  · split at branches
    · cases branches
      refine Jumps.rebase ⟨rfl, Or.inr (flushpipe_redirected _ ?_)⟩ linked.core
      intro _ _
      show alignPc false (ARMulState.reg (ARMulState.setReg _ 15#4 _) 15#4) = _
      rw [setReg_reg_self]
      exact alignPc_word _
    · cases branches
      exact (jumps_thumbJump (linked.thumb.trans thumb) _).rebase linked.core

theorem outcome_thumbDecode (ready : state.nextInstr = 0#8) (thumb : state.tFlag = true)
    {tinstr next : Halfword} {after : ARMulState Mem}
    (branches : thumbDecodeHalf state pc tinstr next = .branched after) :
    Outcome W state after := by
  unfold thumbDecodeHalf at branches
  split at branches
  all_goals try (cases branches; done)
  · split at branches
    · split at branches <;> cases branches
    · cases branches
  all_goals try
    (split at branches
     · cases branches
     · split at branches
       · cases branches
       · cases branches
         unfold thumbCondBranch
         split
         · exact (jumps_thumbJump thumb _).outcome rfl
         · exact Outcome.refl ready)
  · cases branches
    exact (jumps_thumbJump thumb _).outcome rfl
  · have linked := steady_setReg state (show (14#4 : RegNum) ≠ 15#4 by decide)
      (state.reg 15#4 + thumbPrefixOffset tinstr)
    unfold thumbPrefix at branches
    dsimp only at branches
    split at branches
    · cases branches
      exact linked.outcome ready
    · exact (jumps_thumbSuffix (linked.thumb.trans thumb) branches).outcome linked.core
  · exact (jumps_thumbSuffix thumb branches).outcome rfl

def regularStep (state : ARMulState Mem) (pc instr : ARMword) : Prop :=
  if state.tFlag then
    match armulThumbDecode state pc instr with
    | .decoded word => regularArm state word
    | _ => True
  else regularArm state instr

theorem outcome_execute (trapsRead : TrapsReadOnly traps) (ready : state.nextInstr = 0#8)
    (isV4 : state.core.isV4 = true) (prog32 : state.core.prog32Sig = true)
    (mode32 : mode32bit state.mode = true)
    (aligned : W → state.tFlag = false → alignPc false pc = pc)
    (regular : regularStep state pc instr) :
    Outcome W state (execute bus traps cops state pc instr) := by
  unfold execute
  unfold regularStep at regular
  split
  · rename_i thumb
    rw [if_pos thumb] at regular
    cases decodes : armulThumbDecode state pc instr with
    | undefined => exact outcome_undefInstr bus trapsRead ready prog32 instr
    | branched after =>
        exact outcome_thumbDecode ready thumb decodes
    | decoded word =>
        rw [decodes] at regular
        exact outcome_executeArm trapsRead ready isV4 prog32 mode32 aligned regular
  · rename_i arm
    rw [if_neg arm] at regular
    exact outcome_executeArm trapsRead ready isV4 prog32 mode32 aligned regular

end Instructions

end SkyeyeStarlet
