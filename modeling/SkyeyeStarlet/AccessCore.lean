import SkyeyeStarlet.EmulateCore

/-!
The accesses of a load or store one by one, each with the state in which the memory
interface is called, and the test that stands in front of `TAKEABORT`.
-/

namespace SkyeyeStarlet

variable {Mem : Type}

section Dispatch

def passedWord (state : ARMulState Mem) (instr : ARMword) : Option ARMword :=
  if instr.extractLsb' 28 4 = 0xf#4 then
    if state.isV5 && instr.extractLsb' 25 3 != 5#3 && instr &&& 0xfc70f000#32 != 0xf450f000#32 &&
        (instr &&& 0xfe500f00#32 == 0xfc100100#32 || instr &&& 0xfe500f00#32 == 0xfc000100#32) then
      some instr
    else none
  else if conditionHolds state.flags (instr.extractLsb' 28 4) then some instr
  else none

/-- The word that an instruction brings to the main switch, by the Thumb decoder or itself. -/
def switchedWord (state : ARMulState Mem) (pc instr : ARMword) : Option ARMword :=
  if state.tFlag then
    match armulThumbDecode state pc instr with
    | .decoded word => passedWord state word
    | _ => none
  else passedWord state instr

variable {bus : Bus Mem} {traps : Traps Mem} {cops : Coprocessors Mem} {state : ARMulState Mem}
  {pc instr word : ARMword}

theorem executeArm_passed (passed : passedWord state instr = some word) :
    executeArm bus traps cops state pc instr = mainSwitch bus traps cops state pc word := by
  unfold passedWord at passed
  unfold executeArm unconditional
  split at passed
  · rename_i never
    split at passed
    · rename_i accepted
      cases passed
      simp only [Bool.and_eq_true, Bool.or_eq_true, bne_iff_ne, beq_iff_eq] at accepted
      obtain ⟨⟨⟨isV5, notBranch⟩, notPreload⟩, coprocessor⟩ := accepted
      rw [if_pos never, isV5, if_neg (by decide), if_neg notBranch, if_neg notPreload,
        if_pos coprocessor]
    · cases passed
  · rename_i conditional
    split at passed
    · rename_i holds
      cases passed
      rw [if_neg conditional, if_pos holds]
    · cases passed

theorem execute_switched (switched : switchedWord state pc instr = some word) :
    execute bus traps cops state pc instr = mainSwitch bus traps cops state pc word := by
  unfold switchedWord at switched
  simp only [execute]
  split at switched
  · rename_i thumb
    rw [if_pos thumb]
    split at switched
    · rename_i decoded same
      rw [same]
      exact executeArm_passed switched
    · cases switched
  · rename_i arm
    rw [if_neg arm]
    exact executeArm_passed switched

end Dispatch

section Blocks

/-- One transfer of a block: the state in which it is made, the register and the address. -/
structure BlockStep (Mem : Type) where
  state : ARMulState Mem
  index : Nat
  address : ARMword

/-- `transferRest`, with every transfer that is made. -/
def restSteps (transfer : ARMulState Mem → Nat → ARMword → ARMulState Mem) :
    List Nat → ARMword → ARMulState Mem → List (BlockStep Mem)
  | [], _, _ => []
  | index :: rest, address, state =>
      let moved := transfer state index (address + 4#32)
      { state, index, address := address + 4#32 } ::
        if moved.aborted = 0#32 then restSteps transfer rest (address + 4#32) moved else []

/-- `transferAll`, with every transfer that is made. -/
def allSteps (first transfer : ARMulState Mem → Nat → ARMword → ARMulState Mem)
    (instr address : ARMword) (state : ARMulState Mem) : List (BlockStep Mem) :=
  let moved := first state (firstListed instr) address
  { state, index := firstListed instr, address } ::
    if moved.aborted = 0#32 then restSteps transfer (laterListed instr) address moved else []

def BlockStep.last (transfer : ARMulState Mem → Nat → ARMword → ARMulState Mem)
    (state : ARMulState Mem) (steps : List (BlockStep Mem)) : ARMulState Mem :=
  steps.foldl (fun _ step => transfer step.state step.index step.address) state

theorem transferRest_steps (transfer : ARMulState Mem → Nat → ARMword → ARMulState Mem)
    (list : List Nat) (address : ARMword) (state : ARMulState Mem) :
    transferRest transfer list address state =
      BlockStep.last transfer state (restSteps transfer list address state) := by
  induction list generalizing address state with
  | nil => rfl
  | cons index rest ih =>
      simp only [transferRest, restSteps, BlockStep.last, List.foldl_cons]
      split
      · exact ih _ _
      · rfl

theorem transferAll_steps (first transfer : ARMulState Mem → Nat → ARMword → ARMulState Mem)
    (instr address : ARMword) (state : ARMulState Mem) :
    transferAll first transfer instr address state =
      BlockStep.last transfer (first state (firstListed instr) address)
        (allSteps first transfer instr address state).tail := by
  simp only [transferAll, allSteps, List.tail_cons]
  split
  · exact transferRest_steps _ _ _ _
  · rfl

/-- The state in which a block transfer begins, behind its bus cycle and in its bank. -/
def blockStarted (state : ARMulState Mem) (instr : ARMword) : ARMulState Mem :=
  match instr.getLsbD 22, instr.getLsbD 20 with
  | false, false => if state.tFlag then state else bususedincpcn state
  | false, true => bususedincpcs state
  | true, false => toUserBank (bususedincpcn state)
  | true, true => if instr.getLsbD 15 then bususedincpcs state else toUserBank (bususedincpcs state)

/-- The first transfer of the S form does not look at the sticky flag. -/
def blockFirst (bus : Bus Mem) (instr : ARMword) :
    ARMulState Mem → Nat → ARMword → ARMulState Mem :=
  if instr.getLsbD 20 then loadListed bus (!instr.getLsbD 22) else storeListed bus

def blockNext (bus : Bus Mem) (instr : ARMword) :
    ARMulState Mem → Nat → ARMword → ARMulState Mem :=
  if instr.getLsbD 20 then loadListed bus true else storeListed bus

def blockMoved (bus : Bus Mem) (state : ARMulState Mem) (instr : ARMword) : ARMulState Mem :=
  transferAll (blockFirst bus instr) (blockNext bus instr) instr
    (blockStart instr (state.reg (lhsReg instr))) (blockStarted state instr)

/-- The transfers of a block that are made, up to one that aborts. -/
def blockSteps (bus : Bus Mem) (state : ARMulState Mem) (instr : ARMword) :
    List (BlockStep Mem) :=
  allSteps (blockFirst bus instr) (blockNext bus instr) instr
    (blockStart instr (state.reg (lhsReg instr))) (blockStarted state instr)

def blockFinished (bus : Bus Mem) (instr wbBase : ARMword) (moved : ARMulState Mem) :
    ARMulState Mem :=
  match instr.getLsbD 22, instr.getLsbD 20 with
  | false, false =>
      let based := writeBackLate instr wbBase moved
      if based.aborted = 0#32 then based else takeAbort bus based
  | false, true =>
      if moved.aborted = 0#32 then
        writeBack instr wbBase
          (if instr.getLsbD 15 then writeR15Branch moved (moved.reg 15#4) else moved)
      else takeAbort bus moved
  | true, false =>
      let restored := if moved.aborted = 0#32 then toOwnBank moved else moved
      let based := writeBackLate instr wbBase restored
      if based.aborted = 0#32 then based else takeAbort bus based
  | true, true =>
      let based :=
        if moved.aborted = 0#32 then writeBack instr wbBase moved
        else takeAbort bus (writeBackLate instr wbBase moved)
      let returned :=
        if instr.getLsbD 15 && based.aborted == 0#32 then returnFromList based else based
      if instr.getLsbD 15 then returned else toOwnBank returned

theorem blockTransfer_finished (bus : Bus Mem) (state : ARMulState Mem) (instr : ARMword) :
    blockTransfer bus state instr =
      blockFinished bus instr (blockBase instr (state.reg (lhsReg instr)))
        (blockMoved bus state instr) := by
  unfold blockTransfer blockFinished blockMoved blockStarted blockFirst blockNext
  cases form : instr.getLsbD 22 <;> cases load : instr.getLsbD 20 <;> rfl

end Blocks

end SkyeyeStarlet
