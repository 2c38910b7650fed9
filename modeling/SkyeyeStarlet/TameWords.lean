import SkyeyeStarlet.ArmMeaning
import SkyeyeStarlet.LoopLive

/-!
The instructions that the architecture defines, and that go on, seen from the loop of
`ARMul_Emulate32`: they write register 15 with a branch only, leave the mode alone and keep
the loop running.
-/

namespace SkyeyeStarlet

open ThumbIsa

variable {Mem : Type}

structure Tame (bus : Bus Mem) (traps : Traps Mem) (cops : Coprocessors Mem)
    (state : ARMulState Mem) (pc instr : ARMword) : Prop where
  outcome : Outcome False state (mainSwitch bus traps cops state pc instr)
  live : Live (mainSwitch bus traps cops state pc instr)
  silent : semihostingWord instr = false

section Words

variable {bus : Bus Mem} {traps : Traps Mem} {cops : Coprocessors Mem} {state : ARMulState Mem}
  {pc instr : ARMword}

theorem silent_group (other : instr.extractLsb' 25 3 ≠ 7#3) : semihostingWord instr = false := by
  refine Bool.eq_false_iff.mpr fun call => ?_
  exact other (semihostingWord_switch call).2.1

theorem processing_group (form : ProcessingForm instr) :
    instr.extractLsb' 25 3 = 0#3 ∨ instr.extractLsb' 25 3 = 1#3 := by
  rcases form with immediate | register
  · exact Or.inr immediate
  · exact Or.inl register.1

theorem tame_exchange (live : Live state) (word : StatusWord instr) {target : ARMword}
    (switched : mainSwitch bus traps cops state pc instr = writeR15Branch state target) :
    Tame bus traps cops state pc instr := by
  refine ⟨?_, ?_, silent_group (by rw [word.group]; decide)⟩
  · rw [switched]
    exact (jumps_writeR15Branch state target).outcome rfl
  · rw [switched]
    exact live.writeR15Branch target

theorem tame_link (live : Live state) (word : StatusWord instr) {target link : ARMword}
    (switched : mainSwitch bus traps cops state pc instr =
      (writeR15Branch state target).setReg 14#4 link) : Tame bus traps cops state pc instr := by
  refine ⟨?_, ?_, silent_group (by rw [word.group]; decide)⟩
  · rw [switched]
    exact ((jumps_writeR15Branch state target).outcome rfl).steady
      (steady_setReg _ (by decide) link)
  · rw [switched]
    exact (live.writeR15Branch target).setReg _ _

variable (ready : state.nextInstr = 0#8) (live : Live state)

include ready live

theorem tame_steady {after : ARMulState Mem}
    (switched : mainSwitch bus traps cops state pc instr = after) (steady : Steady state after)
    (other : instr.extractLsb' 25 3 ≠ 7#3) : Tame bus traps cops state pc instr := by
  subst switched
  exact ⟨steady.outcome ready, live.steady steady, silent_group other⟩

theorem tame_regular (trapsRead : TrapsReadOnly traps) (isV4 : state.isV4 = true)
    (regular : regularSwitch state instr)
    (kept : Live (mainSwitch bus traps cops state pc instr))
    (silent : semihostingWord instr = false) : Tame bus traps cops state pc instr := by
  refine ⟨?_, kept, silent⟩
  exact outcome_mainSwitch trapsRead ready isV4 live.prog32 (validMode_mode32bit live.valid)
    False.elim regular

theorem tame_transfer (trapsRead : TrapsReadOnly traps) (isV4 : state.isV4 = true)
    {kind : Transfer} (transfers : transferOf instr = some kind)
    (apart : regularTransfer instr kind) : Tame bus traps cops state pc instr := by
  refine tame_regular ready live trapsRead isV4 ?_ ?_ (semihostingWord_transfer transfers)
  · rw [regularSwitch, transfers]
    exact apart
  · rw [mainSwitch, transfers]
    exact live_dataTransfer trapsRead live instr kind

theorem tame_multiply (other : transferOf instr = none) (group : instr.extractLsb' 25 3 = 0#3)
    (multiplies : isMultiply instr = true) (apart : regularMultiply instr) :
    Tame bus traps cops state pc instr := by
  refine tame_steady ready live ?_ (steady_multiplyCase state apart) (by rw [group]; decide)
  simp only [mainSwitch, other, group, dataProcessing, multiplies, if_true]

theorem tame_data (trapsRead : TrapsReadOnly traps) (isV4 : state.isV4 = true)
    (form : ProcessingForm instr)
    (operates : ¬(instr.extractLsb' 23 2 = 2#2 ∧ instr.getLsbD 20 = false))
    (apart : instr.getLsbD 20 = true → destReg instr ≠ 15#4) :
    Tame bus traps cops state pc instr := by
  have group := processing_group form
  refine tame_regular ready live trapsRead isV4 ?_ ?_ (silent_group ?_)
  · have regular : regularData state instr := by
      rw [regularData, isMultiply_form form, if_neg Bool.false_ne_true]
      split
      · rename_i tests
        have flags : instr.getLsbD 20 = true := by simpa [tests] using operates
        rw [if_pos flags]
        exact fun isPc => absurd isPc (apart flags)
      · trivial
    unfold regularSwitch
    rcases group with group | group <;>
      simp only [transferOf_form form, group] <;>
      exact regular
  · rw [mainSwitch_form bus traps cops state pc form, dataProcessing, isMultiply_form form,
      if_neg Bool.false_ne_true]
    split
    · rename_i tests
      have flags : instr.getLsbD 20 = true := by simpa [tests] using operates
      rw [if_pos flags]
      exact live_dataTest live (apart flags)
    · split
      · rename_i flags
        exact live_dataFlags live (apart flags)
      · exact live_dataPlain live instr
  · rcases group with group | group <;>
      rw [group] <;>
      decide

theorem tame_block (trapsRead : TrapsReadOnly traps) (isV4 : state.isV4 = true)
    (group : instr.extractLsb' 25 3 = 4#3) (own : instr.getLsbD 22 = false) :
    Tame bus traps cops state pc instr := by
  have other := transferOf_class group (by decide) (by decide)
  refine tame_regular ready live trapsRead isV4 ?_ ?_ (silent_group (by rw [group]; decide))
  · simp only [regularSwitch, other, group]
    trivial
  · simp only [mainSwitch, other, group]
    exact live_blockTransfer bus live own

theorem tame_branch (trapsRead : TrapsReadOnly traps) (isV4 : state.isV4 = true)
    (group : instr.extractLsb' 25 3 = 5#3) : Tame bus traps cops state pc instr := by
  have other := transferOf_class group (by decide) (by decide)
  refine tame_regular ready live trapsRead isV4 ?_ ?_ (silent_group (by rw [group]; decide))
  · simp only [regularSwitch, other, group]
    trivial
  · simp only [mainSwitch, other, group]
    unfold branch
    dsimp only
    split <;> exact live.congr rfl rfl rfl

end Words

section Arm

variable {bus : Bus Mem} {traps : Traps Mem} {cops : Coprocessors Mem} {state : ARMulState Mem}
  {pc instr : ARMword} {memory : Memory Mem} {decoded : ArmIsa.Instr}
  {effect : ArmIsa.Effect Mem}

theorem execData_apart {op : ArmIsa.DataOp} {rn rd : RegNum} {operand : ArmIsa.Operand}
    {machine after : Processor Mem}
    (defined : ArmIsa.execData op true rn rd operand machine = some after)
    (writes : op.tests = false) : rd ≠ 15#4 := by
  rintro rfl
  have none (value : ARMword) (flagged : Processor Mem) :
      ArmIsa.finish op true 15#4 value machine flagged = none := by
    simp [ArmIsa.finish, writes]
  unfold ArmIsa.execData at defined
  split at defined
  · cases defined
  · simp only [Option.bind_eq_bind, Option.bind_eq_some_iff] at defined
    obtain ⟨operand, -, finished⟩ := defined
    split at finished <;>
      rw [none] at finished <;>
      cases finished

theorem base_apart {offset : ArmIsa.Offset} {address : ArmIsa.Address} {rd : RegNum}
    (found : ArmIsa.decodeAddress instr offset = some address)
    (legal : address.legal (lhsReg instr) rd = true) (moves : writesBack instr = true) :
    lhsReg instr ≠ 15#4 := by
  obtain ⟨-, rfl⟩ := decodeAddress_some found
  exact (legal_apart legal moves).1

theorem execTransfer_legal {access : ThumbIsa.Access} {rn rd : RegNum} {address : ArmIsa.Address}
    {machine after : Processor Mem}
    (defined : ArmIsa.execTransfer memory access rn rd address machine = some after) :
    address.legal rn rd = true := by
  unfold ArmIsa.execTransfer at defined
  split at defined
  · assumption
  · cases defined

theorem execDouble_legal {load : Bool} {rn rd : RegNum} {address : ArmIsa.Address}
    {machine after : Processor Mem}
    (defined : ArmIsa.execDouble memory load rn rd address machine = some after) :
    address.legal rn rd = true := by
  unfold ArmIsa.execDouble at defined
  dsimp only at defined
  split at defined
  · cases defined
  · rename_i illegal
    simp only [not_or] at illegal
    simpa using illegal.2.2.2.1

variable (ready : ArmReady state pc) (live : Live state)
  (ran : ArmIsa.exec memory decoded (armMachineOf state pc) = some effect)

include ready live ran

theorem tame_armMultiply (word : MultiplyWord instr)
    (named : ArmIsa.decodeMultiply instr = some decoded) : Tame bus traps cops state pc instr := by
  have register : instr.getLsbD 25 = false := word_bit word.group (show 0 < 3 by decide)
  unfold ArmIsa.decodeMultiply at named
  split at named
  · rename_i long
    cases named
    obtain ⟨after, defined, -⟩ := Option.map_eq_some_iff.mp ran
    unfold ArmIsa.execLongMultiply at defined
    dsimp only at defined
    split at defined
    · cases defined
    · rename_i legal
      simp only [ArmIsa.usesPc_iff, List.mem_cons, List.not_mem_nil, or_false, not_or] at legal
      have multiplies : isMultiply instr = true := by
        rw [isMultiply, register, word.plain, word.code, long]
        rfl
      refine tame_multiply ready.ready live word.transferOf word.group multiplies ?_
      rw [regularMultiply, long]
      split
      · cases ‹true = false›
      · trivial
      · exact ⟨Ne.symm legal.1.1, Ne.symm legal.1.2.1⟩
  · rename_i short
    split at named
    · cases named
    · rename_i single
      cases named
      obtain ⟨after, defined, -⟩ := Option.map_eq_some_iff.mp ran
      unfold ArmIsa.execMultiply at defined
      dsimp only at defined
      split at defined
      · cases defined
      · rename_i legal
        simp only [ArmIsa.usesPc_iff, List.mem_cons, List.not_mem_nil, or_false, not_or] at legal
        rw [Bool.not_eq_true] at short
        rw [not_or, Bool.not_eq_true] at single
        have multiplies : isMultiply instr = true := by
          rw [isMultiply, register, word.plain, word.code, short, single.1]
          rfl
        refine tame_multiply ready.ready live word.transferOf word.group multiplies ?_
        rw [regularMultiply, short]
        exact fun both => legal.1.1 both.1.symm

theorem tame_armMisc (word : StatusWord instr) (named : ArmIsa.decodeMisc instr = some decoded)
    (isV5e : enhanced decoded = true → state.isV5e = true) :
    Tame bus traps cops state pc instr := by
  have other : instr.extractLsb' 25 3 ≠ 7#3 := by
    rw [word.group]
    decide
  unfold ArmIsa.decodeMisc at named
  split at named
  · rename_i halves
    obtain ⟨op, half, rfl⟩ := Option.map_eq_some_iff.mp named
    obtain ⟨after, defined, -⟩ := Option.map_eq_some_iff.mp ran
    have signed := signed_half half halves.1 halves.2
    refine tame_steady ready.ready live (signedMultiply_switch word (isV5e rfl) signed bus traps cops)
      (steady_signedMultiply state ?_) other
    unfold ArmIsa.execHalfMultiply at defined
    dsimp only at defined
    split at defined
    · cases defined
    · rename_i legal
      simp only [ArmIsa.usesPc_iff, List.mem_cons, List.not_mem_nil, or_false, not_or] at legal
      exact ⟨Ne.symm legal.1, fun _ => Ne.symm legal.2.1⟩
  · split at named
    · rename_i code
      cases named
      obtain ⟨after, defined, -⟩ := Option.map_eq_some_iff.mp ran
      refine tame_steady ready.ready live (saturating_switch bus traps cops word (isV5e rfl) code)
        (steady_saturating state ?_) other
      unfold ArmIsa.execSaturating at defined
      dsimp only at defined
      split at defined
      · cases defined
      · rename_i legal
        simp only [ArmIsa.usesPc_iff, List.mem_cons, List.not_mem_nil, or_false, not_or] at legal
        exact Ne.symm legal.2.1
    · split at named
      · rename_i code
        exact tame_exchange live word (exchange_switch bus traps cops word code)
      · split at named
        · rename_i code
          exact tame_link live word (link_switch bus traps cops word ready.isV5 ready.arm code)
        · split at named
          · rename_i code
            cases named
            obtain ⟨after, defined, -⟩ := Option.map_eq_some_iff.mp ran
            refine tame_steady ready.ready live
              (clz_switch bus traps cops word ready.isV5 code.1 code.2) (steady_setReg state ?_ _)
              other
            unfold ArmIsa.execCountZeros at defined
            split at defined
            · cases defined
            · rename_i legal
              simp only [ArmIsa.usesPc_iff, List.mem_cons, List.not_mem_nil, or_false, not_or]
                at legal
              exact Ne.symm legal.1
          · cases named

variable (trapsRead : TrapsReadOnly traps)

include trapsRead

theorem tame_armData (form : ProcessingForm instr)
    (operates : ¬(instr.extractLsb' 23 2 = 2#2 ∧ instr.getLsbD 20 = false))
    (named : ArmIsa.decodeData instr = some decoded) : Tame bus traps cops state pc instr := by
  refine tame_data ready.ready live trapsRead ready.isV4 form operates fun flags => ?_
  unfold ArmIsa.decodeData at named
  dsimp only at named
  split at named
  · cases named
  · rename_i zeros
    cases named
    rw [not_or, not_and, not_not] at zeros
    obtain ⟨after, defined, -⟩ := Option.map_eq_some_iff.mp ran
    cases tests : (ArmIsa.decodeOp (instr.extractLsb' 21 4)).tests with
    | true =>
        rw [show destReg instr = 0#4 from zeros.1 tests]
        decide
    | false =>
        rw [flags] at defined
        exact execData_apart defined tests

theorem tame_armHalf (word : ExtraWord instr) (form : instr.extractLsb' 5 2 ≠ 0#2)
    (named : ArmIsa.decodeHalf instr = some decoded) : Tame bus traps cops state pc instr := by
  unfold ArmIsa.decodeHalf at named
  obtain ⟨address, half, same⟩ := Option.map_eq_some_iff.mp named
  obtain ⟨plain, found⟩ := decodeHalfAddress_some half
  obtain ⟨own, -⟩ := decodeAddress_some found
  have transfers := extra_transfer word plain own form
  have legal : ∃ rd, address.legal (lhsReg instr) rd = true := by
    split at same <;>
      cases same <;>
      obtain ⟨after, defined, -⟩ := Option.map_eq_some_iff.mp ran <;>
      first
      | exact ⟨_, execTransfer_legal defined⟩
      | exact ⟨_, execDouble_legal defined⟩
  obtain ⟨rd, legal⟩ := legal
  refine tame_transfer ready.ready live trapsRead ready.isV4 transfers ?_
  split
  · split <;> exact base_apart found legal
  · exact base_apart found legal

theorem tame_armSwap (word : ExtraWord instr) (form : instr.extractLsb' 5 2 = 0#2)
    (swaps : instr.getLsbD 24 = true) (named : ArmIsa.decodeSwap instr = some decoded) :
    Tame bus traps cops state pc instr := by
  unfold ArmIsa.decodeSwap at named
  split at named
  · rename_i zeros
    cases named
    obtain ⟨after, defined, -⟩ := Option.map_eq_some_iff.mp ran
    have transfers := swap_transfer word form swaps zeros.1 zeros.2.1 zeros.2.2
    unfold ArmIsa.execSwap at defined
    dsimp only at defined
    split at defined
    · cases defined
    · rename_i legal
      simp only [ArmIsa.usesPc_iff, List.mem_cons, List.not_mem_nil, or_false, not_or] at legal
      have apart : destReg instr ≠ 15#4 := Ne.symm legal.1.2.1
      refine tame_transfer ready.ready live trapsRead ready.isV4 transfers ?_
      split <;> exact apart
  · cases named

theorem tame_armSingle (upper : instr.extractLsb' 26 2 = 1#2)
    (constant : ¬(instr.getLsbD 25 = true ∧ instr.getLsbD 4 = true))
    (named : ArmIsa.decodeSingle instr = some decoded) : Tame bus traps cops state pc instr := by
  unfold ArmIsa.decodeSingle at named
  obtain ⟨address, found, rfl⟩ := Option.map_eq_some_iff.mp named
  obtain ⟨after, defined, -⟩ := Option.map_eq_some_iff.mp ran
  have transfers : transferOf instr = some .single := by
    rw [transferOf, if_pos upper, if_neg]
    rw [Bool.and_eq_true]
    exact constant
  exact tame_transfer ready.ready live trapsRead ready.isV4 transfers
    (base_apart found (execTransfer_legal defined))

theorem tame_armRegister (group : instr.extractLsb' 25 3 = 0#3)
    (named : ArmIsa.decode instr = some decoded) (steady : ¬ArmDeparts state pc instr) :
    Tame bus traps cops state pc instr := by
  have form := named
  simp only [ArmIsa.decode, group] at form
  split at form
  · rename_i extra
    have word : ExtraWord instr := ⟨group, extra.1, extra.2⟩
    unfold ArmIsa.decodeExtra at form
    split at form
    · rename_i half
      exact tame_armHalf ready live ran trapsRead word half form
    · rename_i none
      have code : instr.extractLsb' 5 2 = 0#2 := not_not.mp none
      split at form
      · rename_i swaps
        exact tame_armSwap ready live ran trapsRead word code swaps form
      · rename_i multiplies
        have plain : instr.getLsbD 24 = false := Bool.eq_false_iff.mpr multiplies
        exact tame_armMultiply ready live ran
          ⟨group, extract_nine word.four word.seven code, plain⟩ form
  · rename_i plain
    have data : ProcessingForm instr := by
      refine Or.inr ⟨group, ?_⟩
      rw [not_and_or, Bool.not_eq_true, Bool.not_eq_true] at plain
      exact plain
    split at form
    · rename_i status
      exact tame_armMisc ready live ran ⟨data, group, status.1, status.2⟩ form
        (enhanced_core named steady)
    · rename_i operation
      exact tame_armData ready live ran trapsRead data operation form

theorem tame_arm {machine : ArmIsa.Machine Mem} (goesOn : effect = .goesOn machine)
    (named : ArmIsa.decode instr = some decoded) (steady : ¬ArmDeparts state pc instr) :
    Tame bus traps cops state pc instr := by
  have upper {code : BitVec 3} {high : BitVec 2} (group : instr.extractLsb' 25 3 = code)
      (top : code.extractLsb' 1 2 = high) : instr.extractLsb' 26 2 = high := by
    rw [extract_upper, group, top]
  rcases class_cases (instr.extractLsb' 25 3) with group | group | group | group | group |
    group | group | group
  · exact tame_armRegister ready live ran trapsRead group named steady
  · simp only [ArmIsa.decode, group] at named
    split at named
    · cases named
    · rename_i operation
      exact tame_armData ready live ran trapsRead (Or.inl group) operation named
  · simp only [ArmIsa.decode, group] at named
    refine tame_armSingle ready live ran trapsRead (upper group rfl) ?_ named
    rw [word_bit group (show 0 < 3 by decide)]
    exact fun both => Bool.noConfusion both.1
  · simp only [ArmIsa.decode, group] at named
    split at named
    · cases named
    · rename_i constant
      exact tame_armSingle ready live ran trapsRead (upper group rfl) (fun both => constant both.2)
        named
  · simp only [ArmIsa.decode, group, ArmIsa.decodeBlock] at named
    split at named
    · cases named
    · rename_i own
      exact tame_block ready.ready live trapsRead ready.isV4 group (Bool.eq_false_iff.mpr own)
  · exact tame_branch ready.ready live trapsRead ready.isV4 group
  · simp only [ArmIsa.decode, group] at named
    cases named
  · have interrupt : (if instr.getLsbD 24 then
        some (ArmIsa.Instr.softwareInterrupt (instr.extractLsb' 0 24)) else none) =
        some decoded := by
      rw [ArmIsa.decode, group] at named
      exact named
    split at interrupt
    · cases interrupt
      cases ran
      cases goesOn
    · cases interrupt

end Arm

end SkyeyeStarlet
