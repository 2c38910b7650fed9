import SkyeyeStarlet.ThumbData

/-!
The Thumb branches: those that the decoder runs itself, `BX` and `BLX` through the main switch,
and the software interrupt.
-/

namespace SkyeyeStarlet

open ThumbIsa

variable {Mem : Type} {state : ARMulState Mem} {pc : ARMword}

section Exchange

variable (bus : Bus Mem) (traps : Traps Mem) (cops : Coprocessors Mem)

theorem Shows.setReg {before after : ARMulState Mem} {machine : Processor Mem}
    (shows : Shows before after pc machine) {number : RegNum} (notPc : number ≠ 15#4)
    (value : ARMword) :
    Shows before (after.setReg number value) pc (machine.set number value) := by
  refine ⟨{ shows.toAgrees with regs := ?_, background := shows.background }, ?_⟩
  · intro other notPc'
    by_cases same : other = number
    · subst same
      simp [ARMulState.reg, ARMulState.setReg, Registers.set, Processor.set]
    · rw [setReg_reg_of_ne same, shows.regs other notPc']
      exact (Function.update_of_ne same _ _).symm
  · have kept : (after.setReg number value).reg 15#4 = after.reg 15#4 :=
      setReg_reg_of_ne (Ne.symm notPc)
    have next : nextPc after pc = (machine.set number value).pc := shows.next
    rw [← next, nextPc, nextPc, kept]
    rfl

structure IsMsr (instr : ARMword) : Prop extends IsData instr where
  tests : instr.extractLsb' 23 2 = 2#2
  plain : instr.getLsbD 20 = false
  register : instr.getLsbD 25 = false
  current : instr.getLsbD 22 = false
  writes : instr.getLsbD 21 = true

theorem executeArm_msr {instr : ARMword} (msr : IsMsr instr) :
    executeArm bus traps cops state pc instr = msrCase state pc instr := by
  rw [executeArm_data bus traps cops state pc msr.toIsData]
  simp only [dataProcessing, isMultiply_data msr.toIsData, msr.tests, msr.plain, if_true,
    if_false, Bool.false_eq_true, statusCase, msr.register, msr.current, msr.writes]

theorem shows_bx (ready : ThumbReady state pc) {rm : RegNum} {after : Processor Mem}
    (defined : (machineOf state pc).exchange ((machineOf state pc).read rm) = some after) :
    Shows state (executeArm bus traps cops state pc (0xe12fff10#32 ||| regField rm 0)) pc
      after := by
  generalize code : 0xe12fff10#32 ||| regField rm 0 = instr
  have msr : IsMsr instr := by
    constructor
    · constructor <;> simp [← code, regField, BitVec.extractLsb'_or]
    all_goals simp [← code, regField, BitVec.extractLsb'_or]
  have form : instr.extractLsb' 4 4 = 1#4 := by
    simp [← code, regField, BitVec.extractLsb'_or]
  have odd : instr.getLsbD 4 = true := by
    simp [← code, regField]
  have wide : instr.extractLsb' 4 8 = 0xf1#8 := by
    simp [← code, regField, BitVec.extractLsb'_or]
  have exchanges : instr.extractLsb' 4 24 = 0x12fff1#24 := by
    simp [← code, regField, BitVec.extractLsb'_or]
  have right : rhsReg instr = rm := by
    simp [← code, rhsReg, regField, BitVec.extractLsb'_or, extract_number]
  have unsigned : isSignedMultiply instr = false := by
    simp only [isSignedMultiply, odd, Bool.not_true, Bool.false_and]
  rw [executeArm_msr bus traps cops msr]
  simp only [msrCase, form, wide, exchanges, unsigned, right, Bool.and_false, Bool.false_eq_true,
    if_false, if_true, reg_read ready, show (1#4 == 3#4) = false from rfl,
    show (0xf1#8 == 5#8) = false from rfl]
  exact (within_refl ready.ready pc).exchange _ pc defined

theorem shows_blx (ready : ThumbReady state pc) {rm : RegNum} {after : Processor Mem}
    (defined : (machineOf state pc).link.exchange ((machineOf state pc).reg rm) = some after) :
    Shows state (executeArm bus traps cops state pc (0xe1200030#32 ||| regField rm 0)) pc
      after := by
  generalize code : 0xe1200030#32 ||| regField rm 0 = instr
  have msr : IsMsr instr := by
    constructor
    · constructor <;> simp [← code, regField, BitVec.extractLsb'_or]
    all_goals simp [← code, regField, BitVec.extractLsb'_or]
  have form : instr.extractLsb' 4 4 = 3#4 := by
    simp [← code, regField, BitVec.extractLsb'_or]
  have right : rhsReg instr = rm := by
    simp [← code, rhsReg, regField, BitVec.extractLsb'_or, extract_number]
  rw [Processor.link, Processor.exchange_set, Option.map_eq_some_iff] at defined
  obtain ⟨branched, exchanged, rfl⟩ := defined
  rw [executeArm_msr bus traps cops msr]
  simp only [msrCase, form, right, ready.isV5, ready.thumb, if_true, Bool.true_and,
    show (3#4 == 3#4) = true from rfl]
  exact ((within_refl ready.ready pc).exchange _ pc exchanged).setReg (by decide) _

end Exchange

section Jumps

theorem and_not_one {word : ARMword} (even : word.getLsbD 0 = false) :
    word &&& ~~~1#32 = word := by
  rw [WordBits.and_not_eq_self_iff, show 1#32 = BitVec.twoPow 32 0 from rfl]
  apply BitVec.eq_of_getLsbD_eq
  intro index bound
  simp only [BitVec.getLsbD_and, BitVec.getLsbD_twoPow, BitVec.getLsbD_zero]
  grind

theorem shows_thumbJump (ready : ThumbReady state pc) {target : ARMword}
    (even : target.getLsbD 0 = false) :
    Shows state (thumbJump state target) pc ((machineOf state pc).jump target) := by
  rw [Processor.jump, and_not_one even]
  exact (within_refl ready.ready pc).flush target pc

theorem signed_field (tinstr : Halfword) {width bits place : Nat} (sign : width ≠ 0)
    (kept : bits = width ∨ bits + 1 = width) :
    field tinstr 0 bits place |||
        (if tinstr.getLsbD (width - 1) then BitVec.allOnes 32 <<< (place + bits) else 0#32) =
      (tinstr.extractLsb' 0 width).signExtend 32 <<< place := by
  apply BitVec.eq_of_getLsbD_eq
  intro index bound
  have top : (tinstr.extractLsb' 0 width).msb = tinstr.getLsbD (width - 1) := by
    rw [BitVec.msb_eq_getLsbD_last, BitVec.getLsbD_extractLsb']
    simp
    omega
  simp only [field, BitVec.getLsbD_or, BitVec.getLsbD_shiftLeft, BitVec.getLsbD_setWidth,
    BitVec.getLsbD_extractLsb', BitVec.getLsbD_signExtend, top]
  cases sign : tinstr.getLsbD (width - 1) with
  | true =>
      simp only [if_true, BitVec.getLsbD_shiftLeft, BitVec.getLsbD_allOnes]
      grind
  | false =>
      simp only [Bool.false_eq_true, if_false, BitVec.getLsbD_zero]
      grind

theorem thumbCondOffset_eq (tinstr : Halfword) :
    thumbCondOffset tinstr = (tinstr.extractLsb' 0 8).signExtend 32 <<< 1 := by
  have mask : 0xffffff00#32 = BitVec.allOnes 32 <<< 8 := by decide
  rw [thumbCondOffset, mask]
  exact @signed_field tinstr 8 7 1 (by omega) (Or.inr rfl)

theorem thumbOffset_eq (tinstr : Halfword) :
    thumbOffset tinstr = (tinstr.extractLsb' 0 11).signExtend 32 <<< 1 := by
  have mask : 0xfffff800#32 = BitVec.allOnes 32 <<< 11 := by decide
  rw [thumbOffset, mask]
  exact @signed_field tinstr 11 10 1 (by omega) (Or.inr rfl)

theorem thumbPrefixOffset_eq (tinstr : Halfword) :
    thumbPrefixOffset tinstr = (tinstr.extractLsb' 0 11).signExtend 32 <<< 12 := by
  have mask : 0xff800000#32 = BitVec.allOnes 32 <<< 23 := by decide
  rw [thumbPrefixOffset, mask]
  exact @signed_field tinstr 11 11 12 (by omega) (Or.inl rfl)

theorem branch_even (ready : ThumbReady state pc) (offset : ARMword) :
    (pc + 4#32 + offset <<< 1).getLsbD 0 = false := by
  have even := ready.aligned
  rw [getLsbD_div] at even ⊢
  simp [BitVec.toNat_add, BitVec.toNat_shiftLeft] at even ⊢
  omega

theorem shows_branch (ready : ThumbReady state pc) (offset : ARMword) :
    Shows state (thumbJump state (pc + 4#32 + offset <<< 1)) pc
      ((machineOf state pc).branch (offset <<< 1)) := by
  exact shows_thumbJump ready (branch_even ready offset)

theorem passes_eq (state : ARMulState Mem) (pc : ARMword) (condition : BitVec 4) :
    conditionHolds state.flags condition = (machineOf state pc).passes condition := by
  unfold conditionHolds Processor.passes
  rcases bitVec_cases condition with rfl | rfl | rfl | rfl | rfl | rfl | rfl | rfl | rfl | rfl |
      rfl | rfl | rfl | rfl | rfl | rfl <;>
    simp [machineOf, Bool.and_comm, Bool.or_comm]

theorem shows_thumbCondBranch (ready : ThumbReady state pc) (tinstr : Halfword) :
    Shows state (thumbCondBranch state pc tinstr) pc
      (if (machineOf state pc).passes (tinstr.extractLsb' 8 4) then
        (machineOf state pc).branch ((tinstr.extractLsb' 0 8).signExtend 32 <<< 1)
      else (machineOf state pc).next) := by
  rw [thumbCondBranch, passes_eq state pc, thumbCondOffset_eq]
  split
  · exact shows_branch ready _
  · exact (within_refl ready.ready pc).next ready.thumb

end Jumps

section LongBranches

variable {before : ARMulState Mem} {machine : Processor Mem}

theorem shows_thumbSuffix (within : Within before state machine) (isV5 : state.isV5 = true)
    {tinstr : Halfword} {instr : Instr} (suffix : isSuffix tinstr = true)
    (decoded : decode tinstr = some instr) {memory : Memory Mem} {effect : Effect Mem}
    (defined : exec memory instr machine = some effect) (first : ARMword) :
    ∃ after final, thumbSuffix state machine.pc tinstr = .branched after ∧
      effect = .goesOn final ∧ Shows before after first final := by
  have target : state.reg 14#4 + field tinstr 0 11 1 =
      machine.longTarget (tinstr.extractLsb' 0 11) := by
    rw [within.regs 14#4 (by decide)]
    rfl
  have linked := within.setReg (show 14#4 ≠ 15#4 by decide) ((machine.pc + 2#32) ||| 1#32)
  rw [isSuffix, Bool.or_eq_true, beq_iff_eq, beq_iff_eq] at suffix
  rcases suffix with exchanges | stays
  · simp only [decode, exchanges] at decoded
    split at decoded
    · cases decoded
    · cases decoded
      cases defined
      have shown := (linked.withThumb false
        (packCPSR { state.flags with tFlag := false } state.mode)).flush
        (machine.longTarget (tinstr.extractLsb' 0 11) &&& ~~~3#32) first
      refine ⟨_, _, ?_, rfl, shown⟩
      simp only [thumbSuffix, exchanges, isV5, target]
      rfl
  · simp only [decode, stays] at decoded
    cases decoded
    simp only [exec, execSuffix] at defined
    split at defined
    · cases defined
    · rename_i even
      cases defined
      have shown := linked.flush (machine.longTarget (tinstr.extractLsb' 0 11)) first
      rw [Processor.jump, and_not_one (by simpa using even)]
      refine ⟨_, _, ?_, rfl, shown⟩
      simp only [thumbSuffix, stays, target]
      rfl

theorem within_next (within : Within before state machine) (pc : ARMword) :
    Within before state { machine with pc } := by
  exact ⟨{ within.toAgrees with background := within.background }, within.sequential⟩

theorem within_longPrefix (ready : ThumbReady state pc) (tinstr : Halfword) :
    Within state
      (state.setReg 14#4 (state.reg 15#4 + thumbPrefixOffset tinstr))
      ((machineOf state pc).set 14#4
        (pc + 4#32 + (tinstr.extractLsb' 0 11).signExtend 32 <<< 12)) := by
  rw [ready.ahead, thumbPrefixOffset_eq]
  exact (within_refl ready.ready pc).setReg (by decide) _

theorem shows_thumbPrefix (ready : ThumbReady state pc) {tinstr following : Halfword}
    {memory : Memory Mem} {effect : Effect Mem}
    (prefixes : tinstr.extractLsb' 11 5 = 30#5)
    (defined : meaning memory tinstr following (machineOf state pc) = some effect) :
    ∃ after final, thumbPrefix state pc tinstr following = .branched after ∧
      effect = .goesOn final ∧ Shows state after pc final := by
  have within := within_longPrefix ready tinstr
  have code : decode tinstr = some (.blPrefix (tinstr.extractLsb' 0 11)) := by
    simp only [decode, prefixes]
  have branches : isSuffix following = false ↔
      following.extractLsb' 11 5 ≠ 31#5 ∧
        (state.isV5 = false ∨ following.extractLsb' 11 5 ≠ 29#5) := by
    simp [isSuffix, ready.isV5, and_comm]
  simp only [meaning, code, Option.bind_eq_bind, Option.bind_some] at defined
  cases suffix : isSuffix following with
  | true =>
      rw [suffix, if_pos rfl, Option.bind_eq_some_iff] at defined
      obtain ⟨second, decoded, defined⟩ := defined
      have next := within_next within (pc + 2#32)
      obtain ⟨after, final, ran, same, shown⟩ :=
        shows_thumbSuffix next ready.isV5 suffix decoded defined pc
      refine ⟨after, final, ?_, same, shown⟩
      rw [thumbPrefix, if_neg (mt branches.mpr (by simp [suffix]))]
      exact ran
  | false =>
      rw [suffix] at defined
      cases defined
      refine ⟨_, _, ?_, rfl, within.next ready.thumb⟩
      rw [thumbPrefix, if_pos (branches.mp suffix)]

end LongBranches

section Interrupts

/-- An exception entry behind an instruction at `pc`: the registers of every mode but for the
link register, the saved status, the flags, the memory and the address that comes next. -/
structure Enters (highVectors : Mem → Bool) (before after : ARMulState Mem) (pc : ARMword)
    (vector : Vector) (link : ARMword) : Prop where
  mode : after.mode = vector.mode true
  bank : after.file.bank = modeToBank (vector.mode true)
  link : after.reg 14#4 = link
  regs : ∀ bank number, number ≠ 15#4 →
    ¬(bank = modeToBank (vector.mode true) ∧ number = 14#4) →
      bankedReg after.file bank number = bankedReg before.file bank number
  spsr : after.spsr =
    Function.update before.spsr (modeToBank (vector.mode true)) (armulGetCPSR before)
  flags : after.flags = entryFlags before.flags vector
  mem : after.mem = before.mem
  next : nextPc after pc = vectorAddress highVectors before.mem vector

theorem enters_armulAbort (highVectors : Mem → Bool) (coherent : Coherent32 state)
    {vector : Vector} (is32 : vector.is32 = true) (pc : ARMword) :
    Enters highVectors state (armulAbort highVectors state vector) pc vector
      (linkAddress state vector) := by
  have entered := armulAbort_eq highVectors coherent.prog32 coherent.valid is32
  have live := (armulAbort_coherent highVectors coherent is32).live
  have mode : (armulAbort highVectors state vector).mode = vector.mode true := by
    rw [entered]
    rfl
  refine ⟨mode, by rw [live, mode], abort_link highVectors coherent is32, ?_, ?_, ?_, ?_, ?_⟩
  · intro bank number notPc notLink
    exact bankedReg_abort coherent is32 bank notPc notLink
  · rw [entered]
  · rw [entered]
  · rw [entered]
    rfl
  · have pending : ¬(armulAbort highVectors state vector).nextInstr < 4#8 := by
      rw [entered]
      exact flushed_not_lt state.nextInstr
    rw [nextPc, if_neg pending, entered]
    simp [ARMulState.reg, Registers.set]

structure IsSwi (instr : ARMword) : Prop where
  always : instr.extractLsb' 28 4 = 0xe#4
  kind : instr.extractLsb' 24 4 = 0xf#4

variable (bus : Bus Mem) (traps : Traps Mem) (cops : Coprocessors Mem)

theorem enters_softwareInterrupt (ready : ThumbReady state pc) {instr : ARMword}
    (swi : IsSwi instr) (fetched : instr ≠ 0xefffdfff#32)
    (declines : traps.undfTrap state instr = (state, false)) :
    Enters bus.highVectors state (executeArm bus traps cops state pc instr) pc .swiV
      (pc + 2#32) := by
  have upper : instr.extractLsb' 25 3 = (instr.extractLsb' 24 4).extractLsb' 1 3 := by
    apply BitVec.eq_of_getLsbD_eq
    intro index bound
    simp only [BitVec.getLsbD_extractLsb']
    grind
  have low : instr.getLsbD 24 = true := by
    have bit := congrArg (fun code => code.getLsbD 0) swi.kind
    simpa using bit
  have class7 : instr.extractLsb' 25 3 = 7#3 := by
    rw [upper, swi.kind]
    rfl
  have untransferred : transferOf instr = none := by
    simp [transferOf, extract_upper, class7]
  have link : linkAddress state .swiV = pc + 2#32 := by
    rw [linkAddress, ready.ahead, ready.thumb]
    simp only [Vector.linkOffset, if_true]
    bv_omega
  have unmarked : instr ≠ armulAbortWord state := by
    rw [armulAbortWord, ready.thumb]
    exact fetched
  rw [executeArm_always bus traps cops state pc swi.always]
  simp only [mainSwitch, untransferred, class7, low, if_true, softwareInterrupt, unmarked,
    false_and, if_false, declines, Bool.false_eq_true]
  rw [← link]
  exact enters_armulAbort bus.highVectors ready.coherent rfl pc

theorem thumbSwi_isSwi (thumb : state.tFlag = true) {tinstr : Halfword}
    (fetched : ¬(tinstr = 0xdfff#16 ∧ state.abortAddr = pc)) :
    IsSwi (thumbSwi state pc tinstr) ∧ thumbSwi state pc tinstr ≠ 0xefffdfff#32 := by
  have marker : (armulAbortWord state).setWidth 16 = 0xdfff#16 := by
    rw [armulAbortWord, thumb]
    rfl
  have low {place : Nat} (small : place ≤ 16) :
      IsSwi (0xef000000#32 ||| field tinstr 0 8 place) ∧
        0xef000000#32 ||| field tinstr 0 8 place ≠ 0xefffdfff#32 := by
    refine ⟨⟨?_, ?_⟩, fun marked => ?_⟩
    · simp [BitVec.extractLsb'_or, show place + 8 ≤ 28 by omega]
    · simp [BitVec.extractLsb'_or, show place + 8 ≤ 24 by omega]
    · have bits := congrArg (fun word => (word.getLsbD 7, word.getLsbD 23)) marked
      simp at bits
      omega
  unfold thumbSwi
  rw [marker, if_neg fetched]
  split
  · exact low (by omega)
  · split
    · exact ⟨⟨rfl, rfl⟩, by decide⟩
    · exact low (by omega)

end Interrupts

end SkyeyeStarlet
