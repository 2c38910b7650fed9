import SkyeyeStarlet.ArmArithmetic

/-!
The words between the tests in ARM state, which hold the extended multiplications, `CLZ` and
the exchanges of the instruction set, and the branches and the software interrupt.
-/

namespace SkyeyeStarlet

open ThumbIsa

variable {Mem : Type}

section Miscellaneous

variable {state : ARMulState Mem} {pc instr : ARMword} (bus : Bus Mem) (traps : Traps Mem)
  (cops : Coprocessors Mem)

theorem extract_part {first width : Nat} {code : BitVec width}
    (equal : instr.extractLsb' first width = code) {start size : Nat}
    (inside : start + size ≤ width) :
    instr.extractLsb' (first + start) size = code.extractLsb' start size := by
  rw [← equal]
  apply BitVec.eq_of_getLsbD_eq
  intro index bound
  simp only [BitVec.getLsbD_extractLsb']
  grind

theorem signed_odd (odd : instr.getLsbD 4 = true) : isSignedMultiply instr = false := by
  rw [isSignedMultiply, odd]
  rfl

theorem signed_half {op : ArmIsa.HalfOp} (named : ArmIsa.decodeHalfOp instr = some op)
    (even : instr.getLsbD 4 = false) (half : instr.getLsbD 7 = true) :
    isSignedMultiply instr = true := by
  unfold ArmIsa.decodeHalfOp at named
  dsimp only at named
  unfold isSignedMultiply
  rw [even, half]
  split at named
  · rename_i code
    rw [code]
    rfl
  · rename_i code
    rw [code]
    split at named
    · rename_i bottom
      simp only [bottom, Bool.not_false, Bool.true_or, Bool.and_self]
    · split at named
      · rename_i zero
        simp only [show instr.extractLsb' 12 4 = 0#4 from zero, beq_self_eq_true, Bool.or_true,
          Bool.not_false, Bool.and_self]
      · cases named
  · rename_i code
    rw [code]
    rfl
  · split at named
    · rename_i zero
      simp only [show instr.extractLsb' 12 4 = 0#4 from zero, beq_self_eq_true, Bool.or_true,
        Bool.not_false, Bool.true_and]
      split <;> rfl
    · cases named

theorem saturating_switch (word : StatusWord instr) (isV5e : state.isV5e = true)
    (code : instr.extractLsb' 4 8 = 0x05#8) :
    mainSwitch bus traps cops state pc instr = saturating state instr := by
  have odd : instr.getLsbD 4 = true := word_bit code (show 0 < 8 by decide)
  have low : instr.extractLsb' 4 4 = 5#4 := extract_part code (show 0 + 4 ≤ 8 by decide)
  rw [word.mainSwitch bus traps cops]
  cases instr.getLsbD 22 <;> cases instr.getLsbD 21 <;>
    simp [mrsCase, msrCase, clzCase, isV5e, signed_odd odd, low, code]

theorem exchange_switch (word : StatusWord instr) (code : instr.extractLsb' 4 20 = 0x2fff1#20) :
    mainSwitch bus traps cops state pc instr =
      writeR15Branch state (state.reg (rhsReg instr)) := by
  have odd : instr.getLsbD 4 = true := word_bit code (show 0 < 20 by decide)
  have low : instr.extractLsb' 4 4 = 1#4 := extract_part code (show 0 + 4 ≤ 20 by decide)
  have wide : instr.extractLsb' 4 8 = 0xf1#8 := extract_part code (show 0 + 8 ≤ 20 by decide)
  have current : instr.getLsbD 22 = false := word_bit code (show 18 < 20 by decide)
  have writes : instr.getLsbD 21 = true := word_bit code (show 17 < 20 by decide)
  have upper : instr.extractLsb' 24 4 = 1#4 := by
    have parts : instr.extractLsb' 24 4 =
        instr.extractLsb' 25 3 ++ (instr.extractLsb' 23 2).extractLsb' 1 1 := by
      apply BitVec.eq_of_getLsbD_eq
      intro index bound
      simp only [BitVec.getLsbD_extractLsb', BitVec.getLsbD_append]
      grind
    rw [parts, word.group, word.tests]
    rfl
  have whole : instr.extractLsb' 4 24 = 0x12fff1#24 := by
    have parts : instr.extractLsb' 4 24 = instr.extractLsb' 24 4 ++ instr.extractLsb' 4 20 := by
      apply BitVec.eq_of_getLsbD_eq
      intro index bound
      simp only [BitVec.getLsbD_extractLsb', BitVec.getLsbD_append]
      grind
    rw [parts, upper, code]
    rfl
  rw [word.mainSwitch bus traps cops, current, writes]
  simp [msrCase, signed_odd odd, low, wide, whole]

theorem link_switch (word : StatusWord instr) (isV5 : state.isV5 = true)
    (arm : state.tFlag = false) (code : instr.extractLsb' 4 20 = 0x2fff3#20) :
    mainSwitch bus traps cops state pc instr =
      (writeR15Branch state (state.reg (rhsReg instr))).setReg 14#4 (pc + 4#32) := by
  have low : instr.extractLsb' 4 4 = 3#4 := extract_part code (show 0 + 4 ≤ 20 by decide)
  have current : instr.getLsbD 22 = false := word_bit code (show 18 < 20 by decide)
  have writes : instr.getLsbD 21 = true := word_bit code (show 17 < 20 by decide)
  rw [word.mainSwitch bus traps cops, current, writes]
  simp [msrCase, isV5, arm, low]

theorem clz_switch (word : StatusWord instr) (isV5 : state.isV5 = true)
    (code : instr.extractLsb' 4 8 = 0xf1#8) (left : instr.extractLsb' 16 7 = 0x6f#7) :
    mainSwitch bus traps cops state pc instr =
      state.setReg (destReg instr) (countLeadingZeros (state.reg (rhsReg instr))) := by
  have odd : instr.getLsbD 4 = true := word_bit code (show 0 < 8 by decide)
  have saved : instr.getLsbD 22 = true := word_bit left (show 6 < 7 by decide)
  have writes : instr.getLsbD 21 = true := word_bit left (show 5 < 7 by decide)
  have ones : instr.extractLsb' 16 4 = 15#4 := extract_part left (show 0 + 4 ≤ 7 by decide)
  rw [word.mainSwitch bus traps cops, saved, writes]
  simp [clzCase, isV5, signed_odd odd, code, ones]

variable (ready : ArmReady state pc)

include ready

theorem shows_armExchange (word : StatusWord instr) {after : Processor Mem}
    (code : instr.extractLsb' 4 20 = 0x2fff1#20)
    (defined : ArmIsa.execExchange false (ArmIsa.rmOf instr) (machineOf state pc) = some after) :
    Shows state (mainSwitch bus traps cops state pc instr) pc after := by
  rw [exchange_switch bus traps cops word code, reg_armRead ready]
  exact (within_refl ready.ready pc).exchange _ pc defined

theorem shows_armLink (word : StatusWord instr) {after : Processor Mem}
    (code : instr.extractLsb' 4 20 = 0x2fff3#20)
    (defined : ArmIsa.execExchange true (ArmIsa.rmOf instr) (machineOf state pc) = some after) :
    Shows state (mainSwitch bus traps cops state pc instr) pc after := by
  unfold ArmIsa.execExchange at defined
  rw [if_pos rfl] at defined
  split at defined
  · cases defined
  · rw [Processor.exchange_set, Option.map_eq_some_iff] at defined
    obtain ⟨branched, exchanged, rfl⟩ := defined
    rw [link_switch bus traps cops word ready.isV5 ready.arm code]
    exact ((within_refl ready.ready pc).exchange _ pc exchanged).setReg (by decide) _

theorem performs_misc (word : StatusWord instr) {decoded : ArmIsa.Instr}
    (named : ArmIsa.decodeMisc instr = some decoded)
    (isV5e : enhanced decoded = true → state.isV5e = true) {memory : Memory Mem}
    {effect : ArmIsa.Effect Mem} {highVectors : Mem → Bool}
    (ran : ArmIsa.exec memory decoded (armMachineOf state pc) = some effect) :
    ArmPerforms highVectors state (mainSwitch bus traps cops state pc instr) pc effect := by
  unfold ArmIsa.decodeMisc at named
  split at named
  · rename_i halves
    obtain ⟨op, half, rfl⟩ := Option.map_eq_some_iff.mp named
    obtain ⟨after, defined, rfl⟩ := Option.map_eq_some_iff.mp ran
    have signed := signed_half half halves.1 halves.2
    rw [signedMultiply_switch word (isV5e rfl) signed bus traps cops]
    exact armShows_halfMultiply ready half defined
  · split at named
    · rename_i code
      cases named
      obtain ⟨after, defined, rfl⟩ := Option.map_eq_some_iff.mp ran
      rw [saturating_switch bus traps cops word (isV5e rfl) code]
      exact armShows_saturating ready defined
    · split at named
      · rename_i code
        cases named
        exact armPerforms_continues ran fun after =>
          shows_armExchange bus traps cops ready word code
      · split at named
        · rename_i code
          cases named
          exact armPerforms_continues ran fun after => shows_armLink bus traps cops ready word code
        · split at named
          · rename_i code
            cases named
            refine armPerforms_continues ran fun after defined => ?_
            rw [clz_switch bus traps cops word ready.isV5 code.1 code.2]
            exact shows_countZeros ready defined
          · cases named

end Miscellaneous

section Branches

variable {state : ARMulState Mem} {pc instr : ARMword} (bus : Bus Mem) (traps : Traps Mem)
  (cops : Coprocessors Mem)

theorem branchOffset_eq (instr : ARMword) :
    branchOffset instr = (instr.extractLsb' 0 24).signExtend 32 <<< 2 := by
  have top : (instr.extractLsb' 0 24).msb = instr.getLsbD 23 := by
    rw [BitVec.msb_eq_getLsbD_last, BitVec.getLsbD_extractLsb']
    rfl
  have low : ∀ index < 32, (0xffffff#32).getLsbD index = decide (index < 24) := by decide
  have lower : ∀ index < 32, (0x7fffff#32).getLsbD index = decide (index < 23) := by decide
  have upper : ∀ index < 32, (0xff000000#32).getLsbD index = decide (24 ≤ index) := by decide
  rw [branchOffset]
  apply BitVec.eq_of_getLsbD_eq
  intro index bound
  cases sign : instr.getLsbD 23 with
  | true =>
      simp only [if_true, BitVec.getLsbD_shiftLeft, BitVec.getLsbD_or, BitVec.getLsbD_and,
        BitVec.getLsbD_signExtend, BitVec.getLsbD_extractLsb', top, sign]
      grind
  | false =>
      simp only [Bool.false_eq_true, if_false, BitVec.getLsbD_shiftLeft, BitVec.getLsbD_and,
        BitVec.getLsbD_signExtend, BitVec.getLsbD_extractLsb', top, sign]
      grind

theorem transferOf_class {code : BitVec 3} (group : instr.extractLsb' 25 3 = code)
    (upper : code.extractLsb' 1 2 ≠ 1#2) (lower : code ≠ 0#3) : transferOf instr = none := by
  simp only [transferOf, extract_upper, group, upper, lower, if_false]

variable (ready : ArmReady state pc)

include ready

theorem shows_armBranch (group : instr.extractLsb' 25 3 = 5#3) :
    Shows state (mainSwitch bus traps cops state pc instr) pc
      (ArmIsa.execBranch (instr.getLsbD 24) (instr.extractLsb' 0 24) (machineOf state pc)) := by
  have within := within_refl ready.ready pc
  simp only [mainSwitch, transferOf_class group (by decide) (by decide), group, branch,
    branchOffset_eq]
  unfold ArmIsa.execBranch
  cases instr.getLsbD 24 with
  | true => exact (within.setReg (show 14#4 ≠ 15#4 by decide) (pc + 4#32)).flush _ pc
  | false => exact within.flush _ pc

theorem callThumb_target (instr : ARMword) (upper : Bool) :
    let target := pc + 9#32 + (branchOffset instr + (flagWord upper <<< 1))
    target.getLsbD 0 = true ∧ target &&& ~~~1#32 =
      pc + 8#32 + (instr.extractLsb' 0 24).signExtend 32 <<< 2 +
        if upper then 2#32 else 0#32 := by
  intro target
  have aligned := ready.aligned
  have half : flagWord upper <<< 1 = if upper then 2#32 else 0#32 := by
    cases upper <;> rfl
  generalize offset : (instr.extractLsb' 0 24).signExtend 32 <<< 2 = words
  generalize halves : (if upper then 2#32 else 0#32 : ARMword) = bytes
  have even : (pc + 8#32 + words + bytes).getLsbD 0 = false := by
    have wordsEven : words.toNat % 2 = 0 := by
      rw [← offset, BitVec.toNat_shiftLeft, Nat.shiftLeft_eq]
      omega
    have bytesEven : bytes.toNat % 2 = 0 := by
      rw [← halves]
      cases upper <;> rfl
    rw [getLsbD_div]
    simp only [BitVec.toNat_add, decide_eq_false_iff_not]
    simp
    omega
  have next : target = pc + 8#32 + words + bytes + 1#32 := by
    simp only [target, branchOffset_eq, half, offset, halves]
    bv_omega
  have odd : target = (pc + 8#32 + words + bytes) ||| 1#32 := by
    rw [next]
    refine BitVec.add_eq_or_of_and_eq_zero _ _ ?_
    rw [show 1#32 = BitVec.twoPow 32 0 from rfl]
    apply BitVec.eq_of_getLsbD_eq
    intro index bound
    simp only [BitVec.getLsbD_and, BitVec.getLsbD_twoPow, BitVec.getLsbD_zero]
    grind
  refine ⟨?_, ?_⟩
  · rw [odd, BitVec.getLsbD_or]
    exact Bool.or_true _
  · rw [odd, BitVec.and_comm, BitVec.and_or_distrib_left, BitVec.and_comm, and_not_one even]
    simp

theorem shows_callThumb (never : instr.extractLsb' 28 4 = 0xf#4)
    (group : instr.extractLsb' 25 3 = 5#3) :
    Shows state (executeArm bus traps cops state pc instr) pc
      (ArmIsa.execCallThumb (instr.getLsbD 24) (instr.extractLsb' 0 24) (machineOf state pc)) := by
  obtain ⟨odd, target⟩ := callThumb_target ready instr (instr.getLsbD 24)
  have linked := (within_refl ready.ready pc).setReg (show 14#4 ≠ 15#4 by decide) (pc + 4#32)
  have branched := linked.exchange (pc + 9#32 + (branchOffset instr +
    (flagWord (instr.getLsbD 24) <<< 1))) pc (by rw [Processor.exchange, if_pos odd])
  rw [target] at branched
  rw [executeArm, if_pos never]
  simp only [unconditional, ready.isV5, group, Bool.not_true, Bool.false_eq_true, if_false,
    if_true]
  exact branched

theorem enters_armSoftwareInterrupt (group : instr.extractLsb' 25 3 = 7#3)
    (kind : instr.getLsbD 24 = true)
    (fetched : ¬(instr = 0xefffffff#32 ∧ state.abortAddr = pc))
    (declines : traps.undfTrap state instr = (state, false)) :
    Enters bus.highVectors state (mainSwitch bus traps cops state pc instr) pc .swiV
      (pc + 4#32) := by
  have link : linkAddress state .swiV = pc + 4#32 := by
    rw [linkAddress, ready.ahead, ready.arm]
    simp only [Vector.linkOffset, Bool.false_eq_true, if_false]
    bv_omega
  have marker : armulAbortWord state = 0xefffffff#32 := by
    rw [armulAbortWord, ready.arm]
    rfl
  rw [← marker] at fetched
  simp only [mainSwitch, transferOf_class group (by decide) (by decide), group, kind, if_true,
    softwareInterrupt, fetched, if_false, declines, Bool.false_eq_true]
  rw [← link]
  exact enters_armulAbort bus.highVectors ready.coherent rfl pc

end Branches

end SkyeyeStarlet
