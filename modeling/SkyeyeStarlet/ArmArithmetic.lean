import Mathlib.Algebra.Order.Ring.Abs
import SkyeyeStarlet.ArmFormats
import SkyeyeStarlet.LongMultiply

/-!
The multiplications, the saturating instructions and `CLZ` in ARM state against the integers:
products that wrap or fill two registers, sums that saturate, and the sticky flag.
-/

namespace SkyeyeStarlet

open ThumbIsa

variable {Mem : Type}

section Integers

theorem outsideSigned_eq_false {value : Int} (low : -2 ^ 31 ≤ value) (high : value < 2 ^ 31) :
    outsideSigned value = false := by
  simp only [outsideSigned, Bool.or_eq_false_iff, decide_eq_false_iff_not]
  omega

theorem toInt_bounds (word : ARMword) : -2 ^ 31 ≤ word.toInt ∧ word.toInt < 2 ^ 31 := by
  have low := BitVec.le_toInt word
  have high := @BitVec.toInt_lt 32 word
  omega

theorem addOverflow_int (x y : ARMword) :
    addOverflow x y (x + y) = outsideSigned (x.toInt + y.toInt) := by
  have overflow := addOverflow_overflow x y false
  rw [show flagWord false = 0#32 from rfl, BitVec.add_zero] at overflow
  rw [overflow]
  exact congrArg outsideSigned (Int.add_zero _)

theorem subOverflow_int (x y : ARMword) :
    subOverflow x y (x - y) = outsideSigned (x.toInt - y.toInt) := by
  have overflow := subOverflow_overflow x y true
  rw [show flagWord (!true) = 0#32 from rfl, BitVec.sub_zero] at overflow
  rw [overflow]
  exact congrArg outsideSigned (Int.sub_zero _)

theorem product_bounds {x y bound limit : Int} (left : |x| ≤ bound) (right : |y| ≤ limit) :
    -(bound * limit) ≤ x * y ∧ x * y ≤ bound * limit := by
  apply abs_le.mp
  rw [abs_mul]
  exact mul_le_mul left right (abs_nonneg y) ((abs_nonneg x).trans left)

theorem abs_half (word : BitVec 16) : |word.toInt| ≤ 2 ^ 15 := by
  have low := BitVec.le_toInt word
  have high := @BitVec.toInt_lt 16 word
  rw [abs_le]
  omega

theorem abs_word (word : ARMword) : |word.toInt| ≤ 2 ^ 31 := by
  have bounds := toInt_bounds word
  rw [abs_le]
  omega

theorem signedHalf_half (word : ARMword) (top : Bool) :
    (signedHalf word top).toInt = ArmIsa.half word top := by
  cases top <;> rfl

theorem halfProduct_exact (x y : BitVec 16) :
    x.signExtend 32 * y.signExtend 32 = BitVec.ofInt 32 (x.toInt * y.toInt) ∧
      (x.signExtend 32 * y.signExtend 32).toInt = x.toInt * y.toInt := by
  have product : x.signExtend 32 * y.signExtend 32 = BitVec.ofInt 32 (x.toInt * y.toInt) := by
    rw [BitVec.ofInt_mul]
    rfl
  have bounds := product_bounds (abs_half x) (abs_half y)
  refine ⟨product, ?_⟩
  rw [product]
  apply BitVec.toInt_ofInt_eq_self <;> omega

theorem setWidth_ofInt (value : Int) :
    (BitVec.ofInt 64 value).setWidth 32 = BitVec.ofInt 32 value := by
  apply BitVec.eq_of_toNat_eq
  rw [BitVec.toNat_setWidth, BitVec.toNat_ofInt, BitVec.toNat_ofInt]
  omega

theorem wideProduct_exact (x : ARMword) (y : BitVec 16) :
    let value := ((x.signExtend 64 * y.signExtend 64) >>> 16).setWidth 32
    value = BitVec.ofInt 32 (x.toInt * y.toInt / 2 ^ 16) ∧
      value.toInt = x.toInt * y.toInt / 2 ^ 16 := by
  intro value
  have product : x.signExtend 64 * y.signExtend 64 = BitVec.ofInt 64 (x.toInt * y.toInt) := by
    rw [BitVec.ofInt_mul]
    rfl
  have bounds := product_bounds (abs_word x) (abs_half y)
  have exact : (BitVec.ofInt 64 (x.toInt * y.toInt)).toInt = x.toInt * y.toInt := by
    apply BitVec.toInt_ofInt_eq_self <;> omega
  have shifted : value =
      ((BitVec.ofInt 64 (x.toInt * y.toInt)).sshiftRight 16).setWidth 32 := by
    simp only [value, product]
    apply BitVec.eq_of_getLsbD_eq
    intro index bound
    simp only [BitVec.getLsbD_setWidth, BitVec.getLsbD_ushiftRight, BitVec.getLsbD_sshiftRight]
    grind
  have quotient : ((BitVec.ofInt 64 (x.toInt * y.toInt)).sshiftRight 16).toInt =
      x.toInt * y.toInt / 2 ^ 16 := by
    rw [BitVec.toInt_sshiftRight, exact, Int.shiftRight_eq_div_pow]
    rfl
  have narrow : value = BitVec.ofInt 32 (x.toInt * y.toInt / 2 ^ 16) := by
    rw [shifted, ← quotient, ← setWidth_ofInt, BitVec.ofInt_toInt]
  refine ⟨narrow, ?_⟩
  rw [narrow]
  apply BitVec.toInt_ofInt_eq_self <;> omega

theorem accumulate_exact (m s addend : ARMword) (x y : Bool) :
    let product := (signedHalf m x).signExtend 32 * (signedHalf s y).signExtend 32
    let value := ArmIsa.half m x * ArmIsa.half s y + addend.toInt
    product + addend = BitVec.ofInt 32 value ∧
      addOverflow product addend (product + addend) = outsideSigned value := by
  intro product value
  obtain ⟨word, exact⟩ := halfProduct_exact (signedHalf m x) (signedHalf s y)
  rw [signedHalf_half, signedHalf_half] at word exact
  refine ⟨?_, ?_⟩
  · rw [BitVec.ofInt_add, BitVec.ofInt_toInt, ← word]
  · rw [addOverflow_int, exact]

theorem accumulateWide_exact (m s addend : ARMword) (y : Bool) :
    let product := ((m.signExtend 64 * (signedHalf s y).signExtend 64) >>> 16).setWidth 32
    let value := m.toInt * ArmIsa.half s y / 2 ^ 16 + addend.toInt
    product + addend = BitVec.ofInt 32 value ∧
      addOverflow product addend (product + addend) = outsideSigned value := by
  intro product value
  obtain ⟨word, exact⟩ := wideProduct_exact m (signedHalf s y)
  rw [signedHalf_half] at word exact
  refine ⟨?_, ?_⟩
  · rw [BitVec.ofInt_add, BitVec.ofInt_toInt, ← word]
  · rw [addOverflow_int, exact]

theorem accumulateLong_exact (m s hi lo : ARMword) (x y : Bool) :
    (hi.setWidth 64 <<< 32 ||| lo.setWidth 64) +
        (signedHalf m x).signExtend 64 * (signedHalf s y).signExtend 64 =
      BitVec.ofInt 64 ((hi ++ lo).toInt + ArmIsa.half m x * ArmIsa.half s y) := by
  have joined : hi.setWidth 64 <<< 32 ||| lo.setWidth 64 = hi ++ lo := by
    apply BitVec.eq_of_getLsbD_eq
    intro index bound
    simp only [BitVec.getLsbD_or, BitVec.getLsbD_shiftLeft, BitVec.getLsbD_setWidth,
      BitVec.getLsbD_append]
    grind
  rw [joined, BitVec.ofInt_add, BitVec.ofInt_toInt, BitVec.ofInt_mul, ← signedHalf_half,
    ← signedHalf_half]
  rfl

theorem saturate_clamp {value : Int} (low : -2 ^ 32 ≤ value) (high : value < 2 ^ 32) :
    saturate (outsideSigned value) (BitVec.ofInt 32 value) =
      BitVec.ofInt 32 (ArmIsa.clamp value) := by
  have top : (BitVec.ofInt 32 value).getLsbD 31 = decide (2 ^ 31 ≤ value % 2 ^ 32) := by
    rw [getLsbD_top, BitVec.toNat_ofInt, Bool.eq_iff_iff, decide_eq_true_eq, decide_eq_true_eq]
    omega
  by_cases below : value < -2 ^ 31
  · have outside : outsideSigned value = true := by
      simp only [outsideSigned, below, decide_true, Bool.true_or]
    have positive : ¬2 ^ 31 ≤ value % 2 ^ 32 := by omega
    have clamped : ArmIsa.clamp value = -2 ^ 31 := by
      unfold ArmIsa.clamp
      omega
    simp only [saturate, outside, if_true, top, positive, decide_false, Bool.false_eq_true,
      if_false, clamped]
    rfl
  · by_cases above : 2 ^ 31 ≤ value
    · have outside : outsideSigned value = true := by
        simp only [outsideSigned, above, decide_true, Bool.or_true]
      have negative : 2 ^ 31 ≤ value % 2 ^ 32 := by omega
      have clamped : ArmIsa.clamp value = 2 ^ 31 - 1 := by
        unfold ArmIsa.clamp
        omega
      simp only [saturate, outside, if_true, top, negative, decide_true, clamped]
      rfl
    · have inside : outsideSigned value = false := outsideSigned_eq_false (by omega) (by omega)
      have clamped : ArmIsa.clamp value = value := by
        unfold ArmIsa.clamp
        omega
      rw [inside, clamped]
      rfl

theorem toInt_clamp (value : Int) :
    (BitVec.ofInt 32 (ArmIsa.clamp value)).toInt = ArmIsa.clamp value := by
  have bounds : -2 ^ 31 ≤ ArmIsa.clamp value ∧ ArmIsa.clamp value < 2 ^ 31 := by
    unfold ArmIsa.clamp
    omega
  apply BitVec.toInt_ofInt_eq_self <;> omega

theorem saturating_exact (op1 op2 : ARMword) (subtract doubles : Bool) :
    let spills := doubles && addOverflow op2 op2 (op2 + op2)
    let operand := if doubles then saturate spills (op2 + op2) else op2
    let result := if subtract then op1 - operand else op1 + operand
    let overflows :=
      if subtract then subOverflow op1 operand result else addOverflow op1 operand result
    let addend := op2.toInt * if doubles then 2 else 1
    let value := op1.toInt + if subtract then -ArmIsa.clamp addend else ArmIsa.clamp addend
    spills = outsideSigned addend ∧ overflows = outsideSigned value ∧
      saturate overflows result = BitVec.ofInt 32 (ArmIsa.clamp value) := by
  intro spills operand result overflows addend value
  have bounds := toInt_bounds op2
  have left := toInt_bounds op1
  have clamped : -2 ^ 31 ≤ ArmIsa.clamp addend ∧ ArmIsa.clamp addend < 2 ^ 31 := by
    unfold ArmIsa.clamp
    omega
  have spilled : spills = outsideSigned addend ∧ operand = BitVec.ofInt 32 (ArmIsa.clamp addend) := by
    cases doubles with
    | true =>
        have twice : addend = op2.toInt + op2.toInt := by
          simp only [addend, if_true]
          omega
        have doubled : op2 + op2 = BitVec.ofInt 32 addend := by
          rw [twice, BitVec.ofInt_add, BitVec.ofInt_toInt]
        have spilled : spills = outsideSigned addend := by
          simp only [spills, Bool.true_and, addOverflow_int, twice]
        refine ⟨spilled, ?_⟩
        simp only [operand, if_true, spilled]
        rw [doubled]
        exact saturate_clamp (by omega) (by omega)
    | false =>
        have once : addend = op2.toInt := by
          simp only [addend, Bool.false_eq_true, if_false]
          omega
        have kept : ArmIsa.clamp addend = op2.toInt := by
          rw [once]
          unfold ArmIsa.clamp
          omega
        rw [once, outsideSigned_eq_false bounds.1 bounds.2, ← once, kept, BitVec.ofInt_toInt]
        exact ⟨rfl, rfl⟩
  obtain ⟨spill, word⟩ := spilled
  have whole : operand.toInt = ArmIsa.clamp addend := by
    rw [word, toInt_clamp]
  have sum : result = BitVec.ofInt 32 value ∧ overflows = outsideSigned value := by
    cases subtract with
    | true =>
        simp only [result, value, overflows, if_true, subOverflow_int, whole, BitVec.ofInt_add,
          BitVec.ofInt_neg, BitVec.ofInt_toInt, ← word]
        exact ⟨BitVec.sub_eq_add_neg _ _, rfl⟩
    | false =>
        simp only [result, value, overflows, Bool.false_eq_true, if_false, addOverflow_int, whole,
          BitVec.ofInt_add, BitVec.ofInt_toInt, ← word, and_self]
  refine ⟨spill, sum.2, ?_⟩
  rw [sum.1, sum.2]
  have range : -2 ^ 32 ≤ value ∧ value < 2 ^ 32 := by
    simp only [value]
    split <;> omega
  exact saturate_clamp range.1 range.2

theorem countLeadingZeros_clz (word : ARMword) : countLeadingZeros word = word.clz := by
  have search (last : Nat) (bound : last < 32) : word.clzAuxRec last =
      BitVec.ofNat 32 ((((List.range (last + 1)).find? fun index =>
        word.getLsbD (last - index)).map (31 - last + ·)).getD 32) := by
    induction last with
    | zero =>
        rw [BitVec.clzAuxRec_zero]
        cases bit : word.getLsbD 0 <;> simp_all [List.range_succ]
    | succ last ih =>
        rw [BitVec.clzAuxRec_succ, ih (by omega), @List.range_succ_eq_map (last + 1),
          List.find?_cons]
        cases bit : word.getLsbD (last + 1) with
        | true => simp
        | false =>
            have rest : (fun index => word.getLsbD (last + 1 - index)) ∘ Nat.succ =
                fun index => word.getLsbD (last - index) := by
              funext index
              exact congrArg word.getLsbD (Nat.succ_sub_succ last index)
            have offset : (fun index => 31 - (last + 1) + index) ∘ Nat.succ =
                fun index => 31 - last + index := by
              funext index
              simp only [Function.comp_apply]
              omega
            simp only [Bool.false_eq_true, if_false, List.find?_map, rest,
              Option.map_map, offset]
  have whole := search 31 (by decide)
  rw [BitVec.clz, whole, countLeadingZeros]
  simp

end Integers

section Multiplication

variable {state : ARMulState Mem} {pc instr : ARMword}

theorem extract_nine (four : instr.getLsbD 4 = true) (seven : instr.getLsbD 7 = true)
    (middle : instr.extractLsb' 5 2 = 0#2) : instr.extractLsb' 4 4 = 9#4 := by
  have five := word_bit middle (show 0 < 2 by decide)
  have six := word_bit middle (show 1 < 2 by decide)
  apply BitVec.eq_of_getLsbD_eq
  intro index bound
  rw [BitVec.getLsbD_extractLsb']
  interval_cases index <;> simp_all

structure MultiplyWord (instr : ARMword) : Prop where
  group : instr.extractLsb' 25 3 = 0#3
  code : instr.extractLsb' 4 4 = 9#4
  plain : instr.getLsbD 24 = false

theorem MultiplyWord.transferOf (word : MultiplyWord instr) :
    SkyeyeStarlet.transferOf instr = none := by
  have swaps : ¬(instr.extractLsb' 20 8 = 0x10#8 ∨ instr.extractLsb' 20 8 = 0x14#8) := by
    rintro (swap | swap)
    · exact absurd (word.plain.symm.trans (word_bit swap (show 4 < 8 by decide))) (by decide)
    · exact absurd (word.plain.symm.trans (word_bit swap (show 4 < 8 by decide))) (by decide)
  rw [not_or] at swaps
  simp only [SkyeyeStarlet.transferOf, extract_upper, word.group, word.code, swaps.1, swaps.2,
    false_and, if_false]
  cases instr.getLsbD 20 <;> rfl

theorem mainSwitch_multiply (bus : Bus Mem) (traps : Traps Mem) (cops : Coprocessors Mem)
    (word : MultiplyWord instr) (short : instr.getLsbD 23 = false)
    (single : instr.getLsbD 22 = false) :
    mainSwitch bus traps cops state pc instr = multiply state instr := by
  have register : instr.getLsbD 25 = false := word_bit word.group (show 0 < 3 by decide)
  have multiplies : isMultiply instr = true := by
    rw [isMultiply, register, word.plain, word.code, short, single]
    rfl
  simp only [mainSwitch, word.transferOf, word.group, dataProcessing, multiplies, if_true,
    multiplyCase, short]

theorem longResult_arm (state : ARMulState Mem) (instr : ARMword) :
    longResult state instr =
      ArmIsa.longProduct (instr.getLsbD 22) (state.reg (ArmIsa.rmOf instr))
          (state.reg (ArmIsa.rsOf instr)) +
        if instr.getLsbD 21 then
          state.reg (ArmIsa.rnOf instr) ++ state.reg (ArmIsa.rdOf instr)
        else 0#64 := by
  have product (signed : Bool) (x y : ARMword) :
      BitVec.ofInt 64 (longProduct signed x y) = ArmIsa.longProduct signed x y := by
    cases signed with
    | true => rfl
    | false =>
        simp only [longProduct, ArmIsa.longProduct, Bool.false_eq_true, if_false]
        rw [← Int.natCast_mul, BitVec.ofInt_natCast]
  rw [longResult, BitVec.ofInt_add, product]
  cases instr.getLsbD 21 with
  | false => rfl
  | true =>
      simp only [if_true, BitVec.ofInt_natCast, BitVec.ofNat_toNat, BitVec.setWidth_eq]
      rfl

variable (ready : ArmReady state pc)

include ready

theorem shows_longAfter {result : BitVec 64} (apart : longHi instr ≠ 15#4)
    (apart' : longLo instr ≠ 15#4) :
    Shows state (longAfter state instr result) pc
      (ArmIsa.skip (ArmIsa.setLong
        (if instr.getLsbD 20 then
          { machineOf state pc with n := result.getLsbD 63, z := result == 0#64 }
        else machineOf state pc)
        (longHi instr) (longLo instr) result)) := by
  have within := within_refl ready.ready pc
  have flagged : Within state { state with flags := longFlags state.flags result }
      { machineOf state pc with n := result.getLsbD 63, z := result == 0#64 } :=
    ⟨{ within.toAgrees with negative := rfl, zero := rfl, background := rfl }, within.sequential⟩
  unfold longAfter
  split
  · exact ((flagged.setReg apart' _).setReg apart _).skip ready.arm
  · exact ((within.setReg apart' _).setReg apart _).skip ready.arm

theorem shows_longMultiply (bus : Bus Mem) (traps : Traps Mem) (cops : Coprocessors Mem)
    (word : MultiplyWord instr) (long : instr.getLsbD 23 = true) {after : Processor Mem}
    (defined : ArmIsa.execLongMultiply (instr.getLsbD 22) (instr.getLsbD 21) (instr.getLsbD 20)
      (ArmIsa.rnOf instr) (ArmIsa.rdOf instr) (ArmIsa.rsOf instr) (ArmIsa.rmOf instr)
      (machineOf state pc) = some after) :
    Shows state (mainSwitch bus traps cops state pc instr) pc after := by
  unfold ArmIsa.execLongMultiply at defined
  dsimp only at defined
  split at defined
  · cases defined
  · rename_i legal
    cases defined
    simp only [ArmIsa.usesPc_iff, List.mem_cons, List.not_mem_nil, or_false, not_or] at legal
    obtain ⟨⟨hi, lo, rs, rm⟩, apart, apartHi, apartLo⟩ := legal
    have group : instr.extractLsb' 23 5 = 1#5 := by
      have whole : instr.extractLsb' 23 5 = instr.extractLsb' 25 3 ++
          (BitVec.ofBool (instr.getLsbD 24) ++ BitVec.ofBool (instr.getLsbD 23)) := by
        apply BitVec.eq_of_getLsbD_eq
        intro index bound
        simp only [BitVec.getLsbD_extractLsb', BitVec.getLsbD_append, BitVec.getLsbD_ofBool]
        grind
      rw [whole, word.group, word.plain, long]
      rfl
    have multiplied : LongMultiplyWord instr := by
      refine ⟨group, word.code, ?_⟩
      simp only [multiply64Legal, Bool.and_eq_true, bne_iff_ne, ne_eq]
      exact ⟨⟨⟨⟨⟨⟨Ne.symm hi, Ne.symm lo⟩, Ne.symm rs⟩, Ne.symm rm⟩, apart⟩, apartHi⟩, apartLo⟩
    have result := longResult_arm state instr
    have shown := @shows_longAfter _ state pc instr ready (longResult state instr)
      (Ne.symm hi) (Ne.symm lo)
    rw [result] at shown
    rw [mainSwitch_longMultiply state bus traps cops pc multiplied]
    cases accumulates : instr.getLsbD 21 with
    | true =>
        rw [if_pos rfl, multiplyAdd64_eq state multiplied accumulates, result, accumulates]
        rw [accumulates] at shown
        exact shown
    | false =>
        rw [if_neg Bool.false_ne_true, multiply64_eq state multiplied accumulates, result,
          accumulates]
        rw [accumulates] at shown
        exact shown

theorem shows_shortMultiply (bus : Bus Mem) (traps : Traps Mem) (cops : Coprocessors Mem)
    (word : MultiplyWord instr) (short : instr.getLsbD 23 = false)
    (single : instr.getLsbD 22 = false) {after : Processor Mem}
    (defined : ArmIsa.execMultiply (instr.getLsbD 21) (instr.getLsbD 20) (ArmIsa.rnOf instr)
      (ArmIsa.rdOf instr) (ArmIsa.rsOf instr) (ArmIsa.rmOf instr) (machineOf state pc) =
        some after) :
    Shows state (mainSwitch bus traps cops state pc instr) pc after := by
  unfold ArmIsa.execMultiply at defined
  dsimp only at defined
  split at defined
  · cases defined
  · rename_i legal
    cases defined
    simp only [ArmIsa.usesPc_iff, List.mem_cons, List.not_mem_nil, or_false, not_or] at legal
    obtain ⟨⟨dest, -, -, -⟩, apart⟩ := legal
    have notPc : ArmIsa.rnOf instr ≠ 15#4 := Ne.symm dest
    have other : ¬instr.extractLsb' 0 4 = instr.extractLsb' 16 4 := Ne.symm apart
    have within := within_refl ready.ready pc
    rw [mainSwitch_multiply bus traps cops word short single]
    unfold multiply
    dsimp only
    rw [if_neg other, if_neg (fun both => notPc both.2)]
    split
    · exact ((within.negZero _).setReg notPc _).skip ready.arm
    · exact (within.setReg notPc _).skip ready.arm

theorem performs_multiply (bus : Bus Mem) (traps : Traps Mem) (cops : Coprocessors Mem)
    (word : MultiplyWord instr) {decoded : ArmIsa.Instr}
    (named : ArmIsa.decodeMultiply instr = some decoded) {memory : Memory Mem}
    {effect : ArmIsa.Effect Mem} {highVectors : Mem → Bool}
    (ran : ArmIsa.exec memory decoded (armMachineOf state pc) = some effect) :
    ArmPerforms highVectors state (mainSwitch bus traps cops state pc instr) pc effect := by
  unfold ArmIsa.decodeMultiply at named
  split at named
  · rename_i long
    cases named
    exact armPerforms_continues ran fun after =>
      shows_longMultiply ready bus traps cops word long
  · rename_i short
    split at named
    · cases named
    · rename_i form
      cases named
      rw [not_or] at form
      exact armPerforms_continues ran fun after =>
        shows_shortMultiply ready bus traps cops word (by simpa using short) (by simpa using form.1)

end Multiplication

section Signed

variable {state : ARMulState Mem} {pc instr : ARMword}

/-- The words between the tests without their S bit, with a register operand. -/
structure StatusWord (instr : ARMword) : Prop where
  form : ProcessingForm instr
  group : instr.extractLsb' 25 3 = 0#3
  tests : instr.extractLsb' 23 2 = 2#2
  plain : instr.getLsbD 20 = false

theorem StatusWord.mainSwitch (word : StatusWord instr) (bus : Bus Mem) (traps : Traps Mem)
    (cops : Coprocessors Mem) :
    SkyeyeStarlet.mainSwitch bus traps cops state pc instr =
      match instr.getLsbD 22, instr.getLsbD 21 with
      | _, false => mrsCase state instr
      | false, true => msrCase state pc instr
      | true, true => clzCase state instr := by
  have register : instr.getLsbD 25 = false := word_bit word.group (show 0 < 3 by decide)
  simp only [mainSwitch_form bus traps cops state pc word.form, dataProcessing,
    isMultiply_form word.form, word.tests, word.plain, if_true, if_false, Bool.false_eq_true,
    statusCase, register]
  cases instr.getLsbD 22 <;> cases instr.getLsbD 21 <;> rfl

theorem signedMultiply_switch (word : StatusWord instr) (isV5e : state.isV5e = true)
    (signed : isSignedMultiply instr = true) (bus : Bus Mem) (traps : Traps Mem)
    (cops : Coprocessors Mem) :
    mainSwitch bus traps cops state pc instr = signedMultiply state instr := by
  have low : instr.getLsbD 4 = false := by
    simp only [isSignedMultiply, Bool.and_eq_true, Bool.not_eq_true'] at signed
    exact signed.1.1
  have link : (instr.extractLsb' 4 4 == 3#4) = false := by
    rw [beq_eq_false_iff_ne]
    intro code
    exact absurd (low.symm.trans (word_bit code (show 0 < 4 by decide))) (by decide)
  rw [word.mainSwitch bus traps cops]
  cases instr.getLsbD 22 <;> cases instr.getLsbD 21 <;>
    simp only [mrsCase, msrCase, clzCase, isV5e, signed, link, Bool.and_false, Bool.and_self,
      Bool.false_eq_true, if_true, if_false]

theorem Within.sets {machine : Processor Mem} {before : ARMulState Mem}
    (within : Within before state machine) (saturated : Bool) :
    Within (before.withQ (state.flags.sFlag || saturated))
      (SkyeyeStarlet.sets state saturated) machine := by
  refine ⟨{ within.toAgrees with background := ?_ }, within.sequential⟩
  have same := within.background
  simp only [ARMulState.background, SkyeyeStarlet.sets, ARMulState.withQ, Background.mk.injEq]
    at same ⊢
  obtain ⟨regBank, bank, spsr, mode, -, ifFlags⟩ := same
  exact ⟨regBank, bank, spsr, mode, trivial, ifFlags⟩

variable (ready : ArmReady state pc)

include ready

theorem armShows_sticky {rd : RegNum} (notPc : rd ≠ 15#4) {value : Int} {word : ARMword}
    {overflow : Bool} (exact : word = BitVec.ofInt 32 value)
    (overflows : overflow = outsideSigned value) :
    ArmShows state ((sets state overflow).setReg rd word) pc
      (ArmIsa.setSticky (armMachineOf state pc) rd value) := by
  subst exact overflows
  exact (((within_refl ready.ready pc).sets _).setReg notPc _).skip ready.arm

theorem armShows_setReg {rd : RegNum} (notPc : rd ≠ 15#4) {value word : ARMword}
    (exact : word = value) :
    ArmShows state (state.setReg rd word) pc
      ((armMachineOf state pc).withProcessor
        (ArmIsa.skip ((machineOf state pc).set rd value))) := by
  subst exact
  exact ((within_refl ready.ready pc).setReg notPc _).skip ready.arm

theorem armShows_setLong {hi lo : RegNum} (notPc : hi ≠ 15#4) (notPc' : lo ≠ 15#4)
    {value result : BitVec 64} (exact : result = value) :
    ArmShows state
      ((state.setReg lo (result.setWidth 32)).setReg hi (result.extractLsb' 32 32)) pc
      ((armMachineOf state pc).withProcessor
        (ArmIsa.skip (ArmIsa.setLong (machineOf state pc) hi lo value))) := by
  have low : result.setWidth 32 = result.extractLsb' 0 32 := by
    apply BitVec.eq_of_getLsbD_eq
    intro index bound
    simp only [BitVec.getLsbD_setWidth, BitVec.getLsbD_extractLsb', Nat.zero_add]
  rw [low, exact]
  exact (((within_refl ready.ready pc).setReg notPc' _).setReg notPc _).skip ready.arm

theorem armShows_halfMultiply {op : ArmIsa.HalfOp} (named : ArmIsa.decodeHalfOp instr = some op)
    {after : ArmIsa.Machine Mem}
    (defined : ArmIsa.execHalfMultiply op (ArmIsa.rnOf instr) (ArmIsa.rdOf instr)
      (ArmIsa.rsOf instr) (ArmIsa.rmOf instr) (armMachineOf state pc) = some after) :
    ArmShows state (signedMultiply state instr) pc after := by
  unfold ArmIsa.execHalfMultiply at defined
  dsimp only at defined
  split at defined
  · cases defined
  · rename_i legal
    simp only [ArmIsa.usesPc_iff, List.mem_cons, List.not_mem_nil, or_false, not_or] at legal
    obtain ⟨dest, addend, -, -⟩ := legal
    have notPc : ArmIsa.rnOf instr ≠ 15#4 := Ne.symm dest
    unfold ArmIsa.decodeHalfOp at named
    dsimp only at named
    split at named
    · rename_i code
      cases named
      cases defined
      rw [signedMultiply, code]
      dsimp only
      obtain ⟨exact, overflow⟩ := accumulate_exact (state.reg (ArmIsa.rmOf instr))
        (state.reg (ArmIsa.rsOf instr)) (state.reg (ArmIsa.rdOf instr)) (instr.getLsbD 5)
        (instr.getLsbD 6)
      exact armShows_sticky ready notPc exact overflow
    · rename_i code
      rw [signedMultiply, code]
      dsimp only
      split at named
      · rename_i bottom
        cases named
        cases defined
        rw [bottom]
        obtain ⟨exact, overflow⟩ := accumulateWide_exact (state.reg (ArmIsa.rmOf instr))
          (state.reg (ArmIsa.rsOf instr)) (state.reg (ArmIsa.rdOf instr)) (instr.getLsbD 6)
        exact armShows_sticky ready notPc exact overflow
      · rename_i top
        split at named
        · cases named
          cases defined
          have exact := (wideProduct_exact (state.reg (ArmIsa.rmOf instr))
            (signedHalf (state.reg (ArmIsa.rsOf instr)) (instr.getLsbD 6))).1
          rw [signedHalf_half] at exact
          refine Eq.mpr (congrArg (ArmShows state · pc _) (if_pos ?_)) ?_
          · simpa using top
          · exact armShows_setReg ready notPc exact
        · cases named
    · rename_i code
      cases named
      rw [signedMultiply, code]
      dsimp only
      dsimp only at defined
      split at defined
      · cases defined
      · cases defined
        have exact := accumulateLong_exact (state.reg (ArmIsa.rmOf instr))
          (state.reg (ArmIsa.rsOf instr)) (state.reg (ArmIsa.rnOf instr))
          (state.reg (ArmIsa.rdOf instr)) (instr.getLsbD 5) (instr.getLsbD 6)
        exact armShows_setLong ready notPc (Ne.symm addend) exact
    · rename_i add wide long
      split at named
      · cases named
        cases defined
        have code : instr.extractLsb' 21 2 = 3#2 := by
          have codes : ∀ code : BitVec 2, code ≠ 0#2 → code ≠ 1#2 → code ≠ 2#2 → code = 3#2 := by
            decide
          exact codes _ add wide long
        have exact := (halfProduct_exact
          (signedHalf (state.reg (ArmIsa.rmOf instr)) (instr.getLsbD 5))
          (signedHalf (state.reg (ArmIsa.rsOf instr)) (instr.getLsbD 6))).1
        rw [signedHalf_half, signedHalf_half] at exact
        rw [signedMultiply, code]
        dsimp only
        exact armShows_setReg ready notPc exact
      · cases named

theorem armShows_saturated {rd : RegNum} (notPc : rd ≠ 15#4) {spills overflows first second : Bool}
    (spilled : spills = first) (overflowed : overflows = second) {word value : ARMword}
    (result : word = value) :
    ArmShows state ((sets state (spills || overflows)).setReg rd word) pc
      { toProcessor := ArmIsa.skip ((machineOf state pc).set rd value)
        q := state.flags.sFlag || first || second } := by
  subst spilled overflowed result
  unfold ArmShows
  rw [Bool.or_assoc]
  exact (((within_refl ready.ready pc).sets _).setReg notPc _).skip ready.arm

theorem armShows_saturating {after : ArmIsa.Machine Mem}
    (defined : ArmIsa.execSaturating (instr.getLsbD 21) (instr.getLsbD 22) (ArmIsa.rnOf instr)
      (ArmIsa.rdOf instr) (ArmIsa.rmOf instr) (armMachineOf state pc) = some after) :
    ArmShows state (saturating state instr) pc after := by
  unfold ArmIsa.execSaturating at defined
  dsimp only at defined
  split at defined
  · cases defined
  · rename_i legal
    cases defined
    simp only [ArmIsa.usesPc_iff, List.mem_cons, List.not_mem_nil, or_false, not_or] at legal
    obtain ⟨-, dest, -⟩ := legal
    have notPc : ArmIsa.rdOf instr ≠ 15#4 := Ne.symm dest
    obtain ⟨spills, overflows, result⟩ := saturating_exact (state.reg (ArmIsa.rmOf instr))
      (state.reg (ArmIsa.rnOf instr)) (instr.getLsbD 21) (instr.getLsbD 22)
    exact armShows_saturated ready notPc spills overflows result

theorem shows_countZeros {after : Processor Mem}
    (defined : ArmIsa.execCountZeros (ArmIsa.rdOf instr) (ArmIsa.rmOf instr)
      (machineOf state pc) = some after) :
    Shows state (state.setReg (destReg instr) (countLeadingZeros (state.reg (rhsReg instr)))) pc
      after := by
  unfold ArmIsa.execCountZeros at defined
  split at defined
  · cases defined
  · rename_i legal
    cases defined
    simp only [ArmIsa.usesPc_iff, List.mem_cons, List.not_mem_nil, or_false, not_or] at legal
    rw [countLeadingZeros_clz]
    exact ((within_refl ready.ready pc).setReg (Ne.symm legal.1) _).skip ready.arm

end Signed

end SkyeyeStarlet
