import SkyeyeStarlet.Library.WordBits
import SkyeyeStarlet.ShifterCore
import SkyeyeStarlet.ThumbFormats

/-!
The three routines for shifted operands agree with each other, with the shifter of the
architecture, and with the operands of the other modules, and shift the host's words by less
than 32 places.
-/

namespace SkyeyeStarlet

namespace Shifter

section Host

variable (word : ARMword) {amount : ARMword} (below : amount.toNat < 32)

include below

theorem hostShl_some : hostShl word amount = some (word <<< amount.toNat) := by
  exact if_pos (BitVec.lt_def.mpr below)

theorem hostShr_some : hostShr word amount = some (word >>> amount.toNat) := by
  exact if_pos (BitVec.lt_def.mpr below)

theorem hostSar_some : hostSar word amount = some (word.sshiftRight amount.toNat) := by
  exact if_pos (BitVec.lt_def.mpr below)

omit below in
theorem rotateRight_eq (places : Nat) (fits : places < 32) :
    word <<< (32 - places) ||| word >>> places = word.rotateRight places := by
  rw [← rotater_mod, Nat.mod_eq_of_lt fits]
  rfl

theorem rotated_some (shifts : amount ≠ 0#32) :
    rotated word amount = some (word.rotateRight amount.toNat) := by
  have positive : amount.toNat ≠ 0 := fun zero => shifts (BitVec.eq_of_toNat_eq zero)
  have left : (32#32 - amount).toNat = 32 - amount.toNat := by
    rw [BitVec.toNat_sub, BitVec.toNat_ofNat]
    omega
  rw [rotated, hostShl_some word (by rw [left]; omega), hostShr_some word below, left,
    ← rotateRight_eq word _ below]
  rfl

end Host

section Carry

variable {Mem : Type} (state : ARMulState Mem) (word value : ARMword)

theorem bit_flag : (word &&& 1#32 != 0#32) = word.getLsbD 0 := by
  exact WordBits.and_bit_bne_zero word 0

theorem top_flag : (word >>> 31 != 0#32) = word.getLsbD 31 := by
  have bound := word.isLt
  rw [getLsbD_top, Bool.eq_iff_iff, bne_iff_ne, ne_eq, ← BitVec.toNat_inj, BitVec.toNat_ushiftRight,
    Nat.shiftRight_eq_div_pow, decide_eq_true_eq, BitVec.toNat_ofNat]
  omega

theorem assigned_shr {amount : ARMword} (below : amount.toNat < 32) :
    assigned state (bitOf (hostShr word amount)) (some value) =
      some (assignC state (word.getLsbD amount.toNat), value) := by
  have bit : (word >>> amount.toNat).getLsbD 0 = word.getLsbD amount.toNat := by
    rw [BitVec.getLsbD_ushiftRight, Nat.add_zero]
  rw [hostShr_some word below, ← bit, ← bit_flag]
  rfl

theorem assigned_sar {amount : ARMword} (below : amount.toNat < 32) :
    assigned state (bitOf (hostSar word amount)) (some value) =
      some (assignC state ((word.sshiftRight amount.toNat).getLsbD 0), value) := by
  rw [hostSar_some word below, ← bit_flag]
  rfl

theorem assigned_top :
    assigned state (hostShr word 31#32) (some value) =
      some (assignC state (word.getLsbD 31), value) := by
  rw [hostShr_some word (by decide), ← top_flag]
  rfl

end Carry

section Register

variable {Mem : Type} (state : ARMulState Mem) (word amount : ARMword)

open BarrelShifter

theorem toNat_ne_zero {amount : ARMword} (shifts : amount ≠ 0#32) : amount.toNat ≠ 0 := by
  exact fun zero => shifts (BitVec.eq_of_toNat_eq zero)

theorem toNat_sub_one {amount : ARMword} (shifts : amount ≠ 0#32) :
    (amount - 1#32).toNat = amount.toNat - 1 := by
  have positive := toNat_ne_zero shifts
  rw [BitVec.toNat_sub, BitVec.toNat_ofNat]
  omega

theorem toNat_sub_amount {amount : ARMword} (below : amount.toNat < 32) :
    (32#32 - amount).toNat = 32 - amount.toNat := by
  rw [BitVec.toNat_sub, BitVec.toNat_ofNat]
  omega

theorem amount_below {amount : ARMword} (below : amount.toNat < 32) :
    ¬32#32 ≤ amount ∧ amount ≠ 32#32 ∧ ¬32#32 < amount := by
  refine ⟨Nat.not_le.mpr below, ?_, Nat.not_lt.mpr (Nat.le_of_lt below)⟩
  rintro rfl
  exact absurd below (by decide)

theorem amount_beyond {amount : ARMword} (beyond : 32 < amount.toNat) :
    32#32 ≤ amount ∧ amount ≠ 32#32 ∧ 32#32 < amount := by
  refine ⟨Nat.le_of_lt beyond, ?_, beyond⟩
  rintro rfl
  exact absurd beyond (by decide)

theorem register_lsl :
    let operand := lsl word amount.toNat state.flags.cFlag
    (if amount = 0#32 then some word
      else if 32#32 ≤ amount then some 0#32
      else hostShl word amount) = some operand.value ∧
    (if amount = 0#32 then some (state, word)
      else if amount = 32#32 then assigned state (some (word &&& 1#32)) (some 0#32)
      else if 32#32 < amount then assigned state (some 0#32) (some 0#32)
      else assigned state (bitOf (hostShr word (32#32 - amount))) (hostShl word amount)) =
      some (assignC state operand.carry, operand.value) := by
  intro operand
  by_cases shifts : amount = 0#32
  · subst shifts
    exact ⟨rfl, rfl⟩
  · have positive := toNat_ne_zero shifts
    rw [show operand = _ from lsl_eq word _ positive, if_neg shifts, if_neg shifts]
    rcases Nat.lt_trichotomy amount.toNat 32 with below | whole | beyond
    · obtain ⟨fits, other, above⟩ := amount_below below
      have left := toNat_sub_amount below
      rw [if_neg fits, if_neg other, if_neg above, hostShl_some word below,
        assigned_shr state word _ (by omega), left]
      simp [Nat.le_of_lt below]
    · obtain rfl : amount = 32#32 := BitVec.eq_of_toNat_eq whole
      have zero : word <<< 32 = 0#32 := BitVec.shiftLeft_eq_zero (Nat.le_refl 32)
      have flag := bit_flag word
      refine ⟨by simp [zero], ?_⟩
      simp [assigned, zero, flag]
    · obtain ⟨most, other, above⟩ := amount_beyond beyond
      have zero : word <<< amount.toNat = 0#32 := BitVec.shiftLeft_eq_zero (by omega)
      have none : ¬amount.toNat ≤ 32 := by
        omega
      rw [if_pos most, if_neg other, if_pos above, zero]
      exact ⟨rfl, by simp [assigned, none]⟩

theorem register_lsr :
    let operand := lsr word amount.toNat state.flags.cFlag
    (if amount = 0#32 then some word
      else if 32#32 ≤ amount then some 0#32
      else hostShr word amount) = some operand.value ∧
    (if amount = 0#32 then some (state, word)
      else if amount = 32#32 then assigned state (hostShr word 31#32) (some 0#32)
      else if 32#32 < amount then assigned state (some 0#32) (some 0#32)
      else assigned state (bitOf (hostShr word (amount - 1#32))) (hostShr word amount)) =
      some (assignC state operand.carry, operand.value) := by
  intro operand
  by_cases shifts : amount = 0#32
  · subst shifts
    exact ⟨rfl, rfl⟩
  · have positive := toNat_ne_zero shifts
    have before := toNat_sub_one shifts
    rw [show operand = _ from lsr_eq word _ positive, if_neg shifts, if_neg shifts]
    rcases Nat.lt_trichotomy amount.toNat 32 with below | whole | beyond
    · obtain ⟨fits, other, above⟩ := amount_below below
      rw [if_neg fits, if_neg other, if_neg above, hostShr_some word below,
        assigned_shr state word _ (by omega), before]
      exact ⟨rfl, rfl⟩
    · obtain rfl : amount = 32#32 := BitVec.eq_of_toNat_eq whole
      have zero : word >>> 32 = 0#32 := BitVec.ushiftRight_eq_zero (Nat.le_refl 32)
      rw [assigned_top]
      simp [zero]
    · obtain ⟨most, other, above⟩ := amount_beyond beyond
      have zero : word >>> amount.toNat = 0#32 := BitVec.ushiftRight_eq_zero (by omega)
      have none : word.getLsbD (amount.toNat - 1) = false := BitVec.getLsbD_of_ge _ _ (by omega)
      rw [if_pos most, if_neg other, if_pos above, zero, none]
      exact ⟨rfl, rfl⟩

theorem register_asr :
    let operand := asr word amount.toNat state.flags.cFlag
    (if amount = 0#32 then some word
      else if 32#32 ≤ amount then hostSar word 31#32
      else hostSar word amount) = some operand.value ∧
    (if amount = 0#32 then some (state, word)
      else if 32#32 ≤ amount then assigned state (hostShr word 31#32) (hostSar word 31#32)
      else assigned state (bitOf (hostSar word (amount - 1#32))) (hostSar word amount)) =
      some (assignC state operand.carry, operand.value) := by
  intro operand
  by_cases shifts : amount = 0#32
  · subst shifts
    exact ⟨rfl, rfl⟩
  · have positive := toNat_ne_zero shifts
    have before := toNat_sub_one shifts
    rw [show operand = _ from asr_eq word _ positive, if_neg shifts, if_neg shifts]
    by_cases below : amount.toNat < 32
    · obtain ⟨fits, -, -⟩ := amount_below below
      rw [if_neg fits, if_neg fits, hostSar_some word below,
        assigned_sar state word _ (by omega), before]
      exact ⟨rfl, rfl⟩
    · have most : 32#32 ≤ amount := Nat.not_lt.mp below
      have sign : (word.sshiftRight (amount.toNat - 1)).getLsbD 0 = word.getLsbD 31 := by
        rw [sshiftRight_whole word (by omega), BitVec.getLsbD_sshiftRight]
        rfl
      rw [if_pos most, if_pos most, sshiftRight_whole word (show 31 ≤ amount.toNat by omega), sign,
        hostSar_some word (by decide), assigned_top]
      exact ⟨rfl, rfl⟩

theorem register_ror :
    let operand := ror word amount.toNat state.flags.cFlag
    (if amount &&& 0x1f#32 = 0#32 then some word
      else rotated word (amount &&& 0x1f#32)) = some operand.value ∧
    (if amount = 0#32 then some (state, word)
      else if amount &&& 0x1f#32 = 0#32 then assigned state (hostShr word 31#32) (some word)
      else assigned state (bitOf (hostShr word ((amount &&& 0x1f#32) - 1#32)))
        (rotated word (amount &&& 0x1f#32))) =
      some (assignC state operand.carry, operand.value) := by
  intro operand
  have places : (amount &&& 0x1f#32).toNat = amount.toNat % 32 := by
    rw [BitVec.toNat_and]
    exact Nat.and_two_pow_sub_one_eq_mod amount.toNat 5
  have turned : word.rotateRight (amount.toNat % 32) = word.rotateRight amount.toNat :=
    BitVec.rotateRight_mod_eq_rotateRight
  by_cases shifts : amount = 0#32
  · subst shifts
    exact ⟨rfl, rfl⟩
  · have positive := toNat_ne_zero shifts
    have last := @pred_mod 32 amount.toNat (by decide) positive
    rw [show operand = _ from ror_eq word _ (by decide) positive, if_neg shifts, last]
    by_cases whole : amount &&& 0x1f#32 = 0#32
    · have none : amount.toNat % 32 = 0 := by
        rw [← places, whole]
        rfl
      have still : word.rotateRight 0 = word := by
        rw [← rotateRight_eq word 0 (by decide)]
        simp
      rw [if_pos whole, if_pos whole, if_pos none, assigned_top, ← turned, none, still]
      exact ⟨rfl, rfl⟩
    · have some : amount.toNat % 32 ≠ 0 := by
        rw [← places]
        exact toNat_ne_zero whole
      have before := toNat_sub_one whole
      rw [if_neg whole, if_neg whole, if_neg some, rotated_some word (by omega) whole,
        assigned_shr state word _ (by omega), before, places, turned]
      exact ⟨rfl, rfl⟩

end Register

section Constant

variable {Mem : Type} (state : ARMulState Mem) (word : ARMword) {amount : ARMword}
  (below : amount.toNat < 32)

open BarrelShifter

include below

theorem constant_lsl :
    let operand := lsl word amount.toNat state.flags.cFlag
    hostShl word amount = some operand.value ∧
      (amount ≠ 0#32 →
        assigned state (bitOf (hostShr word (32#32 - amount))) (hostShl word amount) =
          some (assignC state operand.carry, operand.value)) := by
  intro operand
  by_cases shifts : amount = 0#32
  · subst shifts
    have still : word <<< (0#32).toNat = word := by
      simp
    rw [hostShl_some word below, still]
    exact ⟨rfl, fun shifts => absurd rfl shifts⟩
  · have routine := register_lsl state word amount
    obtain ⟨fits, other, above⟩ := amount_below below
    simp only [if_neg shifts, if_neg fits, if_neg other, if_neg above] at routine
    exact ⟨routine.1, fun _ => routine.2⟩

theorem constant_lsr :
    let operand := lsr word (if amount.toNat = 0 then 32 else amount.toNat) state.flags.cFlag
    (if amount = 0#32 then some 0#32 else hostShr word amount) = some operand.value ∧
    (if amount = 0#32 then assigned state (hostShr word 31#32) (some 0#32)
      else assigned state (bitOf (hostShr word (amount - 1#32))) (hostShr word amount)) =
      some (assignC state operand.carry, operand.value) := by
  intro operand
  by_cases shifts : amount = 0#32
  · subst shifts
    exact register_lsr state word 32#32
  · have routine := register_lsr state word amount
    obtain ⟨fits, other, above⟩ := amount_below below
    simp only [if_neg shifts, if_neg fits, if_neg other, if_neg above] at routine
    rw [show operand = lsr word amount.toNat state.flags.cFlag from
      congrArg (lsr word · state.flags.cFlag) (if_neg (toNat_ne_zero shifts)), if_neg shifts,
      if_neg shifts]
    exact routine

theorem constant_asr :
    let operand := asr word (if amount.toNat = 0 then 32 else amount.toNat) state.flags.cFlag
    (if amount = 0#32 then hostSar word 31#32 else hostSar word amount) = some operand.value ∧
    (if amount = 0#32 then assigned state (hostShr word 31#32) (hostSar word 31#32)
      else assigned state (bitOf (hostSar word (amount - 1#32))) (hostSar word amount)) =
      some (assignC state operand.carry, operand.value) := by
  intro operand
  by_cases shifts : amount = 0#32
  · subst shifts
    exact register_asr state word 32#32
  · have routine := register_asr state word amount
    obtain ⟨fits, -, -⟩ := amount_below below
    simp only [if_neg shifts, if_neg fits] at routine
    rw [show operand = asr word amount.toNat state.flags.cFlag from
      congrArg (asr word · state.flags.cFlag) (if_neg (toNat_ne_zero shifts)), if_neg shifts,
      if_neg shifts]
    exact routine

omit below in
theorem rotated_carry (carry : Bool) :
    ((hostShr word 1#32).bind fun low =>
        (hostShl (flagWord carry) 31#32).bind fun high => some (low ||| high)) =
      some (rrx word carry).value := by
  rw [hostShr_some word (by decide), hostShl_some (flagWord carry) (by decide),
    rrx_eq word carry (by decide)]
  rfl

theorem constant_ror :
    let operand :=
      if amount.toNat = 0 then rrx word state.flags.cFlag
      else ror word amount.toNat state.flags.cFlag
    (if amount = 0#32 then
        (hostShr word 1#32).bind fun low =>
          (hostShl (flagWord state.flags.cFlag) 31#32).bind fun high => some (low ||| high)
      else rotated word amount) = some operand.value ∧
    (if amount = 0#32 then
        (hostShr word 1#32).bind fun low =>
          (hostShl (flagWord state.flags.cFlag) 31#32).bind fun high =>
            assigned state (some (word &&& 1#32)) (some (low ||| high))
      else assigned state (bitOf (hostShr word (amount - 1#32))) (rotated word amount)) =
      some (assignC state operand.carry, operand.value) := by
  intro operand
  by_cases shifts : amount = 0#32
  · subst shifts
    have through := rotated_carry word state.flags.cFlag
    have flag := bit_flag word
    refine ⟨through, ?_⟩
    rw [if_pos rfl, show operand = rrx word state.flags.cFlag from rfl,
      rrx_eq word _ (by decide), hostShr_some word (by decide), hostShl_some _ (by decide), ← flag]
    rfl
  · have small : amount &&& 0x1f#32 = amount := by
      apply BitVec.eq_of_toNat_eq
      rw [BitVec.toNat_and]
      exact (Nat.and_two_pow_sub_one_eq_mod amount.toNat 5).trans (Nat.mod_eq_of_lt below)
    have routine := register_ror state word amount
    simp only [small, if_neg shifts] at routine
    rw [show operand = ror word amount.toNat state.flags.cFlag from
      if_neg (toNat_ne_zero shifts), if_neg shifts, if_neg shifts]
    exact routine

end Constant

end Shifter

section Paths

variable {Mem : Type} (state : ARMulState Mem) (instr : ARMword)

theorem registerAmount (word : ARMword) :
    (word &&& 0xff#32).toNat = (word.setWidth 8).toNat := by
  rw [BitVec.toNat_and, BitVec.toNat_setWidth]
  exact Nat.and_two_pow_sub_one_eq_mod word.toNat 8

theorem constantAmount (amount : BitVec 5) :
    (amount.setWidth 32).toNat = amount.toNat ∧ (amount.setWidth 32).toNat < 32 := by
  have bound := amount.isLt
  rw [BitVec.toNat_setWidth, Nat.mod_eq_of_lt (by omega)]
  exact ⟨rfl, bound⟩

theorem unshifted_iff :
    instr.extractLsb' 4 8 = 0#8 ↔
      instr.getLsbD 4 = false ∧ shiftType instr = .lsl ∧ instr.extractLsb' 7 5 = 0#5 := by
  have kind : shiftType instr = .lsl ↔ instr.getLsbD 5 = false ∧ instr.getLsbD 6 = false := by
    unfold shiftType
    split <;> simp_all
  rw [kind]
  constructor
  · intro plain
    have bit (index : Nat) (below : index < 8) : instr.getLsbD (4 + index) = false := by
      have zero := congrArg (·.getLsbD index) plain
      simpa [below] using zero
    refine ⟨bit 0 (by decide), ⟨bit 1 (by decide), bit 2 (by decide)⟩, ?_⟩
    apply BitVec.eq_of_getLsbD_eq
    intro index below
    have zero := bit (3 + index) (by omega)
    rw [← Nat.add_assoc] at zero
    simp [below, zero]
  · rintro ⟨byConstant, ⟨low, high⟩, none⟩
    apply BitVec.eq_of_getLsbD_eq
    intro index below
    have amount (place : Nat) (within : place < 5) : instr.getLsbD (7 + place) = false := by
      have zero := congrArg (·.getLsbD place) none
      simpa [within] using zero
    rw [BitVec.getLsbD_extractLsb', decide_eq_true below, Bool.true_and, BitVec.getLsbD_zero]
    obtain rfl | rfl | rfl | above : index = 0 ∨ index = 1 ∨ index = 2 ∨ 3 ≤ index := by
      omega
    · exact byConstant
    · exact low
    · exact high
    · have zero := amount (index - 3) (by omega)
      rwa [show 7 + (index - 3) = 4 + index by omega] at zero

theorem shifterOperand_plain (plain : instr.extractLsb' 4 8 = 0#8) :
    operandState state instr = state ∧
      shifterOperand state instr = ⟨state.reg (rhsReg instr), state.flags.cFlag⟩ := by
  obtain ⟨byConstant, kind, none⟩ := (unshifted_iff instr).mp plain
  refine ⟨by rw [operandState, byConstant]; rfl, ?_⟩
  rw [shifterOperand, byConstant, kind, none]
  rfl

theorem getDPRegRHS_eq (shifts : instr.extractLsb' 4 8 ≠ 0#8) :
    let operand := shifterOperand (operandState state instr) instr
    Shifter.getDPRegRHS state instr = some (operandState state instr, operand.value) ∧
      Shifter.getDPSRegRHS state instr =
        some (assignC (operandState state instr) operand.carry, operand.value) := by
  intro operand
  cases byRegister : instr.getLsbD 4 with
  | true =>
      have started : operandState state instr = incpc state := by
        rw [operandState, byRegister]
        rfl
      have amount := registerAmount ((incpc state).reg (instr.extractLsb' 8 4))
      simp only [operand, Shifter.getDPRegRHS, Shifter.getDPSRegRHS, shifterOperand, started,
        byRegister, if_true, ← amount]
      cases kind : shiftType instr with
      | lsl =>
          obtain ⟨value, flags⟩ := Shifter.register_lsl (incpc state) _ _
          exact ⟨congrArg (Option.map (Prod.mk (incpc state))) value, flags⟩
      | lsr =>
          obtain ⟨value, flags⟩ := Shifter.register_lsr (incpc state) _ _
          exact ⟨congrArg (Option.map (Prod.mk (incpc state))) value, flags⟩
      | asr =>
          obtain ⟨value, flags⟩ := Shifter.register_asr (incpc state) _ _
          exact ⟨congrArg (Option.map (Prod.mk (incpc state))) value, flags⟩
      | ror =>
          obtain ⟨value, flags⟩ := Shifter.register_ror (incpc state) _ _
          exact ⟨congrArg (Option.map (Prod.mk (incpc state))) value, flags⟩
  | false =>
      have started : operandState state instr = state := by
        rw [operandState, byRegister]
        rfl
      obtain ⟨amount, below⟩ := constantAmount (instr.extractLsb' 7 5)
      simp only [operand, Shifter.getDPRegRHS, Shifter.getDPSRegRHS, shifterOperand, started,
        byRegister, Bool.false_eq_true, if_false, ← amount]
      cases kind : shiftType instr with
      | lsl =>
          obtain ⟨value, flags⟩ := Shifter.constant_lsl state (state.reg (rhsReg instr)) below
          refine ⟨congrArg (Option.map (Prod.mk state)) value, flags fun zero => shifts ?_⟩
          have none : instr.extractLsb' 7 5 = 0#5 := by
            rw [← BitVec.toNat_inj, ← amount, zero]
            rfl
          exact (unshifted_iff instr).mpr ⟨byRegister, kind, none⟩
      | lsr =>
          obtain ⟨value, flags⟩ := Shifter.constant_lsr state (state.reg (rhsReg instr)) below
          exact ⟨congrArg (Option.map (Prod.mk state)) value, flags⟩
      | asr =>
          obtain ⟨value, flags⟩ := Shifter.constant_asr state (state.reg (rhsReg instr)) below
          exact ⟨congrArg (Option.map (Prod.mk state)) value, flags⟩
      | ror =>
          obtain ⟨value, flags⟩ := Shifter.constant_ror state (state.reg (rhsReg instr)) below
          exact ⟨congrArg (Option.map (Prod.mk state)) value, flags⟩

theorem getLSRegRHS_eq (byConstant : instr.getLsbD 4 = false) :
    (Shifter.getLSRegRHS state instr).map (Prod.mk state) = Shifter.getDPRegRHS state instr := by
  rw [Shifter.getDPRegRHS, byConstant]
  rfl

section Operands

variable (word : ARMword) (carry : Bool)

theorem shiftByRegister_eq {amount : Nat} (shifts : amount ≠ 0) (shift : ShiftType) :
    let operand : BarrelShifter.Shifted 32 :=
      match shift with
      | .lsl => BarrelShifter.lsl word amount carry
      | .lsr => BarrelShifter.lsr word amount carry
      | .asr => BarrelShifter.asr word amount carry
      | .ror => BarrelShifter.ror word amount carry
    shiftByRegister shift amount word = ⟨operand.value, some operand.carry⟩ := by
  intro operand
  rw [shiftByRegister.eq_def, if_neg shifts]
  cases shift with
  | lsl =>
      rw [show operand = _ from BarrelShifter.lsl_eq word carry shifts]
      rcases Nat.lt_trichotomy amount 32 with below | rfl | beyond
      · simp [Nat.ne_of_lt below, Nat.not_lt.mpr (Nat.le_of_lt below), Nat.le_of_lt below]
      · simp
      · have zero : word <<< amount = 0#32 := BitVec.shiftLeft_eq_zero (by omega)
        simp [Nat.ne_of_gt beyond, beyond, Nat.not_le.mpr beyond, zero]
  | lsr =>
      rw [show operand = _ from BarrelShifter.lsr_eq word carry shifts]
      rcases Nat.lt_trichotomy amount 32 with below | rfl | beyond
      · simp [Nat.ne_of_lt below, Nat.not_lt.mpr (Nat.le_of_lt below)]
      · have zero : word >>> 32 = 0#32 := BitVec.ushiftRight_eq_zero (Nat.le_refl 32)
        simp [zero]
      · have zero : word >>> amount = 0#32 := BitVec.ushiftRight_eq_zero (by omega)
        have none : word.getLsbD (amount - 1) = false := BitVec.getLsbD_of_ge _ _ (by omega)
        simp [Nat.ne_of_gt beyond, beyond, zero, none]
  | asr =>
      rw [show operand = _ from BarrelShifter.asr_eq word carry shifts]
      by_cases whole : 32 ≤ amount
      · have sign : (word.sshiftRight (amount - 1)).getLsbD 0 = word.getLsbD 31 := by
          rw [sshiftRight_whole word (by omega), BitVec.getLsbD_sshiftRight]
          rfl
        rw [if_pos whole, sign, sshiftRight_whole word (show 31 ≤ amount by omega)]
      · have low : (word.sshiftRight (amount - 1)).getLsbD 0 = word.getLsbD (amount - 1) := by
          rw [BitVec.getLsbD_sshiftRight]
          simp [show amount - 1 < 32 by omega]
        rw [if_neg whole, low]
  | ror =>
      rw [show operand = _ from BarrelShifter.ror_eq word carry (by decide) shifts,
        BarrelShifter.pred_mod (by decide) shifts]
      by_cases whole : amount % 32 = 0
      · have turned := rotater_mod word amount
        have still : rotater word 0 = word := by
          simp [rotater]
        rw [whole, still] at turned
        simp [whole, ← turned]
      · simp [whole, rotater_mod]

theorem shiftByConstant_register {amount : Nat} (shifts : amount ≠ 0) (below : amount < 32)
    (shift : ShiftType) :
    shiftByConstant shift amount carry word = shiftByRegister shift amount word := by
  have other : amount ≠ 32 := Nat.ne_of_lt below
  have above : ¬32 < amount := by
    omega
  have fits : ¬32 ≤ amount := by
    omega
  have remainder : amount % 32 = amount := Nat.mod_eq_of_lt below
  rw [shiftByRegister.eq_def, if_neg shifts]
  cases shift <;> simp [shiftByConstant, shifts, other, above, fits, remainder]

end Operands

theorem shiftOperand_eq (shifts : instr.extractLsb' 4 8 ≠ 0#8) :
    (shiftOperand state instr).value = (shifterOperand state instr).value ∧
      (shiftOperand state instr).carry.getD state.flags.cFlag =
        (shifterOperand state instr).carry := by
  have below := (instr.extractLsb' 7 5).isLt
  cases byRegister : instr.getLsbD 4 with
  | true =>
      simp only [shiftOperand, shifterOperand, byRegister, if_true]
      generalize ((state.reg (instr.extractLsb' 8 4)).setWidth 8).toNat = amount
      by_cases none : amount = 0
      · subst none
        cases shiftType instr <;> exact ⟨rfl, rfl⟩
      · rw [shiftByRegister_eq _ state.flags.cFlag none]
        cases shiftType instr <;> exact ⟨rfl, rfl⟩
  | false =>
      simp only [shiftOperand, shifterOperand, byRegister, Bool.false_eq_true, if_false]
      by_cases none : (instr.extractLsb' 7 5).toNat = 0
      · cases kind : shiftType instr with
        | lsl =>
            have zero : instr.extractLsb' 7 5 = 0#5 := BitVec.eq_of_toNat_eq none
            exact absurd ((unshifted_iff instr).mpr ⟨byRegister, kind, zero⟩) shifts
        | lsr =>
            have whole := shiftByRegister_eq (state.reg (rhsReg instr)) state.flags.cFlag
              (by decide : 32 ≠ 0) .lsr
            simp only [none, if_true]
            exact ⟨congrArg Shifted.value whole,
              congrArg (fun shifted => shifted.carry.getD state.flags.cFlag) whole⟩
        | asr =>
            have whole := shiftByRegister_eq (state.reg (rhsReg instr)) state.flags.cFlag
              (by decide : 32 ≠ 0) .asr
            simp only [none, if_true]
            exact ⟨congrArg Shifted.value whole,
              congrArg (fun shifted => shifted.carry.getD state.flags.cFlag) whole⟩
        | ror =>
            simp only [none, if_true, BarrelShifter.rrx_eq _ _ (by decide : 0 < 32)]
            exact ⟨rfl, rfl⟩
      · rw [shiftByConstant_register _ _ none below, shiftByRegister_eq _ state.flags.cFlag none]
        rw [if_neg none, if_neg none]
        cases shiftType instr <;> exact ⟨rfl, rfl⟩

section Macros

theorem dpRegRHS_routine : Shifter.dpRegRHS state instr = some (dpRegRHS state instr) := by
  rw [Shifter.dpRegRHS, dpRegRHS]
  by_cases plain : instr.extractLsb' 4 8 = 0#8
  · rw [if_pos plain, if_pos plain]
  · rw [if_neg plain, if_neg plain, (getDPRegRHS_eq state instr plain).1,
      ← (shiftOperand_eq (operandState state instr) instr plain).1]
    rfl

theorem dpsRegRHS_routine : Shifter.dpsRegRHS state instr = some (dpsRegRHS state instr) := by
  rw [Shifter.dpsRegRHS, dpsRegRHS]
  by_cases plain : instr.extractLsb' 4 8 = 0#8
  · rw [if_pos plain, if_pos plain]
  · obtain ⟨value, carry⟩ := shiftOperand_eq (operandState state instr) instr plain
    rw [if_neg plain, if_neg plain, (getDPRegRHS_eq state instr plain).2, ← value, ← carry]
    rw [show (if instr.getLsbD 4 then incpc state else state) = operandState state instr from rfl]
    dsimp only
    cases (shiftOperand (operandState state instr) instr).carry <;> rfl

theorem lsRegRHS_routine : Shifter.lsRegRHS state instr = some (lsRegRHS state instr) := by
  rw [Shifter.lsRegRHS, lsRegRHS]
  by_cases plain : instr.extractLsb' 4 8 = 0#8
  · rw [if_pos plain, if_pos plain]
  · obtain ⟨amount, below⟩ := constantAmount (instr.extractLsb' 7 5)
    have zero : (instr.extractLsb' 7 5).setWidth 32 = 0#32 ↔ instr.extractLsb' 7 5 = 0#5 := by
      rw [← BitVec.toNat_inj, ← BitVec.toNat_inj, amount]
      rfl
    rw [if_neg plain, if_neg plain, Shifter.getLSRegRHS, getLSRegRHS]
    cases shiftType instr with
    | lsl => simp only [shiftConstant, Shifter.hostShl_some _ below, amount]
    | lsr => simp only [shiftConstant, Shifter.hostShr_some _ below, amount, zero, ← apply_ite some]
    | asr =>
        simp only [shiftConstant, Shifter.hostSar_some _ below, amount, zero,
          Shifter.hostSar_some _ (by decide : (31#32).toNat < 32), ← apply_ite some]
        rfl
    | ror =>
        by_cases none : instr.extractLsb' 7 5 = 0#5
        · have through : flagWord state.flags.cFlag =
              (BitVec.ofBool state.flags.cFlag).setWidth 32 := by
            cases state.flags.cFlag <;> rfl
          simp only [shiftConstant, none, if_true, through]
          exact (Shifter.rotated_carry (state.reg (rhsReg instr)) state.flags.cFlag).trans
            (congrArg (some ·.value) (BarrelShifter.rrx_eq _ _ (by decide : 0 < 32)))
        · have shifts : (instr.extractLsb' 7 5).setWidth 32 ≠ 0#32 := mt zero.mp none
          simp only [shiftConstant, shifts, none, if_false, Shifter.rotated_some _ below shifts,
            amount, rotater, Shifter.rotateRight_eq _ _ (instr.extractLsb' 7 5).isLt]

theorem lsRegRHS_operand (byConstant : instr.getLsbD 4 = false) :
    Shifter.lsRegRHS state instr = some (shifterOperand state instr).value := by
  have started : operandState state instr = state := by
    rw [operandState, byConstant]
    rfl
  rw [Shifter.lsRegRHS]
  by_cases plain : instr.extractLsb' 4 8 = 0#8
  · rw [if_pos plain, (shifterOperand_plain state instr plain).2]
  · obtain ⟨value, -⟩ := getDPRegRHS_eq state instr plain
    have routine := (getLSRegRHS_eq state instr byConstant).trans value
    obtain ⟨shifted, found, equal⟩ := Option.map_eq_some_iff.mp routine
    rw [if_neg plain, found, (Prod.mk.injEq ..).mp equal |>.2, started]

/-- The three macros of the operands take the same value, that of the barrel shifter, and shift
the host by less than a word on the way; the second one sets C to the bit shifted out last. -/
theorem shifter_paths_agree (state : ARMulState Mem) (instr : ARMword) :
    let operand := shifterOperand (operandState state instr) instr
    Shifter.dpRegRHS state instr = some (operandState state instr, operand.value) ∧
      Shifter.dpsRegRHS state instr =
        some (assignC (operandState state instr) operand.carry, operand.value) ∧
      (instr.getLsbD 4 = false → Shifter.lsRegRHS state instr = some operand.value) := by
  intro operand
  have offset (byConstant : instr.getLsbD 4 = false) :
      Shifter.lsRegRHS state instr = some operand.value := by
    rw [lsRegRHS_operand state instr byConstant]
    simp only [operand, operandState, byConstant, Bool.false_eq_true, if_false]
  by_cases plain : instr.extractLsb' 4 8 = 0#8
  · obtain ⟨started, unshifted⟩ := shifterOperand_plain state instr plain
    have whole : operand = ⟨state.reg (rhsReg instr), state.flags.cFlag⟩ :=
      (congrArg (shifterOperand · instr) started).trans unshifted
    refine ⟨?_, ?_, offset⟩
    · rw [Shifter.dpRegRHS, if_pos plain, whole, started]
    · rw [Shifter.dpsRegRHS, if_pos plain, whole, started]
      rfl
  · obtain ⟨value, flags⟩ := getDPRegRHS_eq state instr plain
    rw [Shifter.dpRegRHS, Shifter.dpsRegRHS, if_neg plain, if_neg plain]
    exact ⟨value, flags, offset⟩

/-- `MOVS r0, r1, LSL #4` sets C to bit 28 of r1, and the same fields give a load that offset. -/
theorem shifter_paths_agree_lsl :
    let state := (coreAt svc32mode false 0#32 ()).setReg 1#4 0x10000001#32
    Shifter.dpRegRHS state 0xe1a00201#32 = some (state, 0x10#32) ∧
      Shifter.dpsRegRHS state 0xe1b00201#32 = some (assignC state true, 0x10#32) ∧
      Shifter.lsRegRHS state 0xe7920201#32 = some 0x10#32 := by
  intro state
  have operand : shifterOperand state 0xe1a00201#32 = ⟨0x10#32, true⟩ := by
    decide
  obtain ⟨plain, -, -⟩ := shifter_paths_agree state 0xe1a00201#32
  obtain ⟨-, flags, -⟩ := shifter_paths_agree state 0xe1b00201#32
  obtain ⟨-, -, offset⟩ := shifter_paths_agree state 0xe7920201#32
  refine ⟨plain.trans ?_, flags.trans ?_, (offset (by decide)).trans ?_⟩
  · exact congrArg (fun operand => some (state, operand.value)) operand
  · exact congrArg (fun operand => some (assignC state operand.carry, operand.value)) operand
  · exact congrArg (fun operand => some operand.value) operand

end Macros

end Paths

end SkyeyeStarlet
