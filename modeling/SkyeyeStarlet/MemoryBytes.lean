import SkyeyeStarlet.MmuCore
import SkyeyeStarlet.Library.WordBits

/-!
Memory by bytes.  A write of any width changes exactly the bytes it covers, and a read of
any width returns the bytes it covers.
-/

namespace SkyeyeStarlet

def sizeMask : AccessSize → ARMword
  | .byte => 0#32
  | .halfword => 1#32
  | .word => 3#32

def sizeAlign (size : AccessSize) (address : ARMword) : ARMword :=
  address &&& ~~~sizeMask size

def dataByte (bigend : Bool) (size : AccessSize) (data address : ARMword) : ARMword :=
  field32 data
    (8 * ((if bigend then sizeMask size else 0#32) ^^^ (address &&& sizeMask size)).toNat) 8

theorem getLsbD_lowMask (width index : Nat) (bound : index < 32) :
    (BitVec.ofNat 32 (2 ^ width - 1)).getLsbD index = decide (index < width) := by
  rw [BitVec.getLsbD_ofNat, Nat.testBit_two_pow_sub_one]
  simp [bound]

theorem getLsbD_field32 (word : ARMword) (offset width index : Nat) (bound : index < 32) :
    (field32 word offset width).getLsbD index =
      (decide (index < width) && word.getLsbD (offset + index)) := by
  rw [field32, BitVec.getLsbD_and, getLsbD_lowMask width index bound, BitVec.getLsbD_ushiftRight,
    Bool.and_comm]

theorem getLsbD_setField32 (word data : ARMword) (offset width index : Nat) (bound : index < 32) :
    (setField32 word offset width data).getLsbD index =
      if offset ≤ index ∧ index < offset + width then data.getLsbD (index - offset)
      else word.getLsbD index := by
  simp only [setField32, BitVec.getLsbD_or, BitVec.getLsbD_and, BitVec.getLsbD_not,
    BitVec.getLsbD_shiftLeft, bound, decide_true, Bool.true_and]
  have inside : index - offset < 32 := by omega
  rw [getLsbD_lowMask width _ inside]
  by_cases below : index < offset
  · rw [if_neg (by omega)]
    simp [below]
  · by_cases covered : index - offset < width
    · rw [if_pos (by omega)]
      simp [below, covered]
    · rw [if_neg (by omega)]
      simp [below, covered]

theorem field32_setField32_inside (word data : ARMword) {offset width shift : Nat}
    (inside : shift + 8 ≤ width) (fits : offset + width ≤ 32) :
    field32 (setField32 word offset width data) (offset + shift) 8 = field32 data shift 8 := by
  apply BitVec.eq_of_getLsbD_eq
  intro index bound
  rw [getLsbD_field32 _ _ _ _ bound, getLsbD_field32 _ _ _ _ bound]
  by_cases low : index < 8
  · rw [getLsbD_setField32 _ _ _ _ _ (by omega), if_pos (by omega),
      show offset + shift + index - offset = shift + index by omega]
  · simp [low]

theorem field32_setField32_outside (word data : ARMword) {offset width shift : Nat}
    (outside : shift + 8 ≤ offset ∨ offset + width ≤ shift) (fits : shift + 8 ≤ 32) :
    field32 (setField32 word offset width data) shift 8 = field32 word shift 8 := by
  apply BitVec.eq_of_getLsbD_eq
  intro index bound
  rw [getLsbD_field32 _ _ _ _ bound, getLsbD_field32 _ _ _ _ bound]
  by_cases low : index < 8
  · rw [getLsbD_setField32 _ _ _ _ _ (by omega), if_neg (by omega)]
  · simp [low]

theorem field32_field32 (word : ARMword) {offset width shift : Nat} (inside : shift + 8 ≤ width)
    (fits : width ≤ 32) :
    field32 (field32 word offset width) shift 8 = field32 word (offset + shift) 8 := by
  apply BitVec.eq_of_getLsbD_eq
  intro index bound
  rw [getLsbD_field32 _ _ _ _ bound, getLsbD_field32 _ _ _ _ bound]
  by_cases low : index < 8
  · rw [getLsbD_field32 _ _ _ _ (by omega), Nat.add_assoc]
    simp [low, show shift + index < width by omega]
  · simp [low]

theorem address_split (address : ARMword) :
    ∃ place : BitVec 2, address = wordIndex address ++ place := by
  refine ⟨address.extractLsb' 0 2, ?_⟩
  apply BitVec.eq_of_getLsbD_eq
  intro index bound
  rw [BitVec.getLsbD_append]
  simp only [wordIndex, BitVec.getLsbD_extractLsb']
  by_cases low : index < 2
  · simp [low]
  · simp [low, show index - 2 < 30 by omega, show 2 + (index - 2) = index by omega]

def byteAddress (word : BitVec 30) (place : BitVec 2) : ARMword :=
  word ++ place

theorem toNat_byteAddress (word : BitVec 30) (place : BitVec 2) :
    (byteAddress word place).toNat = 4 * word.toNat + place.toNat := by
  rw [byteAddress, BitVec.toNat_append, ← Nat.shiftLeft_add_eq_or_of_lt place.isLt,
    Nat.shiftLeft_eq]
  omega

theorem getLsbD_byteAddress (word : BitVec 30) (place : BitVec 2) (index : Nat) :
    (byteAddress word place).getLsbD index =
      if index < 2 then place.getLsbD index else word.getLsbD (index - 2) := by
  rw [byteAddress, BitVec.getLsbD_append]

@[simp] theorem wordIndex_byteAddress (word : BitVec 30) (place : BitVec 2) :
    wordIndex (byteAddress word place) = word := by
  apply BitVec.eq_of_getLsbD_eq
  intro index bound
  rw [wordIndex, BitVec.getLsbD_extractLsb', getLsbD_byteAddress]
  simp [bound, show ¬2 + index < 2 by omega]

theorem byteAddress_and (word : BitVec 30) (place mask : BitVec 2) :
    byteAddress word place &&& mask.setWidth 32 = (place &&& mask).setWidth 32 := by
  apply BitVec.eq_of_getLsbD_eq
  intro index bound
  rw [BitVec.getLsbD_and, getLsbD_byteAddress, BitVec.getLsbD_setWidth, BitVec.getLsbD_setWidth,
    BitVec.getLsbD_and]
  by_cases low : index < 2
  · simp [low, bound]
  · have high : mask.getLsbD index = false := BitVec.getLsbD_of_ge _ _ (by omega)
    simp [high]

theorem byteAddress_and_not (word : BitVec 30) (place mask : BitVec 2) :
    byteAddress word place &&& ~~~(mask.setWidth 32) = byteAddress word (place &&& ~~~mask) := by
  apply BitVec.eq_of_getLsbD_eq
  intro index bound
  rw [BitVec.getLsbD_and, getLsbD_byteAddress, getLsbD_byteAddress, BitVec.getLsbD_not,
    BitVec.getLsbD_setWidth]
  by_cases low : index < 2
  · simp [low, bound]
  · have high : mask.getLsbD index = false := BitVec.getLsbD_of_ge _ _ (by omega)
    simp [low, high, bound]

theorem byteAddress_inj {word other : BitVec 30} {place place' : BitVec 2}
    (same : byteAddress word place = byteAddress other place') :
    word = other ∧ place = place' := by
  constructor
  · rw [← wordIndex_byteAddress word place, same, wordIndex_byteAddress]
  · apply BitVec.eq_of_getLsbD_eq
    intro index bound
    have bit := congrArg (BitVec.getLsbD · index) same
    simpa only [getLsbD_byteAddress, bound, if_true] using bit

def placeMask : AccessSize → BitVec 2
  | .byte => 0#2
  | .halfword => 1#2
  | .word => 3#2

theorem sizeMask_eq (size : AccessSize) : sizeMask size = (placeMask size).setWidth 32 := by
  cases size <;> rfl

theorem sizeAlign_byteAddress (size : AccessSize) (word : BitVec 30) (place : BitVec 2) :
    sizeAlign size (byteAddress word place) = byteAddress word (place &&& ~~~placeMask size) := by
  rw [sizeAlign, sizeMask_eq, byteAddress_and_not]

def placeOffset (bigend : Bool) (mask place : BitVec 2) : Nat :=
  8 * ((if bigend then mask else 0#2) ^^^ (place &&& mask)).toNat

theorem placeOffset_eq (bigend : Bool) (mask place : BitVec 2) (word : BitVec 30) :
    8 * ((if bigend then mask.setWidth 32 else 0#32) ^^^
      (byteAddress word place &&& mask.setWidth 32)).toNat = placeOffset bigend mask place := by
  rw [byteAddress_and, placeOffset]
  revert mask place
  cases bigend <;> decide

theorem byteOffset_byteAddress (bigend : Bool) (word : BitVec 30) (place : BitVec 2) :
    byteOffset bigend (byteAddress word place) = placeOffset bigend 3#2 place := by
  exact placeOffset_eq bigend 3#2 place word

theorem halfwordOffset_byteAddress (bigend : Bool) (word : BitVec 30) (place : BitVec 2) :
    halfwordOffset bigend (byteAddress word place) = placeOffset bigend 2#2 place := by
  exact placeOffset_eq bigend 2#2 place word

theorem dataByte_byteAddress (bigend : Bool) (size : AccessSize) (data : ARMword)
    (word : BitVec 30) (place : BitVec 2) :
    dataByte bigend size data (byteAddress word place) =
      field32 data (placeOffset bigend (placeMask size) place) 8 := by
  rw [dataByte, sizeMask_eq, placeOffset_eq]

def sizeBits : AccessSize → Nat
  | .byte => 8
  | .halfword => 16
  | .word => 32

def accessOffset (bigend : Bool) (size : AccessSize) (place : BitVec 2) : Nat :=
  placeOffset bigend (~~~(placeMask size)) place

theorem bankWrite_byteAddress (bigend : Bool) (ram : Ram) (size : AccessSize) (word : BitVec 30)
    {place : BitVec 2} (aligned : place &&& placeMask size = 0#2) (data : ARMword) :
    bankWrite bigend ram size (byteAddress word place) data =
      Function.update ram word
        (setField32 (ram word) (accessOffset bigend size place) (sizeBits size) data) := by
  unfold bankWrite
  rw [wordIndex_byteAddress]
  congr 1
  cases size with
  | byte => rw [byteOffset_byteAddress]; rfl
  | halfword => rw [halfwordOffset_byteAddress]; rfl
  | word =>
      apply BitVec.eq_of_getLsbD_eq
      intro index bound
      have zero : accessOffset bigend .word place = 0 := by
        revert place
        cases bigend <;> decide
      rw [getLsbD_setField32 _ _ _ _ _ bound, zero, if_pos ⟨Nat.zero_le _, by simpa [sizeBits]⟩]
      rfl

theorem bankRead_byteAddress (bigend : Bool) (ram : Ram) (size : AccessSize) (word : BitVec 30)
    {place : BitVec 2} (aligned : place &&& placeMask size = 0#2) :
    bankRead bigend ram size (byteAddress word place) =
      field32 (ram word) (accessOffset bigend size place) (sizeBits size) := by
  cases size with
  | byte => rw [bankRead, wordIndex_byteAddress, byteOffset_byteAddress]; rfl
  | halfword => rw [bankRead, wordIndex_byteAddress, halfwordOffset_byteAddress]; rfl
  | word =>
      rw [bankRead, wordIndex_byteAddress]
      apply BitVec.eq_of_getLsbD_eq
      intro index bound
      have zero : accessOffset bigend .word place = 0 := by
        revert place
        cases bigend <;> decide
      rw [getLsbD_field32 _ _ _ _ bound, zero, Nat.zero_add]
      simp [sizeBits, bound]

theorem covered_offset (bigend : Bool) (size : AccessSize) (place start : BitVec 2)
    (covered : place &&& ~~~placeMask size = start) :
    placeOffset bigend 3#2 place =
        accessOffset bigend size start + placeOffset bigend (placeMask size) place ∧
      placeOffset bigend (placeMask size) place + 8 ≤ sizeBits size ∧
      accessOffset bigend size start + sizeBits size ≤ 32 := by
  subst covered
  revert place
  cases bigend <;> cases size <;> decide

theorem uncovered_offset (bigend : Bool) (size : AccessSize) (place start : BitVec 2)
    (aligned : start &&& placeMask size = 0#2) (uncovered : place &&& ~~~placeMask size ≠ start) :
    (placeOffset bigend 3#2 place + 8 ≤ accessOffset bigend size start ∨
        accessOffset bigend size start + sizeBits size ≤ placeOffset bigend 3#2 place) ∧
      placeOffset bigend 3#2 place + 8 ≤ 32 := by
  revert place start
  cases bigend <;> cases size <;> decide

theorem exists_byteAddress (address : ARMword) :
    ∃ word place, address = byteAddress word place := by
  obtain ⟨place, split⟩ := address_split address
  exact ⟨wordIndex address, place, split⟩

theorem aligned_place {size : AccessSize} {word : BitVec 30} {place : BitVec 2}
    (aligned : sizeAlign size (byteAddress word place) = byteAddress word place) :
    place &&& placeMask size = 0#2 := by
  rw [sizeAlign_byteAddress] at aligned
  have same := (byteAddress_inj aligned).2
  clear aligned
  revert place
  cases size <;> decide

theorem bankRead_byte_bankWrite (bigend : Bool) (ram : Ram) (size : AccessSize)
    {start : ARMword} (aligned : sizeAlign size start = start) (data address : ARMword) :
    bankRead bigend (bankWrite bigend ram size start data) .byte address =
      if sizeAlign size address = start then dataByte bigend size data address
      else bankRead bigend ram .byte address := by
  obtain ⟨word, place, rfl⟩ := exists_byteAddress start
  obtain ⟨other, byte, rfl⟩ := exists_byteAddress address
  have placed := aligned_place aligned
  rw [bankWrite_byteAddress bigend ram size word placed,
    bankRead_byteAddress bigend _ .byte other (by rw [placeMask, BitVec.and_zero]),
    bankRead_byteAddress bigend ram .byte other (by rw [placeMask, BitVec.and_zero]),
    sizeAlign_byteAddress, dataByte_byteAddress]
  have offset : accessOffset bigend .byte byte = placeOffset bigend 3#2 byte := rfl
  rw [offset]
  by_cases sameWord : other = word
  · subst sameWord
    rw [Function.update_self]
    by_cases covered : byte &&& ~~~placeMask size = place
    · rw [if_pos (by rw [covered])]
      obtain ⟨at_, inside, fits⟩ := covered_offset bigend size byte place covered
      rw [at_]
      exact field32_setField32_inside _ _ inside fits
    · rw [if_neg (fun same => covered (byteAddress_inj same).2)]
      obtain ⟨outside, fits⟩ := uncovered_offset bigend size byte place placed covered
      exact field32_setField32_outside _ _ outside fits
  · rw [Function.update_of_ne sameWord,
      if_neg (fun same => sameWord (byteAddress_inj same).1)]

theorem dataByte_bankRead (bigend : Bool) (ram : Ram) (size : AccessSize) (address : ARMword) :
    dataByte bigend size (bankRead bigend ram size (sizeAlign size address)) address =
      bankRead bigend ram .byte address := by
  obtain ⟨word, place, rfl⟩ := exists_byteAddress address
  have placed : (place &&& ~~~placeMask size) &&& placeMask size = 0#2 := by
    rw [BitVec.and_assoc, BitVec.and_comm (~~~placeMask size), BitVec.and_not_self]
    exact BitVec.and_zero
  rw [sizeAlign_byteAddress, bankRead_byteAddress bigend ram size word placed,
    bankRead_byteAddress bigend ram .byte word (by rw [placeMask, BitVec.and_zero]),
    dataByte_byteAddress]
  obtain ⟨at_, inside, fits⟩ := covered_offset bigend size place _ rfl
  rw [field32_field32 _ inside (by omega), ← at_]
  rfl

end SkyeyeStarlet
