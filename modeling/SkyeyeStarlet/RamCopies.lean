import SkyeyeStarlet.Library.RangeUpdate
import SkyeyeStarlet.MemoryBytes
import SkyeyeStarlet.RamCore

/-!
RAM as one array of bytes.  In a bank whose address is a multiple of four, accesses of every
width read and write the same bytes, in the order of the machine.  On a big endian machine a
word or a halfword is then its bytes in the order of the host copies, so these agree whatever
their width.
-/

namespace SkyeyeStarlet

open RangeUpdate

section Flat

def arrayRead (bigend : Bool) (flat : ARMword → BitVec 8) (size : AccessSize) (addr : ARMword) :
    ARMword :=
  match size, bigend with
  | .byte, _ => (flat addr).setWidth 32
  | .halfword, true => (flat addr ++ flat (addr + 1#32)).setWidth 32
  | .halfword, false => (flat (addr + 1#32) ++ flat addr).setWidth 32
  | .word, true => flat addr ++ flat (addr + 1#32) ++ flat (addr + 2#32) ++ flat (addr + 3#32)
  | .word, false => flat (addr + 3#32) ++ flat (addr + 2#32) ++ flat (addr + 1#32) ++ flat addr

def arrayByte (bigend : Bool) (size : AccessSize) (data : ARMword) (index : Nat) : BitVec 8 :=
  data.extractLsb' (8 * (if bigend then unitSize size - 1 - index else index)) 8

def arrayWrite (bigend : Bool) (flat : ARMword → BitVec 8) (size : AccessSize)
    (addr data : ARMword) : ARMword → BitVec 8 :=
  updateRange flat addr (fun index _ => arrayByte bigend size data index) (unitSize size)

/-- The bytes of a bank, by address. -/
def bankBytes (bigend : Bool) (rom : Ram) (base : ARMword) (addr : ARMword) : BitVec 8 :=
  (realRead bigend rom base .byte addr).setWidth 8

end Flat

section Places

theorem byteAddress_add (word : BitVec 30) (place step : BitVec 2)
    (fits : place.toNat + step.toNat < 4) :
    byteAddress word place + step.setWidth 32 = byteAddress word (place + step) := by
  have bound := word.isLt
  apply BitVec.eq_of_toNat_eq
  rw [BitVec.toNat_add, toNat_byteAddress, toNat_byteAddress, BitVec.toNat_setWidth,
    BitVec.toNat_add]
  omega

theorem and_three_toNat (addr : ARMword) : (addr &&& 3#32).toNat = addr.toNat % 4 := by
  rw [BitVec.toNat_and]
  exact Nat.and_two_pow_sub_one_eq_mod addr.toNat 2

theorem sub_and_three {base : ARMword} (aligned : base &&& 3#32 = 0#32) (addr : ARMword) :
    (addr - base) &&& 3#32 = addr &&& 3#32 := by
  have zero := congrArg BitVec.toNat aligned
  rw [and_three_toNat, BitVec.toNat_ofNat] at zero
  have bound := base.isLt
  apply BitVec.eq_of_toNat_eq
  rw [and_three_toNat, and_three_toNat, BitVec.toNat_sub]
  omega

end Places

section Bank

variable {bigend : Bool} {rom : Ram} {base : ARMword}

theorem offsets_sub (aligned : base &&& 3#32 = 0#32) (addr : ARMword) :
    byteOffset bigend (addr - base) = byteOffset bigend addr ∧
      halfwordOffset bigend (addr - base) = halfwordOffset bigend addr := by
  have low := sub_and_three aligned addr
  have two : (addr - base) &&& 2#32 = addr &&& 2#32 := by
    have narrow : (3#32 : ARMword) &&& 2#32 = 2#32 := by
      decide
    exact WordBits.and_eq_of_and_eq_of_subset low narrow
  rw [byteOffset, byteOffset, halfwordOffset, halfwordOffset, low, two]
  exact ⟨rfl, rfl⟩

theorem realRead_eq (aligned : base &&& 3#32 = 0#32) (size : AccessSize) (addr : ARMword) :
    realRead bigend rom base size addr = bankRead bigend rom size (addr - base) := by
  obtain ⟨byte, halfword⟩ := @offsets_sub bigend base aligned addr
  cases size with
  | byte => rw [realRead, bankRead, byte]
  | halfword => rw [realRead, bankRead, halfword]
  | word => rfl

theorem realWrite_eq (aligned : base &&& 3#32 = 0#32) (size : AccessSize) (addr data : ARMword) :
    realWrite bigend rom base size addr data = bankWrite bigend rom size (addr - base) data := by
  obtain ⟨byte, halfword⟩ := @offsets_sub bigend base aligned addr
  cases size with
  | byte => rw [realWrite, bankWrite, byte]
  | halfword => rw [realWrite, bankWrite, halfword]
  | word => rfl

theorem bankBytes_eq (aligned : base &&& 3#32 = 0#32) (addr : ARMword) :
    bankBytes bigend rom base addr = (bankRead bigend rom .byte (addr - base)).setWidth 8 := by
  rw [bankBytes, realRead_eq aligned]

theorem field32_setWidth (word : ARMword) (offset : Nat) :
    (field32 word offset 8).setWidth 8 = word.extractLsb' offset 8 := by
  apply BitVec.eq_of_getLsbD_eq
  intro index bound
  rw [BitVec.getLsbD_setWidth, getLsbD_field32 _ _ _ _ (by omega), BitVec.getLsbD_extractLsb']
  simp [bound]

theorem bankRead_place (bigend : Bool) (rom : Ram) (word : BitVec 30) (place : BitVec 2) :
    (bankRead bigend rom .byte (byteAddress word place)).setWidth 8 =
      (rom word).extractLsb' (placeOffset bigend 3#2 place) 8 := by
  rw [bankRead_byteAddress bigend rom .byte word (by rw [placeMask, BitVec.and_zero])]
  exact field32_setWidth _ _

theorem field32_halves (word : ARMword) (offset : Nat) :
    field32 word offset 16 =
      (word.extractLsb' (offset + 8) 8 ++ word.extractLsb' offset 8).setWidth 32 := by
  apply BitVec.eq_of_getLsbD_eq
  intro index bound
  rw [getLsbD_field32 _ _ _ _ bound, BitVec.getLsbD_setWidth, BitVec.getLsbD_append,
    BitVec.getLsbD_extractLsb', BitVec.getLsbD_extractLsb']
  by_cases low : index < 8
  · simp [low, bound, show index < 16 by omega]
  · by_cases inside : index < 16
    · simp [low, bound, inside, show index - 8 < 8 by omega,
        show offset + 8 + (index - 8) = offset + index by omega]
    · simp [low, inside, show ¬index - 8 < 8 by omega]

theorem field32_byte (word : ARMword) (offset : Nat) :
    field32 word offset 8 = (word.extractLsb' offset 8).setWidth 32 := by
  apply BitVec.eq_of_getLsbD_eq
  intro index bound
  rw [getLsbD_field32 _ _ _ _ bound, BitVec.getLsbD_setWidth, BitVec.getLsbD_extractLsb']
  simp [bound]

def wordBytesAt (bigend : Bool) (rom : Ram) (addr : ARMword) : BitVec 8 :=
  (bankRead bigend rom .byte addr).setWidth 8

theorem bankRead_flat (bigend : Bool) (rom : Ram) (size : AccessSize) {addr : ARMword}
    (aligned : sizeAlign size addr = addr) :
    bankRead bigend rom size addr = arrayRead bigend (wordBytesAt bigend rom) size addr := by
  obtain ⟨word, place, rfl⟩ := exists_byteAddress addr
  have placed := aligned_place aligned
  have byte (step : BitVec 2) (fits : place.toNat + step.toNat < 4) :
      wordBytesAt bigend rom (byteAddress word place + step.setWidth 32) =
        (rom word).extractLsb' (placeOffset bigend 3#2 (place + step)) 8 := by
    rw [byteAddress_add word place step fits, wordBytesAt, bankRead_place]
  have here : wordBytesAt bigend rom (byteAddress word place) =
      (rom word).extractLsb' (placeOffset bigend 3#2 place) 8 := by
    rw [wordBytesAt, bankRead_place]
  have next : (1#32 : ARMword) = (1#2 : BitVec 2).setWidth 32 := by
    decide
  have third : (2#32 : ARMword) = (2#2 : BitVec 2).setWidth 32 := by
    decide
  have last : (3#32 : ARMword) = (3#2 : BitVec 2).setWidth 32 := by
    decide
  rw [bankRead_byteAddress bigend rom size word placed]
  cases size with
  | byte =>
      rw [arrayRead, here]
      exact field32_byte _ _
  | halfword =>
      have places : place = 0#2 ∨ place = 2#2 := by
        clear byte here aligned
        revert place
        decide
      rcases places with rfl | rfl
      · cases bigend with
        | false =>
            rw [arrayRead, here, next, byte 1#2 (by decide)]
            exact field32_halves _ 0
        | true =>
            rw [arrayRead, here, next, byte 1#2 (by decide)]
            exact field32_halves _ 16
      · cases bigend with
        | false =>
            rw [arrayRead, here, next, byte 1#2 (by decide)]
            exact field32_halves _ 16
        | true =>
            rw [arrayRead, here, next, byte 1#2 (by decide)]
            exact field32_halves _ 0
  | word =>
      obtain rfl : place = 0#2 := by
        clear byte here aligned
        revert place
        decide
      have whole : field32 (rom word) (accessOffset bigend .word 0#2) (sizeBits .word) =
          rom word := by
        rw [← bankRead_byteAddress bigend rom .word word placed, bankRead, wordIndex_byteAddress]
      rw [whole]
      cases bigend with
      | false =>
          rw [arrayRead, here, next, byte 1#2 (by decide), third, byte 2#2 (by decide), last,
            byte 3#2 (by decide)]
          exact (WordBits.bytes_append _).symm
      | true =>
          rw [arrayRead, here, next, byte 1#2 (by decide), third, byte 2#2 (by decide), last,
            byte 3#2 (by decide)]
          exact (WordBits.bytes_append _).symm

theorem placeOffset_size (bigend : Bool) (size : AccessSize) (place : BitVec 2) :
    placeOffset bigend (placeMask size) place =
      8 * (if bigend then unitSize size - 1 - (place &&& placeMask size).toNat
        else (place &&& placeMask size).toNat) := by
  revert place
  cases bigend <;> cases size <;> decide

theorem place_split (size : AccessSize) (place : BitVec 2) :
    place.toNat = (place &&& ~~~placeMask size).toNat + (place &&& placeMask size).toNat ∧
      (place &&& placeMask size).toNat < unitSize size := by
  revert place
  cases size <;> decide

theorem place_aligned (size : AccessSize) (place : BitVec 2)
    (aligned : place &&& placeMask size = 0#2) :
    place.toNat % unitSize size = 0 ∧ place.toNat + unitSize size ≤ 4 := by
  revert place
  cases size <;> decide

theorem place_within (size : AccessSize) (place byte : BitVec 2)
    (aligned : place &&& placeMask size = 0#2)
    (inside : place.toNat ≤ byte.toNat ∧ byte.toNat < place.toNat + unitSize size) :
    byte &&& ~~~placeMask size = place := by
  revert place byte
  cases size <;> decide

theorem covers_iff (size : AccessSize) {start : ARMword} (aligned : sizeAlign size start = start)
    (addr : ARMword) :
    sizeAlign size addr = start ↔ (addr - start).toNat < unitSize size := by
  obtain ⟨word, place, rfl⟩ := exists_byteAddress start
  obtain ⟨other, byte, rfl⟩ := exists_byteAddress addr
  have placed := aligned_place aligned
  obtain ⟨onUnit, fits⟩ := place_aligned size place placed
  have total := toNat_byteAddress other byte
  have first := toNat_byteAddress word place
  have wordBound := word.isLt
  have otherBound := other.isLt
  rw [sizeAlign_byteAddress, BitVec.toNat_sub, total, first]
  constructor
  · intro same
    obtain ⟨rfl, rfl⟩ := byteAddress_inj same
    obtain ⟨split, bound⟩ := place_split size byte
    omega
  · intro near
    have sameWord : other.toNat = word.toNat := by
      have byteBound := byte.isLt
      omega
    obtain rfl : other = word := BitVec.eq_of_toNat_eq sameWord
    have inside : place.toNat ≤ byte.toNat ∧ byte.toNat < place.toNat + unitSize size := by
      omega
    rw [place_within size place byte placed inside]

theorem bankWrite_flat (bigend : Bool) (rom : Ram) (size : AccessSize) {addr : ARMword}
    (aligned : sizeAlign size addr = addr) (data : ARMword) :
    wordBytesAt bigend (bankWrite bigend rom size addr data) =
      arrayWrite bigend (wordBytesAt bigend rom) size addr data := by
  have small : unitSize size ≤ 2 ^ 32 := by
    cases size <;> decide
  funext cell
  rw [arrayWrite, updateRange_apply _ _ _ small, wordBytesAt,
    bankRead_byte_bankWrite bigend rom size aligned]
  by_cases covered : sizeAlign size cell = addr
  · rw [if_pos covered, if_pos ((covers_iff size aligned cell).mp covered)]
    obtain ⟨word, place, rfl⟩ := exists_byteAddress cell
    have offset : (byteAddress word place - addr).toNat = (place &&& placeMask size).toNat := by
      have split := (place_split size place).1
      have bound := word.isLt
      rw [← covered, sizeAlign_byteAddress, BitVec.toNat_sub, toNat_byteAddress, toNat_byteAddress]
      omega
    rw [dataByte_byteAddress, field32_setWidth, arrayByte, offset, placeOffset_size]
  · rw [if_neg covered, if_neg fun inside => covered ((covers_iff size aligned cell).mpr inside)]
    rfl

theorem ram_ext {bigend : Bool} {rom other : Ram}
    (same : wordBytesAt bigend rom = wordBytesAt bigend other) : rom = other := by
  funext word
  have aligned : sizeAlign .word (byteAddress word 0#2) = byteAddress word 0#2 := by
    rw [sizeAlign_byteAddress]
    rfl
  have read := bankRead_flat bigend rom .word aligned
  rw [same, ← bankRead_flat bigend other .word aligned, bankRead, bankRead,
    wordIndex_byteAddress] at read
  exact read

theorem bankBytes_shift (aligned : base &&& 3#32 = 0#32) :
    bankBytes bigend rom base = fun addr => wordBytesAt bigend rom (addr - base) := by
  funext addr
  exact bankBytes_eq aligned addr

theorem add_sub_step (addr step base : ARMword) : addr + step - base = addr - base + step := by
  rw [BitVec.sub_eq_add_neg, BitVec.sub_eq_add_neg, BitVec.add_assoc, BitVec.add_assoc,
    BitVec.add_comm step]

theorem arrayRead_shift (flat : ARMword → BitVec 8) (size : AccessSize) (addr : ARMword) :
    arrayRead bigend (fun cell => flat (cell - base)) size addr =
      arrayRead bigend flat size (addr - base) := by
  cases size <;> cases bigend <;> simp only [arrayRead, add_sub_step]

theorem arrayWrite_shift (flat : ARMword → BitVec 8) (size : AccessSize) (addr data : ARMword) :
    arrayWrite bigend (fun cell => flat (cell - base)) size addr data =
      fun cell => arrayWrite bigend flat size (addr - base) data (cell - base) := by
  have small : unitSize size ≤ 2 ^ 32 := by
    cases size <;> decide
  funext cell
  have offset : cell - base - (addr - base) = cell - addr := by
    bv_omega
  rw [arrayWrite, arrayWrite, updateRange_apply _ _ _ small, updateRange_apply _ _ _ small, offset]

theorem sizeAlign_sub (aligned : base &&& 3#32 = 0#32) {size : AccessSize} {addr : ARMword}
    (onUnit : sizeAlign size addr = addr) : sizeAlign size (addr - base) = addr - base := by
  have narrow : 3#32 &&& sizeMask size = sizeMask size := by
    cases size <;> decide
  have low := WordBits.and_eq_of_and_eq_of_subset (sub_and_three aligned addr) narrow
  rw [sizeAlign, WordBits.and_not_eq_self_iff] at onUnit ⊢
  rw [low, onUnit]

theorem realRead_flat (aligned : base &&& 3#32 = 0#32) (size : AccessSize) {addr : ARMword}
    (onUnit : sizeAlign size addr = addr) :
    realRead bigend rom base size addr =
      arrayRead bigend (bankBytes bigend rom base) size addr := by
  rw [realRead_eq aligned, bankRead_flat bigend rom size (sizeAlign_sub aligned onUnit),
    bankBytes_shift aligned, arrayRead_shift]

theorem realWrite_flat (aligned : base &&& 3#32 = 0#32) (size : AccessSize) {addr : ARMword}
    (onUnit : sizeAlign size addr = addr) (data : ARMword) :
    bankBytes bigend (realWrite bigend rom base size addr data) base =
      arrayWrite bigend (bankBytes bigend rom base) size addr data := by
  rw [realWrite_eq aligned, bankBytes_shift aligned, bankBytes_shift aligned, arrayWrite_shift,
    bankWrite_flat bigend rom size (sizeAlign_sub aligned onUnit)]

theorem bank_ext (aligned : base &&& 3#32 = 0#32) {other : Ram}
    (same : bankBytes bigend rom base = bankBytes bigend other base) : rom = other := by
  apply @ram_ext bigend
  funext addr
  have here := congrFun same (addr + base)
  rw [bankBytes_shift aligned, bankBytes_shift aligned] at here
  simpa only [BitVec.add_sub_cancel] using here

end Bank

section Banks

variable {config : RamBanks} {addr : ARMword}

def RamBanks.Covered (config : RamBanks) (addr : ARMword) : Prop :=
  ∃ bank ∈ config.banks, bank.Covers addr

theorem bankOf_eq {index : Nat} {bank : MemBank} (here : config.banks[index]? = some bank)
    (covers : bank.Covers addr) : config.bankOf addr = some index := by
  obtain ⟨bound, rfl⟩ := List.getElem?_eq_some_iff.mp here
  rw [RamBanks.bankOf, List.findIdx?_eq_some_iff_getElem]
  refine ⟨bound, decide_eq_true covers, fun other before earlier => ?_⟩
  have apart :=
    List.pairwise_iff_getElem.mp config.disjoint other index (by omega) bound before addr
  exact apart ⟨of_decide_eq_true earlier, covers⟩

theorem covered_bank (covered : config.Covered addr) :
    ∃ index bank, config.bankOf addr = some index ∧ config.base index = bank.addr ∧
      bank.addr &&& 3#32 = 0#32 ∧ config.banks[index]? = some bank ∧ bank.Covers addr := by
  obtain ⟨bank, member, covers⟩ := covered
  obtain ⟨index, here⟩ := List.mem_iff_getElem?.mp member
  refine ⟨index, bank, bankOf_eq here covers, ?_, config.aligned bank member, here, covers⟩
  rw [RamBanks.base, List.getD_eq_getElem?_getD, here]
  rfl

theorem wordStart_toNat (addr : ARMword) :
    (addr &&& ~~~3#32).toNat = addr.toNat - addr.toNat % 4 := by
  obtain ⟨word, place, rfl⟩ := exists_byteAddress addr
  have zero : (place &&& ~~~3#2).toNat = 0 := by
    revert place
    decide
  have start : byteAddress word place &&& ~~~3#32 = byteAddress word (place &&& ~~~3#2) := by
    exact sizeAlign_byteAddress .word word place
  have bound := place.isLt
  rw [start, toNat_byteAddress, toNat_byteAddress, zero]
  omega

theorem covers_wordStart {bank : MemBank} (aligned : bank.addr &&& 3#32 = 0#32)
    (covers : bank.Covers addr) : bank.Covers (addr &&& ~~~3#32) := by
  have start := wordStart_toNat addr
  have base := congrArg BitVec.toNat aligned
  rw [and_three_toNat, BitVec.toNat_ofNat] at base
  obtain ⟨above, near⟩ := covers
  rw [BitVec.le_def] at above
  have first : bank.addr.toNat ≤ (addr &&& ~~~3#32).toNat := by
    omega
  rw [BitVec.lt_def, BitVec.toNat_sub_of_le (BitVec.le_def.mpr above)] at near
  refine ⟨BitVec.le_def.mpr first, ?_⟩
  rw [BitVec.lt_def, BitVec.toNat_sub_of_le (BitVec.le_def.mpr first)]
  omega

theorem bankOf_wordStart (covered : config.Covered addr) :
    config.bankOf (addr &&& ~~~3#32) = config.bankOf addr := by
  obtain ⟨index, bank, found, -, aligned, here, covers⟩ := covered_bank covered
  rw [found]
  exact bankOf_eq here (covers_wordStart aligned covers)

theorem unit_wordStart {size : AccessSize} (onUnit : sizeAlign size addr = addr) {step : Nat}
    (inside : step < unitSize size) :
    (addr + BitVec.ofNat 32 step) &&& ~~~3#32 = addr &&& ~~~3#32 := by
  obtain ⟨word, place, rfl⟩ := exists_byteAddress addr
  obtain ⟨onPlace, fits⟩ := place_aligned size place (aligned_place onUnit)
  have bound := word.isLt
  apply BitVec.eq_of_toNat_eq
  rw [wordStart_toNat, wordStart_toNat, BitVec.toNat_add, toNat_byteAddress, BitVec.toNat_ofNat]
  omega

theorem bankOf_unit {size : AccessSize} (onUnit : sizeAlign size addr = addr)
    (covered : ∀ step, step < unitSize size → config.Covered (addr + BitVec.ofNat 32 step))
    {step : Nat} (inside : step < unitSize size) :
    config.bankOf (addr + BitVec.ofNat 32 step) = config.bankOf addr := by
  have first := covered 0 (by cases size <;> decide)
  rw [BitVec.add_zero] at first
  rw [← bankOf_wordStart (covered step inside), unit_wordStart onUnit inside,
    bankOf_wordStart first]

end Banks

section Units

variable {config : RamBanks} {roms : Roms} {addr : ARMword} {size : AccessSize}

theorem arrayByte_wideValue (size : AccessSize) (buf : Nat → BitVec 8) (index : Nat) {step : Nat}
    (inside : step < unitSize size) :
    arrayByte true size (wideValue size buf index) step = buf (index + step) := by
  cases size with
  | byte =>
      obtain rfl : step = 0 := Nat.lt_one_iff.mp inside
      rw [wideValue, Nat.add_zero]
      exact (BitVec.extractLsb'_setWidth_of_le (by decide)).trans BitVec.extractLsb'_eq_self
  | halfword =>
      obtain ⟨first, second⟩ := WordBits.append_halves (rfl : wideValue .halfword buf index = _)
      obtain rfl | rfl : step = 0 ∨ step = 1 := by
        rw [unitSize] at inside
        omega
      · exact first
      · exact second
  | word =>
      obtain ⟨first, second, third, last⟩ :=
        WordBits.append_bytes (rfl : wideValue .word buf index = _)
      obtain rfl | rfl | rfl | rfl : step = 0 ∨ step = 1 ∨ step = 2 ∨ step = 3 := by
        rw [unitSize] at inside
        omega
      · exact first
      · exact second
      · exact third
      · exact last

theorem wideBytes_eq (size : AccessSize) (data : ARMword) :
    wideBytes size data = (List.range (unitSize size)).map (arrayByte true size data) := by
  cases size <;> rfl

theorem arrayRead_wideValue (flat : ARMword → BitVec 8) (size : AccessSize) (addr : ARMword) :
    arrayRead true flat size addr =
      wideValue size (fun step => flat (addr + BitVec.ofNat 32 step)) 0 := by
  have zero : addr + BitVec.ofNat 32 0 = addr := BitVec.add_zero addr
  cases size <;> simp only [arrayRead, wideValue, zero, Nat.zero_add]

def ramByte (config : RamBanks) (roms : Roms) (addr : ARMword) : BitVec 8 :=
  (ramRead true config roms .byte addr).setWidth 8

theorem ramByte_eq {index : Nat} (found : config.bankOf addr = some index) :
    ramByte config roms addr = bankBytes true (roms index) (config.base index) addr := by
  rw [ramByte, ramRead, found]
  rfl

theorem ramRead_unit (onUnit : sizeAlign size addr = addr)
    (covered : ∀ step, step < unitSize size → config.Covered (addr + BitVec.ofNat 32 step)) :
    wideBytes size (ramRead true config roms size addr) =
      (List.range (unitSize size)).map fun step =>
        ramByte config roms (addr + BitVec.ofNat 32 step) := by
  have first := covered 0 (by cases size <;> decide)
  rw [BitVec.add_zero] at first
  obtain ⟨index, bank, found, base, aligned, -, -⟩ := covered_bank first
  rw [ramRead, found]
  dsimp only
  rw [base, realRead_flat aligned size onUnit, wideBytes_eq, arrayRead_wideValue]
  refine List.map_congr_left fun step inside => ?_
  have inside := List.mem_range.mp inside
  rw [arrayByte_wideValue size _ _ inside, Nat.zero_add,
    ramByte_eq ((bankOf_unit onUnit covered inside).trans found), base]

def romBytes (config : RamBanks) (roms : Roms) (index : Nat) : ARMword → BitVec 8 :=
  bankBytes true (roms index) (config.base index)

theorem base_aligned (config : RamBanks) (index : Nat) : config.base index &&& 3#32 = 0#32 := by
  rw [RamBanks.base, List.getD_eq_getElem?_getD]
  cases here : config.banks[index]? with
  | none => rfl
  | some bank => exact config.aligned bank (List.mem_of_getElem? here)

theorem roms_ext {roms other : Roms}
    (same : ∀ index cell, romBytes config roms index cell = romBytes config other index cell) :
    roms = other := by
  funext index
  exact bank_ext (base_aligned config index) (funext (same index))

theorem ramWrite_unit (onUnit : sizeAlign size addr = addr)
    (covered : ∀ step, step < unitSize size → config.Covered (addr + BitVec.ofNat 32 step))
    (buf : Nat → BitVec 8) (first index : Nat) (cell : ARMword) :
    romBytes config (ramWrite true config roms size addr (wideValue size buf first)) index cell =
      if (cell - addr).toNat < unitSize size ∧ config.bankOf cell = some index then
        buf (first + (cell - addr).toNat)
      else romBytes config roms index cell := by
  have small : unitSize size ≤ 2 ^ 32 := by
    cases size <;> decide
  have start := covered 0 (by cases size <;> decide)
  rw [BitVec.add_zero] at start
  obtain ⟨home, bank, found, -, -, -, -⟩ := covered_bank start
  have cellBank (inside : (cell - addr).toNat < unitSize size) :
      config.bankOf cell = some home := by
    have there : cell = addr + BitVec.ofNat 32 (cell - addr).toNat :=
      (sub_eq_iff cell addr (by omega)).mp rfl
    rw [there, bankOf_unit onUnit covered inside, found]
  rw [ramWrite, found]
  dsimp only
  by_cases here : index = home
  · subst here
    rw [romBytes, Function.update_self, realWrite_flat (base_aligned config index) size onUnit,
      arrayWrite, updateRange_apply _ _ _ small, romBytes]
    by_cases inside : (cell - addr).toNat < unitSize size
    · rw [if_pos inside, if_pos ⟨inside, cellBank inside⟩, arrayByte_wideValue size buf _ inside]
    · rw [if_neg inside, if_neg fun both => inside both.1]
  · have elsewhere : ¬((cell - addr).toNat < unitSize size ∧ config.bankOf cell = some index) := by
      rintro ⟨inside, other⟩
      rw [cellBank inside] at other
      exact here (Option.some.inj other).symm
    rw [if_neg elsewhere, romBytes, Function.update_of_ne here, romBytes]

end Units

section Copies

variable {config : RamBanks} {size : AccessSize} {addr : ARMword} {count : Nat}

def RamBanks.CoversRange (config : RamBanks) (addr : ARMword) (len : Nat) : Prop :=
  ∀ step, step < len → config.Covered (addr + BitVec.ofNat 32 step)

theorem add_ofNat_add (addr : ARMword) (first second : Nat) :
    addr + BitVec.ofNat 32 (first + second) =
      addr + BitVec.ofNat 32 first + BitVec.ofNat 32 second := by
  rw [BitVec.ofNat_add, BitVec.add_assoc]

theorem RamBanks.CoversRange.split {first second : Nat}
    (covered : config.CoversRange addr (first + second)) :
    config.CoversRange addr first ∧
      config.CoversRange (addr + BitVec.ofNat 32 first) second := by
  refine ⟨fun step inside => covered step (by omega), fun step inside => ?_⟩
  rw [← add_ofNat_add]
  exact covered (first + step) (by omega)

theorem sizeAlign_iff (size : AccessSize) (addr : ARMword) :
    sizeAlign size addr = addr ↔ addr.toNat % unitSize size = 0 := by
  rw [sizeAlign, WordBits.and_not_eq_self_iff, ← BitVec.toNat_inj, BitVec.toNat_and]
  cases size with
  | byte => simp [sizeMask, unitSize, Nat.mod_one]
  | halfword => exact Eq.congr_left (Nat.and_two_pow_sub_one_eq_mod addr.toNat 1)
  | word => exact Eq.congr_left (Nat.and_two_pow_sub_one_eq_mod addr.toNat 2)

theorem sizeAlign_next (onUnit : sizeAlign size addr = addr) :
    sizeAlign size (addr + BitVec.ofNat 32 (unitSize size)) =
      addr + BitVec.ofNat 32 (unitSize size) := by
  rw [sizeAlign_iff] at onUnit ⊢
  rw [BitVec.toNat_add, BitVec.toNat_ofNat]
  cases size <;> simp only [unitSize] at onUnit ⊢ <;> omega

theorem copyOut_bytes (roms : Roms) (size : AccessSize) (count : Nat) (addr : ARMword)
    (onUnit : sizeAlign size addr = addr)
    (covered : config.CoversRange addr (unitSize size * count)) :
    copyOut true config roms size count addr =
      (List.range (unitSize size * count)).map fun step =>
        ramByte config roms (addr + BitVec.ofNat 32 step) := by
  induction count generalizing addr with
  | zero => rfl
  | succ count ih =>
      have total : unitSize size * (count + 1) = unitSize size + unitSize size * count := by
        rw [Nat.mul_succ, Nat.add_comm]
      rw [total] at covered ⊢
      obtain ⟨here, rest⟩ := covered.split
      rw [copyOut, ramRead_unit onUnit here, ih _ (sizeAlign_next onUnit) rest, List.range_add,
        List.map_append, List.map_map]
      congr 1
      refine List.map_congr_left fun step _ => ?_
      rw [Function.comp_apply, add_ofNat_add]

theorem offset_next (cell addr : ARMword) {unit : Nat} (small : unit < 2 ^ 32) :
    (cell - (addr + BitVec.ofNat 32 unit)).toNat =
      if (cell - addr).toNat < unit then 2 ^ 32 + (cell - addr).toNat - unit
      else (cell - addr).toNat - unit := by
  have cellBound := cell.isLt
  have addrBound := addr.isLt
  rw [BitVec.toNat_sub, BitVec.toNat_add, BitVec.toNat_ofNat, Nat.mod_eq_of_lt small,
    BitVec.toNat_sub]
  split_ifs <;> omega

theorem copyIn_bytes (buf : Nat → BitVec 8) (size : AccessSize) (count first : Nat)
    (addr : ARMword) (roms : Roms) (onUnit : sizeAlign size addr = addr)
    (fits : unitSize size * count ≤ 2 ^ 32)
    (covered : config.CoversRange addr (unitSize size * count)) (index : Nat) (cell : ARMword) :
    romBytes config (copyIn true config size buf count first addr roms) index cell =
      if (cell - addr).toNat < unitSize size * count ∧ config.bankOf cell = some index then
        buf (first + (cell - addr).toNat)
      else romBytes config roms index cell := by
  induction count generalizing addr first roms with
  | zero =>
      have nowhere :
          ¬((cell - addr).toNat < unitSize size * 0 ∧ config.bankOf cell = some index) := by
        omega
      rw [if_neg nowhere, copyIn]
  | succ count ih =>
      have total : unitSize size * (count + 1) = unitSize size + unitSize size * count := by
        rw [Nat.mul_succ, Nat.add_comm]
      rw [total] at covered fits ⊢
      obtain ⟨here, rest⟩ := covered.split
      have small : unitSize size < 2 ^ 32 := by
        cases size <;> decide
      have offset := offset_next cell addr small
      rw [copyIn, ih _ _ _ (sizeAlign_next onUnit) (by omega) rest,
        ramWrite_unit onUnit here]
      by_cases home : config.bankOf cell = some index
      · simp only [home, and_true]
        by_cases now : (cell - addr).toNat < unitSize size
        · rw [if_pos now] at offset
          rw [if_neg (by omega), if_pos now, if_pos (by omega)]
        · rw [if_neg now] at offset
          rw [offset, if_neg now]
          by_cases inside : (cell - addr).toNat - unitSize size < unitSize size * count
          · rw [if_pos inside, if_pos (by omega)]
            congr 1
            omega
          · rw [if_neg inside, if_neg (by omega)]
      · simp only [home, and_false, if_false]

def OnUnits (size : AccessSize) (addr len : ARMword) : Prop :=
  addr.toNat % unitSize size = 0 ∧ len.toNat % unitSize size = 0

theorem units_total {len : ARMword} (whole : len.toNat % unitSize size = 0) :
    unitSize size * (len.toNat / unitSize size) = len.toNat :=
  Nat.mul_div_cancel' (Nat.dvd_of_mod_eq_zero whole)

theorem copyOut_agree (roms : Roms) {addr len : ARMword} (units : OnUnits size addr len)
    (covered : config.CoversRange addr len.toNat) :
    copyOut true config roms size (len.toNat / unitSize size) addr =
      starletArm2host8 true config roms addr len := by
  have total := units_total units.2
  rw [starletArm2host8, copyOut_bytes roms size _ addr ((sizeAlign_iff size addr).mpr units.1)
    (by rwa [total]),
    copyOut_bytes roms .byte _ addr ((sizeAlign_iff .byte addr).mpr (Nat.mod_one _))
    (by rwa [unitSize, Nat.one_mul]), total, unitSize, Nat.one_mul]

theorem copyIn_agree (roms : Roms) (buf : Nat → BitVec 8) {addr len : ARMword}
    (units : OnUnits size addr len) (covered : config.CoversRange addr len.toNat) :
    copyIn true config size buf (len.toNat / unitSize size) 0 addr roms =
      starletHost2arm8 true config roms addr buf len := by
  have total := units_total units.2
  have bound := len.isLt
  apply @roms_ext config
  intro index cell
  rw [starletHost2arm8, copyIn_bytes buf size _ 0 addr roms ((sizeAlign_iff size addr).mpr units.1)
    (by omega) (by rwa [total]), copyIn_bytes buf .byte _ 0 addr roms
    ((sizeAlign_iff .byte addr).mpr (Nat.mod_one _)) (by rw [unitSize]; omega)
    (by rwa [unitSize, Nat.one_mul]), total, unitSize, Nat.one_mul]

theorem starletArm2host8_starletHost2arm8 (roms : Roms) (buf : Nat → BitVec 8)
    {addr len : ARMword} (covered : config.CoversRange addr len.toNat) :
    starletArm2host8 true config (starletHost2arm8 true config roms addr buf len) addr len =
      (List.range len.toNat).map buf := by
  have bound := len.isLt
  have onByte : sizeAlign .byte addr = addr := (sizeAlign_iff .byte addr).mpr (Nat.mod_one _)
  have bytes : config.CoversRange addr (unitSize .byte * len.toNat) := by
    rwa [unitSize, Nat.one_mul]
  rw [starletArm2host8, copyOut_bytes _ .byte _ addr onByte bytes, unitSize, Nat.one_mul]
  refine List.map_congr_left fun step inside => ?_
  have inside := List.mem_range.mp inside
  obtain ⟨index, bank, found, -, -, -, -⟩ := covered_bank (covered step inside)
  have offset : (addr + BitVec.ofNat 32 step - addr).toNat = step :=
    (sub_eq_iff _ addr (by omega)).mpr rfl
  have written := copyIn_bytes buf .byte len.toNat 0 addr roms onByte
    (by rw [unitSize]; omega) bytes index (addr + BitVec.ofNat 32 step)
  rw [offset, if_pos ⟨by rwa [unitSize, Nat.one_mul], found⟩, Nat.zero_add] at written
  rw [ramByte_eq found]
  exact written

theorem copyWidth_cases (addr len : ARMword) :
    (copyWidth addr len = .word ∧ OnUnits .word addr len) ∨
      (copyWidth addr len = .halfword ∧ OnUnits .halfword addr len) ∨
        copyWidth addr len = .byte := by
  have word (value : ARMword) : value &&& 3#32 = 0#32 ↔ value.toNat % 4 = 0 :=
    WordBits.and_low_eq_zero_iff value 2 (by decide)
  have halfword (value : ARMword) : value &&& 1#32 = 0#32 ↔ value.toNat % 2 = 0 :=
    WordBits.and_low_eq_zero_iff value 1 (by decide)
  rw [copyWidth, OnUnits, OnUnits, unitSize, unitSize]
  split_ifs with onWords onHalfwords
  · exact Or.inl ⟨rfl, (word addr).mp onWords.1, (word len).mp onWords.2⟩
  · exact Or.inr (Or.inl ⟨rfl, (halfword addr).mp onHalfwords.1, (halfword len).mp onHalfwords.2⟩)
  · exact Or.inr (Or.inr rfl)

theorem msgRead_eq (roms : Roms) {addr len : ARMword}
    (covered : config.CoversRange addr len.toNat) :
    msgRead true config roms addr len = starletArm2host8 true config roms addr len := by
  obtain ⟨width, units⟩ | ⟨width, units⟩ | width := copyWidth_cases addr len
  · rw [msgRead, width]
    exact copyOut_agree roms units covered
  · rw [msgRead, width]
    exact copyOut_agree roms units covered
  · rw [msgRead, width]

theorem msgWrite_eq (roms : Roms) (buf : Nat → BitVec 8) {addr len : ARMword}
    (covered : config.CoversRange addr len.toNat) :
    msgWrite true config roms addr buf len = starletHost2arm8 true config roms addr buf len := by
  obtain ⟨width, units⟩ | ⟨width, units⟩ | width := copyWidth_cases addr len
  · rw [msgWrite, width]
    exact copyIn_agree roms buf units covered
  · rw [msgWrite, width]
    exact copyIn_agree roms buf units covered
  · rw [msgWrite, width]

/-- Bytes, halfwords and words are those of one array of bytes, and the copies agree on it. -/
theorem ram_is_bytes :
    (∀ (bigend : Bool) (rom : Ram) (base : ARMword), base &&& 3#32 = 0#32 →
      ∀ (size : AccessSize) (addr : ARMword), sizeAlign size addr = addr →
        realRead bigend rom base size addr =
            arrayRead bigend (bankBytes bigend rom base) size addr ∧
          ∀ data, bankBytes bigend (realWrite bigend rom base size addr data) base =
            arrayWrite bigend (bankBytes bigend rom base) size addr data) ∧
      ∀ (config : RamBanks) (roms : Roms) (addr len : ARMword),
        config.CoversRange addr len.toNat →
          (OnUnits .word addr len →
            starletArm2host32 true config roms addr len =
                starletArm2host8 true config roms addr len ∧
              ∀ buf, starletHost2arm32 true config roms addr buf len =
                starletHost2arm8 true config roms addr buf len) ∧
          (OnUnits .halfword addr len →
            starletArm2host16 true config roms addr len =
                starletArm2host8 true config roms addr len ∧
              ∀ buf, starletHost2arm16 true config roms addr buf len =
                starletHost2arm8 true config roms addr buf len) ∧
          (∀ buf, starletArm2host8 true config
            (starletHost2arm8 true config roms addr buf len) addr len =
              (List.range len.toNat).map buf) ∧
          msgRead true config roms addr len = starletArm2host8 true config roms addr len ∧
          ∀ buf, msgWrite true config roms addr buf len =
            starletHost2arm8 true config roms addr buf len := by
  refine ⟨fun bigend rom base aligned size addr onUnit =>
    ⟨realRead_flat aligned size onUnit, realWrite_flat aligned size onUnit⟩,
    fun config roms addr len covered => ⟨?_, ?_, ?_, ?_, ?_⟩⟩
  · intro units
    exact ⟨copyOut_agree roms units covered, fun buf => copyIn_agree roms buf units covered⟩
  · intro units
    exact ⟨copyOut_agree roms units covered, fun buf => copyIn_agree roms buf units covered⟩
  · intro buf
    exact starletArm2host8_starletHost2arm8 roms buf covered
  · exact msgRead_eq roms covered
  · intro buf
    exact msgWrite_eq roms buf covered

def twoBanks : RamBanks where
  banks := [⟨0x100#32, 0x10#32⟩, ⟨0x110#32, 0x10#32⟩]
  aligned := by
    decide
  disjoint := by
    rw [List.pairwise_pair]
    rintro addr ⟨⟨-, low⟩, above, -⟩
    dsimp only at low above
    bv_omega

/-- A range of both banks, and a halfword of the first. -/
theorem ram_is_bytes_two :
    starletArm2host32 true twoBanks (fun _ _ => 0x01234567#32) 0x10c#32 8#32 =
        starletArm2host8 true twoBanks (fun _ _ => 0x01234567#32) 0x10c#32 8#32 ∧
      realRead true (fun _ => 0x01234567#32) 0x100#32 .halfword 0x106#32 =
        arrayRead true (bankBytes true (fun _ => 0x01234567#32) 0x100#32) .halfword
          0x106#32 := by
  have covered : twoBanks.CoversRange 0x10c#32 (8#32 : ARMword).toNat := by
    intro step inside
    have inside : step < 8 := inside
    by_cases first : step < 4
    · refine ⟨⟨0x100#32, 0x10#32⟩, List.mem_cons_self, ?_⟩
      rw [MemBank.Covers]
      bv_omega
    · refine ⟨⟨0x110#32, 0x10#32⟩, List.mem_cons_of_mem _ List.mem_cons_self, ?_⟩
      rw [MemBank.Covers]
      bv_omega
  obtain ⟨accesses, copies⟩ := ram_is_bytes
  obtain ⟨words, -⟩ := copies twoBanks (fun _ _ => 0x01234567#32) 0x10c#32 8#32 covered
  exact ⟨(words ⟨by decide, by decide⟩).1,
    (accesses true _ 0x100#32 (by decide) .halfword 0x106#32 (by decide)).1⟩

end Copies

end SkyeyeStarlet
