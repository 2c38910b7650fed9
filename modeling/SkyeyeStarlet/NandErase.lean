import SkyeyeStarlet.NandPages

/-!
The erase of a block in the two formats of a dump.  The pages of a dump lie `pagefmtsize`
bytes apart, but an erase covers as many bytes as 64 pages of the chip have; where the pages
lie further apart the end of the block is left as it was.
-/

namespace SkyeyeStarlet

open RangeUpdate

/-- `nandflash_lb_setup`: the format of the pages by the type of the dump. -/
def dumpFormat (dumptype : Nat) : BitVec 16 :=
  match dumptype with
  | 0 => 0x840#16
  | 1 => 0xa00#16
  | _ => 0x840#16

def formatCell (format : BitVec 16) (page : BitVec 32) (index : Nat) : BitVec 32 :=
  page * format.setWidth 32 + BitVec.ofNat 32 index

def ErasesBlock (chip after : NandChip) (page : BitVec 32) : Prop :=
  ∀ other : BitVec 32, other.toNat < pageCount → ∀ index, index < 0x840 →
    after.addrspace (formatCell chip.pagefmtsize other index) =
      if other.toNat / 64 = page.toNat / 64 then 0xff#8
      else chip.addrspace (formatCell chip.pagefmtsize other index)

def EndErased (chip : NandChip) (page : BitVec 32) : Prop :=
  ∀ other : BitVec 32, other.toNat / 64 = page.toNat / 64 → ∀ index, index < 0x840 →
    erasesize ≤ other.toNat % 64 * 0xa00 + index →
      chip.addrspace (formatCell 0xa00#16 other index) = 0xff#8

section Formats

variable {page other : BitVec 32} {index : Nat} {format : BitVec 16}

theorem formatCell_toNat (bound : other.toNat < pageCount) (narrow : format.toNat ≤ 0xa00)
    (inside : index < 0x840) :
    (formatCell format other index).toNat = other.toNat * format.toNat + index := by
  have product : other.toNat * format.toNat ≤ 262143 * 0xa00 := by
    unfold pageCount at bound
    exact Nat.mul_le_mul (by omega) narrow
  have wide : (format.setWidth 32).toNat = format.toNat := by
    rw [BitVec.toNat_setWidth]
    omega
  rw [formatCell, BitVec.toNat_add, BitVec.toNat_mul, wide, BitVec.toNat_ofNat]
  omega

theorem blockBase_toNat (bound : page.toNat < pageCount) (narrow : format.toNat ≤ 0xa00) :
    ((page &&& ~~~0x3f#32) * format.setWidth 32).toNat =
      page.toNat / 64 * 64 * format.toNat := by
  have first : (page &&& ~~~0x3f#32).toNat < pageCount := by
    rw [block_toNat]
    omega
  have base := formatCell_toNat first narrow (show 0 < 0x840 by omega)
  rw [block_toNat, Nat.add_zero] at base
  rw [← base]
  exact congrArg BitVec.toNat (BitVec.add_zero _).symm

theorem erase_reaches (bound : page.toNat < pageCount) (otherBound : other.toNat < pageCount)
    (known : format = 0x840#16 ∨ format = 0xa00#16) (inside : index < 0x840) :
    (formatCell format other index - (page &&& ~~~0x3f#32) * format.setWidth 32).toNat <
        erasesize ↔
      other.toNat / 64 = page.toNat / 64 ∧
        other.toNat % 64 * format.toNat + index < erasesize := by
  have narrow : format.toNat ≤ 0xa00 := by
    rcases known with rfl | rfl
    · decide
    · decide
  have cell := formatCell_toNat otherBound narrow inside
  have base := blockBase_toNat bound narrow
  have size : erasesize = 135168 := by
    decide
  have split := sub_toNat (formatCell format other index)
    ((page &&& ~~~0x3f#32) * format.setWidth 32)
  unfold pageCount at bound otherBound
  rcases known with rfl | rfl
  · have width : (0x840#16 : BitVec 16).toNat = 0x840 := by
      decide
    rw [width] at cell base ⊢
    omega
  · have width : (0xa00#16 : BitVec 16).toNat = 0xa00 := by
      decide
    rw [width] at cell base ⊢
    omega

end Formats

section Erases

variable (devices : Board Flash) (depth : Nat) {page : BitVec 32} {chip : NandChip}

theorem Erase.run_addrspace (erase : Erase page) (rest : chip.pins = restPins) :
    (erase.run devices depth chip).addrspace =
      updateRange chip.addrspace ((page &&& ~~~0x3f#32) * chip.pagefmtsize.setWidth 32)
        (fun _ _ => 0xff#8) erasesize := by
  have prepared :=
    Order.write_chip devices depth erase.prepare (by decide) (Or.inl (by decide)) chip
  rw [addresses_row, send_erase1 rest] at prepared
  have block : rowAddress (erase.prepare.machine.rest.nand.address 2)
      (erase.prepare.machine.rest.nand.address 3) (erase.prepare.machine.rest.nand.address 4) &&&
      ~~~0x3f#32 = page &&& ~~~0x3f#32 := erase.block
  rw [Erase.run, Order.write_chip devices depth _ (by decide) (Or.inl (by decide)), addresses_none,
    prepared, send_erase2 (by exact rest) rfl rfl]
  dsimp only
  rw [block]

theorem Erase.run_formatCell (erase : Erase page) (rest : chip.pins = restPins)
    (format : chip.pagefmtsize = 0x840#16 ∨ chip.pagefmtsize = 0xa00#16)
    (bound : page.toNat < pageCount) {other : BitVec 32} (otherBound : other.toNat < pageCount)
    {index : Nat} (inside : index < 0x840) :
    (erase.run devices depth chip).addrspace (formatCell chip.pagefmtsize other index) =
      if other.toNat / 64 = page.toNat / 64 ∧
          other.toNat % 64 * chip.pagefmtsize.toNat + index < erasesize then 0xff#8
      else chip.addrspace (formatCell chip.pagefmtsize other index) := by
  rw [erase.run_addrspace devices depth rest, updateRange_apply _ _ _ (by decide)]
  simp only [erase_reaches bound otherBound format inside]

theorem dense_reaches (page : Nat) {index : Nat} (inside : index < 0x840) :
    page % 64 * (0x840#16 : BitVec 16).toNat + index < erasesize := by
  have width : (0x840#16 : BitVec 16).toNat = 0x840 := by
    decide
  have size : erasesize = 135168 := by
    decide
  rw [width, size]
  omega

/-- An erase clears exactly the 64 pages of its block in the dense format, and in the other
one only where nothing was left to erase at the end of the block. -/
theorem erase_block_iff (rest : chip.pins = restPins)
    (format : chip.pagefmtsize = 0x840#16 ∨ chip.pagefmtsize = 0xa00#16)
    (bound : page.toNat < pageCount) (erase : Erase page) :
    ErasesBlock chip (erase.run devices depth chip) page ↔
      chip.pagefmtsize = 0x840#16 ∨ EndErased chip page := by
  constructor
  · intro erases
    rcases format with dense | spread
    · exact Or.inl dense
    · refine Or.inr fun other same index inside beyond => ?_
      have otherBound : other.toNat < pageCount := by
        unfold pageCount at bound ⊢
        omega
      have here := erases other otherBound index inside
      rw [if_pos same, erase.run_formatCell devices depth rest (Or.inr spread) bound otherBound
        inside, spread, if_neg] at here
      · exact here
      · rintro ⟨-, covered⟩
        exact absurd covered (Nat.not_lt.mpr beyond)
  · intro erased other otherBound index inside
    rw [erase.run_formatCell devices depth rest format bound otherBound inside]
    by_cases same : other.toNat / 64 = page.toNat / 64
    · by_cases covered : other.toNat % 64 * chip.pagefmtsize.toNat + index < erasesize
      · rw [if_pos ⟨same, covered⟩, if_pos same]
      · have sparse : chip.pagefmtsize ≠ 0x840#16 := by
          intro dense
          rw [dense] at covered
          exact covered (dense_reaches _ inside)
        have spread := format.resolve_left sparse
        rw [if_neg fun both => covered both.2, if_pos same, spread]
        rw [spread] at covered
        exact erased.resolve_left sparse other same index inside (Nat.not_lt.mp covered)
    · rw [if_neg fun both => same both.1, if_neg same]

end Erases

def NandChip.installedAs (dumptype : Nat) (dump : BitVec 32 → BitVec 8) : NandChip :=
  { NandChip.installed dump with pagefmtsize := dumpFormat dumptype }

theorem erase_block_dense :
    ErasesBlock (NandChip.installedAs 0 fun _ => 0#8)
      (firstErase.run flashDevices 0 (NandChip.installedAs 0 fun _ => 0#8)) 0#32 := by
  exact (erase_block_iff flashDevices 0 rfl (Or.inl rfl) (by decide) firstErase).mpr (Or.inl rfl)

/-- The last page of the first block of a spread dump keeps what it holds. -/
theorem spread_block_kept :
    ¬ErasesBlock (NandChip.installedAs 1 fun _ => 0#8)
      (firstErase.run flashDevices 0 (NandChip.installedAs 1 fun _ => 0#8)) 0#32 := by
  intro erases
  have last := erases 63#32 (by decide) 0 (by decide)
  rw [firstErase.run_formatCell flashDevices 0 rfl (Or.inr rfl) (by decide) (by decide) (by decide),
    if_neg (by decide), if_pos (by decide)] at last
  exact absurd last (by decide)

end SkyeyeStarlet
