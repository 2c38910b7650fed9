import SkyeyeStarlet.MmioBounds
import SkyeyeStarlet.RamCopies
import SkyeyeStarlet.SramCore

/-!
SRAM as one big endian memory.  A byte is known by the array and the offset that its address
decodes to, whatever window it is seen through.  The addresses above `sramb` decode to a word
that is cleared at every access.
-/

namespace SkyeyeStarlet

section Memory

variable (settings : SramSettings)

def SramAccess.written (access : SramAccess) (cell : HostArray × Nat) : Option (BitVec 8) :=
  match access.operation with
  | .read => none
  | .write data =>
      ((List.range (unitSize access.size)).find? fun step =>
        settings.decode (access.addr + BitVec.ofNat 32 step) == some cell).map
          (arrayByte true access.size data)

/-- The last byte written to a location, in a run with its last access first. -/
def latest (cell : HostArray × Nat) : List SramAccess → Option (BitVec 8)
  | [] => none
  | access :: earlier => (access.written settings cell).or (latest cell earlier)

/-- The byte at an address: zero in the hole, else the last one written to its location. -/
def byteSeen (bytes : SramBytes) (history : List SramAccess) (addr : ARMword) : BitVec 8 :=
  match settings.decode addr with
  | some (.dummy, _) => 0#8
  | some cell => (latest settings cell history).getD (bytes cell.1 cell.2)
  | none => 0#8

end Memory

section Decode

variable {settings : SramSettings} {size : AccessSize} {addr : ARMword} {array : HostArray}
  {offset : Nat}

theorem decode_unit (onUnit : sizeAlign size addr = addr)
    (decoded : settings.decode addr = some (array, offset)) {step : Nat}
    (inside : step < unitSize size) :
    settings.decode (addr + BitVec.ofNat 32 step) =
      some (array, if array = .dummy then offset else offset + step) := by
  obtain ⟨word, place, rfl⟩ := exists_byteAddress addr
  obtain ⟨-, fits⟩ := place_aligned size place (aligned_place onUnit)
  have small : (BitVec.ofNat 2 step).toNat = step := by
    rw [BitVec.toNat_ofNat]
    omega
  have wide : BitVec.ofNat 32 step = (BitVec.ofNat 2 step).setWidth 32 := by
    apply BitVec.eq_of_toNat_eq
    rw [BitVec.toNat_setWidth, small, BitVec.toNat_ofNat]
  have total : (place + BitVec.ofNat 2 step).toNat = place.toNat + step := by
    rw [BitVec.toNat_add, small]
    omega
  rw [SramSettings.decode, starletSramDecode_place] at decoded
  rw [wide, byteAddress_add word place _ (by omega), SramSettings.decode, starletSramDecode_place]
  obtain ⟨⟨first, start⟩, found, same⟩ := Option.map_eq_some_iff.mp decoded
  obtain ⟨rfl, rfl⟩ := Prod.mk.inj same
  rw [found, Option.map_some, total]
  dsimp only
  split_ifs
  · rfl
  · rw [Nat.add_assoc]

theorem decode_bound (onUnit : sizeAlign size addr = addr)
    (decoded : settings.decode addr = some (array, offset)) :
    offset + unitSize size ≤ array.size := by
  rw [sizeAlign_iff] at onUnit
  have unit : unitSize size ∣ 0x2000 ∧ unitSize size ≤ 4 ∧ 0 < unitSize size := by
    cases size <;> decide
  rw [SramSettings.decode] at decoded
  rcases starletSramDecode_cases settings.ports settings.internal addr with
    exits | boot0 | dummy | sramb | srama
  · rw [exits] at decoded
    exact absurd decoded (Option.some_ne_none _).symm
  · rw [boot0] at decoded
    obtain ⟨rfl, rfl⟩ := Prod.mk.inj (Option.some.inj decoded)
    cases size <;> simp only [unitSize, HostArray.size] at onUnit ⊢ <;> omega
  · rw [dummy] at decoded
    obtain ⟨rfl, rfl⟩ := Prod.mk.inj (Option.some.inj decoded)
    rw [HostArray.size]
    omega
  · rw [sramb] at decoded
    obtain ⟨rfl, rfl⟩ := Prod.mk.inj (Option.some.inj decoded)
    cases size <;> simp only [unitSize, HostArray.size] at onUnit ⊢ <;> omega
  · rw [srama] at decoded
    obtain ⟨rfl, rfl⟩ := Prod.mk.inj (Option.some.inj decoded)
    cases size <;> simp only [unitSize, HostArray.size] at onUnit ⊢ <;> omega

end Decode

section Writes

theorem overwrite_apply (cells : Nat → BitVec 8) (offset : Nat) (list : Bytes) (index : Nat) :
    overwrite cells offset list index =
      if offset ≤ index ∧ index < offset + list.length then list.getD (index - offset) 0#8
      else cells index := by
  induction list generalizing cells offset with
  | nil => rw [overwrite, if_neg (by simp only [List.length_nil]; omega)]
  | cons byte rest ih =>
      rw [overwrite, ih, List.length_cons]
      by_cases here : index = offset
      · subst here
        rw [if_neg (by omega), if_pos (by omega), Function.update_self, Nat.sub_self]
        rfl
      · rw [Function.update_of_ne here]
        by_cases inside : offset + 1 ≤ index ∧ index < offset + 1 + rest.length
        · have next : index - offset = index - (offset + 1) + 1 := by
            omega
          rw [if_pos inside, if_pos (by omega), next, List.getD_cons_succ]
        · rw [if_neg inside, if_neg (by omega)]

theorem overwrite_wideBytes (cells : Nat → BitVec 8) (offset : Nat) (size : AccessSize)
    (data : ARMword) (index : Nat) :
    overwrite cells offset (wideBytes size data) index =
      if offset ≤ index ∧ index < offset + unitSize size then
        arrayByte true size data (index - offset)
      else cells index := by
  rw [overwrite_apply, wideBytes_eq, List.length_map, List.length_range]
  by_cases inside : offset ≤ index ∧ index < offset + unitSize size
  · have bound : index - offset < unitSize size := by
      omega
    rw [if_pos inside, if_pos inside, List.getD_eq_getElem?_getD, List.getElem?_map,
      List.getElem?_range bound]
    rfl
  · rw [if_neg inside, if_neg inside]

variable {settings : SramSettings} {access : SramAccess} {array : HostArray} {offset : Nat}

theorem written_eq (decoded : settings.decode access.addr = some (array, offset))
    {data : ARMword} (writes : access.operation = .write data) {cell : HostArray × Nat}
    (solid : cell.1 ≠ .dummy) :
    access.written settings cell =
      if cell.1 = array ∧ offset ≤ cell.2 ∧ cell.2 < offset + unitSize access.size then
        some (arrayByte true access.size data (cell.2 - offset))
      else none := by
  have place {step : Nat} (inside : step < unitSize access.size) :
      settings.decode (access.addr + BitVec.ofNat 32 step) = some cell ↔
        cell.1 = array ∧ cell.2 = offset + step := by
    rw [decode_unit access.aligned decoded inside, Option.some_inj, Prod.ext_iff]
    constructor
    · rintro ⟨same, index⟩
      dsimp only at same index
      rw [same, if_neg solid] at index
      exact ⟨same.symm, index.symm⟩
    · rintro ⟨rfl, index⟩
      exact ⟨rfl, by rw [if_neg solid, index]⟩
  rw [SramAccess.written, writes]
  dsimp only
  by_cases inside : cell.1 = array ∧ offset ≤ cell.2 ∧ cell.2 < offset + unitSize access.size
  · obtain ⟨same, start, stop⟩ := inside
    have bound : cell.2 - offset < unitSize access.size := by
      omega
    have found : (List.range (unitSize access.size)).find? (fun step =>
        settings.decode (access.addr + BitVec.ofNat 32 step) == some cell) =
          some (cell.2 - offset) := by
      rw [List.find?_range_eq_some]
      refine ⟨beq_iff_eq.mpr ((place bound).mpr ⟨same, by omega⟩), List.mem_range.mpr bound, ?_⟩
      intro earlier before
      rw [Bool.not_eq_true', beq_eq_false_iff_ne, ne_eq, place (by omega)]
      omega
    rw [if_pos ⟨same, start, stop⟩, found, Option.map_some]
  · have missed : (List.range (unitSize access.size)).find? (fun step =>
        settings.decode (access.addr + BitVec.ofNat 32 step) == some cell) = none := by
      rw [List.find?_eq_none]
      intro step member hit
      have bound := List.mem_range.mp member
      obtain ⟨same, index⟩ := (place bound).mp (beq_iff_eq.mp hit)
      exact inside ⟨same, by omega⟩
    rw [if_neg inside, missed, Option.map_none]

theorem step_cell {bytes after : SramBytes} (stepped : access.step settings bytes = some after)
    {cell : HostArray × Nat} (solid : cell.1 ≠ .dummy) :
    after cell.1 cell.2 = (access.written settings cell).getD (bytes cell.1 cell.2) := by
  have kept (array : HostArray) : clearDummy array bytes cell.1 = bytes cell.1 := by
    rw [clearDummy]
    split_ifs
    · exact Function.update_of_ne solid _ _
    · rfl
  rw [SramAccess.step] at stepped
  cases operation : access.operation with
  | read =>
      rw [operation] at stepped
      obtain ⟨⟨value, left⟩, read, rfl⟩ := Option.map_eq_some_iff.mp stepped
      obtain ⟨⟨array, offset⟩, -, pair⟩ := Option.map_eq_some_iff.mp read
      obtain ⟨-, rfl⟩ := Prod.mk.inj pair
      rw [SramAccess.written, operation]
      dsimp only
      rw [kept, Option.getD_none]
  | write data =>
      rw [operation] at stepped
      obtain ⟨⟨array, offset⟩, decoded, rfl⟩ := Option.map_eq_some_iff.mp stepped
      rw [written_eq decoded operation solid]
      dsimp only
      by_cases same : cell.1 = array
      · subst same
        rw [Function.update_self, overwrite_wideBytes, kept]
        by_cases inside : offset ≤ cell.2 ∧ cell.2 < offset + unitSize access.size
        · rw [if_pos inside, if_pos ⟨rfl, inside⟩, Option.getD_some]
        · rw [if_neg inside, if_neg fun both => inside both.2, Option.getD_none]
      · rw [Function.update_of_ne same, kept, if_neg fun both => same both.1, Option.getD_none]

end Writes

section Runs

variable {settings : SramSettings} {bytes : SramBytes}

theorem step_isSome {access : SramAccess} (legal : settings.decode access.addr ≠ none) :
    ∃ after, access.step settings bytes = some after := by
  obtain ⟨cell, decoded⟩ := Option.ne_none_iff_exists'.mp legal
  rw [SramAccess.step]
  cases access.operation with
  | read => simp [starletSramRead, decoded]
  | write data => simp [starletSramWrite, decoded]

theorem runSram_latest (history : List SramAccess)
    (legal : ∀ access ∈ history, settings.decode access.addr ≠ none) :
    ∃ after, runSram settings bytes history = some after ∧
      ∀ cell : HostArray × Nat, cell.1 ≠ .dummy →
        after cell.1 cell.2 = (latest settings cell history).getD (bytes cell.1 cell.2) := by
  induction history with
  | nil => exact ⟨bytes, rfl, fun _ _ => rfl⟩
  | cons access earlier ih =>
      obtain ⟨before, ran, cells⟩ := ih fun other member =>
        legal other (List.mem_cons_of_mem _ member)
      obtain ⟨after, stepped⟩ :=
        @step_isSome settings before access (legal access List.mem_cons_self)
      refine ⟨after, by rw [runSram, ran, Option.bind_some, stepped], fun cell solid => ?_⟩
      rw [step_cell stepped solid, cells cell solid, latest]
      cases access.written settings cell with
      | none => rfl
      | some byte => rfl

theorem read_bytes {size : AccessSize} {addr : ARMword} {history : List SramAccess}
    {after : SramBytes} (onUnit : sizeAlign size addr = addr)
    (legal : settings.decode addr ≠ none)
    (cells : ∀ cell : HostArray × Nat, cell.1 ≠ .dummy →
      after cell.1 cell.2 = (latest settings cell history).getD (bytes cell.1 cell.2)) :
    ∃ left, starletSramRead settings size addr after =
      some (wideValue size
        (fun step => byteSeen settings bytes history (addr + BitVec.ofNat 32 step)) 0, left) := by
  obtain ⟨⟨array, offset⟩, decoded⟩ := Option.ne_none_iff_exists'.mp legal
  refine ⟨clearDummy array after, ?_⟩
  rw [starletSramRead, decoded, Option.map_some]
  dsimp only
  congr 2
  have byte (step : Nat) (inside : step < unitSize size) :
      clearDummy array after array (offset + step) =
        byteSeen settings bytes history (addr + BitVec.ofNat 32 step) := by
    rw [byteSeen, decode_unit onUnit decoded inside]
    by_cases hole : array = .dummy
    · subst hole
      rw [if_pos rfl, clearDummy, if_pos rfl, Function.update_self]
    · rw [if_neg hole, clearDummy, if_neg hole]
      split
      · rename_i same
        exact absurd (Prod.mk.inj (Option.some.inj same)).1 hole
      · rename_i cell _ same
        obtain rfl := Option.some.inj same
        exact cells (array, offset + step) hole
      · rename_i same
        exact absurd same (Option.some_ne_none _)
  cases size with
  | byte => simp only [wideValue, ← byte 0 (by decide), Nat.add_zero]
  | halfword =>
      simp only [wideValue, Nat.zero_add, ← byte 0 (by decide), ← byte 1 (by decide), Nat.add_zero]
  | word =>
      simp only [wideValue, Nat.zero_add, ← byte 0 (by decide), ← byte 1 (by decide),
        ← byte 2 (by decide), ← byte 3 (by decide), Nat.add_zero]

end Runs

section Mirror

theorem decode_toggled {ports : Ports} {data : ARMword}
    (overlay : ports.boot0Flags &&& 0x1000#32 ≠ 0#32)
    (toggled : (data &&& 0x20#32 != 0#32) = !(ports.mirrorFlags &&& 0x20#32 != 0#32))
    (addr : ARMword) :
    starletSramDecode { ports with mirrorFlags := data } false addr =
      starletSramDecode ports false (addr ^^^ 0x10000#32) := by
  have half : (addr ^^^ 0x10000#32) &&& 0x1ffff#32 = (addr &&& 0x1ffff#32) ^^^ 0x10000#32 := by
    apply BitVec.eq_of_toNat_eq
    rw [BitVec.toNat_and, BitVec.toNat_xor, Nat.and_xor_distrib_right, BitVec.toNat_xor,
      BitVec.toNat_and]
    rfl
  have twice : (addr &&& 0x1ffff#32) ^^^ 0x10000#32 ^^^ 0x10000#32 = addr &&& 0x1ffff#32 := by
    rw [BitVec.xor_assoc, BitVec.xor_self, BitVec.xor_zero]
  have disabled : (ports.boot0Flags &&& 0x1000#32 == 0#32) = false :=
    beq_eq_false_iff_ne.mpr overlay
  simp only [starletSramDecode, disabled, toggled, half, Bool.false_and, Bool.not_false,
    Bool.and_true]
  cases ports.mirrorFlags &&& 0x20#32 != 0#32 with
  | false => rfl
  | true => simp only [Bool.not_true, Bool.false_eq_true, if_false, if_true, twice]

end Mirror

/-- The windows show one memory; the mirror flag only moves what they show. -/
theorem sram_is_one_memory (settings : SramSettings) (bytes : SramBytes)
    (history : List SramAccess)
    (legal : ∀ access ∈ history, settings.decode access.addr ≠ none) :
    (∃ after, runSram settings bytes history = some after ∧
      (∀ cell : HostArray × Nat, cell.1 ≠ .dummy →
        after cell.1 cell.2 = (latest settings cell history).getD (bytes cell.1 cell.2)) ∧
      ∀ size addr, isSram addr = true → sizeAlign size addr = addr →
        settings.decode addr ≠ none →
          ∃ left, starletSramRead settings size addr after =
            some (wideValue size
              (fun step => byteSeen settings bytes history (addr + BitVec.ofNat 32 step)) 0,
                left)) ∧
      (∀ size addr array offset, sizeAlign size addr = addr →
        settings.decode addr = some (array, offset) → offset + unitSize size ≤ array.size) ∧
      ∀ (images : Images) (data : ARMword), settings.ports.boot0Flags &&& 0x1000#32 ≠ 0#32 →
        (data &&& 0x20#32 != 0#32) = !(settings.ports.mirrorFlags &&& 0x20#32 != 0#32) →
          ∀ (size : AccessSize) (addr : ARMword) (stored : SramBytes),
            starletSramRead ⟨settings.ports.hollywoodWrite images 0x0d800060#32 data, false⟩ size
                addr stored =
              starletSramRead ⟨settings.ports, false⟩ size (addr ^^^ 0x10000#32) stored ∧
            ∀ value,
              starletSramWrite ⟨settings.ports.hollywoodWrite images 0x0d800060#32 data, false⟩
                  size addr value stored =
                starletSramWrite ⟨settings.ports, false⟩ size (addr ^^^ 0x10000#32) value
                  stored := by
  refine ⟨?_, fun size addr array offset onUnit decoded => decode_bound onUnit decoded, ?_⟩
  · obtain ⟨after, ran, cells⟩ := runSram_latest history legal
    exact ⟨after, ran, cells, fun size addr _ onUnit legal => read_bytes onUnit legal cells⟩
  · intro images data overlay toggled size addr stored
    have moved := decode_toggled overlay toggled addr
    constructor
    · rw [starletSramRead, starletSramRead, SramSettings.decode, SramSettings.decode, ← moved]
      rfl
    · intro value
      rw [starletSramWrite, starletSramWrite, SramSettings.decode, SramSettings.decode, ← moved]
      rfl

def mirroredSettings : SramSettings :=
  { ports := { resetPorts with mirrorFlags := 0x20#32, boot0Flags := 0x1000#32 }
    internal := false }

def wordStore : SramAccess :=
  { operation := .write 0x12345678#32
    size := .word
    addr := 0x0dc00004#32
    window := by decide
    aligned := by decide }

/-- A word stored through one window is read by halfwords through another. -/
theorem sram_is_one_memory_windows :
    ∃ after left, runSram mirroredSettings (fun _ _ => 0#8) [wordStore] = some after ∧
      starletSramRead mirroredSettings .halfword 0xfff00006#32 after =
        some (0x5678#32, left) := by
  have legal : ∀ access ∈ [wordStore], mirroredSettings.decode access.addr ≠ none := by
    rw [List.forall_mem_singleton]
    decide
  obtain ⟨⟨after, ran, -, reads⟩, -⟩ :=
    sram_is_one_memory mirroredSettings (fun _ _ => 0#8) [wordStore] legal
  obtain ⟨left, read⟩ := reads .halfword 0xfff00006#32 (by decide) (by decide) (by decide)
  refine ⟨after, left, ran, read.trans ?_⟩
  congr 2

end SkyeyeStarlet
