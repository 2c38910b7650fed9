import Mathlib.Algebra.Group.Nat.Defs
import SkyeyeStarlet.Library.Runs
import SkyeyeStarlet.MemoryBytes
import SkyeyeStarlet.MmioCore

/-!
When the device code stays inside its arrays: in every run exactly as long as no hash command
asks for more than 1024 blocks, the OTP is read at one of its 32 words, only the first response
register of the SD controller is written, and no access runs over the end of a bank of SRAM.
-/

namespace SkyeyeStarlet

theorem Span.inRange_iff {span : Span} (nonempty : span.count ≠ 0) :
    span.InRange ↔ span.first + span.count ≤ span.array.size := by
  constructor
  · intro inside
    have last := inside (span.count - 1) (by omega)
    omega
  · intro fits offset bound
    omega

theorem Span.inRange_of_le {span : Span} (fits : span.first + span.count ≤ span.array.size) :
    span.InRange := by
  intro offset bound
  omega

def AllInRange (spans : List Span) : Prop :=
  ∀ span ∈ spans, span.InRange

@[simp] theorem allInRange_nil : AllInRange [] := by
  intro span member
  cases member

@[simp] theorem allInRange_cons (span : Span) (rest : List Span) :
    AllInRange (span :: rest) ↔ span.InRange ∧ AllInRange rest := by
  simp [AllInRange]

section Masks

theorem and_mask_toNat (word : ARMword) (bits : Nat) (bound : bits ≤ 32) :
    (word &&& BitVec.ofNat 32 (2 ^ bits - 1)).toNat = word.toNat % 2 ^ bits := by
  have fits : 2 ^ bits - 1 < 2 ^ 32 := by
    have power : 2 ^ bits ≤ 2 ^ 32 := Nat.pow_le_pow_right (by decide) bound
    have positive : 0 < 2 ^ bits := Nat.two_pow_pos bits
    omega
  rw [BitVec.toNat_and, BitVec.toNat_ofNat, Nat.mod_eq_of_lt fits, Nat.and_two_pow_sub_one_eq_mod]

end Masks

section Fixed

variable {images : Images} {ports : Ports} {addr data : ARMword}

theorem ite_ne_of_ne {Value : Type} {condition : Prop} [Decidable condition]
    {first second value : Value} (firstNe : first ≠ value) (secondNe : second ≠ value) :
    (if condition then first else second) ≠ value := by
  split
  · exact firstNe
  · exact secondNe

theorem hollywood_page (device : starletIoDevice addr = .hollywood) :
    addr &&& 0xfc00#32 = 0#32 := by
  by_contra high
  have other : starletIoDevice addr ≠ .hollywood := by
    unfold starletIoDevice
    dsimp only
    rw [if_neg fun here : (_ ∨ _) ∧ addr &&& 0xfc00#32 = 0#32 => high here.2]
    repeat refine ite_ne_of_ne (by decide) ?_
    decide
  exact other device

theorem portState_inRange (device : starletIoDevice addr = .hollywood) :
    (portStateSpan addr).InRange := by
  have low := hollywood_page device
  have small : portOffset addr ≤ 0x3ff := by
    have split : addr &&& 0xffff#32 = (addr &&& 0xfc00#32) ||| (addr &&& 0x3ff#32) := by
      rw [← BitVec.and_or_distrib_left]
      rfl
    rw [portOffset, split, low, BitVec.zero_or]
    have bound : (addr &&& 0x3ff#32).toNat = addr.toNat % 1024 := and_mask_toNat addr 10 (by decide)
    omega
  refine Span.inRange_of_le ?_
  show portOffset addr + 4 ≤ 0x10000
  omega

theorem exiSpans_inRange : AllInRange (exiSpans addr) := by
  simp only [exiSpans]
  split
  · rw [allInRange_cons]
    refine ⟨Span.inRange_of_le ?_, allInRange_nil⟩
    have low : (addr &&& 0x3f#32).toNat = addr.toNat % 64 := and_mask_toNat addr 6 (by decide)
    show ((addr &&& 0x3f#32) >>> 2).toNat + 1 ≤ 16
    rw [BitVec.toNat_ushiftRight, low, Nat.shiftRight_eq_div_pow]
    omega
  · exact allInRange_nil

theorem shaReadSpans_inRange : AllInRange (shaReadSpans addr) := by
  simp only [shaReadSpans]
  split
  · rename_i offsets
    rw [allInRange_cons]
    refine ⟨Span.inRange_of_le ?_, allInRange_nil⟩
    show portOffset addr - 8 + 4 ≤ 20
    omega
  · exact allInRange_nil

theorem element_inRange (chip : Seeprom) : chip.element.InRange := by
  have masked : (chip.address &&& 0x7f#32).toNat = chip.address.toNat % 128 :=
    and_mask_toNat chip.address 7 (by decide)
  refine Span.inRange_of_le ?_
  show (chip.address &&& 0x7f#32).toNat + 1 ≤ 128
  omega

theorem whole_inRange : Seeprom.whole.InRange := by
  exact Span.inRange_of_le (by decide)

theorem phaseSpans_inRange (chip : Seeprom) : AllInRange chip.phaseSpans := by
  unfold Seeprom.phaseSpans
  split
  · dsimp only
    split
    · split
      · simp [whole_inRange]
      · exact allInRange_nil
    · simp [element_inRange]
    · split
      · simp [element_inRange]
      · exact allInRange_nil
    · exact allInRange_nil
  · split
    · simp [whole_inRange]
    · simp [element_inRange]
    · exact allInRange_nil
  · exact allInRange_nil

theorem latchSpans_inRange (file : SeepromBytes) (gpio : Gpio) (word : ARMword) :
    AllInRange (latchSpans file gpio word) := by
  unfold latchSpans
  dsimp only
  split
  · unfold Seeprom.riseSpans
    dsimp only
    split
    · exact phaseSpans_inRange _
    · exact allInRange_nil
  · exact allInRange_nil

theorem hollywoodWriteSpans_inRange (device : starletIoDevice addr = .hollywood) :
    AllInRange (hollywoodWriteSpans images ports addr data) := by
  have old := portState_inRange device
  unfold hollywoodWriteSpans
  split
  · exact (allInRange_cons _ _).mpr ⟨old, latchSpans_inRange _ _ _⟩
  · exact (allInRange_cons _ _).mpr ⟨old, latchSpans_inRange _ _ _⟩
  case h_9 =>
    split
    · have shown : ({ array := .otp, first := 9, count := 1 } : Span).InRange :=
        Span.inRange_of_le (by decide)
      simp [old, shown]
    · simp [old]
  all_goals simp [old]

theorem blocks_le (data : ARMword) : (data &&& 0xfff#32).toNat + 1 ≤ 0x1000 := by
  have masked : (data &&& 0xfff#32).toNat = data.toNat % 4096 := and_mask_toNat data 12 (by decide)
  omega

theorem aesWriteSpans_inRange : AllInRange (aesWriteSpans addr data) := by
  have most := blocks_le data
  unfold aesWriteSpans
  split
  · rw [allInRange_cons, allInRange_cons, allInRange_cons]
    refine ⟨Span.inRange_of_le ?_, Span.inRange_of_le ?_, Span.inRange_of_le ?_, allInRange_nil⟩
    · show 0 + ((data &&& 0xfff#32).toNat + 1) * 0x10 ≤ 0x10000
      omega
    · show 0 + ((data &&& 0xfff#32).toNat + 1) * 0x10 ≤ 0x10000
      omega
    · show ((data &&& 0xfff#32).toNat + 1) * 0x10 - 0x10 + 0x10 ≤ 0x10000
      omega
  · exact allInRange_nil

end Fixed

section Banks

variable {ports : Ports} {access : MmioAccess}

/-- An access to SRAM ends where its bank does, or before: 8 KiB of boot ROM, 64 KiB of
bank A and 32 KiB of bank B; the dummy word takes any. -/
def WithinBank (ports : Ports) (access : MmioAccess) : Prop :=
  match starletSramDecode ports access.internal access.addr with
  | some (.boot0, _) => access.addr.toNat % 0x2000 + access.width.size ≤ 0x2000
  | some (.srama, _) => access.addr.toNat % 0x10000 + access.width.size ≤ 0x10000
  | some (.sramb, _) => access.addr.toNat % 0x8000 + access.width.size ≤ 0x8000
  | _ => True

theorem CopyWidth.size_pos (width : CopyWidth) : width.size ≠ 0 := by
  cases width <;> decide

theorem CopyWidth.size_le (width : CopyWidth) : width.size ≤ 4 := by
  cases width <;> decide

theorem mirrored_low (addr : ARMword) (mirrored : Bool) (bits : Nat) (bound : bits ≤ 16) :
    (if mirrored then (addr &&& 0x1ffff#32) ^^^ 0x10000#32
      else addr &&& 0x1ffff#32).toNat % 2 ^ bits = addr.toNat % 2 ^ bits := by
  have dividesBank : 2 ^ bits ∣ 2 ^ 17 := Nat.pow_dvd_pow 2 (by omega)
  have low : (addr &&& 0x1ffff#32).toNat = addr.toNat % 2 ^ 17 := and_mask_toNat addr 17 (by decide)
  cases mirrored with
  | false =>
      show (addr &&& 0x1ffff#32).toNat % 2 ^ bits = _
      rw [low, Nat.mod_mod_of_dvd _ dividesBank]
  | true =>
      show ((addr &&& 0x1ffff#32) ^^^ 0x10000#32).toNat % 2 ^ bits = _
      have high : (0x10000#32).toNat % 2 ^ bits = 0 :=
        Nat.mod_eq_zero_of_dvd (Nat.pow_dvd_pow 2 bound)
      rw [BitVec.toNat_xor, low, Nat.xor_mod_two_pow, high, Nat.xor_zero,
        Nat.mod_mod_of_dvd _ dividesBank]

theorem starletSramDecode_cases (ports : Ports) (internal : Bool) (addr : ARMword) :
    starletSramDecode ports internal addr = none ∨
      starletSramDecode ports internal addr = some (.boot0, addr.toNat % 0x2000) ∨
      starletSramDecode ports internal addr = some (.dummy, 0) ∨
      starletSramDecode ports internal addr = some (.sramb, addr.toNat % 0x8000) ∨
      starletSramDecode ports internal addr = some (.srama, addr.toNat % 0x10000) := by
  have boot0 : (addr &&& 0x1fff#32).toNat = addr.toNat % 0x2000 :=
    and_mask_toNat addr 13 (by decide)
  have half (word : ARMword) : (word &&& 0x7fff#32).toNat = word.toNat % 2 ^ 15 :=
    and_mask_toNat word 15 (by decide)
  have full (word : ARMword) : (word &&& 0xffff#32).toNat = word.toNat % 2 ^ 16 :=
    and_mask_toNat word 16 (by decide)
  simp only [starletSramDecode, boot0, half, full, mirrored_low addr _ 15 (by decide),
    mirrored_low addr _ 16 (by decide)]
  split_ifs
  all_goals simp

theorem starletSramDecode_place (ports : Ports) (internal : Bool) (word : BitVec 30)
    (place : BitVec 2) :
    starletSramDecode ports internal (byteAddress word place) =
      (starletSramDecode ports internal (byteAddress word 0#2)).map fun (array, offset) =>
        (array, if array = .dummy then offset else offset + place.toNat) := by
  have placeBound := place.isLt
  have low : byteAddress word place < 0xffff0000#32 ↔ byteAddress word 0#2 < 0xffff0000#32 := by
    simp only [BitVec.lt_def, toNat_byteAddress, BitVec.toNat_ofNat]
    omega
  have high : 0xffff0000#32 ≤ byteAddress word place ↔ 0xffff0000#32 ≤ byteAddress word 0#2 := by
    simp only [BitVec.le_def, toNat_byteAddress, BitVec.toNat_ofNat]
    omega
  have bits (mirrored : Bool) (mask : ARMword) (above : ∀ bit < 2, mask.getLsbD bit = false) :
      (if mirrored then (byteAddress word place &&& 0x1ffff#32) ^^^ 0x10000#32
        else byteAddress word place &&& 0x1ffff#32) &&& mask =
      (if mirrored then (byteAddress word 0#2 &&& 0x1ffff#32) ^^^ 0x10000#32
        else byteAddress word 0#2 &&& 0x1ffff#32) &&& mask := by
    apply BitVec.eq_of_getLsbD_eq
    intro bit _
    by_cases small : bit < 2
    · simp only [BitVec.getLsbD_and, above bit small, Bool.and_false]
    · cases mirrored <;>
        simp [getLsbD_byteAddress, small]
  have boot0 (addr : ARMword) : (addr &&& 0x1fff#32).toNat = addr.toNat % 0x2000 :=
    and_mask_toNat addr 13 (by decide)
  have half (word : ARMword) : (word &&& 0x7fff#32).toNat = word.toNat % 2 ^ 15 :=
    and_mask_toNat word 15 (by decide)
  have full (word : ARMword) : (word &&& 0xffff#32).toNat = word.toNat % 2 ^ 16 :=
    and_mask_toNat word 16 (by decide)
  simp only [starletSramDecode, low, high, boot0, half, full, mirrored_low _ _ 15 (by decide),
    mirrored_low _ _ 16 (by decide), bits _ 0x10000#32 (by decide), bits _ 0x8000#32 (by decide),
    toNat_byteAddress]
  split_ifs <;> simp
  all_goals omega

theorem sramSpans_inRange : AllInRange (sramSpans ports access) ↔ WithinBank ports access := by
  have nonempty := access.width.size_pos
  have small := access.width.size_le
  have one {array : HostArray} {first : Nat} :
      AllInRange [{ array, first, count := access.width.size }] ↔
        first + access.width.size ≤ array.size := by
    rw [allInRange_cons, Span.inRange_iff nonempty]
    simp
  unfold sramSpans WithinBank
  rcases starletSramDecode_cases ports access.internal access.addr with
    exits | boot0 | dummy | sramb | srama
  · simp [exits]
  · rw [boot0]
    exact one
  · rw [dummy]
    simp only [one, HostArray.size, iff_true]
    omega
  · rw [sramb]
    exact one
  · rw [srama]
    exact one

end Banks

section Runs

variable {images : Images} {ports : Ports} {access : MmioAccess} {addr data : ARMword}

theorem shaWriteSpans_inRange :
    AllInRange (shaWriteSpans addr data) ↔ (starts addr data → data &&& 0xfff#32 < 0x400#32) := by
  unfold shaWriteSpans
  split
  · rename_i started
    rw [allInRange_cons, Span.inRange_iff (by dsimp only; omega)]
    simp only [started, true_implies, allInRange_nil, and_true, BitVec.lt_def, HostArray.size]
    show 0 + ((data &&& 0xfff#32).toNat + 1) * 0x40 ≤ 0x10000 ↔ (data &&& 0xfff#32).toNat < 0x400
    omega
  · rename_i idle
    simp [idle]

theorem sdhcWriteSpans_inRange :
    AllInRange (sdhcWriteSpans addr) ↔ portOffset addr ∉ [0x14, 0x18, 0x1c] := by
  simp only [sdhcWriteSpans, List.mem_cons, List.not_mem_nil, or_false]
  split
  · rename_i response
    rw [allInRange_cons, Span.inRange_iff (by dsimp only; omega)]
    simp only [allInRange_nil, and_true, HostArray.size]
    omega
  · rename_i other
    simp only [allInRange_nil, true_iff]
    omega

theorem hollywoodReadSpans_inRange (device : starletIoDevice addr = .hollywood) :
    AllInRange (hollywoodReadSpans ports addr) ↔
      (portOffset addr = 0x1f0 → ports.otp = true ∧ ports.otpIndex < 32#32) := by
  have old := portState_inRange device
  unfold hollywoodReadSpans
  split
  · rename_i data
    have word : (otpSpan ports).InRange ↔ ports.otp = true ∧ ports.otpIndex < 32#32 := by
      rw [Span.inRange_iff (by decide : (1 : Nat) ≠ 0), BitVec.lt_def]
      cases allocated : ports.otp with
      | true =>
          simp only [otpSpan, allocated, if_true, HostArray.size, true_and]
          show ports.otpIndex.toNat + 1 ≤ 32 ↔ ports.otpIndex.toNat < 32
          omega
      | false => simp [otpSpan, allocated, HostArray.size]
    simp [old, word, data]
  · rename_i other
    simp [old, other]

/-- The accesses on which the code stays inside its arrays. -/
def MmioSafe (ports : Ports) (access : MmioAccess) : Prop :=
  ports.exited = false →
    match starletIoDevice access.addr, access.operation with
    | .hollywood, .read =>
        portOffset access.addr = 0x1f0 → ports.otp = true ∧ ports.otpIndex < 32#32
    | .sha, .write data => starts access.addr data → data &&& 0xfff#32 < 0x400#32
    | .sdhc, .write _ => portOffset access.addr ∉ [0x14, 0x18, 0x1c]
    | .sram, _ => WithinBank ports access
    | _, _ => True

theorem ahb_device (page : addr >>> 16 = 0x0d8b#32) : starletIoDevice addr = .dram := by
  have high : addr >>> 20 = 0x0d8#32 := by
    rw [show (20 : Nat) = 16 + 4 from rfl, BitVec.shiftRight_add, page]
    rfl
  simp [starletIoDevice, page, high]

theorem mmioSpans_inRange : AllInRange (mmioSpans images ports access) ↔ MmioSafe ports access := by
  unfold mmioSpans MmioSafe
  cases ports.exited with
  | true => simp
  | false =>
      simp only [Bool.false_eq_true, if_false, true_implies]
      cases operation : access.operation with
      | read =>
          simp only [mmioReadSpans]
          split
          · rename_i halfword
            simp [ahb_device halfword.2]
          · unfold readWordSpans
            cases device : starletIoDevice access.addr
            case hollywood => exact hollywoodReadSpans_inRange device
            case exi => simp [exiSpans_inRange]
            case sha => simp [shaReadSpans_inRange]
            case sram => exact sramSpans_inRange
            all_goals simp
      | write data =>
          simp only [mmioWriteSpans]
          split
          · rename_i halfword
            simp [ahb_device halfword.2]
          · unfold writeWordSpans
            cases device : starletIoDevice access.addr
            case hollywood => simp [hollywoodWriteSpans_inRange device]
            case exi => simp [exiSpans_inRange]
            case aes => simp [aesWriteSpans_inRange]
            case sha => exact shaWriteSpans_inRange
            case sdhc => exact sdhcWriteSpans_inRange
            case sram => exact sramSpans_inRange
            all_goals simp

/-- In every run all elements that the accesses touch exist exactly if every access is safe. -/
theorem mmio_indices_in_range (images : Images) (ports : Ports) (accesses : List MmioAccess) :
    Runs.AllSteps (mmioStep images)
        (fun ports access => ∀ span ∈ mmioSpans images ports access, span.InRange) ports accesses ↔
      Runs.AllSteps (mmioStep images) MmioSafe ports accesses := by
  constructor
  · exact Runs.allSteps_mono (mmioStep images)
      (fun _ _ inside => mmioSpans_inRange.mp inside) ports accesses
  · exact Runs.allSteps_mono (mmioStep images)
      (fun _ _ safe => mmioSpans_inRange.mpr safe) ports accesses

def longHash : MmioAccess :=
  { operation := .write 0x80000400#32, width := .word, addr := 0x0d030000#32, internal := false }

theorem longHash_overruns :
    ¬Runs.AllSteps (mmioStep { otpFile := true, seepromFile := fun _ => 0#8 })
      (fun ports access => ∀ span ∈ mmioSpans { otpFile := true, seepromFile := fun _ => 0#8 } ports
        access, span.InRange) resetPorts [longHash] := by
  intro inside
  have last := inside.1 { array := .shaBuf, first := 0, count := 0x10040 } (by decide) 0x10000
    (by decide)
  exact absurd last (by decide)

end Runs

end SkyeyeStarlet
