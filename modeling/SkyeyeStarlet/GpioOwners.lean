import SkyeyeStarlet.Library.Unwinding
import SkyeyeStarlet.MmioCore
import SkyeyeStarlet.Seeprom

/-!
The GPIO registers as the two processors see them.  The PPC writes at `0xc0` to `0xc8` and the
ARM at `0xe0` to `0xe8`; the owner register says which line belongs to which of them.
-/

namespace SkyeyeStarlet

section Registers

inductive GpioSide where
  | ppc
  | arm
  deriving DecidableEq, Repr

inductive GpioRegister where
  | latch
  | dir
  | port
  deriving DecidableEq, Repr

def GpioSide.other : GpioSide → GpioSide
  | .ppc => .arm
  | .arm => .ppc

def GpioSide.owned (side : GpioSide) (owner : ARMword) : ARMword :=
  match side with
  | .ppc => owner
  | .arm => owner ^^^ 0xffffff#32

def gpioTarget (access : MmioAccess) : Option (GpioSide × GpioRegister × ARMword) :=
  match access.operation, starletIoDevice access.addr with
  | .write data, .hollywood =>
      match portOffset access.addr with
      | 0x0c0 => some (.ppc, .latch, data)
      | 0x0c4 => some (.ppc, .dir, data)
      | 0x0c8 => some (.ppc, .port, data)
      | 0x0e0 => some (.arm, .latch, data)
      | 0x0e4 => some (.arm, .dir, data)
      | 0x0e8 => some (.arm, .port, data)
      | _ => none
  | _, _ => none

def writtenBy (side : GpioSide) (access : MmioAccess) : Bool :=
  (gpioTarget access).any fun target => target.1 = side

def mmioRunStep (images : Images) (ports : Ports) (access : MmioAccess) : Option Ports :=
  let after := mmioStep images ports access
  if after.exited then none else some after

def ownLines (side : GpioSide) (ports : Ports) : ARMword × ARMword :=
  (ports.gpio.latch &&& side.owned ports.gpio1Owner, ports.gpio.dir &&& side.owned ports.gpio1Owner)

def mergeLines (side : GpioSide) (owner old data : ARMword) : ARMword :=
  (data &&& side.owned owner) ||| (old &&& side.other.owned owner)

def writeRegister (images : Images) (ports : Ports) (side : GpioSide) (data : ARMword) :
    GpioRegister → Ports
  | .latch => ports.latch images (mergeLines side ports.gpio1Owner ports.gpio.latch data)
  | .dir =>
      { ports with
        gpio :=
          { ports.gpio with dir := mergeLines side ports.gpio1Owner ports.gpio.dir data } }
  | .port => ports

variable {images : Images} {ports : Ports} {access : MmioAccess}

theorem hollywood_not_dram {addr : ARMword} (device : starletIoDevice addr = .hollywood) :
    addr >>> 16 ≠ 0x0d8b#32 := by
  intro other
  have page : ¬(addr >>> 16 = 0x0d00#32 ∨ addr >>> 16 = 0x0d80#32) := by
    rw [other]
    decide
  unfold starletIoDevice at device
  dsimp only at device
  split at device
  · cases device
  · rw [if_neg fun both => page both.1, if_neg fun both => page both.1,
      if_neg fun both => page both.1, other] at device
    exact absurd device (by decide)

theorem mmioStep_target {side : GpioSide} {register : GpioRegister} {data : ARMword}
    (running : ports.exited = false)
    (target : gpioTarget access = some (side, register, data)) :
    mmioStep images ports access = writeRegister images ports side data register := by
  unfold gpioTarget at target
  split at target
  · rename_i written operation device
    have routed : (access.width == CopyWidth.halfword && access.addr >>> 16 == 0x0d8b#32) =
        false := by
      rw [beq_false_of_ne (hollywood_not_dram device), Bool.and_false]
    unfold mmioStep
    rw [running, routed, Bool.or_false, if_neg Bool.false_ne_true]
    simp only [operation, device]
    unfold Ports.hollywoodWrite
    split at target
    case h_7 => cases target
    all_goals
      rename_i offset
      cases target
      simp only [offset]
      rfl
  · cases target

theorem mmioRunStep_target {side : GpioSide} {register : GpioRegister} {data : ARMword}
    (target : gpioTarget access = some (side, register, data)) :
    mmioRunStep images ports access =
      if ports.exited ∨ (writeRegister images ports side data register).exited then none
      else some (writeRegister images ports side data register) := by
  unfold mmioRunStep
  cases running : ports.exited with
  | true =>
      have stays : mmioStep images ports access = ports := by
        unfold mmioStep
        rw [running, Bool.true_or, if_pos rfl]
      dsimp only
      rw [stays, if_pos running, if_pos (Or.inl rfl)]
  | false =>
      dsimp only
      rw [mmioStep_target running target]
      simp only [Bool.false_eq_true, false_or]

end Registers

section Lines

variable {owner : ARMword}

theorem owned_disjoint (small : owner.toNat < 2 ^ 24) (side : GpioSide) :
    side.owned owner &&& side.other.owned owner = 0#32 := by
  have lines : owner &&& (owner ^^^ 0xffffff#32) = 0#32 := by
    apply BitVec.eq_of_getLsbD_eq
    intro index _
    have mask : (0xffffff#32).getLsbD index = decide (index < 24) := by
      show Nat.testBit (2 ^ 24 - 1) index = _
      exact Nat.testBit_two_pow_sub_one 24 index
    by_cases low : index < 24
    · simp only [BitVec.getLsbD_and, BitVec.getLsbD_xor, mask, low, decide_true,
        BitVec.getLsbD_zero]
      cases owner.getLsbD index <;> rfl
    · have high : owner.getLsbD index = false :=
        Nat.testBit_lt_two_pow
          (Nat.lt_of_lt_of_le small (Nat.pow_le_pow_right (by decide) (by omega)))
      rw [BitVec.getLsbD_and, high, Bool.false_and, BitVec.getLsbD_zero]
  cases side with
  | ppc => exact lines
  | arm => rw [BitVec.and_comm]; exact lines

theorem mergeLines_own (small : owner.toNat < 2 ^ 24) (side : GpioSide) (old data : ARMword) :
    mergeLines side owner old data &&& side.owned owner = data &&& side.owned owner := by
  unfold mergeLines
  rw [BitVec.and_or_distrib_right, BitVec.and_assoc, BitVec.and_self, BitVec.and_assoc,
    BitVec.and_comm (side.other.owned owner), owned_disjoint small side, BitVec.and_zero,
    BitVec.or_zero]

theorem mergeLines_other (small : owner.toNat < 2 ^ 24) (side : GpioSide) (old data : ARMword) :
    mergeLines side.other owner old data &&& side.owned owner = old &&& side.owned owner := by
  have twice : side.other.other = side := by cases side <;> rfl
  unfold mergeLines
  rw [twice, BitVec.and_or_distrib_right, BitVec.and_assoc, BitVec.and_assoc, BitVec.and_self,
    BitVec.and_comm (side.other.owned owner), owned_disjoint small side, BitVec.and_zero,
    BitVec.zero_or]

end Lines

section Writes

variable {images : Images} {ports after : Ports} {access : MmioAccess} {side : GpioSide}

theorem latchWrite_lines {file : SeepromBytes} {gpio after : Gpio} {word : ARMword}
    (written : starletGpio1LatchWrite file gpio word = some after) :
    after.latch = word ∧ after.dir = gpio.dir := by
  have driven (access : Gpio) (chip : gpioSeeprom file gpio word = some access) :
      access.dir = gpio.dir := by
    unfold gpioSeeprom at chip
    dsimp only at chip
    split at chip
    · cases chip
      rfl
    · split at chip
      · cases chip
      · split at chip <;> cases chip <;> rfl
  unfold starletGpio1LatchWrite at written
  dsimp only at written
  split at written
  · obtain ⟨access, chip, rfl⟩ := Option.map_eq_some_iff.mp written
    exact ⟨rfl, driven access chip⟩
  · cases written
    exact ⟨rfl, rfl⟩

theorem writtenBy_target (own : writtenBy side access = true) :
    ∃ register data, gpioTarget access = some (side, register, data) := by
  unfold writtenBy at own
  cases target : gpioTarget access with
  | none => simp [target] at own
  | some found =>
      obtain ⟨other, register, data⟩ := found
      simp only [target, Option.any_some, decide_eq_true_eq] at own
      exact ⟨register, data, by rw [own]⟩

theorem notWrittenBy_target (known : (gpioTarget access).isSome = true)
    (foreign : writtenBy side access = false) :
    ∃ register data, gpioTarget access = some (side.other, register, data) := by
  unfold writtenBy at foreign
  obtain ⟨⟨other, register, data⟩, target⟩ := Option.isSome_iff_exists.mp known
  simp only [target, Option.any_some, decide_eq_false_iff_not] at foreign
  refine ⟨register, data, ?_⟩
  rw [target]
  cases other <;> cases side <;> first | rfl | exact absurd rfl foreign

theorem writeRegister_lines {register : GpioRegister} {data : ARMword}
    (written : writeRegister images ports side data register = after)
    (runs : after.exited = false) :
    after.gpio1Owner = ports.gpio1Owner ∧
      after.gpio.latch =
        (if register = .latch then mergeLines side ports.gpio1Owner ports.gpio.latch data
        else ports.gpio.latch) ∧
      after.gpio.dir =
        (if register = .dir then mergeLines side ports.gpio1Owner ports.gpio.dir data
        else ports.gpio.dir) := by
  subst written
  cases register with
  | dir => exact ⟨rfl, rfl, rfl⟩
  | port => exact ⟨rfl, rfl, rfl⟩
  | latch =>
      unfold writeRegister Ports.latch at runs ⊢
      dsimp only at runs ⊢
      cases written : starletGpio1LatchWrite images.seepromFile ports.gpio
          (mergeLines side ports.gpio1Owner ports.gpio.latch data) with
      | none =>
          rw [written] at runs
          cases runs
      | some gpio =>
          obtain ⟨latch, dir⟩ := latchWrite_lines written
          exact ⟨rfl, latch, dir⟩

theorem mmioRunStep_some {register : GpioRegister} {data : ARMword}
    (target : gpioTarget access = some (side, register, data))
    (stepped : mmioRunStep images ports access = some after) :
    ports.exited = false ∧ after.exited = false ∧
      writeRegister images ports side data register = after := by
  rw [mmioRunStep_target target] at stepped
  split at stepped
  · cases stepped
  · rename_i neither
    cases stepped
    rw [not_or, Bool.not_eq_true, Bool.not_eq_true] at neither
    exact ⟨neither.1, neither.2, rfl⟩

structure SameLines (side : GpioSide) (owner : ARMword) (first second : Ports) : Prop where
  left : first.gpio1Owner = owner
  right : second.gpio1Owner = owner
  lines : ownLines side first = ownLines side second

theorem SameLines.symm {owner : ARMword} {first second : Ports}
    (same : SameLines side owner first second) : SameLines side owner second first := by
  exact ⟨same.right, same.left, same.lines.symm⟩

theorem ownLines_foreign {register : GpioRegister} {data : ARMword}
    (small : ports.gpio1Owner.toNat < 2 ^ 24)
    (written : writeRegister images ports side.other data register = after)
    (runs : after.exited = false) :
    ownLines side after = ownLines side ports := by
  obtain ⟨owner, latch, dir⟩ := writeRegister_lines written runs
  unfold ownLines
  rw [owner, latch, dir]
  cases register with
  | latch => simp [mergeLines_other small]
  | dir => simp [mergeLines_other small]
  | port => simp

theorem ownLines_own {register : GpioRegister} {data : ARMword}
    (small : ports.gpio1Owner.toNat < 2 ^ 24)
    (written : writeRegister images ports side data register = after)
    (runs : after.exited = false) :
    ownLines side after =
      (if register = .latch then data &&& side.owned ports.gpio1Owner else (ownLines side ports).1,
        if register = .dir then data &&& side.owned ports.gpio1Owner
        else (ownLines side ports).2) := by
  obtain ⟨owner, latch, dir⟩ := writeRegister_lines written runs
  unfold ownLines
  rw [owner, latch, dir]
  cases register with
  | latch => simp [mergeLines_own small]
  | dir => simp [mergeLines_own small]
  | port => simp

end Writes

section Isolation

variable {images : Images} {side : GpioSide} {owner : ARMword}

theorem lines_respected (images : Images) (side : GpioSide) (small : owner.toNat < 2 ^ 24) :
    Unwinding.Respects (mmioRunStep images) (writtenBy side) (ownLines side)
      (fun access => (gpioTarget access).isSome = true) (SameLines side owner) := by
  refine ⟨fun _ _ => SameLines.symm, fun _ _ same => same.lines, ?_, ?_⟩
  · intro first second access next known foreign same stepped
    obtain ⟨register, data, target⟩ := notWrittenBy_target known foreign
    obtain ⟨_, runs, written⟩ := mmioRunStep_some target stepped
    have bounded : first.gpio1Owner.toNat < 2 ^ 24 := same.left ▸ small
    have kept := (writeRegister_lines written runs).1
    exact ⟨kept.trans same.left, same.right,
      (ownLines_foreign bounded written runs).trans same.lines⟩
  · intro first second access next next' _ own same stepped stepped'
    obtain ⟨register, data, target⟩ := writtenBy_target own
    obtain ⟨_, runs, written⟩ := mmioRunStep_some target stepped
    obtain ⟨_, runs', written'⟩ := mmioRunStep_some target stepped'
    have kept := (writeRegister_lines written runs).1
    have kept' := (writeRegister_lines written' runs').1
    refine ⟨kept.trans same.left, kept'.trans same.right, ?_⟩
    rw [ownLines_own (same.left ▸ small) written runs,
      ownLines_own (same.right ▸ small) written' runs', same.lines, same.left, same.right]

theorem masked_lines {lines mask first second : ARMword} (covers : lines &&& mask = lines)
    (same : first &&& mask = second &&& mask) : first &&& lines = second &&& lines := by
  rw [← covers, BitVec.and_comm lines, ← BitVec.and_assoc, ← BitVec.and_assoc, same]

theorem line_of_masked {lines first second : ARMword} (same : first &&& lines = second &&& lines)
    {index : Nat} (set : lines.getLsbD index = true) :
    first.getLsbD index = second.getLsbD index := by
  have bit := congrArg (BitVec.getLsbD · index) same
  simpa only [BitVec.getLsbD_and, set, Bool.and_true] using bit

theorem xor_masked (first second mask : ARMword) :
    (first ^^^ second) &&& mask = (first &&& mask) ^^^ (second &&& mask) := by
  apply BitVec.eq_of_getLsbD_eq
  intro index _
  simp only [BitVec.getLsbD_and, BitVec.getLsbD_xor, Bool.and_xor_distrib_right]

theorem latchWrite_chip (file : SeepromBytes) {gpio gpio' : Gpio} {word word' : ARMword}
    (latch : gpio.latch &&& 0x3c00#32 = gpio'.latch &&& 0x3c00#32)
    (dir : gpio.dir &&& 0x3c00#32 = gpio'.dir &&& 0x3c00#32)
    (written : word &&& 0x3c00#32 = word' &&& 0x3c00#32) (chip : gpio.seeprom = gpio'.seeprom) :
    (starletGpio1LatchWrite file gpio word).map (·.seeprom) =
      (starletGpio1LatchWrite file gpio' word').map (·.seeprom) := by
  have select : selectLine word = selectLine word' := line_of_masked written (by decide)
  have clock : clockLine word = clockLine word' := line_of_masked written (by decide)
  have data : dataLine word = dataLine word' := line_of_masked written (by decide)
  have output : gpio.dir.getLsbD 13 = gpio'.dir.getLsbD 13 := line_of_masked dir (by decide)
  have changes : (gpio.latch ^^^ word) &&& 0x1c00#32 = (gpio'.latch ^^^ word') &&& 0x1c00#32 := by
    refine masked_lines (by decide : 0x1c00#32 &&& 0x3c00#32 = 0x1c00#32) ?_
    rw [xor_masked, xor_masked, latch, written]
  have access : (gpioSeeprom file gpio word).map (·.seeprom) =
      (gpioSeeprom file gpio' word').map (·.seeprom) := by
    unfold gpioSeeprom
    dsimp only
    rw [select, clock, data, output, chip]
    split
    · rfl
    · split
      · rfl
      · split <;> rfl
  unfold starletGpio1LatchWrite
  dsimp only
  rw [changes]
  split
  · rw [Option.map_map, Option.map_map]
    exact access
  · exact congrArg some chip

/-- The lines and the chip of a side that owns all of its lines, in two runs. -/
structure SameChip (side : GpioSide) (owner : ARMword) (first second : Ports) : Prop
    extends SameLines side owner first second where
  leftRuns : first.exited = false
  rightRuns : second.exited = false
  chip : first.gpio.seeprom = second.gpio.seeprom

theorem SameChip.symm {first second : Ports} (same : SameChip side owner first second) :
    SameChip side owner second first := by
  exact ⟨same.toSameLines.symm, same.rightRuns, same.leftRuns, same.chip.symm⟩

def ownView (side : GpioSide) (ports : Ports) : (ARMword × ARMword) × Seeprom :=
  (ownLines side ports, ports.gpio.seeprom)

theorem writeRegister_foreign (images : Images) {ports : Ports} (register : GpioRegister)
    (data : ARMword) (small : ports.gpio1Owner.toNat < 2 ^ 24)
    (covers : 0x3c00#32 &&& side.owned ports.gpio1Owner = 0x3c00#32)
    (running : ports.exited = false) :
    (writeRegister images ports side.other data register).exited = false ∧
      (writeRegister images ports side.other data register).gpio.seeprom = ports.gpio.seeprom := by
  cases register with
  | dir => exact ⟨running, rfl⟩
  | port => exact ⟨running, rfl⟩
  | latch =>
      have kept := masked_lines covers
        (mergeLines_other small side ports.gpio.latch data)
      have changes : (ports.gpio.latch ^^^
          mergeLines side.other ports.gpio1Owner ports.gpio.latch data) &&& 0x1c00#32 = 0#32 := by
        have chipLines := masked_lines (by decide : 0x1c00#32 &&& 0x3c00#32 = 0x1c00#32) kept
        rw [xor_masked, chipLines, BitVec.xor_self]
      unfold writeRegister Ports.latch starletGpio1LatchWrite
      dsimp only
      rw [if_neg (not_not.mpr changes), Option.map_some]
      exact ⟨running, rfl⟩

theorem writeRegister_own (images : Images) {first second : Ports} (register : GpioRegister)
    (data : ARMword) (small : owner.toNat < 2 ^ 24)
    (covers : 0x3c00#32 &&& side.owned owner = 0x3c00#32)
    (same : SameChip side owner first second) :
    (writeRegister images first side data register).exited =
        (writeRegister images second side data register).exited ∧
      ((writeRegister images first side data register).exited = false →
        (writeRegister images first side data register).gpio.seeprom =
          (writeRegister images second side data register).gpio.seeprom) := by
  have running := same.leftRuns.trans same.rightRuns.symm
  cases register with
  | dir => exact ⟨running, fun _ => same.chip⟩
  | port => exact ⟨running, fun _ => same.chip⟩
  | latch =>
      have lines := same.lines
      simp only [ownLines, same.left, same.right, Prod.mk.injEq] at lines
      have words : mergeLines side owner first.gpio.latch data &&& 0x3c00#32 =
          mergeLines side owner second.gpio.latch data &&& 0x3c00#32 := by
        refine masked_lines covers ?_
        rw [mergeLines_own small, mergeLines_own small]
      have chips := latchWrite_chip images.seepromFile (masked_lines covers lines.1)
        (masked_lines covers lines.2) words same.chip
      unfold writeRegister Ports.latch
      dsimp only
      rw [same.left, same.right]
      cases written : starletGpio1LatchWrite images.seepromFile first.gpio
          (mergeLines side owner first.gpio.latch data) with
      | none =>
          cases written' : starletGpio1LatchWrite images.seepromFile second.gpio
              (mergeLines side owner second.gpio.latch data) with
          | none => exact ⟨rfl, fun stopped => Bool.noConfusion stopped⟩
          | some other =>
              rw [written, written'] at chips
              cases chips
      | some gpio =>
          cases written' : starletGpio1LatchWrite images.seepromFile second.gpio
              (mergeLines side owner second.gpio.latch data) with
          | none =>
              rw [written, written'] at chips
              cases chips
          | some other =>
              rw [written, written'] at chips
              exact ⟨running, fun _ => Option.some.inj chips⟩

theorem chip_respected (small : owner.toNat < 2 ^ 24)
    (covers : 0x3c00#32 &&& side.owned owner = 0x3c00#32) :
    Unwinding.Respects (mmioRunStep images) (writtenBy side) (ownView side)
      (fun access => (gpioTarget access).isSome = true) (SameChip side owner) := by
  have lines := lines_respected images side small
  refine ⟨fun _ _ => SameChip.symm, fun _ _ same => ?_, ?_, ?_⟩
  · exact Prod.ext same.lines same.chip
  · intro first second access next known foreign same stepped
    obtain ⟨register, data, target⟩ := notWrittenBy_target known foreign
    obtain ⟨running, runs, rfl⟩ := mmioRunStep_some target stepped
    have kept := (writeRegister_foreign images register data (same.left ▸ small)
      (same.left ▸ covers) running).2
    exact ⟨lines.other _ _ _ _ known foreign same.toSameLines stepped, runs, same.rightRuns,
      kept.trans same.chip⟩
  · intro first second access next next' known own same stepped stepped'
    obtain ⟨register, data, target⟩ := writtenBy_target own
    obtain ⟨_, runs, rfl⟩ := mmioRunStep_some target stepped
    obtain ⟨_, runs', rfl⟩ := mmioRunStep_some target stepped'
    exact ⟨lines.own _ _ _ _ _ known own same.toSameLines stepped stepped', runs, runs',
      (writeRegister_own images register data small covers same).2 runs⟩

theorem chip_stops_alike (small : owner.toNat < 2 ^ 24)
    (covers : 0x3c00#32 &&& side.owned owner = 0x3c00#32) :
    Unwinding.StopsAlike (mmioRunStep images) (writtenBy side)
      (fun access => (gpioTarget access).isSome = true) (SameChip side owner) := by
  constructor
  · intro first second access known foreign same
    obtain ⟨register, data, target⟩ := notWrittenBy_target known foreign
    have runs := (writeRegister_foreign images register data (same.left ▸ small)
      (same.left ▸ covers) same.leftRuns).1
    rw [mmioRunStep_target target, same.leftRuns, runs]
    simp
  · intro first second access _ own same
    obtain ⟨register, data, target⟩ := writtenBy_target own
    have alike := (writeRegister_own images register data small covers same).1
    rw [mmioRunStep_target target, mmioRunStep_target target, same.leftRuns, same.rightRuns, alike]
    simp

theorem observed_exited {ports : Ports} (stopped : ports.exited = true)
    (accesses : List MmioAccess) :
    Unwinding.observed (mmioRunStep images) (writtenBy side) (ownView side) ports accesses =
      [] := by
  cases accesses with
  | nil => rfl
  | cons access rest =>
      refine Unwinding.observed_stop ?_
      have stays : mmioStep images ports access = ports := by
        unfold mmioStep
        rw [stopped, Bool.true_or, if_pos rfl]
      unfold mmioRunStep
      rw [stays]
      exact if_pos stopped

/-- Two runs of GPIO writes that agree on the writes of one side: after each of them the
side's own latch and direction bits are equal, and the EEPROM is the same too if all of its
lines belong to that side. -/
theorem gpio_sides_isolated (images : Images) (ports : Ports) (side : GpioSide)
    (small : ports.gpio1Owner.toNat < 2 ^ 24) (first second : List MmioAccess)
    (writes : ∀ access ∈ first, (gpioTarget access).isSome = true)
    (writes' : ∀ access ∈ second, (gpioTarget access).isSome = true)
    (same : first.filter (writtenBy side) = second.filter (writtenBy side)) :
    (∀ (index : Nat) (lines lines' : ARMword × ARMword),
      (Unwinding.observed (mmioRunStep images) (writtenBy side) (ownLines side) ports
        first)[index]? = some lines →
      (Unwinding.observed (mmioRunStep images) (writtenBy side) (ownLines side) ports
        second)[index]? = some lines' →
      lines = lines') ∧
    (0x3c00#32 &&& side.owned ports.gpio1Owner = 0x3c00#32 →
      Unwinding.observed (mmioRunStep images) (writtenBy side) (ownView side) ports first =
        Unwinding.observed (mmioRunStep images) (writtenBy side) (ownView side) ports second) := by
  have start : SameLines side ports.gpio1Owner ports ports := ⟨rfl, rfl, rfl⟩
  refine ⟨fun index lines lines' seen seen' => ?_, fun covers => ?_⟩
  · exact Unwinding.observed_agree (lines_respected images side small) ports ports first second
      start writes
      writes' same index lines lines' seen seen'
  · cases running : ports.exited with
    | true => rw [observed_exited running, observed_exited running]
    | false =>
        exact Unwinding.observed_eq (chip_respected small covers) (chip_stops_alike small covers)
          ports first second ⟨start, running, running, rfl⟩ writes writes' same

/-- The PPC owns the lines of the EEPROM, and the ARM writes between its writes. -/
theorem gpio_sides_isolated_ppc :
    let images : Images := { otpFile := false, seepromFile := fun _ => 0#8 }
    let ports : Ports := { resetPorts with gpio1Owner := 0x3c00#32 }
    let write (addr data : ARMword) : MmioAccess :=
      { operation := .write data, width := .word, addr, internal := false }
    let first := [write 0x0d8000c0#32 0x0400#32, write 0x0d8000c0#32 0x1c00#32]
    let second := [write 0x0d8000c0#32 0x0400#32, write 0x0d8000e0#32 0xffff#32,
      write 0x0d8000c0#32 0x1c00#32]
    Unwinding.observed (mmioRunStep images) (writtenBy .ppc) (ownView .ppc) ports first =
      Unwinding.observed (mmioRunStep images) (writtenBy .ppc) (ownView .ppc) ports second := by
  exact (gpio_sides_isolated _ _ .ppc (by decide) _ _ (by decide) (by decide) (by decide)).2
    (by decide)

end Isolation

end SkyeyeStarlet
