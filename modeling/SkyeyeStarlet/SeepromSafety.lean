import Mathlib.Algebra.Group.Nat.Defs
import Mathlib.Data.List.Induction
import SkyeyeStarlet.Seeprom

/-!
What the serial EEPROM keeps over every sequence of writes to its lines: the counter of its
phases, its write protection, and when its contents change.  The commands are read off the
lines alone, as the levels clocked in since the chip was last deselected.
-/

namespace SkyeyeStarlet

section Wire

inductive LineWrite where
  | latch (word : ARMword)
  | dir (word : ARMword)
  deriving DecidableEq, Repr

def lineWrite (file : SeepromBytes) (gpio : Gpio) : LineWrite → Option Gpio
  | .latch word => starletGpio1LatchWrite file gpio word
  | .dir word => some { gpio with dir := word }

def lineWrites (file : SeepromBytes) (gpio : Gpio) (history : List LineWrite) : Option Gpio :=
  history.foldlM (lineWrite file) gpio

def gpioReset : Gpio :=
  { gpioPowerOn 0#32 with latch := 0x20#32 }

/-- The lines, and the levels clocked in since the chip was last deselected. -/
structure Wire where
  latch : ARMword
  bits : List Bool

def Wire.next (wire : Wire) : LineWrite → Wire
  | .latch word =>
      { latch := word
        bits :=
          if !selectLine word then []
          else if rises wire.latch word then wire.bits ++ [dataLine word]
          else wire.bits }
  | .dir _ => wire

def wireAfter (history : List LineWrite) : Wire :=
  history.foldl Wire.next { latch := gpioReset.latch, bits := [] }

def Completes (wire : Wire) (write : LineWrite) (command : SeepromCommand) : Prop :=
  ∃ word, write = .latch word ∧ rises wire.latch word = true ∧
    wire.bits ++ [dataLine word] = command.bits

def SeepromCommand.Stores : SeepromCommand → Prop
  | .write _ _ _ | .erase _ _ | .writeAll _ _ | .eraseAll _ => True
  | _ => False

def Enabled (history : List LineWrite) : Prop :=
  ∃ before write rest spare, history = before ++ write :: rest ∧
    Completes (wireAfter before) write (.writeEnable spare) ∧
    ∀ middle other more, rest = middle ++ other :: more →
      ∀ spare, ¬Completes (wireAfter (before ++ write :: middle)) other (.writeDisable spare)

end Wire

section Phases

theorem msbBits_surjective {width : Nat} (bits : List Bool) (length : bits.length = width) :
    ∃ x : BitVec width, msbBits x = bits := by
  subst length
  refine ⟨BitVec.ofBoolListBE bits, ?_⟩
  apply List.ext_getElem
  · simp
  · intro index _ bound
    have place : bits.length - 1 - (bits.length - 1 - index) = index := by omega
    simp only [msbBits, List.getElem_map, List.getElem_range, BitVec.getLsbD_ofBoolListBE, place]
    simp [bound, show bits.length - 1 - index < bits.length by omega]

theorem split_field (high low : Nat) (x : BitVec (high + low)) :
    x.extractLsb' low high ++ x.extractLsb' 0 low = x := by
  apply BitVec.eq_of_getLsbD_eq
  intro index bound
  rw [BitVec.getLsbD_append]
  by_cases below : index < low
  · simp [below]
  · simp [below, show index - low < high by omega, show low + (index - low) = index by omega]

structure Counting (chip : Seeprom) (size : Nat) (rest : List Bool) : Prop where
  short : rest.length < size
  count : chip.count = BitVec.ofNat 32 (size - rest.length)
  shifted : chip.bitsIn = shiftBits 0#32 rest

variable {chip : Seeprom} {size : Nat} {rest : List Bool}

theorem Counting.count_bounds (counting : Counting chip size rest) (small : size ≤ 16) :
    1 ≤ chip.count.toNat ∧ chip.count.toNat ≤ 16 := by
  have short := counting.short
  rw [counting.count, BitVec.toNat_ofNat, Nat.mod_eq_of_lt (by omega)]
  omega

theorem Counting.more (counting : Counting chip size rest) (small : size ≤ 16) (bit : Bool)
    (more : rest.length + 1 < size) :
    chip.clockRise bit =
      { chip with
        count := BitVec.ofNat 32 (size - (rest ++ [bit]).length)
        bitsIn := shiftBits 0#32 (rest ++ [bit]) } := by
  have left : size - rest.length = size - rest.length - 2 + 2 := by omega
  have counted : chip.count = BitVec.ofNat 32 (size - rest.length - 2 + 2) := by
    rw [← left]
    exact counting.count
  have taken : size - (rest ++ [bit]).length = size - rest.length - 2 + 1 := by
    rw [List.length_append, List.length_singleton]
    omega
  rw [clockRise_more (by omega) counted bit, counting.shifted, ← shiftBits_append, taken]

theorem Counting.last (counting : Counting chip size rest) (bit : Bool)
    (last : rest.length + 1 = size) :
    ∃ x : BitVec size, msbBits x = rest ++ [bit] ∧
      chip.clockRise bit =
        { Seeprom.phaseDone { chip with count := 0#32, bitsIn := x.setWidth 32 } with
          bitsIn := 0#32 } := by
  obtain ⟨x, field⟩ := msbBits_surjective (rest ++ [bit]) (by simpa using last)
  have counted : chip.count = 1#32 := by
    rw [counting.count, show size - rest.length = 1 by omega]
  refine ⟨x, field, ?_⟩
  rw [clockRise_last counted bit, counting.shifted, ← shiftBits_append, ← field,
    shiftBits_msbBits]

/-- Where a selected chip stands after the levels that it has clocked in. -/
inductive Progress (chip : Seeprom) : List Bool → Prop where
  | start (state : chip.state = .startBit) (counting : Counting chip 1 []) : Progress chip []
  | opcode (rest : List Bool) (state : chip.state = .opcode) (counting : Counting chip 2 rest) :
      Progress chip (true :: rest)
  | address (op : BitVec 2) (rest : List Bool) (state : chip.state = .address)
      (code : chip.opcode = op.setWidth 32) (counting : Counting chip 8 rest) :
      Progress chip (true :: (msbBits op ++ rest))
  | data (op : BitVec 2) (field : BitVec 8) (rest : List Bool) (state : chip.state = .data)
      (code : chip.opcode = op.setWidth 32) (counting : Counting chip 16 rest)
      (permitted : op = 2#2 ∨
        chip.wren = true ∧ (op = 1#2 ∨ op = 0#2 ∧ field.extractLsb' 6 2 = 1#2)) :
      Progress chip (true :: (msbBits op ++ msbBits field) ++ rest)
  | dead (bits : List Bool) (state : chip.state = .dead) (count : chip.count = 1#32) :
      Progress chip bits

theorem Progress.count_bounds {bits : List Bool} (progress : Progress chip bits) :
    1 ≤ chip.count.toNat ∧ chip.count.toNat ≤ 16 := by
  cases progress with
  | start _ counting => exact counting.count_bounds (by decide)
  | opcode _ _ counting => exact counting.count_bounds (by decide)
  | address _ _ _ _ counting => exact counting.count_bounds (by decide)
  | data _ _ _ _ _ counting => exact counting.count_bounds (by decide)
  | dead _ _ count =>
      rw [count]
      decide

/-- What one more level does to the chip, where `bits` are the levels with the new one. -/
structure Advanced (chip next : Seeprom) (bits : List Bool) : Prop where
  progress : Progress next bits
  stored : next.data ≠ chip.data → chip.wren = true ∧ ∃ command : SeepromCommand,
    command.Stores ∧ bits = command.bits
  switched : next.wren ≠ chip.wren → ∃ spare,
    bits = (SeepromCommand.writeEnable spare).bits ∨ bits = (SeepromCommand.writeDisable spare).bits

theorem Advanced.of_same {next : Seeprom} {bits : List Bool} (progress : Progress next bits)
    (data : next.data = chip.data) (wren : next.wren = chip.wren) : Advanced chip next bits := by
  exact ⟨progress, fun changed => absurd data changed, fun changed => absurd wren changed⟩

def afterAddress (chip : Seeprom) (field : BitVec 8) : Seeprom :=
  { Seeprom.addressed
      { chip with count := 0#32, bitsIn := field.setWidth 32, address := field.setWidth 32 } with
    bitsIn := 0#32 }

theorem counting_data (waiting : chip.count = 16#32) (clear : chip.bitsIn = 0#32) :
    Counting chip 16 [] := by
  exact ⟨by decide, waiting, clear⟩

theorem progress_data (op : BitVec 2) (field : BitVec 8) (state : chip.state = .data)
    (code : chip.opcode = op.setWidth 32) (count : chip.count = 16#32)
    (clear : chip.bitsIn = 0#32)
    (permitted : op = 2#2 ∨
      chip.wren = true ∧ (op = 1#2 ∨ op = 0#2 ∧ field.extractLsb' 6 2 = 1#2)) :
    Progress chip (true :: (msbBits op ++ msbBits field)) := by
  have progress := Progress.data op field [] state code (counting_data count clear) permitted
  rwa [List.append_nil] at progress

theorem special_advanced (kind : BitVec 2) (spare : BitVec 6) (code : chip.opcode = 0#32) :
    Advanced chip (afterAddress chip (kind ++ spare))
      (true :: (msbBits 0#2 ++ msbBits (kind ++ spare))) := by
  have kinds : ∀ kind : BitVec 2, kind = 0#2 ∨ kind = 1#2 ∨ kind = 2#2 ∨ kind = 3#2 := by decide
  have shifted := address_special kind spare
  have field : (kind ++ spare).extractLsb' 6 2 = kind := by
    apply BitVec.eq_of_getLsbD_eq
    intro index bound
    rw [BitVec.getLsbD_extractLsb', BitVec.getLsbD_append]
    simp [bound, show ¬6 + index < 6 by omega]
  unfold afterAddress Seeprom.addressed
  simp only [code]
  unfold Seeprom.special
  simp only [shifted]
  rcases kinds kind with rfl | rfl | rfl | rfl
  · refine ⟨.dead _ rfl rfl, fun changed => absurd rfl changed, fun _ => ⟨spare, Or.inr ?_⟩⟩
    rfl
  · cases enabled : chip.wren with
    | false => exact .of_same (.dead _ rfl rfl) rfl enabled.symm
    | true =>
        exact .of_same (progress_data 0#2 _ rfl rfl rfl rfl (Or.inr ⟨rfl, Or.inr ⟨rfl, field⟩⟩)) rfl
          enabled.symm
  · refine ⟨.dead _ rfl rfl, fun changed => ?_, fun changed => absurd rfl changed⟩
    by_cases enabled : chip.wren = true
    · exact ⟨enabled, .eraseAll spare, trivial, rfl⟩
    · exact absurd (if_neg enabled) changed
  · refine ⟨.dead _ rfl rfl, fun changed => absurd rfl changed, fun _ => ⟨spare, Or.inl ?_⟩⟩
    rfl

theorem address_advanced (op : BitVec 2) (field : BitVec 8) (code : chip.opcode = op.setWidth 32) :
    Advanced chip (afterAddress chip field) (true :: (msbBits op ++ msbBits field)) := by
  have codes : ∀ op : BitVec 2, op = 0#2 ∨ op = 1#2 ∨ op = 2#2 ∨ op = 3#2 := by decide
  rcases codes op with rfl | rfl | rfl | rfl
  · rw [← split_field 2 6 field]
    exact special_advanced _ _ code
  · unfold afterAddress Seeprom.addressed
    simp only [code]
    cases enabled : chip.wren with
    | false => exact .of_same (.dead _ rfl rfl) rfl enabled.symm
    | true =>
        exact .of_same (progress_data 1#2 field rfl rfl rfl rfl (Or.inr ⟨rfl, Or.inl rfl⟩)) rfl
          enabled.symm
  · unfold afterAddress Seeprom.addressed
    simp only [code]
    exact .of_same (progress_data 2#2 field rfl rfl rfl rfl (Or.inl rfl)) rfl rfl
  · unfold afterAddress Seeprom.addressed
    simp only [code]
    refine ⟨.dead _ rfl rfl, fun changed => ?_, fun changed => absurd rfl changed⟩
    by_cases enabled : chip.wren = true
    · refine ⟨enabled, .erase (field.extractLsb' 7 1) (field.extractLsb' 0 7), trivial, ?_⟩
      show _ = true :: (msbBits 3#2 ++ msbBits (field.extractLsb' 7 1 ++ field.extractLsb' 0 7)) ++ []
      rw [split_field 1 7 field, List.append_nil]
    · exact absurd (if_neg enabled) changed

theorem Counting.shift (counting : Counting chip size rest) (small : size ≤ 16) (bit : Bool)
    (more : rest.length + 1 < size) :
    Counting (chip.clockRise bit) size (rest ++ [bit]) ∧
      (chip.clockRise bit).state = chip.state ∧ (chip.clockRise bit).opcode = chip.opcode ∧
      (chip.clockRise bit).data = chip.data ∧ (chip.clockRise bit).wren = chip.wren := by
  rw [counting.more small bit more]
  refine ⟨⟨?_, rfl, rfl⟩, rfl, rfl, rfl, rfl⟩
  simpa using more

theorem transfer_advanced (op : BitVec 2) (field : BitVec 8) (value : BitVec 16)
    (code : chip.opcode = op.setWidth 32)
    (permitted : op = 2#2 ∨
      chip.wren = true ∧ (op = 1#2 ∨ op = 0#2 ∧ field.extractLsb' 6 2 = 1#2)) :
    Advanced chip
      { Seeprom.transferred { chip with count := 0#32, bitsIn := value.setWidth 32 } with
        bitsIn := 0#32 }
      (true :: (msbBits op ++ msbBits field) ++ msbBits value) := by
  refine ⟨.dead _ rfl rfl, fun changed => ?_, fun changed => absurd rfl changed⟩
  rcases permitted with rfl | ⟨enabled, rfl | ⟨rfl, kind⟩⟩
  · refine absurd ?_ changed
    unfold Seeprom.transferred
    simp only [code]
    rfl
  · refine ⟨enabled, .write (field.extractLsb' 7 1) (field.extractLsb' 0 7) value, trivial, ?_⟩
    show _ = true :: (msbBits 1#2 ++ msbBits (field.extractLsb' 7 1 ++ field.extractLsb' 0 7)) ++
      msbBits value
    rw [split_field 1 7 field]
  · refine ⟨enabled, .writeAll (field.extractLsb' 0 6) value, trivial, ?_⟩
    show _ = true :: (msbBits 0#2 ++ msbBits (1#2 ++ field.extractLsb' 0 6)) ++ msbBits value
    rw [← kind, split_field 2 6 field]

theorem clockRise_advanced {bits : List Bool} (progress : Progress chip bits) (bit : Bool) :
    Advanced chip (chip.clockRise bit) (bits ++ [bit]) := by
  cases progress with
  | start state counting =>
      obtain ⟨x, field, risen⟩ := counting.last bit rfl
      rw [risen]
      unfold Seeprom.phaseDone
      simp only [state]
      have level : ∀ x : BitVec 1, x.setWidth 32 = 1#32 → msbBits x = [true] := by decide
      split
      · rename_i high
        rw [← field, level x high]
        exact .of_same (.opcode [] rfl ⟨by decide, rfl, rfl⟩) rfl rfl
      · exact .of_same (.dead _ rfl rfl) rfl rfl
  | opcode rest state counting =>
      by_cases more : rest.length + 1 < 2
      · obtain ⟨counting', state', _, data, wren⟩ := counting.shift (by decide) bit more
        exact .of_same (.opcode _ (state'.trans state) counting') data wren
      · obtain ⟨op, field, risen⟩ := counting.last bit (by have := counting.short; omega)
        rw [risen, List.cons_append, ← field, ← List.append_nil (msbBits op)]
        unfold Seeprom.phaseDone
        simp only [state]
        exact .of_same (.address op [] rfl rfl ⟨by decide, rfl, rfl⟩) rfl rfl
  | address op rest state code counting =>
      by_cases more : rest.length + 1 < 8
      · obtain ⟨counting', state', code', data, wren⟩ := counting.shift (by decide) bit more
        rw [List.cons_append, List.append_assoc]
        exact .of_same (.address op _ (state'.trans state) (code'.trans code) counting') data wren
      · obtain ⟨address, field, risen⟩ := counting.last bit (by have := counting.short; omega)
        have ended : chip.clockRise bit = afterAddress chip address := by
          rw [risen]
          unfold Seeprom.phaseDone afterAddress
          simp only [state]
        rw [ended, List.cons_append, List.append_assoc, ← field]
        exact address_advanced op address code
  | data op address rest state code counting permitted =>
      by_cases more : rest.length + 1 < 16
      · obtain ⟨counting', state', code', data, wren⟩ := counting.shift (by decide) bit more
        rw [List.append_assoc]
        exact .of_same (.data op address _ (state'.trans state) (code'.trans code) counting'
          (by rwa [wren])) data wren
      · obtain ⟨value, field, risen⟩ := counting.last bit (by have := counting.short; omega)
        rw [risen, List.append_assoc, ← field]
        unfold Seeprom.phaseDone
        simp only [state]
        exact transfer_advanced op address value code permitted
  | dead bits state count =>
      rw [clockRise_last count bit]
      unfold Seeprom.phaseDone
      simp only [state]
      exact .of_same (.dead _ rfl rfl) rfl rfl

theorem clocked_progress (base : Seeprom) (bits : List Bool) :
    Progress (clocked base.idle bits) bits := by
  induction bits using List.reverseRecOn with
  | nil => exact .start rfl ⟨by decide, rfl, rfl⟩
  | append_singleton bits bit ih =>
      rw [clocked_append]
      exact (clockRise_advanced ih bit).progress

theorem clocked_switch (base : Seeprom) (spare : BitVec 6) :
    (clocked base.idle (SeepromCommand.writeEnable spare).bits).wren = true ∧
      (clocked base.idle (SeepromCommand.writeDisable spare).bits).wren = false := by
  have enable := clocked_head base (.writeEnable spare)
  have disable := clocked_head base (.writeDisable spare)
  rw [addressed_special base rfl rfl] at enable disable
  simp only [SeepromCommand.bits, SeepromCommand.payload, List.append_nil]
  exact ⟨congrArg Seeprom.wren enable, congrArg Seeprom.wren disable⟩

theorem clocked_wren_iff (base : Seeprom) (bits : List Bool) (bit : Bool) :
    (clocked base.idle (bits ++ [bit])).wren = true ↔
      (∃ spare, bits ++ [bit] = (SeepromCommand.writeEnable spare).bits) ∨
        (clocked base.idle bits).wren = true ∧
          ¬∃ spare, bits ++ [bit] = (SeepromCommand.writeDisable spare).bits := by
  by_cases enable : ∃ spare, bits ++ [bit] = (SeepromCommand.writeEnable spare).bits
  · obtain ⟨spare, complete⟩ := enable
    rw [complete, (clocked_switch base spare).1]
    exact iff_of_true rfl (Or.inl ⟨spare, rfl⟩)
  · by_cases disable : ∃ spare, bits ++ [bit] = (SeepromCommand.writeDisable spare).bits
    · have cleared : (clocked base.idle (bits ++ [bit])).wren = false := by
        obtain ⟨spare, complete⟩ := disable
        rw [complete, (clocked_switch base spare).2]
      rw [cleared]
      refine iff_of_false Bool.false_ne_true ?_
      rintro (enabled | ⟨_, kept⟩)
      · exact enable enabled
      · exact kept disable
    · have same : (clocked base.idle (bits ++ [bit])).wren = (clocked base.idle bits).wren := by
        by_contra changed
        rw [clocked_append] at changed
        obtain ⟨spare, complete | complete⟩ :=
          (clockRise_advanced (clocked_progress base bits) bit).switched changed
        · exact enable ⟨spare, complete⟩
        · exact disable ⟨spare, complete⟩
      rw [same]
      constructor
      · intro enabled
        exact Or.inr ⟨enabled, disable⟩
      · rintro (enabled | ⟨enabled, _⟩)
        · exact absurd enabled enable
        · exact enabled

end Phases

section Runs

variable {file : SeepromBytes} {gpio after : Gpio} {wire : Wire}

/-- The chip is what the levels since its last deselection made of it. -/
structure Tracks (file : SeepromBytes) (gpio : Gpio) (wire : Wire) : Prop where
  latch : gpio.latch = wire.latch
  deselected : selectLine wire.latch = false → wire.bits = []
  chip : ∃ base : Seeprom,
    chipOf file gpio = (clocked base.idle wire.bits).withClock (seenClock wire.latch)

theorem latchWrite_input {word : ARMword}
    (written : starletGpio1LatchWrite file gpio word = some after) :
    starletGpio1LatchWrite file { gpio with dir := 0#32 } word =
      some { after with dir := 0#32 } := by
  have input : (0#32).getLsbD 13 = false := by decide
  have driven (access : Gpio) (chip : gpioSeeprom file gpio word = some access) :
      gpioSeeprom file { gpio with dir := 0#32 } word = some { access with dir := 0#32 } := by
    unfold gpioSeeprom at chip ⊢
    simp only [input] at chip ⊢
    split at chip
    · rename_i low
      cases chip
      exact if_pos low
    · rename_i high
      rw [if_neg high, if_neg Bool.false_ne_true]
      split at chip
      · cases chip
      · split at chip
        · rename_i rising
          cases chip
          exact if_pos rising
        · rename_i level
          cases chip
          exact if_neg level
  unfold starletGpio1LatchWrite at written ⊢
  dsimp only at written ⊢
  split at written
  · rename_i changed
    obtain ⟨access, chip, rfl⟩ := Option.map_eq_some_iff.mp written
    rw [if_pos changed, driven access chip]
    rfl
  · rename_i same
    cases written
    rw [if_neg same]
    rfl

theorem Tracks.synced (tracks : Tracks file gpio wire) :
    Synced file { gpio with dir := 0#32 } := by
  obtain ⟨base, chip⟩ := tracks.chip
  have input : (0#32).getLsbD 13 = false := by decide
  refine ⟨?_, ?_, input⟩
  · show (chipOf file gpio).clock = seenClock gpio.latch
    rw [chip, tracks.latch]
    rfl
  · intro low
    have unselected : selectLine wire.latch = false := by
      rw [← tracks.latch]
      exact low
    show chipOf file gpio = (chipOf file gpio).idle
    have unseen : seenClock wire.latch = false := by rw [seenClock, unselected, Bool.false_and]
    rw [chip, tracks.deselected unselected, unseen]
    rfl

theorem Tracks.latchWrite (tracks : Tracks file gpio wire) {word : ARMword}
    (written : starletGpio1LatchWrite file gpio word = some after) :
    after.latch = word ∧ chipOf file after = nextChip (chipOf file gpio) wire.latch word := by
  obtain ⟨other, same, _, latch, chip, _⟩ := latchWrite_spec tracks.synced word
  rw [latchWrite_input written] at same
  cases same
  rw [← tracks.latch]
  exact ⟨latch, chip⟩

theorem Tracks.next (tracks : Tracks file gpio wire) {write : LineWrite}
    (written : lineWrite file gpio write = some after) : Tracks file after (wire.next write) := by
  cases write with
  | dir word =>
      cases written
      exact ⟨tracks.latch, tracks.deselected, tracks.chip⟩
  | latch word =>
      obtain ⟨latch, moved⟩ := tracks.latchWrite written
      obtain ⟨base, chip⟩ := tracks.chip
      refine ⟨latch, fun low => ?_, ?_⟩
      · show (if !selectLine word then [] else _) = []
        rw [show selectLine word = false from low, Bool.not_false, if_pos rfl]
      · rw [moved, chip]
        unfold nextChip Wire.next
        dsimp only
        cases select : selectLine word with
        | false => exact ⟨clocked base.idle wire.bits, by simp [seenClock, select]; rfl⟩
        | true =>
            refine ⟨base, ?_⟩
            rw [Bool.not_true, if_neg Bool.false_ne_true, if_neg Bool.false_ne_true]
            by_cases rising : rises wire.latch word = true
            · have seen : seenClock word = true := (Bool.and_eq_true_iff.mp rising).1
              rw [if_pos rising, if_pos rising, clockRise_withClock, clocked_append, seen]
              rfl
            · have seen : seenClock word = clockLine word := by
                rw [seenClock, select, Bool.true_and]
              rw [if_neg rising, if_neg rising, seen]
              rfl

/-- The contents change, and the write protection switches, only as a command completes. -/
structure Guarded (file : SeepromBytes) (gpio after : Gpio) (wire : Wire) (write : LineWrite) :
    Prop where
  stored : (chipOf file after).data ≠ (chipOf file gpio).data → (chipOf file gpio).wren = true ∧
    ∃ command : SeepromCommand, command.Stores ∧ Completes wire write command
  enabled : (chipOf file after).wren = true ↔
    (∃ spare, Completes wire write (.writeEnable spare)) ∨
      (chipOf file gpio).wren = true ∧ ¬∃ spare, Completes wire write (.writeDisable spare)

theorem Guarded.of_same {write : LineWrite}
    (data : (chipOf file after).data = (chipOf file gpio).data)
    (wren : (chipOf file after).wren = (chipOf file gpio).wren)
    (incomplete : ∀ command, ¬Completes wire write command) :
    Guarded file gpio after wire write := by
  refine ⟨fun changed => absurd data changed, ?_⟩
  rw [wren]
  constructor
  · intro enabled
    exact Or.inr ⟨enabled, fun ⟨spare, complete⟩ => incomplete _ complete⟩
  · rintro (⟨spare, complete⟩ | ⟨enabled, _⟩)
    · exact absurd complete (incomplete _)
    · exact enabled

theorem completes_latch {word : ARMword} {command : SeepromCommand} :
    Completes wire (.latch word) command ↔
      rises wire.latch word = true ∧ wire.bits ++ [dataLine word] = command.bits := by
  constructor
  · rintro ⟨other, same, complete⟩
    cases same
    exact complete
  · intro complete
    exact ⟨word, rfl, complete⟩

theorem Tracks.guarded (tracks : Tracks file gpio wire) {write : LineWrite}
    (written : lineWrite file gpio write = some after) : Guarded file gpio after wire write := by
  cases write with
  | dir word =>
      cases written
      refine .of_same rfl rfl fun command complete => ?_
      obtain ⟨word, other, _⟩ := complete
      cases other
  | latch word =>
      obtain ⟨_, moved⟩ := tracks.latchWrite written
      obtain ⟨base, chip⟩ := tracks.chip
      by_cases rising : rises wire.latch word = true
      · have select : selectLine word = true :=
          (Bool.and_eq_true_iff.mp (Bool.and_eq_true_iff.mp rising).1).1
        rw [nextChip, select, Bool.not_true, if_neg Bool.false_ne_true, if_pos rising, chip,
          clockRise_withClock] at moved
        have advanced := clockRise_advanced (clocked_progress base wire.bits) (dataLine word)
        constructor
        · rw [moved, chip]
          intro changed
          obtain ⟨enabled, command, stores, complete⟩ := advanced.stored changed
          exact ⟨enabled, command, stores, completes_latch.mpr ⟨rising, complete⟩⟩
        · have protection := clocked_wren_iff base wire.bits (dataLine word)
          rw [clocked_append] at protection
          simp only [completes_latch, rising, true_and]
          rw [moved, chip]
          exact protection
      · have kept : (nextChip (chipOf file gpio) wire.latch word).data = (chipOf file gpio).data ∧
            (nextChip (chipOf file gpio) wire.latch word).wren = (chipOf file gpio).wren := by
          rw [nextChip, if_neg rising]
          split <;> exact ⟨rfl, rfl⟩
        refine .of_same (by rw [moved, kept.1]) (by rw [moved, kept.2]) fun command complete => ?_
        exact rising (completes_latch.mp complete).1

theorem wireAfter_snoc (history : List LineWrite) (write : LineWrite) :
    wireAfter (history ++ [write]) = (wireAfter history).next write := by
  rw [wireAfter, List.foldl_append]
  rfl

theorem lineWrites_snoc {history : List LineWrite} {write : LineWrite}
    (reached : lineWrites file gpio (history ++ [write]) = some after) :
    ∃ middle, lineWrites file gpio history = some middle ∧
      lineWrite file middle write = some after := by
  rw [lineWrites, List.foldlM_append] at reached
  obtain ⟨middle, before, last⟩ := Option.bind_eq_some_iff.mp reached
  rw [List.foldlM_cons] at last
  obtain ⟨final, written, done⟩ := Option.bind_eq_some_iff.mp last
  cases done
  exact ⟨middle, before, written⟩

theorem enabled_snoc (history : List LineWrite) (write : LineWrite) :
    Enabled (history ++ [write]) ↔
      (∃ spare, Completes (wireAfter history) write (.writeEnable spare)) ∨
        Enabled history ∧ ¬∃ spare, Completes (wireAfter history) write (.writeDisable spare) := by
  constructor
  · rintro ⟨before, first, rest, spare, split, complete, undisturbed⟩
    rcases List.eq_nil_or_concat rest with rfl | ⟨middle, last, rfl⟩
    · obtain ⟨rfl, same⟩ := List.append_inj' split rfl
      cases same
      exact Or.inl ⟨spare, complete⟩
    · rw [List.concat_eq_append, ← List.cons_append, ← List.append_assoc] at split
      obtain ⟨rfl, same⟩ := List.append_inj' split rfl
      cases same
      refine Or.inr ⟨⟨before, first, middle, spare, rfl, complete, ?_⟩, ?_⟩
      · intro inner other more inside
        refine undisturbed inner other (more ++ [write]) ?_
        rw [List.concat_eq_append, inside, List.append_assoc, List.cons_append]
      · rintro ⟨spare', disable⟩
        exact undisturbed middle write [] (List.concat_eq_append) spare' disable
  · rintro (⟨spare, complete⟩ | ⟨⟨before, first, rest, spare, rfl, complete, undisturbed⟩, kept⟩)
    · refine ⟨history, write, [], spare, rfl, complete, ?_⟩
      intro middle other more inside
      exact absurd inside.symm (by simp)
    · refine ⟨before, first, rest ++ [write], spare, by simp, complete, ?_⟩
      intro middle other more inside spare' disable
      rcases List.eq_nil_or_concat more with rfl | ⟨inner, last, rfl⟩
      · obtain ⟨rfl, same⟩ := List.append_inj' inside rfl
        cases same
        exact kept ⟨spare', disable⟩
      · rw [List.concat_eq_append, ← List.cons_append, ← List.append_assoc] at inside
        obtain ⟨rfl, _⟩ := List.append_inj' inside rfl
        exact undisturbed middle other inner rfl spare' disable

theorem tracks_reset : Tracks file gpioReset (wireAfter []) := by
  have unseen : seenClock gpioReset.latch = false := by decide
  refine ⟨rfl, fun _ => rfl, { gpioReset.seeprom with data := some file }, ?_⟩
  show chipOf file gpioReset = (clocked _ []).withClock (seenClock gpioReset.latch)
  rw [unseen]
  rfl

theorem chipOf_wren (gpio : Gpio) : (chipOf file gpio).wren = gpio.seeprom.wren := by
  unfold chipOf Seeprom.load
  split <;> rfl

theorem tracks_lineWrites {history : List LineWrite}
    (reached : lineWrites file gpioReset history = some gpio) :
    Tracks file gpio (wireAfter history) ∧
      ((chipOf file gpio).wren = true ↔ Enabled history) := by
  induction history using List.reverseRecOn generalizing gpio with
  | nil =>
      cases reached
      refine ⟨tracks_reset, iff_of_false Bool.false_ne_true ?_⟩
      rintro ⟨before, write, rest, _, split, _⟩
      exact absurd split.symm (by simp)
  | append_singleton history write ih =>
      obtain ⟨middle, before, written⟩ := lineWrites_snoc reached
      obtain ⟨tracks, protection⟩ := ih before
      rw [wireAfter_snoc, enabled_snoc, ← protection]
      exact ⟨tracks.next written, (tracks.guarded written).enabled⟩

def SeepromState.value : SeepromState → Int
  | .dead => -1
  | .startBit => 0
  | .opcode => 1
  | .address => 2
  | .data => 3

/-- What holds of the chip after a history of line writes. -/
structure SeepromSafe (file : SeepromBytes) (history : List LineWrite) (gpio : Gpio) : Prop where
  /-- No access takes the counter below zero. -/
  decrement : 1 ≤ (chipOf file gpio).count.toNat ∧ (chipOf file gpio).count.toNat ≤ 16
  counter : gpio.seeprom.data.isSome = true →
    1 ≤ gpio.seeprom.count.toNat ∧ gpio.seeprom.count.toNat ≤ 16
  phase : gpio.seeprom.state.value ∈ [-1, 0, 1, 2, 3]
  contents : ∀ write after, lineWrite file gpio write = some after →
    (chipOf file after).data ≠ (chipOf file gpio).data → gpio.seeprom.wren = true ∧
      ∃ command : SeepromCommand, command.Stores ∧ Completes (wireAfter history) write command
  protection : gpio.seeprom.wren = true ↔ Enabled history

/-- Once the first access has set the counter it stays between 1 and 16, and the contents
change only as a storing command completes behind a write enable command. -/
theorem seeprom_guarded (file : SeepromBytes) (history : List LineWrite) (gpio : Gpio)
    (reached : lineWrites file gpioReset history = some gpio) :
    SeepromSafe file history gpio := by
  obtain ⟨tracks, protection⟩ := tracks_lineWrites reached
  rw [chipOf_wren] at protection
  have bounds : 1 ≤ (chipOf file gpio).count.toNat ∧ (chipOf file gpio).count.toNat ≤ 16 := by
    obtain ⟨base, chip⟩ := tracks.chip
    rw [chip]
    exact (clocked_progress base (wireAfter history).bits).count_bounds
  refine ⟨bounds, ?_, ?_, ?_, protection⟩
  · intro loaded
    obtain ⟨bytes, data⟩ := Option.isSome_iff_exists.mp loaded
    rwa [chipOf, load_of_some data] at bounds
  · cases gpio.seeprom.state <;> decide
  · intro write after written changed
    obtain ⟨enabled, stores⟩ := (tracks.guarded written).stored changed
    exact ⟨chipOf_wren gpio ▸ enabled, stores⟩

/-- The latch writes that clock in a write enable command. -/
theorem seeprom_guarded_enabled :
    ∃ gpio, lineWrites (fun _ => 0#8) gpioReset
        ((serialWords (SeepromCommand.writeEnable 0#6).bits).map LineWrite.latch) = some gpio ∧
      SeepromSafe (fun _ => 0#8)
        ((serialWords (SeepromCommand.writeEnable 0#6).bits).map LineWrite.latch) gpio := by
  have runs : (lineWrites (fun _ => 0#8) gpioReset
      ((serialWords (SeepromCommand.writeEnable 0#6).bits).map LineWrite.latch)).isSome = true := by
    decide +kernel
  obtain ⟨gpio, reached⟩ := Option.isSome_iff_exists.mp runs
  exact ⟨gpio, reached, seeprom_guarded _ _ gpio reached⟩

/-- The counter is still zero after a write that leaves the chip's lines alone. -/
theorem seeprom_counter_unset :
    ∃ gpio, lineWrites (fun _ => 0#8) gpioReset [.latch 0x21#32] = some gpio ∧
      ¬(1 ≤ gpio.seeprom.count.toNat ∧ gpio.seeprom.count.toNat ≤ 16) := by
  exact ⟨_, rfl, by decide⟩

end Runs

end SkyeyeStarlet
