import Mathlib.Algebra.Group.Nat.Defs
import SkyeyeStarlet.SeepromCore

/-!
What the serial EEPROM stores and shifts out.  The chip sees only the levels of the data
line at rising clock edges, so a sequence of latch writes acts as the bits that it clocks
in; the phases of a command are then runs of the shift register.
-/

namespace SkyeyeStarlet

section Bits

def msbBits {width : Nat} (x : BitVec width) : List Bool :=
  (List.range width).map fun k => x.getLsbD (width - 1 - k)

def shiftBits (start : BitVec 32) (bits : List Bool) : BitVec 32 :=
  bits.foldl (fun word bit => (word <<< 1) ||| (BitVec.ofBool bit).setWidth 32) start

@[simp] theorem length_msbBits {width : Nat} (x : BitVec width) :
    (msbBits x).length = width := by
  simp [msbBits]

theorem shiftBits_append (start : BitVec 32) (first second : List Bool) :
    shiftBits start (first ++ second) = shiftBits (shiftBits start first) second := by
  exact List.foldl_append

theorem shiftBits_msbBits {width : Nat} (x : BitVec width) :
    shiftBits 0#32 (msbBits x) = x.setWidth 32 := by
  have rounds (count : Nat) (bound : count ≤ width) :
      shiftBits 0#32 ((List.range count).map fun k => x.getLsbD (width - 1 - k)) =
        (x >>> (width - count)).setWidth 32 := by
    induction count with
    | zero =>
        apply BitVec.eq_of_getLsbD_eq
        intro index _
        simp [shiftBits]
    | succ count ih =>
        rw [List.range_succ, List.map_append, shiftBits_append, ih (by omega)]
        apply BitVec.eq_of_getLsbD_eq
        intro index low
        cases index with
        | zero => simp [shiftBits, show width - (count + 1) = width - 1 - count by omega]
        | succ index =>
            simp [shiftBits, show index + 1 < 32 by omega,
              show width - count + index = width - (count + 1) + (index + 1) by omega]
  have all := rounds width (Nat.le_refl width)
  rw [Nat.sub_self] at all
  simpa [msbBits] using all

end Bits

section Clocking

def clocked (chip : Seeprom) (bits : List Bool) : Seeprom :=
  bits.foldl Seeprom.clockRise chip

def outputs (chip : Seeprom) : List Bool → List Bool
  | [] => []
  | bit :: rest => chip.outputBit :: outputs (chip.clockRise bit) rest

theorem clocked_append (chip : Seeprom) (first second : List Bool) :
    clocked chip (first ++ second) = clocked (clocked chip first) second := by
  exact List.foldl_append

theorem outputs_append (chip : Seeprom) (first second : List Bool) :
    outputs chip (first ++ second) = outputs chip first ++ outputs (clocked chip first) second := by
  induction first generalizing chip with
  | nil => rfl
  | cons bit rest ih =>
      rw [List.cons_append, outputs, outputs, ih, List.cons_append]
      rfl

@[simp] theorem length_outputs (chip : Seeprom) (bits : List Bool) :
    (outputs chip bits).length = bits.length := by
  induction bits generalizing chip with
  | nil => rfl
  | cons bit rest ih => rw [outputs, List.length_cons, ih, List.length_cons]

theorem count_pred (length : Nat) :
    BitVec.ofNat 32 (length + 1) - 1#32 = BitVec.ofNat 32 length := by
  apply BitVec.eq_of_toNat_eq
  simp only [BitVec.toNat_sub, BitVec.toNat_ofNat]
  omega

theorem clockRise_last {chip : Seeprom} (last : chip.count = 1#32) (bit : Bool) :
    chip.clockRise bit =
      { Seeprom.phaseDone
          { chip with count := 0#32, bitsIn := shiftBits chip.bitsIn [bit] } with
        bitsIn := 0#32 } := by
  unfold Seeprom.clockRise
  rw [last]
  rfl

theorem clockRise_more {chip : Seeprom} {length : Nat} (small : length < 2 ^ 31)
    (more : chip.count = BitVec.ofNat 32 (length + 2)) (bit : Bool) :
    chip.clockRise bit =
      { chip with count := BitVec.ofNat 32 (length + 1), bitsIn := shiftBits chip.bitsIn [bit] } := by
  have nonzero : BitVec.ofNat 32 (length + 1) ≠ 0#32 := by
    intro zero
    have value := congrArg BitVec.toNat zero
    simp only [BitVec.toNat_ofNat] at value
    omega
  unfold Seeprom.clockRise
  dsimp only
  rw [more, count_pred, if_neg nonzero]
  rfl

theorem clocked_phase {chip : Seeprom} {bit : Bool} {rest : List Bool}
    (small : rest.length < 2 ^ 31) (counted : chip.count = BitVec.ofNat 32 (rest.length + 1)) :
    clocked chip (bit :: rest) =
      { Seeprom.phaseDone
          { chip with count := 0#32, bitsIn := shiftBits chip.bitsIn (bit :: rest) } with
        bitsIn := 0#32 } := by
  induction rest generalizing chip bit with
  | nil => exact clockRise_last counted bit
  | cons next rest ih =>
      have step := clockRise_more (by simpa using Nat.lt_of_succ_lt small) counted bit
      show clocked (chip.clockRise bit) (next :: rest) = _
      rw [step, ih (by simpa using Nat.lt_of_succ_lt small) rfl]
      rfl

theorem outputs_phase {chip : Seeprom} {bits : List Bool} (small : bits.length < 2 ^ 31)
    (counted : chip.count = BitVec.ofNat 32 bits.length) :
    outputs chip bits =
      (List.range bits.length).map fun k => chip.bitsOut.getLsbD (bits.length - 1 - k) := by
  have first (chip : Seeprom) (length : Nat) (bound : length < 2 ^ 31)
      (counted : chip.count = BitVec.ofNat 32 (length + 1)) :
      chip.outputBit = chip.bitsOut.getLsbD length := by
    rw [Seeprom.outputBit, counted, count_pred, BitVec.toNat_ofNat,
      Nat.mod_eq_of_lt (by omega)]
  induction bits generalizing chip with
  | nil => rfl
  | cons bit rest ih =>
      rw [outputs, List.length_cons, List.range_succ_eq_map, List.map_cons, List.map_map,
        first chip rest.length (by simpa using Nat.lt_of_succ_lt small) counted]
      congr 1
      cases rest with
      | nil => rfl
      | cons next rest =>
          have step := clockRise_more (by simp at small; omega) counted bit
          rw [step, ih (by simp at small ⊢; omega) rfl]
          apply List.map_congr_left
          intro k _
          simp only [Function.comp, List.length_cons]
          congr 1
          omega

end Clocking

section Commands

inductive SeepromCommand where
  | read (spare : BitVec 1) (index : BitVec 7)
  | write (spare : BitVec 1) (index : BitVec 7) (value : BitVec 16)
  | erase (spare : BitVec 1) (index : BitVec 7)
  | writeDisable (spare : BitVec 6)
  | writeAll (spare : BitVec 6) (value : BitVec 16)
  | eraseAll (spare : BitVec 6)
  | writeEnable (spare : BitVec 6)

def SeepromCommand.opcode : SeepromCommand → BitVec 2
  | .read _ _ => 2#2
  | .write _ _ _ => 1#2
  | .erase _ _ => 3#2
  | _ => 0#2

def SeepromCommand.address : SeepromCommand → BitVec 8
  | .read spare index => spare ++ index
  | .write spare index _ => spare ++ index
  | .erase spare index => spare ++ index
  | .writeDisable spare => 0#2 ++ spare
  | .writeAll spare _ => 1#2 ++ spare
  | .eraseAll spare => 2#2 ++ spare
  | .writeEnable spare => 3#2 ++ spare

def SeepromCommand.payload : SeepromCommand → List Bool
  | .write _ _ value => msbBits value
  | .writeAll _ value => msbBits value
  | _ => []

def SeepromCommand.head (command : SeepromCommand) : List Bool :=
  true :: (msbBits command.opcode ++ msbBits command.address)

def SeepromCommand.bits (command : SeepromCommand) : List Bool :=
  command.head ++ command.payload

@[simp] theorem length_head (command : SeepromCommand) : command.head.length = 11 := by
  simp [SeepromCommand.head]

theorem clocked_phase_msbBits {width : Nat} {chip : Seeprom} (positive : 0 < width)
    (small : width < 2 ^ 31) (counted : chip.count = BitVec.ofNat 32 width)
    (clear : chip.bitsIn = 0#32) (x : BitVec width) :
    clocked chip (msbBits x) =
      { Seeprom.phaseDone { chip with count := 0#32, bitsIn := x.setWidth 32 } with
        bitsIn := 0#32 } := by
  have length := length_msbBits x
  have shifted := shiftBits_msbBits x
  cases bits : msbBits x with
  | nil =>
      rw [bits, List.length_nil] at length
      omega
  | cons bit rest =>
      rw [bits, List.length_cons] at length
      rw [bits] at shifted
      rw [clocked_phase (by omega) (by rw [counted, length]), clear, shifted]

def addressing (chip : Seeprom) (command : SeepromCommand) : Seeprom :=
  { chip.idle with
    count := 0#32
    state := .address
    opcode := command.opcode.setWidth 32
    address := command.address.setWidth 32
    bitsIn := command.address.setWidth 32 }

theorem clocked_head (chip : Seeprom) (command : SeepromCommand) :
    clocked chip.idle command.head =
      { (addressing chip command).addressed with bitsIn := 0#32 } := by
  have started : clocked chip.idle [true] =
      { chip.idle with count := 2#32, state := .opcode, bitsIn := 0#32 } := by
    show chip.idle.clockRise true = _
    rw [clockRise_last rfl]
    simp [Seeprom.phaseDone, Seeprom.idle, Seeprom.expect, shiftBits]
  have coded : clocked { chip.idle with count := 2#32, state := .opcode, bitsIn := 0#32 }
      (msbBits command.opcode) =
        { chip.idle with
          count := 8#32
          state := .address
          opcode := command.opcode.setWidth 32
          bitsIn := 0#32 } :=
    clocked_phase_msbBits (by decide) (by decide) rfl rfl command.opcode
  rw [SeepromCommand.head, ← List.singleton_append, clocked_append, clocked_append, started,
    coded]
  exact clocked_phase_msbBits (by decide) (by decide) rfl rfl command.address

def Inert (chip : Seeprom) : Prop :=
  chip.state = .dead ∨ chip.state = .data ∧ chip.opcode = 2#32

theorem clockRise_inert {chip : Seeprom} (inert : Inert chip) (bit : Bool) :
    Inert (chip.clockRise bit) ∧ (chip.clockRise bit).data = chip.data ∧
      (chip.clockRise bit).wren = chip.wren := by
  obtain ⟨state, clock, count, bitsOut, bitsIn, address, opcode, data, wren⟩ := chip
  unfold Seeprom.clockRise
  dsimp only
  split
  · rcases inert with dead | ⟨shifting, reading⟩
    · cases dead
      exact ⟨Or.inl rfl, rfl, rfl⟩
    · cases shifting
      cases reading
      exact ⟨Or.inl rfl, rfl, rfl⟩
  · exact ⟨inert, rfl, rfl⟩

theorem clocked_inert {chip : Seeprom} {bits : List Bool} {data : Option SeepromBytes}
    {wren : Bool} (inert : Inert chip) (same : chip.data = data) (enabled : chip.wren = wren) :
    (clocked chip bits).data = data ∧ (clocked chip bits).wren = wren := by
  induction bits generalizing chip with
  | nil => exact ⟨same, enabled⟩
  | cons bit rest ih =>
      obtain ⟨next, data', wren'⟩ := clockRise_inert inert bit
      exact ih next (data'.trans same) (wren'.trans enabled)

def SeepromCommand.effect (bytes : SeepromBytes) : SeepromCommand → SeepromBytes
  | .write _ index value => wbe16 bytes index value
  | .erase _ index => storeHost bytes index 0#16
  | .writeAll _ value => storeAll bytes value
  | .eraseAll _ => fun _ => 0#8
  | _ => bytes

def SeepromCommand.enables : SeepromCommand → Bool
  | .writeDisable _ => false
  | _ => true

theorem address_index (spare : BitVec 1) (index : BitVec 7) :
    ((spare ++ index).setWidth 32).extractLsb' 0 7 = index := by
  apply BitVec.eq_of_getLsbD_eq
  intro bit bound
  simp only [BitVec.getLsbD_extractLsb', BitVec.getLsbD_setWidth, BitVec.getLsbD_append]
  simp [bound, show bit < 32 by omega]

theorem address_special (kind : BitVec 2) (spare : BitVec 6) :
    (kind ++ spare).setWidth 32 >>> 6 = kind.setWidth 32 := by
  apply BitVec.eq_of_getLsbD_eq
  intro bit bound
  simp only [BitVec.getLsbD_ushiftRight, BitVec.getLsbD_setWidth, BitVec.getLsbD_append]
  by_cases low : bit < 2
  · simp [bound, show 6 + bit < 32 by omega, show ¬6 + bit < 6 by omega]
  · rw [BitVec.getLsbD_of_ge kind bit (by omega)]
    simp [show ¬6 + bit < 6 by omega, show 2 ≤ bit by omega]

theorem clocked_payload {chip : Seeprom} {value : BitVec 16} {rest : List Bool}
    {data : Option SeepromBytes} {wren : Bool} (waiting : chip.state = .data)
    (counted : chip.count = 16#32) (clear : chip.bitsIn = 0#32)
    (stored : (Seeprom.transferred { chip with bitsIn := value.setWidth 32 }).data = data)
    (enabled : chip.wren = wren) :
    (clocked chip (msbBits value ++ rest)).data = data ∧
      (clocked chip (msbBits value ++ rest)).wren = wren := by
  have shifted := clocked_phase_msbBits (by decide) (by decide) counted clear value
  unfold Seeprom.phaseDone at shifted
  simp only [waiting] at shifted
  rw [clocked_append, shifted]
  exact clocked_inert (Or.inl rfl) stored enabled

theorem addressed_read (chip : Seeprom) (spare : BitVec 1) (index : BitVec 7) :
    (addressing chip (.read spare index)).addressed =
      { (addressing chip (.read spare index)).expect 16#32 .data with
        bitsOut := (chip.data.map fun bytes => (be16 bytes index).setWidth 32).getD 0#32 } := by
  show { (addressing chip (.read spare index)).expect 16#32 .data with
    bitsOut := (chip.data.map fun bytes =>
      (be16 bytes (((spare ++ index).setWidth 32).extractLsb' 0 7)).setWidth 32).getD 0#32 } = _
  rw [address_index]

theorem addressed_write {chip : Seeprom} (enabled : chip.wren = true) (spare : BitVec 1)
    (index : BitVec 7) (value : BitVec 16) :
    (addressing chip (.write spare index value)).addressed =
      (addressing chip (.write spare index value)).expect 16#32 .data := by
  exact if_pos enabled

theorem addressed_erase {chip : Seeprom} (enabled : chip.wren = true) (spare : BitVec 1)
    (index : BitVec 7) :
    (addressing chip (.erase spare index)).addressed =
      { (addressing chip (.erase spare index)).finish with
        data := chip.data.map fun bytes => storeHost bytes index 0#16 } := by
  show { (addressing chip (.erase spare index)).finish with
    data := if chip.wren then chip.data.map fun bytes =>
      storeHost bytes (((spare ++ index).setWidth 32).extractLsb' 0 7) 0#16 else chip.data } = _
  rw [if_pos enabled, address_index]

theorem addressed_special (chip : Seeprom) {command : SeepromCommand} {kind : BitVec 2}
    {spare : BitVec 6} (special : command.opcode = 0#2) (field : command.address = kind ++ spare) :
    (addressing chip command).addressed =
      match kind with
      | 0#2 => { (addressing chip command).finish with wren := false }
      | 1#2 =>
          if chip.wren then (addressing chip command).expect 16#32 .data
          else (addressing chip command).finish
      | 2#2 =>
          { (addressing chip command).finish with
            data := if chip.wren then chip.data.map fun _ _ => 0#8 else chip.data }
      | _ => { (addressing chip command).finish with wren := true } := by
  have opcode : (addressing chip command).opcode = 0#32 := by
    rw [addressing, special]
    rfl
  have shifted : (addressing chip command).address >>> 6 = kind.setWidth 32 := by
    show command.address.setWidth 32 >>> 6 = _
    rw [field, address_special]
  have kinds : ∀ kind : BitVec 2, kind = 0#2 ∨ kind = 1#2 ∨ kind = 2#2 ∨ kind = 3#2 := by decide
  unfold Seeprom.addressed
  simp only [opcode]
  unfold Seeprom.special
  simp only [shifted]
  rcases kinds kind with rfl | rfl | rfl | rfl <;> rfl

theorem clocked_command {chip : Seeprom} {bytes : SeepromBytes} (loaded : chip.data = some bytes)
    (enabled : chip.wren = true) (command : SeepromCommand) (rest : List Bool) :
    (clocked chip.idle (command.bits ++ rest)).data = some (command.effect bytes) ∧
      (clocked chip.idle (command.bits ++ rest)).wren = command.enables := by
  have stored (f : SeepromBytes → SeepromBytes) : chip.data.map f = some (f bytes) := by
    rw [loaded, Option.map_some]
  have whole (value : BitVec 16) : (value.setWidth 32).setWidth 16 = value := by
    rw [BitVec.setWidth_setWidth_of_le _ (by decide), BitVec.setWidth_eq]
  rw [SeepromCommand.bits, List.append_assoc, clocked_append, clocked_head]
  cases command with
  | read spare index =>
      rw [addressed_read]
      refine clocked_inert ?_ loaded enabled
      exact Or.inr ⟨rfl, rfl⟩
  | write spare index value =>
      rw [addressed_write enabled]
      refine clocked_payload rfl rfl rfl ?_ enabled
      show (chip.data.map fun bytes =>
        wbe16 bytes (((spare ++ index).setWidth 32).extractLsb' 0 7)
          ((value.setWidth 32).setWidth 16)) = _
      rw [stored, address_index, whole]
      rfl
  | erase spare index =>
      rw [addressed_erase enabled]
      refine clocked_inert ?_ (stored _) enabled
      exact Or.inl rfl
  | writeDisable spare =>
      rw [addressed_special chip rfl rfl]
      refine clocked_inert ?_ loaded rfl
      exact Or.inl rfl
  | writeAll spare value =>
      rw [addressed_special chip rfl rfl]
      simp only [enabled]
      refine clocked_payload rfl rfl rfl ?_ enabled
      show (chip.data.map fun bytes => storeAll bytes ((value.setWidth 32).setWidth 16)) = _
      rw [stored, whole]
      rfl
  | eraseAll spare =>
      rw [addressed_special chip rfl rfl]
      simp only [enabled]
      refine clocked_inert ?_ (stored _) enabled
      exact Or.inl rfl
  | writeEnable spare =>
      rw [addressed_special chip rfl rfl]
      refine clocked_inert ?_ loaded rfl
      exact Or.inl rfl

end Commands

section Words

def swapBytes (x : BitVec 16) : BitVec 16 :=
  x.extractLsb' 0 8 ++ x.extractLsb' 8 8

theorem split_bytes (x : BitVec 16) : x.extractLsb' 8 8 ++ x.extractLsb' 0 8 = x := by
  apply BitVec.eq_of_getLsbD_eq
  intro index bound
  rw [BitVec.getLsbD_append]
  by_cases low : index < 8
  · simp [low]
  · simp [low, show index - 8 < 8 by omega, show 8 + (index - 8) = index by omega]

theorem byte_ne (index other : BitVec 7) : index ++ 0#1 ≠ other ++ 1#1 := by
  intro same
  have bit := congrArg (BitVec.getLsbD · 0) same
  simp only [BitVec.getLsbD_append] at bit
  exact absurd bit (by simp)

theorem byte_injective {index other : BitVec 7} {place : BitVec 1}
    (same : index ++ place = other ++ place) : index = other := by
  apply BitVec.eq_of_getLsbD_eq
  intro bit bound
  have equal := congrArg (BitVec.getLsbD · (1 + bit)) same
  simp only [BitVec.getLsbD_append] at equal
  simpa using equal

theorem be16_update (bytes : SeepromBytes) (index other : BitVec 7) (high low : BitVec 8) :
    be16 (Function.update (Function.update bytes (index ++ 0#1) high) (index ++ 1#1) low) other =
      if other = index then high ++ low else be16 bytes other := by
  have even (other : BitVec 7) : other ++ 0#1 ≠ index ++ 1#1 := byte_ne other index
  have odd (other : BitVec 7) : other ++ 1#1 ≠ index ++ 0#1 := (byte_ne index other).symm
  unfold be16
  by_cases here : other = index
  · rw [if_pos here, here, Function.update_of_ne (even index), Function.update_self,
      Function.update_self]
  · have apart {place : BitVec 1} : other ++ place ≠ index ++ place :=
      fun same => here (byte_injective same)
    rw [if_neg here, Function.update_of_ne (even other), Function.update_of_ne apart,
      Function.update_of_ne apart, Function.update_of_ne (odd other)]

theorem be16_wbe16 (bytes : SeepromBytes) (index other : BitVec 7) (x : BitVec 16) :
    be16 (wbe16 bytes index x) other = if other = index then x else be16 bytes other := by
  rw [wbe16, be16_update, split_bytes]

theorem be16_storeHost (bytes : SeepromBytes) (index other : BitVec 7) (x : BitVec 16) :
    be16 (storeHost bytes index x) other =
      if other = index then swapBytes x else be16 bytes other := by
  exact be16_update bytes index other _ _

theorem be16_storeAll (bytes : SeepromBytes) (other : BitVec 7) (x : BitVec 16) :
    be16 (storeAll bytes x) other = swapBytes x := by
  have rounds (count : Nat) (bound : count ≤ 0x80) :
      be16 ((List.range count).foldl (fun bytes i => storeHost bytes (BitVec.ofNat 7 i) x) bytes)
        other = if other.toNat < count then swapBytes x else be16 bytes other := by
    induction count with
    | zero => rfl
    | succ count ih =>
        rw [List.range_succ, List.foldl_append, List.foldl_cons, List.foldl_nil, be16_storeHost,
          ih (by omega)]
        by_cases here : other = BitVec.ofNat 7 count
        · have value : other.toNat = count := by
            rw [here, BitVec.toNat_ofNat]
            omega
          rw [if_pos here, if_pos (by omega)]
        · have value : other.toNat ≠ count := by
            intro same
            apply here
            rw [← same, BitVec.ofNat_toNat, BitVec.setWidth_eq]
          rw [if_neg here]
          exact if_congr (by omega) rfl rfl
  have all := rounds 0x80 (Nat.le_refl _)
  rwa [if_pos other.isLt] at all

theorem swapBytes_eq_iff (x : BitVec 16) :
    swapBytes x = x ↔ x.extractLsb' 8 8 = x.extractLsb' 0 8 := by
  constructor
  · intro same
    have high := congrArg (BitVec.extractLsb' 8 8) same
    rw [← high]
    apply BitVec.eq_of_getLsbD_eq
    intro index bound
    simp only [swapBytes, BitVec.getLsbD_extractLsb', BitVec.getLsbD_append]
    simp [bound]
  · intro same
    rw [swapBytes, ← same]
    nth_rewrite 2 [same]
    exact split_bytes x

end Words

section Lines

variable {file : SeepromBytes}

def seenClock (word : ARMword) : Bool :=
  selectLine word && clockLine word

def rises (latch word : ARMword) : Bool :=
  seenClock word && !seenClock latch

def clockedIn (latch : ARMword) : List ARMword → List Bool
  | [] => []
  | word :: rest =>
      if rises latch word then dataLine word :: clockedIn word rest else clockedIn word rest

def shiftedOut (file : SeepromBytes) (gpio : Gpio) : List ARMword → List Bool
  | [] => []
  | word :: rest =>
      match starletGpio1LatchWrite file gpio word with
      | none => []
      | some after =>
          if rises gpio.latch word then after.port.getLsbD 13 :: shiftedOut file after rest
          else shiftedOut file after rest

def driveLines (file : SeepromBytes) (gpio : Gpio) (words : List ARMword) : Option Gpio :=
  words.foldlM (starletGpio1LatchWrite file) gpio

def chipOf (file : SeepromBytes) (gpio : Gpio) : Seeprom :=
  gpio.seeprom.load file

/-- The chip follows the lines of the latch, and its output line is an input of the port. -/
structure Synced (file : SeepromBytes) (gpio : Gpio) : Prop where
  clock : (chipOf file gpio).clock = seenClock gpio.latch
  deselected : selectLine gpio.latch = false → chipOf file gpio = (chipOf file gpio).idle
  input : gpio.dir.getLsbD 13 = false

theorem chipOf_loaded (file : SeepromBytes) (gpio : Gpio) :
    ∃ bytes, (chipOf file gpio).data = some bytes := by
  unfold chipOf Seeprom.load
  split
  · exact ⟨_, ‹_›⟩
  · exact ⟨file, rfl⟩

theorem load_of_some {chip : Seeprom} {bytes : SeepromBytes} (loaded : chip.data = some bytes) :
    chip.load file = chip := by
  rw [Seeprom.load, loaded]

theorem phaseDone_loaded {chip : Seeprom} (loaded : chip.data.isSome = true) :
    chip.phaseDone.data.isSome = true := by
  unfold Seeprom.phaseDone
  split
  · exact loaded
  · split <;> exact loaded
  · exact loaded
  · unfold Seeprom.addressed
    split
    · unfold Seeprom.special
      split
      · exact loaded
      · split <;> exact loaded
      · dsimp only
        split
        · rw [Option.isSome_map]
          exact loaded
        · exact loaded
      · exact loaded
      · exact loaded
    · split <;> exact loaded
    · exact loaded
    · dsimp only
      split
      · rw [Option.isSome_map]
        exact loaded
      · exact loaded
    · exact loaded
  · unfold Seeprom.transferred
    dsimp only
    split
    · rw [Option.isSome_map]
      exact loaded
    · rw [Option.isSome_map]
      exact loaded
    · exact loaded

theorem clockRise_loaded {chip : Seeprom} {bytes : SeepromBytes} (loaded : chip.data = some bytes)
    (bit : Bool) : ∃ bytes', (chip.clockRise bit).data = some bytes' := by
  have some : chip.data.isSome = true := by rw [loaded]; rfl
  rw [← Option.isSome_iff_exists]
  unfold Seeprom.clockRise
  dsimp only
  split
  · exact phaseDone_loaded some
  · exact some

def Seeprom.withClock (chip : Seeprom) (clock : Bool) : Seeprom :=
  { chip with clock }

def nextChip (chip : Seeprom) (latch word : ARMword) : Seeprom :=
  if !selectLine word then chip.idle
  else if rises latch word then (chip.clockRise (dataLine word)).withClock true
  else chip.withClock (clockLine word)

theorem setOutput_bit (port : ARMword) (level : Bool) :
    (setOutput port level).getLsbD 13 = level := by
  have set : (0x2000#32).getLsbD 13 = true := by decide
  have clear : (~~~0x2000#32).getLsbD 13 = false := by decide
  cases level with
  | false => rw [setOutput, if_neg Bool.false_ne_true, BitVec.getLsbD_and, clear, Bool.and_false]
  | true => rw [setOutput, if_pos rfl, BitVec.getLsbD_or, set, Bool.or_true]

theorem lines_unchanged {latch word : ARMword} (same : (latch ^^^ word) &&& 0x1c00#32 = 0#32) :
    selectLine word = selectLine latch ∧ clockLine word = clockLine latch := by
  have line (index : Nat) (set : (0x1c00#32).getLsbD index = true) :
      word.getLsbD index = latch.getLsbD index := by
    have bit := congrArg (BitVec.getLsbD · index) same
    simp only [BitVec.getLsbD_and, BitVec.getLsbD_xor, set, Bool.and_true,
      BitVec.getLsbD_zero] at bit
    revert bit
    cases word.getLsbD index <;> cases latch.getLsbD index <;> decide
  exact ⟨line 10 (by decide), line 11 (by decide)⟩

theorem nextChip_loaded {chip : Seeprom} {bytes : SeepromBytes} (loaded : chip.data = some bytes)
    (latch word : ARMword) : ∃ bytes', (nextChip chip latch word).data = some bytes' := by
  unfold nextChip
  split
  · exact ⟨bytes, loaded⟩
  · split
    · exact clockRise_loaded loaded _
    · exact ⟨bytes, loaded⟩

def writtenGpio (file : SeepromBytes) (gpio : Gpio) (word port : ARMword) : Gpio :=
  { gpio with port, latch := word, seeprom := nextChip (chipOf file gpio) gpio.latch word }

theorem chipOf_writtenGpio (gpio : Gpio) (word port : ARMword) :
    chipOf file (writtenGpio file gpio word port) =
      nextChip (chipOf file gpio) gpio.latch word := by
  obtain ⟨bytes, loaded⟩ := chipOf_loaded file gpio
  obtain ⟨_, kept⟩ := nextChip_loaded loaded gpio.latch word
  exact load_of_some kept

theorem synced_writtenGpio {gpio : Gpio} (synced : Synced file gpio) (word port : ARMword) :
    Synced file (writtenGpio file gpio word port) := by
  refine ⟨?_, ?_, synced.input⟩
  · rw [chipOf_writtenGpio]
    show (nextChip (chipOf file gpio) gpio.latch word).clock = seenClock word
    unfold nextChip rises seenClock
    cases selectLine word with
    | false => rfl
    | true =>
        cases clockLine word with
        | false => rfl
        | true => cases selectLine gpio.latch && clockLine gpio.latch <;> rfl
  · intro deselected
    rw [chipOf_writtenGpio]
    show nextChip (chipOf file gpio) gpio.latch word = _
    have low : selectLine word = false := deselected
    rw [nextChip, low, Bool.not_false, if_pos rfl]
    rfl

theorem gpioSeeprom_eq {gpio : Gpio} (synced : Synced file gpio) (word : ARMword) :
    gpioSeeprom file gpio word =
      some
        { gpio with
          port :=
            if rises gpio.latch word then setOutput gpio.port (chipOf file gpio).outputBit
            else gpio.port
          seeprom := nextChip (chipOf file gpio) gpio.latch word } := by
  have clock : (gpio.seeprom.load file).clock = seenClock gpio.latch := synced.clock
  unfold gpioSeeprom nextChip rises
  dsimp only
  rw [synced.input, clock]
  cases selected : selectLine word with
  | false =>
      have unseen : seenClock word = false := by rw [seenClock, selected, Bool.false_and]
      rw [unseen]
      rfl
  | true =>
      have seen : seenClock word = clockLine word := by rw [seenClock, selected, Bool.true_and]
      rw [seen]
      by_cases rising : (clockLine word && !seenClock gpio.latch) = true
      · have high : clockLine word = true := (Bool.and_eq_true_iff.mp rising).1
        rw [if_pos rising, if_pos rising, if_pos rising, high]
        rfl
      · rw [if_neg rising, if_neg rising, if_neg rising]
        rfl

theorem latchWrite_spec {gpio : Gpio} (synced : Synced file gpio) (word : ARMword) :
    ∃ after, starletGpio1LatchWrite file gpio word = some after ∧ Synced file after ∧
      after.latch = word ∧ chipOf file after = nextChip (chipOf file gpio) gpio.latch word ∧
      (rises gpio.latch word = true → after.port.getLsbD 13 = (chipOf file gpio).outputBit) := by
  by_cases changed : (gpio.latch ^^^ word) &&& 0x1c00#32 = 0#32
  · obtain ⟨select, level⟩ := lines_unchanged changed
    have quiet : rises gpio.latch word = false := by
      rw [rises, seenClock, seenClock, select, level, Bool.and_not_self]
    have same : nextChip (chipOf file gpio) gpio.latch word = chipOf file gpio := by
      unfold nextChip
      rw [quiet, select]
      cases selected : selectLine gpio.latch with
      | false => exact (synced.deselected selected).symm
      | true =>
          have kept : clockLine word = (chipOf file gpio).clock := by
            rw [level, synced.clock, seenClock, selected, Bool.true_and]
          rw [Bool.not_true, if_neg Bool.false_ne_true, if_neg Bool.false_ne_true, kept]
          rfl
    refine ⟨{ gpio with latch := word }, ?_, ⟨?_, ?_, synced.input⟩, rfl, same.symm, ?_⟩
    · rw [starletGpio1LatchWrite, if_neg (not_not.mpr changed), Option.map_some]
    · show (chipOf file gpio).clock = seenClock word
      rw [synced.clock, seenClock, seenClock, select, level]
    · intro deselected
      exact synced.deselected (select.symm.trans deselected)
    · intro rising
      exact absurd (quiet.symm.trans rising) Bool.false_ne_true
  · have written : starletGpio1LatchWrite file gpio word = some (writtenGpio file gpio word
        (if rises gpio.latch word then setOutput gpio.port (chipOf file gpio).outputBit
          else gpio.port)) := by
      rw [starletGpio1LatchWrite, if_pos changed, gpioSeeprom_eq synced, Option.map_some]
      rfl
    refine ⟨_, written, synced_writtenGpio synced word _, rfl, chipOf_writtenGpio gpio word _, ?_⟩
    intro rising
    show (if rises gpio.latch word then setOutput gpio.port (chipOf file gpio).outputBit
      else gpio.port).getLsbD 13 = _
    rw [if_pos rising, setOutput_bit]

theorem special_withClock (chip : Seeprom) (clock : Bool) :
    (chip.withClock clock).special = chip.special.withClock clock := by
  obtain ⟨state, level, count, bitsOut, bitsIn, address, opcode, data, wren⟩ := chip
  unfold Seeprom.special Seeprom.withClock
  dsimp only
  generalize address >>> 6 = kind
  split
  · rfl
  · split <;> rfl
  · rfl
  · rfl
  · rfl

theorem addressed_withClock (chip : Seeprom) (clock : Bool) :
    (chip.withClock clock).addressed = chip.addressed.withClock clock := by
  have special := special_withClock chip clock
  obtain ⟨state, level, count, bitsOut, bitsIn, address, opcode, data, wren⟩ := chip
  unfold Seeprom.addressed Seeprom.withClock
  dsimp only
  split
  · exact special
  · split <;> rfl
  · rfl
  · rfl
  · rfl

theorem phaseDone_withClock (chip : Seeprom) (clock : Bool) :
    (chip.withClock clock).phaseDone = chip.phaseDone.withClock clock := by
  have addressed := addressed_withClock { chip with address := chip.bitsIn } clock
  obtain ⟨state, level, count, bitsOut, bitsIn, address, opcode, data, wren⟩ := chip
  unfold Seeprom.phaseDone
  cases state with
  | dead => rfl
  | startBit =>
      unfold Seeprom.withClock
      dsimp only
      split <;> rfl
  | opcode => rfl
  | address => exact addressed
  | data => rfl

theorem clockRise_withClock (chip : Seeprom) (clock bit : Bool) :
    (chip.withClock clock).clockRise bit = (chip.clockRise bit).withClock clock := by
  unfold Seeprom.clockRise
  show (if chip.count - 1#32 = 0#32 then
      { Seeprom.phaseDone (Seeprom.withClock { chip with
          count := chip.count - 1#32
          bitsIn := (chip.bitsIn <<< 1) ||| (BitVec.ofBool bit).setWidth 32 } clock) with
        bitsIn := 0#32 }
    else _) = _
  rw [phaseDone_withClock]
  dsimp only
  split <;> rfl

theorem drive_low {words : List ARMword} (low : ∀ word ∈ words, selectLine word = false)
    (some_word : words ≠ []) {gpio : Gpio} (synced : Synced file gpio) :
    ∃ after, driveLines file gpio words = some after ∧ Synced file after ∧
      seenClock after.latch = false ∧ chipOf file after = (chipOf file gpio).idle ∧
      ∀ more, shiftedOut file gpio (words ++ more) = shiftedOut file after more := by
  induction words generalizing gpio with
  | nil => exact absurd rfl some_word
  | cons word rest ih =>
      obtain ⟨next, written, nextSynced, latch, chip, _⟩ := latchWrite_spec synced word
      have select := low word List.mem_cons_self
      have unseen : seenClock word = false := by rw [seenClock, select, Bool.false_and]
      have quiet : rises gpio.latch word = false := by rw [rises, unseen, Bool.false_and]
      have reset : chipOf file next = (chipOf file gpio).idle := by
        rw [chip, nextChip, select, Bool.not_false, if_pos rfl]
      have skip (more : List ARMword) :
          shiftedOut file gpio (word :: more) = shiftedOut file next more := by
        rw [shiftedOut, written]
        dsimp only
        rw [quiet, if_neg Bool.false_ne_true]
      have drive : driveLines file gpio (word :: rest) = driveLines file next rest := by
        rw [driveLines, List.foldlM_cons, written]
        rfl
      rw [drive]
      by_cases last : rest = []
      · subst last
        exact ⟨next, rfl, nextSynced, by rw [latch, unseen], reset, skip⟩
      · obtain ⟨after, driven, afterSynced, clock, chip', outs⟩ :=
          ih (fun other member => low other (List.mem_cons_of_mem word member)) last nextSynced
        refine ⟨after, driven, afterSynced, clock, ?_, ?_⟩
        · rw [chip', reset]
          rfl
        · intro more
          rw [List.cons_append, skip, outs]

theorem drive_high {words : List ARMword} (high : ∀ word ∈ words, selectLine word = true)
    {gpio : Gpio} (synced : Synced file gpio) {chip : Seeprom}
    (same : chipOf file gpio = chip.withClock (seenClock gpio.latch)) :
    ∃ after, driveLines file gpio words = some after ∧ Synced file after ∧
      (chipOf file after).data = (clocked chip (clockedIn gpio.latch words)).data ∧
      (chipOf file after).wren = (clocked chip (clockedIn gpio.latch words)).wren ∧
      shiftedOut file gpio words = outputs chip (clockedIn gpio.latch words) := by
  induction words generalizing gpio chip with
  | nil => exact ⟨gpio, rfl, synced, by rw [same]; rfl, by rw [same]; rfl, rfl⟩
  | cons word rest ih =>
      obtain ⟨next, written, nextSynced, latch, moved, output⟩ := latchWrite_spec synced word
      have select := high word List.mem_cons_self
      have later := fun other member => high other (List.mem_cons_of_mem word member)
      have seen : seenClock word = clockLine word := by rw [seenClock, select, Bool.true_and]
      have drive : driveLines file gpio (word :: rest) = driveLines file next rest := by
        rw [driveLines, List.foldlM_cons, written]
        rfl
      rw [nextChip, select, Bool.not_true, if_neg Bool.false_ne_true, same] at moved
      rw [drive, clockedIn, shiftedOut, written]
      dsimp only
      by_cases rising : rises gpio.latch word = true
      · rw [if_pos rising, clockRise_withClock] at moved
        have up : seenClock next.latch = true := by
          rw [latch]
          exact (Bool.and_eq_true_iff.mp rising).1
        have chip' : chipOf file next =
            (chip.clockRise (dataLine word)).withClock (seenClock next.latch) := by
          rw [moved, up]
          rfl
        have first : next.port.getLsbD 13 = chip.outputBit := by
          rw [output rising, same]
          rfl
        obtain ⟨after, driven, afterSynced, data, wren, outs⟩ := ih later nextSynced chip'
        rw [latch] at data wren outs
        rw [if_pos rising, if_pos rising, first, outs]
        exact ⟨after, driven, afterSynced, data, wren, rfl⟩
      · rw [if_neg rising, ← seen] at moved
        have chip' : chipOf file next = chip.withClock (seenClock next.latch) := by
          rw [moved, latch]
          rfl
        obtain ⟨after, driven, afterSynced, data, wren, outs⟩ := ih later nextSynced chip'
        rw [latch] at data wren outs
        rw [if_neg rising, if_neg rising, outs]
        exact ⟨after, driven, afterSynced, data, wren, rfl⟩

def Carries (words : List ARMword) (bits : List Bool) : Prop :=
  ∃ low high, words = low ++ high ∧ low ≠ [] ∧ (∀ word ∈ low, selectLine word = false) ∧
    (∀ word ∈ high, selectLine word = true) ∧ clockedIn 0#32 high = bits

theorem clockedIn_unseen {latch : ARMword} (unseen : seenClock latch = false)
    (words : List ARMword) : clockedIn latch words = clockedIn 0#32 words := by
  cases words with
  | nil => rfl
  | cons word rest =>
      have zero : seenClock 0#32 = false := by decide
      rw [clockedIn, clockedIn, rises, rises, unseen, zero]

theorem drive_carries {words : List ARMword} {bits : List Bool} (carries : Carries words bits)
    {gpio : Gpio} (synced : Synced file gpio) :
    ∃ after, driveLines file gpio words = some after ∧ Synced file after ∧
      (chipOf file after).data = (clocked (chipOf file gpio).idle bits).data ∧
      (chipOf file after).wren = (clocked (chipOf file gpio).idle bits).wren ∧
      shiftedOut file gpio words = outputs (chipOf file gpio).idle bits := by
  obtain ⟨low, high, rfl, some_word, deselected, selected, clockBits⟩ := carries
  obtain ⟨ready, driven, readySynced, unseen, chip, outs⟩ := drive_low deselected some_word synced
  have same : chipOf file ready = (chipOf file gpio).idle.withClock (seenClock ready.latch) := by
    rw [chip, unseen]
    rfl
  obtain ⟨after, rest, afterSynced, data, wren, outs'⟩ := drive_high selected readySynced same
  rw [clockedIn_unseen unseen, clockBits] at data wren outs'
  refine ⟨after, ?_, afterSynced, data, wren, by rw [outs, outs']⟩
  rw [driveLines, List.foldlM_append, ← driveLines, driven]
  exact rest

def serialWords (bits : List Bool) : List ARMword :=
  0#32 :: bits.flatMap fun bit =>
    if bit then [0x1400#32, 0x1c00#32] else [0x400#32, 0xc00#32]

theorem serialWords_carries (bits : List Bool) : Carries (serialWords bits) bits := by
  refine ⟨[0#32], _, rfl, List.cons_ne_nil _ _, ?_, ?_, ?_⟩
  · intro word member
    rw [List.mem_singleton.mp member]
    decide
  · intro word member
    obtain ⟨bit, _, member⟩ := List.mem_flatMap.mp member
    cases bit with
    | false =>
        rcases List.mem_pair.mp member with rfl | rfl <;> decide
    | true =>
        rcases List.mem_pair.mp member with rfl | rfl <;> decide
  · have clocks (latch : ARMword) :
        clockedIn latch (bits.flatMap fun bit =>
          if bit then [0x1400#32, 0x1c00#32] else [0x400#32, 0xc00#32]) = bits := by
      induction bits generalizing latch with
      | nil => rfl
      | cons bit rest ih =>
          rw [List.flatMap_cons]
          cases bit with
          | false =>
              show (if rises latch 0x400#32 then _ else _) = _
              rw [show rises latch 0x400#32 = false from rfl, if_neg Bool.false_ne_true]
              exact congrArg (List.cons false) (ih 0xc00#32)
          | true =>
              show (if rises latch 0x1400#32 then _ else _) = _
              rw [show rises latch 0x1400#32 = false from rfl, if_neg Bool.false_ne_true]
              exact congrArg (List.cons true) (ih 0x1c00#32)
    exact clocks 0#32

end Lines

section Storage

variable {file : SeepromBytes} {gpio : Gpio}

def ReadsAs (file : SeepromBytes) (gpio : Gpio) (index : BitVec 7) (value : BitVec 16) : Prop :=
  ∀ words spare clocks, 16 ≤ clocks.length →
    Carries words ((SeepromCommand.read spare index).bits ++ clocks) →
    ((shiftedOut file gpio words).drop 11).take 16 = msbBits value

theorem outputs_read {chip : Seeprom} {bytes : SeepromBytes} (loaded : chip.data = some bytes)
    (spare : BitVec 1) (index : BitVec 7) {clocks : List Bool} (enough : 16 ≤ clocks.length) :
    ((outputs chip.idle ((SeepromCommand.read spare index).bits ++ clocks)).drop 11).take 16 =
      msbBits (be16 bytes index) := by
  have bits : (SeepromCommand.read spare index).bits = (SeepromCommand.read spare index).head :=
    List.append_nil _
  have length : (clocks.take 16).length = 16 := by
    rw [List.length_take]
    omega
  have shifting : clocked chip.idle (SeepromCommand.read spare index).head =
      { (addressing chip (.read spare index)).expect 16#32 .data with
        bitsOut := (be16 bytes index).setWidth 32
        bitsIn := 0#32 } := by
    rw [clocked_head, addressed_read, loaded]
    rfl
  rw [bits, outputs_append, List.drop_left' (by simp), ← List.take_append_drop 16 clocks,
    outputs_append, List.take_left' (by simp [enough]), shifting,
    outputs_phase (by omega) (by rw [length]; rfl), length]
  apply List.map_congr_left
  intro k member
  have bound := List.mem_range.mp member
  simp only [BitVec.getLsbD_setWidth]
  simp [show 15 - k < 32 by omega]

theorem msbBits_injective {width : Nat} {x y : BitVec width} (same : msbBits x = msbBits y) :
    x = y := by
  apply BitVec.eq_of_getLsbD_eq
  intro index bound
  have bit := congrArg (fun bits => bits[width - 1 - index]?) same
  simpa [msbBits, show width - 1 - index < width by omega,
    show width - 1 - (width - 1 - index) = index by omega] using bit

theorem readsAs_iff (synced : Synced file gpio) {bytes : SeepromBytes}
    (loaded : (chipOf file gpio).data = some bytes) (index : BitVec 7) (value : BitVec 16) :
    ReadsAs file gpio index value ↔ be16 bytes index = value := by
  constructor
  · intro reads
    have carries := serialWords_carries
      ((SeepromCommand.read 0#1 index).bits ++ List.replicate 16 false)
    obtain ⟨_, _, _, _, _, outs⟩ := drive_carries carries synced
    have shifted := reads _ 0#1 (List.replicate 16 false) (by simp) carries
    rw [outs, outputs_read loaded 0#1 index (by simp)] at shifted
    exact msbBits_injective shifted
  · rintro rfl words spare clocks enough carries
    obtain ⟨_, _, _, _, _, outs⟩ := drive_carries carries synced
    rw [outs, outputs_read loaded spare index enough]

theorem drive_command (synced : Synced file gpio) {bytes : SeepromBytes}
    (loaded : (chipOf file gpio).data = some bytes) (enabled : (chipOf file gpio).wren = true)
    (command : SeepromCommand) {words : List ARMword} {rest : List Bool}
    (carries : Carries words (command.bits ++ rest)) :
    ∃ after, driveLines file gpio words = some after ∧ Synced file after ∧
      (chipOf file after).wren = command.enables ∧
      ∀ index value, ReadsAs file after index value ↔
        be16 (command.effect bytes) index = value := by
  obtain ⟨after, driven, afterSynced, data, wren, _⟩ := drive_carries carries synced
  obtain ⟨stored, enables⟩ := clocked_command loaded enabled command rest
  exact ⟨after, driven, afterSynced, wren.trans enables,
    fun index value => readsAs_iff afterSynced (data.trans stored) index value⟩

def Leaves (file : SeepromBytes) (gpio : Gpio) (command : SeepromCommand)
    (result : BitVec 7 → BitVec 16 → BitVec 16) : Prop :=
  ∀ words rest, Carries words (command.bits ++ rest) →
    ∃ after, driveLines file gpio words = some after ∧
      ∀ index before, ReadsAs file gpio index before → ReadsAs file after index (result index before)

/-- The commands store what is written. -/
structure StoresWritten (file : SeepromBytes) (gpio : Gpio) (index : BitVec 7)
    (value : BitVec 16) : Prop where
  write : ∀ spare, Leaves file gpio (.write spare index value) fun other before =>
    if other = index then value else before
  writeAll : ∀ spare, Leaves file gpio (.writeAll spare value) fun _ _ => value
  erase : ∀ spare, Leaves file gpio (.erase spare index) fun other before =>
    if other = index then 0#16 else before
  eraseAll : ∀ spare, Leaves file gpio (.eraseAll spare) fun _ _ => 0#16

theorem leaves_of_effect (synced : Synced file gpio) {bytes : SeepromBytes}
    (loaded : (chipOf file gpio).data = some bytes) (enabled : (chipOf file gpio).wren = true)
    {command : SeepromCommand} {result : BitVec 7 → BitVec 16 → BitVec 16}
    (effect : ∀ index, be16 (command.effect bytes) index = result index (be16 bytes index)) :
    Leaves file gpio command result := by
  intro words rest carries
  obtain ⟨after, driven, _, _, reads⟩ := drive_command synced loaded enabled command carries
  refine ⟨after, driven, ?_⟩
  intro index before shifted
  rw [reads, effect, (readsAs_iff synced loaded index before).mp shifted]

theorem effect_of_leaves (synced : Synced file gpio) {bytes : SeepromBytes}
    (loaded : (chipOf file gpio).data = some bytes) (enabled : (chipOf file gpio).wren = true)
    {command : SeepromCommand} {result : BitVec 7 → BitVec 16 → BitVec 16}
    (leaves : Leaves file gpio command result) (index : BitVec 7) :
    be16 (command.effect bytes) index = result index (be16 bytes index) := by
  have carries : Carries (serialWords command.bits) (command.bits ++ []) := by
    rw [List.append_nil]
    exact serialWords_carries command.bits
  obtain ⟨after, driven, shifted⟩ := leaves _ [] carries
  obtain ⟨after', driven', _, _, reads⟩ := drive_command synced loaded enabled command carries
  have same : after = after' := Option.some.inj (driven.symm.trans driven')
  subst same
  exact (reads index _).mp (shifted index _ ((readsAs_iff synced loaded index _).mpr rfl))

theorem synced_powerOn {dir : ARMword} (input : dir.getLsbD 13 = false) :
    Synced file (gpioPowerOn dir) := by
  have low : seenClock 0#32 = false := by decide
  exact ⟨low.symm, fun _ => rfl, input⟩

theorem synced_drive {words : List ARMword} {after : Gpio} (synced : Synced file gpio)
    (driven : driveLines file gpio words = some after) : Synced file after := by
  induction words generalizing gpio with
  | nil =>
      cases driven
      exact synced
  | cons word rest ih =>
      obtain ⟨next, written, nextSynced, _⟩ := latchWrite_spec synced word
      rw [driveLines, List.foldlM_cons, written] at driven
      exact ih nextSynced driven

/-- From any state that latch writes reach with writes enabled, the chip stores what is
written exactly when the value has two equal bytes: only then does the direct store of the
write all command agree with the reads. -/
theorem seeprom_stores_iff (file : SeepromBytes) (dir : ARMword) (input : dir.getLsbD 13 = false)
    (history : List ARMword) (gpio : Gpio)
    (reached : driveLines file (gpioPowerOn dir) history = some gpio)
    (enabled : gpio.seeprom.wren = true) (index : BitVec 7) (value : BitVec 16) :
    StoresWritten file gpio index value ↔ value.extractLsb' 8 8 = value.extractLsb' 0 8 := by
  have synced : Synced file gpio := synced_drive (synced_powerOn input) reached
  obtain ⟨bytes, loaded⟩ := chipOf_loaded file gpio
  have writes : (chipOf file gpio).wren = true := by
    rw [← enabled, chipOf, Seeprom.load]
    split <;> rfl
  have zero : swapBytes 0#16 = 0#16 := by decide
  rw [← swapBytes_eq_iff]
  constructor
  · intro stores
    rw [← be16_storeAll bytes 0#7 value]
    exact effect_of_leaves synced loaded writes (stores.writeAll 0#6) 0#7
  · intro same
    refine ⟨fun spare => ?_, fun spare => ?_, fun spare => ?_, fun spare => ?_⟩
    · exact leaves_of_effect synced loaded writes fun other => be16_wbe16 bytes index other value
    · exact leaves_of_effect synced loaded writes fun other =>
        (be16_storeAll bytes other value).trans same
    · refine leaves_of_effect synced loaded writes fun other => ?_
      rw [← zero]
      exact be16_storeHost bytes index other 0#16
    · refine leaves_of_effect synced loaded writes fun _ => ?_
      show 0#8 ++ 0#8 = 0#16
      decide

/-- The value `0x4242` behind a write enable command. -/
theorem seeprom_stores_iff_enabled :
    ∃ gpio, driveLines (fun _ => 0#8) (gpioPowerOn 0#32)
        (serialWords (SeepromCommand.writeEnable 0#6).bits) = some gpio ∧
      StoresWritten (fun _ => 0#8) gpio 5#7 0x4242#16 := by
  have enabled : (driveLines (fun _ => 0#8) (gpioPowerOn 0#32)
      (serialWords (SeepromCommand.writeEnable 0#6).bits)).map (·.seeprom.wren) = some true := by
    decide +kernel
  obtain ⟨gpio, reached, wren⟩ := Option.map_eq_some_iff.mp enabled
  exact ⟨gpio, reached, (seeprom_stores_iff _ 0#32 (by decide) _ gpio reached wren 5#7 0x4242#16).mpr
    (by decide)⟩

/-- A write all of `0x1234` is read back as `0x3412`. -/
theorem writeAll_exchanges_bytes :
    let zeros : SeepromBytes := fun _ => 0#8
    let words := serialWords (SeepromCommand.writeEnable 0#6).bits ++
      serialWords (SeepromCommand.writeAll 0#6 0x1234#16).bits
    let reading := serialWords ((SeepromCommand.read 0#1 0#7).bits ++ List.replicate 16 false)
    (driveLines zeros (gpioPowerOn 0#32) words).map
        (fun gpio => ((shiftedOut zeros gpio reading).drop 11).take 16) =
      some (msbBits 0x3412#16) ∧ msbBits 0x3412#16 ≠ msbBits 0x1234#16 := by
  decide +kernel

end Storage

end SkyeyeStarlet
