import Mathlib.Logic.Function.Basic
import SkyeyeStarlet.TlbCore

/-!
The serial EEPROM behind the GPIO lines: `gpio_seeprom` and `starlet_gpio1_latch_write`.
The 128 words are stored as 256 bytes of a little endian host; some commands access them
through `be16` and `wbe16`, others directly.
-/

namespace SkyeyeStarlet

/-- The values -1 to 3 of `state`. -/
inductive SeepromState where
  | dead
  | startBit
  | opcode
  | address
  | data
  deriving DecidableEq, Repr

abbrev SeepromBytes :=
  BitVec 8 → BitVec 8

def be16 (bytes : SeepromBytes) (index : BitVec 7) : BitVec 16 :=
  bytes (index ++ 0#1) ++ bytes (index ++ 1#1)

def wbe16 (bytes : SeepromBytes) (index : BitVec 7) (x : BitVec 16) : SeepromBytes :=
  Function.update (Function.update bytes (index ++ 0#1) (x.extractLsb' 8 8)) (index ++ 1#1)
    (x.extractLsb' 0 8)

/-- The assignment `data[index] = x` on the host. -/
def storeHost (bytes : SeepromBytes) (index : BitVec 7) (x : BitVec 16) : SeepromBytes :=
  Function.update (Function.update bytes (index ++ 0#1) (x.extractLsb' 0 8)) (index ++ 1#1)
    (x.extractLsb' 8 8)

/-- `data` is null until the first access. -/
structure Seeprom where
  state : SeepromState
  clock : Bool
  count : BitVec 32
  bitsOut : BitVec 32
  bitsIn : BitVec 32
  address : BitVec 32
  opcode : BitVec 32
  data : Option SeepromBytes
  wren : Bool

def Seeprom.idle (chip : Seeprom) : Seeprom :=
  { chip with
    clock := false
    state := .startBit
    bitsOut := 0#32
    bitsIn := 0#32
    count := 1#32
    address := 0#32 }

/-- The first access loads the contents of the file, or zeros if it is too short. -/
def Seeprom.load (file : SeepromBytes) (chip : Seeprom) : Seeprom :=
  match chip.data with
  | some _ => chip
  | none => { chip.idle with data := some file }

def Seeprom.finish (chip : Seeprom) : Seeprom :=
  { chip with count := 1#32, state := .dead }

def Seeprom.expect (chip : Seeprom) (count : BitVec 32) (state : SeepromState) : Seeprom :=
  { chip with count, state }

/-- `address & 0x7f`. -/
def Seeprom.wordIndex (chip : Seeprom) : BitVec 7 :=
  chip.address.extractLsb' 0 7

def Seeprom.special (chip : Seeprom) : Seeprom :=
  match chip.address >>> 6 with
  | 0#32 => { chip.finish with wren := false }
  | 1#32 => if chip.wren then chip.expect 16#32 .data else chip.finish
  | 2#32 =>
      { chip.finish with data := if chip.wren then chip.data.map fun _ _ => 0#8 else chip.data }
  | 3#32 => { chip.finish with wren := true }
  | _ => chip

def Seeprom.addressed (chip : Seeprom) : Seeprom :=
  match chip.opcode with
  | 0#32 => chip.special
  | 1#32 => if chip.wren then chip.expect 16#32 .data else chip.finish
  | 2#32 =>
      { chip.expect 16#32 .data with
        bitsOut := (chip.data.map fun bytes => (be16 bytes chip.wordIndex).setWidth 32).getD 0#32 }
  | 3#32 =>
      { chip.finish with
        data :=
          if chip.wren then chip.data.map fun bytes => storeHost bytes chip.wordIndex 0#16
          else chip.data }
  | _ => chip

def storeAll (bytes : SeepromBytes) (x : BitVec 16) : SeepromBytes :=
  (List.range 0x80).foldl (fun bytes i => storeHost bytes (BitVec.ofNat 7 i) x) bytes

def Seeprom.transferred (chip : Seeprom) : Seeprom :=
  let x := chip.bitsIn.setWidth 16
  let data :=
    match chip.opcode with
    | 0#32 => chip.data.map fun bytes => storeAll bytes x
    | 1#32 => chip.data.map fun bytes => wbe16 bytes chip.wordIndex x
    | _ => chip.data
  { chip.finish with data }

def Seeprom.phaseDone (chip : Seeprom) : Seeprom :=
  match chip.state with
  | .dead => { chip with count := 1#32 }
  | .startBit =>
      if chip.bitsIn = 1#32 then chip.expect 2#32 .opcode
      else { chip.finish with bitsOut := 1#32 }
  | .opcode => { chip.expect 8#32 .address with opcode := chip.bitsIn }
  | .address => Seeprom.addressed { chip with address := chip.bitsIn }
  | .data => chip.transferred

def Seeprom.clockRise (chip : Seeprom) (level : Bool) : Seeprom :=
  let shifted :=
    { chip with
      count := chip.count - 1#32
      bitsIn := (chip.bitsIn <<< 1) ||| (BitVec.ofBool level).setWidth 32 }
  if shifted.count = 0#32 then { shifted.phaseDone with bitsIn := 0#32 } else shifted

def Seeprom.outputBit (chip : Seeprom) : Bool :=
  chip.bitsOut.getLsbD (chip.count - 1#32).toNat

structure Gpio where
  port : ARMword
  dir : ARMword
  latch : ARMword
  seeprom : Seeprom

def selectLine (word : ARMword) : Bool :=
  word.getLsbD 10

def clockLine (word : ARMword) : Bool :=
  word.getLsbD 11

def dataLine (word : ARMword) : Bool :=
  word.getLsbD 12

def setOutput (port : ARMword) (level : Bool) : ARMword :=
  if level then port ||| 0x2000#32 else port &&& ~~~0x2000#32

/-- `gpio_seeprom`; the emulator exits when the output line is driven from both sides. -/
def gpioSeeprom (file : SeepromBytes) (gpio : Gpio) (word : ARMword) : Option Gpio :=
  let chip := gpio.seeprom.load file
  if !selectLine word then some { gpio with seeprom := chip.idle }
  else if gpio.dir.getLsbD 13 then none
  else if clockLine word && !chip.clock then
    some
      { gpio with
        port := setOutput gpio.port chip.outputBit
        seeprom := { chip.clockRise (dataLine word) with clock := clockLine word } }
  else some { gpio with seeprom := { chip with clock := clockLine word } }

def starletGpio1LatchWrite (file : SeepromBytes) (gpio : Gpio) (word : ARMword) : Option Gpio :=
  let changes := gpio.latch ^^^ word
  let after := if changes &&& 0x1c00#32 ≠ 0#32 then gpioSeeprom file gpio word else some gpio
  after.map fun gpio => { gpio with latch := word }

def gpioPowerOn (dir : ARMword) : Gpio :=
  { port := 0#32
    dir
    latch := 0#32
    seeprom :=
      { state := .startBit, clock := false, count := 0#32, bitsOut := 0#32, bitsIn := 0#32
        address := 0#32, opcode := 0#32, data := none, wren := false } }

end SkyeyeStarlet
