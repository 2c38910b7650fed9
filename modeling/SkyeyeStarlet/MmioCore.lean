import SkyeyeStarlet.MailboxCore
import SkyeyeStarlet.SeepromCore

/-!
The elements of host arrays that an access to a register of `mach/skyeye_mach_starlet.c`
touches, and the registers that these depend on.  Indices that are constants in the source
are left out.  A copy of the AES, SHA, SD, disc or NAND engine reaches registers through the
same routines, with `internal` set: such accesses are accesses of their own here.
-/

namespace SkyeyeStarlet

inductive HostArray where
  | shaBuf
  | shaResult
  | aesSrcBuf
  | aesDestBuf
  | otp
  | response
  | bootCode
  | seepromData
  | srama
  | sramb
  | boot0
  | dummy
  | hollywoodPortState
  | null
  deriving DecidableEq, Repr

/-- The number of elements: bytes, or words of `otp`, `response`, `boot_code` and the EEPROM.
`dummy` is one word that is accessed by bytes. -/
def HostArray.size : HostArray → Nat
  | .shaBuf | .aesSrcBuf | .aesDestBuf | .srama | .hollywoodPortState => 0x10000
  | .shaResult => 20
  | .otp => 32
  | .response => 4
  | .bootCode => 16
  | .seepromData => 0x80
  | .sramb => 0x8000
  | .boot0 => 0x2000
  | .dummy => 4
  | .null => 0

structure Span where
  array : HostArray
  first : Nat
  count : Nat
  deriving DecidableEq, Repr

def Span.InRange (span : Span) : Prop :=
  ∀ offset < span.count, span.first + offset < span.array.size

/-- The registers that indices depend on; `otp` tells whether the array is allocated. -/
structure Ports where
  otp : Bool
  otpIndex : ARMword
  gpio : Gpio
  gpio1Owner : ARMword
  mirrorFlags : ARMword
  boot0Flags : ARMword
  exited : Bool

inductive MmioOperation where
  | read
  | write (data : ARMword)
  deriving DecidableEq, Repr

structure MmioAccess where
  operation : MmioOperation
  width : CopyWidth
  addr : ARMword
  internal : Bool
  deriving DecidableEq, Repr

/-- The devices between which `starlet_io_read_word` and `starlet_io_write_word` choose. -/
inductive IoDevice where
  | hollywood
  | di
  | exi
  | aes
  | sha
  | ohc
  | sdhc
  | sdio
  | dram
  | sram
  | unimplemented
  deriving DecidableEq, Repr

def starletIoDevice (addr : ARMword) : IoDevice :=
  let page := addr >>> 16
  let device := addr &&& 0xfc00#32
  if addr >>> 20 = 0x0d4#32 ∨ addr >>> 20 = 0x0dc#32 ∨ addr >>> 20 = 0xfff#32 then .sram
  else if (page = 0x0d00#32 ∨ page = 0x0d80#32) ∧ device = 0x0000#32 then .hollywood
  else if (page = 0x0d00#32 ∨ page = 0x0d80#32) ∧ device = 0x6000#32 then .di
  else if (page = 0x0d00#32 ∨ page = 0x0d80#32) ∧ device = 0x6800#32 then .exi
  else if page = 0x0d00#32 ∨ page = 0x0d02#32 then .aes
  else if page = 0x0d03#32 then .sha
  else if page = 0x0d05#32 ∨ page = 0x0d06#32 then .ohc
  else if page = 0x0d07#32 then .sdhc
  else if page = 0x0d08#32 then .sdio
  else if page = 0x0d80#32 ∨ page = 0x0d8b#32 then .dram
  else .unimplemented

def portOffset (addr : ARMword) : Nat :=
  (addr &&& 0xffff#32).toNat

section Memory

/-- `starlet_sram_decode`; the emulator exits where the boot ROM shadows a mirrored SRAM. -/
def starletSramDecode (ports : Ports) (internal : Bool) (addr : ARMword) :
    Option (HostArray × Nat) :=
  let boot0 := ports.boot0Flags &&& 0x1000#32 == 0#32
  let mirror := ports.mirrorFlags &&& 0x20#32 != 0#32
  if boot0 && mirror && decide (addr < 0xffff0000#32) then none
  else if boot0 && !mirror && decide (0xffff0000#32 ≤ addr) then
    some (.boot0, (addr &&& 0x1fff#32).toNat)
  else
    let sram := addr &&& 0x1ffff#32
    let sram := if mirror && !internal then sram ^^^ 0x10000#32 else sram
    if sram &&& 0x10000#32 != 0#32 then
      if sram &&& 0x8000#32 != 0#32 then some (.dummy, 0)
      else some (.sramb, (sram &&& 0x7fff#32).toNat)
    else some (.srama, (sram &&& 0xffff#32).toNat)

def CopyWidth.size : CopyWidth → Nat
  | .byte => 1
  | .halfword => 2
  | .word => 4

/-- `be16`, `be32` and their counterparts at the decoded byte. -/
def sramSpans (ports : Ports) (access : MmioAccess) : List Span :=
  match starletSramDecode ports access.internal access.addr with
  | some (array, first) => [{ array, first, count := access.width.size }]
  | none => []

end Memory

/-- `boot_code[(addr&0x3f)>>2]` at the addresses of the boot code. -/
def exiSpans (addr : ARMword) : List Span :=
  let low := (addr &&& 0xff#32).toNat
  if 0x40 ≤ low ∧ low ≤ 0x7c ∧ low % 4 = 0 then
    [{ array := .bootCode, first := ((addr &&& 0x3f#32) >>> 2).toNat, count := 1 }]
  else []

def shaReadSpans (addr : ARMword) : List Span :=
  let offset := portOffset addr
  if offset = 0x08 ∨ offset = 0x0c ∨ offset = 0x10 ∨ offset = 0x14 ∨ offset = 0x18 then
    [{ array := .shaResult, first := offset - 8, count := 4 }]
  else []

def portStateSpan (addr : ARMword) : Span :=
  { array := .hollywoodPortState, first := portOffset addr, count := 4 }

/-- `starlet_otp_getdata`. -/
def otpSpan (ports : Ports) : Span :=
  { array := if ports.otp then .otp else .null, first := ports.otpIndex.toNat, count := 1 }

def hollywoodReadSpans (ports : Ports) (addr : ARMword) : List Span :=
  if portOffset addr = 0x1f0 then [portStateSpan addr, otpSpan ports]
  else [portStateSpan addr]

def readWordSpans (ports : Ports) (access : MmioAccess) : List Span :=
  match starletIoDevice access.addr with
  | .hollywood => hollywoodReadSpans ports access.addr
  | .exi => exiSpans access.addr
  | .sha => shaReadSpans access.addr
  | .sram => sramSpans ports access
  | _ => []

/-- Only the halfwords of the AHB registers are not routed as words are. -/
def mmioReadSpans (ports : Ports) (access : MmioAccess) : List Span :=
  if access.width = .halfword ∧ access.addr >>> 16 = 0x0d8b#32 then []
  else readWordSpans ports access

section Seeprom

def Seeprom.whole : Span :=
  { array := .seepromData, first := 0, count := 0x80 }

/-- `data[address & 0x7f]`. -/
def Seeprom.element (chip : Seeprom) : Span :=
  { array := .seepromData, first := (chip.address &&& 0x7f#32).toNat, count := 1 }

def Seeprom.phaseSpans (chip : Seeprom) : List Span :=
  match chip.state with
  | .address =>
      let addressed := { chip with address := chip.bitsIn }
      match chip.opcode with
      | 0#32 =>
          if chip.bitsIn >>> 6 == 2#32 && chip.wren then [Seeprom.whole] else []
      | 2#32 => [addressed.element]
      | 3#32 => if chip.wren then [addressed.element] else []
      | _ => []
  | .data =>
      match chip.opcode with
      | 0#32 => [Seeprom.whole]
      | 1#32 => [chip.element]
      | _ => []
  | _ => []

def Seeprom.riseSpans (chip : Seeprom) (level : Bool) : List Span :=
  let shifted :=
    { chip with
      count := chip.count - 1#32
      bitsIn := (chip.bitsIn <<< 1) ||| (BitVec.ofBool level).setWidth 32 }
  if shifted.count = 0#32 then shifted.phaseSpans else []

/-- What `starlet_gpio1_latch_write` touches. -/
def latchSpans (file : SeepromBytes) (gpio : Gpio) (word : ARMword) : List Span :=
  let chip := gpio.seeprom.load file
  if (gpio.latch ^^^ word) &&& 0x1c00#32 ≠ 0#32 ∧ selectLine word = true ∧
      gpio.dir.getLsbD 13 = false ∧ clockLine word = true ∧ chip.clock = false then
    chip.riseSpans (dataLine word)
  else []

end Seeprom

/-- What the GPIO latch becomes when the ARM, or the PPC, writes its own lines. -/
def armLatch (ports : Ports) (data : ARMword) : ARMword :=
  (data &&& (ports.gpio1Owner ^^^ 0xffffff#32)) ||| (ports.gpio.latch &&& ports.gpio1Owner)

def ppcLatch (ports : Ports) (data : ARMword) : ARMword :=
  (data &&& ports.gpio1Owner) ||| (ports.gpio.latch &&& (ports.gpio1Owner ^^^ 0xffffff#32))

def armDir (ports : Ports) (data : ARMword) : ARMword :=
  (data &&& (ports.gpio1Owner ^^^ 0xffffff#32)) ||| (ports.gpio.dir &&& ports.gpio1Owner)

def ppcDir (ports : Ports) (data : ARMword) : ARMword :=
  (data &&& ports.gpio1Owner) ||| (ports.gpio.dir &&& (ports.gpio1Owner ^^^ 0xffffff#32))

/-- What the files of the OTP and the EEPROM hold; the OTP's is only asked for its length. -/
structure Images where
  otpFile : Bool
  seepromFile : SeepromBytes

/-- Every write looks at its old value first; those of the GPIO and OTP return without
storing the new one.  The first write to the OTP address shows word 9 of the file. -/
def hollywoodWriteSpans (images : Images) (ports : Ports) (addr data : ARMword) : List Span :=
  match portOffset addr with
  | 0x0c0 => portStateSpan addr :: latchSpans images.seepromFile ports.gpio (ppcLatch ports data)
  | 0x0e0 => portStateSpan addr :: latchSpans images.seepromFile ports.gpio (armLatch ports data)
  | 0x0c4 | 0x0c8 | 0x0dc | 0x0e4 | 0x0e8 | 0x0fc => [portStateSpan addr]
  | 0x1ec =>
      if !ports.otp && images.otpFile then
        [portStateSpan addr, { array := .otp, first := 9, count := 1 }]
      else [portStateSpan addr]
  | _ => [portStateSpan addr, portStateSpan addr]

def starts (addr data : ARMword) : Prop :=
  portOffset addr = 0 ∧ data.getLsbD 31 = true

instance (addr data : ARMword) : Decidable (starts addr data) := by
  unfold starts
  infer_instance

/-- `starlet_aes_command`: both buffers, and the last block as the next vector. -/
def aesWriteSpans (addr data : ARMword) : List Span :=
  if starts addr data then
    let numBytes := ((data &&& 0xfff#32).toNat + 1) * 0x10
    [{ array := .aesSrcBuf, first := 0, count := numBytes },
      { array := .aesDestBuf, first := 0, count := numBytes },
      { array := .aesSrcBuf, first := numBytes - 0x10, count := 0x10 }]
  else []

def shaWriteSpans (addr data : ARMword) : List Span :=
  if starts addr data then
    [{ array := .shaBuf, first := 0, count := ((data &&& 0xfff#32).toNat + 1) * 0x40 }]
  else []

/-- `response[reg]` with `reg` the offset in bytes. -/
def sdhcWriteSpans (addr : ARMword) : List Span :=
  let offset := portOffset addr
  if offset = 0x10 ∨ offset = 0x14 ∨ offset = 0x18 ∨ offset = 0x1c then
    [{ array := .response, first := offset - 0x10, count := 1 }]
  else []

def writeWordSpans (images : Images) (ports : Ports) (access : MmioAccess) (data : ARMword) :
    List Span :=
  match starletIoDevice access.addr with
  | .hollywood => hollywoodWriteSpans images ports access.addr data
  | .exi => exiSpans access.addr
  | .aes => aesWriteSpans access.addr data
  | .sha => shaWriteSpans access.addr data
  | .sdhc => sdhcWriteSpans access.addr
  | .sram => sramSpans ports access
  | _ => []

def mmioWriteSpans (images : Images) (ports : Ports) (access : MmioAccess) (data : ARMword) :
    List Span :=
  if access.width = .halfword ∧ access.addr >>> 16 = 0x0d8b#32 then []
  else writeWordSpans images ports access data

/-- The elements that an access touches; an emulator that has exited touches none. -/
def mmioSpans (images : Images) (ports : Ports) (access : MmioAccess) : List Span :=
  if ports.exited then []
  else
    match access.operation with
    | .read => mmioReadSpans ports access
    | .write data => mmioWriteSpans images ports access data

def Ports.latch (images : Images) (ports : Ports) (word : ARMword) : Ports :=
  match starletGpio1LatchWrite images.seepromFile ports.gpio word with
  | some gpio => { ports with gpio }
  | none => { ports with exited := true }

/-- `starlet_otp_setaddr`: an index beyond the array is logged and kept. -/
def starletOtpSetaddr (ports : Ports) (index : ARMword) : Ports :=
  { ports with otp := true, otpIndex := index &&& 0xff#32 }

def Ports.hollywoodWrite (images : Images) (ports : Ports) (addr data : ARMword) : Ports :=
  match portOffset addr with
  | 0x060 => { ports with mirrorFlags := data }
  | 0x0c0 => ports.latch images (ppcLatch ports data)
  | 0x0c4 => { ports with gpio := { ports.gpio with dir := ppcDir ports data } }
  | 0x0e0 => ports.latch images (armLatch ports data)
  | 0x0e4 => { ports with gpio := { ports.gpio with dir := armDir ports data } }
  | 0x0fc => { ports with gpio1Owner := data }
  | 0x188 =>
      { ports with
        boot0Flags :=
          (ports.boot0Flags &&& 0xfffffff0#32) |||
            (if data &&& 0x10000#32 = 0#32 then 9#32 else 0#32) }
  | 0x18c => { ports with boot0Flags := data }
  | 0x1ec => starletOtpSetaddr ports data
  | _ => ports

def mmioStep (images : Images) (ports : Ports) (access : MmioAccess) : Ports :=
  if ports.exited || (access.width == .halfword && access.addr >>> 16 == 0x0d8b#32) then ports
  else
    match starletIoDevice access.addr, access.operation with
    | .hollywood, .write data => ports.hollywoodWrite images access.addr data
    | .sram, _ =>
        if starletSramDecode ports access.internal access.addr = none then
          { ports with exited := true }
        else ports
    | _, _ => ports

/-- The registers that `starlet_io_reset` leaves. -/
def resetPorts : Ports :=
  { otp := false
    otpIndex := 0#32
    gpio := { gpioPowerOn 0#32 with latch := 0x20#32 }
    gpio1Owner := 0#32
    mirrorFlags := 0#32
    boot0Flags := 0#32
    exited := false }

end SkyeyeStarlet
