import SkyeyeStarlet.ShaCore
import SkyeyeStarlet.SramCore

/-!
The registers of `mach/skyeye_mach_starlet.c` that raise no interrupt (GPIO, OTP, clocks and
flags, EXI, memory controllers, SRAM), as what a `Board` works on, and the read routines of
all devices.  Debug output is left out.
-/

namespace SkyeyeStarlet

structure ExiChannel where
  csr : ARMword
  mar : ARMword
  len : ARMword
  cr : ARMword
  data : ARMword
  deriving DecidableEq, Repr

/-- The values -1 to 2 of `gecko.state`. -/
inductive GeckoState where
  | dead
  | command
  | identify
  | send
  deriving DecidableEq, Repr

structure Gecko where
  cs : Bool
  state : GeckoState
  cmd : BitVec 8
  deriving DecidableEq, Repr

structure Exi where
  exi0 : ExiChannel
  exi1 : ExiChannel
  exi2 : ExiChannel
  bootCode : Nat → ARMword
  gecko : Gecko

/-- `gpio1_latch` and the other registers that an index depends on are those of `ports`;
`guest` is what the banks of RAM hold and `hash` the context of the hash library. -/
structure PlainIo (Guest Hash : Type) where
  ports : Ports
  gpio1Enable : ARMword
  ahbFlushFlags : ARMword
  clocks : ARMword
  portState : Nat → BitVec 8
  exi : Exi
  dram4074 : ARMword
  dram4076 : ARMword
  ahbFlushcmd : ARMword
  internal : Nat
  sram : SramBytes
  guest : Guest
  hash : Hash

section Exi

def geckoSelect (gecko : Gecko) (selected : Bool) : Gecko :=
  if selected = gecko.cs then gecko else { gecko with state := .command, cs := selected }

def geckoExchange (gecko : Gecko) (byte : BitVec 8) : Gecko × BitVec 8 :=
  if !gecko.cs then (gecko, 0#8)
  else
    match gecko.state with
    | .dead => (gecko, 0#8)
    | .command =>
        let named := { gecko with cmd := byte }
        match (byte.extractLsb' 4 4).toNat with
        | 0x9 => ({ named with state := .identify }, 0x04#8)
        | 0xc => ({ named with state := .dead }, 0x04#8)
        | 0xb => ({ named with state := .send }, 0x04#8)
        | _ => ({ named with state := .dead }, 0#8)
    | .identify => ({ gecko with state := .dead }, 0x70#8)
    | .send => ({ gecko with state := .dead }, 0#8)

/-- The immediate transfer of `cr`: four rounds, of which the first `len` reach the adapter. -/
def exiExchange (len : Nat) (gecko : Gecko) (data : ARMword) : Gecko × ARMword :=
  (List.range 4).foldl
    (fun (gecko, data) i =>
      let (next, byte) :=
        if i < len then geckoExchange gecko (data.extractLsb' 24 8) else (gecko, 0#8)
      (next, (data <<< 8) ||| byte.setWidth 32))
    (gecko, data)

def starletExiWrite (exi : Exi) (addr data : ARMword) : Exi :=
  let low := (addr &&& 0xff#32).toNat
  match low with
  | 0x00 => { exi with exi0 := { exi.exi0 with csr := data } }
  | 0x04 => { exi with exi0 := { exi.exi0 with mar := data } }
  | 0x08 => { exi with exi0 := { exi.exi0 with len := data } }
  | 0x0c => { exi with exi0 := { exi.exi0 with cr := data } }
  | 0x10 => { exi with exi0 := { exi.exi0 with data := data } }
  | 0x14 =>
      { exi with
        gecko := geckoSelect exi.gecko (data &&& 0x80#32 != 0#32)
        exi1 := { exi.exi1 with csr := data } }
  | 0x18 => { exi with exi1 := { exi.exi1 with mar := data } }
  | 0x1c => { exi with exi1 := { exi.exi1 with len := data } }
  | 0x20 =>
      if data &&& 0x01#32 != 0#32 then
        let (gecko, moved) := exiExchange ((data.extractLsb' 4 2).toNat + 1) exi.gecko exi.exi1.data
        { exi with gecko, exi1 := { exi.exi1 with data := moved, cr := data &&& ~~~1#32 } }
      else { exi with exi1 := { exi.exi1 with cr := data } }
  | 0x24 => { exi with exi1 := { exi.exi1 with data := data } }
  | 0x28 => { exi with exi2 := { exi.exi2 with csr := data } }
  | 0x2c => { exi with exi2 := { exi.exi2 with mar := data } }
  | 0x30 => { exi with exi2 := { exi.exi2 with len := data } }
  | 0x34 => { exi with exi2 := { exi.exi2 with cr := data } }
  | 0x38 => { exi with exi2 := { exi.exi2 with data := data } }
  | _ =>
      if 0x40 ≤ low ∧ low ≤ 0x7c ∧ low % 4 = 0 then
        { exi with
          bootCode := Function.update exi.bootCode ((addr &&& 0x3f#32) >>> 2).toNat data }
      else exi

def starletExiRead (exi : Exi) (addr : ARMword) : ARMword :=
  let low := (addr &&& 0xff#32).toNat
  match low with
  | 0x00 => exi.exi0.csr
  | 0x04 => exi.exi0.mar
  | 0x08 => exi.exi0.len
  | 0x0c => exi.exi0.cr
  | 0x10 => exi.exi0.data
  | 0x14 => exi.exi1.csr
  | 0x18 => exi.exi1.mar
  | 0x1c => exi.exi1.len
  | 0x20 => exi.exi1.cr
  | 0x24 => exi.exi1.data
  | 0x28 => exi.exi2.csr
  | 0x2c => exi.exi2.mar
  | 0x30 => exi.exi2.len
  | 0x34 => exi.exi2.cr
  | 0x38 => exi.exi2.data
  | _ =>
      if 0x40 ≤ low ∧ low ≤ 0x7c ∧ low % 4 = 0 then
        exi.bootCode ((addr &&& 0x3f#32) >>> 2).toNat
      else 0#32

end Exi

section Plain

variable {Guest Hash : Type}

/-- The GPIO and OTP registers return before the shadow array is written. -/
def shadowed (offset : Nat) : Bool :=
  !([0x0c0, 0x0c4, 0x0c8, 0x0dc, 0x0e0, 0x0e4, 0x0e8, 0x0fc, 0x1ec].contains offset)

/-- What `starlet_hollywood_write` does besides the registers of `Machine`. -/
def hollywoodPlain (images : Images) (io : PlainIo Guest Hash) (addr data : ARMword) :
    PlainIo Guest Hash :=
  let offset := portOffset addr
  { io with
    ports := io.ports.hollywoodWrite images addr data
    gpio1Enable := if offset = 0x0dc then data else io.gpio1Enable
    ahbFlushFlags := if offset = 0x188 then data else io.ahbFlushFlags
    clocks := if offset = 0x190 then data else io.clocks
    portState :=
      if shadowed offset then overwrite io.portState offset (wideBytes .word data)
      else io.portState }

def starletDramWrite (io : PlainIo Guest Hash) (addr data : ARMword) : PlainIo Guest Hash :=
  match portOffset addr with
  | 0x4074 => { io with dram4074 := data }
  | 0x4076 => { io with dram4076 := data }
  | _ => io

def starletAhbWriteHalfword (io : PlainIo Guest Hash) (addr data : ARMword) : PlainIo Guest Hash :=
  if portOffset addr = 0x4228 then { io with ahbFlushcmd := data } else io

def CopyWidth.access : CopyWidth → AccessSize
  | .byte => .byte
  | .halfword => .halfword
  | .word => .word

def PlainIo.settings (io : PlainIo Guest Hash) : SramSettings :=
  { ports := io.ports, internal := io.internal != 0 }

def sramPlain (width : CopyWidth) (io : PlainIo Guest Hash) (addr data : ARMword) :
    PlainIo Guest Hash :=
  match starletSramWrite io.settings width.access addr data io.sram with
  | some sram => { io with sram }
  | none => { io with ports := { io.ports with exited := true } }

/-- The writes that need no other register, as the switches of `starlet_io_write_word` and
`starlet_io_write_halfword` route them. -/
def starletPlainWrite (images : Images) (width : CopyWidth) (io : PlainIo Guest Hash)
    (addr data : ARMword) : PlainIo Guest Hash :=
  let page := addr >>> 16
  let device := addr &&& 0xfc00#32
  if isSram addr then sramPlain width io addr data
  else if width = .halfword then starletAhbWriteHalfword io addr data
  else if (page = 0x0d00#32 ∨ page = 0x0d80#32) ∧ device = 0x0000#32 then
    hollywoodPlain images io addr data
  else if (page = 0x0d00#32 ∨ page = 0x0d80#32) ∧ device = 0x6800#32 then
    { io with exi := starletExiWrite io.exi addr data }
  else if page = 0x0d80#32 ∨ page = 0x0d8b#32 then starletDramWrite io addr data
  else io

structure Surroundings (Guest Hash : Type) where
  hashInput : Hash → (Fin 5 → ARMword) → Bytes → Hash × (Fin 5 → ARMword)
  guestWrite : CopyWidth → Guest → ARMword → ARMword → Guest

def registersBoard (images : Images) (around : Surroundings Guest Hash)
    (board : Board (PlainIo Guest Hash)) : Board (PlainIo Guest Hash) :=
  { board with
    plainWrite := starletPlainWrite images
    memWrite := fun width io addr data =>
      { io with guest := around.guestWrite width io.guest addr data }
    sha1Input := fun io digest bytes =>
      let (hash, next) := around.hashInput io.hash digest bytes
      ({ io with hash }, next) }

/-- Writes of a copy, which counts up `internal`. -/
def internalStore (store : Store (PlainIo Guest Hash)) : Store (PlainIo Guest Hash) :=
  fun width machine addr data =>
    let entered := machine.onOther fun io => { io with internal := io.internal + 1 }
    (store width entered addr data).onOther fun io => { io with internal := io.internal - 1 }

end Plain

section Reads

variable {Guest Hash : Type} (otp : ARMword → ARMword) (inserted : Bool)
  (machine : Machine (PlainIo Guest Hash))

/-- `otp` is the words behind `io.otp`. -/
def starletHollywoodRead (addr : ARMword) : ARMword :=
  let io := machine.rest.other
  let gpio := io.ports.gpio
  match portOffset addr with
  | 0x000 => machine.ipc.ppcmsg
  | 0x004 => machine.ipc.ppcctrl
  | 0x008 => machine.ipc.armmsg
  | 0x00c => machine.ipc.armctrl
  | 0x010 => machine.timer
  | 0x014 => machine.alarm
  | 0x030 => machine.irq.irqActivePpc
  | 0x034 => machine.irq.irqEnabledPpc
  | 0x038 => machine.irq.irqActive
  | 0x03c => machine.irq.irqEnabled
  | 0x060 => io.ports.mirrorFlags
  | 0x0c0 => gpio.latch &&& io.ports.gpio1Owner
  | 0x0c4 => gpio.dir &&& io.ports.gpio1Owner
  | 0x0c8 => gpio.port &&& io.ports.gpio1Owner
  | 0x0dc => io.gpio1Enable
  | 0x0e0 => gpio.latch
  | 0x0e4 => gpio.dir
  | 0x0e8 => gpio.port
  | 0x0f0 => 0#32
  | 0x0fc => io.ports.gpio1Owner
  | 0x130 => 0x400#32
  | 0x138 => 0x400#32
  | 0x188 => io.ahbFlushFlags
  | 0x18c => io.ports.boot0Flags
  | 0x190 => io.clocks
  | 0x194 => machine.rest.resetFlags
  | 0x1b0 => 0x4011c0#32
  | 0x1b4 => 0x18000018#32
  | 0x1f0 => otp io.ports.otpIndex
  | offset => wideValue .word io.portState offset

def starletDiRead (di : Di) (addr : ARMword) : ARMword :=
  match (addr &&& 0xff#32).toNat with
  | 0x00 => di.disr
  | 0x04 => di.dicvr
  | 0x08 => di.dicmdbuf0
  | 0x0c => di.dicmdbuf1
  | 0x10 => di.dicmdbuf2
  | 0x14 => di.dimar
  | 0x18 => di.dilength
  | 0x20 => di.dicr
  | 0x22 => di.diimmbuf
  | 0x24 => di.dicfg
  | _ => 0#32

/-- `starlet_sha_read`, which reads four bytes of `SHA_result`. -/
def shaReadWord (sha : Sha) (addr : ARMword) : ARMword :=
  let offset := portOffset addr
  if offset ∈ [0x08, 0x0c, 0x10, 0x14, 0x18] then
    wideValue .word (fun index => (shaResult sha.messageDigest).getD index 0#8) (offset - 8)
  else 0#32

def starletOhcRead (addr : ARMword) : ARMword :=
  if portOffset addr = 0 then 0x110#32 else 0#32

def starletSdioRead (addr : ARMword) : ARMword :=
  match portOffset addr with
  | 0x24 => 0x01ff0000#32
  | 0x2c => 0x00000002#32
  | 0x40 => 0x01e130b0#32
  | _ => 0#32

/-- `inserted` is `sd_card_inserted`. -/
def starletSdhcRead (sdhc : Sdhc) (addr : ARMword) : ARMword :=
  match portOffset addr with
  | 0x00 => sdhc.dmaAddr
  | 0x04 => sdhc.blkSize ||| (sdhc.blkCnt <<< 16)
  | 0x08 => sdhc.argument
  | 0x0c => sdhc.mode ||| (sdhc.command <<< 16)
  | 0x10 => sdhc.response0
  | 0x14 => sdhc.response1
  | 0x18 => sdhc.response2
  | 0x1c => sdhc.response3
  | 0x24 => if inserted then sdhc.presentState ||| 0x10000#32 else sdhc.presentState
  | 0x28 => sdhc.wakeupControl ++ sdhc.bgapControl ++ sdhc.pwrControl ++ sdhc.hostControl
  | 0x2c => sdhc.clockControl ||| (sdhc.timeoutControl.setWidth 32 <<< 16)
  | 0x30 => sdhc.irqStatus ||| (sdhc.eirqStatus <<< 16)
  | 0x34 => sdhc.irqEnable ||| (sdhc.eirqEnable <<< 16)
  | 0x38 => sdhc.irqSignal ||| (sdhc.eirqSignal <<< 16)
  | 0x40 => sdhc.capabilities
  | 0x48 => sdhc.maxCapabilities
  | 0xfc => if sdhc.irqStatus = 0#32 then 0#32 else 1#32
  | _ => 0#32

def starletDramRead (io : PlainIo Guest Hash) (addr : ARMword) : ARMword :=
  match portOffset addr with
  | 0x4074 => io.dram4074
  | 0x4076 => io.dram4076
  | _ => 0#32

def sramValue (size : AccessSize) (io : PlainIo Guest Hash) (addr : ARMword) : Option ARMword :=
  (starletSramRead io.settings size addr io.sram).map Prod.fst

def starletIoReadWord (addr : ARMword) : Option ARMword :=
  match starletIoDevice addr with
  | .hollywood => some (starletHollywoodRead otp machine addr)
  | .di => some (starletDiRead machine.rest.di addr)
  | .exi => some (starletExiRead machine.rest.other.exi addr)
  | .aes => some 0#32
  | .sha => some (shaReadWord machine.rest.sha addr)
  | .ohc => some (starletOhcRead addr)
  | .sdhc => some (starletSdhcRead inserted machine.rest.sdhc addr)
  | .sdio => some (starletSdioRead addr)
  | .dram => some (starletDramRead machine.rest.other addr)
  | .sram => sramValue .word machine.rest.other addr
  | .unimplemented => some 0#32

def starletAhbReadHalfword (addr : ARMword) : ARMword :=
  match portOffset addr with
  | 0x4228 => machine.rest.other.ahbFlushcmd
  | 0x422a => machine.rest.other.ahbFlushcmd
  | _ => 0#32

def starletIoReadByte (addr : ARMword) : Option ARMword :=
  if isSram addr then sramValue .byte machine.rest.other addr
  else starletIoReadWord otp inserted machine addr

def starletIoReadHalfword (addr : ARMword) : Option ARMword :=
  if addr >>> 16 = 0x0d8b#32 then some (starletAhbReadHalfword machine addr)
  else if isSram addr then sramValue .halfword machine.rest.other addr
  else starletIoReadWord otp inserted machine addr

/-- `ready` is what `readRB` returns.  There is no value at an address without a register. -/
def nandflashStarletReadWord (ready : ARMword) (addr : ARMword) : Option ARMword :=
  let nand := machine.rest.nand
  if addr = 0x0d010000#32 then some ready
  else if addr = 0x0d010004#32 then some nand.nfconf
  else if addr = 0x0d010008#32 then some nand.nfAddr0
  else if addr = 0x0d01000c#32 then some nand.nfAddr1
  else if addr = 0x0d010010#32 then some nand.nfData
  else if addr = 0x0d010014#32 then some nand.nfEcc
  else none

end Reads

section Reset

variable {Guest Hash : Type} (guest : Guest) (hash : Hash)

/-- The registers after `starlet_io_reset`. -/
def resetPlain : PlainIo Guest Hash :=
  { ports := resetPorts
    gpio1Enable := 0#32
    ahbFlushFlags := 0#32
    clocks := 0#32
    portState := fun _ => 0#8
    exi :=
      { exi0 := ⟨0#32, 0#32, 0#32, 0#32, 0#32⟩
        exi1 := ⟨0#32, 0#32, 0#32, 0#32, 0#32⟩
        exi2 := ⟨0#32, 0#32, 0#32, 0#32, 0#32⟩
        bootCode := fun _ => 0#32
        gecko := { cs := false, state := .command, cmd := 0#8 } }
    dram4074 := 0#32
    dram4076 := 0#32
    ahbFlushcmd := 0#32
    internal := 0
    sram := fun _ _ => 0#8
    guest
    hash }

def plainMachine : Machine (PlainIo Guest Hash) :=
  { resetMachine with rest := { resetMachine.rest with other := resetPlain guest hash } }

end Reset

end SkyeyeStarlet
