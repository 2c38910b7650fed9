import SkyeyeStarlet.MailboxCore
import Mathlib.Data.List.Range
import Mathlib.Logic.Function.Basic

/-!
The devices of `mach/skyeye_mach_starlet.c` that raise interrupts or copy to memory:
drive interface, AES and SHA engines, SD host controller, the Hollywood registers,
and the NAND controller of `dev_nandflash_starlet.c`, with the dispatch of
`armio.c` and `armmem.c` over them.  `Board` stands for what they work on: memory
banks, the images of disc, card and flash, the cipher and hash libraries, and the
registers that no interrupt depends on (GPIO and its EEPROM, OTP, EXI, memory
controllers, SRAM).
-/

namespace SkyeyeStarlet

structure Di where
  disr : ARMword
  dicvr : ARMword
  dicmdbuf0 : ARMword
  dicmdbuf1 : ARMword
  dicmdbuf2 : ARMword
  dimar : ARMword
  dilength : ARMword
  dicr : ARMword
  diimmbuf : ARMword
  dicfg : ARMword
  deriving DecidableEq, Repr

structure Aes where
  key : Bytes
  iv : Bytes
  tempIv : Bytes
  srcPtr : ARMword
  destPtr : ARMword
  deriving DecidableEq, Repr

structure Sha where
  messageDigest : Fin 5 → ARMword
  srcPtr : ARMword

/-- `sdhc_reg`, in the order of the structure. -/
structure Sdhc where
  dmaAddr : ARMword
  blkSize : ARMword
  blkCnt : ARMword
  argument : ARMword
  mode : ARMword
  command : ARMword
  response0 : ARMword
  response1 : ARMword
  response2 : ARMword
  response3 : ARMword
  presentState : ARMword
  hostControl : BitVec 8
  pwrControl : BitVec 8
  bgapControl : BitVec 8
  wakeupControl : BitVec 8
  clockControl : ARMword
  timeoutControl : BitVec 8
  irqEnable : ARMword
  irqSignal : ARMword
  irqStatus : ARMword
  eirqEnable : ARMword
  eirqSignal : ARMword
  eirqStatus : ARMword
  capabilities : ARMword
  maxCapabilities : ARMword
  deriving DecidableEq, Repr

structure Nand where
  address : Fin 6 → BitVec 8
  nfconf : ARMword
  nfAddr0 : ARMword
  nfAddr1 : ARMword
  nfData : ARMword
  nfEcc : ARMword

structure Devices (Other : Type) where
  di : Di
  aes : Aes
  sha : Sha
  sdhc : Sdhc
  sdAppCmd : Bool
  nand : Nand
  resetFlags : ARMword
  other : Other

abbrev Machine (Other : Type) := Host (Devices Other)

/-- What a memory bank leads to.  An alias bank counts as the memory it stands for. -/
inductive Region where
  | memory
  | io
  | none
  deriving DecidableEq, Repr

structure Board (Other : Type) where
  region : ARMword → Region
  memWrite : CopyWidth → Other → ARMword → ARMword → Other
  plainWrite : CopyWidth → Other → ARMword → ARMword → Other
  arm2host : Machine Other → ARMword → Nat → BitVec 8
  aesCbcEncrypt : Bool → Bytes → Bytes → Bytes → Bytes × Bytes
  sha1Input : Other → (Fin 5 → ARMword) → Bytes → Other × (Fin 5 → ARMword)
  disc : Option (Nat → BitVec 8)
  card : Nat → BitVec 8
  cardSize : BitVec 64
  nandSend : Other → BitVec 8 → Bytes → Other
  nandData : Other → Nat → BitVec 8
  nandRead : Other → Nat → Other
  nandProgram : Other → Bytes → Other
  calcEcc : (Nat → BitVec 8) → Nat → BitVec 8
  nandInterrupt : Nat

variable {Other : Type}

def Host.onDi (machine : Machine Other) (change : Di → Di) : Machine Other :=
  { machine with rest := { machine.rest with di := change machine.rest.di } }

def Host.onAes (machine : Machine Other) (change : Aes → Aes) : Machine Other :=
  { machine with rest := { machine.rest with aes := change machine.rest.aes } }

def Host.onSha (machine : Machine Other) (change : Sha → Sha) : Machine Other :=
  { machine with rest := { machine.rest with sha := change machine.rest.sha } }

def Host.onSdhc (machine : Machine Other) (change : Sdhc → Sdhc) : Machine Other :=
  { machine with rest := { machine.rest with sdhc := change machine.rest.sdhc } }

def Host.onNand (machine : Machine Other) (change : Nand → Nand) : Machine Other :=
  { machine with rest := { machine.rest with nand := change machine.rest.nand } }

def Host.onOther (machine : Machine Other) (change : Other → Other) : Machine Other :=
  { machine with rest := { machine.rest with other := change machine.rest.other } }

def Host.exit (machine : Machine Other) : Machine Other :=
  { machine with exited := true }

def CopyWidth.bytes : CopyWidth → ARMword
  | .byte => 1#32
  | .halfword => 2#32
  | .word => 4#32

abbrev Store (Other : Type) := CopyWidth → Machine Other → ARMword → ARMword → Machine Other

/-- `starlet_host2arm` and its variants for words and halfwords. -/
def starletHost2arm (store : Store Other) (width : CopyWidth) :
    List ARMword → ARMword → Machine Other → Machine Other
  | [], _, machine => machine
  | unit :: rest, dst, machine =>
      starletHost2arm store width rest (dst + width.bytes) (store width machine dst unit)

def bytesFrom (source : Nat → BitVec 8) (first count : Nat) : Bytes :=
  (List.range count).map fun index => source (first + index)

theorem bytesFrom_length (source : Nat → BitVec 8) (first count : Nat) :
    (bytesFrom source first count).length = count := by
  rw [bytesFrom, List.length_map, List.length_range]

def byteUnits (bytes : Bytes) : List ARMword :=
  bytes.map fun byte => byte.setWidth 32

section Registers

variable (board : Board Other) (store : Store Other)

def starletDoDiCommand (machine : Machine Other) : Machine Other :=
  let di := machine.rest.di
  match board.disc with
  | none => machine.exit
  | some disc =>
      if di.dicmdbuf0 = 0xa8000040#32 ∨ di.dicmdbuf0 = 0xa8000000#32 then
        let len := di.dicmdbuf2.toNat
        if 32768 < len then machine
        else
          let data := bytesFrom disc (4 * di.dicmdbuf1.toNat) len
          (starletHost2arm store .byte (byteUnits data) di.dimar machine).onDi fun read =>
            { read with dicr := read.dicr &&& ~~~1#32, disr := read.disr ||| 0x10#32 }
      else machine

/-- The interrupt masks are taken from the data, and flags that it sets are cleared. -/
def writeDisr (disr data : ARMword) : ARMword :=
  let masked := (disr &&& ~~~0x2a#32) ||| (data &&& 0x2a#32)
  let idle := clearIf (data &&& 0x01#32 != 0#32) masked 0x01#32
  clearIf (data &&& 0x40#32 != 0#32)
    (clearIf (data &&& 0x10#32 != 0#32)
      (clearIf (data &&& 0x04#32 != 0#32) idle 0x04#32) 0x10#32) 0x40#32

def writeDicvr (dicvr data : ARMword) : ARMword :=
  (if data &&& 0x04#32 != 0#32 then 0#32 else dicvr &&& 0x04#32) ||| (data &&& 0x02#32)

def starletDiWrite (machine : Machine Other) (offset data : ARMword) : Machine Other :=
  match (offset &&& 0xff#32).toNat with
  | 0x00 => machine.onDi fun di => { di with disr := writeDisr di.disr data }
  | 0x04 => machine.onDi fun di => { di with dicvr := writeDicvr di.dicvr data }
  | 0x08 => machine.onDi fun di => { di with dicmdbuf0 := data }
  | 0x0c => machine.onDi fun di => { di with dicmdbuf1 := data }
  | 0x10 => machine.onDi fun di => { di with dicmdbuf2 := data }
  | 0x14 => machine.onDi fun di => { di with dimar := data }
  | 0x18 => machine.onDi fun di => { di with dilength := data }
  | 0x1c =>
      let started := machine.onDi fun di => { di with dicr := data }
      if data &&& 1#32 != 0#32 then starletDoDiCommand board store started else started
  | 0x20 => machine.onDi fun di => { di with diimmbuf := data }
  | 0x24 => machine.onDi fun di => { di with dicfg := data }
  | _ => machine

def aesLength (command : ARMword) : Nat :=
  ((command &&& 0xfff#32).toNat + 1) * 0x10

/-- The cipher leaves its chaining value in the vector it was given. -/
def aesCipher (machine : Machine Other) (command : ARMword) (source : Bytes) :
    Machine Other × Bytes :=
  let aes := machine.rest.aes
  if command &&& 0x10000000#32 != 0#32 then
    let encrypts := command &&& 0x08000000#32 == 0#32
    if command &&& 0x1000#32 != 0#32 then
      let (dest, next) := board.aesCbcEncrypt encrypts aes.key aes.tempIv source
      (machine.onAes fun aes => { aes with tempIv := next }, dest)
    else
      let (dest, next) := board.aesCbcEncrypt encrypts aes.key aes.iv source
      (machine.onAes fun aes => { aes with iv := next }, dest)
  else (machine, source)

def starletAesCommand (machine : Machine Other) (command : ARMword) : Machine Other :=
  if command &&& 0x80000000#32 != 0#32 then
    let numBytes := aesLength command
    let source := bytesFrom (board.arm2host machine machine.rest.aes.srcPtr) 0 numBytes
    let (ciphered, dest) := aesCipher board machine command source
    let output := bytesFrom (fun index => dest.getD index 0#8) 0 numBytes
    let copied := starletHost2arm store .byte (byteUnits output) ciphered.rest.aes.destPtr ciphered
    let advanced := copied.onAes fun aes =>
      { aes with
        tempIv := source.drop (numBytes - 0x10)
        srcPtr := aes.srcPtr + BitVec.ofNat 32 numBytes
        destPtr := aes.destPtr + BitVec.ofNat 32 numBytes }
    if command &&& 0x40000000#32 != 0#32 then
      { advanced with irq := starletUpdateInt (starletSetIntr advanced.irq 2) }
    else advanced
  else machine

/-- Four more bytes at the end of a register that is written word by word. -/
def shiftIn (register : Bytes) (data : ARMword) : Bytes :=
  register.drop 4 ++
    [data.extractLsb' 24 8, data.extractLsb' 16 8, data.extractLsb' 8 8, data.extractLsb' 0 8]

def starletAesWrite (machine : Machine Other) (addr data : ARMword) : Machine Other :=
  match (addr &&& 0xffff#32).toNat with
  | 0x0000 => starletAesCommand board store machine data
  | 0x0004 => machine.onAes fun aes => { aes with srcPtr := data }
  | 0x0008 => machine.onAes fun aes => { aes with destPtr := data }
  | 0x000c => machine.onAes fun aes => { aes with key := shiftIn aes.key data }
  | 0x0010 => machine.onAes fun aes => { aes with iv := shiftIn aes.iv data }
  | _ => machine

def starletShaCommand (machine : Machine Other) (data : ARMword) : Machine Other :=
  if data &&& 0x80000000#32 != 0#32 then
    let numBytes := ((data &&& 0xfff#32).toNat + 1) * 0x40
    let source := bytesFrom (board.arm2host machine machine.rest.sha.srcPtr) 0 numBytes
    let (other, messageDigest) := board.sha1Input machine.rest.other machine.rest.sha.messageDigest
      source
    let hashed := (machine.onOther fun _ => other).onSha fun sha =>
      { messageDigest, srcPtr := sha.srcPtr + BitVec.ofNat 32 numBytes }
    if data &&& 0x40000000#32 != 0#32 then
      { hashed with irq := starletUpdateInt (starletSetIntr hashed.irq 3) }
    else hashed
  else machine

def writeDigest (machine : Machine Other) (index : Fin 5) (data : ARMword) : Machine Other :=
  machine.onSha fun sha =>
    { sha with messageDigest := Function.update sha.messageDigest index data }

def starletShaWrite (machine : Machine Other) (addr data : ARMword) : Machine Other :=
  match (addr &&& 0xffff#32).toNat with
  | 0x0000 => starletShaCommand board machine data
  | 0x0004 => machine.onSha fun sha => { sha with srcPtr := data }
  | 0x0008 => writeDigest machine 0 data
  | 0x000c => writeDigest machine 1 data
  | 0x0010 => writeDigest machine 2 data
  | 0x0014 => writeDigest machine 3 data
  | 0x0018 => writeDigest machine 4 data
  | _ => machine

def noteSdhcIrq (machine : Machine Other) (irq : ARMword) : Machine Other :=
  if machine.rest.sdhc.irqEnable &&& irq != 0#32 then
    machine.onSdhc fun sdhc => { sdhc with irqStatus := sdhc.irqStatus ||| irq }
  else machine

def starletSdhcFireIrq (machine : Machine Other) (irq : ARMword) : Machine Other :=
  let noted := noteSdhcIrq machine irq
  if noted.rest.sdhc.irqSignal &&& irq != 0#32 then
    { noted with irq := starletSetIntr noted.irq 7 }
  else noted

def sdhcCommandIndex (command : ARMword) : Nat :=
  ((command >>> 8) &&& 0x3f#32).toNat

def sdhcLength (sdhc : Sdhc) : Nat :=
  (sdhc.blkSize &&& 0xfff#32).toNat * sdhc.blkCnt.toNat

def sdhcBlocks : ARMword :=
  (board.cardSize / 1024#64 / 512#64).setWidth 32

def sdhcServe (machine : Machine Other) (index : Nat) : Machine Other :=
  if machine.rest.sdAppCmd then
    let left : Machine Other := { machine with rest := { machine.rest with sdAppCmd := false } }
    if index = 41 then
      left.onSdhc fun sdhc => { sdhc with response0 := 0x80000000#32 ||| sdhc.argument }
    else left
  else
    match index with
    | 55 => { machine with rest := { machine.rest with sdAppCmd := true } }
    | 8 => machine.onSdhc fun sdhc => { sdhc with response0 := sdhc.argument }
    | 9 =>
        machine.onSdhc fun sdhc =>
          { sdhc with
            response0 := 0#32
            response1 := (sdhcBlocks board - 1#32) <<< 8
            response2 := 0#32
            response3 := 0x00000e00#32 }
    | 2 =>
        machine.onSdhc fun sdhc =>
          { sdhc with
            response0 := 0#32
            response1 := 0x30000000#32
            response2 := 0x30303030#32
            response3 := 0x00014130#32 }
    | 18 =>
        let sdhc := machine.rest.sdhc
        let data := bytesFrom board.card (sdhc.argument.toNat * 512) (sdhcLength sdhc)
        starletHost2arm store .byte (byteUnits data) sdhc.dmaAddr machine
    | _ => machine

def starletSdhcExec (machine : Machine Other) : Machine Other :=
  let index := sdhcCommandIndex machine.rest.sdhc.command
  let completed := starletSdhcFireIrq (sdhcServe board store machine index) 0x01#32
  let transferred :=
    if !machine.rest.sdAppCmd && index == 18 then starletSdhcFireIrq completed 0x02#32
    else completed
  transferred.onSdhc fun sdhc => { sdhc with command := 0xffff0000#32 }

/-- `SDHC_VOLTAGE_SUPP_3_3V`, `SDHC_DMA_SUPPORT` and the base frequency. -/
def sdhcCapabilities : ARMword :=
  0x01400a00#32

def clearSdhc : Sdhc :=
  { dmaAddr := 0#32, blkSize := 0#32, blkCnt := 0#32, argument := 0#32, mode := 0#32
    command := 0#32, response0 := 0#32, response1 := 0#32, response2 := 0#32, response3 := 0#32
    presentState := 0#32, hostControl := 0#8, pwrControl := 0#8, bgapControl := 0#8
    wakeupControl := 0#8, clockControl := 0#32, timeoutControl := 0#8, irqEnable := 0#32
    irqSignal := 0#32, irqStatus := 0#32, eirqEnable := 0#32, eirqSignal := 0#32
    eirqStatus := 0#32, capabilities := 0#32, maxCapabilities := 0#32 }

def starletSdhcReset (cmd dat all : Bool) (sdhc : Sdhc) : Sdhc :=
  let whole :=
    if all then
      { clearSdhc with
        command := 0xffff0000#32
        capabilities := sdhcCapabilities
        maxCapabilities := sdhcCapabilities }
    else sdhc
  let line := { whole with irqStatus := clearIf cmd whole.irqStatus 0x01#32 }
  { line with irqStatus := clearIf dat line.irqStatus 0x3e#32 }

/-- `response[reg]` with the offset in bytes: only the first is a response. -/
def writeResponse (sdhc : Sdhc) (reg : Nat) (data : ARMword) : Sdhc :=
  match reg with
  | 0 => { sdhc with response0 := data }
  | 4 => { sdhc with presentState := data }
  | 8 => { sdhc with irqEnable := data }
  | _ => { sdhc with eirqSignal := data }

def writeClock (sdhc : Sdhc) (data : ARMword) : Sdhc :=
  let clock := data &&& 0xffff#32
  let clocked :=
    if sdhc.clockControl = clock then sdhc
    else
      { sdhc with
        clockControl := if clock &&& 0x01#32 != 0#32 then clock ||| 0x02#32 else clock }
  let timeout := data.extractLsb' 16 4
  let timed :=
    if clocked.timeoutControl.extractLsb' 0 4 = timeout then clocked
    else { clocked with timeoutControl := timeout.setWidth 8 }
  let reset := data.extractLsb' 24 4
  if reset = 0#4 then timed
  else starletSdhcReset (reset.getLsbD 1) (reset.getLsbD 2) (reset.getLsbD 0) timed

def starletSdhcWrite (machine : Machine Other) (addr data : ARMword) : Machine Other :=
  let low := data &&& 0xffff#32
  let high := data >>> 16
  match (addr &&& 0xffff#32).toNat with
  | 0x00 => machine.onSdhc fun sdhc => { sdhc with dmaAddr := data }
  | 0x04 => machine.onSdhc fun sdhc => { sdhc with blkSize := low, blkCnt := high }
  | 0x08 => machine.onSdhc fun sdhc => { sdhc with argument := data }
  | 0x0c =>
      let moded := machine.onSdhc fun sdhc => { sdhc with mode := low }
      if machine.rest.sdhc.command = high then moded
      else
        starletSdhcExec board store (moded.onSdhc fun sdhc => { sdhc with command := high })
  | 0x10 => machine.onSdhc fun sdhc => writeResponse sdhc 0 data
  | 0x14 => machine.onSdhc fun sdhc => writeResponse sdhc 4 data
  | 0x18 => machine.onSdhc fun sdhc => writeResponse sdhc 8 data
  | 0x1c => machine.onSdhc fun sdhc => writeResponse sdhc 12 data
  | 0x28 =>
      machine.onSdhc fun sdhc =>
        { sdhc with
          hostControl := (data.extractLsb' 0 4).setWidth 8
          pwrControl := (data.extractLsb' 8 4).setWidth 8
          bgapControl := (data.extractLsb' 16 4).setWidth 8
          wakeupControl := (data.extractLsb' 24 4).setWidth 8 }
  | 0x2c => machine.onSdhc fun sdhc => writeClock sdhc data
  | 0x30 =>
      machine.onSdhc fun sdhc =>
        { sdhc with
          irqStatus := sdhc.irqStatus &&& ~~~low
          eirqStatus := sdhc.eirqStatus &&& ~~~high }
  | 0x34 => machine.onSdhc fun sdhc => { sdhc with irqEnable := low, eirqEnable := high }
  | 0x38 => machine.onSdhc fun sdhc => { sdhc with irqSignal := low, eirqSignal := high }
  | _ => machine

/-- The registers of the interrupt controller, the timer, the mailbox and the reset
flags.  Every write but those of the GPIO and OTP also lands in a shadow array. -/
def starletHollywoodWrite (machine : Machine Other) (addr data : ARMword) : Machine Other :=
  let irq := machine.irq
  let shadowed := machine.onOther fun other => board.plainWrite .word other addr data
  match (addr &&& 0xffff#32).toNat with
  | 0x000 => { shadowed with ipc := starletIpcWrite machine.ipc 0x0#32 data }
  | 0x004 => { shadowed with ipc := starletIpcWrite machine.ipc 0x4#32 data }
  | 0x008 => { shadowed with ipc := starletIpcWrite machine.ipc 0x8#32 data }
  | 0x00c => { shadowed with ipc := starletIpcWrite machine.ipc 0xc#32 data }
  | 0x010 => { shadowed with timer := data }
  | 0x014 => { shadowed with alarm := data }
  | 0x030 => { shadowed with irq := { irq with irqActivePpc := irq.irqActivePpc &&& ~~~data } }
  | 0x034 => { shadowed with irq := { irq with irqEnabledPpc := data } }
  | 0x038 =>
      { shadowed with irq := starletUpdateInt { irq with irqActive := irq.irqActive &&& ~~~data } }
  | 0x03c => { shadowed with irq := starletUpdateInt { irq with irqEnabled := data } }
  | 0x194 =>
      { shadowed with
        ppcRunning :=
          if (machine.rest.resetFlags ^^^ data) &&& 0x30#32 = 0#32 then machine.ppcRunning
          else if data &&& 0x30#32 = 0x30#32 then 1#32
          else 0#32
        rest := { shadowed.rest with resetFlags := data } }
  | _ => shadowed

def isSram (addr : ARMword) : Bool :=
  addr >>> 20 == 0x0d4#32 || addr >>> 20 == 0x0dc#32 || addr >>> 20 == 0xfff#32

theorem isSram_iff {addr : ARMword} :
    isSram addr = true ↔
      addr >>> 20 = 0x0d4#32 ∨ addr >>> 20 = 0x0dc#32 ∨ addr >>> 20 = 0xfff#32 := by
  simp only [isSram, Bool.or_eq_true, beq_iff_eq, or_assoc]

theorem ne_of_isSram {addr other : ARMword} (sram : isSram addr = true)
    (apart : isSram other = false) : addr ≠ other := by
  intro same
  rw [same, apart] at sram
  exact Bool.false_ne_true sram

/-- The inner switches fall through: an address of `0x0D00` that is no device of its
own goes to the AES engine, one of `0x0D80` to the memory controller. -/
def starletIoWriteWord (machine : Machine Other) (addr data : ARMword) : Machine Other :=
  let plain := machine.onOther fun other => board.plainWrite .word other addr data
  let page := addr >>> 16
  let device := addr &&& 0xfc00#32
  if isSram addr then plain
  else if page = 0x0d00#32 ∨ page = 0x0d80#32 then
    if device = 0x0000#32 then starletHollywoodWrite board machine addr data
    else if device = 0x6000#32 then starletDiWrite board store machine addr data
    else if device = 0x6800#32 then plain
    else if page = 0x0d00#32 then starletAesWrite board store machine addr data
    else plain
  else if page = 0x0d02#32 then starletAesWrite board store machine addr data
  else if page = 0x0d03#32 then starletShaWrite board machine addr data
  else if page = 0x0d07#32 then starletSdhcWrite board store machine addr data
  else if page = 0x0d8b#32 then plain
  else machine

def starletIoWriteByte (machine : Machine Other) (addr data : ARMword) : Machine Other :=
  if isSram addr then machine.onOther fun other => board.plainWrite .byte other addr data
  else starletIoWriteWord board store machine addr data

def starletIoWriteHalfword (machine : Machine Other) (addr data : ARMword) : Machine Other :=
  if isSram addr || addr >>> 16 == 0x0d8b#32 then
    machine.onOther fun other => board.plainWrite .halfword other addr data
  else starletIoWriteWord board store machine addr data

def nandAddresses (nand : Nand) (bitmask : BitVec 5) : Bytes :=
  ((List.finRange 6).filter fun index => bitmask.getLsbD index.val).map nand.address

def nandEcc (data : Bytes) (machine : Machine Other) : Machine Other :=
  (List.range 4).foldl
    (fun machine index =>
      starletHost2arm store .byte
        (byteUnits (bytesFrom (board.calcEcc fun byte => data.getD (512 * index + byte) 0#8) 0 4))
        ((machine.rest.nand.nfEcc ^^^ 0x40#32) + BitVec.ofNat 32 (4 * index)) machine)
    machine

def nandReadPage (machine : Machine Other) (datasize : Nat) (ecc : Bool) : Machine Other :=
  let data := bytesFrom (board.nandData machine.rest.other) 0 datasize
  let read := machine.onOther fun other => board.nandRead other datasize
  if datasize ≤ 0x800 then
    starletHost2arm store .byte (byteUnits data) read.rest.nand.nfData read
  else if datasize = 0x840 then
    let main := starletHost2arm store .byte (byteUnits (data.take 0x800)) read.rest.nand.nfData read
    let spare := starletHost2arm store .byte (byteUnits (data.drop 0x800)) main.rest.nand.nfEcc main
    if ecc then nandEcc board store data spare else spare
  else read.exit

def nandWritePage (machine : Machine Other) (datasize : Nat) (ecc : Bool) : Machine Other :=
  let nand := machine.rest.nand
  if datasize ≤ 0x800 ∨ datasize = 0x840 then
    let data := bytesFrom (board.arm2host machine nand.nfData) 0 (min datasize 0x800) ++
      bytesFrom (board.arm2host machine nand.nfEcc) 0 (datasize - 0x800)
    if ecc then
      if datasize = 0x800 then
        (nandEcc board store data machine).onOther fun other => board.nandProgram other data
      else machine.exit
    else machine.onOther fun other => board.nandProgram other data
  else machine.exit

def nandTransfer (machine : Machine Other) (datasize : Nat) (flags : BitVec 4) : Machine Other :=
  if datasize = 0 then machine
  else
    let read :=
      if flags.getLsbD 1 then nandReadPage board store machine datasize (flags.getLsbD 0)
      else machine
    if flags.getLsbD 2 then nandWritePage board store read datasize (flags.getLsbD 0) else read

def nandCommand (machine : Machine Other) (data : ARMword) : Machine Other :=
  if data = 0x7fffffff#32 ∨ data = 0#32 then machine
  else
    let addresses := nandAddresses machine.rest.nand (data.extractLsb' 24 5)
    let sent := machine.onOther fun other => board.nandSend other (data.extractLsb' 16 8) addresses
    let moved := nandTransfer board store sent (data &&& 0xfff#32).toNat (data.extractLsb' 12 4)
    { moved with irq := starletUpdateIntr (starletSetIntr moved.irq board.nandInterrupt) }

/-- The result tells whether the controller has a register at the address. -/
def nandflashStarletWriteWord (machine : Machine Other) (addr data : ARMword) :
    Option (Machine Other) :=
  if addr = 0x0d010000#32 then some (nandCommand board store machine data)
  else if addr = 0x0d010004#32 then some (machine.onNand fun nand => { nand with nfconf := data })
  else if addr = 0x0d010008#32 then
    some (machine.onNand fun nand =>
      { nand with
        address := Function.update (Function.update nand.address 0 (data.extractLsb' 0 8)) 1
          (data.extractLsb' 8 8)
        nfAddr0 := data })
  else if addr = 0x0d01000c#32 then
    some (machine.onNand fun nand =>
      { nand with
        address := fun index =>
          if 2 ≤ index.val then data.extractLsb' (8 * (index.val - 2)) 8 else nand.address index
        nfAddr1 := data })
  else if addr = 0x0d010010#32 then some (machine.onNand fun nand => { nand with nfData := data })
  else if addr = 0x0d010014#32 then some (machine.onNand fun nand => { nand with nfEcc := data })
  else none

/-- `io_write_word`, `io_write_halfword` and `io_write_byte`: the NAND controller, which
takes no halfwords, comes before the devices of the machine. -/
def ioWrite (width : CopyWidth) (machine : Machine Other) (addr data : ARMword) : Machine Other :=
  match width with
  | .word =>
      (nandflashStarletWriteWord board store machine addr data).getD
        (starletIoWriteWord board store machine addr data)
  | .halfword => starletIoWriteHalfword board store machine addr data
  | .byte =>
      (nandflashStarletWriteWord board store machine addr (data &&& 0xff#32)).getD
        (starletIoWriteByte board store machine addr data)

end Registers

/-- `mem_write_word` and its variants.  A copy onto a register may start another copy;
`depth` bounds how far these nest. -/
def memWrite (board : Board Other) : Nat → Store Other
  | 0, _, machine, _, _ => machine
  | depth + 1, width, machine, addr, data =>
      match board.region addr with
      | .memory => machine.onOther fun other => board.memWrite width other addr data
      | .io => ioWrite board (memWrite board depth) width machine addr data
      | .none => if width = .byte then machine.exit else machine

/-- Bytes as big endian units; a rest that fills no unit is not copied. -/
def unitsOf : CopyWidth → Bytes → List ARMword
  | .byte, bytes => byteUnits bytes
  | .halfword, first :: second :: rest =>
      (0#16 ++ first ++ second) :: unitsOf .halfword rest
  | .word, first :: second :: third :: fourth :: rest =>
      (first ++ second ++ third ++ fourth) :: unitsOf .word rest
  | _, _ => []

def clientServices (board : Board Other) (depth : Nat) (cookedState : Machine Other → Bytes) :
    Services (Devices Other) :=
  { arm2host := fun _ machine addr len => bytesFrom (board.arm2host machine addr) 0 len.toNat
    host2arm := fun width machine addr payload =>
      starletHost2arm (memWrite board depth) width (unitsOf width payload) addr machine
    cookedState }

end SkyeyeStarlet
