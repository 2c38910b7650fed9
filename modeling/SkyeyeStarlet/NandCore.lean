import SkyeyeStarlet.DevicesCore
import SkyeyeStarlet.EccCore
import SkyeyeStarlet.Library.RangeUpdate

/-!
The flash chip of `nandflash_largeblock.c` behind its pins, and the board on which the
NAND controller drives it.  The chip is an `HY27UF084G2M`: 4096 blocks of 64 pages of 2112
bytes.  Offsets beyond the page buffer, and addresses beyond the device, lie outside the
arrays of the host; nothing is said about what is there.
-/

namespace SkyeyeStarlet

open RangeUpdate

inductive CmdStatus where
  | noStatus
  | addr1st
  | addr2nd
  | addr3rd
  | addr4th
  | addr5th
  | addrFinish
  | status
  | readID1st
  | readID2nd
  | readID3rd
  | readID4th
  | readIDAddr
  deriving DecidableEq, Repr

inductive IoStatus where
  | cmd
  | addr
  | dataRead
  | dataWrite
  | statusRead
  | idRead
  | none
  deriving DecidableEq, Repr

/-- The levels of the pins; `true` is `NF_HIGH`. -/
structure NandPins where
  cle : Bool
  ale : Bool
  ce : Bool
  we : Bool
  re : Bool
  wp : Bool
  deriving DecidableEq, Repr

/-- `nandflash_lb_status`. -/
structure NandChip where
  pins : NandPins
  iopin : BitVec 8
  status : BitVec 8
  cmd : BitVec 8
  cmdstatus : CmdStatus
  iostatus : IoStatus
  writebuffer : BitVec 16 → BitVec 8
  pagenum : BitVec 32
  pageoffset : BitVec 16
  addrspace : BitVec 32 → BitVec 8
  pagefmtsize : BitVec 16
  exited : Bool

def pagedumpsize : Nat :=
  0x840

def erasesize : Nat :=
  pagedumpsize * 64

def devicesize : Nat :=
  erasesize * 4096

def nandID : Nat → BitVec 8
  | 0 => 0xad#8
  | 1 => 0xdc#8
  | 2 => 0x80#8
  | _ => 0x95#8

/-- `memset(nf->writebuffer, 0xFF, dev->pagedumpsize)`. -/
def NandChip.blank (chip : NandChip) : NandChip :=
  { chip with writebuffer := updateRange chip.writebuffer 0#16 (fun _ _ => 0xff#8) pagedumpsize }

def NandChip.doerase (chip : NandChip) : NandChip :=
  if chip.pins.wp then
    let base := (chip.pagenum &&& ~~~0x3f#32) * chip.pagefmtsize.setWidth 32
    { chip with addrspace := updateRange chip.addrspace base (fun _ _ => 0xff#8) erasesize }
  else chip

def NandChip.dodatawrite (chip : NandChip) : NandChip :=
  if chip.pins.wp then
    { chip with
      writebuffer := Function.update chip.writebuffer chip.pageoffset chip.iopin
      pageoffset := chip.pageoffset + 1#16 }
  else chip

def NandChip.finishwrite (chip : NandChip) : NandChip :=
  if chip.pins.wp then
    let base := chip.pagenum * chip.pagefmtsize.setWidth 32
    { chip with
      addrspace := updateRange chip.addrspace base
        (fun i old => old &&& chip.writebuffer (BitVec.ofNat 16 i)) pagedumpsize }
  else chip

def NandChip.doread (chip : NandChip) : NandChip :=
  let offset := chip.pageoffset.setWidth 32
  if (chip.pagenum * 0x840#32 + offset).toNat < devicesize then
    let read :=
      { chip with
        iopin := chip.addrspace (chip.pagenum * chip.pagefmtsize.setWidth 32 + offset)
        pageoffset := chip.pageoffset + 1#16 }
    if read.pageoffset = 0x840#16 then
      { read with pagenum := read.pagenum + 1#32, pageoffset := 0#16 }
    else read
  else chip

def NandChip.doreadid (chip : NandChip) : NandChip :=
  match chip.cmdstatus with
  | .readID1st => { chip with iopin := nandID 0, cmdstatus := .readID2nd }
  | .readID2nd => { chip with iopin := nandID 1, cmdstatus := .readID3rd }
  | .readID3rd => { chip with iopin := nandID 2, cmdstatus := .readID4th }
  | .readID4th => { chip with iopin := nandID 3, cmdstatus := .noStatus, iostatus := .none }
  | _ => chip

/-- `nandflash_lb_reset`, which leaves the chip enable as it is. -/
def NandChip.reset (chip : NandChip) : NandChip :=
  { chip.blank with
    pins := { chip.pins with cle := false, ale := false, re := true, we := true, wp := true }
    iopin := 0#8
    status := 192#8
    pageoffset := 0#16
    cmd := 0#8
    cmdstatus := .noStatus
    iostatus := .none }

def NandChip.docmd (chip : NandChip) : NandChip :=
  match chip.iopin.toNat with
  | 0x00 =>
      { chip with
        cmd := 0x00#8, cmdstatus := .addr1st, pagenum := 0#32, iostatus := .addr
        pageoffset := 0#16 }
  | 0x30 => { chip with iostatus := .dataRead }
  | 0xff => { chip with cmd := 0xff#8 }.reset
  | 0x80 =>
      { chip.blank with
        cmd := 0x80#8, cmdstatus := .addr1st, iostatus := .addr, pagenum := 0#32
        pageoffset := 0#16 }
  | 0x85 => { chip with cmd := 0x85#8, cmdstatus := .addr1st, iostatus := .addr }
  | 0x60 =>
      { chip with
        cmd := 0x60#8, cmdstatus := .addr3rd, iostatus := .addr, pageoffset := 0#16
        pagenum := 0#32 }
  | 0xd0 =>
      let erased :=
        if chip.cmd = 0x60#8 ∧ chip.cmdstatus = .addrFinish then chip.doerase else chip
      { erased with cmd := 0xff#8 }
  | 0x70 => { chip with cmd := 0x70#8, cmdstatus := .status, iostatus := .statusRead }
  | 0x90 =>
      { chip with
        cmd := 0x90#8, cmdstatus := .addr5th, pageoffset := 0#16, pagenum := 0#32
        iostatus := .addr }
  | 0x10 =>
      if (chip.cmd = 0x80#8 ∨ chip.cmd = 0x85#8) ∧ chip.cmdstatus = .addrFinish then
        { chip with cmd := 0x10#8 }.finishwrite
      else chip
  | _ => { chip with exited := true }

/-- An address cycle.  The enumerator that the source assigns to `iostatus` in the last but
one case has the value of `NF_NONE`. -/
def NandChip.doaddr (chip : NandChip) : NandChip :=
  let tmp := chip.iopin
  match chip.cmdstatus with
  | .addr1st => { chip with pageoffset := tmp.setWidth 16, cmdstatus := .addr2nd }
  | .addr2nd =>
      let columned := { chip with pageoffset := chip.pageoffset ||| (tmp.setWidth 16 <<< 8) }
      if chip.cmd = 0x85#8 then { columned with iostatus := .dataWrite, cmdstatus := .addrFinish }
      else { columned with cmdstatus := .addr3rd }
  | .addr3rd => { chip with pagenum := tmp.setWidth 32, cmdstatus := .addr4th }
  | .addr4th =>
      { chip with pagenum := chip.pagenum ||| (tmp.setWidth 32 <<< 8), cmdstatus := .addr5th }
  | .addr5th =>
      let rowed := { chip with pagenum := chip.pagenum ||| (tmp.setWidth 32 <<< 16) }
      if chip.cmd = 0x80#8 then { rowed with iostatus := .dataWrite, cmdstatus := .addrFinish }
      else if chip.cmd = 0x90#8 then { rowed with iostatus := .idRead, cmdstatus := .readID1st }
      else if chip.cmd = 0x60#8 then { rowed with iostatus := .cmd, cmdstatus := .addrFinish }
      else rowed
  | .readIDAddr => { chip with cmdstatus := .readID1st, iostatus := .none }
  | _ => chip

section Pins

def NandChip.readio (chip : NandChip) : BitVec 8 :=
  if chip.pins.ce then 0#8 else chip.iopin

def NandChip.writeio (chip : NandChip) (iodata : BitVec 8) : NandChip :=
  if chip.pins.ce then chip else { chip with iopin := iodata }

def NandChip.setCE (chip : NandChip) (level : Bool) : NandChip :=
  { chip with
    pins := { chip.pins with ce := level }
    iostatus := if level && chip.iostatus == .dataRead then .none else chip.iostatus }

def NandChip.setCLE (chip : NandChip) (level : Bool) : NandChip :=
  { chip with
    pins := { chip.pins with cle := level }
    iostatus := if level && !chip.pins.ce then .cmd else chip.iostatus }

def NandChip.setALE (chip : NandChip) (level : Bool) : NandChip :=
  { chip with
    pins := { chip.pins with ale := level }
    iostatus := if level && !chip.pins.ce then .addr else chip.iostatus }

def NandChip.setWE (chip : NandChip) (level : Bool) : NandChip :=
  let latched :=
    if !chip.pins.we && level && !chip.pins.ce then
      match chip.iostatus with
      | .cmd => chip.docmd
      | .addr => chip.doaddr
      | .dataWrite => chip.dodatawrite
      | _ => chip
    else chip
  { latched with pins := { latched.pins with we := level } }

def NandChip.setRE (chip : NandChip) (level : Bool) : NandChip :=
  let driven :=
    if chip.pins.re && !level && !chip.pins.ce then
      match chip.iostatus with
      | .dataRead => chip.doread
      | .idRead => chip.doreadid
      | .statusRead => { chip with iopin := chip.status }
      | _ => chip
    else chip
  { driven with pins := { driven.pins with re := level } }

def NandChip.sendcmd (chip : NandChip) (cmd : BitVec 8) : NandChip :=
  ((((chip.setCLE true).setWE false).writeio cmd).setWE true).setCLE false

def NandChip.senddata (chip : NandChip) (data : BitVec 8) : NandChip :=
  ((chip.setWE false).writeio data).setWE true

def NandChip.sendaddr (chip : NandChip) (data : BitVec 8) : NandChip :=
  ((((chip.setALE true).setWE false).writeio data).setWE true).setALE false

def NandChip.readdata (chip : NandChip) : BitVec 8 × NandChip :=
  let driven := chip.setRE false
  (driven.readio, driven.setRE true)

end Pins

/-- `nandflash_lb_poweron` and the chip enable of `nandflash_starlet_reset`, over the contents
of the dump file; dump type 0 has pages of `0x840` bytes. -/
def NandChip.installed (dump : BitVec 32 → BitVec 8) : NandChip :=
  NandChip.setCE
    { pins := { cle := false, ale := false, ce := true, we := true, re := true, wp := true }
      iopin := 0#8
      status := 192#8
      cmd := 0#8
      cmdstatus := .noStatus
      iostatus := .none
      writebuffer := fun _ => 0xff#8
      pagenum := 0#32
      pageoffset := 0#16
      addrspace := dump
      pagefmtsize := 0x840#16
      exited := false }
    false

structure Flash where
  chip : NandChip
  memory : ARMword → BitVec 8

/-- The chip after a number of bytes have been read from it. -/
def NandChip.afterReads (chip : NandChip) : Nat → NandChip
  | 0 => chip
  | count + 1 => (chip.afterReads count).readdata.2

def storeUnit (memory : ARMword → BitVec 8) (width : CopyWidth) (addr data : ARMword) :
    ARMword → BitVec 8 :=
  match width with
  | .byte => Function.update memory addr (data.extractLsb' 0 8)
  | .halfword => updateRange memory addr (fun i _ => data.extractLsb' (8 * (1 - i)) 8) 2
  | .word => updateRange memory addr (fun i _ => data.extractLsb' (8 * (3 - i)) 8) 4

/-- The board of a machine whose NAND controller drives the chip and whose copies meet only
memory. -/
def flashBoard (devices : Board Flash) : Board Flash :=
  { devices with
    region := fun _ => .memory
    memWrite := fun width flash addr data =>
      { flash with memory := storeUnit flash.memory width addr data }
    arm2host := fun machine addr index =>
      machine.rest.other.memory (addr + BitVec.ofNat 32 index)
    nandSend := fun flash command addresses =>
      { flash with chip := addresses.foldl NandChip.sendaddr (flash.chip.sendcmd command) }
    nandData := fun flash index => (flash.chip.afterReads index).readdata.1
    nandRead := fun flash count => { flash with chip := flash.chip.afterReads count }
    nandProgram := fun flash data =>
      { flash with chip := data.foldl NandChip.senddata flash.chip }
    calcEcc := fun data index =>
      if bound : index < 4 then calcEcc (fun byte => data byte.val) ⟨index, bound⟩ else 0#8 }

end SkyeyeStarlet
