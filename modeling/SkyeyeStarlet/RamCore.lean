import SkyeyeStarlet.BankLookup
import SkyeyeStarlet.DevicesCore
import SkyeyeStarlet.MmuCore

/-!
The banks of RAM of `common/armmem.c`, with the copies between guest memory and the host of
`mach/skyeye_mach_starlet.c`.  A bank is an array of words of the host; bytes and halfwords
are fields of them.  The remapping of the vectors, which no Starlet uses, is left out.
-/

namespace SkyeyeStarlet

section Bank

/-- `real_read_byte`, `real_read_halfword` and `real_read_word` of a bank at `base`. -/
def realRead (bigend : Bool) (rom : Ram) (base : ARMword) (size : AccessSize) (addr : ARMword) :
    ARMword :=
  let data := rom (wordIndex (addr - base))
  match size with
  | .byte => field32 data (byteOffset bigend addr) 8
  | .halfword => field32 data (halfwordOffset bigend addr) 16
  | .word => data

/-- `real_write_byte`, `real_write_halfword` and `real_write_word`. -/
def realWrite (bigend : Bool) (rom : Ram) (base : ARMword) (size : AccessSize)
    (addr data : ARMword) : Ram :=
  let index := wordIndex (addr - base)
  Function.update rom index
    (match size with
      | .byte => setField32 (rom index) (byteOffset bigend addr) 8 data
      | .halfword => setField32 (rom index) (halfwordOffset bigend addr) 16 data
      | .word => data)

end Bank

/-- The banks of RAM of a configuration; their storage comes with an access. -/
structure RamBanks where
  banks : List MemBank
  aligned : ∀ bank ∈ banks, bank.addr &&& 3#32 = 0#32
  disjoint : banks.Pairwise fun first second => ∀ addr, ¬(first.Covers addr ∧ second.Covers addr)

/-- `state->mem.rom`, by bank. -/
abbrev Roms : Type :=
  Nat → Ram

section Accesses

variable (bigend : Bool) (config : RamBanks)

/-- What `bank_ptr` finds among the banks of RAM. -/
def RamBanks.bankOf (addr : ARMword) : Option Nat :=
  config.banks.findIdx? fun bank => decide (bank.Covers addr)

def RamBanks.base (index : Nat) : ARMword :=
  (config.banks.getD index ⟨0#32, 0#32⟩).addr

/-- `mem_read_byte` and its variants. -/
def ramRead (roms : Roms) (size : AccessSize) (addr : ARMword) : ARMword :=
  match config.bankOf addr with
  | some index => realRead bigend (roms index) (config.base index) size addr
  | none => 0#32

/-- `mem_write_byte` and its variants.  The emulator exits when a byte has no bank. -/
def ramWrite (roms : Roms) (size : AccessSize) (addr data : ARMword) : Roms :=
  match config.bankOf addr with
  | some index =>
      Function.update roms index
        (realWrite bigend (roms index) (config.base index) size addr data)
  | none => roms

/-- Bytes that hold a value, the most significant one first: `wbe32` and `wbe16`. -/
def wideBytes (size : AccessSize) (data : ARMword) : Bytes :=
  match size with
  | .byte => [data.extractLsb' 0 8]
  | .halfword => [data.extractLsb' 8 8, data.extractLsb' 0 8]
  | .word =>
      [data.extractLsb' 24 8, data.extractLsb' 16 8, data.extractLsb' 8 8, data.extractLsb' 0 8]

def unitSize : AccessSize → Nat
  | .byte => 1
  | .halfword => 2
  | .word => 4

/-- The loop of the three `starlet_arm2host` variants over a number of units. -/
def copyOut (roms : Roms) (size : AccessSize) : Nat → ARMword → Bytes
  | 0, _ => []
  | count + 1, src =>
      wideBytes size (ramRead bigend config roms size src) ++
        copyOut roms size count (src + BitVec.ofNat 32 (unitSize size))

def starletArm2host32 (roms : Roms) (src len : ARMword) : Bytes :=
  copyOut bigend config roms .word (len.toNat / 4) src

def starletArm2host16 (roms : Roms) (src len : ARMword) : Bytes :=
  copyOut bigend config roms .halfword (len.toNat / 2) src

def starletArm2host8 (roms : Roms) (src len : ARMword) : Bytes :=
  copyOut bigend config roms .byte len.toNat src

/-- `be32` and `be16` of the bytes from an index on. -/
def wideValue (size : AccessSize) (buf : Nat → BitVec 8) (index : Nat) : ARMword :=
  match size with
  | .byte => (buf index).setWidth 32
  | .halfword => (buf index ++ buf (index + 1)).setWidth 32
  | .word => buf index ++ buf (index + 1) ++ buf (index + 2) ++ buf (index + 3)

/-- The loop of the three `starlet_host2arm` variants. -/
def copyIn (size : AccessSize) (buf : Nat → BitVec 8) : Nat → Nat → ARMword → Roms → Roms
  | 0, _, _, roms => roms
  | count + 1, index, dst, roms =>
      copyIn size buf count (index + unitSize size) (dst + BitVec.ofNat 32 (unitSize size))
        (ramWrite bigend config roms size dst (wideValue size buf index))

def starletHost2arm32 (roms : Roms) (dst : ARMword) (buf : Nat → BitVec 8) (len : ARMword) :
    Roms :=
  copyIn bigend config .word buf (len.toNat / 4) 0 dst roms

def starletHost2arm16 (roms : Roms) (dst : ARMword) (buf : Nat → BitVec 8) (len : ARMword) :
    Roms :=
  copyIn bigend config .halfword buf (len.toNat / 2) 0 dst roms

def starletHost2arm8 (roms : Roms) (dst : ARMword) (buf : Nat → BitVec 8) (len : ARMword) :
    Roms :=
  copyIn bigend config .byte buf len.toNat 0 dst roms

/-- `MSG_READ`: the path is chosen by address and length. -/
def msgRead (roms : Roms) (arg len : ARMword) : Bytes :=
  match copyWidth arg len with
  | .word => starletArm2host32 bigend config roms arg len
  | .halfword => starletArm2host16 bigend config roms arg len
  | .byte => starletArm2host8 bigend config roms arg len

/-- `MSG_WRITE`. -/
def msgWrite (roms : Roms) (arg : ARMword) (buf : Nat → BitVec 8) (len : ARMword) : Roms :=
  match copyWidth arg len with
  | .word => starletHost2arm32 bigend config roms arg buf len
  | .halfword => starletHost2arm16 bigend config roms arg buf len
  | .byte => starletHost2arm8 bigend config roms arg buf len

end Accesses

end SkyeyeStarlet
