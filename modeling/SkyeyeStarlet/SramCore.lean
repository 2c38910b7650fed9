import SkyeyeStarlet.MemoryBytes
import SkyeyeStarlet.MmioCore
import SkyeyeStarlet.RamCore

/-!
The windows of SRAM: `starlet_sram_decode`, with its accessors of three widths, behind
`starlet_io_read_word`, `starlet_io_write_word` and their variants.
-/

namespace SkyeyeStarlet

/-- The bytes of `boot0`, `srama`, `sramb` and `dummy`. -/
abbrev SramBytes : Type :=
  HostArray → Nat → BitVec 8

/-- The flags that `starlet_sram_decode` reads. -/
structure SramSettings where
  ports : Ports
  internal : Bool

def SramSettings.decode (settings : SramSettings) (addr : ARMword) : Option (HostArray × Nat) :=
  starletSramDecode settings.ports settings.internal addr

/-- `io.dummy = 0` when the decoded byte is that of `dummy`. -/
def clearDummy (array : HostArray) (bytes : SramBytes) : SramBytes :=
  if array = .dummy then Function.update bytes .dummy fun _ => 0#8 else bytes

/-- `starlet_sram_read_byte` and its variants.  There is no result when the emulator exits. -/
def starletSramRead (settings : SramSettings) (size : AccessSize) (addr : ARMword)
    (bytes : SramBytes) : Option (ARMword × SramBytes) :=
  (settings.decode addr).map fun (array, offset) =>
    let bytes := clearDummy array bytes
    (wideValue size (bytes array) offset, bytes)

def overwrite (cells : Nat → BitVec 8) (offset : Nat) : Bytes → Nat → BitVec 8
  | [] => cells
  | byte :: rest => overwrite (Function.update cells offset byte) (offset + 1) rest

/-- `starlet_sram_write_byte` and its variants. -/
def starletSramWrite (settings : SramSettings) (size : AccessSize) (addr data : ARMword)
    (bytes : SramBytes) : Option SramBytes :=
  (settings.decode addr).map fun (array, offset) =>
    let bytes := clearDummy array bytes
    Function.update bytes array (overwrite (bytes array) offset (wideBytes size data))

structure SramAccess where
  operation : MmioOperation
  size : AccessSize
  addr : ARMword
  window : isSram addr = true
  aligned : sizeAlign size addr = addr

def SramAccess.step (settings : SramSettings) (access : SramAccess) (bytes : SramBytes) :
    Option SramBytes :=
  match access.operation with
  | .read => (starletSramRead settings access.size access.addr bytes).map Prod.snd
  | .write data => starletSramWrite settings access.size access.addr data bytes

def runSram (settings : SramSettings) (bytes : SramBytes) : List SramAccess → Option SramBytes
  | [] => some bytes
  | access :: earlier => (runSram settings bytes earlier).bind (access.step settings)

end SkyeyeStarlet
