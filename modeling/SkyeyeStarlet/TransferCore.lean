import Mathlib.Algebra.Group.Nat.Defs
import SkyeyeStarlet.BlockCore

/-!
Single data transfers of `armemu.c`: the load and store helpers, the addressing
modes of cases `0x40` to `0x7f`, the halfword, signed and doubleword forms of cases
`0x00` to `0x1f`, and the swaps of cases `0x10` and `0x14`.
-/

namespace SkyeyeStarlet

/-- The hook of the machine on undefined instructions and software interrupts, which
tells whether it has dealt with the instruction. -/
structure Traps (Mem : Type) where
  undfTrap : ARMulState Mem → ARMword → ARMulState Mem × Bool

variable {Mem : Type}

def armulUndefInstr (bus : Bus Mem) (traps : Traps Mem) (state : ARMulState Mem)
    (instr : ARMword) : ARMulState Mem :=
  let (trapped, handled) := traps.undfTrap state instr
  if handled then trapped else armulAbort bus.highVectors trapped .undefinedInstrV

def destReg (instr : ARMword) : RegNum :=
  instr.extractLsb' 12 4

def rhsReg (instr : ARMword) : RegNum :=
  instr.extractLsb' 0 4

/-- The `LHS` macro. -/
def lhsValue (state : ARMulState Mem) (instr : ARMword) : ARMword :=
  if lhsReg instr = 15#4 then state.reg 15#4 &&& 0xfffffffc#32 else state.reg (lhsReg instr)

def lsImmRHS (instr : ARMword) : ARMword :=
  (instr.extractLsb' 0 12).setWidth 32

inductive ShiftType where
  | lsl
  | lsr
  | asr
  | ror
  deriving DecidableEq, Repr

def shiftType (instr : ARMword) : ShiftType :=
  match instr.getLsbD 6, instr.getLsbD 5 with
  | false, false => .lsl
  | false, true => .lsr
  | true, false => .asr
  | true, true => .ror

def rotater (word : ARMword) (amount : Nat) : ARMword :=
  (word <<< (32 - amount)) ||| (word >>> amount)

def shiftConstant (shift : ShiftType) (amount : BitVec 5) (carry : Bool) (base : ARMword) :
    ARMword :=
  match shift with
  | .lsl => base <<< amount.toNat
  | .lsr => if amount = 0#5 then 0#32 else base >>> amount.toNat
  | .asr => if amount = 0#5 then base.sshiftRight 31 else base.sshiftRight amount.toNat
  | .ror =>
      if amount = 0#5 then (base >>> 1) ||| (flagWord carry <<< 31)
      else rotater base amount.toNat

def getLSRegRHS (state : ARMulState Mem) (instr : ARMword) : ARMword :=
  shiftConstant (shiftType instr) (instr.extractLsb' 7 5) state.flags.cFlag
    (state.reg (rhsReg instr))

def lsRegRHS (state : ARMulState Mem) (instr : ARMword) : ARMword :=
  if instr.extractLsb' 4 8 = 0#8 then state.reg (rhsReg instr) else getLSRegRHS state instr

def getLS7RHS (state : ARMulState Mem) (instr : ARMword) : ARMword :=
  if instr.getLsbD 22 then
    (instr.extractLsb' 0 4).setWidth 32 ||| ((instr.extractLsb' 8 4).setWidth 32 <<< 4)
  else state.reg (rhsReg instr)

def armulAlign (address data : ARMword) : ARMword :=
  rotater data (8 * (address &&& 3#32).toNat)

/-- `WRITEDEST`, and `WRITEDESTB` with the write to register 15 of a branch. -/
def writeDest (state : ARMulState Mem) (instr value : ARMword) : ARMulState Mem :=
  if destReg instr = 15#4 then writeR15 state value else state.setReg (destReg instr) value

def writeDestB (state : ARMulState Mem) (instr value : ARMword) : ARMulState Mem :=
  if destReg instr = 15#4 then writeR15Branch state value
  else state.setReg (destReg instr) value

/-- A load helper: the result tells the caller whether to write the base. -/
def loadData (bus : Bus Mem) (size : AccessSize)
    (finish : ARMulState Mem → ARMword → ARMulState Mem) (state : ARMulState Mem)
    (instr address : ARMword) : ARMulState Mem × Bool :=
  let (read, dest) := armulRead bus size (bususedincpcs state) address
  if read.aborted = 0#32 then (finish read dest, destReg instr != lhsReg instr)
  else (takeAbort bus read, (takeAbort bus read).lateabtSig)

def loadWord (bus : Bus Mem) (state : ARMulState Mem) (instr address : ARMword) :
    ARMulState Mem × Bool :=
  loadData bus .word
    (fun read dest =>
      writeDestB read instr (if address &&& 3#32 = 0#32 then dest else armulAlign address dest))
    state instr address

def signExtendFrom (bits : Nat) (signextend : Bool) (dest : ARMword) : ARMword :=
  if signextend && dest.getLsbD (bits - 1) then
    (dest &&& BitVec.ofNat 32 (2 ^ bits - 1)) - BitVec.ofNat 32 (2 ^ bits)
  else dest

def loadHalfWord (bus : Bus Mem) (signextend : Bool) (state : ARMulState Mem)
    (instr address : ARMword) : ARMulState Mem × Bool :=
  loadData bus .halfword (fun read dest => writeDest read instr (signExtendFrom 16 signextend dest))
    state instr address

def loadByte (bus : Bus Mem) (signextend : Bool) (state : ARMulState Mem)
    (instr address : ARMword) : ARMulState Mem × Bool :=
  loadData bus .byte (fun read dest => writeDest read instr (signExtendFrom 8 signextend dest))
    state instr address

def storeData (bus : Bus Mem) (size : AccessSize) (state : ARMulState Mem)
    (instr address : ARMword) : ARMulState Mem × Bool :=
  let started := bususedincpcn state
  let written := armulWrite bus size started address (started.reg (destReg instr))
  if written.aborted = 0#32 then (written, true)
  else (takeAbort bus written, (takeAbort bus written).lateabtSig)

def storeWord (bus : Bus Mem) (state : ARMulState Mem) (instr address : ARMword) :
    ARMulState Mem × Bool :=
  storeData bus .word state instr address

def storeHalfWord (bus : Bus Mem) (state : ARMulState Mem) (instr address : ARMword) :
    ARMulState Mem × Bool :=
  storeData bus .halfword state instr address

def storeByte (bus : Bus Mem) (state : ARMulState Mem) (instr address : ARMword) :
    ARMulState Mem × Bool :=
  storeData bus .byte state instr address

/-- `lhs` with the offset added or taken away. -/
def indexed (offset : ARMulState Mem → ARMword → ARMword) (state : ARMulState Mem)
    (instr lhs : ARMword) : ARMword :=
  if instr.getLsbD 23 then lhs + offset state instr else lhs - offset state instr

/-- The addressing modes.  A store with post indexing takes its offset from the
registers it finds after the access; a load takes it before. -/
def indexedTransfer (offset : ARMulState Mem → ARMword → ARMword)
    (access : ARMulState Mem → ARMword → ARMword → ARMulState Mem × Bool) (state : ARMulState Mem)
    (instr : ARMword) : ARMulState Mem :=
  let lhs := lhsValue state instr
  let temp := indexed offset state instr lhs
  if instr.getLsbD 24 then
    let (moved, base) := access state instr temp
    if instr.getLsbD 21 && base then moved.setReg (lhsReg instr) temp else moved
  else
    let (moved, base) := access state instr lhs
    let after := if instr.getLsbD 20 then temp else indexed offset moved instr lhs
    if base then moved.setReg (lhsReg instr) after else moved

def singleAccess (bus : Bus Mem) (state : ARMulState Mem) (instr address : ARMword) :
    ARMulState Mem × Bool :=
  match instr.getLsbD 22, instr.getLsbD 20 with
  | false, false => storeWord bus state instr address
  | false, true => loadWord bus state instr address
  | true, false => storeByte bus state instr address
  | true, true => loadByte bus false state instr address

def singleOffset (state : ARMulState Mem) (instr : ARMword) : ARMword :=
  if instr.getLsbD 25 then lsRegRHS state instr else lsImmRHS instr

/-- Cases `0x40` to `0x7f`.  Post indexing with the writeback bit is the user access
form, which drives `NtransSig` around the access. -/
def singleTransfer (bus : Bus Mem) (state : ARMulState Mem) (instr : ARMword) : ARMulState Mem :=
  if instr.getLsbD 21 && !instr.getLsbD 24 then
    let moved := indexedTransfer singleOffset (singleAccess bus)
      { state with ntransSig := false } instr
    { moved with ntransSig := moved.mode &&& 3#5 != 0#5 }
  else indexedTransfer singleOffset (singleAccess bus) state instr

def halfAccess (bus : Bus Mem) (state : ARMulState Mem) (instr address : ARMword) :
    ARMulState Mem × Bool :=
  if instr.getLsbD 20 then
    match instr.getLsbD 6, instr.getLsbD 5 with
    | true, false => loadByte bus true state instr address
    | true, true => loadHalfWord bus true state instr address
    | _, _ => loadHalfWord bus false state instr address
  else storeHalfWord bus state instr address

def halfTransfer (bus : Bus Mem) (state : ARMulState Mem) (instr : ARMword) : ARMulState Mem :=
  indexedTransfer getLS7RHS (halfAccess bus) state instr

/-- The address of a doubleword transfer, the value written back, and whether the
instruction is one the simulator takes. -/
structure DoubleAddress where
  addr : ARMword
  sum : ARMword
  accepted : Bool

def doubleAddress (state : ARMulState Mem) (instr : ARMword) : DoubleAddress :=
  let offset := getLS7RHS state instr
  let base := state.reg (lhsReg instr)
  let sum := if instr.getLsbD 23 then base + offset else base - offset
  let addr := if instr.getLsbD 24 then sum else base
  let writes := !instr.getLsbD 24 || instr.getLsbD 21
  { addr
    sum
    accepted := !(instr.getLsbD 21 && !instr.getLsbD 24) && !(destReg instr).getLsbD 0 &&
      addr &&& 7#32 == 0#32 &&
      !(writes && (lhsReg instr == destReg instr || lhsReg instr == destReg instr + 1#4)) }

def doubleWriteBack (state : ARMulState Mem) (instr : ARMword) (address : DoubleAddress) :
    ARMulState Mem :=
  if !instr.getLsbD 24 || instr.getLsbD 21 then state.setReg (lhsReg instr) address.sum else state

def handleLoadDouble (bus : Bus Mem) (traps : Traps Mem) (state : ARMulState Mem)
    (instr : ARMword) : ARMulState Mem :=
  let started := bususedincpcs state
  let address := doubleAddress started instr
  if address.accepted && destReg instr != 14#4 then
    let (first, value1) := armulRead bus .word started address.addr
    let (second, value2) := armulRead bus .word first (address.addr + 4#32)
    if second.aborted = 0#32 then
      doubleWriteBack
        ((second.setReg (destReg instr) value1).setReg (destReg instr + 1#4) value2) instr address
    else takeAbort bus second
  else armulUndefInstr bus traps started instr

def handleStoreDouble (bus : Bus Mem) (traps : Traps Mem) (state : ARMulState Mem)
    (instr : ARMword) : ARMulState Mem :=
  let started := bususedincpcs state
  let address := doubleAddress started instr
  if address.accepted && lhsReg instr != 15#4 then
    let first := armulWrite bus .word started address.addr (started.reg (destReg instr))
    let second := armulWrite bus .word first (address.addr + 4#32)
      (first.reg (destReg instr + 1#4))
    if second.aborted = 0#32 then doubleWriteBack second instr address
    else takeAbort bus second
  else armulUndefInstr bus traps started instr

/-- `PutWord`, whose fault code `ARMul_SwapWord` does not look at. -/
def putWord (bus : Bus Mem) (state : ARMulState Mem) (address data : ARMword) : ARMulState Mem :=
  { state with mem := (bus.write .word state.mode address data state.mem).mem }

def armulSwapWord (bus : Bus Mem) (state : ARMulState Mem) (address data : ARMword) :
    ARMulState Mem × ARMword :=
  let (read, temp) := armulRead bus .word state address
  (putWord bus read address data, temp)

def armulSwapByte (bus : Bus Mem) (state : ARMulState Mem) (address data : ARMword) :
    ARMulState Mem × ARMword :=
  let (read, temp) := armulRead bus .byte state address
  (armulWrite bus .byte read address data, temp)

def swapEnd (bus : Bus Mem) (state : ARMulState Mem) : ARMulState Mem :=
  if state.abortSig || state.aborted != 0#32 then takeAbort bus state else state

def swapWord (bus : Bus Mem) (state : ARMulState Mem) (instr : ARMword) : ARMulState Mem :=
  let temp := lhsValue state instr
  let started := bususedincpcs state
  let (swapped, dest) := armulSwapWord bus started temp (started.reg (rhsReg instr))
  swapEnd bus (swapped.setReg (destReg instr)
    (if temp &&& 3#32 = 0#32 then dest else armulAlign temp dest))

def swapByte (bus : Bus Mem) (state : ARMulState Mem) (instr : ARMword) : ARMulState Mem :=
  let temp := lhsValue state instr
  let started := bususedincpcs state
  let (swapped, dest) := armulSwapByte bus started temp (started.reg (rhsReg instr))
  swapEnd bus (swapped.setReg (destReg instr) dest)

/-- The single transfers by the case of the main switch that runs them. -/
inductive Transfer where
  | single
  | half
  | loadDouble
  | storeDouble
  | swapWord
  | swapByte
  deriving DecidableEq, Repr

def transferOf (instr : ARMword) : Option Transfer :=
  let immediate := instr.getLsbD 22
  let plain := immediate || instr.extractLsb' 8 4 == 0#4
  if instr.extractLsb' 26 2 = 1#2 then
    if instr.getLsbD 25 && instr.getLsbD 4 then none else some .single
  else if instr.extractLsb' 25 3 = 0#3 then
    match instr.getLsbD 20, instr.extractLsb' 4 4 with
    | false, 0xb#4 => if plain then some .half else none
    | true, 0xb#4 => if plain then some .half else none
    | true, 0xd#4 => if plain then some .half else none
    | true, 0xf#4 => if plain then some .half else none
    | false, 0xd#4 => if instr.getLsbD 24 || !instr.getLsbD 21 then some .loadDouble else none
    | false, 0xf#4 => if instr.getLsbD 24 || !instr.getLsbD 21 then some .storeDouble else none
    | false, 0x9#4 =>
        if instr.extractLsb' 20 8 = 0x10#8 ∧ instr.extractLsb' 8 4 = 0#4 then some .swapWord
        else if instr.extractLsb' 20 8 = 0x14#8 ∧ instr.extractLsb' 8 4 = 0#4 then some .swapByte
        else none
    | _, _ => none
  else none

def dataTransfer (bus : Bus Mem) (traps : Traps Mem) (state : ARMulState Mem) (instr : ARMword) :
    Transfer → ARMulState Mem
  | .single => singleTransfer bus state instr
  | .half => halfTransfer bus state instr
  | .loadDouble => handleLoadDouble bus traps state instr
  | .storeDouble => handleStoreDouble bus traps state instr
  | .swapWord => swapWord bus state instr
  | .swapByte => swapByte bus state instr

end SkyeyeStarlet
