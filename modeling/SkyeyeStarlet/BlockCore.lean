import SkyeyeStarlet.ArmCore

/-!
The memory interface of `armvirt.c` and the block transfers of `armemu.c`.  `Bus`
stands for `mmu_ops`: each access sees the mode that the permission check reads
and may change the state behind the interface (the translation buffer, a device).
-/

namespace SkyeyeStarlet

inductive AccessSize where
  | byte
  | halfword
  | word
  deriving DecidableEq, Repr

structure ReadResult (Mem : Type) where
  mem : Mem
  fault : FaultT
  data : ARMword

structure WriteResult (Mem : Type) where
  mem : Mem
  fault : FaultT

structure Bus (Mem : Type) where
  read : AccessSize → ModeNum → ARMword → Mem → ReadResult Mem
  write : AccessSize → ModeNum → ARMword → ARMword → Mem → WriteResult Mem
  fetch : ModeNum → ARMword → Mem → ReadResult Mem
  recordFault : FaultT → ARMword → Mem → Mem
  highVectors : Mem → Bool

variable {Mem : Type}

def armulAbortWord (state : ARMulState Mem) : ARMword :=
  if state.tFlag then 0xefffdfff#32 else 0xefffffff#32

/-- A failed access: the fault registers, the abort pin and the sticky flag. -/
def dataAbort (bus : Bus Mem) (state : ARMulState Mem) (mem : Mem) (fault : FaultT)
    (address : ARMword) : ARMulState Mem :=
  { state with mem := bus.recordFault fault address mem, abortSig := true, aborted := 16#32 }

/-- `ARMul_ReadWord`, `ARMul_LoadHalfWord` and `ARMul_ReadByte`. -/
def armulRead (bus : Bus Mem) (size : AccessSize) (state : ARMulState Mem) (address : ARMword) :
    ARMulState Mem × ARMword :=
  let result := bus.read size state.mode address state.mem
  if result.fault = .noFault then ({ state with mem := result.mem, abortSig := false }, result.data)
  else (dataAbort bus state result.mem result.fault address, armulAbortWord state)

/-- `ARMul_WriteWord`, `ARMul_StoreHalfWord` and `ARMul_WriteByte`. -/
def armulWrite (bus : Bus Mem) (size : AccessSize) (state : ARMulState Mem)
    (address data : ARMword) : ARMulState Mem :=
  let result := bus.write size state.mode address data state.mem
  if result.fault = .noFault then { state with mem := result.mem, abortSig := false }
  else dataAbort bus state result.mem result.fault address

def takeAbort (bus : Bus Mem) (state : ARMulState Mem) : ARMulState Mem :=
  armulAbort bus.highVectors state .dataAbortV

def bususedincpcs (state : ARMulState Mem) : ARMulState Mem :=
  if state.isV4 then state
  else
    { state.setReg 15#4 (state.reg 15#4 + insnSize state) with
      nextInstr := state.nextInstr ||| 2#8 }

def bususedincpcn (state : ARMulState Mem) : ARMulState Mem :=
  if state.isV4 then { state with nextInstr := state.nextInstr ||| 1#8 }
  else
    { state.setReg 15#4 (state.reg 15#4 + insnSize state) with
      nextInstr := state.nextInstr ||| 3#8 }

def lhsReg (instr : ARMword) : RegNum :=
  instr.extractLsb' 16 4

/-- `Reg[index]`.  An index above 15 runs on into `RegBank[USERBANK]`, which follows
`Reg` in the structure. -/
def rawReg (file : Registers) (index : Nat) : ARMword :=
  if index < 16 then file.reg (BitVec.ofNat 4 index)
  else file.regBank .userbank (BitVec.ofNat 4 (index - 16))

def setRawReg (file : Registers) (index : Nat) (value : ARMword) : Registers :=
  if index < 16 then file.set (BitVec.ofNat 4 index) value
  else
    { file with
      regBank := Function.update file.regBank .userbank
        (Function.update (file.regBank .userbank) (BitVec.ofNat 4 (index - 16)) value) }

/-- The first set bit of the word, which the search for the first register takes
even when the register list is empty. -/
def firstListed (instr : ARMword) : Nat :=
  ((List.range 32).find? fun index => instr.getLsbD index).getD 32

def laterListed (instr : ARMword) : List Nat :=
  (List.range 16).filter fun index => firstListed instr < index && instr.getLsbD index

/-- `LSMNumRegs`, four for each listed register. -/
def lsmNumRegs (instr : ARMword) : ARMword :=
  BitVec.ofNat 32 (4 * ((List.range 16).filter fun index => instr.getLsbD index).length)

/-- One loaded word.  The first transfer of the S form does not look at the sticky
flag before it writes the register. -/
def loadListed (bus : Bus Mem) (sticky : Bool) (state : ARMulState Mem) (index : Nat)
    (address : ARMword) : ARMulState Mem :=
  let (read, dest) := armulRead bus .word state address
  if !read.abortSig && (!sticky || read.aborted == 0#32) then
    { read with file := setRawReg read.file index dest }
  else if read.aborted = 0#32 then { read with aborted := 16#32 }
  else read

def storeListed (bus : Bus Mem) (state : ARMulState Mem) (index : Nat) (address : ARMword) :
    ARMulState Mem :=
  let written := armulWrite bus .word state address (rawReg state.file index)
  if written.abortSig && written.aborted == 0#32 then { written with aborted := 16#32 } else written

def transferRest (transfer : ARMulState Mem → Nat → ARMword → ARMulState Mem) :
    List Nat → ARMword → ARMulState Mem → ARMulState Mem
  | [], _, state => state
  | index :: rest, address, state =>
      let moved := transfer state index (address + 4#32)
      if moved.aborted = 0#32 then transferRest transfer rest (address + 4#32) moved else moved

def transferAll (first transfer : ARMulState Mem → Nat → ARMword → ARMulState Mem)
    (instr address : ARMword) (state : ARMulState Mem) : ARMulState Mem :=
  let moved := first state (firstListed instr) address
  if moved.aborted = 0#32 then transferRest transfer (laterListed instr) address moved else moved

/-- `if (BIT (21) && LHSReg != 15) LSBase = WBBase`. -/
def writeBack (instr wbBase : ARMword) (state : ARMulState Mem) : ARMulState Mem :=
  if instr.getLsbD 21 && lhsReg instr != 15#4 then state.setReg (lhsReg instr) wbBase else state

/-- The writeback of an aborted transfer, which the base restored model leaves out. -/
def writeBackLate (instr wbBase : ARMword) (state : ARMulState Mem) : ARMulState Mem :=
  if state.abortSig && state.aborted != 0#32 && !state.lateabtSig then state
  else writeBack instr wbBase state

def loadMult (bus : Bus Mem) (state : ARMulState Mem) (instr address wbBase : ARMword) :
    ARMulState Mem :=
  let loaded := transferAll (loadListed bus true) (loadListed bus true) instr address
    (bususedincpcs state)
  if loaded.aborted = 0#32 then
    let branched :=
      if instr.getLsbD 15 then writeR15Branch loaded (loaded.reg 15#4) else loaded
    writeBack instr wbBase branched
  else takeAbort bus loaded

def inUserMode (mode : ModeNum) : Bool :=
  mode == user26mode || mode == user32mode

/-- The temporary switch to the user bank, which changes `Bank` but not `Mode`. -/
def toUserBank (state : ARMulState Mem) : ARMulState Mem :=
  if state.file.bank != .userbank then
    { state with file := armulSwitchMode state.file state.mode user26mode }
  else state

def toOwnBank (state : ARMulState Mem) : ARMulState Mem :=
  if inUserMode state.mode then state
  else { state with file := armulSwitchMode state.file user26mode state.mode }

/-- The end of an S form load whose list has register 15. -/
def returnFromList (state : ARMulState Mem) : ARMulState Mem :=
  let restored :=
    if inUserMode state.mode then state
    else armulCPSRAltered { state with cpsr := armulGetSPSR state state.mode }
  writeR15 restored (restored.reg 15#4)

def loadSMult (bus : Bus Mem) (state : ARMulState Mem) (instr address wbBase : ARMword) :
    ARMulState Mem :=
  let started := bususedincpcs state
  let switched := if instr.getLsbD 15 then started else toUserBank started
  let loaded := transferAll (loadListed bus false) (loadListed bus true) instr address switched
  let based :=
    if loaded.aborted = 0#32 then writeBack instr wbBase loaded
    else takeAbort bus (writeBackLate instr wbBase loaded)
  let returned :=
    if instr.getLsbD 15 && based.aborted == 0#32 then returnFromList based else based
  if instr.getLsbD 15 then returned else toOwnBank returned

def storeMult (bus : Bus Mem) (state : ARMulState Mem) (instr address wbBase : ARMword) :
    ARMulState Mem :=
  let started := if state.tFlag then state else bususedincpcn state
  let stored := transferAll (storeListed bus) (storeListed bus) instr address started
  let based := writeBackLate instr wbBase stored
  if based.aborted = 0#32 then based else takeAbort bus based

def storeSMult (bus : Bus Mem) (state : ARMulState Mem) (instr address wbBase : ARMword) :
    ARMulState Mem :=
  let switched := toUserBank (bususedincpcn state)
  let stored := transferAll (storeListed bus) (storeListed bus) instr address switched
  -- The restore of the bank stands before the label that an abort jumps to.
  let restored := if stored.aborted = 0#32 then toOwnBank stored else stored
  let based := writeBackLate instr wbBase restored
  if based.aborted = 0#32 then based else takeAbort bus based

/-- The first address of a block and the value written back, from the four
addressing modes of cases `0x80` to `0x9f` of the main switch. -/
def blockStart (instr base : ARMword) : ARMword :=
  match instr.getLsbD 24, instr.getLsbD 23 with
  | false, false => base - lsmNumRegs instr + 4#32
  | false, true => base
  | true, false => base - lsmNumRegs instr
  | true, true => base + 4#32

def blockBase (instr base : ARMword) : ARMword :=
  if instr.getLsbD 21 then
    if instr.getLsbD 23 then base + lsmNumRegs instr else base - lsmNumRegs instr
  else 0#32

def blockTransfer (bus : Bus Mem) (state : ARMulState Mem) (instr : ARMword) : ARMulState Mem :=
  let base := state.reg (lhsReg instr)
  match instr.getLsbD 22, instr.getLsbD 20 with
  | false, false => storeMult bus state instr (blockStart instr base) (blockBase instr base)
  | false, true => loadMult bus state instr (blockStart instr base) (blockBase instr base)
  | true, false => storeSMult bus state instr (blockStart instr base) (blockBase instr base)
  | true, true => loadSMult bus state instr (blockStart instr base) (blockBase instr base)

end SkyeyeStarlet
