import SkyeyeStarlet.EmulateCore
import SkyeyeStarlet.Framing
import SkyeyeStarlet.MmuCore

/-!
The start of the core by `arm_reset` and `sim_resume`, the answer of `starlet_do_ipc` to
`MSG_STATE`, and `EmuState` of `ipc.py`.
-/

namespace SkyeyeStarlet

variable {Mem : Type}

section Start

/-- `ARMul_NewState` and `starlet_mach_init`, which asks for the big endian option. -/
def starletMachInit (mem : Mem) : ARMulState Mem :=
  { file := { reg := fun _ => 0#32, regBank := fun _ _ => 0#32, bank := .userbank }
    flags :=
      { nFlag := false, zFlag := false, cFlag := false, vFlag := false, sFlag := false
        tFlag := false, ifFlags := 0#2 }
    cpsr := 0#32
    spsr := fun _ => 0#32
    mode := 0#5
    nextInstr := 0#8
    emulate := .run
    abortSig := false
    ntransSig := false
    bigendSig := true
    prog32Sig := true
    lateabtSig := true
    aborted := 0#32
    abortAddr := 0#32
    isV4 := true
    isV5 := true
    isV5e := false
    isXScale := false
    mem }

/-- `ARMul_Reset`, memory and the unit apart. -/
def armulReset (state : ARMulState Mem) : ARMulState Mem :=
  let initial : ARMulState Mem :=
    if state.prog32Sig then
      { state.setReg 15#4 0#32 with nextInstr := 0#8, cpsr := 0xd3#32, mode := svc32mode }
    else
      { state.setReg 15#4 0x0c000003#32 with nextInstr := 0#8, cpsr := 0xc3#32, mode := svc26mode }
  let altered := armulCPSRAltered initial
  flushpipe
    { altered with
      file := { altered.file with bank := .svcbank }
      ntransSig := altered.mode &&& 3#5 != 0#5
      abortSig := false
      abortAddr := 1#32 }

/-- `arm_reset`, whose `io_reset` raises the reset vector, and `sim_resume`. -/
def armReset (highVectors : Mem → Bool) (state : ARMulState Mem) : Emulator Mem :=
  let reset := { armulReset state with nextInstr := 0#8, emulate := .run }
  { cpu := { armulAbort highVectors reset .resetV with nextInstr := 8#8 }
    pc := 0#32
    decoded := 0#32
    loaded := 0#32 }

end Start

namespace Wire

section Message

structure CookedState where
  regs : RegNum → ARMword
  regsBanked : Bank → RegNum → ARMword
  cpsr : ARMword
  spsrs : Bank → ARMword
  cr : ARMword
  ttbr : ARMword
  dacr : ARMword
  fsr : ARMword
  far : ARMword

def cookState (mmu : MmuState) (state : ARMulState Mem) : CookedState :=
  { regs := state.file.reg
    regsBanked := state.file.regBank
    cpsr := state.cpsr
    spsrs := state.spsr
    cr := mmu.control
    ttbr := mmu.translationTableBase
    dacr := mmu.domainAccessControl
    fsr := mmu.faultStatus
    far := mmu.faultAddress }

def bankRows : List Bank :=
  [.userbank, .fiqbank, .irqbank, .svcbank, .abortbank, .undefbank, .dummybank]

def registerWords (reg : RegNum → ARMword) : List ARMword :=
  (List.range 16).map fun number => reg (BitVec.ofNat 4 number)

def CookedState.words (cooked : CookedState) : List ARMword :=
  registerWords cooked.regs ++
    bankRows.flatMap (fun bank => registerWords (cooked.regsBanked bank)) ++
    [cooked.cpsr] ++ bankRows.map cooked.spsrs ++
    [cooked.cr, cooked.ttbr, cooked.dacr, cooked.fsr, cooked.far]

def packWords (order : ByteOrder) (words : List ARMword) : Bytes :=
  words.flatMap (wordBytes order)

/-- The answer to `MSG_STATE`. -/
def msgState (order : ByteOrder) (mmu : MmuState) (state : ARMulState Mem) : Frame :=
  { msg := 6#32, arg := 0#32, payload := packWords order (cookState mmu state).words }

end Message

section Client

/-- The exceptions that `EmuState` can raise. -/
inductive DecodeError where
  | structError
  | keyError
  deriving DecidableEq, Repr

/-- `MODE2BANK`. -/
def mode2bank : List (ARMword × Nat) :=
  [(0x10#32, 0), (0x11#32, 1), (0x12#32, 2), (0x13#32, 3), (0x17#32, 4), (0x1b#32, 5), (0x1f#32, 0)]

structure EmuState where
  regs : List ARMword
  banks : List (List ARMword)
  cpsr : ARMword
  spsrs : List ARMword
  cr : ARMword
  ttbr : ARMword
  dacr : ARMword
  fsr : ARMword
  far : ARMword
  mode : ARMword
  bank : Nat
  spsr : ARMword
  bankedRegs : List ARMword

variable (order : ByteOrder)

/-- `struct.unpack` of `count` words. -/
def unpackWords (count : Nat) (buf : Bytes) : Except DecodeError (List ARMword) :=
  if buf.length = 4 * count then
    .ok ((List.range count).map fun index => bytesWord order ((buf.drop (4 * index)).take 4))
  else .error .structError

def unpackBanks : Nat → Bytes → Except DecodeError (List (List ARMword) × Bytes)
  | 0, buf => .ok ([], buf)
  | count + 1, buf => do
      let bank ← unpackWords order 16 (buf.take (4 * 16))
      let (banks, rest) ← unpackBanks count (buf.drop (4 * 16))
      .ok (bank :: banks, rest)

/-- The end of `EmuState.__init__`, with the words of the buffer. -/
def selectBank (regs : List ARMword) (banks : List (List ARMword)) (cpsr : ARMword)
    (spsrs control : List ARMword) : Except DecodeError EmuState :=
  let mode := cpsr &&& 0x1f#32
  match mode2bank.lookup mode with
  | none => .error .keyError
  | some bank =>
      .ok
        { regs
          banks
          cpsr
          spsrs
          cr := control.getD 0 0#32
          ttbr := control.getD 1 0#32
          dacr := control.getD 2 0#32
          fsr := control.getD 3 0#32
          far := control.getD 4 0#32
          mode
          bank
          spsr := spsrs.getD bank 0#32
          bankedRegs := banks.getD bank [] }

/-- `EmuState.__init__`. -/
def emuState (buf : Bytes) : Except DecodeError EmuState := do
  let regs ← unpackWords order 16 (buf.take (4 * 16))
  let (banks, buf) ← unpackBanks order 7 (buf.drop (4 * 16))
  let cpsr ← unpackWords order 1 (buf.take 4)
  let spsrs ← unpackWords order 7 ((buf.take (8 * 4)).drop 4)
  let control ← unpackWords order 5 (buf.drop (8 * 4))
  selectBank regs banks (cpsr.getD 0 0#32) spsrs control

end Client

end Wire

end SkyeyeStarlet
