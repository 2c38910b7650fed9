import SkyeyeStarlet.TlbCore

/-!
Processor state, status words, register banks and exception entry, from
`armdefs.h`, `armemu.h`, `armsupp.c` and `arminit.c`.  `Mem` is everything behind
the memory interface: memory, devices, page tables and the fault registers.  The
functions of `armsupp.c` and `arminit.c` are compiled without `MODE32`, so their
program counter mask is `0xfffffffc`; those of `armemu.c` have it, and keep all
bits.
-/

namespace SkyeyeStarlet

abbrev RegNum := BitVec 4

abbrev ModeNum := BitVec 5

inductive Bank where
  | userbank
  | fiqbank
  | irqbank
  | svcbank
  | abortbank
  | undefbank
  | dummybank
  deriving DecidableEq, Repr

inductive Emulate where
  | stop
  | changemode
  | once
  | run
  deriving DecidableEq, Repr

def user26mode : ModeNum := 0#5
def svc26mode : ModeNum := 3#5
def user32mode : ModeNum := 16#5
def fiq32mode : ModeNum := 17#5
def irq32mode : ModeNum := 18#5
def svc32mode : ModeNum := 19#5
def abort32mode : ModeNum := 23#5
def undef32mode : ModeNum := 27#5
def system32mode : ModeNum := 31#5

/-- `Reg`, `RegBank` and `Bank`. -/
structure Registers where
  reg : RegNum → ARMword
  regBank : Bank → RegNum → ARMword
  bank : Bank

structure Flags where
  nFlag : Bool
  zFlag : Bool
  cFlag : Bool
  vFlag : Bool
  sFlag : Bool
  tFlag : Bool
  ifFlags : BitVec 2
  deriving DecidableEq, Repr

/-- Signals are `true` for `HIGH`. -/
structure ARMulState (Mem : Type) where
  file : Registers
  flags : Flags
  cpsr : ARMword
  spsr : Bank → ARMword
  mode : ModeNum
  nextInstr : BitVec 8
  emulate : Emulate
  abortSig : Bool
  ntransSig : Bool
  bigendSig : Bool
  prog32Sig : Bool
  lateabtSig : Bool
  aborted : ARMword
  abortAddr : ARMword
  isV4 : Bool
  isV5 : Bool
  isV5e : Bool
  isXScale : Bool
  mem : Mem

variable {Mem : Type}

def ARMulState.reg (state : ARMulState Mem) (number : RegNum) : ARMword :=
  state.file.reg number

def ARMulState.tFlag (state : ARMulState Mem) : Bool :=
  state.flags.tFlag

def Registers.set (file : Registers) (number : RegNum) (value : ARMword) : Registers :=
  { file with reg := Function.update file.reg number value }

def ARMulState.setReg (state : ARMulState Mem) (number : RegNum) (value : ARMword) :
    ARMulState Mem :=
  { state with file := state.file.set number value }

def flagWord (flag : Bool) : ARMword :=
  (BitVec.ofBool flag).setWidth 32

def insnSize (state : ARMulState Mem) : ARMword :=
  if state.tFlag then 2#32 else 4#32

def Flags.ecc (flags : Flags) : ARMword :=
  (flagWord flags.nFlag <<< 31) ||| (flagWord flags.zFlag <<< 30) |||
    (flagWord flags.cFlag <<< 29) ||| (flagWord flags.vFlag <<< 28) |||
    (flagWord flags.sFlag <<< 27)

def Flags.eint (flags : Flags) : ARMword :=
  flags.ifFlags.setWidth 32 <<< 6

def Flags.er15int (flags : Flags) : ARMword :=
  flags.ifFlags.setWidth 32 <<< 26

/-- The `CPSR` macro. -/
def packCPSR (flags : Flags) (mode : ModeNum) : ARMword :=
  flags.ecc ||| flags.eint ||| mode.setWidth 32 ||| (flagWord flags.tFlag <<< 5)

def armulGetCPSR (state : ARMulState Mem) : ARMword :=
  packCPSR state.flags state.mode

/-- `state->Mode > SVC26MODE`. -/
def mode32bit (mode : ModeNum) : Bool :=
  svc26mode < mode

def r15pc (state : ARMulState Mem) : ARMword :=
  state.reg 15#4 &&& 0x03fffffc#32

def modeToBank (mode : ModeNum) : Bank :=
  if mode = 0#5 ∨ mode = user32mode ∨ mode = system32mode then .userbank
  else if mode = 1#5 ∨ mode = fiq32mode then .fiqbank
  else if mode = 2#5 ∨ mode = irq32mode then .irqbank
  else if mode = 3#5 ∨ mode = svc32mode then .svcbank
  else if mode = abort32mode then .abortbank
  else if mode = undef32mode then .undefbank
  else .dummybank

def bankCanAccessSpsr : Bank → Bool
  | .userbank => false
  | .dummybank => false
  | _ => true

def armulGetSPSR (state : ARMulState Mem) (mode : ModeNum) : ARMword :=
  if bankCanAccessSpsr (modeToBank mode) then state.spsr (modeToBank mode) else armulGetCPSR state

def armulSetSPSR (state : ARMulState Mem) (mode : ModeNum) (value : ARMword) : ARMulState Mem :=
  { state with
    spsr :=
      if bankCanAccessSpsr (modeToBank mode) then
        Function.update state.spsr (modeToBank mode) value
      else state.spsr }

/-- Registers `first` to `last` of `source` laid over `target`. -/
def overlay (target source : RegNum → ARMword) (first last : RegNum) : RegNum → ARMword :=
  fun number => if first ≤ number ∧ number ≤ last then source number else target number

/-- The part of `ARMul_SwitchMode` that saves the registers of the old bank. -/
def saveBank (file : Registers) (oldbank newbank : Bank) : Bank → RegNum → ARMword :=
  match oldbank with
  | .fiqbank =>
      Function.update file.regBank .fiqbank (overlay (file.regBank .fiqbank) file.reg 8#4 14#4)
  | .dummybank =>
      Function.update file.regBank .dummybank
        (overlay (file.regBank .dummybank) (fun _ => 0#32) 8#4 14#4)
  | _ =>
      let shared :=
        if newbank = .fiqbank then
          Function.update file.regBank .userbank
            (overlay (file.regBank .userbank) file.reg 8#4 12#4)
        else file.regBank
      Function.update shared oldbank (overlay (shared oldbank) file.reg 13#4 14#4)

def restoreBank (reg : RegNum → ARMword) (regBank : Bank → RegNum → ARMword)
    (oldbank newbank : Bank) : RegNum → ARMword :=
  match newbank with
  | .fiqbank => overlay reg (regBank .fiqbank) 8#4 14#4
  | .dummybank => overlay reg (fun _ => 0#32) 8#4 14#4
  | _ =>
      let shared :=
        if oldbank = .fiqbank then overlay reg (regBank .userbank) 8#4 12#4 else reg
      overlay shared (regBank newbank) 13#4 14#4

/-- `ARMul_SwitchMode` without its return value, which is `newmode`. -/
def armulSwitchMode (file : Registers) (oldmode newmode : ModeNum) : Registers :=
  let oldbank := modeToBank oldmode
  let newbank := modeToBank newmode
  if oldbank = newbank then { file with bank := newbank }
  else
    let saved := saveBank file oldbank newbank
    { reg := restoreBank file.reg saved oldbank newbank
      regBank := saved
      bank := newbank }

def enterFile (file : Registers) (oldmode newmode : ModeNum) : Registers :=
  if oldmode = newmode then file else armulSwitchMode file oldmode newmode

/-- Enter a mode and its bank, if it is not the current one. -/
def enterMode (state : ARMulState Mem) (newmode : ModeNum) : ARMulState Mem :=
  { state with
    file := enterFile state.file state.mode newmode
    mode := newmode
    ntransSig := if state.mode = newmode then state.ntransSig else newmode &&& 3#5 != 0#5 }

def unpackFlags (psr : ARMword) : Flags :=
  { nFlag := psr.getLsbD 31
    zFlag := psr.getLsbD 30
    cFlag := psr.getLsbD 29
    vFlag := psr.getLsbD 28
    sFlag := psr.getLsbD 27
    tFlag := psr.getLsbD 5
    ifFlags := psr.extractLsb' 6 2 }

/-- Register 15 in the 26 bit form that carries the flags and the mode. -/
def packedR15 (state : ARMulState Mem) : ARMword :=
  state.flags.ecc ||| state.flags.er15int ||| state.mode.setWidth 32 ||| r15pc state

def armulCPSRAltered (state : ARMulState Mem) : ARMulState Mem :=
  let cpsr := if state.prog32Sig then state.cpsr else state.cpsr &&& 0xf80000c3#32
  let altered :=
    { enterMode { state with cpsr } (cpsr.setWidth 5) with flags := unpackFlags cpsr }
  if mode32bit state.mode then
    if mode32bit altered.mode then altered
    else { altered.setReg 15#4 (packedR15 altered) with emulate := .changemode }
  else if mode32bit altered.mode then
    { altered.setReg 15#4 (r15pc altered) with emulate := .changemode }
  else altered.setReg 15#4 (packedR15 altered)

def armulSetCPSR (state : ARMulState Mem) (value : ARMword) : ARMulState Mem :=
  armulCPSRAltered { state with cpsr := value }

def armulR15Altered (state : ARMulState Mem) : ARMulState Mem :=
  let r15 := state.reg 15#4
  let entered := enterMode state ((r15 &&& 3#32).setWidth 5)
  { entered with
    emulate := if mode32bit entered.mode then .changemode else entered.emulate
    flags :=
      { entered.flags with
        ifFlags := r15.extractLsb' 26 2
        nFlag := r15.getLsbD 31
        zFlag := r15.getLsbD 30
        cFlag := r15.getLsbD 29
        vFlag := r15.getLsbD 28 } }

def flushpipe (state : ARMulState Mem) : ARMulState Mem :=
  { state with nextInstr := state.nextInstr ||| 4#8 }

def armulSetR15 (state : ARMulState Mem) (value : ARMword) : ARMulState Mem :=
  if mode32bit state.mode then flushpipe (state.setReg 15#4 (value &&& 0xfffffffc#32))
  else flushpipe (armulR15Altered (state.setReg 15#4 value))

inductive Vector where
  | resetV
  | undefinedInstrV
  | swiV
  | prefetchAbortV
  | dataAbortV
  | addrExceptnV
  | irqV
  | fiqV
  deriving DecidableEq, Repr

def Vector.address : Vector → ARMword
  | .resetV => 0#32
  | .undefinedInstrV => 4#32
  | .swiV => 8#32
  | .prefetchAbortV => 12#32
  | .dataAbortV => 16#32
  | .addrExceptnV => 20#32
  | .irqV => 24#32
  | .fiqV => 28#32

/-- The mode a vector enters, its 26 bit form when the program space is 26 bit. -/
def Vector.mode (prog32Sig : Bool) : Vector → ModeNum
  | .resetV => if prog32Sig then svc32mode else svc26mode
  | .undefinedInstrV => if prog32Sig then undef32mode else svc26mode
  | .swiV => if prog32Sig then svc32mode else svc26mode
  | .prefetchAbortV => if prog32Sig then abort32mode else svc26mode
  | .dataAbortV => if prog32Sig then abort32mode else svc26mode
  | .addrExceptnV => svc26mode
  | .irqV => if prog32Sig then irq32mode else 2#5
  | .fiqV => if prog32Sig then fiq32mode else 1#5

/-- `IBIT`, or `INTBITS` where the fast interrupt is masked too. -/
def Vector.mask : Vector → ARMword
  | .resetV => 0xc0#32
  | .fiqV => 0xc0#32
  | _ => 0x80#32

def Vector.linkOffset (thumb : Bool) : Vector → ARMword
  | .resetV => 0#32
  | .undefinedInstrV => if thumb then 2#32 else 4#32
  | .swiV => if thumb then 2#32 else 4#32
  | .prefetchAbortV => if thumb then 0#32 else 4#32
  | .dataAbortV => if thumb then -4#32 else 0#32
  | .addrExceptnV => if thumb then 2#32 else 4#32
  | .irqV => if thumb then 0#32 else 4#32
  | .fiqV => if thumb then 0#32 else 4#32

def setabort (state : ARMulState Mem) (mask : ARMword) (mode : ModeNum) (link : ARMword) :
    ARMulState Mem :=
  let saved := armulSetSPSR state mode (armulGetCPSR state)
  let entry := (armulGetCPSR saved &&& ~~~(saved.mode.setWidth 32 ||| 0x20#32)) ||| mask |||
    mode.setWidth 32
  (armulSetCPSR saved entry).setReg 14#4 link

def clearAborted (state : ARMulState Mem) (vector : Vector) : ARMulState Mem :=
  { state with
    aborted := 0#32
    abortAddr := if vector = .prefetchAbortV then 1#32 else state.abortAddr }

def exceptionPc (state : ARMulState Mem) : ARMword :=
  if state.prog32Sig then if mode32bit state.mode then state.reg 15#4 else r15pc state
  else packedR15 state

/-- `highVectors` reads `CONTROL_VECTOR` of the system control register.  The
operating system hook of the source, `ARMul_OSException`, always declines. -/
def armulAbort (highVectors : Mem → Bool) (state : ARMulState Mem) (vector : Vector) :
    ARMulState Mem :=
  let entered := setabort (clearAborted state vector) vector.mask (vector.mode state.prog32Sig)
    (exceptionPc state - vector.linkOffset state.tFlag)
  if mode32bit entered.mode then
    armulSetR15 entered
      (vector.address + if highVectors entered.mem then 0xffff0000#32 else 0#32)
  else
    armulSetR15 entered ((entered.reg 15#4 &&& 0xfc000003#32) ||| vector.address)

/-- Register 15 holds halfword addresses in Thumb state and word addresses in ARM state. -/
def alignPc (thumb : Bool) (address : ARMword) : ARMword :=
  if thumb then address &&& 0xfffffffe#32 else address &&& 0xfffffffc#32

def writeR15 (state : ARMulState Mem) (src : ARMword) : ARMulState Mem :=
  flushpipe (state.setReg 15#4 (alignPc state.tFlag src))

def writeSR15 (state : ARMulState Mem) (src : ARMword) : ARMulState Mem :=
  let returned :=
    if state.file.bank = .userbank then state
    else armulCPSRAltered { state with cpsr := state.spsr state.file.bank }
  flushpipe (returned.setReg 15#4 (alignPc returned.tFlag src))

def writeR15Branch (state : ARMulState Mem) (src : ARMword) : ARMulState Mem :=
  let thumb := src.getLsbD 0
  let flags := { state.flags with tFlag := thumb }
  flushpipe
    { state.setReg 15#4 (alignPc thumb src) with flags, cpsr := packCPSR flags state.mode }

end SkyeyeStarlet
