import SkyeyeStarlet.ThumbCore

/-!
The loop of `ARMul_Emulate32`: the software pipeline, the exception check, the Thumb
decoder in front of the main switch, and the leaving and entering of the loop by
`ARMul_DoProg`.  No debugger is attached.
-/

namespace SkyeyeStarlet

variable {Mem : Type}

/-- `ARMul_PREFETCHABORT`: only the first failed fetch is recorded. -/
def prefetchAbort (state : ARMulState Mem) (address : ARMword) : ARMulState Mem :=
  if state.abortAddr = 1#32 then
    { state with abortAddr := alignPc state.tFlag address }
  else state

/-- The word of `ARMul_ReLoadInstr` and whether the fetch failed.  A Thumb instruction
in the second half of a word comes with the first half of the next word. -/
def fetchWord (bus : Bus Mem) (state : ARMulState Mem) (address isize : ARMword) :
    Mem × Option ARMword :=
  let first := bus.fetch state.mode address state.mem
  if first.fault = .noFault then
    if isize = 2#32 ∧ address.getLsbD 1 = true then
      let second := bus.fetch state.mode (address + 4#32) first.mem
      if second.fault = .noFault then
        (second.mem, some (if state.bigendSig then (first.data <<< 16) ||| (second.data >>> 16)
          else ((second.data &&& 0xffff#32) <<< 16) ||| (first.data >>> 16)))
      else (second.mem, none)
    else (first.mem, some first.data)
  else (first.mem, none)

/-- `ARMul_ReLoadInstr`, and `ARMul_LoadInstrS` and `ARMul_LoadInstrN`, which only count
cycles. -/
def armulReLoadInstr (bus : Bus Mem) (state : ARMulState Mem) (address isize : ARMword) :
    ARMulState Mem × ARMword :=
  match fetchWord bus state address isize with
  | (mem, some word) => ({ state with mem, abortSig := false }, word)
  | (mem, none) => (prefetchAbort { state with mem } address, armulAbortWord state)

structure Emulator (Mem : Type) where
  cpu : ARMulState Mem
  pc : ARMword
  decoded : ARMword
  loaded : ARMword

structure Primed (Mem : Type) where
  cpu : ARMulState Mem
  pc : ARMword
  instr : ARMword
  decoded : ARMword
  loaded : ARMword

/-- Register 15 moves on with the pipeline, unless the instruction has done it. -/
def stepPc (emulator : Emulator Mem) : ARMulState Mem :=
  if emulator.cpu.nextInstr.getLsbD 1 then emulator.cpu
  else emulator.cpu.setReg 15#4 (emulator.cpu.reg 15#4 + insnSize emulator.cpu)

/-- `SEQ`, `NONSEQ`, `PCINCEDSEQ` and `PCINCEDNONSEQ`: the pipeline moves on by one. -/
def advancePipe (bus : Bus Mem) (emulator : Emulator Mem) : Primed Mem :=
  let isize := insnSize emulator.cpu
  let pc := emulator.pc + isize
  let (fetched, loaded) := armulReLoadInstr bus (stepPc emulator) (pc + isize * 2#32) isize
  { cpu := { fetched with nextInstr := 0#8 }
    pc
    instr := emulator.decoded
    decoded := emulator.loaded
    loaded }

def restartPc (cpu : ARMulState Mem) : ARMulState Mem :=
  { cpu.setReg 15#4 (cpu.reg 15#4 + insnSize cpu * 2#32) with
    aborted := 0#32
    abortAddr := 1#32 }

/-- `RESUME` and the default case: the pipeline is filled from register 15. -/
def refillPipe (bus : Bus Mem) (emulator : Emulator Mem) : Primed Mem :=
  let isize := insnSize emulator.cpu
  let pc := emulator.cpu.reg 15#4
  let (first, instr) := armulReLoadInstr bus (restartPc emulator.cpu) pc isize
  let (second, decoded) := armulReLoadInstr bus first (pc + isize) isize
  let (third, loaded) := armulReLoadInstr bus second (pc + isize * 2#32) isize
  { cpu := { third with nextInstr := 0#8 }, pc, instr, decoded, loaded }

def primePipe (bus : Bus Mem) (emulator : Emulator Mem) : Primed Mem :=
  if emulator.cpu.nextInstr < 4#8 then advancePipe bus emulator else refillPipe bus emulator

/-- What one round of the loop meets: the level of the three exception lines, and what
`io_do_cycle` does behind the memory interface. -/
structure Round (Mem : Type) where
  nresetSig : Bool
  nfiqSig : Bool
  nirqSig : Bool
  ioDoCycle : Mem → Mem

def pendingException (state : ARMulState Mem) (round : Round Mem) : Option Vector :=
  if !round.nresetSig then some .resetV
  else if !round.nfiqSig && !state.flags.ifFlags.getLsbD 0 then some .fiqV
  else if !round.nirqSig && !state.flags.ifFlags.getLsbD 1 then some .irqV
  else none

def Primed.executing (primed : Primed Mem) (round : Round Mem) : ARMulState Mem :=
  { primed.cpu with mem := round.ioDoCycle primed.cpu.mem }

/-- From the Thumb decoder to the end of the main switch. -/
def execute (bus : Bus Mem) (traps : Traps Mem) (cops : Coprocessors Mem)
    (state : ARMulState Mem) (pc instr : ARMword) : ARMulState Mem :=
  if state.tFlag then
    match armulThumbDecode state pc instr with
    | .undefined => armulUndefInstr bus traps state instr
    | .branched after => after
    | .decoded word => executeArm bus traps cops state pc word
  else executeArm bus traps cops state pc instr

/-- `ARMul_DoProg` goes on with `ARMul_Emulate32`. -/
def running (state : ARMulState Mem) : Bool :=
  state.emulate == .run && state.prog32Sig && mode32bit state.mode

def reenter (emulator : Emulator Mem) : Emulator Mem :=
  if emulator.cpu.nextInstr < 4#8 then emulator
  else { emulator with pc := 0#32, decoded := 0#32, loaded := 0#32 }

/-- An exception leaves the loop; an instruction leaves it when emulation is to stop. -/
def finishRound (bus : Bus Mem) (traps : Traps Mem) (cops : Coprocessors Mem)
    (primed : Primed Mem) (round : Round Mem) : Emulator Mem :=
  match pendingException primed.cpu round with
  | some vector =>
      reenter
        { cpu := armulAbort bus.highVectors primed.cpu vector
          pc := primed.pc
          decoded := primed.decoded
          loaded := primed.loaded }
  | none =>
      { cpu := execute bus traps cops (primed.executing round) primed.pc primed.instr
        pc := primed.pc
        decoded := primed.decoded
        loaded := primed.loaded }

/-- One round of the loop.  Once emulation stops, or goes on in a 26 bit mode, the run
of `ARMul_Emulate32` is over. -/
def emulateRound (bus : Bus Mem) (traps : Traps Mem) (cops : Coprocessors Mem)
    (emulator : Emulator Mem) (round : Round Mem) : Emulator Mem :=
  if running emulator.cpu then
    finishRound bus traps cops (primePipe bus emulator) round
  else emulator

end SkyeyeStarlet
