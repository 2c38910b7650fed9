import SkyeyeStarlet.TransferCore

/-!
`starlet_undefined_trap`: the accesses to guest memory by which the system calls are traced,
and the semihosting calls.  What it prints is left out.
-/

namespace SkyeyeStarlet

/-- `mem_read_word` and `mem_write_word`, which take physical addresses. -/
structure PhysicalBus (Mem : Type) where
  readWord : ARMword → Mem → Mem × ARMword
  writeWord : ARMword → ARMword → Mem → Mem

variable {Mem : Type}

section Strings

/-- `starlet_get_string`, which goes on behind a byte that cannot be read; `left` is what is
left of its buffer. -/
def starletGetString (bus : Bus Mem) : Nat → ARMword → ARMulState Mem → ARMulState Mem
  | 0, _, state => state
  | left + 1, pointer, state =>
      let (read, byte) := armulRead bus .byte state pointer
      if byte = 0#32 then read else starletGetString bus left (pointer + 1#32) read

def stringSize : Nat :=
  0x1000

end Strings

section Calls

/-- `enum high_syscalls`. -/
inductive HighSyscall where
  | ignore
  | sha1
  | sha1Async
  | aesDecrypt
  | aesEncrypt
  | aesDecryptAsync
  | aesEncryptAsync
  | hmac
  | hmacAsync
  | verifyLoadCert
  | verifyHash
  | createKey
  | removeKey
  | loadDecryptKey
  | getKeyId
  deriving DecidableEq, Repr

/-- A system call by its number, or as a table of one version of IOS has it. -/
inductive Syscall where
  | low (number : BitVec 8)
  | high (call : HighSyscall)
  deriving DecidableEq, Repr

def syscallsBoot2v2 (number : BitVec 8) : Option HighSyscall :=
  match number with
  | 0x68#8 => some .aesDecryptAsync
  | 0x6b#8 => some .hmac
  | 0x6c#8 => some .hmacAsync
  | _ => none

def syscallsIOS30 (number : BitVec 8) : Option HighSyscall :=
  match number with
  | 0x5b#8 => some .createKey
  | 0x5c#8 => some .removeKey
  | 0x5d#8 => some .loadDecryptKey
  | 0x63#8 => some .getKeyId
  | 0x66#8 => some .sha1Async
  | 0x67#8 => some .sha1
  | 0x68#8 => some .aesEncryptAsync
  | 0x69#8 => some .aesEncrypt
  | 0x6a#8 => some .aesDecryptAsync
  | 0x6b#8 => some .aesDecrypt
  | 0x6c#8 => some .verifyHash
  | 0x6d#8 => some .hmac
  | 0x6e#8 => some .hmacAsync
  | 0x6f#8 => some .verifyLoadCert
  | _ => none

/-- `disabled_syscalls`. -/
def disabledSyscalls : HighSyscall → Bool
  | .aesDecryptAsync | .hmac | .hmacAsync => true
  | _ => false

/-- The call that a number stands for, by the word at `0x3140`. -/
def syscallOf (iosversion : ARMword) (number : BitVec 8) : Syscall :=
  let listed :=
    if iosversion = 30#32 then syscallsIOS30 number
    else if iosversion = 0#32 then syscallsBoot2v2 number
    else none
  match listed with
  | none => .low number
  | some call => .high (if disabledSyscalls call then .ignore else call)

end Calls

section Tracing

/-- `ARMul_GetPC`. -/
def armulGetPC (state : ARMulState Mem) : ARMword :=
  if mode32bit state.mode then state.reg 15#4 else r15pc state

/-- The processes of `get_context_id` whose threads `starlet_IOS_ThreadSetPriority` kills: those
of network and keyboard. -/
def killsThreads (state : ARMulState Mem) : Bool :=
  let pc := armulGetPC state
  let mapped := if pc >>> 17 = 0x7ff8#32 then (pc &&& 0x1ffff#32) ||| 0x0d400000#32 else pc
  let page := (mapped >>> 16).toNat
  0x13db ≤ page && page ≤ 0x13e0 || page == 0x13eb || 0x13ed ≤ page && page ≤ 0x13f3 ||
    page == 0x13d9

/-- `starlet_stack`. -/
def starletStack (bus : Bus Mem) (state : ARMulState Mem) (num : Nat) :
    ARMulState Mem × ARMword :=
  armulRead bus .word state (state.reg 13#4 + BitVec.ofNat 32 (4 * num))

def starletStacks (bus : Bus Mem) : Nat → ARMulState Mem → ARMulState Mem
  | 0, state => state
  | num + 1, state => starletStacks bus num (starletStack bus state num).1

/-- The loop of the vectored calls over the pairs of an address and a length. -/
def traceVectors (bus : Bus Mem) : Nat → ARMword → ARMulState Mem → ARMulState Mem
  | 0, _, state => state
  | left + 1, pvecs, state =>
      let offset := (armulRead bus .word state pvecs).1
      let len := (armulRead bus .word offset (pvecs + 4#32)).1
      traceVectors bus left (pvecs + 8#32) len

/-- `starlet_IOS_DeviceIoctlv` and its variant, with `others` arguments behind the vectors. -/
def traceIoctlv (bus : Bus Mem) (others : Nat) (state : ARMulState Mem) : ARMulState Mem :=
  let above := (List.range others).reverse.foldl
    (fun state num => (starletStack bus state (num + 1)).1) state
  let (read, pvecs) := starletStack bus above 0
  let count := (read.reg 2#4 + read.reg 3#4).toNat
  if count < 256 then traceVectors bus count pvecs read else read

/-- `starlet_IOS_ThreadSetPriority`. -/
def threadSetPriority (bus : Bus Mem) (physical : PhysicalBus Mem) (state : ARMulState Mem) :
    ARMulState Mem :=
  let scaddr := armulGetPC state - 8#32
  if killsThreads state then
    let before := (armulRead bus .word state scaddr).1
    let killed := { before with mem := physical.writeWord scaddr 0xe6000050#32 before.mem }
    (armulRead bus .word killed scaddr).1
  else state

/-- The switch over the system calls; those that only print their registers read nothing. -/
def traceSyscall (bus : Bus Mem) (physical : PhysicalBus Mem) (state : ARMulState Mem) :
    Syscall → ARMulState Mem
  | .low 0x08#8 | .low 0x09#8 => threadSetPriority bus physical state
  | .low 0x1b#8 | .low 0x1c#8 | .low 0x23#8 =>
      starletGetString bus stringSize (state.reg 0#4) state
  | .low 0x21#8 => starletStacks bus 2 state
  | .low 0x22#8 => traceIoctlv bus 0 state
  | .low 0x25#8 | .low 0x26#8 | .low 0x27#8 => starletStacks bus 1 state
  | .low 0x28#8 => starletStacks bus 4 state
  | .low 0x29#8 => traceIoctlv bus 2 state
  | .high .loadDecryptKey | .high .aesDecryptAsync | .high .aesEncryptAsync =>
      starletStacks bus 3 state
  | .high .sha1 | .high .sha1Async | .high .aesDecrypt | .high .aesEncrypt =>
      starletStacks bus 1 state
  | .high .hmac => starletStacks bus 4 state
  | .high .hmacAsync => starletStacks bus 6 state
  | _ => state

end Tracing

section Trap

def isSemihosting (number : BitVec 24) : Bool :=
  number == 0xab#24 || number == 0x12345#24 || number == 0x123456#24

/-- `SYS_WRITEC` and `SYS_WRITE0`. -/
def semihosting (bus : Bus Mem) (state : ARMulState Mem) : ARMulState Mem :=
  if state.reg 0#4 = 3#32 then (armulRead bus .byte state (state.reg 1#4)).1
  else if state.reg 0#4 = 4#32 then starletGetString bus stringSize (state.reg 1#4) state
  else state

def starletUndefinedTrap (bus : Bus Mem) (physical : PhysicalBus Mem) (state : ARMulState Mem)
    (instr : ARMword) : ARMulState Mem × Bool :=
  if instr &&& 0xffff001f#32 = 0xe6000010#32 then
    let (mem, version) := physical.readWord 0x3140#32 state.mem
    (traceSyscall bus physical { state with mem }
      (syscallOf (version >>> 16) (instr.extractLsb' 5 8)), false)
  else if instr.extractLsb' 24 8 = 0xef#8 then
    if isSemihosting (instr.extractLsb' 0 24) then (semihosting bus state, true)
    else (state, false)
  else (state, false)

def starletTraps (bus : Bus Mem) (physical : PhysicalBus Mem) : Traps Mem :=
  { undfTrap := starletUndefinedTrap bus physical }

end Trap

end SkyeyeStarlet
