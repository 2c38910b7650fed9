import SkyeyeStarlet.TransferCore

/-!
The main switch of `ARMul_Emulate32`: data processing, multiplies, status register
transfers, branches, coprocessor instructions and the software interrupt, with the
condition check in front of it.  Cores before version 6; cycle counts are left out.
-/

namespace SkyeyeStarlet

variable {Mem : Type}

/-- How a coprocessor answers after its busy waiting.  The interrupt coprocessor
raises an exception itself and is done. -/
inductive Answer (Mem : Type) where
  | done (mem : Mem) (raised : Option Vector)
  | cant (mem : Mem)
  | interrupted (mem : Mem) (vector : Vector)

/-- The functions attached to the coprocessor numbers.  `words` is the number of
words after the first that a transfer asks for with `ARMul_INC`. -/
structure Coprocessors (Mem : Type) where
  mrc : ARMword → Mem → Answer Mem × ARMword
  mcr : ARMword → ARMword → Mem → Answer Mem
  cdp : ARMword → Mem → Answer Mem
  transfer : ARMword → Mem → Answer Mem
  words : ARMword → Nat
  load : ARMword → ARMword → Mem → Mem
  store : ARMword → Mem → Mem × ARMword

def incpc (state : ARMulState Mem) : ARMulState Mem :=
  { state.setReg 15#4 (state.reg 15#4 + insnSize state) with
    nextInstr := state.nextInstr ||| 2#8 }

def busused (state : ARMulState Mem) : ARMulState Mem :=
  { state with nextInstr := state.nextInstr ||| 1#8 }

def assignC (state : ARMulState Mem) (carry : Bool) : ARMulState Mem :=
  { state with flags := { state.flags with cFlag := carry } }

/-- A value and the carry of the shifter, `none` where the flag is left alone. -/
structure Shifted where
  value : ARMword
  carry : Option Bool

def shiftByConstant (shift : ShiftType) (amount : Nat) (carry : Bool) (base : ARMword) :
    Shifted :=
  match shift with
  | .lsl => ⟨base <<< amount, some (base.getLsbD (32 - amount))⟩
  | .lsr =>
      if amount = 0 then ⟨0#32, some (base.getLsbD 31)⟩
      else ⟨base >>> amount, some (base.getLsbD (amount - 1))⟩
  | .asr =>
      if amount = 0 then ⟨base.sshiftRight 31, some (base.getLsbD 31)⟩
      else ⟨base.sshiftRight amount, some (base.getLsbD (amount - 1))⟩
  | .ror =>
      if amount = 0 then ⟨(base >>> 1) ||| (flagWord carry <<< 31), some (base.getLsbD 0)⟩
      else ⟨rotater base amount, some (base.getLsbD (amount - 1))⟩

def shiftByRegister (shift : ShiftType) (amount : Nat) (base : ARMword) : Shifted :=
  if amount = 0 then ⟨base, none⟩
  else
    match shift with
    | .lsl =>
        if amount = 32 then ⟨0#32, some (base.getLsbD 0)⟩
        else if 32 < amount then ⟨0#32, some false⟩
        else ⟨base <<< amount, some (base.getLsbD (32 - amount))⟩
    | .lsr =>
        if amount = 32 then ⟨0#32, some (base.getLsbD 31)⟩
        else if 32 < amount then ⟨0#32, some false⟩
        else ⟨base >>> amount, some (base.getLsbD (amount - 1))⟩
    | .asr =>
        if 32 ≤ amount then ⟨base.sshiftRight 31, some (base.getLsbD 31)⟩
        else ⟨base.sshiftRight amount, some (base.getLsbD (amount - 1))⟩
    | .ror =>
        if amount % 32 = 0 then ⟨base, some (base.getLsbD 31)⟩
        else ⟨rotater base (amount % 32), some (base.getLsbD (amount % 32 - 1))⟩

def shiftOperand (state : ARMulState Mem) (instr : ARMword) : Shifted :=
  if instr.getLsbD 4 then
    shiftByRegister (shiftType instr) ((state.reg (instr.extractLsb' 8 4)).setWidth 8).toNat
      (state.reg (rhsReg instr))
  else
    shiftByConstant (shiftType instr) (instr.extractLsb' 7 5).toNat state.flags.cFlag
      (state.reg (rhsReg instr))

/-- `DPRegRHS`, the state it leaves and the shifted operand.  A shift by a register
advances the program counter before the operands are read. -/
def dpRegRHS (state : ARMulState Mem) (instr : ARMword) : ARMulState Mem × ARMword :=
  if instr.extractLsb' 4 8 = 0#8 then (state, state.reg (rhsReg instr))
  else
    let started := if instr.getLsbD 4 then incpc state else state
    (started, (shiftOperand started instr).value)

/-- `DPSRegRHS`, which also assigns the carry of the shifter. -/
def dpsRegRHS (state : ARMulState Mem) (instr : ARMword) : ARMulState Mem × ARMword :=
  if instr.extractLsb' 4 8 = 0#8 then (state, state.reg (rhsReg instr))
  else
    let started := if instr.getLsbD 4 then incpc state else state
    let shifted := shiftOperand started instr
    match shifted.carry with
    | none => (started, shifted.value)
    | some carry => (assignC started carry, shifted.value)

/-- An entry of `ARMul_ImmedTable`. -/
def dpImmRHS (instr : ARMword) : ARMword :=
  rotater ((instr.extractLsb' 0 8).setWidth 32) (2 * (instr.extractLsb' 8 4).toNat)

def dpsImmRHS (state : ARMulState Mem) (instr : ARMword) : ARMulState Mem × ARMword :=
  if instr.extractLsb' 8 4 = 0#4 then (state, dpImmRHS instr)
  else (assignC state ((dpImmRHS instr).getLsbD 31), dpImmRHS instr)

def plainRHS (state : ARMulState Mem) (instr : ARMword) : ARMulState Mem × ARMword :=
  if instr.getLsbD 25 then (state, dpImmRHS instr) else dpRegRHS state instr

def carryRHS (state : ARMulState Mem) (instr : ARMword) : ARMulState Mem × ARMword :=
  if instr.getLsbD 25 then dpsImmRHS state instr else dpsRegRHS state instr

def negZero (state : ARMulState Mem) (result : ARMword) : ARMulState Mem :=
  { state with
    flags := { state.flags with nFlag := result.getLsbD 31, zFlag := result == 0#32 } }

def addOverflow (a b result : ARMword) : Bool :=
  (a.getLsbD 31 && b.getLsbD 31 && !result.getLsbD 31) ||
    (!a.getLsbD 31 && !b.getLsbD 31 && result.getLsbD 31)

def subOverflow (a b result : ARMword) : Bool :=
  (a.getLsbD 31 && !b.getLsbD 31 && !result.getLsbD 31) ||
    (!a.getLsbD 31 && b.getLsbD 31 && result.getLsbD 31)

def addCarry (a b result : ARMword) : Bool :=
  (a.getLsbD 31 && b.getLsbD 31) || (a.getLsbD 31 && !result.getLsbD 31) ||
    (b.getLsbD 31 && !result.getLsbD 31)

def subCarry (a b result : ARMword) : Bool :=
  (a.getLsbD 31 && !b.getLsbD 31) || (a.getLsbD 31 && !result.getLsbD 31) ||
    (!b.getLsbD 31 && !result.getLsbD 31)

/-- The flags of an addition; small operands take the short cut of the source. -/
def addFlags (state : ARMulState Mem) (lhs rhs dest : ARMword) : ARMulState Mem :=
  if (lhs ||| rhs) >>> 30 = 0#32 then
    { state with
      flags :=
        { state.flags with
          zFlag := dest == 0#32, nFlag := false, cFlag := false, vFlag := false } }
  else
    { state with
      flags :=
        { state.flags with
          zFlag := dest == 0#32
          nFlag := dest.getLsbD 31
          cFlag := addCarry lhs rhs dest
          vFlag := addOverflow lhs rhs dest } }

/-- The carry and overflow of a subtraction of `rhs` from `lhs`. -/
def subFlags (state : ARMulState Mem) (lhs rhs dest : ARMword) : ARMulState Mem :=
  if rhs ≤ lhs ∨ (rhs ||| lhs) >>> 31 ≠ 0#32 then
    { state with
      flags :=
        { state.flags with
          cFlag := subCarry lhs rhs dest, vFlag := subOverflow lhs rhs dest } }
  else { state with flags := { state.flags with cFlag := false, vFlag := false } }

def writeSDest (state : ARMulState Mem) (instr value : ARMword) : ARMulState Mem :=
  if destReg instr = 15#4 then writeSR15 state value
  else negZero (state.setReg (destReg instr) value) value

inductive Opcode where
  | and | eor | sub | rsb | add | adc | sbc | rsc
  | tst | teq | cmp | cmn | orr | mov | bic | mvn
  deriving DecidableEq, Repr

def opcodeOf (instr : ARMword) : Opcode :=
  match instr.extractLsb' 21 4 with
  | 0x0#4 => .and
  | 0x1#4 => .eor
  | 0x2#4 => .sub
  | 0x3#4 => .rsb
  | 0x4#4 => .add
  | 0x5#4 => .adc
  | 0x6#4 => .sbc
  | 0x7#4 => .rsc
  | 0x8#4 => .tst
  | 0x9#4 => .teq
  | 0xa#4 => .cmp
  | 0xb#4 => .cmn
  | 0xc#4 => .orr
  | 0xd#4 => .mov
  | 0xe#4 => .bic
  | _ => .mvn

def Opcode.result (opcode : Opcode) (carry : Bool) (lhs rhs : ARMword) : ARMword :=
  match opcode with
  | .and | .tst => lhs &&& rhs
  | .eor | .teq => lhs ^^^ rhs
  | .sub | .cmp => lhs - rhs
  | .rsb => rhs - lhs
  | .add | .cmn => lhs + rhs
  | .adc => lhs + rhs + flagWord carry
  | .sbc => lhs - rhs - flagWord (!carry)
  | .rsc => rhs - lhs - flagWord (!carry)
  | .orr => lhs ||| rhs
  | .mov => rhs
  | .bic => lhs &&& ~~~rhs
  | .mvn => ~~~rhs

def Opcode.arithmetic : Opcode → Bool
  | .sub | .rsb | .add | .adc | .sbc | .rsc | .cmp | .cmn => true
  | _ => false

def Opcode.flags (opcode : Opcode) (state : ARMulState Mem) (lhs rhs dest : ARMword) :
    ARMulState Mem :=
  match opcode with
  | .sub | .sbc | .cmp => subFlags state lhs rhs dest
  | .rsb | .rsc => subFlags state rhs lhs dest
  | .add | .adc | .cmn => addFlags state lhs rhs dest
  | _ => state

/-- Without the S bit the right operand comes first, so the left one sees a program
counter that a shift by a register has advanced. -/
def dataPlain (state : ARMulState Mem) (instr : ARMword) : ARMulState Mem :=
  let (shifted, rhs) := plainRHS state instr
  writeDest shifted instr
    ((opcodeOf instr).result state.flags.cFlag (lhsValue shifted instr) rhs)

/-- With the S bit the arithmetic operations read the left operand first. -/
def dataFlags (state : ARMulState Mem) (instr : ARMword) : ARMulState Mem :=
  if (opcodeOf instr).arithmetic then
    let lhs := lhsValue state instr
    let (shifted, rhs) := plainRHS state instr
    let dest := (opcodeOf instr).result state.flags.cFlag lhs rhs
    writeSDest ((opcodeOf instr).flags shifted lhs rhs dest) instr dest
  else
    let (shifted, rhs) := carryRHS state instr
    writeSDest shifted instr
      ((opcodeOf instr).result state.flags.cFlag (lhsValue shifted instr) rhs)

/-- The P forms and their sibling tests.  In 32 bit modes the former copy the saved
status and do nothing else. -/
def dataTest (state : ARMulState Mem) (instr : ARMword) : ARMulState Mem :=
  if destReg instr = 15#4 then
    armulCPSRAltered { state with cpsr := armulGetSPSR state state.mode }
  else if (opcodeOf instr).arithmetic then
    let lhs := lhsValue state instr
    let (shifted, rhs) := plainRHS state instr
    let dest := (opcodeOf instr).result state.flags.cFlag lhs rhs
    (opcodeOf instr).flags (negZero shifted dest) lhs rhs dest
  else
    let (shifted, rhs) := carryRHS state instr
    negZero shifted ((opcodeOf instr).result state.flags.cFlag (lhsValue shifted instr) rhs)

/-- `MUL` and `MLA`, cases `0x00` to `0x03`.  The destination may not be the left
operand, which gives the accumulator or zero, and may not be register 15. -/
def multiply (state : ARMulState Mem) (instr : ARMword) : ARMulState Mem :=
  let dest : RegNum := instr.extractLsb' 16 4
  let lhs : RegNum := instr.extractLsb' 0 4
  let acc := if instr.getLsbD 21 then state.reg (instr.extractLsb' 12 4) else 0#32
  let value :=
    if lhs = dest then acc
    else state.reg lhs * state.reg (instr.extractLsb' 8 4) + acc
  if lhs ≠ dest ∧ dest = 15#4 then state
  else if instr.getLsbD 20 then (negZero state value).setReg dest value
  else state.setReg dest value

/-- `Add32`. -/
def add32 (a1 a2 : ARMword) : ARMword × Bool :=
  let result := a1 + a2
  (result, if result = a1 then a2 != 0#32 else result < a1)

/-- The product that `Multiply64` builds from four half word products. -/
def product64 (signed : Bool) (rm rs : ARMword) : ARMword × ARMword :=
  let negative := signed && (rm ^^^ rs).getLsbD 31
  let m := if signed && rm.getLsbD 31 then -rm else rm
  let s := if signed && rs.getLsbD 31 then -rs else rs
  let lo := (s &&& 0xffff#32) * (m &&& 0xffff#32)
  let mid1 := (s &&& 0xffff#32) * ((m >>> 16) &&& 0xffff#32)
  let mid2 := ((s >>> 16) &&& 0xffff#32) * (m &&& 0xffff#32)
  let hi := ((s >>> 16) &&& 0xffff#32) * ((m >>> 16) &&& 0xffff#32)
  let (first, carry1) := add32 lo (mid1 <<< 16)
  let (second, carry2) := add32 first (mid2 <<< 16)
  let high := flagWord carry1 + (flagWord carry2 + ((mid1 >>> 16) &&& 0xffff#32) +
    ((mid2 >>> 16) &&& 0xffff#32) + hi)
  if negative then
    if ~~~second = 0xffffffff#32 then (~~~high + 1#32, 0#32) else (~~~high, ~~~second + 1#32)
  else (high, second)

def scc64 (state : ARMulState Mem) (instr hi lo : ARMword) : ARMulState Mem :=
  if instr.getLsbD 20 then negZero state (hi ||| (lo >>> 16) ||| (lo &&& 0xffff#32)) else state

/-- The registers of a long multiply that `Multiply64` takes. -/
def multiply64Legal (instr : ARMword) : Bool :=
  let hi := instr.extractLsb' 16 4
  let lo := instr.extractLsb' 12 4
  let rs := instr.extractLsb' 8 4
  let rm := instr.extractLsb' 0 4
  hi != 15#4 && lo != 15#4 && rs != 15#4 && rm != 15#4 && hi != lo && hi != rm && lo != rm

/-- `Multiply64` without the flags, and the product it leaves in its locals. -/
def multiplied64 (state : ARMulState Mem) (instr : ARMword) :
    ARMulState Mem × ARMword × ARMword :=
  if multiply64Legal instr then
    let (hi, lo) := product64 (instr.getLsbD 22) (state.reg (instr.extractLsb' 0 4))
      (state.reg (instr.extractLsb' 8 4))
    ((state.setReg (instr.extractLsb' 12 4) lo).setReg (instr.extractLsb' 16 4) hi, hi, lo)
  else (state, 0#32, 0#32)

def multiply64 (state : ARMulState Mem) (instr : ARMword) : ARMulState Mem :=
  let (moved, hi, lo) := multiplied64 state instr
  scc64 moved instr hi lo

/-- `MultiplyAdd64`, which writes both registers whatever their numbers are. -/
def multiplyAdd64 (state : ARMulState Mem) (instr : ARMword) : ARMulState Mem :=
  let nRdHi : RegNum := instr.extractLsb' 16 4
  let nRdLo : RegNum := instr.extractLsb' 12 4
  let (moved, _, _) := multiplied64 state instr
  let (lo, carry) := add32 (state.reg nRdLo) (moved.reg nRdLo)
  let hi := state.reg nRdHi + moved.reg nRdHi + flagWord carry
  scc64 ((moved.setReg nRdLo lo).setReg nRdHi hi) instr hi lo

/-- The half of a register that bit `x` of a signed multiply picks. -/
def signedHalf (word : ARMword) (top : Bool) : BitVec 16 :=
  if top then word.extractLsb' 16 16 else word.extractLsb' 0 16

def sets (state : ARMulState Mem) (saturated : Bool) : ARMulState Mem :=
  { state with flags := { state.flags with sFlag := state.flags.sFlag || saturated } }

def saturate (overflowed : Bool) (result : ARMword) : ARMword :=
  if overflowed then if result.getLsbD 31 then 0x7fffffff#32 else 0x80000000#32 else result

/-- `SMLAxy`, `SMLAWy`, `SMULWy`, `SMLALxy` and `SMULxy` of the extended version 5. -/
def signedMultiply (state : ARMulState Mem) (instr : ARMword) : ARMulState Mem :=
  let word := state.reg (instr.extractLsb' 0 4)
  let op1 := signedHalf word (instr.getLsbD 5)
  let op2 := signedHalf (state.reg (instr.extractLsb' 8 4)) (instr.getLsbD 6)
  let rn := state.reg (instr.extractLsb' 12 4)
  let dest : RegNum := instr.extractLsb' 16 4
  match instr.extractLsb' 21 2 with
  | 0#2 =>
      let value := op1.signExtend 32 * op2.signExtend 32
      (sets state (addOverflow value rn (value + rn))).setReg dest (value + rn)
  | 1#2 =>
      let value := ((word.signExtend 64 * op2.signExtend 64) >>> 16).setWidth 32
      if instr.getLsbD 5 then state.setReg dest value
      else (sets state (addOverflow value rn (value + rn))).setReg dest (value + rn)
  | 2#2 =>
      let value := ((state.reg dest).setWidth 64 <<< 32 ||| rn.setWidth 64) +
        op1.signExtend 64 * op2.signExtend 64
      (state.setReg (instr.extractLsb' 12 4) (value.setWidth 32)).setReg dest
        (value.extractLsb' 32 32)
  | _ => state.setReg dest (op1.signExtend 32 * op2.signExtend 32)

/-- `QADD`, `QSUB`, `QDADD` and `QDSUB`. -/
def saturating (state : ARMulState Mem) (instr : ARMword) : ARMulState Mem :=
  let op1 := state.reg (instr.extractLsb' 0 4)
  let op2 := state.reg (instr.extractLsb' 16 4)
  let doubles := instr.getLsbD 22
  let spills := doubles && addOverflow op2 op2 (op2 + op2)
  let operand := if doubles then saturate spills (op2 + op2) else op2
  let result := if instr.getLsbD 21 then op1 - operand else op1 + operand
  let overflows :=
    if instr.getLsbD 21 then subOverflow op1 operand result else addOverflow op1 operand result
  (sets state (spills || overflows)).setReg (instr.extractLsb' 12 4) (saturate overflows result)

/-- Whether a version 5E core takes the word for a signed multiply. -/
def isSignedMultiply (instr : ARMword) : Bool :=
  !instr.getLsbD 4 && instr.getLsbD 7 &&
    match instr.extractLsb' 21 2 with
    | 1#2 => !instr.getLsbD 5 || instr.extractLsb' 12 4 == 0#4
    | 3#2 => instr.extractLsb' 12 4 == 0#4
    | _ => true

/-- The bits of a status word that the field mask of a `MSR` selects. -/
def fieldMask (instr : ARMword) (control : Bool) : ARMword :=
  (if control && instr.getLsbD 16 then 0xff#32 else 0#32) |||
    (if control && instr.getLsbD 17 then 0xff00#32 else 0#32) |||
    (if control && instr.getLsbD 18 then 0xff0000#32 else 0#32) |||
    (if instr.getLsbD 19 then 0xff000000#32 else 0#32)

/-- The word that `ARMul_FixCPSR` puts into `Cpsr`; user mode writes the flags only. -/
def fixedCPSR (state : ARMulState Mem) (instr rhs : ARMword) : ARMword :=
  let mask := fieldMask instr (!inUserMode state.mode)
  (armulGetCPSR state &&& ~~~mask) ||| (rhs &&& mask)

def armulFixCPSR (state : ARMulState Mem) (instr rhs : ARMword) : ARMulState Mem :=
  armulCPSRAltered { state with cpsr := fixedCPSR state instr rhs }

def armulFixSPSR (state : ARMulState Mem) (instr rhs : ARMword) : ARMulState Mem :=
  let mask := fieldMask instr true
  if bankCanAccessSpsr state.file.bank then
    { state with
      spsr := Function.update state.spsr state.file.bank
        ((state.spsr state.file.bank &&& ~~~mask) ||| (rhs &&& mask)) }
  else state

def countLeadingZeros (word : ARMword) : ARMword :=
  BitVec.ofNat 32 (((List.range 32).find? fun index => word.getLsbD (31 - index)).getD 32)

/-- `ARMul_OSHandleSWI` on `SWI_Breakpoint`. -/
def osBreakpoint (state : ARMulState Mem) : ARMulState Mem :=
  { state with emulate := .stop }

/-- Case `0x12` without the halfword and doubleword transfers. -/
def msrCase (state : ARMulState Mem) (pc instr : ARMword) : ARMulState Mem :=
  if state.isV5 && instr.extractLsb' 4 4 == 3#4 then
    let link := if state.tFlag then (pc + 2#32) ||| 1#32 else pc + 4#32
    (writeR15Branch state (state.reg (rhsReg instr))).setReg 14#4 link
  else if state.isV5e && isSignedMultiply instr then signedMultiply state instr
  else if state.isV5e && instr.extractLsb' 4 8 == 5#8 then saturating state instr
  else if instr.extractLsb' 4 24 = 0x12fff1#24 then
    writeR15Branch state (state.reg (rhsReg instr))
  else if state.isV5 && instr.extractLsb' 4 4 == 7#4 then
    { osBreakpoint state with nextInstr := 8#8 }
  else if destReg instr = 15#4 then
    let (shifted, rhs) := dpRegRHS state instr
    -- The T bit is kept out of the status word.
    armulFixCPSR shifted instr (rhs &&& ~~~0x20#32)
  else state

/-- Case `0x16` without the halfword and doubleword transfers. -/
def clzCase (state : ARMulState Mem) (instr : ARMword) : ARMulState Mem :=
  if state.isV5e && isSignedMultiply instr then signedMultiply state instr
  else if state.isV5e && instr.extractLsb' 4 8 == 5#8 then saturating state instr
  else if state.isV5 && instr.extractLsb' 4 8 == 0xf1#8 && instr.extractLsb' 16 4 == 15#4 then
    state.setReg (destReg instr) (countLeadingZeros (state.reg (rhsReg instr)))
  else if destReg instr = 15#4 then
    let (shifted, rhs) := dpRegRHS state instr
    armulFixSPSR shifted instr rhs
  else state

/-- Cases `0x10` and `0x14` without the transfers. -/
def mrsCase (state : ARMulState Mem) (instr : ARMword) : ARMulState Mem :=
  if state.isV5e && isSignedMultiply instr then signedMultiply state instr
  else if state.isV5e && instr.extractLsb' 4 8 == 5#8 then saturating state instr
  else if instr.extractLsb' 0 12 = 0#12 ∧ lhsReg instr = 15#4 then
    state.setReg (destReg instr)
      (if instr.getLsbD 22 then armulGetSPSR state state.mode
       else state.flags.ecc ||| state.flags.eint ||| state.mode.setWidth 32)
  else state

/-- Cases `0x10`, `0x12`, `0x14`, `0x16` and `0x30`, `0x32`, `0x34`, `0x36`. -/
def statusCase (state : ARMulState Mem) (pc instr : ARMword) : ARMulState Mem :=
  match instr.getLsbD 25, instr.getLsbD 22, instr.getLsbD 21 with
  | false, _, false => mrsCase state instr
  | false, false, true => msrCase state pc instr
  | false, true, true => clzCase state instr
  | true, _, false => state
  | true, false, true =>
      if destReg instr = 15#4 then armulFixCPSR state instr (dpImmRHS instr) else state
  | true, true, true =>
      if destReg instr = 15#4 then armulFixSPSR state instr (dpImmRHS instr) else state

def isMultiply (instr : ARMword) : Bool :=
  !instr.getLsbD 25 && !instr.getLsbD 24 && instr.extractLsb' 4 4 == 9#4 &&
    (instr.getLsbD 23 || !instr.getLsbD 22)

def multiplyCase (state : ARMulState Mem) (instr : ARMword) : ARMulState Mem :=
  match instr.getLsbD 23, instr.getLsbD 21 with
  | false, _ => multiply state instr
  | true, false => multiply64 state instr
  | true, true => multiplyAdd64 state instr

/-- Cases `0x00` to `0x3f` without the transfers. -/
def dataProcessing (state : ARMulState Mem) (pc instr : ARMword) : ARMulState Mem :=
  if isMultiply instr then multiplyCase state instr
  else if instr.extractLsb' 23 2 = 2#2 then
    if instr.getLsbD 20 then dataTest state instr else statusCase state pc instr
  else if instr.getLsbD 20 then dataFlags state instr
  else dataPlain state instr

def branchOffset (instr : ARMword) : ARMword :=
  if instr.getLsbD 23 then (0xff000000#32 ||| (instr &&& 0xffffff#32)) <<< 2
  else (instr &&& 0x7fffff#32) <<< 2

/-- Cases `0xa0` to `0xbf`. -/
def branch (state : ARMulState Mem) (pc instr : ARMword) : ARMulState Mem :=
  let linked := if instr.getLsbD 24 then state.setReg 14#4 (pc + 4#32) else state
  flushpipe (linked.setReg 15#4 (pc + 8#32 + branchOffset instr))

def raised (bus : Bus Mem) (state : ARMulState Mem) : Option Vector → ARMulState Mem
  | none => state
  | some vector => armulAbort bus.highVectors state vector

/-- `ARMul_MCR`, and `ARMul_CDP` with its own bus cycle. -/
def coprocessorCall (bus : Bus Mem) (finish : ARMulState Mem → ARMulState Mem)
    (state : ARMulState Mem) : Answer Mem → ARMulState Mem
  | .done mem vector => finish (raised bus { state with mem } vector)
  | .cant mem => armulAbort bus.highVectors { state with mem } .undefinedInstrV
  | .interrupted mem vector => armulAbort bus.highVectors { state with mem } vector

/-- The result of `ARMul_MRC`. -/
def mrcResult (state : ARMulState Mem) (result : ARMword) : Answer Mem → ARMword
  | .done _ _ => result
  | .cant _ => state.flags.ecc
  | .interrupted _ _ => 0#32

def mrcFlags (state : ARMulState Mem) (value : ARMword) : ARMulState Mem :=
  { state with
    flags :=
      { state.flags with
        nFlag := value.getLsbD 31
        zFlag := value.getLsbD 30
        cFlag := value.getLsbD 29
        vFlag := value.getLsbD 28 } }

/-- Cases `0xe0` to `0xef`. -/
def coprocessorRegister (bus : Bus Mem) (cops : Coprocessors Mem) (state : ARMulState Mem)
    (instr : ARMword) : ARMulState Mem :=
  if instr.getLsbD 4 then
    if instr.getLsbD 20 then
      let (answer, value) := cops.mrc instr state.mem
      let called := coprocessorCall bus bususedincpcn state answer
      let result := mrcResult called value answer
      if destReg instr = 15#4 then mrcFlags called result
      else called.setReg (destReg instr) result
    else
      let source :=
        if destReg instr = 15#4 then state.reg 15#4 + insnSize state
        else state.reg (destReg instr)
      coprocessorCall bus bususedincpcn state (cops.mcr instr source state.mem)
  else coprocessorCall bus busused state (cops.cdp instr state.mem)

def accessAborted (state : ARMulState Mem) : Bool :=
  state.abortSig || state.aborted != 0#32

/-- The words of a `LDC` after the first, up to one that aborts. -/
def ldcRest (bus : Bus Mem) (cops : Coprocessors Mem) (instr : ARMword) :
    Nat → ARMword → ARMulState Mem → ARMulState Mem
  | 0, _, state => state
  | words + 1, address, state =>
      let (read, data) := armulRead bus .word state (address + 4#32)
      if accessAborted read then read
      else ldcRest bus cops instr words (address + 4#32)
        { read with mem := cops.load instr data read.mem }

def stcRest (bus : Bus Mem) (cops : Coprocessors Mem) (instr : ARMword) :
    Nat → ARMword → ARMulState Mem → ARMulState Mem
  | 0, _, state => state
  | words + 1, address, state =>
      let (mem, data) := cops.store instr state.mem
      let written := armulWrite bus .word { state with mem } (address + 4#32) data
      if accessAborted written then written
      else stcRest bus cops instr words (address + 4#32) written

def ldcWords (bus : Bus Mem) (cops : Coprocessors Mem) (state : ARMulState Mem)
    (instr address : ARMword) : ARMulState Mem :=
  let (read, data) := armulRead bus .word state address
  if accessAborted read then read
  else
    let started := bususedincpcn read
    ldcRest bus cops instr (cops.words instr) address
      { started with mem := cops.load instr data started.mem }

def stcWords (bus : Bus Mem) (cops : Coprocessors Mem) (state : ARMulState Mem)
    (instr address : ARMword) : ARMulState Mem :=
  let started := bususedincpcn state
  let (mem, data) := cops.store instr started.mem
  let written := armulWrite bus .word { started with mem } address data
  if accessAborted written then written
  else stcRest bus cops instr (cops.words instr) address written

/-- The writeback of `ARMul_LDC` and `ARMul_STC`, which does not look at the number of
the base register. -/
def coprocessorBase (state : ARMulState Mem) (instr base : ARMword) : ARMulState Mem :=
  if instr.getLsbD 21 && !(accessAborted state && !state.lateabtSig) then
    state.setReg (lhsReg instr) base
  else state

/-- `CPTAKEABORT`. -/
def cpTakeAbort (bus : Bus Mem) (state : ARMulState Mem) : ARMulState Mem :=
  armulAbort bus.highVectors state
    (if state.aborted = 0#32 then .undefinedInstrV else .dataAbortV)

def coprocessorWords (bus : Bus Mem) (cops : Coprocessors Mem) (state : ARMulState Mem)
    (instr address base : ARMword) : ARMulState Mem :=
  match cops.transfer instr state.mem with
  | .done mem vector =>
      let accepted := raised bus { state with mem } vector
      let moved :=
        if instr.getLsbD 20 then ldcWords bus cops accepted instr address
        else stcWords bus cops accepted instr address
      let based := coprocessorBase moved instr base
      if accessAborted based then takeAbort bus based else based
  | .cant mem => cpTakeAbort bus { state with mem }
  | .interrupted mem vector => armulAbort bus.highVectors { state with mem } vector

/-- Cases `0xc0` to `0xdf`. -/
def coprocessorTransfer (bus : Bus Mem) (traps : Traps Mem) (cops : Coprocessors Mem)
    (state : ARMulState Mem) (instr : ARMword) : ARMulState Mem :=
  if state.isV5 && instr.extractLsb' 21 7 == 0x62#7 then armulUndefInstr bus traps state instr
  else
    let lhs := lhsValue state instr
    let offset := (instr.extractLsb' 0 8).setWidth 32 <<< 2
    let moved := if instr.getLsbD 23 then lhs + offset else lhs - offset
    coprocessorWords bus cops state instr (if instr.getLsbD 24 then moved else lhs) moved

/-- Cases `0xf0` to `0xff`. -/
def softwareInterrupt (bus : Bus Mem) (traps : Traps Mem) (state : ARMulState Mem)
    (pc instr : ARMword) : ARMulState Mem :=
  if instr = armulAbortWord state ∧ state.abortAddr = pc then
    armulAbort bus.highVectors state .prefetchAbortV
  else
    let (trapped, handled) := traps.undfTrap state instr
    if handled then trapped else armulAbort bus.highVectors trapped .swiV

/-- The words of cases `0x60` to `0x7f` with bit 4 set. -/
def undefinedTransfer (bus : Bus Mem) (traps : Traps Mem) (state : ARMulState Mem)
    (instr : ARMword) : ARMulState Mem :=
  if instr.extractLsb' 0 28 = 0x7ffdefe#28 then osBreakpoint state
  else armulUndefInstr bus traps state instr

def mainSwitch (bus : Bus Mem) (traps : Traps Mem) (cops : Coprocessors Mem)
    (state : ARMulState Mem) (pc instr : ARMword) : ARMulState Mem :=
  match transferOf instr with
  | some kind => dataTransfer bus traps state instr kind
  | none =>
      match instr.extractLsb' 25 3 with
      | 0#3 | 1#3 => dataProcessing state pc instr
      | 2#3 | 3#3 => undefinedTransfer bus traps state instr
      | 4#3 => blockTransfer bus state instr
      | 5#3 => branch state pc instr
      | 6#3 => coprocessorTransfer bus traps cops state instr
      | _ =>
          if instr.getLsbD 24 then softwareInterrupt bus traps state pc instr
          else coprocessorRegister bus cops state instr

/-- The condition field, for the codes up to `0xd`. -/
def conditionHolds (flags : Flags) (condition : BitVec 4) : Bool :=
  match condition with
  | 0x0#4 => flags.zFlag
  | 0x1#4 => !flags.zFlag
  | 0x2#4 => flags.cFlag
  | 0x3#4 => !flags.cFlag
  | 0x4#4 => flags.nFlag
  | 0x5#4 => !flags.nFlag
  | 0x6#4 => flags.vFlag
  | 0x7#4 => !flags.vFlag
  | 0x8#4 => flags.cFlag && !flags.zFlag
  | 0x9#4 => !flags.cFlag || flags.zFlag
  | 0xa#4 => flags.nFlag == flags.vFlag
  | 0xb#4 => flags.nFlag != flags.vFlag
  | 0xc#4 => flags.nFlag == flags.vFlag && !flags.zFlag
  | 0xd#4 => flags.nFlag != flags.vFlag || flags.zFlag
  | _ => true

/-- The words of the condition `NV`. -/
def unconditional (bus : Bus Mem) (traps : Traps Mem) (cops : Coprocessors Mem)
    (state : ARMulState Mem) (pc instr : ARMword) : ARMulState Mem :=
  if !state.isV5 then state
  else if instr.extractLsb' 25 3 = 5#3 then
    writeR15Branch (state.setReg 14#4 (pc + 4#32))
      (pc + 9#32 + (branchOffset instr + (flagWord (instr.getLsbD 24) <<< 1)))
  else if instr &&& 0xfc70f000#32 = 0xf450f000#32 then state
  else if instr &&& 0xfe500f00#32 = 0xfc100100#32 ∨ instr &&& 0xfe500f00#32 = 0xfc000100#32 then
    mainSwitch bus traps cops state pc instr
  else armulUndefInstr bus traps state instr

/-- An ARM instruction, from the condition check to the end of the main switch. -/
def executeArm (bus : Bus Mem) (traps : Traps Mem) (cops : Coprocessors Mem)
    (state : ARMulState Mem) (pc instr : ARMword) : ARMulState Mem :=
  if instr.extractLsb' 28 4 = 0xf#4 then unconditional bus traps cops state pc instr
  else if conditionHolds state.flags (instr.extractLsb' 28 4) then
    mainSwitch bus traps cops state pc instr
  else state

end SkyeyeStarlet
