import SkyeyeStarlet.ExecCore
import SkyeyeStarlet.Library.BarrelShifter

/-!
The shifted operands of `armemu.c` as three routines of their own: `GetDPRegRHS`,
`GetDPSRegRHS` and `GetLSRegRHS` behind their macros.  A shift of the host by 32 places or more
is undefined, so each shift may have no result.
-/

namespace SkyeyeStarlet

variable {Mem : Type}

namespace Shifter

def hostShl (word amount : ARMword) : Option ARMword :=
  if amount < 32#32 then some (word <<< amount.toNat) else none

def hostShr (word amount : ARMword) : Option ARMword :=
  if amount < 32#32 then some (word >>> amount.toNat) else none

/-- `(ARMword) ((int) word >> amount)`. -/
def hostSar (word amount : ARMword) : Option ARMword :=
  if amount < 32#32 then some (word.sshiftRight amount.toNat) else none

def rotated (base shamt : ARMword) : Option ARMword := do
  let high ← hostShl base (32#32 - shamt)
  let low ← hostShr base shamt
  some (high ||| low)

def getDPRegRHS (state : ARMulState Mem) (instr : ARMword) :
    Option (ARMulState Mem × ARMword) :=
  if instr.getLsbD 4 then
    let started := incpc state
    let base := started.reg (rhsReg instr)
    let shamt := started.reg (instr.extractLsb' 8 4) &&& 0xff#32
    let value :=
      match shiftType instr with
      | .lsl =>
          if shamt = 0#32 then some base
          else if 32#32 ≤ shamt then some 0#32
          else hostShl base shamt
      | .lsr =>
          if shamt = 0#32 then some base
          else if 32#32 ≤ shamt then some 0#32
          else hostShr base shamt
      | .asr =>
          if shamt = 0#32 then some base
          else if 32#32 ≤ shamt then hostSar base 31#32
          else hostSar base shamt
      | .ror =>
          let shamt := shamt &&& 0x1f#32
          if shamt = 0#32 then some base else rotated base shamt
    value.map (Prod.mk started)
  else
    let base := state.reg (rhsReg instr)
    let shamt := (instr.extractLsb' 7 5).setWidth 32
    let value :=
      match shiftType instr with
      | .lsl => hostShl base shamt
      | .lsr => if shamt = 0#32 then some 0#32 else hostShr base shamt
      | .asr => if shamt = 0#32 then hostSar base 31#32 else hostSar base shamt
      | .ror =>
          if shamt = 0#32 then do
            let low ← hostShr base 1#32
            let high ← hostShl (flagWord state.flags.cFlag) 31#32
            some (low ||| high)
          else rotated base shamt
    value.map (Prod.mk state)

/-- `ASSIGNC`, and the result behind it. -/
def assigned (state : ARMulState Mem) (carry : Option ARMword) (value : Option ARMword) :
    Option (ARMulState Mem × ARMword) := do
  let carry ← carry
  let value ← value
  some (assignC state (carry != 0#32), value)

def bitOf (word : Option ARMword) : Option ARMword :=
  word.map fun word => word &&& 1#32

def getDPSRegRHS (state : ARMulState Mem) (instr : ARMword) :
    Option (ARMulState Mem × ARMword) :=
  if instr.getLsbD 4 then
    let started := incpc state
    let base := started.reg (rhsReg instr)
    let shamt := started.reg (instr.extractLsb' 8 4) &&& 0xff#32
    match shiftType instr with
    | .lsl =>
        if shamt = 0#32 then some (started, base)
        else if shamt = 32#32 then assigned started (some (base &&& 1#32)) (some 0#32)
        else if 32#32 < shamt then assigned started (some 0#32) (some 0#32)
        else assigned started (bitOf (hostShr base (32#32 - shamt))) (hostShl base shamt)
    | .lsr =>
        if shamt = 0#32 then some (started, base)
        else if shamt = 32#32 then assigned started (hostShr base 31#32) (some 0#32)
        else if 32#32 < shamt then assigned started (some 0#32) (some 0#32)
        else assigned started (bitOf (hostShr base (shamt - 1#32))) (hostShr base shamt)
    | .asr =>
        if shamt = 0#32 then some (started, base)
        else if 32#32 ≤ shamt then assigned started (hostShr base 31#32) (hostSar base 31#32)
        else assigned started (bitOf (hostSar base (shamt - 1#32))) (hostSar base shamt)
    | .ror =>
        if shamt = 0#32 then some (started, base)
        else
          let shamt := shamt &&& 0x1f#32
          if shamt = 0#32 then assigned started (hostShr base 31#32) (some base)
          else assigned started (bitOf (hostShr base (shamt - 1#32))) (rotated base shamt)
  else
    let base := state.reg (rhsReg instr)
    let shamt := (instr.extractLsb' 7 5).setWidth 32
    match shiftType instr with
    | .lsl => assigned state (bitOf (hostShr base (32#32 - shamt))) (hostShl base shamt)
    | .lsr =>
        if shamt = 0#32 then assigned state (hostShr base 31#32) (some 0#32)
        else assigned state (bitOf (hostShr base (shamt - 1#32))) (hostShr base shamt)
    | .asr =>
        if shamt = 0#32 then assigned state (hostShr base 31#32) (hostSar base 31#32)
        else assigned state (bitOf (hostSar base (shamt - 1#32))) (hostSar base shamt)
    | .ror =>
        if shamt = 0#32 then do
          let shamt := flagWord state.flags.cFlag
          let low ← hostShr base 1#32
          let high ← hostShl shamt 31#32
          assigned state (some (base &&& 1#32)) (some (low ||| high))
        else assigned state (bitOf (hostShr base (shamt - 1#32))) (rotated base shamt)

def getLSRegRHS (state : ARMulState Mem) (instr : ARMword) : Option ARMword :=
  let base := state.reg (rhsReg instr)
  let shamt := (instr.extractLsb' 7 5).setWidth 32
  match shiftType instr with
  | .lsl => hostShl base shamt
  | .lsr => if shamt = 0#32 then some 0#32 else hostShr base shamt
  | .asr => if shamt = 0#32 then hostSar base 31#32 else hostSar base shamt
  | .ror =>
      if shamt = 0#32 then do
        let low ← hostShr base 1#32
        let high ← hostShl (flagWord state.flags.cFlag) 31#32
        some (low ||| high)
      else rotated base shamt

def dpRegRHS (state : ARMulState Mem) (instr : ARMword) : Option (ARMulState Mem × ARMword) :=
  if instr.extractLsb' 4 8 = 0#8 then some (state, state.reg (rhsReg instr))
  else getDPRegRHS state instr

def dpsRegRHS (state : ARMulState Mem) (instr : ARMword) : Option (ARMulState Mem × ARMword) :=
  if instr.extractLsb' 4 8 = 0#8 then some (state, state.reg (rhsReg instr))
  else getDPSRegRHS state instr

def lsRegRHS (state : ARMulState Mem) (instr : ARMword) : Option ARMword :=
  if instr.extractLsb' 4 8 = 0#8 then some (state.reg (rhsReg instr)) else getLSRegRHS state instr

end Shifter

/-- The state that a data processing operand is read in: a shift by a register advances the
program counter first. -/
def operandState (state : ARMulState Mem) (instr : ARMword) : ARMulState Mem :=
  if instr.getLsbD 4 then incpc state else state

open BarrelShifter in
/-- The shifter of the architecture: a register shifted by the low byte of another, or by a
constant, where zero stands for 32 places to the right and for the rotation through C. -/
def shifterOperand (state : ARMulState Mem) (instr : ARMword) : BarrelShifter.Shifted 32 :=
  let word := state.reg (rhsReg instr)
  let carry := state.flags.cFlag
  if instr.getLsbD 4 then
    let amount := ((state.reg (instr.extractLsb' 8 4)).setWidth 8).toNat
    match shiftType instr with
    | .lsl => lsl word amount carry
    | .lsr => lsr word amount carry
    | .asr => asr word amount carry
    | .ror => ror word amount carry
  else
    let amount := (instr.extractLsb' 7 5).toNat
    match shiftType instr with
    | .lsl => lsl word amount carry
    | .lsr => lsr word (if amount = 0 then 32 else amount) carry
    | .asr => asr word (if amount = 0 then 32 else amount) carry
    | .ror => if amount = 0 then rrx word carry else ror word amount carry

end SkyeyeStarlet
