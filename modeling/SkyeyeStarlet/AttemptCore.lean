import SkyeyeStarlet.AccessCore
import SkyeyeStarlet.TransferAbort
import SkyeyeStarlet.TrapCore

/-!
The loads and stores up to their `TAKEABORT`, and the semihosting calls: the accesses that
each of them makes, one by one, and the state that the abort test looks at.
-/

namespace SkyeyeStarlet

variable {Mem : Type}

/-- One access, with the state in which the memory interface is called and the data of a
store. -/
structure Access (Mem : Type) where
  state : ARMulState Mem
  size : AccessSize
  address : ARMword
  data : Option ARMword

def Access.faults (bus : Bus Mem) (access : Access Mem) : Bool :=
  let { state, size, address, data } := access
  match data with
  | none => (bus.read size state.mode address state.mem).fault != .noFault
  | some word => (bus.write size state.mode address word state.mem).fault != .noFault

/-- A load or store that has come to its `TAKEABORT`.  Swaps and coprocessor transfers test
`abortSig` with the sticky flag. -/
structure Attempt (Mem : Type) where
  accesses : List (Access Mem)
  tested : ARMulState Mem
  signal : Bool

def Attempt.taken (attempt : Attempt Mem) : Bool :=
  attempt.signal && attempt.tested.abortSig || attempt.tested.aborted != 0#32

def Attempt.faults (bus : Bus Mem) (attempt : Attempt Mem) : Bool :=
  attempt.accesses.any (Access.faults bus)

section Single

def readAttempt (bus : Bus Mem) (size : AccessSize) (state : ARMulState Mem)
    (address : ARMword) : Attempt Mem :=
  { accesses := [{ state, size, address, data := none }]
    tested := (armulRead bus size state address).1
    signal := false }

def writeAttempt (bus : Bus Mem) (size : AccessSize) (state : ARMulState Mem)
    (address word : ARMword) : Attempt Mem :=
  { accesses := [{ state, size, address, data := some word }]
    tested := armulWrite bus size state address word
    signal := false }

def indexedAttempt (bus : Bus Mem) (offset : ARMulState Mem → ARMword → ARMword)
    (size : AccessSize) (state : ARMulState Mem) (instr : ARMword) : Attempt Mem :=
  let lhs := lhsValue state instr
  let address := if instr.getLsbD 24 then indexed offset state instr lhs else lhs
  if instr.getLsbD 20 then readAttempt bus size (bususedincpcs state) address
  else
    let started := bususedincpcn state
    writeAttempt bus size started address (started.reg (destReg instr))

/-- The user access form drives `NtransSig`. -/
def singleStarted (state : ARMulState Mem) (instr : ARMword) : ARMulState Mem :=
  if instr.getLsbD 21 && !instr.getLsbD 24 then { state with ntransSig := false } else state

def loadDoubleAttempt (bus : Bus Mem) (state : ARMulState Mem) (instr : ARMword) :
    Option (Attempt Mem) :=
  let started := bususedincpcs state
  let address := doubleAddress started instr
  if address.accepted && destReg instr != 14#4 then
    let first := (armulRead bus .word started address.addr).1
    some
      { accesses :=
          [{ state := started, size := .word, address := address.addr, data := none },
            { state := first, size := .word, address := address.addr + 4#32, data := none }]
        tested := (armulRead bus .word first (address.addr + 4#32)).1
        signal := false }
  else none

def storeDoubleAttempt (bus : Bus Mem) (state : ARMulState Mem) (instr : ARMword) :
    Option (Attempt Mem) :=
  let started := bususedincpcs state
  let address := doubleAddress started instr
  if address.accepted && lhsReg instr != 15#4 then
    let low := started.reg (destReg instr)
    let first := armulWrite bus .word started address.addr low
    let high := first.reg (destReg instr + 1#4)
    some
      { accesses :=
          [{ state := started, size := .word, address := address.addr, data := some low },
            { state := first, size := .word, address := address.addr + 4#32, data := some high }]
        tested := armulWrite bus .word first (address.addr + 4#32) high
        signal := false }
  else none

def swapRead (size : AccessSize) (state : ARMulState Mem) (instr : ARMword) : Access Mem :=
  { state := bususedincpcs state, size, address := lhsValue state instr, data := none }

def swapWrite (bus : Bus Mem) (size : AccessSize) (state : ARMulState Mem) (instr : ARMword) :
    Access Mem :=
  let started := bususedincpcs state
  let address := lhsValue state instr
  { state := (armulRead bus size started address).1
    size
    address
    data := some (started.reg (rhsReg instr)) }

def swapAttempt (bus : Bus Mem) (size : AccessSize) (state : ARMulState Mem)
    (instr : ARMword) (swap : ARMulState Mem → ARMword → ARMword → ARMulState Mem × ARMword) :
    Attempt Mem :=
  let started := bususedincpcs state
  { accesses := [swapRead size state instr, swapWrite bus size state instr]
    tested := (swap started (lhsValue state instr) (started.reg (rhsReg instr))).1
    signal := true }

def transferAttempt (bus : Bus Mem) (state : ARMulState Mem) (instr : ARMword) :
    Transfer → Option (Attempt Mem)
  | .single =>
      some (indexedAttempt bus singleOffset (singleSize instr) (singleStarted state instr) instr)
  | .half => some (indexedAttempt bus getLS7RHS (halfSize instr) state instr)
  | .loadDouble => loadDoubleAttempt bus state instr
  | .storeDouble => storeDoubleAttempt bus state instr
  | .swapWord => some (swapAttempt bus .word state instr (armulSwapWord bus))
  | .swapByte => some (swapAttempt bus .byte state instr (armulSwapByte bus))

end Single

section Blocks

def blockAccess (instr : ARMword) (step : BlockStep Mem) : Access Mem :=
  { state := step.state
    size := .word
    address := step.address
    data := if instr.getLsbD 20 then none else some (rawReg step.state.file step.index) }

def blockAttempt (bus : Bus Mem) (state : ARMulState Mem) (instr : ARMword) : Attempt Mem :=
  { accesses := (blockSteps bus state instr).map (blockAccess instr)
    tested := blockMoved bus state instr
    signal := false }

end Blocks

section Coprocessor

/-- `ldcRest`, with every access that is made. -/
def ldcRestAccesses (bus : Bus Mem) (cops : Coprocessors Mem) (instr : ARMword) :
    Nat → ARMword → ARMulState Mem → List (Access Mem)
  | 0, _, _ => []
  | words + 1, address, state =>
      let (read, data) := armulRead bus .word state (address + 4#32)
      { state, size := .word, address := address + 4#32, data := none } ::
        if accessAborted read then []
        else
          ldcRestAccesses bus cops instr words (address + 4#32)
            { read with mem := cops.load instr data read.mem }

def ldcAccesses (bus : Bus Mem) (cops : Coprocessors Mem) (state : ARMulState Mem)
    (instr address : ARMword) : List (Access Mem) :=
  let (read, data) := armulRead bus .word state address
  { state, size := .word, address, data := none } ::
    if accessAborted read then []
    else
      let started := bususedincpcn read
      ldcRestAccesses bus cops instr (cops.words instr) address
        { started with mem := cops.load instr data started.mem }

/-- `stcRest`, with every access that is made. -/
def stcRestAccesses (bus : Bus Mem) (cops : Coprocessors Mem) (instr : ARMword) :
    Nat → ARMword → ARMulState Mem → List (Access Mem)
  | 0, _, _ => []
  | words + 1, address, state =>
      let (mem, data) := cops.store instr state.mem
      let written := armulWrite bus .word { state with mem } (address + 4#32) data
      { state := { state with mem }, size := .word, address := address + 4#32, data := some data } ::
        if accessAborted written then []
        else stcRestAccesses bus cops instr words (address + 4#32) written

def stcAccesses (bus : Bus Mem) (cops : Coprocessors Mem) (state : ARMulState Mem)
    (instr address : ARMword) : List (Access Mem) :=
  let started := bususedincpcn state
  let (mem, data) := cops.store instr started.mem
  let written := armulWrite bus .word { started with mem } address data
  { state := { started with mem }, size := .word, address, data := some data } ::
    if accessAborted written then []
    else stcRestAccesses bus cops instr (cops.words instr) address written

/-- A coprocessor that refuses leaves the choice of the exception to `CPTAKEABORT`. -/
def coprocessorAttempt (bus : Bus Mem) (cops : Coprocessors Mem) (state : ARMulState Mem)
    (instr address : ARMword) : Option (Attempt Mem) :=
  match cops.transfer instr state.mem with
  | .done mem vector =>
      let accepted := raised bus { state with mem } vector
      if instr.getLsbD 20 then
        some
          { accesses := ldcAccesses bus cops accepted instr address
            tested := ldcWords bus cops accepted instr address
            signal := true }
      else
        some
          { accesses := stcAccesses bus cops accepted instr address
            tested := stcWords bus cops accepted instr address
            signal := true }
  | .cant mem => some { accesses := [], tested := { state with mem }, signal := false }
  | .interrupted _ _ => none

end Coprocessor

def attemptOf (bus : Bus Mem) (cops : Coprocessors Mem) (state : ARMulState Mem)
    (instr : ARMword) : Option (Attempt Mem) :=
  match transferOf instr with
  | some kind => transferAttempt bus state instr kind
  | none =>
      match instr.extractLsb' 25 3 with
      | 4#3 => some (blockAttempt bus state instr)
      | 6#3 =>
          if state.isV5 && instr.extractLsb' 21 7 == 0x62#7 then none
          else
            let lhs := lhsValue state instr
            let offset := (instr.extractLsb' 0 8).setWidth 32 <<< 2
            let moved := if instr.getLsbD 23 then lhs + offset else lhs - offset
            coprocessorAttempt bus cops state instr (if instr.getLsbD 24 then moved else lhs)
      | _ => none

section Calls

/-- `starletGetString`, with every access that is made. -/
def stringAccesses (bus : Bus Mem) : Nat → ARMword → ARMulState Mem → List (Access Mem)
  | 0, _, _ => []
  | left + 1, pointer, state =>
      let (read, byte) := armulRead bus .byte state pointer
      { state, size := .byte, address := pointer, data := none } ::
        if byte = 0#32 then [] else stringAccesses bus left (pointer + 1#32) read

def semihostingAccesses (bus : Bus Mem) (state : ARMulState Mem) : List (Access Mem) :=
  if state.reg 0#4 = 3#32 then
    [{ state, size := .byte, address := state.reg 1#4, data := none }]
  else if state.reg 0#4 = 4#32 then stringAccesses bus stringSize (state.reg 1#4) state
  else []

def semihostingWord (word : ARMword) : Bool :=
  word.extractLsb' 24 8 == 0xef#8 && isSemihosting (word.extractLsb' 0 24)

/-- The instruction is a semihosting call.  The trap sees an undefined Thumb instruction with
the halfword behind it, so the two can look like one. -/
def callsSemihosting (state : ARMulState Mem) (pc instr : ARMword) : Bool :=
  if state.tFlag then
    match armulThumbDecode state pc instr with
    | .undefined => semihostingWord instr
    | .branched _ => false
    | .decoded word => (passedWord state word).any semihostingWord
  else (passedWord state instr).any semihostingWord

end Calls

end SkyeyeStarlet
