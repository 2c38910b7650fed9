import SkyeyeStarlet.Library.ThumbIsa

/-!
The ARM instruction set of version 5TE of the architecture: the instructions of a program,
their encoding, and what each of them does to the registers and flags of the current mode,
the program counter and the memory.  The instructions that work on a status register or a
coprocessor or return from an exception, forms and states that the architecture leaves
unpredictable, and accesses that abort, have no meaning here.
-/

namespace ArmIsa

open ThumbIsa

section Syntax

inductive DataOp where
  | and | eor | sub | rsb | add | adc | sbc | rsc
  | tst | teq | cmp | cmn | orr | mov | bic | mvn
  deriving DecidableEq, Repr

inductive Operand where
  | immediate (value : BitVec 8) (rotation : BitVec 4)
  | shifted (kind : Shift) (amount : BitVec 5) (rm : Reg)
  | shiftedBy (kind : Shift) (rs rm : Reg)
  deriving DecidableEq, Repr

/-- The signed multiplications of half registers; `x` and `y` pick the upper halves. -/
inductive HalfOp where
  | accumulate (x y : Bool)
  | accumulateWide (y : Bool)
  | wide (y : Bool)
  | accumulateLong (x y : Bool)
  | multiply (x y : Bool)
  deriving DecidableEq, Repr

inductive Offset where
  | immediate (value : BitVec 12)
  | shifted (kind : Shift) (amount : BitVec 5) (rm : Reg)
  deriving DecidableEq, Repr

/-- How a transfer finds its address from the base, and whether it moves the base. -/
structure Address where
  before : Bool
  up : Bool
  writes : Bool
  offset : Offset
  deriving DecidableEq, Repr

inductive Instr where
  | data (op : DataOp) (flags : Bool) (rn rd : Reg) (operand : Operand)
  | multiply (accumulate flags : Bool) (rd rn rs rm : Reg)
  | longMultiply (signed accumulate flags : Bool) (hi lo rs rm : Reg)
  | halfMultiply (op : HalfOp) (rd rn rs rm : Reg)
  | saturating (subtract doubles : Bool) (rn rd rm : Reg)
  | countZeros (rd rm : Reg)
  | swap (byte : Bool) (rn rd rm : Reg)
  | exchange (link : Bool) (rm : Reg)
  | transfer (access : Access) (rn rd : Reg) (address : Address)
  | double (load : Bool) (rn rd : Reg) (address : Address)
  | block (load before up writes : Bool) (rn : Reg) (list : BitVec 16)
  | branch (link : Bool) (offset : BitVec 24)
  | callThumb (half : Bool) (offset : BitVec 24)
  | softwareInterrupt (number : BitVec 24)
  deriving DecidableEq, Repr

end Syntax

section Encoding

def decodeOp (code : BitVec 4) : DataOp :=
  match code with
  | 0x0#4 => .and
  | 0x1#4 => .eor
  | 0x2#4 => .sub
  | 0x3#4 => .rsb
  | 0x4#4 => .add
  | 0x5#4 => .adc
  | 0x6#4 => .sbc
  | 0x7#4 => .rsc
  | 0x8#4 => .tst
  | 0x9#4 => .teq
  | 0xa#4 => .cmp
  | 0xb#4 => .cmn
  | 0xc#4 => .orr
  | 0xd#4 => .mov
  | 0xe#4 => .bic
  | _ => .mvn

def decodeShift (code : BitVec 2) : Shift :=
  match code with
  | 0#2 => .lsl
  | 1#2 => .lsr
  | 2#2 => .asr
  | _ => .ror

def rnOf (code : Word) : Reg :=
  code.extractLsb' 16 4

def rdOf (code : Word) : Reg :=
  code.extractLsb' 12 4

def rsOf (code : Word) : Reg :=
  code.extractLsb' 8 4

def rmOf (code : Word) : Reg :=
  code.extractLsb' 0 4

def decodeOperand (code : Word) : Operand :=
  if code.getLsbD 25 then .immediate (code.extractLsb' 0 8) (code.extractLsb' 8 4)
  else if code.getLsbD 4 then
    .shiftedBy (decodeShift (code.extractLsb' 5 2)) (rsOf code) (rmOf code)
  else .shifted (decodeShift (code.extractLsb' 5 2)) (code.extractLsb' 7 5) (rmOf code)

def DataOp.tests : DataOp → Bool
  | .tst | .teq | .cmp | .cmn => true
  | _ => false

def DataOp.moves : DataOp → Bool
  | .mov | .mvn => true
  | _ => false

/-- A register that an operation does not have is zero in its encoding. -/
def decodeData (code : Word) : Option Instr :=
  let op := decodeOp (code.extractLsb' 21 4)
  if op.tests ∧ rdOf code ≠ 0#4 ∨ op.moves ∧ rnOf code ≠ 0#4 then none
  else some (.data op (code.getLsbD 20) (rnOf code) (rdOf code) (decodeOperand code))

def decodeHalfOp (code : Word) : Option HalfOp :=
  let x := code.getLsbD 5
  let y := code.getLsbD 6
  match code.extractLsb' 21 2 with
  | 0#2 => some (.accumulate x y)
  | 1#2 =>
      if x = false then some (.accumulateWide y)
      else if rdOf code = 0#4 then some (.wide y)
      else none
  | 2#2 => some (.accumulateLong x y)
  | _ => if rdOf code = 0#4 then some (.multiply x y) else none

def decodeMisc (code : Word) : Option Instr :=
  if code.getLsbD 4 = false ∧ code.getLsbD 7 = true then
    (decodeHalfOp code).map fun op =>
      .halfMultiply op (rnOf code) (rdOf code) (rsOf code) (rmOf code)
  else if code.extractLsb' 4 8 = 0x05#8 then
    some (.saturating (code.getLsbD 21) (code.getLsbD 22) (rnOf code) (rdOf code) (rmOf code))
  else if code.extractLsb' 4 20 = 0x2fff1#20 then some (.exchange false (rmOf code))
  else if code.extractLsb' 4 20 = 0x2fff3#20 then some (.exchange true (rmOf code))
  else if code.extractLsb' 4 8 = 0xf1#8 ∧ code.extractLsb' 16 7 = 0x6f#7 then
    some (.countZeros (rdOf code) (rmOf code))
  else none

/-- Bits 24 and 21 name the addressing mode.  A moved base that is also written before the
access would be the form for the user's rights. -/
def decodeAddress (code : Word) (offset : Offset) : Option Address :=
  if code.getLsbD 24 = false ∧ code.getLsbD 21 = true then none
  else some
    { before := code.getLsbD 24
      up := code.getLsbD 23
      writes := !code.getLsbD 24 || code.getLsbD 21
      offset }

def decodeHalfAddress (code : Word) : Option Address :=
  if code.getLsbD 22 then
    decodeAddress code (.immediate (0#4 ++ code.extractLsb' 8 4 ++ code.extractLsb' 0 4))
  else if code.extractLsb' 8 4 = 0#4 then decodeAddress code (.shifted .lsl 0#5 (rmOf code))
  else none

def decodeHalf (code : Word) : Option Instr :=
  (decodeHalfAddress code).map fun address =>
    match code.getLsbD 20, code.extractLsb' 5 2 with
    | true, 1#2 => .transfer (.load .half false) (rnOf code) (rdOf code) address
    | true, 2#2 => .transfer (.load .byte true) (rnOf code) (rdOf code) address
    | true, _ => .transfer (.load .half true) (rnOf code) (rdOf code) address
    | false, 1#2 => .transfer (.store .half) (rnOf code) (rdOf code) address
    | false, 2#2 => .double true (rnOf code) (rdOf code) address
    | false, _ => .double false (rnOf code) (rdOf code) address

def decodeMultiply (code : Word) : Option Instr :=
  if code.getLsbD 23 then
    some (.longMultiply (code.getLsbD 22) (code.getLsbD 21) (code.getLsbD 20) (rnOf code)
      (rdOf code) (rsOf code) (rmOf code))
  else if code.getLsbD 22 ∨ code.getLsbD 21 = false ∧ rdOf code ≠ 0#4 then none
  else some (.multiply (code.getLsbD 21) (code.getLsbD 20) (rnOf code) (rdOf code) (rsOf code)
    (rmOf code))

def decodeSwap (code : Word) : Option Instr :=
  if code.extractLsb' 8 4 = 0#4 ∧ code.extractLsb' 20 2 = 0#2 ∧ code.getLsbD 23 = false then
    some (.swap (code.getLsbD 22) (rnOf code) (rdOf code) (rmOf code))
  else none

/-- The words between those of data processing whose bits 4 and 7 are set. -/
def decodeExtra (code : Word) : Option Instr :=
  if code.extractLsb' 5 2 ≠ 0#2 then decodeHalf code
  else if code.getLsbD 24 then decodeSwap code
  else decodeMultiply code

def decodeSingle (code : Word) : Option Instr :=
  let width := if code.getLsbD 22 then Width.byte else Width.word
  let access := if code.getLsbD 20 then Access.load width false else Access.store width
  let offset :=
    if code.getLsbD 25 then
      Offset.shifted (decodeShift (code.extractLsb' 5 2)) (code.extractLsb' 7 5) (rmOf code)
    else Offset.immediate (code.extractLsb' 0 12)
  (decodeAddress code offset).map fun address =>
    .transfer access (rnOf code) (rdOf code) address

def decodeBlock (code : Word) : Option Instr :=
  if code.getLsbD 22 then none
  else some (.block (code.getLsbD 20) (code.getLsbD 24) (code.getLsbD 23) (code.getLsbD 21)
    (rnOf code) (code.extractLsb' 0 16))

def decode (code : Word) : Option Instr :=
  match code.extractLsb' 25 3 with
  | 0#3 =>
      if code.getLsbD 4 = true ∧ code.getLsbD 7 = true then decodeExtra code
      else if code.extractLsb' 23 2 = 2#2 ∧ code.getLsbD 20 = false then decodeMisc code
      else decodeData code
  | 1#3 =>
      if code.extractLsb' 23 2 = 2#2 ∧ code.getLsbD 20 = false then none else decodeData code
  | 2#3 => decodeSingle code
  | 3#3 => if code.getLsbD 4 then none else decodeSingle code
  | 4#3 => decodeBlock code
  | 5#3 => some (.branch (code.getLsbD 24) (code.extractLsb' 0 24))
  | 6#3 => none
  | _ => if code.getLsbD 24 then some (.softwareInterrupt (code.extractLsb' 0 24)) else none

/-- The instruction of a word whose condition field is taken for more of the code. -/
def decodeUnconditional (code : Word) : Option Instr :=
  if code.extractLsb' 25 3 = 5#3 then
    some (.callThumb (code.getLsbD 24) (code.extractLsb' 0 24))
  else none

-- ldr pc, [r1], #4, smlalbt r2, r3, r4, r5 and rsbs r0, r1, r2, ror r3
example : decode 0xe491f004#32 =
    some (.transfer (.load .word false) 1#4 15#4 ⟨false, true, true, .immediate 4#12⟩) := by rfl

example : decode 0xe14325c4#32 =
    some (.halfMultiply (.accumulateLong false true) 3#4 2#4 5#4 4#4) := by rfl

example : decode 0xe0710372#32 = some (.data .rsb true 1#4 0#4 (.shiftedBy .ror 3#4 2#4)) := by rfl

end Encoding

section State

structure Machine (Mem : Type) extends Processor Mem where
  q : Bool

/-- What becomes of an instruction.  The exception comes with the value of its link
register. -/
inductive Effect (Mem : Type) where
  | goesOn (machine : Machine Mem)
  | softwareInterrupt (link : Word)

variable {Mem : Type}

def Machine.withProcessor (machine : Machine Mem) (processor : Processor Mem) : Machine Mem :=
  { toProcessor := processor, q := machine.q }

def read (machine : Processor Mem) (number : Reg) : Word :=
  if number = 15#4 then machine.pc + 8#32 else machine.reg number

def usesPc (numbers : List Reg) : Bool :=
  numbers.any fun number => number == 15#4

theorem usesPc_iff (numbers : List Reg) : usesPc numbers = true ↔ 15#4 ∈ numbers := by
  simp only [usesPc, List.any_eq_true, beq_iff_eq]
  constructor
  · rintro ⟨number, member, rfl⟩
    exact member
  · intro member
    exact ⟨15#4, member, rfl⟩

def skip (machine : Processor Mem) : Processor Mem :=
  { machine with pc := machine.pc + 4#32 }

/-- The end of an operation without flags, where the program counter may be the result. -/
def setResult (machine : Processor Mem) (rd : Reg) (value : Word) : Option (Processor Mem) :=
  if rd = 15#4 then
    if Width.word.aligned value then some { machine with pc := value } else none
  else some (skip (machine.set rd value))

end State

section DataProcessing

variable {Mem : Type}

/-- A shift by a constant, where a rotation by zero is one by a single bit through the
carry. -/
def shiftConstant (kind : Shift) (amount : BitVec 5) (carry : Bool) (x : Word) : Word × Bool :=
  if kind = .ror ∧ amount = 0#5 then (BitVec.ofBool carry ++ x.extractLsb' 1 31, x.getLsbD 0)
  else kind.applyImm amount carry x

def Operand.byRegister : Operand → Bool
  | .shiftedBy _ _ _ => true
  | _ => false

def Operand.eval (operand : Operand) (machine : Processor Mem) : Option (Word × Bool) :=
  match operand with
  | .immediate imm rotation =>
      let value := (imm.setWidth 32).rotateRight (2 * rotation.toNat)
      some (value, if rotation = 0#4 then machine.c else value.getLsbD 31)
  | .shifted kind amount rm => some (shiftConstant kind amount machine.c (read machine rm))
  | .shiftedBy kind rs rm =>
      if rs = 15#4 ∨ rm = 15#4 then none
      else some (kind.apply ((machine.reg rs).setWidth 8).toNat machine.c (machine.reg rm))

def DataOp.sum (op : DataOp) (carry : Bool) (x y : Word) : Option Sum :=
  match op with
  | .sub | .cmp => some (subCarry x y true)
  | .rsb => some (subCarry y x true)
  | .add | .cmn => some (addCarry x y false)
  | .adc => some (addCarry x y carry)
  | .sbc => some (subCarry x y carry)
  | .rsc => some (subCarry y x carry)
  | _ => none

def DataOp.logical (op : DataOp) (x y : Word) : Word :=
  match op with
  | .and | .tst => x &&& y
  | .eor | .teq => x ^^^ y
  | .orr => x ||| y
  | .bic => x &&& ~~~y
  | .mvn => ~~~y
  | _ => y

/-- The flags are `flagged`; the program counter takes no result together with them. -/
def finish (op : DataOp) (flags : Bool) (rd : Reg) (value : Word)
    (machine flagged : Processor Mem) : Option (Processor Mem) :=
  if op.tests then some (skip flagged)
  else if flags then if rd = 15#4 then none else some (skip (flagged.set rd value))
  else setResult machine rd value

def execData (op : DataOp) (flags : Bool) (rn rd : Reg) (operand : Operand)
    (machine : Processor Mem) : Option (Processor Mem) :=
  if operand.byRegister = true ∧ (rn = 15#4 ∨ rd = 15#4) then none
  else do
    let (y, carry) ← operand.eval machine
    match op.sum machine.c (read machine rn) y with
    | some sum => finish op flags rd sum.value machine (machine.setSum sum)
    | none =>
        let value := op.logical (read machine rn) y
        finish op flags rd value machine ({ machine with c := carry }.setNZ value)

def execCountZeros (rd rm : Reg) (machine : Processor Mem) : Option (Processor Mem) :=
  if usesPc [rd, rm] then none else some (skip (machine.set rd (machine.reg rm).clz))

end DataProcessing

section Multiplication

variable {Mem : Type}

def execMultiply (accumulate flags : Bool) (rd rn rs rm : Reg) (machine : Processor Mem) :
    Option (Processor Mem) :=
  let value :=
    machine.reg rm * machine.reg rs + if accumulate then machine.reg rn else 0#32
  if usesPc [rd, rn, rs, rm] ∨ rd = rm then none
  else some (skip ((if flags then machine.setNZ value else machine).set rd value))

def longProduct (signed : Bool) (x y : Word) : BitVec 64 :=
  if signed then BitVec.ofInt 64 (x.toInt * y.toInt) else BitVec.ofNat 64 (x.toNat * y.toNat)

def setLong (machine : Processor Mem) (hi lo : Reg) (value : BitVec 64) : Processor Mem :=
  (machine.set lo (value.extractLsb' 0 32)).set hi (value.extractLsb' 32 32)

def execLongMultiply (signed accumulate flags : Bool) (hi lo rs rm : Reg)
    (machine : Processor Mem) : Option (Processor Mem) :=
  let addend := if accumulate then machine.reg hi ++ machine.reg lo else 0#64
  let value := longProduct signed (machine.reg rm) (machine.reg rs) + addend
  if usesPc [hi, lo, rs, rm] ∨ hi = lo ∨ hi = rm ∨ lo = rm then none
  else
    let flagged :=
      if flags then { machine with n := value.getLsbD 63, z := value == 0#64 } else machine
    some (skip (setLong flagged hi lo value))

def half (word : Word) (top : Bool) : Int :=
  if top then (word.extractLsb' 16 16).toInt else (word.extractLsb' 0 16).toInt

def setSticky (machine : Machine Mem) (rd : Reg) (value : Int) : Machine Mem :=
  { toProcessor := skip (machine.set rd (BitVec.ofInt 32 value))
    q := machine.q || outsideSigned value }

def execHalfMultiply (op : HalfOp) (rd rn rs rm : Reg) (machine : Machine Mem) :
    Option (Machine Mem) :=
  let m := machine.reg rm
  let s := machine.reg rs
  let wide (y : Bool) := m.toInt * half s y / 2 ^ 16
  if usesPc [rd, rn, rs, rm] then none
  else
    match op with
    | .accumulate x y =>
        some (setSticky machine rd (half m x * half s y + (machine.reg rn).toInt))
    | .accumulateWide y => some (setSticky machine rd (wide y + (machine.reg rn).toInt))
    | .wide y =>
        some (machine.withProcessor (skip (machine.set rd (BitVec.ofInt 32 (wide y)))))
    | .accumulateLong x y =>
        let value := (machine.reg rd ++ machine.reg rn).toInt + half m x * half s y
        if rd = rn then none
        else some (machine.withProcessor
          (skip (setLong machine.toProcessor rd rn (BitVec.ofInt 64 value))))
    | .multiply x y =>
        some (machine.withProcessor
          (skip (machine.set rd (BitVec.ofInt 32 (half m x * half s y)))))

def clamp (value : Int) : Int :=
  max (-2 ^ 31) (min value (2 ^ 31 - 1))

def execSaturating (subtract doubles : Bool) (rn rd rm : Reg) (machine : Machine Mem) :
    Option (Machine Mem) :=
  let addend := (machine.reg rn).toInt * if doubles then 2 else 1
  let value := (machine.reg rm).toInt + if subtract then -clamp addend else clamp addend
  if usesPc [rn, rd, rm] then none
  else some
    { toProcessor := skip (machine.set rd (BitVec.ofInt 32 (clamp value)))
      q := machine.q || outsideSigned addend || outsideSigned value }

end Multiplication

section Transfers

variable {Mem : Type} (memory : Memory Mem)

def Offset.value (offset : Offset) (machine : Processor Mem) : Word :=
  match offset with
  | .immediate value => value.setWidth 32
  | .shifted kind amount rm => (shiftConstant kind amount machine.c (machine.reg rm)).1

def Offset.register : Offset → Option Reg
  | .immediate _ => none
  | .shifted _ _ rm => some rm

/-- A base that is moved is not the program counter and has no other part in the
instruction. -/
def Address.legal (address : Address) (rn rd : Reg) : Bool :=
  address.offset.register != some 15#4 &&
    (!address.writes ||
      rn != 15#4 && rn != rd && address.offset.register != some rn)

def Address.moved (address : Address) (rn : Reg) (machine : Processor Mem) : Word :=
  let base := read machine rn
  let offset := address.offset.value machine
  if address.up then base + offset else base - offset

def Address.target (address : Address) (rn : Reg) (machine : Processor Mem) : Word :=
  if address.before then address.moved rn machine else read machine rn

/-- The state behind an access, with the base that the instruction started from moved. -/
def Address.moveBase (address : Address) (rn : Reg) (machine after : Processor Mem) :
    Processor Mem :=
  if address.writes then after.set rn (address.moved rn machine) else after

/-- A word at an address that is not aligned is turned until the byte at the address comes
first. -/
def turned (width : Width) (address value : Word) : Word :=
  match width with
  | .word => value.rotateRight (8 * (address.toNat % 4))
  | _ => value

/-- Only words may be at an address that is not aligned. -/
def reachable (width : Width) (address : Word) : Bool :=
  width == .word || width.aligned address

def execLoad (width : Width) (signed : Bool) (rn rd : Reg) (address : Address)
    (machine : Processor Mem) : Option (Processor Mem) :=
  let target := address.target rn machine
  if reachable width target = false ∨
      rd = 15#4 ∧ (width ≠ .word ∨ width.aligned target = false) then none
  else do
    let (value, mem) ← memory.load width target machine.mem
    let word := turned width target (extend signed value)
    if rd = 15#4 then
      ({ machine with mem }.exchange word).map (address.moveBase rn machine)
    else some (skip (address.moveBase rn machine ({ machine with mem }.set rd word)))

def execStore (width : Width) (rn rd : Reg) (address : Address) (machine : Processor Mem) :
    Option (Processor Mem) :=
  let target := address.target rn machine
  if reachable width target = false ∨ rd = 15#4 then none
  else do
    let mem ← memory.store width target ((machine.reg rd).setWidth width.bits) machine.mem
    some (skip (address.moveBase rn machine { machine with mem }))

def execTransfer (access : Access) (rn rd : Reg) (address : Address) (machine : Processor Mem) :
    Option (Processor Mem) :=
  if address.legal rn rd then
    match access with
    | .load width signed => execLoad memory width signed rn rd address machine
    | .store width => execStore memory width rn rd address machine
  else none

/-- The registers of a doubleword are an even one and the next, below the link register. -/
def execDouble (load : Bool) (rn rd : Reg) (address : Address) (machine : Processor Mem) :
    Option (Processor Mem) :=
  let target := address.target rn machine
  if rd.getLsbD 0 = true ∨ rd = 14#4 ∨ target.extractLsb' 0 3 ≠ 0#3 ∨
      address.legal rn rd = false ∨ address.legal rn (rd + 1#4) = false ∨
      load = true ∧ address.offset.register ∈ [some rd, some (rd + 1#4)] then none
  else if load then do
    let (words, mem) ← memory.loadWords 2 target machine.mem
    some (skip (address.moveBase rn machine
      ({ machine with mem }.setAll [rd, rd + 1#4] words)))
  else do
    let mem ← memory.storeWords [machine.reg rd, machine.reg (rd + 1#4)] target machine.mem
    some (skip (address.moveBase rn machine { machine with mem }))

def listed (list : BitVec 16) : List Reg :=
  ((List.range 15).filter fun index => list.getLsbD index).map (BitVec.ofNat 4)

def blockRange (before up : Bool) (base : Word) (count : Nat) : Word × Word :=
  let final := if up then base + size count else base - size count
  let lowest := if up then base else final
  (if before = up then lowest + 4#32 else lowest, final)

def execLoadBlock (before up writes : Bool) (rn : Reg) (list : BitVec 16)
    (machine : Processor Mem) : Option (Processor Mem) :=
  let numbers := listed list
  let count := numbers.length + (list.getLsbD 15).toNat
  let (start, final) := blockRange before up (machine.reg rn) count
  if rn = 15#4 ∨ count = 0 ∨ writes = true ∧ rn ∈ numbers then none
  else do
    let (words, mem) ← memory.loadWords count start machine.mem
    let loaded := { machine with mem }.setAll numbers words
    let based := if writes then loaded.set rn final else loaded
    if list.getLsbD 15 then do
      let target ← words.getLast?
      based.exchange target
    else some (skip based)

/-- A base that is moved is stored as it was, and has to be the first of the list. -/
def execStoreBlock (before up writes : Bool) (rn : Reg) (list : BitVec 16)
    (machine : Processor Mem) : Option (Processor Mem) :=
  let numbers := listed list
  let (start, final) := blockRange before up (machine.reg rn) numbers.length
  if rn = 15#4 ∨ numbers = [] ∨ list.getLsbD 15 = true ∨ writes = true ∧ rn ∈ numbers.tail then
    none
  else do
    let mem ← memory.storeWords (numbers.map machine.reg) start machine.mem
    let stored := { machine with mem }
    some (skip (if writes then stored.set rn final else stored))

def execBlock (load before up writes : Bool) (rn : Reg) (list : BitVec 16)
    (machine : Processor Mem) : Option (Processor Mem) :=
  if load then execLoadBlock memory before up writes rn list machine
  else execStoreBlock memory before up writes rn list machine

def execSwap (byte : Bool) (rn rd rm : Reg) (machine : Processor Mem) :
    Option (Processor Mem) :=
  let width := if byte then Width.byte else Width.word
  let address := machine.reg rn
  if usesPc [rn, rd, rm] ∨ rn = rd ∨ rn = rm then none
  else do
    let (value, loaded) ← memory.load width address machine.mem
    let mem ← memory.store width address ((machine.reg rm).setWidth width.bits) loaded
    some (skip ({ machine with mem }.set rd (turned width address (value.setWidth 32))))

end Transfers

section Meaning

variable {Mem : Type} (memory : Memory Mem)

def execBranch (link : Bool) (offset : BitVec 24) (machine : Processor Mem) : Processor Mem :=
  let linked := if link then machine.set 14#4 (machine.pc + 4#32) else machine
  { linked with pc := machine.pc + 8#32 + offset.signExtend 32 <<< 2 }

def execExchange (link : Bool) (rm : Reg) (machine : Processor Mem) : Option (Processor Mem) :=
  if link then
    if rm = 15#4 then none
    else (machine.set 14#4 (machine.pc + 4#32)).exchange (machine.reg rm)
  else machine.exchange (read machine rm)

/-- The call of a Thumb routine, which may be in the second half of a word. -/
def execCallThumb (upper : Bool) (offset : BitVec 24) (machine : Processor Mem) :
    Processor Mem :=
  let linked := machine.set 14#4 (machine.pc + 4#32)
  { linked with
    pc := machine.pc + 8#32 + offset.signExtend 32 <<< 2 + if upper then 2#32 else 0#32
    thumb := true }

def Machine.continues (machine : Machine Mem) (after : Option (Processor Mem)) :
    Option (Effect Mem) :=
  after.map fun processor => .goesOn (machine.withProcessor processor)

def exec (instr : Instr) (machine : Machine Mem) : Option (Effect Mem) :=
  let processor := machine.toProcessor
  match instr with
  | .data op flags rn rd operand =>
      machine.continues (execData op flags rn rd operand processor)
  | .multiply accumulate flags rd rn rs rm =>
      machine.continues (execMultiply accumulate flags rd rn rs rm processor)
  | .longMultiply signed accumulate flags hi lo rs rm =>
      machine.continues (execLongMultiply signed accumulate flags hi lo rs rm processor)
  | .halfMultiply op rd rn rs rm => (execHalfMultiply op rd rn rs rm machine).map .goesOn
  | .saturating subtract doubles rn rd rm =>
      (execSaturating subtract doubles rn rd rm machine).map .goesOn
  | .countZeros rd rm => machine.continues (execCountZeros rd rm processor)
  | .swap byte rn rd rm => machine.continues (execSwap memory byte rn rd rm processor)
  | .exchange link rm => machine.continues (execExchange link rm processor)
  | .transfer access rn rd address =>
      machine.continues (execTransfer memory access rn rd address processor)
  | .double load rn rd address =>
      machine.continues (execDouble memory load rn rd address processor)
  | .block load before up writes rn list =>
      machine.continues (execBlock memory load before up writes rn list processor)
  | .branch link offset => machine.continues (some (execBranch link offset processor))
  | .callThumb upper offset => machine.continues (some (execCallThumb upper offset processor))
  | .softwareInterrupt _ => some (.softwareInterrupt (machine.pc + 4#32))

/-- The meaning of a word.  An instruction whose condition fails is passed over. -/
def meaning (code : Word) (machine : Machine Mem) : Option (Effect Mem) :=
  if code.extractLsb' 28 4 = 0xf#4 then do
    let instr ← decodeUnconditional code
    exec memory instr machine
  else do
    let instr ← decode code
    if machine.passes (code.extractLsb' 28 4) then exec memory instr machine
    else some (.goesOn (machine.withProcessor (skip machine.toProcessor)))

end Meaning

end ArmIsa
