import Mathlib.Algebra.Group.Int.Defs
import Mathlib.Algebra.Group.Nat.Defs
import Mathlib.Logic.Function.Basic

/-!
The Thumb instruction set of version 5T of the ARM architecture: the instructions, their
encoding, and what each of them does to the registers and flags of the current mode, the
program counter and the memory.  Forms and states that the architecture leaves
unpredictable, and accesses that abort, have no meaning here.
-/

namespace ThumbIsa

abbrev Word := BitVec 32

abbrev LowReg := BitVec 3

abbrev Reg := BitVec 4

section Syntax

inductive Shift where
  | lsl
  | lsr
  | asr
  | ror
  deriving DecidableEq, Repr

inductive ImmOp where
  | mov
  | cmp
  | add
  | sub
  deriving DecidableEq, Repr

inductive AluOp where
  | and | eor | lsl | lsr | asr | adc | sbc | ror
  | tst | neg | cmp | cmn | orr | mul | bic | mvn
  deriving DecidableEq, Repr

inductive HighOp where
  | add
  | cmp
  | mov
  deriving DecidableEq, Repr

inductive Width where
  | byte
  | half
  | word
  deriving DecidableEq, Repr

inductive Access where
  | load (width : Width) (signed : Bool)
  | store (width : Width)
  deriving DecidableEq, Repr

inductive Instr where
  | shift (kind : Shift) (amount : BitVec 5) (rd rm : LowReg)
  | addReg (subtract : Bool) (rd rn rm : LowReg)
  | addImm (subtract : Bool) (rd rn : LowReg) (imm : BitVec 3)
  | immediate (op : ImmOp) (rd : LowReg) (imm : BitVec 8)
  | alu (op : AluOp) (rd rm : LowReg)
  | high (op : HighOp) (rd rm : Reg)
  | bx (rm : Reg)
  | blx (rm : Reg)
  | literal (rd : LowReg) (imm : BitVec 8)
  | transferReg (access : Access) (rd rn rm : LowReg)
  | transferImm (access : Access) (rd rn : LowReg) (imm : BitVec 5)
  | transferSp (access : Access) (rd : LowReg) (imm : BitVec 8)
  | addPc (rd : LowReg) (imm : BitVec 8)
  | addSp (rd : LowReg) (imm : BitVec 8)
  | adjustSp (subtract : Bool) (imm : BitVec 7)
  | push (list : BitVec 8) (link : Bool)
  | pop (list : BitVec 8) (returns : Bool)
  | stmia (rn : LowReg) (list : BitVec 8)
  | ldmia (rn : LowReg) (list : BitVec 8)
  | branchIf (condition : BitVec 4) (offset : BitVec 8)
  | swi (number : BitVec 8)
  | bkpt (number : BitVec 8)
  | branch (offset : BitVec 11)
  | blPrefix (offset : BitVec 11)
  | blSuffix (offset : BitVec 11)
  | blxSuffix (offset : BitVec 11)
  deriving DecidableEq, Repr

end Syntax

section Encoding

def decodeAlu (code : BitVec 4) : AluOp :=
  match code with
  | 0x0#4 => .and
  | 0x1#4 => .eor
  | 0x2#4 => .lsl
  | 0x3#4 => .lsr
  | 0x4#4 => .asr
  | 0x5#4 => .adc
  | 0x6#4 => .sbc
  | 0x7#4 => .ror
  | 0x8#4 => .tst
  | 0x9#4 => .neg
  | 0xa#4 => .cmp
  | 0xb#4 => .cmn
  | 0xc#4 => .orr
  | 0xd#4 => .mul
  | 0xe#4 => .bic
  | _ => .mvn

def decodeAccess (code : BitVec 3) : Access :=
  match code with
  | 0#3 => .store .word
  | 1#3 => .store .half
  | 2#3 => .store .byte
  | 3#3 => .load .byte true
  | 4#3 => .load .word false
  | 5#3 => .load .half false
  | 6#3 => .load .byte false
  | _ => .load .half true

def decodeHigh (code : BitVec 16) : Option Instr :=
  let rd : Reg := code.extractLsb' 7 1 ++ code.extractLsb' 0 3
  let rm : Reg := code.extractLsb' 3 4
  match code.extractLsb' 8 2 with
  | 0#2 => some (.high .add rd rm)
  | 1#2 => some (.high .cmp rd rm)
  | 2#2 => some (.high .mov rd rm)
  | _ =>
      if code.extractLsb' 0 3 ≠ 0#3 then none
      else if code.getLsbD 7 then some (.blx rm)
      else some (.bx rm)

def decodeStack (code : BitVec 16) : Option Instr :=
  match code.extractLsb' 8 4 with
  | 0x0#4 => some (.adjustSp (code.getLsbD 7) (code.extractLsb' 0 7))
  | 0x4#4 => some (.push (code.extractLsb' 0 8) false)
  | 0x5#4 => some (.push (code.extractLsb' 0 8) true)
  | 0xc#4 => some (.pop (code.extractLsb' 0 8) false)
  | 0xd#4 => some (.pop (code.extractLsb' 0 8) true)
  | 0xe#4 => some (.bkpt (code.extractLsb' 0 8))
  | _ => none

def decodeCond (code : BitVec 16) : Option Instr :=
  match code.extractLsb' 8 4 with
  | 0xe#4 => none
  | 0xf#4 => some (.swi (code.extractLsb' 0 8))
  | condition => some (.branchIf condition (code.extractLsb' 0 8))

def decodeAddSub (code : BitVec 16) : Instr :=
  if code.getLsbD 10 then
    .addImm (code.getLsbD 9) (code.extractLsb' 0 3) (code.extractLsb' 3 3) (code.extractLsb' 6 3)
  else
    .addReg (code.getLsbD 9) (code.extractLsb' 0 3) (code.extractLsb' 3 3) (code.extractLsb' 6 3)

def decode (code : BitVec 16) : Option Instr :=
  let shift (kind : Shift) :=
    some (.shift kind (code.extractLsb' 6 5) (code.extractLsb' 0 3) (code.extractLsb' 3 3))
  let immediate (op : ImmOp) :=
    some (.immediate op (code.extractLsb' 8 3) (code.extractLsb' 0 8))
  let transfer (access : Access) :=
    some (.transferImm access (code.extractLsb' 0 3) (code.extractLsb' 3 3)
      (code.extractLsb' 6 5))
  match code.extractLsb' 11 5 with
  | 0#5 => shift .lsl
  | 1#5 => shift .lsr
  | 2#5 => shift .asr
  | 3#5 => some (decodeAddSub code)
  | 4#5 => immediate .mov
  | 5#5 => immediate .cmp
  | 6#5 => immediate .add
  | 7#5 => immediate .sub
  | 8#5 =>
      if code.getLsbD 10 then decodeHigh code
      else some (.alu (decodeAlu (code.extractLsb' 6 4)) (code.extractLsb' 0 3)
        (code.extractLsb' 3 3))
  | 9#5 => some (.literal (code.extractLsb' 8 3) (code.extractLsb' 0 8))
  | 10#5 | 11#5 =>
      some (.transferReg (decodeAccess (code.extractLsb' 9 3)) (code.extractLsb' 0 3)
        (code.extractLsb' 3 3) (code.extractLsb' 6 3))
  | 12#5 => transfer (.store .word)
  | 13#5 => transfer (.load .word false)
  | 14#5 => transfer (.store .byte)
  | 15#5 => transfer (.load .byte false)
  | 16#5 => transfer (.store .half)
  | 17#5 => transfer (.load .half false)
  | 18#5 => some (.transferSp (.store .word) (code.extractLsb' 8 3) (code.extractLsb' 0 8))
  | 19#5 => some (.transferSp (.load .word false) (code.extractLsb' 8 3) (code.extractLsb' 0 8))
  | 20#5 => some (.addPc (code.extractLsb' 8 3) (code.extractLsb' 0 8))
  | 21#5 => some (.addSp (code.extractLsb' 8 3) (code.extractLsb' 0 8))
  | 22#5 | 23#5 => decodeStack code
  | 24#5 => some (.stmia (code.extractLsb' 8 3) (code.extractLsb' 0 8))
  | 25#5 => some (.ldmia (code.extractLsb' 8 3) (code.extractLsb' 0 8))
  | 26#5 | 27#5 => decodeCond code
  | 28#5 => some (.branch (code.extractLsb' 0 11))
  | 29#5 => if code.getLsbD 0 then none else some (.blxSuffix (code.extractLsb' 0 11))
  | 30#5 => some (.blPrefix (code.extractLsb' 0 11))
  | _ => some (.blSuffix (code.extractLsb' 0 11))

-- push {r4-r7, lr}, bx lr and ldmia r0!, {r1, r2}
example : decode 0xb5f0#16 = some (.push 0xf0#8 true) := by rfl

example : decode 0x4770#16 = some (.bx 14#4) := by rfl

example : decode 0xc806#16 = some (.ldmia 0#3 0x06#8) := by rfl

end Encoding

section State

/-- The registers 0 to 14 of the current mode, the address of the instruction, the flags,
the instruction set and the memory. -/
structure Processor (Mem : Type) where
  reg : Reg → Word
  pc : Word
  n : Bool
  z : Bool
  c : Bool
  v : Bool
  thumb : Bool
  mem : Mem

def Width.bits : Width → Nat
  | .byte => 8
  | .half => 16
  | .word => 32

/-- Accesses of the current mode, `none` where they abort.  The memory rounds or refuses the
addresses of a block transfer that are not aligned. -/
structure Memory (Mem : Type) where
  load : (width : Width) → Word → Mem → Option (BitVec width.bits × Mem)
  store : (width : Width) → Word → BitVec width.bits → Mem → Option Mem

/-- What becomes of an instruction.  The exceptions come with the value of their link
register. -/
inductive Effect (Mem : Type) where
  | goesOn (machine : Processor Mem)
  | softwareInterrupt (link : Word)
  | prefetchAbort (link : Word)

end State

section Arithmetic

structure Sum where
  value : Word
  carry : Bool
  overflow : Bool

def outsideSigned (value : Int) : Bool :=
  value < -2 ^ 31 || 2 ^ 31 ≤ value

def addCarry (x y : Word) (carry : Bool) : Sum :=
  { value := BitVec.ofNat 32 (x.toNat + y.toNat + carry.toNat)
    carry := 2 ^ 32 ≤ x.toNat + y.toNat + carry.toNat
    overflow := outsideSigned (x.toInt + y.toInt + carry.toNat) }

/-- The subtraction of `y` and a borrow, which the carry flag holds inverted. -/
def subCarry (x y : Word) (carry : Bool) : Sum :=
  { value := BitVec.ofInt 32 (x.toNat - y.toNat - (!carry).toNat)
    carry := y.toNat + (!carry).toNat ≤ x.toNat
    overflow := outsideSigned (x.toInt - y.toInt - (!carry).toNat) }

/-- A shift and its carry.  A shift by nothing leaves the flag alone. -/
def Shift.apply (kind : Shift) (amount : Nat) (carry : Bool) (x : Word) : Word × Bool :=
  if amount = 0 then (x, carry)
  else
    match kind with
    | .lsl => (x <<< amount, amount ≤ 32 && x.getLsbD (32 - amount))
    | .lsr => (x >>> amount, x.getLsbD (amount - 1))
    | .asr => (x.sshiftRight amount, x.getLsbD (min amount 32 - 1))
    | .ror => (x.rotateRight amount, x.getLsbD ((amount - 1) % 32))

/-- A shift by a constant, where a right shift by zero stands for one by 32. -/
def Shift.applyImm (kind : Shift) (amount : BitVec 5) (carry : Bool) (x : Word) : Word × Bool :=
  kind.apply (if kind ≠ .lsl ∧ amount = 0#5 then 32 else amount.toNat) carry x

end Arithmetic

section Registers

variable {Mem : Type}

def Processor.read (machine : Processor Mem) (number : Reg) : Word :=
  if number = 15#4 then machine.pc + 4#32 else machine.reg number

def Processor.low (machine : Processor Mem) (number : LowReg) : Word :=
  machine.reg (number.setWidth 4)

def Processor.set (machine : Processor Mem) (number : Reg) (value : Word) : Processor Mem :=
  { machine with reg := Function.update machine.reg number value }

def Processor.next (machine : Processor Mem) : Processor Mem :=
  { machine with pc := machine.pc + 2#32 }

def Processor.setNZ (machine : Processor Mem) (value : Word) : Processor Mem :=
  { machine with n := value.getLsbD 31, z := value == 0#32 }

def Processor.setSum (machine : Processor Mem) (sum : Sum) : Processor Mem :=
  { machine.setNZ sum.value with c := sum.carry, v := sum.overflow }

def Processor.logical (machine : Processor Mem) (rd : LowReg) (value : Word) : Processor Mem :=
  ((machine.setNZ value).set (rd.setWidth 4) value).next

def Processor.arithmetic (machine : Processor Mem) (rd : LowReg) (sum : Sum) : Processor Mem :=
  ((machine.setSum sum).set (rd.setWidth 4) sum.value).next

def Processor.shifted (machine : Processor Mem) (rd : LowReg) (result : Word × Bool) :
    Processor Mem :=
  { machine with c := result.2 }.logical rd result.1

def Processor.jump (machine : Processor Mem) (target : Word) : Processor Mem :=
  { machine with pc := target &&& ~~~1#32 }

def Processor.exchange (machine : Processor Mem) (target : Word) : Option (Processor Mem) :=
  if target.getLsbD 0 then some { machine with pc := target &&& ~~~1#32, thumb := true }
  else if target.getLsbD 1 then none
  else some { machine with pc := target, thumb := false }

end Registers

section DataProcessing

variable {Mem : Type}

def execImm (op : ImmOp) (rd : LowReg) (imm : Word) (machine : Processor Mem) : Processor Mem :=
  match op with
  | .mov => machine.logical rd imm
  | .cmp => (machine.setSum (subCarry (machine.low rd) imm true)).next
  | .add => machine.arithmetic rd (addCarry (machine.low rd) imm false)
  | .sub => machine.arithmetic rd (subCarry (machine.low rd) imm true)

/-- The operations on two low registers.  The destination of a multiplication is not its
second operand. -/
def execAlu (op : AluOp) (rd rm : LowReg) (machine : Processor Mem) : Option (Processor Mem) :=
  let x := machine.low rd
  let y := machine.low rm
  let shifted (kind : Shift) :=
    some (machine.shifted rd (kind.apply (y.setWidth 8).toNat machine.c x))
  match op with
  | .and => some (machine.logical rd (x &&& y))
  | .eor => some (machine.logical rd (x ^^^ y))
  | .lsl => shifted .lsl
  | .lsr => shifted .lsr
  | .asr => shifted .asr
  | .adc => some (machine.arithmetic rd (addCarry x y machine.c))
  | .sbc => some (machine.arithmetic rd (subCarry x y machine.c))
  | .ror => shifted .ror
  | .tst => some (machine.setNZ (x &&& y)).next
  | .neg => some (machine.arithmetic rd (subCarry 0#32 y true))
  | .cmp => some (machine.setSum (subCarry x y true)).next
  | .cmn => some (machine.setSum (addCarry x y false)).next
  | .orr => some (machine.logical rd (x ||| y))
  | .mul => if rd = rm then none else some (machine.logical rd (x * y))
  | .bic => some (machine.logical rd (x &&& ~~~y))
  | .mvn => some (machine.logical rd (~~~y))

def Processor.setHigh (machine : Processor Mem) (rd : Reg) (value : Word) : Processor Mem :=
  if rd = 15#4 then machine.jump value else (machine.set rd value).next

/-- At least one register is a high one, and the first of a comparison is not the program
counter. -/
def execHigh (op : HighOp) (rd rm : Reg) (machine : Processor Mem) : Option (Processor Mem) :=
  if rd < 8#4 ∧ rm < 8#4 then none
  else
    match op with
    | .add => some (machine.setHigh rd (machine.read rd + machine.read rm))
    | .cmp =>
        if rd = 15#4 then none
        else some (machine.setSum (subCarry (machine.reg rd) (machine.read rm) true)).next
    | .mov => some (machine.setHigh rd (machine.read rm))

end DataProcessing

section Transfers

variable {Mem : Type} (memory : Memory Mem)

def Width.aligned (width : Width) (address : Word) : Bool :=
  match width with
  | .byte => true
  | .half => !address.getLsbD 0
  | .word => !address.getLsbD 0 && !address.getLsbD 1

def extend (signed : Bool) {bits : Nat} (value : BitVec bits) : Word :=
  if signed then value.signExtend 32 else value.setWidth 32

def execAccess (access : Access) (rd : LowReg) (address : Word) (machine : Processor Mem) :
    Option (Processor Mem) :=
  match access with
  | .load width signed =>
      if width.aligned address then do
        let (value, mem) ← memory.load width address machine.mem
        some ({ machine with mem }.set (rd.setWidth 4) (extend signed value)).next
      else none
  | .store width =>
      if width.aligned address then do
        let mem ← memory.store width address ((machine.low rd).setWidth width.bits) machine.mem
        some { machine with mem }.next
      else none

def scaled (access : Access) (imm : BitVec 5) : Word :=
  let width := match access with | .load width _ => width | .store width => width
  imm.setWidth 32 <<< match width with | .byte => 0 | .half => 1 | .word => 2

def listed (list : BitVec 8) : List Reg :=
  ((List.range 8).filter fun index => list.getLsbD index).map (BitVec.ofNat 4)

def Memory.loadWords : Nat → Word → Mem → Option (List Word × Mem)
  | 0, _, mem => some ([], mem)
  | count + 1, address, mem => do
      let (word, loaded) ← memory.load .word address mem
      let (words, rest) ← Memory.loadWords count (address + 4#32) loaded
      some (word :: words, rest)

def Memory.storeWords : List Word → Word → Mem → Option Mem
  | [], _, mem => some mem
  | word :: words, address, mem => do
      let stored ← memory.store .word address word mem
      Memory.storeWords words (address + 4#32) stored

def Processor.setAll (machine : Processor Mem) : List Reg → List Word → Processor Mem
  | number :: rest, word :: words => (machine.set number word).setAll rest words
  | _, _ => machine

def size (words : Nat) : Word :=
  BitVec.ofNat 32 (4 * words)

def execPush (list : BitVec 8) (link : Bool) (machine : Processor Mem) : Option (Processor Mem) :=
  let numbers := listed list ++ if link then [14#4] else []
  let start := machine.reg 13#4 - size numbers.length
  if numbers = [] then none
  else do
    let mem ← memory.storeWords (numbers.map machine.reg) start machine.mem
    some ({ machine with mem }.set 13#4 start).next

/-- Where the program counter is in the list, its word is the last. -/
def execPop (list : BitVec 8) (returns : Bool) (machine : Processor Mem) : Option (Processor Mem) :=
  let numbers := listed list
  let count := numbers.length + returns.toNat
  if count = 0 then none
  else do
    let (words, mem) ← memory.loadWords count (machine.reg 13#4) machine.mem
    let popped := ({ machine with mem }.setAll numbers words).set 13#4
      (machine.reg 13#4 + size count)
    if returns then do
      let target ← words.getLast?
      popped.exchange target
    else some popped.next

/-- A base register in the list is stored unchanged, and has to be the first of it. -/
def execStmia (rn : LowReg) (list : BitVec 8) (machine : Processor Mem) : Option (Processor Mem) :=
  let numbers := listed list
  let base := machine.low rn
  if numbers = [] ∨ rn.setWidth 4 ∈ numbers.tail then none
  else do
    let mem ← memory.storeWords (numbers.map machine.reg) base machine.mem
    some ({ machine with mem }.set (rn.setWidth 4) (base + size numbers.length)).next

def execLdmia (rn : LowReg) (list : BitVec 8) (machine : Processor Mem) : Option (Processor Mem) :=
  let numbers := listed list
  let base := machine.low rn
  if numbers = [] then none
  else do
    let (words, mem) ← memory.loadWords numbers.length base machine.mem
    let based := { machine with mem }.set (rn.setWidth 4) (base + size numbers.length)
    some (based.setAll numbers words).next

end Transfers

section Branches

variable {Mem : Type}

def Processor.passes (machine : Processor Mem) (condition : BitVec 4) : Bool :=
  match condition with
  | 0x0#4 => machine.z
  | 0x1#4 => !machine.z
  | 0x2#4 => machine.c
  | 0x3#4 => !machine.c
  | 0x4#4 => machine.n
  | 0x5#4 => !machine.n
  | 0x6#4 => machine.v
  | 0x7#4 => !machine.v
  | 0x8#4 => machine.c && !machine.z
  | 0x9#4 => !machine.c || machine.z
  | 0xa#4 => machine.n == machine.v
  | 0xb#4 => machine.n != machine.v
  | 0xc#4 => !machine.z && machine.n == machine.v
  | 0xd#4 => machine.z || machine.n != machine.v
  | _ => true

def Processor.branch (machine : Processor Mem) (offset : Word) : Processor Mem :=
  machine.jump (machine.pc + 4#32 + offset)

/-- The return address of a call, with bit 0 set for Thumb state. -/
def Processor.link (machine : Processor Mem) : Processor Mem :=
  machine.set 14#4 ((machine.pc + 2#32) ||| 1#32)

def Processor.longPrefix (machine : Processor Mem) (offset : BitVec 11) : Processor Mem :=
  (machine.set 14#4 (machine.pc + 4#32 + offset.signExtend 32 <<< 12)).next

def Processor.longTarget (machine : Processor Mem) (offset : BitVec 11) : Word :=
  machine.reg 14#4 + offset.setWidth 32 <<< 1

def execSuffix (offset : BitVec 11) (machine : Processor Mem) : Option (Processor Mem) :=
  let target := machine.longTarget offset
  if target.getLsbD 0 then none else some (machine.link.jump target)

def execBlxSuffix (offset : BitVec 11) (machine : Processor Mem) : Processor Mem :=
  { machine.link with pc := machine.longTarget offset &&& ~~~3#32, thumb := false }

end Branches

section Meaning

variable {Mem : Type} (memory : Memory Mem)

def Processor.addSubtract (machine : Processor Mem) (subtract : Bool) (rd : LowReg) (x y : Word) :
    Processor Mem :=
  machine.arithmetic rd (if subtract then subCarry x y true else addCarry x y false)

def exec (instr : Instr) (machine : Processor Mem) : Option (Effect Mem) :=
  match instr with
  | .shift kind amount rd rm =>
      some (.goesOn (machine.shifted rd (kind.applyImm amount machine.c (machine.low rm))))
  | .addReg subtract rd rn rm =>
      some (.goesOn (machine.addSubtract subtract rd (machine.low rn) (machine.low rm)))
  | .addImm subtract rd rn imm =>
      some (.goesOn (machine.addSubtract subtract rd (machine.low rn) (imm.setWidth 32)))
  | .immediate op rd imm => some (.goesOn (execImm op rd (imm.setWidth 32) machine))
  | .alu op rd rm => (execAlu op rd rm machine).map .goesOn
  | .high op rd rm => (execHigh op rd rm machine).map .goesOn
  | .bx rm => (machine.exchange (machine.read rm)).map .goesOn
  | .blx rm =>
      if rm = 15#4 then none else (machine.link.exchange (machine.reg rm)).map .goesOn
  | .literal rd imm =>
      (execAccess memory (.load .word false) rd
        (((machine.pc + 4#32) &&& ~~~3#32) + imm.setWidth 32 <<< 2) machine).map .goesOn
  | .transferReg access rd rn rm =>
      (execAccess memory access rd (machine.low rn + machine.low rm) machine).map .goesOn
  | .transferImm access rd rn imm =>
      (execAccess memory access rd (machine.low rn + scaled access imm) machine).map .goesOn
  | .transferSp access rd imm =>
      (execAccess memory access rd (machine.reg 13#4 + imm.setWidth 32 <<< 2) machine).map .goesOn
  | .addPc rd imm =>
      some (.goesOn (machine.set (rd.setWidth 4)
        (((machine.pc + 4#32) &&& ~~~3#32) + imm.setWidth 32 <<< 2)).next)
  | .addSp rd imm =>
      some (.goesOn (machine.set (rd.setWidth 4)
        (machine.reg 13#4 + imm.setWidth 32 <<< 2)).next)
  | .adjustSp subtract imm =>
      let offset : Word := imm.setWidth 32 <<< 2
      some (.goesOn (machine.set 13#4
        (if subtract then machine.reg 13#4 - offset else machine.reg 13#4 + offset)).next)
  | .push list link => (execPush memory list link machine).map .goesOn
  | .pop list returns => (execPop memory list returns machine).map .goesOn
  | .stmia rn list => (execStmia memory rn list machine).map .goesOn
  | .ldmia rn list => (execLdmia memory rn list machine).map .goesOn
  | .branchIf condition offset =>
      some (.goesOn (if machine.passes condition then
        machine.branch (offset.signExtend 32 <<< 1) else machine.next))
  | .swi _ => some (.softwareInterrupt (machine.pc + 2#32))
  | .bkpt _ => some (.prefetchAbort (machine.pc + 4#32))
  | .branch offset => some (.goesOn (machine.branch (offset.signExtend 32 <<< 1)))
  | .blPrefix offset => some (.goesOn (machine.longPrefix offset))
  | .blSuffix offset => (execSuffix offset machine).map .goesOn
  | .blxSuffix offset => some (.goesOn (execBlxSuffix offset machine))

def isSuffix (code : BitVec 16) : Bool :=
  code.extractLsb' 11 5 == 29#5 || code.extractLsb' 11 5 == 31#5

/-- The meaning of a halfword.  The halves of a long branch are one instruction where they
stand together. -/
def meaning (code following : BitVec 16) (machine : Processor Mem) : Option (Effect Mem) := do
  let instr ← decode code
  match instr with
  | .blPrefix offset =>
      if isSuffix following then do
        let second ← decode following
        exec memory second (machine.longPrefix offset)
      else some (.goesOn (machine.longPrefix offset))
  | instr => exec memory instr machine

end Meaning

section Updates

variable {Mem : Type} (machine : Processor Mem)

@[simp] theorem Processor.set_pc (number : Reg) (value : Word) :
    (machine.set number value).pc = machine.pc := by
  rfl

@[simp] theorem Processor.set_thumb (number : Reg) (value : Word) :
    (machine.set number value).thumb = machine.thumb := by
  rfl

@[simp] theorem Processor.setAll_pc (numbers : List Reg) (words : List Word) :
    (machine.setAll numbers words).pc = machine.pc := by
  induction numbers generalizing machine words with
  | nil => rfl
  | cons number numbers ih =>
      cases words with
      | nil => rfl
      | cons word words => exact ih _ words

@[simp] theorem Processor.setAll_thumb (numbers : List Reg) (words : List Word) :
    (machine.setAll numbers words).thumb = machine.thumb := by
  induction numbers generalizing machine words with
  | nil => rfl
  | cons number numbers ih =>
      cases words with
      | nil => rfl
      | cons word words => exact ih _ words

theorem Processor.setAll_append {numbers : List Reg} {words : List Word} (rest : List Word)
    (same : words.length = numbers.length) :
    machine.setAll numbers (words ++ rest) = machine.setAll numbers words := by
  induction numbers generalizing machine words with
  | nil =>
      rw [List.length_nil, List.length_eq_zero_iff] at same
      subst same
      cases rest <;> rfl
  | cons number numbers ih =>
      cases words with
      | nil => cases same
      | cons word words => exact ih _ (Nat.succ.inj same)

theorem Processor.set_comm {first second : Reg} (distinct : first ≠ second) (x y : Word) :
    (machine.set first x).set second y = (machine.set second y).set first x := by
  simp only [Processor.set]
  rw [Function.update_comm distinct]

theorem Processor.set_self (number : Reg) :
    machine.set number (machine.reg number) = machine := by
  simp only [Processor.set, Function.update_eq_self]

theorem Processor.set_set (number : Reg) (x y : Word) :
    (machine.set number x).set number y = machine.set number y := by
  simp only [Processor.set, Function.update_idem]

theorem Processor.set_reg_of_ne {number written : Reg} (other : number ≠ written) (value : Word) :
    (machine.set written value).reg number = machine.reg number := by
  exact Function.update_of_ne other _ _

theorem Processor.setAll_reg_of_notMem {number : Reg} {numbers : List Reg}
    (apart : number ∉ numbers) (words : List Word) :
    (machine.setAll numbers words).reg number = machine.reg number := by
  induction numbers generalizing machine words with
  | nil => rfl
  | cons first numbers ih =>
      cases words with
      | nil => rfl
      | cons word words =>
          rw [List.mem_cons, not_or] at apart
          exact (ih _ apart.2 words).trans (machine.set_reg_of_ne apart.1 word)

theorem Processor.setAll_set (base : Reg) (numbers : List Reg) (words : List Word) (value : Word) :
    ((machine.set base value).setAll numbers words).set base value =
      (machine.setAll numbers words).set base value := by
  induction numbers generalizing machine words with
  | nil => exact machine.set_set base value value
  | cons number numbers ih =>
      cases words with
      | nil => exact machine.set_set base value value
      | cons word words =>
          simp only [Processor.setAll]
          by_cases same : base = number
          · subst same
            rw [Processor.set_set]
          · rw [Processor.set_comm machine same, ih]

theorem Processor.exchange_set (number : Reg) (value target : Word) :
    (machine.set number value).exchange target =
      (machine.exchange target).map (fun after => after.set number value) := by
  unfold Processor.exchange
  split
  · rfl
  · split <;> rfl

theorem execLdmia_base {memory : Memory Mem} {machine after : Processor Mem} {rn : LowReg}
    {list : BitVec 8} (apart : rn.setWidth 4 ∉ listed list)
    (defined : execLdmia memory rn list machine = some after) :
    after.reg (rn.setWidth 4) = machine.low rn + size (listed list).length := by
  simp only [execLdmia] at defined
  split at defined
  · cases defined
  · simp only [Option.bind_eq_bind, Option.bind_eq_some_iff] at defined
    obtain ⟨⟨words, mem⟩, -, same⟩ := defined
    cases same
    refine (Processor.setAll_reg_of_notMem _ apart words).trans ?_
    exact Function.update_self _ _ _

end Updates

end ThumbIsa
