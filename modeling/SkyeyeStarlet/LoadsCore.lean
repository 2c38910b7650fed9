import SkyeyeStarlet.RegistersCore
import SkyeyeStarlet.TransferCore

/-!
Data reads of the core through every layer: `arm926ejs_mmu_read`, the banks of `armmem.c`,
the devices of `armio.c` and the machine.  The data cache and the write buffer are never
enabled, so they are left out.  A read changes no register of a device.
-/

namespace SkyeyeStarlet

inductive BankKind where
  | ram
  | io
  | aliasOf (dest : ARMword)
  deriving DecidableEq, Repr

structure MappedBank where
  range : MemBank
  kind : BankKind
  deriving DecidableEq, Repr

/-- The machine behind the core, with the settings that stay as they are.  `ready` is what the
NAND chip reports, `otp` the words behind `io.otp`, and `stale` what the caller of a read has
in its variable. -/
structure ReadBoard where
  bigend : Bool
  isXScale : Bool
  banks : List MappedBank
  otp : ARMword → ARMword
  inserted : Bool
  ready : ARMword
  stale : ARMword

structure BoardMemory (Hash : Type) where
  mmu : MmuState
  machine : Machine (PlainIo Roms Hash)

section Reads

variable {Hash : Type} (board : ReadBoard) (machine : Machine (PlainIo Roms Hash))

/-- `io_read_byte` and its variants: the NAND controller has no routine for halfwords. -/
def ioRead (size : AccessSize) (addr : ARMword) : Option ARMword :=
  match size with
  | .byte =>
      match nandflashStarletReadWord machine board.ready addr with
      | some data => some (data &&& 0xff#32)
      | none => starletIoReadByte board.otp board.inserted machine addr
  | .halfword => starletIoReadHalfword board.otp board.inserted machine addr
  | .word =>
      match nandflashStarletReadWord machine board.ready addr with
      | some data => some data
      | none => starletIoReadWord board.otp board.inserted machine addr

/-- `mem_read_byte` and its variants.  An alias reads again at its destination; there is no
value when the emulator exits or aliases run in a circle. -/
def memRead : Nat → AccessSize → ARMword → Option ARMword
  | 0, _, _ => none
  | hops + 1, size, addr =>
      match board.banks.findIdx? fun bank => decide (bank.range.Covers addr) with
      | none => some 0#32
      | some index =>
          let bank := board.banks.getD index ⟨⟨0#32, 0#32⟩, .ram⟩
          match bank.kind with
          | .ram =>
              some
                (realRead board.bigend (machine.rest.other.guest index) bank.range.addr size addr)
          | .io => ioRead board machine size addr
          | .aliasOf dest => memRead hops size (addr - bank.range.addr + dest)

end Reads

inductive Route where
  | fault (fault : FaultT)
  | unwritten
  | memory (pa : ARMword)
  deriving DecidableEq, Repr

section Unit

variable {Hash : Type} (board : ReadBoard) (hops : Nat)

def boardWalk (mem : BoardMemory Hash) : WalkConfig :=
  { memReadWord := fun addr => (memRead board mem.machine hops .word addr).getD 0#32
    translationTableBase := mem.mmu.translationTableBase
    isXScale := board.isXScale }

/-- `arm926ejs_mmu_read` up to the read itself. -/
def dataRoute (size : AccessSize) (mode : ModeNum) (address : ARMword) (mem : BoardMemory Hash) :
    BoardMemory Hash × Route :=
  let realVa := mmuPidVaMap mem.mmu address
  let va := realVa &&& ~~~3#32
  if !mmuEnabled mem.mmu then (mem, .memory realVa)
  else if alignmentFails mem.mmu size realVa then (mem, .fault .alignmentFault)
  else
    let result := translate (boardWalk board hops mem) mem.mmu.mainTlb mem.mmu.lastDomain va
    let translated :=
      { mem with mmu := { mem.mmu with mainTlb := result.tlb, lastDomain := result.lastDomain } }
    match result.slot with
    | none => (translated, .fault result.fault)
    | some slot =>
        let entry := result.tlb.entrys slot
        let checked :=
          { translated with mmu := { translated.mmu with lastDomain := entry.domain } }
        match checkAccess mem.mmu mode va entry true with
        | .noFault =>
            let pa := tlbVaToPa entry va
            if flushWindow pa then (checked, .unwritten)
            else (checked, .memory (pa ||| lowBits size realVa))
        | fault => (checked, .fault fault)

/-- A read leaves `data` as it was where it does not write it. -/
def boardRead (size : AccessSize) (mode : ModeNum) (address : ARMword) (mem : BoardMemory Hash) :
    ReadResult (BoardMemory Hash) :=
  let (after, route) := dataRoute board hops size mode address mem
  match route with
  | .fault fault => { mem := after, fault, data := board.stale }
  | .unwritten => { mem := after, fault := .noFault, data := board.stale }
  | .memory pa =>
      { mem := after
        fault := .noFault
        data := (memRead board mem.machine hops size pa).getD 0#32 }

def boardBus (rest : Bus (BoardMemory Hash)) : Bus (BoardMemory Hash) :=
  { rest with read := boardRead board hops }

end Unit

inductive NarrowLoad where
  | ldrb
  | ldrh
  | ldrsb
  | ldrsh
  deriving DecidableEq, Repr

def NarrowLoad.size : NarrowLoad → AccessSize
  | .ldrb | .ldrsb => .byte
  | .ldrh | .ldrsh => .halfword

def NarrowLoad.signed : NarrowLoad → Bool
  | .ldrb | .ldrh => false
  | .ldrsb | .ldrsh => true

/-- The bits of an instruction word that select the load in its group. -/
def NarrowLoad.Encodes (load : NarrowLoad) (instr : ARMword) : Prop :=
  instr.getLsbD 20 = true ∧
    match load with
    | .ldrb => instr.getLsbD 22 = true
    | .ldrh => instr.getLsbD 6 = false ∧ instr.getLsbD 5 = true
    | .ldrsb => instr.getLsbD 6 = true ∧ instr.getLsbD 5 = false
    | .ldrsh => instr.getLsbD 6 = true ∧ instr.getLsbD 5 = true

section Loads

variable {Mem : Type} (bus : Bus Mem)

/-- `LoadByte` or `LoadHalfWord`. -/
def NarrowLoad.helper (load : NarrowLoad) (state : ARMulState Mem) (instr address : ARMword) :
    ARMulState Mem × Bool :=
  match load with
  | .ldrb => loadByte bus false state instr address
  | .ldrh => loadHalfWord bus false state instr address
  | .ldrsb => loadByte bus true state instr address
  | .ldrsh => loadHalfWord bus true state instr address

/-- The cases of the instruction switch: `0x40` to `0x7f` for unsigned bytes. -/
def NarrowLoad.execute (load : NarrowLoad) (state : ARMulState Mem) (instr : ARMword) :
    ARMulState Mem :=
  match load with
  | .ldrb => singleTransfer bus state instr
  | _ => halfTransfer bus state instr

def NarrowLoad.offset (load : NarrowLoad) : ARMulState Mem → ARMword → ARMword :=
  match load with
  | .ldrb => singleOffset
  | _ => getLS7RHS

def NarrowLoad.address (load : NarrowLoad) (state : ARMulState Mem) (instr : ARMword) : ARMword :=
  let lhs := lhsValue state instr
  if instr.getLsbD 24 then indexed load.offset state instr lhs else lhs

end Loads

end SkyeyeStarlet
