import SkyeyeStarlet.LoadsCore

/-!
Data writes of the core through every layer, beside the reads: `arm926ejs_mmu_write`, the banks
of `armmem.c`, the NAND controller and the machine.
-/

namespace SkyeyeStarlet

/-- The machine behind the core with its registers; `copies` is how the copies that a register
starts reach memory.  The banks are of whole words, outside the window that the unit only
flushes. -/
structure DataBoard (Hash : Type) extends ReadBoard where
  images : Images
  around : Surroundings Roms Hash
  devices : Board (PlainIo Roms Hash)
  copies : Store (PlainIo Roms Hash)
  aligned : ∀ bank ∈ banks, bank.range.addr &&& 3#32 = 0#32 ∧ bank.range.len &&& 3#32 = 0#32
  aliased : ∀ bank ∈ banks, ∀ dest, bank.kind = .aliasOf dest → dest &&& 3#32 = 0#32
  outside : ∀ bank ∈ banks, ∀ addr, bank.range.Covers addr → flushWindow addr = false

def storeWidth : AccessSize → CopyWidth
  | .byte => .byte
  | .halfword => .halfword
  | .word => .word

section Writes

variable {Hash : Type} (board : DataBoard Hash)

/-- `mem_write_byte` and its variants.  The emulator exits when a byte has no bank. -/
def memStore : Nat → AccessSize → Machine (PlainIo Roms Hash) → ARMword → ARMword →
    Machine (PlainIo Roms Hash)
  | 0, _, machine, _, _ => machine
  | hops + 1, size, machine, addr, data =>
      match board.banks.findIdx? fun bank => decide (bank.range.Covers addr) with
      | none => if size = .byte then machine.exit else machine
      | some index =>
          let bank := board.banks.getD index ⟨⟨0#32, 0#32⟩, .ram⟩
          match bank.kind with
          | .ram =>
              machine.onOther fun io =>
                { io with
                  guest := Function.update io.guest index
                    (realWrite board.bigend (io.guest index) bank.range.addr size addr data) }
          | .io =>
              ioWrite (registersBoard board.images board.around board.devices) board.copies
                (storeWidth size) machine addr data
          | .aliasOf dest => memStore hops size machine (addr - bank.range.addr + dest) data

variable (hops : Nat)

/-- `arm926ejs_mmu_write` up to the write itself. -/
def storeRoute (size : AccessSize) (mode : ModeNum) (address : ARMword)
    (mem : BoardMemory Hash) : BoardMemory Hash × Route :=
  let realVa := mmuPidVaMap mem.mmu address
  let va := realVa &&& ~~~3#32
  if !mmuEnabled mem.mmu then (mem, .memory realVa)
  else if alignmentFails mem.mmu size realVa then (mem, .fault .alignmentFault)
  else
    let result := translate (boardWalk board.toReadBoard hops mem) mem.mmu.mainTlb
      mem.mmu.lastDomain va
    let translated :=
      { mem with mmu := { mem.mmu with mainTlb := result.tlb, lastDomain := result.lastDomain } }
    match result.slot with
    | none => (translated, .fault result.fault)
    | some slot =>
        let entry := result.tlb.entrys slot
        let checked :=
          { translated with mmu := { translated.mmu with lastDomain := entry.domain } }
        match checkAccess mem.mmu mode va entry false with
        | .noFault => (checked, .memory (tlbVaToPa entry va ||| lowBits size realVa))
        | fault => (checked, .fault fault)

def boardWrite (size : AccessSize) (mode : ModeNum) (address data : ARMword)
    (mem : BoardMemory Hash) : WriteResult (BoardMemory Hash) :=
  let (after, route) := storeRoute board hops size mode address mem
  match route with
  | .fault fault => { mem := after, fault }
  | .unwritten => { mem := after, fault := .noFault }
  | .memory pa =>
      { mem := { after with machine := memStore board hops size mem.machine pa data }
        fault := .noFault }

def dataBus (rest : Bus (BoardMemory Hash)) : Bus (BoardMemory Hash) :=
  { boardBus board.toReadBoard hops rest with write := boardWrite board hops }

end Writes

end SkyeyeStarlet
