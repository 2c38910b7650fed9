import Mathlib.Tactic.IntervalCases
import SkyeyeStarlet.Ecc
import SkyeyeStarlet.InterruptLine
import SkyeyeStarlet.Nand

/-!
The pages of the flash as the guest sees them through the command register of the NAND
controller.  Between two commands the guest may do anything else, so each command comes with
the machine it finds, of which only the chip is carried over from the command before.
-/

namespace SkyeyeStarlet

open RangeUpdate

section Copies

variable (devices : Board Flash) (depth : Nat)

def flashStore : Store Flash :=
  memWrite (flashBoard devices) (depth + 1)

def Host.onMemory (machine : Machine Flash)
    (change : (ARMword → BitVec 8) → ARMword → BitVec 8) : Machine Flash :=
  machine.onOther fun flash => { flash with memory := change flash.memory }

@[simp] theorem onMemory_onMemory (machine : Machine Flash)
    (first second : (ARMword → BitVec 8) → ARMword → BitVec 8) :
    (machine.onMemory first).onMemory second = machine.onMemory fun memory =>
      second (first memory) := by
  rfl

@[simp] theorem onMemory_nand (machine : Machine Flash)
    (change : (ARMword → BitVec 8) → ARMword → BitVec 8) :
    (machine.onMemory change).rest.nand = machine.rest.nand := by
  rfl

theorem onMemory_memory (machine : Machine Flash)
    (change : (ARMword → BitVec 8) → ARMword → BitVec 8) :
    (machine.onMemory change).rest.other.memory = change machine.rest.other.memory := by
  rfl

theorem byteUnits_cons (byte : BitVec 8) (bytes : Bytes) :
    byteUnits (byte :: bytes) = byte.setWidth 32 :: byteUnits bytes := by
  rfl

theorem flashStore_byte (machine : Machine Flash) (addr : ARMword) (byte : BitVec 8) :
    flashStore devices depth .byte machine addr (byte.setWidth 32) =
      machine.onMemory fun memory => Function.update memory addr byte := by
  have low : (byte.setWidth 32).extractLsb' 0 8 = byte := by
    rw [BitVec.extractLsb'_setWidth_of_le (by decide)]
    exact BitVec.extractLsb'_eq_self
  show (machine.onMemory fun memory =>
    Function.update memory addr ((byte.setWidth 32).extractLsb' 0 8)) = _
  rw [low]

theorem host2arm_memory (bytes : Bytes) (dst : ARMword) (machine : Machine Flash) :
    starletHost2arm (flashStore devices depth) .byte (byteUnits bytes) dst machine =
      machine.onMemory fun memory =>
        updateRange memory dst (fun i _ => bytes.getD i 0#8) bytes.length := by
  induction bytes generalizing dst machine with
  | nil =>
      simp only [List.length_nil, updateRange_zero]
      rfl
  | cons byte bytes ih =>
      rw [byteUnits_cons, starletHost2arm, flashStore_byte, ih]
      simp only [List.length_cons, updateRange_cons]
      rfl

def eccByte (data : Nat → BitVec 8) (index : Nat) : BitVec 8 :=
  calcEcc (fun byte => data (512 * (index / 4) + byte.val))
    ⟨index % 4, Nat.mod_lt index (by decide)⟩

theorem eccByte_congr {data other : Nat → BitVec 8}
    (same : ∀ index, index < 0x800 → data index = other index) {index : Nat} (bound : index < 16) :
    eccByte data index = eccByte other index := by
  unfold eccByte
  congr 1
  funext byte
  have inside := byte.isLt
  exact same _ (by omega)

theorem bytesFrom_getD (source : Nat → BitVec 8) (first : Nat) {count index : Nat}
    (bound : index < count) :
    (bytesFrom source first count).getD index 0#8 = source (first + index) := by
  simp [bytesFrom, bound]

theorem nandEcc_memory (data : Bytes) (machine : Machine Flash) :
    nandEcc (flashBoard devices) (flashStore devices depth) data machine =
      machine.onMemory fun memory =>
        updateRange memory (machine.rest.nand.nfEcc ^^^ 0x40#32)
          (fun i _ => eccByte (fun i => data.getD i 0#8) i) 16 := by
  have blocks (count : Nat) (machine : Machine Flash) :
      (List.range count).foldl
        (fun machine index =>
          starletHost2arm (flashStore devices depth) .byte
            (byteUnits (bytesFrom ((flashBoard devices).calcEcc fun byte =>
              data.getD (512 * index + byte) 0#8) 0 4))
            ((machine.rest.nand.nfEcc ^^^ 0x40#32) + BitVec.ofNat 32 (4 * index)) machine)
        machine =
      machine.onMemory fun memory =>
        updateRange memory (machine.rest.nand.nfEcc ^^^ 0x40#32)
          (fun i _ => eccByte (fun i => data.getD i 0#8) i) (4 * count) := by
    induction count with
    | zero =>
        simp only [updateRange_zero, Nat.mul_zero]
        rfl
    | succ count ih =>
        rw [List.range_succ, List.foldl_append, ih, List.foldl_cons, List.foldl_nil,
          host2arm_memory, bytesFrom_length, Nat.mul_succ]
        simp only [onMemory_onMemory, onMemory_nand, updateRange_add]
        refine congrArg machine.onMemory (funext fun memory => ?_)
        refine updateRange_congr _ _ fun i bound old => ?_
        rw [bytesFrom_getD _ _ bound, Nat.zero_add, eccByte]
        have block : (4 * count + i) / 4 = count := by
          omega
        have byte : (4 * count + i) % 4 = i := by
          omega
        simp only [flashBoard, bound, dif_pos, block, byte]
  exact blocks 4 machine

end Copies

section Words

def nandWord (top : BitVec 3) (bitmask : BitVec 5) (command : BitVec 8) (flags : BitVec 4)
    (datasize : BitVec 12) : ARMword :=
  top ++ bitmask ++ command ++ flags ++ datasize

variable (top : BitVec 3) (bitmask : BitVec 5) (command : BitVec 8) (flags : BitVec 4)
  (datasize : BitVec 12)

theorem nandWord_bitmask :
    (nandWord top bitmask command flags datasize).extractLsb' 24 5 = bitmask := by
  ext i bound
  simp only [nandWord, BitVec.getElem_extractLsb']
  grind

theorem nandWord_command :
    (nandWord top bitmask command flags datasize).extractLsb' 16 8 = command := by
  ext i bound
  simp only [nandWord, BitVec.getElem_extractLsb']
  grind

theorem nandWord_flags :
    (nandWord top bitmask command flags datasize).extractLsb' 12 4 = flags := by
  ext i bound
  simp only [nandWord, BitVec.getElem_extractLsb']
  grind

theorem nandWord_datasize :
    (nandWord top bitmask command flags datasize &&& 0xfff#32).toNat = datasize.toNat := by
  have low : (nandWord top bitmask command flags datasize).setWidth 12 = datasize := by
    rw [nandWord, BitVec.setWidth_append]
    simp
  calc
    (nandWord top bitmask command flags datasize &&& 0xfff#32).toNat =
        (nandWord top bitmask command flags datasize).toNat % 2 ^ 12 := by
      rw [BitVec.toNat_and]
      exact Nat.and_two_pow_sub_one_eq_mod _ 12
    _ = datasize.toNat := by
      rw [← BitVec.toNat_setWidth, low]

def nandFlags (wait write read ecc : Bool) : BitVec 4 :=
  BitVec.ofBool wait ++ BitVec.ofBool write ++ BitVec.ofBool read ++ BitVec.ofBool ecc

theorem nandFlags_bits (wait write read ecc : Bool) :
    (nandFlags wait write read ecc).getLsbD 2 = write ∧
      (nandFlags wait write read ecc).getLsbD 1 = read ∧
      (nandFlags wait write read ecc).getLsbD 0 = ecc := by
  revert wait write read ecc
  decide

end Words

section Register

variable (devices : Board Flash) (depth : Nat)

def Host.withChip (machine : Machine Flash) (chip : NandChip) : Machine Flash :=
  machine.onOther fun flash => { flash with chip }

def Host.chip (machine : Machine Flash) : NandChip :=
  machine.rest.other.chip

def Host.memory (machine : Machine Flash) : ARMword → BitVec 8 :=
  machine.rest.other.memory

def commandWrite (chip : NandChip) (machine : Machine Flash) (word : ARMword) : Machine Flash :=
  ioWrite (flashBoard devices) (flashStore devices depth) .word (machine.withChip chip)
    0x0d010000#32 word

theorem commandWrite_rest (chip : NandChip) (machine : Machine Flash) {word : ARMword}
    (taken : word ≠ 0x7fffffff#32 ∧ word ≠ 0#32) :
    (commandWrite devices depth chip machine word).rest =
      (nandTransfer (flashBoard devices) (flashStore devices depth)
        (machine.withChip
          (chip.send (word.extractLsb' 16 8)
            (nandAddresses machine.rest.nand (word.extractLsb' 24 5))))
        (word &&& 0xfff#32).toNat (word.extractLsb' 12 4)).rest := by
  have accepted : ¬(word = 0x7fffffff#32 ∨ word = 0#32) := by
    rintro (rfl | rfl)
    · exact taken.1 rfl
    · exact taken.2 rfl
  show (nandCommand (flashBoard devices) (flashStore devices depth) (machine.withChip chip)
    word).rest = _
  rw [nandCommand, if_neg accepted]
  rfl

theorem readPage_chip (machine : Machine Flash) (datasize : Nat) (ecc : Bool) :
    (nandReadPage (flashBoard devices) (flashStore devices depth) machine datasize ecc).chip =
      machine.chip.afterReads datasize := by
  unfold nandReadPage
  dsimp only
  split
  · rw [host2arm_memory]
    rfl
  · split
    · rw [host2arm_memory, host2arm_memory]
      split
      · rw [nandEcc_memory]
        rfl
      · rfl
    · rfl

theorem writePage_chip (machine : Machine Flash) (datasize : Nat) (ecc : Bool) :
    ∃ data : Bytes,
      (nandWritePage (flashBoard devices) (flashStore devices depth) machine datasize ecc).chip =
        data.foldl NandChip.senddata machine.chip := by
  unfold nandWritePage
  dsimp only
  split
  · split
    · split
      · rw [nandEcc_memory]
        exact ⟨_, rfl⟩
      · exact ⟨[], rfl⟩
    · exact ⟨_, rfl⟩
  · exact ⟨[], rfl⟩

theorem AtRest.transfer {machine : Machine Flash} (rest : AtRest machine.chip) (datasize : Nat)
    (flags : BitVec 4) :
    AtRest (nandTransfer (flashBoard devices) (flashStore devices depth) machine datasize
      flags).chip := by
  have write {machine : Machine Flash} (rest : AtRest machine.chip) :
      AtRest (nandWritePage (flashBoard devices) (flashStore devices depth) machine datasize
        (flags.getLsbD 0)).chip := by
    obtain ⟨data, sent⟩ := writePage_chip devices depth machine datasize (flags.getLsbD 0)
    rw [sent]
    exact rest.program data
  have read : AtRest (nandReadPage (flashBoard devices) (flashStore devices depth) machine datasize
      (flags.getLsbD 0)).chip := by
    rw [readPage_chip]
    exact rest.afterReads datasize
  unfold nandTransfer
  dsimp only
  split_ifs
  · exact rest
  · exact write read
  · exact write rest
  · exact read
  · exact rest

theorem AtRest.commandWrite {chip : NandChip} (rest : AtRest chip) (machine : Machine Flash)
    (word : ARMword) : AtRest (commandWrite devices depth chip machine word).chip := by
  by_cases ignored : word = 0x7fffffff#32 ∨ word = 0#32
  · show AtRest (nandCommand (flashBoard devices) (flashStore devices depth)
      (machine.withChip chip) word).chip
    rw [nandCommand, if_pos ignored]
    exact rest
  · obtain ⟨marker, zero⟩ := not_or.mp ignored
    rw [Host.chip, commandWrite_rest devices depth chip machine ⟨marker, zero⟩]
    refine AtRest.transfer devices depth ?_ _ _
    exact rest.send _ _

/-- The chip after a history of words written to the command register, each by the machine of
its time. -/
def chipAfter (chip : NandChip) (history : List (Machine Flash × ARMword)) : NandChip :=
  history.foldl (fun chip write => (commandWrite devices depth chip write.1 write.2).chip) chip

theorem AtRest.chipAfter {chip : NandChip} (rest : AtRest chip)
    (history : List (Machine Flash × ARMword)) : AtRest (chipAfter devices depth chip history) := by
  induction history generalizing chip with
  | nil => exact rest
  | cons write history ih => exact ih (rest.commandWrite devices depth write.1 write.2)

end Register

section Orders

variable (devices : Board Flash) (depth : Nat)

def Host.row (machine : Machine Flash) : BitVec 32 :=
  rowAddress (machine.rest.nand.address ⟨2, by decide⟩) (machine.rest.nand.address ⟨3, by decide⟩)
    (machine.rest.nand.address ⟨4, by decide⟩)

def Host.column (machine : Machine Flash) : BitVec 16 :=
  columnAddress (machine.rest.nand.address ⟨0, by decide⟩)
    (machine.rest.nand.address ⟨1, by decide⟩)

theorem nandWord_taken {command : BitVec 8} {bitmask : BitVec 5} (known : command ≠ 0xff#8)
    (nonzero : command ≠ 0#8 ∨ bitmask ≠ 0#5) (top : BitVec 3) (flags : BitVec 4)
    (datasize : BitVec 12) :
    nandWord top bitmask command flags datasize ≠ 0x7fffffff#32 ∧
      nandWord top bitmask command flags datasize ≠ 0#32 := by
  constructor
  · intro marker
    apply known
    rw [← nandWord_command top bitmask command flags datasize, marker]
    decide
  · intro zero
    rcases nonzero with named | addressed
    · apply named
      rw [← nandWord_command top bitmask command flags datasize, zero]
      decide
    · apply addressed
      rw [← nandWord_bitmask top bitmask command flags datasize, zero]
      decide

structure Order (command : BitVec 8) (bitmask : BitVec 5) where
  machine : Machine Flash
  top : BitVec 3
  flags : BitVec 4

def Order.write {command : BitVec 8} {bitmask : BitVec 5} (order : Order command bitmask)
    (chip : NandChip) : Machine Flash :=
  commandWrite devices depth chip order.machine
    (nandWord order.top bitmask command order.flags 0#12)

theorem Order.write_chip {command : BitVec 8} {bitmask : BitVec 5} (order : Order command bitmask)
    (known : command ≠ 0xff#8) (nonzero : command ≠ 0#8 ∨ bitmask ≠ 0#5) (chip : NandChip) :
    (order.write devices depth chip).chip =
      chip.send command (nandAddresses order.machine.rest.nand bitmask) := by
  rw [Order.write, Host.chip,
    commandWrite_rest devices depth chip order.machine (nandWord_taken known nonzero _ _ _),
    nandWord_command, nandWord_bitmask, nandWord_datasize, nandTransfer, if_pos (by decide)]
  rfl

theorem addresses_none (nand : Nand) : nandAddresses nand 0x00#5 = [] := by
  rfl

theorem addresses_row (nand : Nand) :
    nandAddresses nand 0x1c#5 = [nand.address 2, nand.address 3, nand.address 4] := by
  rfl

theorem addresses_column (nand : Nand) :
    nandAddresses nand 0x03#5 = [nand.address 0, nand.address 1] := by
  rfl

theorem addresses_all (nand : Nand) :
    nandAddresses nand 0x1f#5 =
      [nand.address 0, nand.address 1, nand.address 2, nand.address 3, nand.address 4] := by
  rfl

end Orders

section Parts

variable (devices : Board Flash) (depth : Nat)

/-- The commands that take data: the start of a program, and random data in. -/
inductive DataIn where
  | seqin
  | rndin
  deriving DecidableEq

def DataIn.command : DataIn → BitVec 8
  | .seqin => 0x80#8
  | .rndin => 0x85#8

def DataIn.bitmask : DataIn → BitVec 5
  | .seqin => 0x1f#5
  | .rndin => 0x03#5

def Host.fetched (machine : Machine Flash) (index : Nat) : BitVec 8 :=
  if index < 0x800 then machine.memory (machine.rest.nand.nfData + BitVec.ofNat 32 index)
  else machine.memory (machine.rest.nand.nfEcc + BitVec.ofNat 32 (index - 0x800))

/-- A part of the page, sent from guest memory to its own column. -/
structure Part (data : Nat → BitVec 8) (kind : DataIn) where
  machine : Machine Flash
  top : BitVec 3
  wait : Bool
  ecc : Bool
  datasize : BitVec 12
  inside : machine.column.toNat + datasize.toNat ≤ 0x840
  whole : datasize.toNat ≤ 0x800 ∨ datasize.toNat = 0x840
  eccSize : ecc = true → datasize.toNat = 0x800
  holds : ∀ index, index < datasize.toNat →
    machine.fetched index = data (machine.column.toNat + index)

variable {data : Nat → BitVec 8} {kind : DataIn}

def Part.write (part : Part data kind) (chip : NandChip) : Machine Flash :=
  commandWrite devices depth chip part.machine
    (nandWord part.top kind.bitmask kind.command (nandFlags part.wait true false part.ecc)
      part.datasize)

def Part.bytes (part : Part data kind) : Bytes :=
  bytesFrom (fun index => data (part.machine.column.toNat + index)) 0 part.datasize.toNat

theorem Part.fetched_bytes (part : Part data kind) (chip : NandChip) :
    bytesFrom ((flashBoard devices).arm2host (part.machine.withChip chip)
        part.machine.rest.nand.nfData) 0 (min part.datasize.toNat 0x800) ++
      bytesFrom ((flashBoard devices).arm2host (part.machine.withChip chip)
        part.machine.rest.nand.nfEcc) 0 (part.datasize.toNat - 0x800) = part.bytes := by
  apply List.ext_getElem
  · rw [List.length_append, bytesFrom_length, bytesFrom_length, Part.bytes, bytesFrom_length]
    omega
  · intro index left right
    rw [Part.bytes, bytesFrom_length] at right
    have fetched := part.holds index right
    rw [Host.fetched] at fetched
    simp only [Part.bytes, bytesFrom, List.getElem_append, List.length_map, List.length_range,
      List.getElem_map, List.getElem_range, Nat.zero_add, ← fetched]
    by_cases main : index < 0x800
    · rw [dif_pos (by omega), if_pos main]
      rfl
    · have size : min part.datasize.toNat 0x800 = 0x800 := by
        omega
      rw [dif_neg (by omega), if_neg main, size]
      rfl

theorem DataIn.taken (kind : DataIn) (top : BitVec 3) (flags : BitVec 4) (datasize : BitVec 12) :
    nandWord top kind.bitmask kind.command flags datasize ≠ 0x7fffffff#32 ∧
      nandWord top kind.bitmask kind.command flags datasize ≠ 0#32 := by
  cases kind with
  | seqin => exact nandWord_taken (by decide) (Or.inl (by decide)) top flags datasize
  | rndin => exact nandWord_taken (by decide) (Or.inl (by decide)) top flags datasize

theorem Part.write_rest (part : Part data kind) (chip : NandChip) :
    (part.write devices depth chip).rest.other =
      { chip := part.bytes.foldl NandChip.senddata
          (chip.send kind.command (nandAddresses part.machine.rest.nand kind.bitmask))
        memory :=
          if part.ecc then
            updateRange part.machine.memory (part.machine.rest.nand.nfEcc ^^^ 0x40#32)
              (fun i _ => eccByte (fun i => part.bytes.getD i 0#8) i) 16
          else part.machine.memory } := by
  obtain ⟨write, read, ecc⟩ := nandFlags_bits part.wait true false part.ecc
  rw [Part.write, commandWrite_rest devices depth chip part.machine (kind.taken _ _ _),
    nandWord_command, nandWord_bitmask, nandWord_datasize, nandWord_flags, nandTransfer]
  dsimp only
  rw [write, read, ecc, if_neg Bool.false_ne_true, if_pos rfl]
  by_cases empty : part.datasize.toNat = 0
  · have plain : part.ecc = false := by
      by_contra flagged
      have size := part.eccSize (by simpa using flagged)
      omega
    have none : part.bytes = [] := by
      rw [Part.bytes, empty]
      rfl
    rw [if_pos empty, plain, none]
    rfl
  · rw [if_neg empty, nandWritePage]
    dsimp only
    rw [if_pos part.whole]
    have bytes := part.fetched_bytes devices
      (chip.send kind.command (nandAddresses part.machine.rest.nand kind.bitmask))
    simp only [Host.withChip, Host.onOther] at bytes ⊢
    rw [bytes]
    cases flagged : part.ecc with
    | true =>
        rw [if_pos rfl, if_pos rfl, if_pos (part.eccSize flagged), nandEcc_memory]
        rfl
    | false => rfl

theorem Part.write_chip (part : Part data kind) (chip : NandChip) :
    (part.write devices depth chip).chip =
      part.bytes.foldl NandChip.senddata
        (chip.send kind.command (nandAddresses part.machine.rest.nand kind.bitmask)) := by
  rw [Host.chip, part.write_rest devices depth chip]

def Part.Covers (part : Part data kind) (index : Nat) : Prop :=
  part.machine.column.toNat ≤ index ∧ index < part.machine.column.toNat + part.datasize.toNat

theorem Part.buffer (part : Part data kind) (buffer : BitVec 16 → BitVec 8) {index : Nat}
    (bound : index < 0x840) :
    (part.Covers index →
      updateRange buffer part.machine.column (fun i _ => part.bytes.getD i 0#8) part.bytes.length
        (BitVec.ofNat 16 index) = data index) ∧
    (¬part.Covers index →
      updateRange buffer part.machine.column (fun i _ => part.bytes.getD i 0#8) part.bytes.length
        (BitVec.ofNat 16 index) = buffer (BitVec.ofNat 16 index)) := by
  have inside := part.inside
  have length : part.bytes.length = part.datasize.toNat := bytesFrom_length _ _ _
  have offset : (BitVec.ofNat 16 index - part.machine.column).toNat =
      (65536 - part.machine.column.toNat + index) % 65536 := by
    rw [BitVec.toNat_sub, BitVec.toNat_ofNat]
    omega
  rw [updateRange_apply _ _ _ (by omega), length, offset]
  constructor
  · rintro ⟨lower, upper⟩
    have distance : (65536 - part.machine.column.toNat + index) % 65536 =
        index - part.machine.column.toNat := by
      omega
    rw [distance, if_pos (by omega), Part.bytes, bytesFrom_getD _ _ (by omega)]
    congr 1
    omega
  · intro outside
    rw [if_neg]
    intro reached
    apply outside
    constructor
    · omega
    · omega

end Parts

section Programs

variable (devices : Board Flash) (depth : Nat) {data : Nat → BitVec 8} {page : BitVec 32}
  {chip : NandChip}

theorem Part.opens (part : Part data .seqin) (rest : AtRest chip) :
    Programming part.machine.row (part.write devices depth chip).chip ∧
      (part.write devices depth chip).chip.addrspace = chip.addrspace ∧
      ∀ index, index < 0x840 → part.Covers index →
        (part.write devices depth chip).chip.writebuffer (BitVec.ofNat 16 index) = data index := by
  have opened := send_seqin rest.pins (part.machine.rest.nand.address 0)
    (part.machine.rest.nand.address 1) (part.machine.rest.nand.address 2)
    (part.machine.rest.nand.address 3) (part.machine.rest.nand.address 4)
  have programming : Programming part.machine.row
      (chip.send 0x80#8 (nandAddresses part.machine.rest.nand 0x1f#5)) := by
    refine ⟨rest.send _ _, ?_, ?_, ?_, ?_⟩
    · rw [addresses_all, opened]
      exact Or.inl rfl
    · rw [addresses_all, opened]
    · rw [addresses_all, opened]
    · rw [addresses_all, opened]
      rfl
  obtain ⟨after, space, buffer⟩ := programming.data part.bytes
  rw [part.write_chip]
  refine ⟨after, ?_, ?_⟩
  · exact space.trans (by rw [addresses_all, opened])
  · intro index bound covered
    refine (congrFun buffer _).trans ?_
    rw [addresses_all, opened]
    exact (part.buffer _ bound).1 covered

theorem Part.adds (part : Part data .rndin) (programming : Programming page chip) :
    Programming page (part.write devices depth chip).chip ∧
      (part.write devices depth chip).chip.addrspace = chip.addrspace ∧
      ∀ index, index < 0x840 →
        part.Covers index ∨ chip.writebuffer (BitVec.ofNat 16 index) = data index →
          (part.write devices depth chip).chip.writebuffer (BitVec.ofNat 16 index) =
            data index := by
  have opened := send_randin programming.rest.pins (part.machine.rest.nand.address 0)
    (part.machine.rest.nand.address 1)
  have ready : Programming page
      (chip.send 0x85#8 (nandAddresses part.machine.rest.nand 0x03#5)) := by
    refine ⟨programming.rest.send _ _, ?_, ?_, ?_, ?_⟩
    · rw [addresses_column, opened]
      exact Or.inr rfl
    · rw [addresses_column, opened]
    · rw [addresses_column, opened]
    · rw [addresses_column, opened]
      exact programming.pagenum
  obtain ⟨after, space, buffer⟩ := ready.data part.bytes
  rw [part.write_chip]
  refine ⟨after, ?_, ?_⟩
  · exact space.trans (by rw [addresses_column, opened])
  · intro index bound known
    refine (congrFun buffer _).trans ?_
    rw [addresses_column, opened]
    by_cases covered : part.Covers index
    · exact (part.buffer _ bound).1 covered
    · rcases known with covers | kept
      · exact absurd covers covered
      · exact ((part.buffer _ bound).2 covered).trans kept

def addParts (chip : NandChip) (parts : List (Part data .rndin)) : NandChip :=
  parts.foldl (fun chip part => (part.write devices depth chip).chip) chip

theorem addParts_fill (programming : Programming page chip) (parts : List (Part data .rndin)) :
    Programming page (addParts devices depth chip parts) ∧
      (addParts devices depth chip parts).addrspace = chip.addrspace ∧
      ∀ index, index < 0x840 →
        (chip.writebuffer (BitVec.ofNat 16 index) = data index ∨
          ∃ part, part ∈ parts ∧ part.Covers index) →
        (addParts devices depth chip parts).writebuffer (BitVec.ofNat 16 index) = data index := by
  induction parts generalizing chip with
  | nil =>
      refine ⟨programming, rfl, ?_⟩
      rintro index bound (kept | ⟨part, member, _⟩)
      · exact kept
      · exact absurd member List.not_mem_nil
  | cons part parts ih =>
      obtain ⟨next, space, buffer⟩ := part.adds devices depth programming
      obtain ⟨after, spaces, buffers⟩ := ih next
      refine ⟨after, spaces.trans space, ?_⟩
      rintro index bound (kept | ⟨other, member, covered⟩)
      · exact buffers index bound (Or.inl (buffer index bound (Or.inr kept)))
      · rcases List.mem_cons.mp member with rfl | later
        · exact buffers index bound (Or.inl (buffer index bound (Or.inl covered)))
        · exact buffers index bound (Or.inr ⟨other, later, covered⟩)

/-- A page program: every byte of the page is in some part. -/
structure Program (page : BitVec 32) (data : Nat → BitVec 8) where
  first : Part data .seqin
  row : first.machine.row = page
  others : List (Part data .rndin)
  covers : ∀ index, index < 0x840 →
    first.Covers index ∨ ∃ part, part ∈ others ∧ part.Covers index
  finish : Order 0x10#8 0x00#5

def Program.fill (program : Program page data) (chip : NandChip) : NandChip :=
  addParts devices depth (program.first.write devices depth chip).chip program.others

def Program.run (program : Program page data) (chip : NandChip) : NandChip :=
  (program.finish.write devices depth (program.fill devices depth chip)).chip

theorem Program.fill_buffer (program : Program page data) (rest : AtRest chip) :
    Programming page (program.fill devices depth chip) ∧
      (program.fill devices depth chip).addrspace = chip.addrspace ∧
      ∀ index, index < 0x840 →
        (program.fill devices depth chip).writebuffer (BitVec.ofNat 16 index) = data index := by
  obtain ⟨opened, space, buffer⟩ := program.first.opens devices depth rest
  rw [program.row] at opened
  obtain ⟨filled, spaces, buffers⟩ := addParts_fill devices depth opened program.others
  refine ⟨filled, spaces.trans space, ?_⟩
  intro index bound
  rcases program.covers index bound with covered | ⟨part, member, covered⟩
  · exact buffers index bound (Or.inl (buffer index bound covered))
  · exact buffers index bound (Or.inr ⟨part, member, covered⟩)

theorem format_wide : (0x840#16 : BitVec 16).setWidth 32 = 0x840#32 := by
  decide

theorem Program.run_chip (program : Program page data) (rest : AtRest chip) :
    AtRest (program.run devices depth chip) ∧
      (program.run devices depth chip).addrspace =
        updateRange chip.addrspace (page * 0x840#32) (fun i old => old &&& data i) 0x840 := by
  obtain ⟨filled, space, buffer⟩ := program.fill_buffer devices depth rest
  refine ⟨filled.rest.commandWrite devices depth _ _, ?_⟩
  rw [Program.run, Order.write_chip devices depth _ (by decide) (Or.inl (by decide)),
    addresses_none, send_pageprog filled.rest.pins filled.cmd filled.finished]
  dsimp only
  rw [space, filled.pagenum, filled.rest.format, format_wide]
  refine updateRange_congr _ _ fun i bound old => ?_
  rw [buffer i bound]

/-- An erase of the block that a page is in. -/
structure Erase (page : BitVec 32) where
  prepare : Order 0x60#8 0x1c#5
  block : prepare.machine.row &&& ~~~0x3f#32 = page &&& ~~~0x3f#32
  confirm : Order 0xd0#8 0x00#5

def Erase.run (erase : Erase page) (chip : NandChip) : NandChip :=
  (erase.confirm.write devices depth (erase.prepare.write devices depth chip).chip).chip

theorem Erase.run_chip (erase : Erase page) (rest : AtRest chip) :
    AtRest (erase.run devices depth chip) ∧
      (erase.run devices depth chip).addrspace =
        updateRange chip.addrspace ((page &&& ~~~0x3f#32) * 0x840#32) (fun _ _ => 0xff#8)
          erasesize := by
  have prepared :=
    Order.write_chip devices depth erase.prepare (by decide) (Or.inl (by decide)) chip
  rw [addresses_row, send_erase1 rest.pins] at prepared
  refine ⟨(rest.commandWrite devices depth _ _).commandWrite devices depth _ _, ?_⟩
  have block : rowAddress (erase.prepare.machine.rest.nand.address 2)
      (erase.prepare.machine.rest.nand.address 3) (erase.prepare.machine.rest.nand.address 4) &&&
      ~~~0x3f#32 = page &&& ~~~0x3f#32 := erase.block
  rw [Erase.run, Order.write_chip devices depth _ (by decide) (Or.inl (by decide)), addresses_none,
    prepared, send_erase2 (by exact rest.pins) rfl rfl]
  dsimp only
  rw [block, rest.format, format_wide]

end Programs

section Reads

variable (devices : Board Flash) (depth : Nat) {page : BitVec 32} {chip : NandChip}

/-- A read of a whole page. -/
structure PageRead (page : BitVec 32) where
  prepare : Order 0x00#8 0x1f#5
  row : prepare.machine.row = page
  column : prepare.machine.column = 0#16
  machine : Machine Flash
  top : BitVec 3
  wait : Bool
  ecc : Bool

def PageRead.run (read : PageRead page) (chip : NandChip) : Machine Flash :=
  commandWrite devices depth (read.prepare.write devices depth chip).chip read.machine
    (nandWord read.top 0x00#5 0x30#8 (nandFlags read.wait false true read.ecc) 0x840#12)

theorem PageRead.reading (read : PageRead page) (rest : AtRest chip) :
    PageReading page 0 ((read.prepare.write devices depth chip).chip.send 0x30#8 []) ∧
      ((read.prepare.write devices depth chip).chip.send 0x30#8 []).addrspace = chip.addrspace := by
  have prepared := Order.write_chip devices depth read.prepare (by decide) (Or.inr (by decide)) chip
  rw [addresses_all, send_read0 rest.pins] at prepared
  have row := read.row
  have column := read.column
  rw [Host.row] at row
  rw [Host.column] at column
  rw [prepared, send_read0b (by exact rest.pins)]
  exact ⟨⟨⟨rest.pins, rest.format⟩, rfl, row, column⟩, rfl⟩

theorem nandRead_nand (machine : Machine Flash) (chip : NandChip) (count : Nat) :
    ((machine.withChip chip).onOther fun other =>
      (flashBoard devices).nandRead other count).rest.nand = machine.rest.nand := by
  rfl

theorem nandRead_memory (machine : Machine Flash) (chip : NandChip) (count : Nat) :
    ((machine.withChip chip).onOther fun other =>
      (flashBoard devices).nandRead other count).rest.other.memory = machine.memory := by
  rfl

/-- The page goes to the data buffer and its last `0x40` bytes to the spare buffer, followed by
the check bytes when they are asked for. -/
theorem PageRead.run_memory (read : PageRead page) (rest : AtRest chip)
    (bound : page.toNat < pageCount) :
    (read.run devices depth chip).memory =
      let nand := read.machine.rest.nand
      let main := updateRange read.machine.memory nand.nfData
        (fun i _ => chip.addrspace (pageCell page i)) 0x800
      let spare := updateRange main nand.nfEcc
        (fun i _ => chip.addrspace (pageCell page (0x800 + i))) 0x40
      if read.ecc then
        updateRange spare (nand.nfEcc ^^^ 0x40#32)
          (fun i _ => eccByte (fun i => chip.addrspace (pageCell page i)) i) 16
      else spare := by
  obtain ⟨reading, space⟩ := read.reading devices depth rest
  obtain ⟨write, fetch, ecc⟩ := nandFlags_bits read.wait false true read.ecc
  have byte (index : Nat) (inside : index < 0x840) :
      (((read.prepare.write devices depth chip).chip.send 0x30#8 []).afterReads index).readdata.1 =
        chip.addrspace (pageCell page index) := by
    rw [reading.byte bound inside, space]
  have size : (0x840#12 : BitVec 12).toNat = 0x840 := by
    decide
  rw [PageRead.run, Host.memory, commandWrite_rest devices depth _ _
      (nandWord_taken (by decide) (Or.inl (by decide)) _ _ _),
    nandWord_command, nandWord_bitmask, nandWord_datasize, nandWord_flags, nandTransfer]
  dsimp only
  rw [write, fetch, ecc, size, if_neg (by decide), if_pos rfl, if_neg Bool.false_ne_true,
    addresses_none, nandReadPage]
  dsimp only
  rw [if_neg (by decide), if_pos rfl, host2arm_memory, host2arm_memory]
  generalize shown : bytesFrom ((flashBoard devices).nandData
    (Host.withChip read.machine
      ((read.prepare.write devices depth chip).chip.send 0x30#8 [])).rest.other) 0 0x840 = bytes
  have length : bytes.length = 0x840 := by
    rw [← shown, bytesFrom_length]
  have content (index : Nat) (inside : index < 0x840) :
      bytes.getD index 0#8 = chip.addrspace (pageCell page index) := by
    rw [← shown, bytesFrom_getD _ _ inside, Nat.zero_add]
    exact byte index inside
  have main (memory : ARMword → BitVec 8) (dst : ARMword) :
      updateRange memory dst (fun i _ => (bytes.take 0x800).getD i 0#8) (bytes.take 0x800).length =
        updateRange memory dst (fun i _ => chip.addrspace (pageCell page i)) 0x800 := by
    rw [List.length_take, length]
    refine updateRange_congr _ _ fun i inside old => ?_
    rw [← content i (by omega)]
    simp only [List.getD_eq_getElem?_getD, List.getElem?_take]
    rw [if_pos (by omega)]
  have spare (memory : ARMword → BitVec 8) (dst : ARMword) :
      updateRange memory dst (fun i _ => (bytes.drop 0x800).getD i 0#8) (bytes.drop 0x800).length =
        updateRange memory dst (fun i _ => chip.addrspace (pageCell page (0x800 + i))) 0x40 := by
    rw [List.length_drop, length]
    refine updateRange_congr _ _ fun i inside old => ?_
    rw [← content (0x800 + i) (by omega)]
    simp only [List.getD_eq_getElem?_getD, List.getElem?_drop]
  cases flagged : read.ecc with
  | false =>
      rw [if_neg Bool.false_ne_true, if_neg Bool.false_ne_true]
      simp only [onMemory_onMemory, onMemory_nand, onMemory_memory, main, spare, nandRead_nand,
        nandRead_memory]
  | true =>
      rw [if_pos rfl, if_pos rfl, nandEcc_memory]
      simp only [onMemory_onMemory, onMemory_nand, onMemory_memory, main, spare, nandRead_nand,
        nandRead_memory]
      refine updateRange_congr _ _ fun i inside old => ?_
      exact eccByte_congr (fun index inside => content index (by omega)) inside

end Reads

section Cells

variable {page other : BitVec 32} {index : Nat}

theorem sub_toNat (cell base : BitVec 32) :
    (base.toNat ≤ cell.toNat ∧ (cell - base).toNat = cell.toNat - base.toNat) ∨
      (cell.toNat < base.toNat ∧ (cell - base).toNat + base.toNat = 2 ^ 32 + cell.toNat) := by
  rcases Nat.lt_or_ge cell.toNat base.toNat with below | above
  · refine Or.inr ⟨below, ?_⟩
    rw [BitVec.toNat_sub]
    omega
  · exact Or.inl ⟨above, BitVec.toNat_sub_of_le above⟩

theorem block_toNat (page : BitVec 32) : (page &&& ~~~0x3f#32).toNat = page.toNat / 64 * 64 := by
  have shifted : page &&& ~~~0x3f#32 = (page >>> 6) <<< 6 := by
    ext i bound
    interval_cases i
    all_goals simp
  rw [shifted, BitVec.toNat_shiftLeft, BitVec.toNat_ushiftRight, Nat.shiftLeft_eq,
    Nat.shiftRight_eq_div_pow]
  omega

theorem programmed_offset (page : BitVec 32) (inside : index < 0x840) :
    (pageCell page index - page * 0x840#32).toNat = index := by
  rw [sub_eq_iff _ _ (by omega)]
  rfl

theorem outside_program (bound : page.toNat < pageCount) (otherBound : other.toNat < pageCount)
    (inside : index < 0x840) (different : other ≠ page) :
    ¬(pageCell other index - page * 0x840#32).toNat < 0x840 := by
  have cell := pageCell_toNat otherBound inside
  have base := pageCell_toNat bound (show 0 < 0x840 by omega)
  have zero : pageCell page 0 = page * 0x840#32 := by
    exact BitVec.add_zero _
  rw [zero] at base
  have apart : other.toNat ≠ page.toNat := fun same => different (BitVec.eq_of_toNat_eq same)
  unfold pageCount at bound otherBound
  rcases sub_toNat (pageCell other index) (page * 0x840#32) with ⟨_, offset⟩ | ⟨_, offset⟩
  · omega
  · omega

theorem erased_offset (bound : page.toNat < pageCount) (otherBound : other.toNat < pageCount)
    (inside : index < 0x840) :
    (pageCell other index - (page &&& ~~~0x3f#32) * 0x840#32).toNat < erasesize ↔
      other.toNat / 64 = page.toNat / 64 := by
  have cell := pageCell_toNat otherBound inside
  have base : ((page &&& ~~~0x3f#32) * 0x840#32).toNat = page.toNat / 64 * 64 * 0x840 := by
    unfold pageCount at bound
    rw [BitVec.toNat_mul, block_toNat, BitVec.toNat_ofNat]
    omega
  have size : erasesize = 135168 := by
    decide
  unfold pageCount at bound otherBound
  rcases sub_toNat (pageCell other index) ((page &&& ~~~0x3f#32) * 0x840#32) with
    ⟨_, offset⟩ | ⟨_, offset⟩
  · omega
  · omega

end Cells
section RoundTrip

variable (devices : Board Flash) (depth : Nat) {data : Nat → BitVec 8} {page other : BitVec 32}
  {chip : NandChip} {index : Nat}

theorem Program.run_page (program : Program page data) (rest : AtRest chip)
    (inside : index < 0x840) :
    (program.run devices depth chip).addrspace (pageCell page index) =
      chip.addrspace (pageCell page index) &&& data index := by
  have offset := programmed_offset page inside
  rw [(program.run_chip devices depth rest).2, updateRange_apply _ _ _ (by decide), offset,
    if_pos inside]

theorem Program.run_other (program : Program page data) (rest : AtRest chip)
    (bound : page.toNat < pageCount) (otherBound : other.toNat < pageCount)
    (different : other ≠ page) (inside : index < 0x840) :
    (program.run devices depth chip).addrspace (pageCell other index) =
      chip.addrspace (pageCell other index) := by
  rw [(program.run_chip devices depth rest).2, updateRange_apply _ _ _ (by decide),
    if_neg (outside_program bound otherBound inside different)]

theorem Erase.run_cell (erase : Erase page) (rest : AtRest chip) (bound : page.toNat < pageCount)
    (otherBound : other.toNat < pageCount) (inside : index < 0x840) :
    (erase.run devices depth chip).addrspace (pageCell other index) =
      if other.toNat / 64 = page.toNat / 64 then 0xff#8
      else chip.addrspace (pageCell other index) := by
  rw [(erase.run_chip devices depth rest).2, updateRange_apply _ _ _ (by decide)]
  simp only [erased_offset bound otherBound inside]

theorem programmed_page (erase : Erase page) (program : Program page data) (rest : AtRest chip)
    (bound : page.toNat < pageCount) (inside : index < 0x840) :
    (program.run devices depth (erase.run devices depth chip)).addrspace (pageCell page index) =
      data index := by
  rw [program.run_page devices depth (erase.run_chip devices depth rest).1 inside,
    erase.run_cell devices depth rest bound bound inside, if_pos rfl]
  exact BitVec.allOnes_and

theorem copied_byte (memory : ARMword → BitVec 8) (dst : ARMword) (bytes : Nat → BitVec 8)
    {count : Nat} (short : count ≤ 0x840) (inside : index < count) :
    updateRange memory dst (fun i _ => bytes i) count (dst + BitVec.ofNat 32 index) =
      bytes index := by
  have offset : (dst + BitVec.ofNat 32 index - dst).toNat = index := by
    rw [sub_eq_iff _ _ (by omega)]
  rw [updateRange_apply _ _ _ (by omega), offset, if_pos inside]

theorem uncopied_byte (memory : ARMword → BitVec 8) (dst cell : ARMword) (bytes : Nat → BitVec 8)
    {count : Nat} (short : count ≤ 0x840) (outside : ¬(cell - dst).toNat < count) :
    updateRange memory dst (fun i _ => bytes i) count cell = memory cell := by
  rw [updateRange_apply _ _ _ (by omega), if_neg outside]

theorem xor_eq_add {word mask : BitVec 32} (clear : word &&& mask = 0#32) :
    word ^^^ mask = word + mask := by
  rw [BitVec.add_eq_or_of_and_eq_zero _ _ clear]
  apply BitVec.eq_of_getLsbD_eq
  intro i bound
  have bit := congrArg (fun bits => bits.getLsbD i) clear
  simp only [BitVec.getLsbD_and, BitVec.getLsbD_zero] at bit
  simp only [BitVec.getLsbD_xor, BitVec.getLsbD_or]
  revert bit
  cases word.getLsbD i
  all_goals cases mask.getLsbD i
  all_goals simp

theorem xor_bit_cases (word : BitVec 32) :
    word ^^^ 0x40#32 = word + 0x40#32 ∨ word = (word ^^^ 0x40#32) + 0x40#32 := by
  have masked (word : BitVec 32) (clear : word.getLsbD 6 = false) : word &&& 0x40#32 = 0#32 := by
    exact (BitVec.and_twoPow word 6).trans (by rw [clear]; rfl)
  cases raised : word.getLsbD 6 with
  | false => exact Or.inl (xor_eq_add (masked word raised))
  | true =>
      have clear : (word ^^^ 0x40#32).getLsbD 6 = false := by
        rw [BitVec.getLsbD_xor, raised]
        decide
      right
      rw [← xor_eq_add (masked _ clear), BitVec.xor_assoc, BitVec.xor_self, BitVec.xor_zero]

theorem spare_beside_ecc (base : ARMword) (inside : index < 0x40) :
    ¬(base + BitVec.ofNat 32 index - (base ^^^ 0x40#32)).toNat < 16 := by
  have small : (BitVec.ofNat 32 index).toNat = index := by
    rw [BitVec.toNat_ofNat]
    omega
  rcases xor_bit_cases base with above | below
  · have distance : base + BitVec.ofNat 32 index - (base + 0x40#32) =
        BitVec.ofNat 32 index - 0x40#32 := by
      bv_omega
    rw [above, distance]
    bv_omega
  · generalize base ^^^ 0x40#32 = low at below
    have distance : base + BitVec.ofNat 32 index - low = BitVec.ofNat 32 index + 0x40#32 := by
      bv_omega
    rw [distance]
    bv_omega

variable (read : PageRead page)

theorem PageRead.run_chip (rest : AtRest chip) :
    (read.run devices depth chip).chip.addrspace = chip.addrspace := by
  obtain ⟨reading, space⟩ := read.reading devices depth rest
  obtain ⟨write, fetch, _⟩ := nandFlags_bits read.wait false true read.ecc
  have size : (0x840#12 : BitVec 12).toNat = 0x840 := by
    decide
  rw [PageRead.run, Host.chip, commandWrite_rest devices depth _ _
      (nandWord_taken (by decide) (Or.inl (by decide)) _ _ _),
    nandWord_command, nandWord_bitmask, nandWord_datasize, nandWord_flags, nandTransfer]
  dsimp only
  rw [write, fetch, size, if_neg (by decide), if_pos rfl, if_neg Bool.false_ne_true,
    addresses_none, ← Host.chip, readPage_chip]
  exact (afterReads_addrspace reading.rest _).trans space

/-- The later copies of a read write to a cell. -/
def PageRead.Overwrites (cell : ARMword) : Prop :=
  (cell - read.machine.rest.nand.nfEcc).toNat < 0x40 ∨
    (read.ecc = true ∧ (cell - (read.machine.rest.nand.nfEcc ^^^ 0x40#32)).toNat < 16)

theorem PageRead.run_main (rest : AtRest chip) (bound : page.toNat < pageCount)
    (inside : index < 0x800)
    (kept : ¬read.Overwrites (read.machine.rest.nand.nfData + BitVec.ofNat 32 index)) :
    (read.run devices depth chip).memory
        (read.machine.rest.nand.nfData + BitVec.ofNat 32 index) =
      chip.addrspace (pageCell page index) := by
  obtain ⟨offSpare, offEcc⟩ := not_or.mp kept
  rw [read.run_memory devices depth rest bound]
  dsimp only
  split
  · next flagged =>
      rw [uncopied_byte _ _ _ _ (by omega) fun covered => offEcc ⟨flagged, covered⟩,
        uncopied_byte _ _ _ _ (by omega) offSpare, copied_byte _ _ _ (by omega) inside]
  · rw [uncopied_byte _ _ _ _ (by omega) offSpare, copied_byte _ _ _ (by omega) inside]

theorem PageRead.run_spare (rest : AtRest chip) (bound : page.toNat < pageCount)
    (inside : index < 0x40) :
    (read.run devices depth chip).memory (read.machine.rest.nand.nfEcc + BitVec.ofNat 32 index) =
      chip.addrspace (pageCell page (0x800 + index)) := by
  rw [read.run_memory devices depth rest bound]
  dsimp only
  split
  · rw [uncopied_byte _ _ _ _ (by omega) (spare_beside_ecc _ inside),
      copied_byte _ _ (fun i => chip.addrspace (pageCell page (0x800 + i))) (by omega) inside]
  · rw [copied_byte _ _ (fun i => chip.addrspace (pageCell page (0x800 + i))) (by omega) inside]

theorem PageRead.run_ecc (rest : AtRest chip) (bound : page.toNat < pageCount)
    (flagged : read.ecc = true) (inside : index < 16) :
    (read.run devices depth chip).memory
        ((read.machine.rest.nand.nfEcc ^^^ 0x40#32) + BitVec.ofNat 32 index) =
      eccByte (fun i => chip.addrspace (pageCell page i)) index := by
  rw [read.run_memory devices depth rest bound]
  dsimp only
  rw [if_pos flagged, copied_byte _ _ _ (by omega) inside]

theorem Part.write_ecc {kind : DataIn} (part : Part data kind) (chip : NandChip)
    (flagged : part.ecc = true) (first : part.machine.column = 0#16) (inside : index < 16) :
    (part.write devices depth chip).memory
        ((part.machine.rest.nand.nfEcc ^^^ 0x40#32) + BitVec.ofNat 32 index) =
      eccByte data index := by
  rw [Host.memory, part.write_rest devices depth chip]
  dsimp only
  rw [if_pos flagged, copied_byte _ _ _ (by omega) inside]
  have size := part.eccSize flagged
  refine eccByte_congr (fun index inside => ?_) inside
  rw [Part.bytes, bytesFrom_getD _ _ (by omega), first]
  congr 1
  exact (Nat.zero_add _).trans (Nat.zero_add _)

/-- A page that is erased with its block, programmed in any parts and read is in guest memory
again, except where the copies of one read overlap.  The check bytes of the read are those of
the write.  Pages outside the block keep their contents, and without the erase the program
only clears bits. -/
theorem nand_page_round_trip (dump : BitVec 32 → BitVec 8)
    (history : List (Machine Flash × ARMword)) (page : Fin pageCount) (data : Nat → BitVec 8)
    (erase : Erase (BitVec.ofNat 32 page)) (program : Program (BitVec.ofNat 32 page) data)
    (read : PageRead (BitVec.ofNat 32 page)) :
    let start := chipAfter devices depth (NandChip.installed dump) history
    let programmed := program.run devices depth (erase.run devices depth start)
    let after := read.run devices depth programmed
    let nand := read.machine.rest.nand
    (∀ index, index < 0x800 →
      ¬read.Overwrites (nand.nfData + BitVec.ofNat 32 index) →
        after.memory (nand.nfData + BitVec.ofNat 32 index) = data index) ∧
    (∀ index, index < 0x40 →
      after.memory (nand.nfEcc + BitVec.ofNat 32 index) = data (0x800 + index)) ∧
    (∀ {kind : DataIn} (part : Part data kind) (chip : NandChip), part.ecc = true →
      part.machine.column = 0#16 → read.ecc = true → ∀ index, index < 16 →
        after.memory ((nand.nfEcc ^^^ 0x40#32) + BitVec.ofNat 32 index) =
          (part.write devices depth chip).memory
            ((part.machine.rest.nand.nfEcc ^^^ 0x40#32) + BitVec.ofNat 32 index)) ∧
    (∀ other : Fin pageCount, other.val / 64 ≠ page.val / 64 → ∀ index, index < 0x840 →
      after.chip.addrspace (pageCell (BitVec.ofNat 32 other) index) =
        start.addrspace (pageCell (BitVec.ofNat 32 other) index)) ∧
    (∀ index, index < 0x840 →
      (program.run devices depth start).addrspace (pageCell (BitVec.ofNat 32 page) index) =
        start.addrspace (pageCell (BitVec.ofNat 32 page) index) &&& data index) := by
  have number (page : Fin pageCount) : (BitVec.ofNat 32 page.val).toNat = page.val := by
    have bound := page.isLt
    unfold pageCount at bound
    rw [BitVec.toNat_ofNat]
    omega
  have bound (page : Fin pageCount) : (BitVec.ofNat 32 page.val).toNat < pageCount := by
    rw [number page]
    exact page.isLt
  dsimp only
  have rest := (atRest_installed dump).chipAfter devices depth history
  generalize chipAfter devices depth (NandChip.installed dump) history = start at rest
  have erased := (erase.run_chip devices depth rest).1
  have ready := (program.run_chip devices depth erased).1
  have stored (index : Nat) (inside : index < 0x840) :=
    programmed_page devices depth erase program rest (bound page) inside
  refine ⟨?_, ?_, ?_, ?_, ?_⟩
  · intro index inside kept
    rw [read.run_main devices depth ready (bound page) inside kept, stored index (by omega)]
  · intro index inside
    rw [read.run_spare devices depth ready (bound page) inside, stored _ (by omega)]
  · intro kind part chip partFlagged first flagged index inside
    rw [read.run_ecc devices depth ready (bound page) flagged inside,
      part.write_ecc devices depth chip partFlagged first inside]
    exact eccByte_congr (fun index inside => stored index (by omega)) inside
  · intro other apart index inside
    have different : BitVec.ofNat 32 other.val ≠ BitVec.ofNat 32 page.val := by
      intro same
      apply apart
      rw [← number other, ← number page, same]
    rw [read.run_chip devices depth ready,
      program.run_other devices depth erased (bound page) (bound other) different inside,
      erase.run_cell devices depth rest (bound page) (bound other) inside, if_neg]
    rw [number, number]
    exact apart
  · intro index inside
    exact program.run_page devices depth rest inside

end RoundTrip

section Overlap

def flashMachine (nfData nfEcc : ARMword) (memory : ARMword → BitVec 8) : Machine Flash :=
  { resetMachine with
    rest :=
      { resetMachine.rest with
        nand := { resetMachine.rest.nand with nfData, nfEcc }
        other := { chip := NandChip.installed fun _ => 0xff#8, memory } } }

def flashDevices : Board Flash :=
  { starletBoard with
    memWrite := fun _ flash _ _ => flash
    plainWrite := fun _ flash _ _ => flash
    arm2host := fun _ _ _ => 0#8
    sha1Input := fun flash digest _ => (flash, digest)
    nandSend := fun flash _ _ => flash
    nandData := fun _ _ => 0#8
    nandRead := fun flash _ => flash
    nandProgram := fun flash _ => flash }

def pageData (index : Nat) : BitVec 8 :=
  if index < 0x200 then 0#8 else 0xff#8

def pageMachine : Machine Flash :=
  flashMachine 0#32 0x800#32 fun addr => pageData addr.toNat

def firstErase : Erase 0#32 :=
  { prepare := { machine := pageMachine, top := 0#3, flags := 0#4 }
    block := rfl
    confirm := { machine := pageMachine, top := 0#3, flags := 0#4 } }

def firstPart : Part pageData .seqin :=
  { machine := pageMachine
    top := 0#3
    wait := false
    ecc := false
    datasize := 0x840#12
    inside := by decide
    whole := by decide
    eccSize := by decide
    holds := by
      intro index bound
      have low : index < 0x840 := bound
      have zero : pageMachine.column.toNat = 0 := by
        decide
      have memory (addr : ARMword) : pageMachine.memory addr = pageData addr.toNat := rfl
      have main : pageMachine.rest.nand.nfData = 0#32 := rfl
      have spare : pageMachine.rest.nand.nfEcc = 0x800#32 := rfl
      simp only [zero, Nat.zero_add, Host.fetched, memory, main, spare, BitVec.toNat_add,
        BitVec.toNat_ofNat]
      split
      · refine congrArg pageData ?_
        omega
      · refine congrArg pageData ?_
        omega }

def firstProgram : Program 0#32 pageData :=
  { first := firstPart
    row := rfl
    others := []
    covers := by
      intro index bound
      refine Or.inl ⟨Nat.zero_le _, ?_⟩
      exact bound
    finish := { machine := pageMachine, top := 0#3, flags := 0#4 } }

def Host.addressing (machine : Machine Flash) (column : BitVec 16) (row : BitVec 8) :
    Machine Flash :=
  machine.onNand fun nand =>
    { nand with
      address := fun index =>
        match index.val with
        | 0 => column.extractLsb' 0 8
        | 1 => column.extractLsb' 8 8
        | 2 => row
        | _ => 0#8 }

def secondErase : Erase 65#32 :=
  { prepare := { machine := pageMachine.addressing 0#16 0x7f#8, top := 0#3, flags := 0#4 }
    block := rfl
    confirm := { machine := pageMachine, top := 0#3, flags := 0#4 } }

def dataPart : Part pageData .seqin :=
  { machine := pageMachine.addressing 0#16 65#8
    top := 0#3
    wait := true
    ecc := true
    datasize := 0x800#12
    inside := by decide
    whole := by decide
    eccSize := by decide
    holds := by
      intro index bound
      have low : index < 0x800 := bound
      refine (if_pos low).trans (congrArg pageData ?_)
      show (0#32 + BitVec.ofNat 32 index).toNat = 0 + index
      rw [BitVec.zero_add, BitVec.toNat_ofNat]
      omega }

def sparePart : Part pageData .rndin :=
  { machine := (flashMachine 0x800#32 0#32 fun addr => pageData addr.toNat).addressing 0x800#16 0#8
    top := 0#3
    wait := false
    ecc := false
    datasize := 0x40#12
    inside := by decide
    whole := by decide
    eccSize := by decide
    holds := by
      intro index bound
      have low : index < 0x40 := bound
      refine (if_pos (by omega)).trans (congrArg pageData ?_)
      show (0x800#32 + BitVec.ofNat 32 index).toNat = 0x800 + index
      rw [BitVec.toNat_add, BitVec.toNat_ofNat]
      simp only [BitVec.toNat_ofNat]
      omega }

def secondProgram : Program 65#32 pageData :=
  { first := dataPart
    row := rfl
    others := [sparePart]
    covers := by
      intro index bound
      by_cases main : index < 0x800
      · exact Or.inl ⟨Nat.zero_le _, main⟩
      · have spare : 0x800 ≤ index := Nat.le_of_not_lt main
        exact Or.inr ⟨sparePart, List.mem_singleton.mpr rfl, spare, bound⟩
    finish := { machine := pageMachine, top := 0#3, flags := 0#4 } }

def secondRead : PageRead 65#32 :=
  { prepare := { machine := pageMachine.addressing 0#16 65#8, top := 0#3, flags := 0#4 }
    row := rfl
    column := rfl
    machine := flashMachine 0x1000#32 0x2000#32 fun _ => 0#8
    top := 0#3
    wait := true
    ecc := true }

/-- Page 65 after a status command, sent in two parts and read into buffers that are apart. -/
theorem nand_page_round_trip_parts :
    let start := chipAfter flashDevices 0 (NandChip.installed fun _ => 0#8)
      [(pageMachine, 0x80700000#32)]
    let programmed := secondProgram.run flashDevices 0 (secondErase.run flashDevices 0 start)
    let after := secondRead.run flashDevices 0 programmed
    (∀ index, index < 0x800 → after.memory (0x1000#32 + BitVec.ofNat 32 index) = pageData index) ∧
      (∀ index, index < 0x40 →
        after.memory (0x2000#32 + BitVec.ofNat 32 index) = pageData (0x800 + index)) ∧
      (∀ index, index < 16 →
        after.memory (0x2040#32 + BitVec.ofNat 32 index) =
          (dataPart.write flashDevices 0 start).memory (0x840#32 + BitVec.ofNat 32 index)) := by
  obtain ⟨main, spare, check, -, -⟩ := nand_page_round_trip flashDevices 0 (fun _ => 0#8)
    [(pageMachine, 0x80700000#32)] ⟨65, by decide⟩ pageData secondErase secondProgram secondRead
  have apart (index : Nat) (inside : index < 0x800) :
      ¬secondRead.Overwrites (0x1000#32 + BitVec.ofNat 32 index) := by
    have spareBuffer : secondRead.machine.rest.nand.nfEcc = 0x2000#32 := rfl
    unfold PageRead.Overwrites
    rw [spareBuffer, show 0x2000#32 ^^^ 0x40#32 = 0x2040#32 from by decide]
    bv_omega
  exact ⟨fun index inside => main index inside (apart index inside), spare,
    check dataPart _ rfl rfl rfl⟩

def eccRead : PageRead 0#32 :=
  { prepare := { machine := pageMachine, top := 0#3, flags := 0#4 }
    row := rfl
    column := rfl
    machine := flashMachine 0x20#32 0x840#32 fun _ => 0#8
    top := 0#3
    wait := false
    ecc := true }

theorem check_bytes_over_data :
    (eccRead.run flashDevices 0
      (firstProgram.run flashDevices 0
        (firstErase.run flashDevices 0 (NandChip.installed fun _ => 0#8)))).memory
      (0x20#32 + 0x7e0#32) ≠ pageData 0x7e0 := by
  have rest := atRest_installed fun _ => 0#8
  have erased := (firstErase.run_chip flashDevices 0 rest).1
  have ready := (firstProgram.run_chip flashDevices 0 erased).1
  have zero : (0#32 : BitVec 32).toNat < pageCount := by
    decide
  have byte := eccRead.run_ecc flashDevices 0 ready zero rfl (show 0 < 16 by decide)
  have stored (index : Nat) (inside : index < 0x840) :=
    programmed_page flashDevices 0 firstErase firstProgram rest zero inside
  have first : eccByte (fun i => (firstProgram.run flashDevices 0
      (firstErase.run flashDevices 0 (NandChip.installed fun _ => 0#8))).addrspace
        (pageCell 0#32 i)) 0 = calcEcc (fun _ => 0#8) 0 := by
    rw [eccByte_congr (fun index inside => stored index (by omega)) (by decide)]
    refine congrArg (fun block => calcEcc block 0) (funext fun byte => ?_)
    have inside := byte.isLt
    exact if_pos (by omega)
  have plain : calcEcc (fun _ => 0#8) 0 = 0#8 := by
    have sum := calcEcc_xor (fun _ => 0#8) (fun _ => 0#8) 0
    have same : EccBlock.xor (fun _ => 0#8) (fun _ => 0#8) = fun _ => 0#8 := by
      funext byte
      exact BitVec.xor_self
    rwa [same, BitVec.xor_self] at sum
  have cell : (eccRead.machine.rest.nand.nfEcc ^^^ 0x40#32) + BitVec.ofNat 32 0 =
      0x20#32 + 0x7e0#32 := by
    decide
  rw [first, plain, cell] at byte
  rw [byte]
  decide

end Overlap

end SkyeyeStarlet
