import SkyeyeStarlet.AesChaining
import SkyeyeStarlet.DataPath
import SkyeyeStarlet.NarrowLoads
import SkyeyeStarlet.SingleModes
import SkyeyeStarlet.Sram
import SkyeyeStarlet.StoresCore
import SkyeyeStarlet.TlbForget
import SkyeyeStarlet.Windows

/-!
`LDR`, `STR` and `SWP` at every address of a word in RAM or SRAM, through the memory management
unit and past it: which of them take the word that the address lies in.
-/

namespace SkyeyeStarlet

/-- A word of a bank of RAM, or of one of the arrays behind SRAM. -/
inductive WordPlace where
  | ram (bank : Nat) (index : BitVec 30)
  | sram (array : HostArray) (index : Nat)
  deriving DecidableEq, Repr

section Places

variable {Hash : Type}

/-- The word that is found `low` bytes behind the beginning of a place: a bank has whole words. -/
def WordPlace.read (low : Nat) (io : PlainIo Roms Hash) : WordPlace → ARMword
  | .ram bank index => io.guest bank index
  | .sram array index => wideValue .word (io.sram array) (4 * index + low)

def WordPlace.write (low : Nat) (data : ARMword) (io : PlainIo Roms Hash) :
    WordPlace → PlainIo Roms Hash
  | .ram bank index =>
      { io with
        guest := Function.update io.guest bank (Function.update (io.guest bank) index data) }
  | .sram array index =>
      { io with
        sram := Function.update io.sram array
          (overwrite (io.sram array) (4 * index + low) (wideBytes .word data)) }

def SramSettings.place (settings : SramSettings) (addr : ARMword) : Option WordPlace :=
  match settings.decode addr with
  | none => none
  | some (array, offset) => if array = .dummy then none else some (.sram array (offset / 4))

def DataBoard.place (board : DataBoard Hash) (settings : SramSettings) :
    Nat → ARMword → Option WordPlace
  | 0, _ => none
  | hops + 1, addr =>
      match board.banks.findIdx? fun bank => decide (bank.range.Covers addr) with
      | none => none
      | some index =>
          let bank := board.banks.getD index ⟨⟨0#32, 0#32⟩, .ram⟩
          match bank.kind with
          | .ram => some (.ram index (wordIndex (addr - bank.range.addr)))
          | .io => if isSram addr then settings.place addr else none
          | .aliasOf dest => board.place settings hops (addr - bank.range.addr + dest)

end Places

section Addresses

variable {word : BitVec 30} {place : BitVec 2}

theorem byteAddress_shift {delta : ARMword} (aligned : delta &&& 3#32 = 0#32) :
    byteAddress word place + delta = byteAddress (word + wordIndex delta) place := by
  have zero := congrArg BitVec.toNat aligned
  rw [and_three_toNat, BitVec.toNat_ofNat] at zero
  have index : (wordIndex delta).toNat = delta.toNat / 4 % 2 ^ 30 := by
    rw [wordIndex, BitVec.extractLsb'_toNat, Nat.shiftRight_eq_div_pow]
  have bound := delta.isLt
  have wordBound := word.isLt
  have placeBound := place.isLt
  apply BitVec.eq_of_toNat_eq
  rw [BitVec.toNat_add, toNat_byteAddress, toNat_byteAddress, BitVec.toNat_add, index]
  omega

theorem byteAddress_move {base dest : ARMword} (aligned : base &&& 3#32 = 0#32)
    (destAligned : dest &&& 3#32 = 0#32) :
    byteAddress word place - base + dest = byteAddress (word + wordIndex (dest - base)) place := by
  have delta : (dest - base) &&& 3#32 = 0#32 := (sub_and_three aligned dest).trans destAligned
  rw [← byteAddress_shift delta, BitVec.sub_eq_add_neg, BitVec.sub_eq_add_neg, BitVec.add_assoc,
    BitVec.add_comm (-base) dest]

theorem covers_byteAddress {bank : MemBank} (aligned : bank.addr &&& 3#32 = 0#32)
    (whole : bank.len &&& 3#32 = 0#32) :
    bank.Covers (byteAddress word place) ↔ bank.Covers (byteAddress word 0#2) := by
  have base := congrArg BitVec.toNat aligned
  have length := congrArg BitVec.toNat whole
  rw [and_three_toNat, BitVec.toNat_ofNat] at base length
  have wordBound := word.isLt
  have placeBound := place.isLt
  have baseBound := bank.addr.isLt
  simp only [MemBank.Covers, BitVec.le_def, BitVec.lt_def, BitVec.toNat_sub, toNat_byteAddress,
    BitVec.toNat_ofNat]
  omega

theorem isSram_byteAddress :
    isSram (byteAddress word place) = isSram (byteAddress word 0#2) := by
  have top : byteAddress word place >>> 20 = byteAddress word 0#2 >>> 20 := by
    have placeBound := place.isLt
    apply BitVec.eq_of_toNat_eq
    rw [BitVec.toNat_ushiftRight, BitVec.toNat_ushiftRight, toNat_byteAddress, toNat_byteAddress,
      Nat.shiftRight_eq_div_pow, Nat.shiftRight_eq_div_pow, BitVec.toNat_ofNat]
    omega
  rw [isSram, isSram, top]

theorem decode_place {settings : SramSettings} {array : HostArray} {index : Nat}
    (found : settings.place (byteAddress word 0#2) = some (.sram array index)) :
    settings.decode (byteAddress word place) = some (array, 4 * index + place.toNat) ∧
      array ≠ .dummy := by
  unfold SramSettings.place at found
  have within := starletSramDecode_place settings.ports settings.internal word place
  have cases := starletSramDecode_cases settings.ports settings.internal (byteAddress word 0#2)
  rw [toNat_byteAddress] at cases
  unfold SramSettings.decode at found ⊢
  cases decoded : starletSramDecode settings.ports settings.internal (byteAddress word 0#2) with
  | none => rw [decoded] at found; cases found
  | some cell =>
      obtain ⟨first, offset⟩ := cell
      rw [decoded] at found within cases
      dsimp only at found
      split_ifs at found with hole
      obtain ⟨rfl, rfl⟩ := WordPlace.sram.inj (Option.some.inj found)
      have whole : 4 * (offset / 4) = offset := by
        rcases cases with none | boot0 | dummy | sramb | srama
        · cases none
        · have same := (Prod.mk.inj (Option.some.inj boot0)).2
          rw [BitVec.toNat_ofNat] at same
          omega
        · exact absurd (Prod.mk.inj (Option.some.inj dummy)).1 hole
        · have same := (Prod.mk.inj (Option.some.inj sramb)).2
          rw [BitVec.toNat_ofNat] at same
          omega
        · have same := (Prod.mk.inj (Option.some.inj srama)).2
          rw [BitVec.toNat_ofNat] at same
          omega
      rw [within, whole, Option.map_some]
      exact ⟨congrArg some (congrArg (Prod.mk first) (if_neg hole)), hole⟩

end Addresses

section Memory

variable {Hash : Type} (board : DataBoard Hash) {machine : Machine (PlainIo Roms Hash)}
  {word : BitVec 30} {place : BitVec 2} {found : WordPlace}

theorem bank_byteAddress {index : Nat}
    (here : (board.banks.findIdx? fun bank =>
      decide (bank.range.Covers (byteAddress word 0#2))) = some index) :
    (board.banks.findIdx? fun bank => decide (bank.range.Covers (byteAddress word place))) =
        some index ∧
      board.banks.getD index ⟨⟨0#32, 0#32⟩, .ram⟩ ∈ board.banks := by
  have same (bank : MappedBank) (member : bank ∈ board.banks) :
      decide (bank.range.Covers (byteAddress word place)) =
        decide (bank.range.Covers (byteAddress word 0#2)) := by
    obtain ⟨aligned, whole⟩ := board.aligned bank member
    exact decide_eq_decide.mpr (covers_byteAddress aligned whole)
  obtain ⟨bound, covers, first⟩ := List.findIdx?_eq_some_iff_getElem.mp here
  refine ⟨List.findIdx?_eq_some_iff_getElem.mpr ⟨bound, ?_, ?_⟩, ?_⟩
  · rw [same _ (List.getElem_mem bound)]
    exact covers
  · intro other before
    rw [same _ (List.getElem_mem _)]
    exact first other before
  · rw [List.getD_eq_getElem?_getD, List.getElem?_eq_getElem bound, Option.getD_some]
    exact List.getElem_mem bound

theorem place_cases {settings : SramSettings} {hops : Nat}
    (here : board.place settings (hops + 1) (byteAddress word 0#2) = some found) :
    ∃ index, ∃ bank : MappedBank,
      (board.banks.findIdx? fun bank => decide (bank.range.Covers (byteAddress word place))) =
          some index ∧
        board.banks.getD index ⟨⟨0#32, 0#32⟩, .ram⟩ = bank ∧ bank ∈ board.banks ∧
        ((bank.kind = .ram ∧
            found = .ram index (wordIndex (byteAddress word place - bank.range.addr))) ∨
          (bank.kind = .io ∧ isSram (byteAddress word place) = true ∧
            settings.place (byteAddress word 0#2) = some found) ∨
          ∃ dest target, bank.kind = .aliasOf dest ∧
            byteAddress word place - bank.range.addr + dest = byteAddress target place ∧
            board.place settings hops (byteAddress target 0#2) = some found) := by
  rw [DataBoard.place] at here
  split at here
  · cases here
  · rename_i index covering
    obtain ⟨covers, member⟩ := @bank_byteAddress _ board word place index covering
    refine ⟨index, _, covers, rfl, member, ?_⟩
    dsimp only at here
    generalize board.banks.getD index ⟨⟨0#32, 0#32⟩, .ram⟩ = bank at *
    obtain ⟨aligned, -⟩ := board.aligned _ member
    cases kind : bank.kind with
    | ram =>
        rw [kind] at here
        have moved (place : BitVec 2) := @byteAddress_move word place _ 0#32 aligned (by decide)
        simp only [BitVec.add_zero] at moved
        refine .inl ⟨rfl, ?_⟩
        rw [moved, wordIndex_byteAddress, ← Option.some.inj here, moved, wordIndex_byteAddress]
    | io =>
        rw [kind] at here
        dsimp only at here
        split_ifs at here with sram
        exact .inr (.inl ⟨rfl, isSram_byteAddress.trans sram, here⟩)
    | aliasOf dest =>
        rw [kind] at here
        have destAligned := board.aliased _ member dest kind
        dsimp only at here
        rw [byteAddress_move aligned destAligned] at here
        exact .inr (.inr ⟨dest, _, rfl, byteAddress_move aligned destAligned, here⟩)

theorem sram_read {addr : ARMword} (sram : isSram addr = true) :
    ioRead board.toReadBoard machine .word addr = sramValue .word machine.rest.other addr := by
  have absent : nandflashStarletReadWord machine board.ready addr = none := by
    unfold nandflashStarletReadWord
    rw [if_neg (ne_of_isSram sram (by decide)), if_neg (ne_of_isSram sram (by decide)),
      if_neg (ne_of_isSram sram (by decide)), if_neg (ne_of_isSram sram (by decide)),
      if_neg (ne_of_isSram sram (by decide)), if_neg (ne_of_isSram sram (by decide))]
  rw [ioRead, absent]
  dsimp only
  rw [starletIoReadWord, starletIoDevice, if_pos (isSram_iff.mp sram)]

theorem sram_write {addr data : ARMword} (sram : isSram addr = true) :
    ioWrite (registersBoard board.images board.around board.devices) board.copies .word machine
        addr data =
      machine.onOther fun io => sramPlain .word io addr data := by
  rw [ioWrite_sram sram]
  have plain (io : PlainIo Roms Hash) :
      starletPlainWrite board.images .word io addr data = sramPlain .word io addr data := by
    rw [starletPlainWrite, if_pos sram]
  exact congrArg machine.onOther (funext plain)

theorem sram_place {settings : SramSettings} {addr : ARMword}
    (here : settings.place addr = some found) : ∃ array index, found = .sram array index := by
  unfold SramSettings.place at here
  split at here
  · cases here
  · split_ifs at here
    exact ⟨_, _, (Option.some.inj here).symm⟩

theorem memRead_place {hops : Nat}
    (here : board.place machine.rest.other.settings hops (byteAddress word 0#2) = some found) :
    memRead board.toReadBoard machine hops .word (byteAddress word place) =
      some (found.read place.toNat machine.rest.other) := by
  induction hops generalizing word with
  | zero => cases here
  | succ hops ih =>
      obtain ⟨index, bank, covers, entry, -, reached⟩ :=
        @place_cases _ board word place found _ _ here
      rw [memRead, covers]
      dsimp only
      rw [entry]
      rcases reached with ⟨ram, rfl⟩ | ⟨io, sram, decoded⟩ | ⟨dest, target, isAlias, moved, next⟩
      · rw [ram]
        rfl
      · rw [io]
        obtain ⟨array, start, rfl⟩ := sram_place decoded
        obtain ⟨decode, solid⟩ := @decode_place word place _ _ _ decoded
        dsimp only
        have kept : clearDummy array machine.rest.other.sram = machine.rest.other.sram :=
          if_neg solid
        rw [sram_read board sram, sramValue, starletSramRead, decode]
        simp only [Option.map_some, kept]
        rfl
      · rw [isAlias]
        dsimp only
        rw [moved]
        exact ih next

theorem memStore_place {hops : Nat} {data : ARMword}
    (here : board.place machine.rest.other.settings hops (byteAddress word 0#2) = some found) :
    memStore board hops .word machine (byteAddress word place) data =
      machine.onOther fun io => found.write place.toNat data io := by
  induction hops generalizing word with
  | zero => cases here
  | succ hops ih =>
      obtain ⟨index, bank, covers, entry, -, reached⟩ :=
        @place_cases _ board word place found _ _ here
      rw [memStore, covers]
      dsimp only
      rw [entry]
      rcases reached with ⟨ram, rfl⟩ | ⟨io, sram, decoded⟩ | ⟨dest, target, isAlias, moved, next⟩
      · rw [ram]
        rfl
      · rw [io]
        obtain ⟨array, start, rfl⟩ := sram_place decoded
        obtain ⟨decode, solid⟩ := @decode_place word place _ _ _ decoded
        dsimp only
        rw [storeWidth, sram_write board sram]
        have written : sramPlain .word machine.rest.other (byteAddress word place) data =
            (WordPlace.sram array start).write place.toNat data machine.rest.other := by
          have kept : clearDummy array machine.rest.other.sram = machine.rest.other.sram :=
            if_neg solid
          rw [sramPlain, starletSramWrite, decode]
          simp only [Option.map_some, kept]
          rfl
        exact congrArg (fun io => machine.onOther fun _ => io) written
      · rw [isAlias]
        dsimp only
        rw [moved]
        exact ih next

end Memory

section Words

variable {Hash : Type} {found : WordPlace} {data : ARMword} {io : PlainIo Roms Hash}

theorem extract_bytes (data : ARMword) :
    data.extractLsb' 24 8 ++ data.extractLsb' 16 8 ++ data.extractLsb' 8 8 ++
      data.extractLsb' 0 8 = data := by
  apply BitVec.eq_of_getLsbD_eq
  intro index bound
  simp only [BitVec.getLsbD_append, BitVec.getLsbD_extractLsb']
  grind

theorem read_write_same (found other : WordPlace) (data : ARMword) (io : PlainIo Roms Hash) :
    other.read 0 (found.write 0 data io) = if other = found then data else other.read 0 io := by
  cases found with
  | ram bank index =>
      cases other with
      | sram => rfl
      | ram bank' index' =>
          simp only [WordPlace.read, WordPlace.write, Function.update_apply, WordPlace.ram.injEq]
          by_cases sameBank : bank' = bank
          · subst sameBank
            simp [Function.update_apply]
          · simp [sameBank]
  | sram array index =>
      cases other with
      | ram => rfl
      | sram array' index' =>
          simp only [WordPlace.read, WordPlace.write, Function.update_apply, WordPlace.sram.injEq,
            Nat.add_zero]
          by_cases sameArray : array' = array
          · subst sameArray
            by_cases sameIndex : index' = index
            · subst sameIndex
              have byte (step : Nat) (inside : step < 4) :
                  overwrite (io.sram array') (4 * index') (wideBytes .word data)
                    (4 * index' + step) = arrayByte true .word data step := by
                rw [overwrite_wideBytes, if_pos (by rw [unitSize]; omega), Nat.add_sub_cancel_left]
              rw [if_pos rfl, if_pos ⟨rfl, rfl⟩, wideValue, byte 1 (by decide),
                byte 2 (by decide), byte 3 (by decide)]
              exact (congrArg (· ++ _ ++ _ ++ _) (byte 0 (by decide))).trans (extract_bytes data)
            · have byte (step : Nat) (inside : step < 4) :
                  overwrite (io.sram array') (4 * index) (wideBytes .word data)
                    (4 * index' + step) = io.sram array' (4 * index' + step) := by
                rw [overwrite_wideBytes, if_neg (by rw [unitSize]; omega)]
              rw [if_pos rfl, if_neg fun same => sameIndex same.2, wideValue, wideValue,
                byte 1 (by decide), byte 2 (by decide), byte 3 (by decide)]
              exact congrArg (· ++ _ ++ _ ++ _) (byte 0 (by decide))
          · rw [if_neg sameArray, if_neg fun same => sameArray same.1]

theorem read_write_behind {array : HostArray} {index low : Nat} (behind : 0 < low)
    (data : ARMword) (io : PlainIo Roms Hash) :
    ((WordPlace.sram array index).read 0
      ((WordPlace.sram array index).write low data io)).extractLsb' 24 8 =
        io.sram array (4 * index) := by
  have first := arrayByte_wideValue .word
    (overwrite (io.sram array) (4 * index + low) (wideBytes .word data)) (4 * index)
    (by decide : 0 < unitSize .word)
  simp only [WordPlace.read, WordPlace.write, Function.update_self, Nat.add_zero]
  refine first.trans ?_
  rw [overwrite_wideBytes, if_neg (by omega)]
  rfl

theorem read_marked {array : HostArray} {index low : Nat} (behind : 0 < low)
    (marked : io.sram = fun _ cell => if cell = 4 * index then 0xff#8 else 0#8) :
    (WordPlace.sram array index).read low io = 0#32 ∧
      (WordPlace.sram array index).read 0 io = 0xff000000#32 := by
  simp only [WordPlace.read, wideValue, marked]
  rw [if_neg (by omega), if_neg (by omega), if_neg (by omega), if_neg (by omega), if_pos (by omega),
    if_neg (by omega), if_neg (by omega), if_neg (by omega)]
  exact ⟨rfl, rfl⟩

end Words

section Translation

variable {num : Nat} {config : WalkConfig} {tlb : Tlb num} {va : ARMword} {slot : Fin num}

theorem translate_again (lastDomain : ARMword)
    (found : (translate config tlb lastDomain va).slot = some slot) (config' : WalkConfig)
    (lastDomain' : ARMword) :
    let result := translate config tlb lastDomain va
    let again := translate config' result.tlb lastDomain' va
    again.tlb = result.tlb ∧ again.slot = some slot := by
  have hit (buffer : Tlb num) (search : mmuTlbSearch buffer va = some slot) :
      (translate config' buffer lastDomain' va).tlb = buffer ∧
        (translate config' buffer lastDomain' va).slot = some slot := by
    rw [translate, search]
    exact ⟨rfl, rfl⟩
  intro result again
  apply hit
  simp only [translate, result] at found ⊢
  cases search : mmuTlbSearch tlb va with
  | some old =>
      rw [search] at found
      rw [← found]
      exact search
  | none =>
      rw [search] at found
      have missing := mmuTlbSearch_eq_none_iff.mp search
      cases walked : walk config va with
      | error failure => rw [walked] at found; cases found
      | ok entry =>
          rw [walked] at found
          obtain rfl := Option.some.inj found
          obtain ⟨valid, page⟩ := walk_ok walked
          have covers : tlbHit va entry = true := by
            rw [tlbHit_iff]
            exact ⟨valid, by rw [page, BitVec.and_assoc, BitVec.and_self]⟩
          have only (other : Fin num) :
              tlbHit va (Function.update tlb.entrys tlb.cycle entry other) = true ↔
                other = tlb.cycle := by
            by_cases same : other = tlb.cycle
            · subst same
              simp [covers]
            · simp [missing other, same]
          dsimp only [mmuTlbSearch]
          have present : ((List.finRange num).find? fun other =>
              tlbHit va (Function.update tlb.entrys tlb.cycle entry other)).isSome = true := by
            rw [List.find?_isSome]
            exact ⟨tlb.cycle, List.mem_finRange _, (only tlb.cycle).mpr rfl⟩
          obtain ⟨first, here⟩ := Option.isSome_iff_exists.mp present
          have hits : tlbHit va (Function.update tlb.entrys tlb.cycle entry first) = true :=
            @List.find?_some _ (fun other => tlbHit va
              (Function.update tlb.entrys tlb.cycle entry other)) _ _ here
          rw [here, (only first).mp hits]

end Translation

section Routes

variable {Hash : Type} (board : DataBoard Hash) (hops : Nat)

def physicalWord (address : ARMword) (mem : BoardMemory Hash) : Option ARMword :=
  let va := mmuPidVaMap mem.mmu address &&& ~~~3#32
  if !mmuEnabled mem.mmu then some va
  else
    let result := translate (boardWalk board.toReadBoard hops mem) mem.mmu.mainTlb
      mem.mmu.lastDomain va
    result.slot.map fun slot => tlbVaToPa (result.tlb.entrys slot) va

def wordPlace (address : ARMword) (mem : BoardMemory Hash) : Option WordPlace :=
  (physicalWord board hops address mem).bind
    (board.place mem.machine.rest.other.settings hops)

theorem wordPlace_off (address : ARMword) {mem : BoardMemory Hash}
    (off : mmuEnabled mem.mmu = false) :
    wordPlace board hops address mem =
      board.place mem.machine.rest.other.settings hops
        (mmuPidVaMap mem.mmu address &&& ~~~3#32) := by
  rw [wordPlace, physicalWord, off]
  simp only [Bool.not_false, if_true, Option.bind_some]

def wordShift (address : ARMword) (mem : BoardMemory Hash) : Nat :=
  if mmuEnabled mem.mmu then 0 else (address &&& 3#32).toNat

variable {address : ARMword} {mode : ModeNum} {mem : BoardMemory Hash} {found : WordPlace}

theorem mmuPidVaMap_low (mmu : MmuState) (address : ARMword) :
    mmuPidVaMap mmu address &&& 3#32 = address &&& 3#32 := by
  unfold mmuPidVaMap
  split
  · rfl
  · rw [BitVec.and_or_distrib_right, BitVec.and_assoc mmu.processId]
    simp

theorem place_outside {settings : SramSettings} {pa : ARMword}
    (here : board.place settings hops pa = some found) : flushWindow pa = false := by
  cases hops with
  | zero => cases here
  | succ hops =>
      rw [DataBoard.place] at here
      split at here
      · cases here
      · rename_i index covering
        obtain ⟨bound, covers, -⟩ := List.findIdx?_eq_some_iff_getElem.mp covering
        exact board.outside _ (List.getElem_mem bound) pa (of_decide_eq_true covers)

/-- Where the word behind an address is, and with which low bits an access goes there. -/
structure WordRoute (address : ARMword) (mem : BoardMemory Hash) (found : WordPlace)
    (result : BoardMemory Hash × Route) : Prop where
  route : ∃ word place, result.2 = .memory (byteAddress word place) ∧
    place.toNat = wordShift address mem ∧
    board.place mem.machine.rest.other.settings hops (byteAddress word 0#2) = some found
  machine : result.1.machine = mem.machine
  enabled : mmuEnabled result.1.mmu = mmuEnabled mem.mmu
  again : wordPlace board hops address result.1 = some found

theorem wordRoute_off (off : mmuEnabled mem.mmu = false)
    (here : wordPlace board hops address mem = some found) :
    WordRoute board hops address mem found (mem, .memory (mmuPidVaMap mem.mmu address)) := by
  obtain ⟨word, place, split⟩ := exists_byteAddress (mmuPidVaMap mem.mmu address)
  have start : byteAddress word place &&& ~~~3#32 = byteAddress word 0#2 := by
    have zero : ∀ place : BitVec 2, place &&& ~~~3#2 = 0#2 := by
      decide
    exact (byteAddress_and_not word place 3#2).trans (by rw [zero])
  have low : place.toNat = (address &&& 3#32).toNat := by
    have placeBound := place.isLt
    have same := congrArg BitVec.toNat (mmuPidVaMap_low mem.mmu address)
    rw [split, and_three_toNat, toNat_byteAddress] at same
    omega
  refine ⟨⟨word, place, congrArg Route.memory split, ?_, ?_⟩, rfl, rfl, here⟩
  · rw [wordShift, off, if_neg Bool.false_ne_true, low]
  · rw [wordPlace_off board hops address off, split, start] at here
    exact here

theorem wordRoute_on (on : mmuEnabled mem.mmu = true) {slot : Fin 64} {lastDomain : ARMword}
    (translated : (translate (boardWalk board.toReadBoard hops mem) mem.mmu.mainTlb
      mem.mmu.lastDomain (mmuPidVaMap mem.mmu address &&& ~~~3#32)).slot = some slot)
    (here : wordPlace board hops address mem = some found) :
    let result := translate (boardWalk board.toReadBoard hops mem) mem.mmu.mainTlb
      mem.mmu.lastDomain (mmuPidVaMap mem.mmu address &&& ~~~3#32)
    let pa := tlbVaToPa (result.tlb.entrys slot) (mmuPidVaMap mem.mmu address &&& ~~~3#32)
    flushWindow pa = false ∧
      WordRoute board hops address mem found
        ({ mem with mmu := { mem.mmu with mainTlb := result.tlb, lastDomain } }, .memory pa) := by
  intro result pa
  have physical : board.place mem.machine.rest.other.settings hops pa = some found := by
    rw [wordPlace, physicalWord, on] at here
    simp only [Bool.not_true, Bool.false_eq_true, if_false, translated, Option.map_some,
      Option.bind_some] at here
    exact here
  refine ⟨place_outside board hops physical, ?_, rfl, rfl, ?_⟩
  · have whole : byteAddress (wordIndex pa) 0#2 = pa := by
      have aligned := (wordAddress_iff pa (wordIndex pa)).mpr rfl
      have twice : pa &&& ~~~3#32 = pa := by
        simp only [pa, tlbVaToPa_word, BitVec.and_assoc, BitVec.and_self]
      exact aligned.trans twice
    refine ⟨wordIndex pa, 0#2, congrArg Route.memory whole.symm, ?_, ?_⟩
    · rw [wordShift, on, if_pos rfl]
      rfl
    · rw [whole]
      exact physical
  · have again := translate_again mem.mmu.lastDomain translated
      (boardWalk board.toReadBoard hops
        { mem with mmu := { mem.mmu with mainTlb := result.tlb, lastDomain } }) lastDomain
    obtain ⟨tlb, slotAgain⟩ := again
    have enabled : mmuEnabled { mem.mmu with mainTlb := result.tlb, lastDomain } = true := on
    have physicalAgain : physicalWord board hops address
        { mem with mmu := { mem.mmu with mainTlb := result.tlb, lastDomain } } = some pa := by
      unfold physicalWord
      rw [enabled]
      exact (congrArg (Option.map _) slotAgain).trans
        (congrArg (fun buffer : Tlb 64 => some (tlbVaToPa (buffer.entrys slot) _)) tlb)
    rw [wordPlace, physicalAgain, Option.bind_some]
    exact physical

theorem dataRoute_word (here : wordPlace board hops address mem = some found)
    (fine : ∀ fault, (dataRoute board.toReadBoard hops .word mode address mem).2 = .fault fault →
      fault = .noFault) :
    WordRoute board hops address mem found
      (dataRoute board.toReadBoard hops .word mode address mem) := by
  unfold dataRoute at fine ⊢
  dsimp only at fine ⊢
  cases on : mmuEnabled mem.mmu with
  | false => exact wordRoute_off board hops on here
  | true =>
      simp only [on, Bool.not_true, Bool.false_eq_true, if_false] at fine ⊢
      by_cases misaligned : alignmentFails mem.mmu .word (mmuPidVaMap mem.mmu address) = true
      · simp only [misaligned, if_true] at fine
        exact FaultT.noConfusion (fine _ rfl)
      · simp only [misaligned, Bool.false_eq_true, if_false] at fine ⊢
        cases translated : (translate (boardWalk board.toReadBoard hops mem) mem.mmu.mainTlb
            mem.mmu.lastDomain (mmuPidVaMap mem.mmu address &&& ~~~3#32)).slot with
        | none =>
            simp only [translated] at fine
            exact absurd (fine _ rfl) ((translate_fault _ _ _ _).mp translated)
        | some slot =>
            obtain ⟨outside, routed⟩ := wordRoute_on board hops on translated here
            simp only [translated, outside, Bool.false_eq_true, if_false] at fine ⊢
            split at fine
            · rw [lowBits, BitVec.or_zero]
              exact routed
            · rename_i refused
              exact absurd (fine _ rfl) refused

theorem storeRoute_word (here : wordPlace board hops address mem = some found)
    (fine : ∀ fault, (storeRoute board hops .word mode address mem).2 = .fault fault →
      fault = .noFault) :
    WordRoute board hops address mem found (storeRoute board hops .word mode address mem) := by
  unfold storeRoute at fine ⊢
  dsimp only at fine ⊢
  cases on : mmuEnabled mem.mmu with
  | false => exact wordRoute_off board hops on here
  | true =>
      simp only [on, Bool.not_true, Bool.false_eq_true, if_false] at fine ⊢
      by_cases misaligned : alignmentFails mem.mmu .word (mmuPidVaMap mem.mmu address) = true
      · simp only [misaligned, if_true] at fine
        exact FaultT.noConfusion (fine _ rfl)
      · simp only [misaligned, Bool.false_eq_true, if_false] at fine ⊢
        cases translated : (translate (boardWalk board.toReadBoard hops mem) mem.mmu.mainTlb
            mem.mmu.lastDomain (mmuPidVaMap mem.mmu address &&& ~~~3#32)).slot with
        | none =>
            simp only [translated] at fine
            exact absurd (fine _ rfl) ((translate_fault _ _ _ _).mp translated)
        | some slot =>
            obtain ⟨-, routed⟩ := wordRoute_on board hops on translated here
            simp only [translated] at fine ⊢
            split at fine
            · rw [lowBits, BitVec.or_zero]
              exact routed
            · rename_i refused
              exact absurd (fine _ rfl) refused

theorem boardRead_word (here : wordPlace board hops address mem = some found)
    (fine : (boardRead board.toReadBoard hops .word mode address mem).fault = .noFault) :
    let result := boardRead board.toReadBoard hops .word mode address mem
    result.data = found.read (wordShift address mem) mem.machine.rest.other ∧
      result.mem.machine = mem.machine ∧
      wordShift address result.mem = wordShift address mem ∧
      wordPlace board hops address result.mem = some found := by
  have refuses (fault : FaultT)
      (route : (dataRoute board.toReadBoard hops .word mode address mem).2 = .fault fault) :
      fault = .noFault := by
    simpa only [boardRead, route] using fine
  obtain ⟨⟨word, place, route, low, settled⟩, machine, enabled, again⟩ :=
    dataRoute_word board hops here refuses
  have read := @memRead_place _ board mem.machine word place found hops settled
  rw [boardRead]
  dsimp only
  rw [route]
  dsimp only
  rw [read, Option.getD_some, low]
  refine ⟨rfl, machine, ?_, again⟩
  rw [wordShift, enabled]
  rfl

theorem boardWrite_word {data : ARMword} (here : wordPlace board hops address mem = some found)
    (fine : (boardWrite board hops .word mode address data mem).fault = .noFault) :
    (boardWrite board hops .word mode address data mem).mem.machine =
      mem.machine.onOther fun io => found.write (wordShift address mem) data io := by
  have refuses (fault : FaultT)
      (route : (storeRoute board hops .word mode address mem).2 = .fault fault) :
      fault = .noFault := by
    simpa only [boardWrite, route] using fine
  obtain ⟨⟨word, place, route, low, settled⟩, -, -, -⟩ := storeRoute_word board hops here refuses
  have written := @memStore_place _ board mem.machine word place found hops data settled
  rw [boardWrite]
  dsimp only
  rw [route]
  dsimp only
  rw [written, low]

end Routes

inductive WordAccess where
  | ldr
  | str
  | swp
  deriving DecidableEq, Repr

section Instructions

variable {Mem : Type} (bus : Bus Mem) (access : WordAccess) (state : ARMulState Mem)
  (instr : ARMword)

def WordAccess.Encodes : Prop :=
  match access with
  | .ldr => SingleEncoding.wordByte.Encodes instr ∧ instr.getLsbD 22 = false ∧
      instr.getLsbD 20 = true
  | .str => SingleEncoding.wordByte.Encodes instr ∧ instr.getLsbD 22 = false ∧
      instr.getLsbD 20 = false
  | .swp => instr.extractLsb' 20 8 = 0x10#8 ∧ instr.extractLsb' 4 8 = 0x09#8

def WordAccess.address : ARMword :=
  match access with
  | .swp => transferBase state instr
  | _ => SingleEncoding.wordByte.address state instr

def WordAccess.data : ARMword :=
  match access with
  | .swp => state.reg (rhsReg instr)
  | _ => state.reg (destReg instr)

def WordAccess.fault : FaultT :=
  let address := access.address state instr
  let read := bus.read .word state.mode address state.mem
  match access with
  | .ldr => read.fault
  | .str => (bus.write .word state.mode address (access.data state instr) state.mem).fault
  | .swp =>
      if read.fault = .noFault then
        (bus.write .word state.mode address (access.data state instr) read.mem).fault
      else read.fault

def WordAccess.Shows (after : ARMulState Mem) (value : ARMword) : Prop :=
  if access = .ldr ∧ destReg instr = 15#4 then
    after.reg 15#4 = alignPc (value.getLsbD 0) value ∧ after.tFlag = value.getLsbD 0
  else after.reg (destReg instr) = value

end Instructions

section Execution

variable {Mem : Type} (bus : Bus Mem) {state : ARMulState Mem} {instr : ARMword}

theorem aligned_rotate (address data : ARMword) :
    (if address &&& 3#32 = 0#32 then data else armulAlign address data) =
      data.rotateRight (8 * (address &&& 3#32).toNat) := by
  have places : 8 * (address &&& 3#32).toNat < 32 := by
    rw [and_three_toNat]
    omega
  have rotated : armulAlign address data = data.rotateRight (8 * (address &&& 3#32).toNat) :=
    Shifter.rotateRight_eq data _ places
  split_ifs with aligned
  · have none := Shifter.rotateRight_eq data 0 (by decide)
    rw [aligned, show 8 * (0#32 : ARMword).toNat = 0 from rfl, ← none]
    simp
  · exact rotated

theorem wordByte_address (encoded : SingleEncoding.wordByte.Encodes instr) :
    (if instr.getLsbD 24 then indexed singleOffset state instr (lhsValue state instr)
      else lhsValue state instr) = SingleEncoding.wordByte.address state instr := by
  rw [SingleEncoding.address, SingleEncoding.indexed, indexed, lhsValue_base,
    singleOffset_encoded state encoded]

variable (traps : Traps Mem) (cops : Coprocessors Mem) (pc : ARMword)
  (ready : BlockReady state instr)

include ready

theorem execute_ldr (encodes : WordAccess.ldr.Encodes instr)
    (fine : WordAccess.ldr.fault bus state instr = .noFault) :
    let address := WordAccess.ldr.address state instr
    WordAccess.ldr.Shows instr (executeArm bus traps cops state pc instr)
      ((bus.read .word state.mode address state.mem).data.rotateRight
        (8 * (address &&& 3#32).toNat)) := by
  intro address
  obtain ⟨encoded, word, loads⟩ := encodes
  generalize value_eq : (bus.read .word state.mode address state.mem).data.rotateRight
    (8 * (address &&& 3#32).toNat) = value
  have loaded (signal : Bool) :
      loadWord bus { state with ntransSig := signal } instr address =
        (writeDestB
          { state with
            ntransSig := signal, abortSig := false
            mem := (bus.read .word state.mode address state.mem).mem } instr value,
          destReg instr != lhsReg instr) := by
    have quiet : (bus.read .word state.mode address state.mem).fault = .noFault := fine
    have isV4 : { state with ntransSig := signal }.isV4 = true := ready.isV4
    rw [loadWord, loadData, bususedincpcs_v4 isV4, armulRead]
    dsimp only
    rw [if_pos quiet]
    dsimp only
    rw [if_pos ready.clear, aligned_rotate, value_eq]
  have shows (read : ARMulState Mem) :
      WordAccess.ldr.Shows instr (writeDestB read instr value) value := by
    unfold WordAccess.Shows writeDestB
    by_cases branches : destReg instr = 15#4
    · rw [if_pos ⟨rfl, branches⟩, if_pos branches]
      exact ⟨setReg_reg_self _ _ _, rfl⟩
    · rw [if_neg fun both => branches both.2, if_neg branches]
      exact setReg_reg_self _ _ _
  have kept (read : ARMulState Mem) (number : RegNum) (other : ARMword)
      (apart : number ≠ destReg instr) :
      WordAccess.ldr.Shows instr ((writeDestB read instr value).setReg number other) value := by
    have before := shows read
    unfold WordAccess.Shows at before ⊢
    by_cases branches : destReg instr = 15#4
    · rw [if_pos ⟨rfl, branches⟩] at before ⊢
      rw [setReg_reg_of_ne (branches ▸ apart.symm)]
      exact before
    · rw [if_neg fun both => branches both.2] at before ⊢
      rw [setReg_reg_of_ne apart.symm]
      exact before
  have moves (signal : Bool) :
      WordAccess.ldr.Shows instr
        (indexedTransfer singleOffset (singleAccess bus) { state with ntransSig := signal } instr)
        value := by
    have accessed := loaded signal
    have routed (user : ARMulState Mem) (reached : ARMword) :
        singleAccess bus user instr reached = loadWord bus user instr reached := by
      rw [singleAccess, word, loads]
    rw [← routed, show address = _ from (wordByte_address encoded).symm] at accessed
    exact @indexedTransfer_keeps _ singleOffset (singleAccess bus)
      { state with ntransSig := signal } instr _ (WordAccess.ldr.Shows instr · value) (shows _)
      (kept _) accessed
  rw [executeArm, if_neg ready.conditional, if_pos ready.passes]
  simp only [mainSwitch, transferOf_wordByte encoded, dataTransfer]
  unfold singleTransfer
  split
  · exact moves false
  · exact moves state.ntransSig

theorem execute_str (encodes : WordAccess.str.Encodes instr)
    (fine : WordAccess.str.fault bus state instr = .noFault) :
    (executeArm bus traps cops state pc instr).mem =
      (bus.write .word state.mode (WordAccess.str.address state instr)
        (WordAccess.str.data state instr) state.mem).mem := by
  obtain ⟨encoded, word, stores⟩ := encodes
  have single : SingleInstr .wordByte instr :=
    ⟨encoded, fun _ loads => absurd loads (stores ▸ Bool.false_ne_true)⟩
  have width : accessSize (SingleEncoding.wordByte.width instr) = .word := by
    rw [SingleEncoding.width, word]
    rfl
  have written : singleWrite bus .wordByte state instr =
      bus.write .word state.mode (WordAccess.str.address state instr)
        (WordAccess.str.data state instr) state.mem := by
    rw [singleWrite, width]
    rfl
  have quiet : singleFault bus .wordByte state instr = .noFault := by
    rw [singleFault, stores, if_neg Bool.false_ne_true, written]
    exact fine
  have moves := singleTransfer_moves bus ready.isV4 ready.clear single quiet
  rw [executeArm, if_neg ready.conditional, if_pos ready.passes]
  simp only [mainSwitch, transferOf_wordByte encoded, dataTransfer]
  rw [moves.mem, stores, if_neg Bool.false_ne_true, written]

omit ready in
theorem extract_within {first width start count : Nat} (inside : start + count ≤ width) :
    (instr.extractLsb' first width).extractLsb' start count =
      instr.extractLsb' (first + start) count := by
  apply BitVec.eq_of_getLsbD_eq
  intro index bound
  have below : start + index < width := by
    omega
  simp [BitVec.getLsbD_extractLsb', below, Nat.add_assoc]

omit ready in
theorem transferOf_swp (encodes : WordAccess.swp.Encodes instr) :
    transferOf instr = some .swapWord := by
  obtain ⟨form, tail⟩ := encodes
  have group : instr.extractLsb' 25 3 = 0#3 := by
    have part := congrArg (BitVec.extractLsb' 5 3) form
    rwa [extract_within (by decide)] at part
  have low : instr.extractLsb' 4 4 = 0x9#4 := by
    have part := congrArg (BitVec.extractLsb' 0 4) tail
    rwa [extract_within (by decide)] at part
  have high : instr.extractLsb' 8 4 = 0x0#4 := by
    have part := congrArg (BitVec.extractLsb' 4 4) tail
    rwa [extract_within (by decide)] at part
  have stores : instr.getLsbD 20 = false := by
    have bit := congrArg (BitVec.getLsbD · 0) form
    simpa using bit
  rw [transferOf, extract_upper, group, if_neg (by decide), if_pos rfl, stores, low]
  exact if_pos ⟨form, high⟩

theorem execute_swp (encodes : WordAccess.swp.Encodes instr)
    (fine : WordAccess.swp.fault bus state instr = .noFault) :
    let address := WordAccess.swp.address state instr
    let read := bus.read .word state.mode address state.mem
    WordAccess.swp.Shows instr (executeArm bus traps cops state pc instr)
        (read.data.rotateRight (8 * (address &&& 3#32).toNat)) ∧
      (executeArm bus traps cops state pc instr).mem =
        (bus.write .word state.mode address (WordAccess.swp.data state instr) read.mem).mem := by
  intro address read
  have quiet : read.fault = .noFault := by
    by_contra failed
    unfold WordAccess.fault at fine
    exact failed ((if_neg failed).symm.trans fine)
  rw [executeArm, if_neg ready.conditional, if_pos ready.passes]
  simp only [mainSwitch, transferOf_swp encodes, dataTransfer]
  have base : lhsValue state instr = address := lhsValue_base state instr
  have fetched : armulRead bus .word state address =
      ({ state with mem := read.mem, abortSig := false }, read.data) := if_pos quiet
  have ends (swapped : ARMulState Mem) (calm : swapped.abortSig = false)
      (clear : swapped.aborted = 0#32) : swapEnd bus swapped = swapped := by
    simp only [swapEnd, calm, clear, bne_self_eq_false, Bool.or_false, Bool.false_eq_true, if_false]
  have swapped : swapWord bus state instr =
      (putWord bus { state with mem := read.mem, abortSig := false } address
        (WordAccess.swp.data state instr)).setReg (destReg instr)
          (read.data.rotateRight (8 * (address &&& 3#32).toNat)) := by
    simp only [swapWord, bususedincpcs_v4 ready.isV4, base, armulSwapWord, fetched, aligned_rotate]
    exact ends _ rfl ready.clear
  rw [swapped]
  refine ⟨?_, rfl⟩
  unfold WordAccess.Shows
  rw [if_neg fun both => WordAccess.noConfusion both.1]
  exact setReg_reg_self _ _ _

end Execution

section Whole

variable {Hash : Type}

/-- The word of one place is replaced, and nothing else of the machine. -/
structure ReplacesWord (before after : BoardMemory Hash) (place : WordPlace) (data : ARMword) :
    Prop where
  words : ∀ other : WordPlace, other.read 0 after.machine.rest.other =
    if other = place then data else other.read 0 before.machine.rest.other
  rest : ∃ guest sram, after.machine = before.machine.onOther fun io => { io with guest, sram }

def WordAccess.Right (access : WordAccess) (board : DataBoard Hash) (hops : Nat)
    (state after : ARMulState (BoardMemory Hash)) (instr : ARMword) : Prop :=
  let address := access.address state instr
  ∀ place, wordPlace board hops address state.mem = some place →
    (access ≠ .str → access.Shows instr after
      ((place.read 0 state.mem.machine.rest.other).rotateRight
        (8 * (address &&& 3#32).toNat))) ∧
    (access ≠ .ldr → ReplacesWord state.mem after.mem place (access.data state instr))

def withStorage (state : ARMulState (BoardMemory Hash)) (guest : Roms) (sram : SramBytes) :
    ARMulState (BoardMemory Hash) :=
  { state with
    mem := { state.mem with
      machine := state.mem.machine.onOther fun io => { io with guest, sram } } }

variable (board : DataBoard Hash) (hops : Nat) (rest : Bus (BoardMemory Hash))
  (traps : Traps (BoardMemory Hash)) (cops : Coprocessors (BoardMemory Hash)) (pc : ARMword)
  {access : WordAccess} {state : ARMulState (BoardMemory Hash)} {instr : ARMword}
  {place : WordPlace}

theorem replacesWord_write {before after : BoardMemory Hash} {data : ARMword}
    (written : after.machine = before.machine.onOther fun io => place.write 0 data io) :
    ReplacesWord before after place data := by
  refine ⟨?_, ?_⟩
  · intro other
    rw [written]
    exact read_write_same place other data _
  · rw [written]
    cases place with
    | ram bank index => exact ⟨_, before.machine.rest.other.sram, rfl⟩
    | sram array index => exact ⟨before.machine.rest.other.guest, _, rfl⟩

section Access

variable (encodes : access.Encodes instr) (ready : BlockReady state instr)
  (fine : access.fault (dataBus board hops rest) state instr = .noFault)
  (here : wordPlace board hops (access.address state instr) state.mem = some place)

include encodes ready fine here

theorem access_does :
    let after := executeArm (dataBus board hops rest) traps cops state pc instr
    let address := access.address state instr
    let shift := wordShift address state.mem
    (access ≠ .str → access.Shows instr after
      ((place.read shift state.mem.machine.rest.other).rotateRight
        (8 * (address &&& 3#32).toNat))) ∧
    (access ≠ .ldr → after.mem.machine =
      state.mem.machine.onOther fun io => place.write shift (access.data state instr) io) := by
  intro after address shift
  cases access with
  | ldr =>
      have loads := execute_ldr (dataBus board hops rest) traps cops pc ready encodes fine
      obtain ⟨data, -⟩ := boardRead_word board hops here fine
      refine ⟨fun _ => ?_, fun other => absurd rfl other⟩
      rw [← data]
      exact loads
  | str =>
      have stores := execute_str (dataBus board hops rest) traps cops pc ready encodes fine
      have written := boardWrite_word board hops here fine
      refine ⟨fun other => absurd rfl other, fun _ => ?_⟩
      rw [← written]
      exact congrArg BoardMemory.machine stores
  | swp =>
      obtain ⟨loads, stores⟩ :=
        execute_swp (dataBus board hops rest) traps cops pc ready encodes fine
      have quiet : (boardRead board.toReadBoard hops .word state.mode address state.mem).fault =
          .noFault := by
        by_contra failed
        exact failed ((if_neg failed).symm.trans fine)
      have second : (boardWrite board hops .word state.mode address
          (WordAccess.swp.data state instr)
          (boardRead board.toReadBoard hops .word state.mode address state.mem).mem).fault =
          .noFault :=
        (if_pos quiet).symm.trans fine
      obtain ⟨data, machine, same, again⟩ := boardRead_word board hops here quiet
      have written := boardWrite_word board hops again second
      rw [same, machine] at written
      refine ⟨fun _ => ?_, fun _ => ?_⟩
      · rw [← data]
        exact loads
      · rw [← written]
        exact congrArg BoardMemory.machine stores

end Access

theorem right_of_whole (encodes : access.Encodes instr) (ready : BlockReady state instr)
    (fine : access.fault (dataBus board hops rest) state instr = .noFault)
    (whole : wordShift (access.address state instr) state.mem = 0 ∨
      ∀ array index, wordPlace board hops (access.address state instr) state.mem ≠
        some (.sram array index)) :
    access.Right board hops state
      (executeArm (dataBus board hops rest) traps cops state pc instr) instr := by
  intro place here
  obtain ⟨loads, stores⟩ := access_does board hops rest traps cops pc encodes ready fine here
  generalize access.address state instr = address at *
  obtain ⟨read, write⟩ : (∀ io : PlainIo Roms Hash,
        place.read (wordShift address state.mem) io = place.read 0 io) ∧
      ∀ (data : ARMword) (io : PlainIo Roms Hash),
        place.write (wordShift address state.mem) data io = place.write 0 data io := by
    rcases whole with zero | bank
    · rw [zero]
      exact ⟨fun _ => rfl, fun _ _ => rfl⟩
    · cases place with
      | ram bank index => exact ⟨fun _ => rfl, fun _ _ => rfl⟩
      | sram array index => exact absurd here (bank array index)
  refine ⟨fun loaded => ?_, fun stored => ?_⟩
  · rw [← read]
    exact loads loaded
  · apply replacesWord_write
    rw [stores stored]
    simp only [write]

section Past

variable (off : mmuEnabled state.mem.mmu = false)

include off

theorem wordPlace_withStorage (address : ARMword) (guest : Roms) (sram : SramBytes) :
    wordPlace board hops address (withStorage state guest sram).mem =
      wordPlace board hops address state.mem := by
  have same : mmuEnabled (withStorage state guest sram).mem.mmu = false := off
  exact (wordPlace_off board hops address same).trans (wordPlace_off board hops address off).symm

theorem fault_off (access : WordAccess) (instr : ARMword) :
    access.fault (dataBus board hops rest) state instr = .noFault := by
  have read (address : ARMword) :
      (boardRead board.toReadBoard hops .word state.mode address state.mem).fault = .noFault ∧
        (boardRead board.toReadBoard hops .word state.mode address state.mem).mem = state.mem := by
    rw [boardRead, dataRoute, off]
    exact ⟨rfl, rfl⟩
  have write (address data : ARMword) :
      (boardWrite board hops .word state.mode address data state.mem).fault = .noFault := by
    rw [boardWrite, storeRoute, off]
    rfl
  cases access with
  | ldr => exact (read _).1
  | str => exact write _ _
  | swp =>
      have quiet := (read (WordAccess.swp.address state instr)).1
      refine (if_pos quiet).trans ?_
      have kept := (read (WordAccess.swp.address state instr)).2
      exact Eq.trans
        (congrArg (fun mem => (boardWrite board hops .word state.mode _ _ mem).fault) kept)
        (write _ _)

end Past

theorem shows_apart {after : ARMulState (BoardMemory Hash)} {low : Nat} (behind : 0 < low)
    (inside : low < 4) (first : access.Shows instr after 0#32) :
    ¬access.Shows instr after ((0xff000000#32 : ARMword).rotateRight (8 * low)) := by
  have cases : low = 1 ∨ low = 2 ∨ low = 3 := by
    omega
  unfold WordAccess.Shows at first ⊢
  split_ifs at first ⊢
  · rw [first.1]
    rintro ⟨same, -⟩
    rcases cases with rfl | rfl | rfl <;> exact absurd same (by decide)
  · rw [first]
    intro same
    rcases cases with rfl | rfl | rfl <;> exact absurd same (by decide)

theorem wrong_behind (encodes : access.Encodes instr) (ready : BlockReady state instr)
    (off : mmuEnabled state.mem.mmu = false)
    (unaligned : access.address state instr &&& 3#32 ≠ 0#32) {array : HostArray} {index : Nat}
    (here : wordPlace board hops (access.address state instr) state.mem =
      some (.sram array index))
    (right : ∀ guest sram,
      let stored := withStorage state guest sram
      access.fault (dataBus board hops rest) stored instr = .noFault →
        access.Right board hops stored
          (executeArm (dataBus board hops rest) traps cops stored pc instr) instr) : False := by
  have low : 0 < (access.address state instr &&& 3#32).toNat := by
    rw [Nat.pos_iff_ne_zero]
    exact fun zero => unaligned (BitVec.eq_of_toNat_eq zero)
  have inside : (access.address state instr &&& 3#32).toNat < 4 := by
    rw [and_three_toNat]
    omega
  have guest := state.mem.machine.rest.other.guest
  have both (sram : SramBytes) :
      let stored := withStorage state guest sram
      let after := executeArm (dataBus board hops rest) traps cops stored pc instr
      let address := access.address state instr
      let place := WordPlace.sram array index
      let io := stored.mem.machine.rest.other
      (access ≠ .str →
        access.Shows instr after
            ((place.read (address &&& 3#32).toNat io).rotateRight
              (8 * (address &&& 3#32).toNat)) ∧
          access.Shows instr after
            ((place.read 0 io).rotateRight (8 * (address &&& 3#32).toNat))) ∧
        (access ≠ .ldr →
          place.read 0 (place.write (address &&& 3#32).toNat (access.data state instr) io) =
            access.data state instr) := by
    intro stored after address place io
    have storedReady : BlockReady stored instr :=
      ⟨ready.conditional, ready.passes, ready.isV4, ready.clear⟩
    have storedOff : mmuEnabled stored.mem.mmu = false := off
    have fine := @fault_off _ board hops rest stored storedOff access instr
    have found : wordPlace board hops (access.address stored instr) stored.mem = some place :=
      (wordPlace_withStorage board hops off (access.address state instr) guest sram).trans here
    obtain ⟨loads, stores⟩ :=
      access_does board hops rest traps cops pc encodes storedReady fine found
    obtain ⟨loadsRight, storesRight⟩ := right guest sram fine place found
    have shift : wordShift (access.address stored instr) stored.mem = (address &&& 3#32).toNat := by
      rw [wordShift, storedOff]
      rfl
    rw [shift] at loads stores
    refine ⟨fun loaded => ⟨loads loaded, loadsRight loaded⟩, fun stored' => ?_⟩
    have word := (storesRight stored').words place
    rw [stores stored', if_pos rfl] at word
    exact word
  by_cases loaded : access = .ldr
  · have shown := (both fun _ cell => if cell = 4 * index then 0xff#8 else 0#8).1
      (by rw [loaded]; decide)
    let marked := withStorage state guest fun _ cell => if cell = 4 * index then 0xff#8 else 0#8
    obtain ⟨behind, first⟩ := @read_marked _ marked.mem.machine.rest.other array index _ low rfl
    simp only [marked] at behind first
    rw [behind, first] at shown
    have zero : (0#32 : ARMword).rotateRight (8 * (access.address state instr &&& 3#32).toNat) =
        0#32 := by
      rw [← Shifter.rotateRight_eq _ _ (by omega)]
      simp
    rw [zero] at shown
    exact shows_apart low inside shown.1 shown.2
  · have word := (both fun _ _ => ~~~(access.data state instr).extractLsb' 24 8).2 loaded
    let stored := withStorage state guest fun _ _ => ~~~(access.data state instr).extractLsb' 24 8
    have first := @read_write_behind _ array index _ low (access.data state instr)
      stored.mem.machine.rest.other
    rw [word] at first
    have differs : ∀ byte : BitVec 8, byte ≠ ~~~byte := by
      decide
    exact differs _ first

/-- Word accesses take the word that the address lies in, whatever memory holds, exactly where
the unit is on, the address is that of a word, or it leads elsewhere than to SRAM. -/
theorem word_accesses_iff (encodes : access.Encodes instr) (ready : BlockReady state instr) :
    (∀ guest sram,
      let stored := withStorage state guest sram
      access.fault (dataBus board hops rest) stored instr = .noFault →
        access.Right board hops stored
          (executeArm (dataBus board hops rest) traps cops stored pc instr) instr) ↔
      mmuEnabled state.mem.mmu = true ∨ access.address state instr &&& 3#32 = 0#32 ∨
        ∀ array index, wordPlace board hops (access.address state instr) state.mem ≠
          some (.sram array index) := by
  constructor
  · intro right
    by_contra wrong
    simp only [not_or, not_forall, not_not] at wrong
    obtain ⟨disabled, unaligned, array, index, here⟩ := wrong
    have off : mmuEnabled state.mem.mmu = false := Bool.eq_false_iff.mpr disabled
    exact wrong_behind board hops rest traps cops pc encodes ready off unaligned here right
  · rintro whole guest sram stored fine
    have storedReady : BlockReady stored instr :=
      ⟨ready.conditional, ready.passes, ready.isV4, ready.clear⟩
    refine right_of_whole board hops rest traps cops pc encodes storedReady fine ?_
    cases on : mmuEnabled state.mem.mmu with
    | true =>
        left
        exact if_pos on
    | false =>
        rcases whole with enabled | aligned | elsewhere
        · exact absurd enabled (on ▸ Bool.false_ne_true)
        · left
          rw [wordShift, show mmuEnabled stored.mem.mmu = false from on,
            if_neg Bool.false_ne_true]
          exact congrArg BitVec.toNat aligned
        · right
          intro array index
          have same := wordPlace_withStorage board hops on (access.address state instr) guest sram
          exact fun found => elsewhere array index (same.symm.trans found)

end Whole

section Inputs

def starletBanks : List MappedBank :=
  [⟨⟨0x00000000#32, 0x01800000#32⟩, .ram⟩, ⟨⟨0x02000000#32, 0x01800000#32⟩, .aliasOf 0x00000000#32⟩,
    ⟨⟨0x10000000#32, 0x04000000#32⟩, .ram⟩, ⟨⟨0x0d800000#32, 0x00100000#32⟩, .io⟩,
    ⟨⟨0x0d000000#32, 0x00090000#32⟩, .io⟩, ⟨⟨0x0d400000#32, 0x00020000#32⟩, .io⟩,
    ⟨⟨0x0dc00000#32, 0x00020000#32⟩, .io⟩, ⟨⟨0xfff00000#32, 0x00100000#32⟩, .io⟩]

theorem starletBanks_outside (bank : MappedBank) (member : bank ∈ starletBanks) (addr : ARMword)
    (covers : bank.range.Covers addr) : flushWindow addr = false := by
  have ends : ∀ bank ∈ starletBanks,
      bank.range.addr.toNat + bank.range.len.toNat ≤ 0xe0000000 ∨
        0xe8000000 ≤ bank.range.addr.toNat := by
    decide
  obtain ⟨above, near⟩ := covers
  have base := BitVec.le_def.mp above
  rw [BitVec.lt_def, BitVec.toNat_sub_of_le above] at near
  simp only [flushWindow, Bool.and_eq_false_iff, decide_eq_false_iff_not, BitVec.le_def,
    BitVec.lt_def, BitVec.toNat_ofNat]
  rcases ends bank member with below | beyond <;> omega

def starletDataBoard : DataBoard Unit :=
  { bigend := true
    isXScale := false
    banks := starletBanks
    otp := fun _ => 0#32
    inserted := false
    ready := 1#32
    stale := 0#32
    images := zeroImages
    around :=
      { hashInput := fun hash digest _ => (hash, digest), guestWrite := fun _ guest _ _ => guest }
    devices :=
      { starletBoard with
        memWrite := fun _ io _ _ => io
        plainWrite := fun _ io _ _ => io
        arm2host := fun _ _ _ => 0#8
        sha1Input := fun io digest _ => (io, digest)
        nandSend := fun io _ _ => io
        nandData := fun _ _ => 0#8
        nandRead := fun io _ => io
        nandProgram := fun io _ => io }
    copies := fun _ machine _ _ => machine
    aligned := by decide
    aliased := by
      intro bank member dest isAlias
      have zero : ∀ bank ∈ starletBanks, bank.kind = .ram ∨ bank.kind = .io ∨
          bank.kind = .aliasOf 0x00000000#32 := by
        decide
      rcases zero bank member with ram | io | null
      · exact BankKind.noConfusion (ram.symm.trans isAlias)
      · exact BankKind.noConfusion (io.symm.trans isAlias)
      · rw [← BankKind.aliasOf.inj (null.symm.trans isAlias)]
        decide
    outside := starletBanks_outside }

/-- RAM of one word, SRAM whose bytes count up in steps of 0x11, and an address in `r1`. -/
def countingState (address : ARMword) : ARMulState (BoardMemory Unit) :=
  (coreAt svc32mode false 0x100#32
    { mmu := arm926ejsMmuInit
      machine := (plainMachine (fun _ _ => 0x11223344#32) ()).onOther fun io =>
        { io with sram := fun _ index => BitVec.ofNat 8 (0x11 * (index + 1)) } }).setReg 1#4 address

/-- `ldr r0, [r1]` one byte behind the beginning of SRAM: the word there is 0x11223344, which
would give 0x44112233. -/
theorem unaligned_sram_load :
    let state := countingState 0x0d400001#32
    let after := executeArm (dataBus starletDataBoard 2 silentBus) plainTraps silentCoprocessors
      state 0x100#32 0xe5910000#32
    WordAccess.ldr.fault (dataBus starletDataBoard 2 silentBus) state 0xe5910000#32 = .noFault ∧
      after.reg 0#4 = 0x55223344#32 ∧
      ¬WordAccess.ldr.Right starletDataBoard 2 state after 0xe5910000#32 := by
  intro state after
  have encodes : WordAccess.ldr.Encodes 0xe5910000#32 := by
    refine ⟨⟨?_, ?_⟩, ?_, ?_⟩ <;> decide
  have ready : BlockReady state 0xe5910000#32 := by
    constructor <;> decide
  have fetched : WordAccess.ldr.fault (dataBus starletDataBoard 2 silentBus) state 0xe5910000#32 =
      .noFault :=
    fault_off starletDataBoard 2 silentBus (by decide) .ldr 0xe5910000#32
  have here : wordPlace starletDataBoard 2 0x0d400001#32 (countingState 0x0d400001#32).mem =
      some (.sram .srama 0) := by
    rfl
  obtain ⟨loads, -⟩ := access_does starletDataBoard 2 silentBus plainTraps silentCoprocessors
    0x100#32 encodes ready fetched here
  have loaded : after.reg 0#4 = 0x55223344#32 := (loads (by decide)).trans (by decide)
  refine ⟨fetched, loaded, ?_⟩
  intro right
  obtain ⟨shows, -⟩ := right (.sram .srama 0) here
  have value : after.reg 0#4 = 0x44112233#32 := (shows (by decide)).trans (by decide)
  exact absurd (loaded.symm.trans value) (by decide)

/-- The same load from RAM gives the word rotated. -/
theorem word_accesses_iff_ram :
    (executeArm (dataBus starletDataBoard 2 silentBus) plainTraps silentCoprocessors
      (countingState 0x10000001#32) 0x100#32 0xe5910000#32).reg 0#4 = 0x44112233#32 := by
  have encodes : WordAccess.ldr.Encodes 0xe5910000#32 := by
    refine ⟨⟨?_, ?_⟩, ?_, ?_⟩ <;> decide
  have ready : BlockReady (countingState 0x10000001#32) 0xe5910000#32 := by
    constructor <;> decide
  have bank : wordPlace starletDataBoard 2 0x10000001#32 (countingState 0x10000001#32).mem =
      some (.ram 2 0#30) := by
    rfl
  have elsewhere : ∀ array index, wordPlace starletDataBoard 2 0x10000001#32
      (countingState 0x10000001#32).mem ≠ some (.sram array index) := by
    intro array index found
    cases bank.symm.trans found
  have right := (word_accesses_iff starletDataBoard 2 silentBus plainTraps silentCoprocessors
    0x100#32 encodes ready).mpr (.inr (.inr elsewhere))
    (fun _ _ => 0x11223344#32) (fun _ index => BitVec.ofNat 8 (0x11 * (index + 1))) (by rfl)
  obtain ⟨shows, -⟩ := right (.ram 2 0#30) (by rfl)
  exact (shows (by decide)).trans (by decide)

end Inputs

end SkyeyeStarlet
