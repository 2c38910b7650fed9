import SkyeyeStarlet.NandCore

/-!
A page that is erased, programmed in parts and read through the NAND controller.  Between
commands the pins are at rest whatever came before, so the commands of the sequence find the
chip in a known state; what they do to it is said once for each of them.
-/

namespace SkyeyeStarlet

open RangeUpdate

def restPins : NandPins :=
  { cle := false, ale := false, ce := false, we := true, re := true, wp := true }

section Latches

variable {chip : NandChip}

theorem sendcmd_rest (rest : chip.pins = restPins) (command : BitVec 8) :
    chip.sendcmd command = NandChip.docmd { chip with iopin := command, iostatus := .cmd } := by
  let latched : NandChip :=
    { chip with
      pins := { restPins with cle := true, we := false }
      iopin := command
      iostatus := .cmd }
  have edge : chip.sendcmd command =
      { latched.docmd with pins := { latched.docmd.pins with we := true, cle := false } } := by
    obtain ⟨pins, _⟩ := chip
    cases rest
    rfl
  rw [edge]
  obtain ⟨pins, iopin, status, cmd, cmdstatus, iostatus, _⟩ := chip
  cases rest
  unfold NandChip.docmd
  dsimp only [latched]
  split
  case h_7 =>
    split
    · rfl
    · rfl
  case h_10 =>
    split
    · rfl
    · rfl
  all_goals rfl

theorem docmd_kept (chip : NandChip) :
    (chip.docmd.pins = chip.pins ∨ chip.docmd.pins = { restPins with ce := chip.pins.ce }) ∧
      chip.docmd.pagefmtsize = chip.pagefmtsize := by
  unfold NandChip.docmd
  split
  case h_3 => exact ⟨Or.inr rfl, rfl⟩
  case h_7 =>
    dsimp only
    split
    · rw [NandChip.doerase]
      split
      · exact ⟨Or.inl rfl, rfl⟩
      · exact ⟨Or.inl rfl, rfl⟩
    · exact ⟨Or.inl rfl, rfl⟩
  case h_10 =>
    split
    · rw [NandChip.finishwrite]
      split
      · exact ⟨Or.inl rfl, rfl⟩
      · exact ⟨Or.inl rfl, rfl⟩
    · exact ⟨Or.inl rfl, rfl⟩
  all_goals exact ⟨Or.inl rfl, rfl⟩

/-- An operation of the chip that leaves its pins and the format of its pages. -/
structure SameWiring (chip after : NandChip) : Prop where
  pins : after.pins = chip.pins
  format : after.pagefmtsize = chip.pagefmtsize

theorem doaddr_kept (chip : NandChip) : SameWiring chip chip.doaddr := by
  unfold NandChip.doaddr
  dsimp only
  split
  case h_2 =>
    split
    · exact ⟨rfl, rfl⟩
    · exact ⟨rfl, rfl⟩
  case h_5 =>
    split
    · exact ⟨rfl, rfl⟩
    · split
      · exact ⟨rfl, rfl⟩
      · split
        · exact ⟨rfl, rfl⟩
        · exact ⟨rfl, rfl⟩
  all_goals exact ⟨rfl, rfl⟩

theorem sendaddr_rest (rest : chip.pins = restPins) (data : BitVec 8) :
    chip.sendaddr data = NandChip.doaddr { chip with iopin := data, iostatus := .addr } := by
  let latched : NandChip :=
    { chip with
      pins := { restPins with ale := true, we := false }
      iopin := data
      iostatus := .addr }
  have edge : chip.sendaddr data =
      { latched.doaddr with pins := { latched.doaddr.pins with we := true, ale := false } } := by
    obtain ⟨pins, _⟩ := chip
    cases rest
    rfl
  rw [edge]
  obtain ⟨pins, iopin, status, cmd, cmdstatus, iostatus, _⟩ := chip
  cases rest
  unfold NandChip.doaddr
  dsimp only [latched]
  split
  case h_2 =>
    split
    · rfl
    · rfl
  case h_5 =>
    split
    · rfl
    · split
      · rfl
      · split
        · rfl
        · rfl
  all_goals rfl

theorem senddata_edge (rest : chip.pins = restPins) (data : BitVec 8) :
    let latched : NandChip :=
      { chip with pins := { restPins with we := false }, iopin := data }
    let taken :=
      match chip.iostatus with
      | .cmd => latched.docmd
      | .addr => latched.doaddr
      | .dataWrite => latched.dodatawrite
      | _ => latched
    chip.senddata data = { taken with pins := { taken.pins with we := true } } := by
  obtain ⟨pins, _⟩ := chip
  cases rest
  rfl

theorem senddata_write (rest : chip.pins = restPins) (writing : chip.iostatus = .dataWrite)
    (data : BitVec 8) :
    chip.senddata data =
      { chip with
        iopin := data
        writebuffer := Function.update chip.writebuffer chip.pageoffset data
        pageoffset := chip.pageoffset + 1#16 } := by
  obtain ⟨pins, iopin, status, cmd, cmdstatus, iostatus, _⟩ := chip
  cases rest
  cases writing
  rfl

theorem doread_kept (chip : NandChip) : SameWiring chip chip.doread := by
  unfold NandChip.doread
  dsimp only
  split
  · split
    · exact ⟨rfl, rfl⟩
    · exact ⟨rfl, rfl⟩
  · exact ⟨rfl, rfl⟩

theorem doreadid_kept (chip : NandChip) : SameWiring chip chip.doreadid := by
  unfold NandChip.doreadid
  split
  all_goals exact ⟨rfl, rfl⟩

def NandChip.driven (chip : NandChip) : NandChip :=
  match chip.iostatus with
  | .dataRead => chip.doread
  | .idRead => chip.doreadid
  | .statusRead => { chip with iopin := chip.status }
  | _ => chip

theorem driven_kept (chip : NandChip) : SameWiring chip chip.driven := by
  unfold NandChip.driven
  split
  · exact doread_kept chip
  · exact doreadid_kept chip
  · exact ⟨rfl, rfl⟩
  · exact ⟨rfl, rfl⟩

theorem setRE_falls (rest : chip.pins = restPins) :
    chip.setRE false = { chip.driven with pins := { chip.driven.pins with re := false } } := by
  obtain ⟨pins, _⟩ := chip
  cases rest
  rfl

theorem readdata_rest (rest : chip.pins = restPins) :
    chip.readdata = (chip.driven.iopin, chip.driven) := by
  have levels : chip.driven.pins = restPins := (driven_kept chip).pins.trans rest
  have falls := setRE_falls rest
  have rises : (chip.setRE false).setRE true = chip.driven := by
    rw [falls, levels]
    generalize chip.driven = driven at levels
    obtain ⟨pins, _⟩ := driven
    cases levels
    rfl
  have shown : (chip.setRE false).readio = chip.driven.iopin := by
    rw [falls, levels]
    rfl
  rw [NandChip.readdata, rises, shown]

end Latches

section Rest

variable {chip : NandChip}

structure AtRest (chip : NandChip) : Prop where
  pins : chip.pins = restPins
  format : chip.pagefmtsize = 0x840#16

theorem SameWiring.atRest {after : NandChip} (kept : SameWiring chip after) (rest : AtRest chip) :
    AtRest after := by
  exact ⟨kept.pins.trans rest.pins, kept.format.trans rest.format⟩

theorem sendcmd_kept (rest : chip.pins = restPins) (command : BitVec 8) :
    SameWiring chip (chip.sendcmd command) := by
  rw [sendcmd_rest rest]
  obtain ⟨pins, format⟩ := docmd_kept { chip with iopin := command, iostatus := .cmd }
  refine ⟨?_, format⟩
  rcases pins with same | reset
  · exact same
  · rw [reset]
    show { restPins with ce := chip.pins.ce } = chip.pins
    rw [rest]

theorem sendaddr_kept (rest : chip.pins = restPins) (data : BitVec 8) :
    SameWiring chip (chip.sendaddr data) := by
  rw [sendaddr_rest rest]
  exact ⟨(doaddr_kept _).pins, (doaddr_kept _).format⟩

theorem senddata_kept (rest : chip.pins = restPins) (data : BitVec 8) :
    SameWiring chip (chip.senddata data) := by
  rw [senddata_edge rest]
  dsimp only
  split
  · obtain ⟨pins, format⟩ :=
      docmd_kept { chip with pins := { restPins with we := false }, iopin := data }
    refine ⟨?_, format⟩
    rcases pins with same | reset
    · rw [same, rest]
      rfl
    · rw [reset, rest]
      rfl
  · refine ⟨?_, (doaddr_kept _).format⟩
    rw [(doaddr_kept _).pins, rest]
    rfl
  · rw [NandChip.dodatawrite]
    exact ⟨rest.symm, rfl⟩
  · exact ⟨rest.symm, rfl⟩

theorem readdata_kept (rest : chip.pins = restPins) : SameWiring chip chip.readdata.2 := by
  rw [readdata_rest rest]
  exact driven_kept chip

theorem AtRest.sendcmd (rest : AtRest chip) (command : BitVec 8) :
    AtRest (chip.sendcmd command) := by
  exact (sendcmd_kept rest.pins command).atRest rest

theorem AtRest.sendaddr (rest : AtRest chip) (data : BitVec 8) : AtRest (chip.sendaddr data) := by
  exact (sendaddr_kept rest.pins data).atRest rest

theorem AtRest.senddata (rest : AtRest chip) (data : BitVec 8) : AtRest (chip.senddata data) := by
  exact (senddata_kept rest.pins data).atRest rest

theorem AtRest.readdata (rest : AtRest chip) : AtRest chip.readdata.2 := by
  exact (readdata_kept rest.pins).atRest rest

theorem atRest_installed (dump : BitVec 32 → BitVec 8) : AtRest (NandChip.installed dump) := by
  exact ⟨rfl, rfl⟩

theorem AtRest.afterReads (rest : AtRest chip) (count : Nat) : AtRest (chip.afterReads count) := by
  induction count with
  | zero => exact rest
  | succ count ih => exact ih.readdata

theorem AtRest.program (rest : AtRest chip) (data : Bytes) :
    AtRest (data.foldl NandChip.senddata chip) := by
  induction data generalizing chip with
  | nil => exact rest
  | cons byte bytes ih => exact ih (rest.senddata byte)

def NandChip.send (chip : NandChip) (command : BitVec 8) (addresses : Bytes) : NandChip :=
  addresses.foldl NandChip.sendaddr (chip.sendcmd command)

theorem AtRest.send (rest : AtRest chip) (command : BitVec 8) (addresses : Bytes) :
    AtRest (chip.send command addresses) := by
  have cycles (addresses : Bytes) {chip : NandChip} (rest : AtRest chip) :
      AtRest (addresses.foldl NandChip.sendaddr chip) := by
    induction addresses generalizing chip with
    | nil => exact rest
    | cons address others ih => exact ih (rest.sendaddr address)
  exact cycles addresses (rest.sendcmd command)

end Rest

section Commands

variable {chip : NandChip}

def rowAddress (first second third : BitVec 8) : BitVec 32 :=
  (first.setWidth 32 ||| (second.setWidth 32 <<< 8)) ||| (third.setWidth 32 <<< 16)

def columnAddress (first second : BitVec 8) : BitVec 16 :=
  first.setWidth 16 ||| (second.setWidth 16 <<< 8)

theorem addr3rd_cycle (rest : chip.pins = restPins) (turn : chip.cmdstatus = .addr3rd)
    (data : BitVec 8) :
    chip.sendaddr data =
      { chip with
        iopin := data, iostatus := .addr, pagenum := data.setWidth 32, cmdstatus := .addr4th } := by
  rw [sendaddr_rest rest, NandChip.doaddr]
  simp only [turn]

theorem addr4th_cycle (rest : chip.pins = restPins) (turn : chip.cmdstatus = .addr4th)
    (data : BitVec 8) :
    chip.sendaddr data =
      { chip with
        iopin := data
        iostatus := .addr
        pagenum := chip.pagenum ||| (data.setWidth 32 <<< 8)
        cmdstatus := .addr5th } := by
  rw [sendaddr_rest rest, NandChip.doaddr]
  simp only [turn]

theorem row_cycles (rest : chip.pins = restPins) (turn : chip.cmdstatus = .addr3rd)
    (first second third : BitVec 8) :
    [first, second, third].foldl NandChip.sendaddr chip =
      NandChip.doaddr
        { chip with
          iopin := third
          iostatus := .addr
          pagenum := first.setWidth 32 ||| (second.setWidth 32 <<< 8)
          cmdstatus := .addr5th } := by
  rw [List.foldl_cons, List.foldl_cons, List.foldl_cons, List.foldl_nil,
    addr3rd_cycle rest turn, addr4th_cycle (by exact rest) (by rfl) second,
    sendaddr_rest (by exact rest)]

theorem column_cycles (rest : chip.pins = restPins) (turn : chip.cmdstatus = .addr1st)
    (long : chip.cmd ≠ 0x85#8) (first second : BitVec 8) :
    (chip.sendaddr first).sendaddr second =
      { chip with
        iopin := second
        iostatus := .addr
        pageoffset := columnAddress first second
        cmdstatus := .addr3rd } := by
  have column : chip.sendaddr first =
      { chip with
        iopin := first
        iostatus := .addr
        pageoffset := first.setWidth 16
        cmdstatus := .addr2nd } := by
    rw [sendaddr_rest rest, NandChip.doaddr]
    simp only [turn]
  rw [column, sendaddr_rest (by exact rest), NandChip.doaddr]
  simp only [long, if_false, columnAddress]

theorem send_erase1 (rest : chip.pins = restPins) (first second third : BitVec 8) :
    chip.send 0x60#8 [first, second, third] =
      { chip with
        iopin := third
        cmd := 0x60#8
        cmdstatus := .addrFinish
        iostatus := .cmd
        pagenum := rowAddress first second third
        pageoffset := 0#16 } := by
  rw [NandChip.send, sendcmd_rest rest, row_cycles (by exact rest) (by rfl)]
  rfl

theorem send_erase2 (rest : chip.pins = restPins) (cmd : chip.cmd = 0x60#8)
    (finished : chip.cmdstatus = .addrFinish) :
    chip.send 0xd0#8 [] =
      { chip with
        iopin := 0xd0#8
        cmd := 0xff#8
        iostatus := .cmd
        addrspace := updateRange chip.addrspace
          ((chip.pagenum &&& ~~~0x3f#32) * chip.pagefmtsize.setWidth 32) (fun _ _ => 0xff#8)
          erasesize } := by
  obtain ⟨pins, iopin, status, _⟩ := chip
  cases rest
  cases cmd
  cases finished
  rfl

theorem send_seqin (rest : chip.pins = restPins) (column0 column1 first second third : BitVec 8) :
    chip.send 0x80#8 [column0, column1, first, second, third] =
      { chip with
        iopin := third
        cmd := 0x80#8
        cmdstatus := .addrFinish
        iostatus := .dataWrite
        writebuffer := updateRange chip.writebuffer 0#16 (fun _ _ => 0xff#8) pagedumpsize
        pagenum := rowAddress first second third
        pageoffset := columnAddress column0 column1 } := by
  rw [NandChip.send, sendcmd_rest rest, List.foldl_cons, List.foldl_cons,
    column_cycles (by exact rest) (by rfl) (by exact (by decide : (0x80#8 : BitVec 8) ≠ 0x85#8)),
    row_cycles (by exact rest) (by rfl)]
  rfl

theorem send_randin (rest : chip.pins = restPins) (column0 column1 : BitVec 8) :
    chip.send 0x85#8 [column0, column1] =
      { chip with
        iopin := column1
        cmd := 0x85#8
        cmdstatus := .addrFinish
        iostatus := .dataWrite
        pageoffset := columnAddress column0 column1 } := by
  rw [NandChip.send, sendcmd_rest rest, List.foldl_cons, List.foldl_cons, List.foldl_nil,
    sendaddr_rest (by exact rest) column0, sendaddr_rest (by exact rest) column1]
  rfl

theorem send_pageprog (rest : chip.pins = restPins)
    (cmd : chip.cmd = 0x80#8 ∨ chip.cmd = 0x85#8) (finished : chip.cmdstatus = .addrFinish) :
    chip.send 0x10#8 [] =
      { chip with
        iopin := 0x10#8
        cmd := 0x10#8
        iostatus := .cmd
        addrspace := updateRange chip.addrspace (chip.pagenum * chip.pagefmtsize.setWidth 32)
          (fun i old => old &&& chip.writebuffer (BitVec.ofNat 16 i)) pagedumpsize } := by
  obtain ⟨pins, iopin, status, command, cmdstatus, _⟩ := chip
  cases rest
  cases finished
  rcases cmd with rfl | rfl
  · rfl
  · rfl

theorem send_read0 (rest : chip.pins = restPins) (column0 column1 first second third : BitVec 8) :
    chip.send 0x00#8 [column0, column1, first, second, third] =
      { chip with
        iopin := third
        cmd := 0x00#8
        cmdstatus := .addr5th
        iostatus := .addr
        pagenum := rowAddress first second third
        pageoffset := columnAddress column0 column1 } := by
  rw [NandChip.send, sendcmd_rest rest, List.foldl_cons, List.foldl_cons,
    column_cycles (by exact rest) (by rfl) (by exact (by decide : (0x00#8 : BitVec 8) ≠ 0x85#8)),
    row_cycles (by exact rest) (by rfl)]
  rfl

theorem send_read0b (rest : chip.pins = restPins) :
    chip.send 0x30#8 [] = { chip with iopin := 0x30#8, iostatus := .dataRead } := by
  obtain ⟨pins, _⟩ := chip
  cases rest
  rfl

end Commands

section Pages

variable {chip : NandChip} {page : BitVec 32}

structure Programming (page : BitVec 32) (chip : NandChip) : Prop where
  rest : AtRest chip
  cmd : chip.cmd = 0x80#8 ∨ chip.cmd = 0x85#8
  finished : chip.cmdstatus = .addrFinish
  writing : chip.iostatus = .dataWrite
  pagenum : chip.pagenum = page

theorem Programming.senddata (programming : Programming page chip) (byte : BitVec 8) :
    Programming page (chip.senddata byte) := by
  have next := senddata_write programming.rest.pins programming.writing byte
  refine ⟨programming.rest.senddata byte, ?_, ?_, ?_, ?_⟩
  · rw [next]
    exact programming.cmd
  · rw [next]
    exact programming.finished
  · rw [next]
    exact programming.writing
  · rw [next]
    exact programming.pagenum

theorem Programming.data (programming : Programming page chip) (data : Bytes) :
    Programming page (data.foldl NandChip.senddata chip) ∧
      (data.foldl NandChip.senddata chip).addrspace = chip.addrspace ∧
      (data.foldl NandChip.senddata chip).writebuffer =
        updateRange chip.writebuffer chip.pageoffset (fun i _ => data.getD i 0#8) data.length := by
  induction data generalizing chip with
  | nil => exact ⟨programming, rfl, (updateRange_zero _ _ _).symm⟩
  | cons byte bytes ih =>
      obtain ⟨after, space, buffer⟩ := ih (programming.senddata byte)
      have next := senddata_write programming.rest.pins programming.writing byte
      rw [next] at space buffer
      refine ⟨after, ?_, ?_⟩
      · rw [List.foldl_cons, next]
        exact space
      · rw [List.foldl_cons, next, List.length_cons, updateRange_cons]
        exact buffer

def pageCount : Nat :=
  262144

def pageCell (page : BitVec 32) (index : Nat) : BitVec 32 :=
  page * 0x840#32 + BitVec.ofNat 32 index

theorem pageCell_toNat (bound : page.toNat < pageCount) {index : Nat} (inside : index < 0x840) :
    (pageCell page index).toNat = page.toNat * 0x840 + index := by
  unfold pageCount at bound
  rw [pageCell, BitVec.toNat_add, BitVec.toNat_mul, BitVec.toNat_ofNat, BitVec.toNat_ofNat]
  omega

structure PageReading (page : BitVec 32) (offset : Nat) (chip : NandChip) : Prop where
  rest : AtRest chip
  reading : chip.iostatus = .dataRead
  pagenum : chip.pagenum = page
  pageoffset : chip.pageoffset = BitVec.ofNat 16 offset

theorem PageReading.doread {offset : Nat} (reading : PageReading page offset chip)
    (bound : page.toNat < pageCount) (inside : offset < 0x840) :
    chip.driven =
      let read :=
        { chip with
          iopin := chip.addrspace (pageCell page offset)
          pageoffset := BitVec.ofNat 16 (offset + 1) }
      if offset + 1 = 0x840 then { read with pagenum := page + 1#32, pageoffset := 0#16 }
      else read := by
  have wide : (BitVec.ofNat 16 offset).setWidth 32 = BitVec.ofNat 32 offset := by
    apply BitVec.eq_of_toNat_eq
    rw [BitVec.toNat_setWidth, BitVec.toNat_ofNat, BitVec.toNat_ofNat]
    omega
  have next : BitVec.ofNat 16 offset + 1#16 = BitVec.ofNat 16 (offset + 1) := by
    rw [BitVec.ofNat_add]
  have last : BitVec.ofNat 16 (offset + 1) = 0x840#16 ↔ offset + 1 = 0x840 := by
    constructor
    · intro full
      have count := congrArg BitVec.toNat full
      simp only [BitVec.toNat_ofNat] at count
      omega
    · intro full
      rw [full]
  have stored : (page * 0x840#32 + BitVec.ofNat 32 offset).toNat < devicesize := by
    have cell := pageCell_toNat bound inside
    have size : devicesize = pageCount * 0x840 := by
      decide
    unfold pageCell at cell
    omega
  obtain ⟨pins, iopin, status, cmd, cmdstatus, iostatus, buffer, pagenum, pageoffset, space,
    pagefmtsize, exited⟩ := chip
  obtain ⟨⟨pins, format⟩, turn, row, column⟩ := reading
  dsimp only at format turn row column
  subst format turn row column
  have format : (0x840#16 : BitVec 16).setWidth 32 = 0x840#32 := by
    decide
  simp only [NandChip.driven, NandChip.doread, wide, next, last, stored, if_true, format, pageCell]

theorem PageReading.next {offset : Nat} (reading : PageReading page offset chip)
    (bound : page.toNat < pageCount) (inside : offset + 1 < 0x840) :
    PageReading page (offset + 1) chip.readdata.2 := by
  have driven := reading.doread bound (by omega)
  dsimp only at driven
  rw [if_neg (by omega)] at driven
  have after : chip.readdata.2 = chip.driven := by
    rw [readdata_rest reading.rest.pins]
  refine ⟨reading.rest.readdata, ?_, ?_, ?_⟩
  · rw [after, driven]
    exact reading.reading
  · rw [after, driven]
    exact reading.pagenum
  · rw [after, driven]

theorem readdata_addrspace (rest : AtRest chip) : chip.readdata.2.addrspace = chip.addrspace := by
  rw [readdata_rest rest.pins]
  unfold NandChip.driven
  split
  · unfold NandChip.doread
    dsimp only
    split
    · split
      · rfl
      · rfl
    · rfl
  · unfold NandChip.doreadid
    split
    all_goals rfl
  · rfl
  · rfl

theorem afterReads_addrspace (rest : AtRest chip) (count : Nat) :
    (chip.afterReads count).addrspace = chip.addrspace := by
  induction count with
  | zero => rfl
  | succ count ih => exact (readdata_addrspace (rest.afterReads count)).trans ih

theorem PageReading.after (reading : PageReading page 0 chip) (bound : page.toNat < pageCount)
    {count : Nat} (inside : count < 0x840) : PageReading page count (chip.afterReads count) := by
  induction count with
  | zero => exact reading
  | succ count ih => exact (ih (by omega)).next bound inside

theorem PageReading.byte (reading : PageReading page 0 chip) (bound : page.toNat < pageCount)
    {index : Nat} (inside : index < 0x840) :
    (chip.afterReads index).readdata.1 = chip.addrspace (pageCell page index) := by
  have now := reading.after bound inside
  rw [readdata_rest now.rest.pins, now.doread bound inside,
    ← afterReads_addrspace reading.rest index]
  dsimp only
  split
  · rfl
  · rfl

end Pages

end SkyeyeStarlet
