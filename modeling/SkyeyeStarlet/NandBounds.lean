import SkyeyeStarlet.NandAccount

/-!
The elements of `writebuffer` and of the mapped dump that the NAND flash touches while the
controller drives it.  Offsets and page numbers come from the guest and are compared with
nothing, except in a read, where the comparison uses another size of page than the access.
The account that a driver keeps of what it sends decides which histories stay inside.
-/

namespace SkyeyeStarlet

open RangeUpdate Runs

inductive NandBuffer where
  | writebuffer
  | addrspace
  deriving DecidableEq, Repr

structure NandAccess where
  buffer : NandBuffer
  index : Nat
  deriving DecidableEq, Repr

def NandAccess.InRange (mapped : Nat) (access : NandAccess) : Prop :=
  match access.buffer with
  | .writebuffer => access.index < pagedumpsize
  | .addrspace => access.index < mapped

section Operations

/-- `memset(nf->writebuffer, 0xFF, dev->pagedumpsize)`. -/
def blankAccesses : List NandAccess :=
  (List.range pagedumpsize).map (NandAccess.mk .writebuffer)

/-- `nf->addrspace[base+i]` for `i` up to a length; the sum is one of 32-bit words. -/
def dumpAccesses (base : BitVec 32) (len : Nat) : List NandAccess :=
  (List.range len).map fun i => ⟨.addrspace, (base + BitVec.ofNat 32 i).toNat⟩

def NandChip.doeraseAccesses (chip : NandChip) : List NandAccess :=
  if chip.pins.wp then
    dumpAccesses ((chip.pagenum &&& ~~~0x3f#32) * chip.pagefmtsize.setWidth 32) erasesize
  else []

def NandChip.dodatawriteAccesses (chip : NandChip) : List NandAccess :=
  if chip.pins.wp then [⟨.writebuffer, chip.pageoffset.toNat⟩] else []

def NandChip.finishwriteAccesses (chip : NandChip) : List NandAccess :=
  if chip.pins.wp then
    dumpAccesses (chip.pagenum * chip.pagefmtsize.setWidth 32) pagedumpsize ++ blankAccesses
  else []

def NandChip.doreadAccesses (chip : NandChip) : List NandAccess :=
  if (chip.pagenum * 0x840#32 + chip.pageoffset.setWidth 32).toNat < devicesize then
    [⟨.addrspace, (chip.pagenum * chip.pagefmtsize.setWidth 32).toNat + chip.pageoffset.toNat⟩]
  else []

def NandChip.docmdAccesses (chip : NandChip) : List NandAccess :=
  match chip.iopin.toNat with
  | 0xff => blankAccesses
  | 0x80 => blankAccesses
  | 0xd0 =>
      if chip.cmd = 0x60#8 ∧ chip.cmdstatus = .addrFinish then chip.doeraseAccesses else []
  | 0x10 =>
      if (chip.cmd = 0x80#8 ∨ chip.cmd = 0x85#8) ∧ chip.cmdstatus = .addrFinish then
        chip.finishwriteAccesses
      else []
  | _ => []

def NandChip.setWEAccesses (chip : NandChip) (level : Bool) : List NandAccess :=
  if !chip.pins.we && level && !chip.pins.ce then
    match chip.iostatus with
    | .cmd => chip.docmdAccesses
    | .dataWrite => chip.dodatawriteAccesses
    | _ => []
  else []

def NandChip.setREAccesses (chip : NandChip) (level : Bool) : List NandAccess :=
  if chip.pins.re && !level && !chip.pins.ce then
    match chip.iostatus with
    | .dataRead => chip.doreadAccesses
    | _ => []
  else []

end Operations

def NandChip.cycle (chip : NandChip) : NandCycle → NandChip
  | .command byte => chip.sendcmd byte
  | .address byte => chip.sendaddr byte
  | .dataIn byte => chip.senddata byte
  | .dataOut => chip.readdata.2

/-- The elements that a cycle touches.  The write enable falls and rises, the read enable
likewise; the command and address latches are opened before. -/
def NandChip.cycleAccesses (chip : NandChip) : NandCycle → List NandAccess
  | .command byte =>
      let opened := chip.setCLE true
      opened.setWEAccesses false ++ ((opened.setWE false).writeio byte).setWEAccesses true
  | .address byte =>
      let opened := chip.setALE true
      opened.setWEAccesses false ++ ((opened.setWE false).writeio byte).setWEAccesses true
  | .dataIn byte =>
      chip.setWEAccesses false ++ ((chip.setWE false).writeio byte).setWEAccesses true
  | .dataOut => chip.setREAccesses false ++ (chip.setRE false).setREAccesses true

def NandChip.runAccesses : NandChip → List NandCycle → List NandAccess
  | _, [] => []
  | chip, cycle :: rest => chip.cycleAccesses cycle ++ (chip.cycle cycle).runAccesses rest

section Accounts

def purposeOf (cmd : BitVec 8) : NandPurpose :=
  match cmd.toNat with
  | 0x80 => .program
  | 0x85 => .random
  | 0x60 => .erase
  | 0x90 => .identify
  | _ => .other

def progressOf : CmdStatus → NandProgress
  | .addr1st => .column0
  | .addr2nd => .column1
  | .addr3rd => .row0
  | .addr4th => .row1
  | .addr5th => .row2
  | .addrFinish => .complete
  | _ => .closed

def takenOf : IoStatus → NandTaken
  | .cmd => .command
  | .addr => .address
  | .dataWrite => .store
  | .dataRead => .fetch
  | _ => .idle

def NandChip.account (chip : NandChip) : NandAccount :=
  { purpose := purposeOf chip.cmd
    progress := progressOf chip.cmdstatus
    taken := takenOf chip.iostatus
    row := chip.pagenum
    column := chip.pageoffset }

theorem purpose_cases (cmd : BitVec 8) :
    (cmd = 0x80#8 ∧ purposeOf cmd = .program) ∨ (cmd = 0x85#8 ∧ purposeOf cmd = .random) ∨
      (cmd = 0x60#8 ∧ purposeOf cmd = .erase) ∨ (cmd = 0x90#8 ∧ purposeOf cmd = .identify) ∨
        (cmd ≠ 0x80#8 ∧ cmd ≠ 0x85#8 ∧ cmd ≠ 0x60#8 ∧ cmd ≠ 0x90#8 ∧ purposeOf cmd = .other) := by
  revert cmd
  decide

theorem progress_complete_iff (turn : CmdStatus) :
    progressOf turn = .complete ↔ turn = .addrFinish := by
  cases turn
  all_goals decide

theorem purpose_erase_iff (cmd : BitVec 8) : purposeOf cmd = .erase ↔ cmd = 0x60#8 := by
  revert cmd
  decide

theorem purpose_programs_iff (cmd : BitVec 8) :
    purposeOf cmd = .program ∨ purposeOf cmd = .random ↔ cmd = 0x80#8 ∨ cmd = 0x85#8 := by
  revert cmd
  decide

theorem account_programs_iff (chip : NandChip) :
    chip.account.programs ↔
      (chip.cmd = 0x80#8 ∨ chip.cmd = 0x85#8) ∧ chip.cmdstatus = .addrFinish := by
  rw [← purpose_programs_iff, ← progress_complete_iff]
  rfl

theorem docmd_account (chip : NandChip) (latched : chip.iostatus = .cmd) :
    chip.docmd.account = chip.account.command chip.iopin := by
  unfold NandChip.docmd NandAccount.command
  split
  case h_7 code =>
    dsimp only
    split
    · rw [NandChip.doerase]
      split
      all_goals simp only [NandChip.account, latched, code]; rfl
    · simp only [NandChip.account, latched, code]
      rfl
  case h_10 code =>
    by_cases confirmed : (chip.cmd = 0x80#8 ∨ chip.cmd = 0x85#8) ∧ chip.cmdstatus = .addrFinish
    · simp only [code, if_pos confirmed, if_pos ((account_programs_iff chip).mpr confirmed)]
      rw [NandChip.finishwrite]
      split
      all_goals simp only [NandChip.account, latched]; rfl
    · simp only [code, if_neg confirmed,
        if_neg fun programs => confirmed ((account_programs_iff chip).mp programs)]
      simp only [NandChip.account, latched]
      rfl
  all_goals simp only [*, NandChip.account]; rfl

theorem doaddr_account (chip : NandChip) (latched : chip.iostatus = .addr)
    (known : chip.cmdstatus ≠ .readIDAddr) :
    chip.doaddr.account = chip.account.address chip.iopin := by
  unfold NandChip.doaddr NandAccount.address
  cases turn : chip.cmdstatus with
  | readIDAddr => exact absurd turn known
  | addr2nd =>
      simp only [NandChip.account, turn, latched, progressOf]
      obtain ⟨cmd, purpose⟩ | ⟨cmd, purpose⟩ | ⟨cmd, purpose⟩ | ⟨cmd, purpose⟩ |
        ⟨-, other, -, -, purpose⟩ := purpose_cases chip.cmd
      case inr.inr.inr.inr => simp [purpose, other, takenOf]
      all_goals simp [cmd, purposeOf, takenOf]
  | addr5th =>
      simp only [NandChip.account, turn, latched, progressOf]
      obtain ⟨cmd, purpose⟩ | ⟨cmd, purpose⟩ | ⟨cmd, purpose⟩ | ⟨cmd, purpose⟩ |
        ⟨program, -, erase, identify, purpose⟩ := purpose_cases chip.cmd
      case inr.inr.inr.inr => simp [purpose, program, erase, identify, takenOf]
      all_goals simp [cmd, purposeOf, takenOf]
  | _ => simp only [NandChip.account, turn, latched]; rfl

end Accounts

section Ranges

variable {mapped : Nat} {chip : NandChip}

def AllInside (mapped : Nat) (accesses : List NandAccess) : Prop :=
  ∀ access ∈ accesses, access.InRange mapped

@[simp] theorem allInside_nil : AllInside mapped [] := by
  intro access member
  simp at member

@[simp] theorem allInside_append (first second : List NandAccess) :
    AllInside mapped (first ++ second) ↔ AllInside mapped first ∧ AllInside mapped second := by
  simp only [AllInside, List.mem_append, or_imp, forall_and]

theorem blank_inside : AllInside mapped blankAccesses := by
  intro access member
  obtain ⟨index, bound, rfl⟩ := List.mem_map.mp member
  exact List.mem_range.mp bound

theorem dump_inside_iff (base : BitVec 32) {len : Nat} (positive : 0 < len)
    (bound : len ≤ 2 ^ 32) :
    AllInside mapped (dumpAccesses base len) ↔ InDump mapped base len := by
  have element {i : Nat} (small : i < len) :
      (base + BitVec.ofNat 32 i).toNat = (base.toNat + i) % 2 ^ 32 := by
    rw [BitVec.toNat_add, BitVec.toNat_ofNat, Nat.mod_eq_of_lt (show i < 2 ^ 32 by omega)]
  have inside : AllInside mapped (dumpAccesses base len) ↔
      ∀ i, i < len → (base.toNat + i) % 2 ^ 32 < mapped := by
    unfold dumpAccesses AllInside
    simp only [List.mem_map, List.mem_range]
    constructor
    · intro inside i small
      have here := inside _ ⟨i, small, rfl⟩
      rwa [NandAccess.InRange, element small] at here
    · rintro inside access ⟨i, small, rfl⟩
      rw [NandAccess.InRange, element small]
      exact inside i small
  have first := base.isLt
  rw [inside, InDump]
  constructor
  · intro every
    by_contra outside
    -- the first element past the end of the dump
    have past := every (mapped - base.toNat) (by omega)
    have start := every 0 positive
    omega
  · intro fits i small
    omega

end Ranges

section Cycles

variable {mapped : Nat} {chip : NandChip}

theorem docmd_inside_iff (unprotected : chip.pins.wp = true) :
    AllInside mapped chip.docmdAccesses ↔
      chip.account.ConfirmFits chip.pagefmtsize mapped chip.iopin := by
  have sizes : erasesize = 135168 ∧ pagedumpsize = 2112 := by
    decide
  have erase := @dump_inside_iff mapped
    ((chip.pagenum &&& ~~~0x3f#32) * chip.pagefmtsize.setWidth 32) erasesize (by omega) (by omega)
  have program := @dump_inside_iff mapped (chip.pagenum * chip.pagefmtsize.setWidth 32)
    pagedumpsize (by omega) (by omega)
  have named {code : Nat} (here : chip.iopin.toNat = code) : chip.iopin = BitVec.ofNat 8 code := by
    rw [← here, BitVec.ofNat_toNat, BitVec.setWidth_eq]
  have reaches : chip.account.purpose = .erase ↔ chip.cmd = 0x60#8 := purpose_erase_iff chip.cmd
  have finished : chip.account.progress = .complete ↔ chip.cmdstatus = .addrFinish :=
    progress_complete_iff chip.cmdstatus
  unfold NandChip.docmdAccesses NandAccount.ConfirmFits
  rw [reaches, finished, account_programs_iff]
  split
  case h_3 code =>
    rw [named code, NandChip.doeraseAccesses, unprotected, if_pos rfl]
    split
    · rename_i ready
      rw [erase]
      exact ⟨fun fits => ⟨fun _ _ _ => fits, by simp⟩, fun fits => fits.1 rfl ready.1 ready.2⟩
    · rename_i idle
      exact iff_of_true allInside_nil ⟨fun _ cmd last => absurd ⟨cmd, last⟩ idle, by simp⟩
  case h_4 code =>
    rw [named code, NandChip.finishwriteAccesses, unprotected, if_pos rfl]
    split
    · rename_i ready
      rw [allInside_append, program]
      exact ⟨fun fits => ⟨by simp, fun _ _ => fits.1⟩, fun fits =>
        ⟨fits.2 rfl ready, blank_inside⟩⟩
    · rename_i idle
      exact iff_of_true allInside_nil ⟨by simp, fun _ ready => absurd ready idle⟩
  case h_1 code =>
    rw [named code]
    exact iff_of_true blank_inside ⟨by simp, by simp⟩
  case h_2 code =>
    rw [named code]
    exact iff_of_true blank_inside ⟨by simp, by simp⟩
  case h_5 notReset notInput notErase notProgram =>
    refine iff_of_true allInside_nil ⟨fun code => absurd ?_ notErase, fun code =>
      absurd ?_ notProgram⟩
    · rw [code]
      rfl
    · rw [code]
      rfl

theorem command_accesses (rest : chip.pins = restPins) (byte : BitVec 8) :
    chip.cycleAccesses (.command byte) =
      NandChip.docmdAccesses { chip with iopin := byte, iostatus := .cmd } := by
  obtain ⟨pins, _⟩ := chip
  cases rest
  rfl

theorem address_accesses (rest : chip.pins = restPins) (byte : BitVec 8) :
    chip.cycleAccesses (.address byte) = [] := by
  obtain ⟨pins, _⟩ := chip
  cases rest
  rfl

theorem dataIn_accesses (rest : chip.pins = restPins) (byte : BitVec 8) :
    chip.cycleAccesses (.dataIn byte) =
      if chip.iostatus = .cmd then
        NandChip.docmdAccesses { chip with pins := { restPins with we := false }, iopin := byte }
      else if chip.iostatus = .dataWrite then [⟨.writebuffer, chip.pageoffset.toNat⟩]
      else [] := by
  obtain ⟨pins, iopin, status, cmd, cmdstatus, iostatus, _⟩ := chip
  cases rest
  cases iostatus
  all_goals rfl

theorem dataOut_accesses (rest : chip.pins = restPins) :
    chip.cycleAccesses .dataOut =
      if chip.iostatus = .dataRead then chip.doreadAccesses else [] := by
  have rises : (chip.setRE false).setREAccesses true = [] := by
    simp [NandChip.setREAccesses]
  rw [NandChip.cycleAccesses, rises, List.append_nil, NandChip.setREAccesses, rest]
  cases chip.iostatus
  all_goals rfl

theorem taken_command_iff (role : IoStatus) : takenOf role = .command ↔ role = .cmd := by
  cases role
  all_goals decide

theorem taken_store_iff (role : IoStatus) : takenOf role = .store ↔ role = .dataWrite := by
  cases role
  all_goals decide

theorem taken_fetch_iff (role : IoStatus) : takenOf role = .fetch ↔ role = .dataRead := by
  cases role
  all_goals decide

theorem cycle_inside_iff (rest : chip.pins = restPins) (cycle : NandCycle) :
    AllInside mapped (chip.cycleAccesses cycle) ↔
      chip.account.CycleFits chip.pagefmtsize mapped cycle := by
  have commanded : chip.account.taken = .command ↔ chip.iostatus = .cmd :=
    taken_command_iff chip.iostatus
  have stored : chip.account.taken = .store ↔ chip.iostatus = .dataWrite :=
    taken_store_iff chip.iostatus
  have fetched : chip.account.taken = .fetch ↔ chip.iostatus = .dataRead :=
    taken_fetch_iff chip.iostatus
  cases cycle with
  | command byte =>
      rw [command_accesses rest, docmd_inside_iff (by rw [rest]; rfl)]
      rfl
  | address byte =>
      rw [address_accesses rest]
      exact iff_of_true allInside_nil trivial
  | dataIn byte =>
      rw [dataIn_accesses rest, NandAccount.CycleFits, commanded, stored]
      split
      · rename_i command
        rw [docmd_inside_iff rfl]
        simp only [command, true_imp_iff, reduceCtorEq, false_imp_iff, and_true]
        rfl
      · rename_i data
        split
        · rename_i writing
          simp [AllInside, NandAccess.InRange, writing, NandChip.account]
        · rename_i idle
          exact iff_of_true allInside_nil ⟨fun command => absurd command data, fun writing =>
            absurd writing idle⟩
  | dataOut =>
      rw [dataOut_accesses rest, NandAccount.CycleFits, fetched, NandChip.doreadAccesses]
      split
      · rename_i reading
        split
        · rename_i checked
          have below : chip.account.place < devicesize := checked
          simp only [AllInside, List.mem_singleton, forall_eq, NandAccess.InRange, reading, below,
            true_imp_iff]
          rfl
        · rename_i refused
          exact iff_of_true allInside_nil fun _ checked => absurd checked refused
      · rename_i idle
        exact iff_of_true allInside_nil fun reading => absurd reading idle

def NandChip.Known (chip : NandChip) : Prop :=
  chip.cmdstatus ≠ .readIDAddr

theorem docmd_known (known : chip.Known) : chip.docmd.Known := by
  unfold NandChip.docmd
  split
  case h_7 =>
    dsimp only
    split
    · rw [NandChip.doerase]
      split
      all_goals exact known
    · exact known
  case h_10 =>
    split
    · rw [NandChip.finishwrite]
      split
      all_goals exact known
    · exact known
  all_goals first
    | exact known
    | exact CmdStatus.noConfusion

theorem doaddr_known (known : chip.Known) : chip.doaddr.Known := by
  unfold NandChip.doaddr
  dsimp only
  split
  case h_2 =>
    split
    all_goals exact CmdStatus.noConfusion
  case h_5 =>
    split_ifs
    case neg => exact known
    all_goals exact CmdStatus.noConfusion
  case h_6 turn => exact absurd turn known
  all_goals first
    | exact known
    | exact CmdStatus.noConfusion

theorem driven_known (known : chip.Known) : chip.driven.Known := by
  unfold NandChip.driven
  split
  · rw [NandChip.doread]
    dsimp only
    split_ifs
    all_goals exact known
  · rw [NandChip.doreadid]
    split
    all_goals first
      | exact CmdStatus.noConfusion
      | exact known
  · exact known
  · exact known

theorem doreadid_account (chip : NandChip) (identifying : chip.iostatus = .idRead) :
    chip.doreadid.account = chip.account := by
  unfold NandChip.doreadid
  split
  all_goals first
    | rfl
    | simp only [NandChip.account, *]; rfl

theorem driven_account (chip : NandChip) : chip.driven.account = chip.account.fetch := by
  have role := taken_fetch_iff chip.iostatus
  have idle (other : chip.iostatus ≠ .dataRead) : chip.account.fetch = chip.account :=
    if_neg fun both => other (role.mp both.1)
  unfold NandChip.driven
  split
  · rename_i reading
    rw [NandChip.doread, NandAccount.fetch]
    dsimp only
    split
    · rename_i checked
      have fetches : chip.account.taken = .fetch ∧ chip.account.place < devicesize :=
        ⟨role.mpr reading, checked⟩
      rw [if_pos fetches]
      split
      · rename_i last
        rw [if_pos (by exact last)]
        rfl
      · rename_i inner
        rw [if_neg (by exact inner)]
        rfl
    · rename_i refused
      rw [if_neg fun both => refused both.2]
  · rename_i identifying
    rw [idle (by rw [identifying]; decide), doreadid_account chip identifying]
  · rename_i reporting
    rw [idle (by rw [reporting]; decide)]
    rfl
  · rename_i reading identifying reporting
    rw [idle reading]

theorem cycle_account (rest : chip.pins = restPins) (known : chip.Known) (cycle : NandCycle) :
    (chip.cycle cycle).account = chip.account.cycle cycle ∧ (chip.cycle cycle).Known := by
  cases cycle with
  | command byte =>
      rw [NandChip.cycle, sendcmd_rest rest]
      exact ⟨docmd_account _ rfl, docmd_known known⟩
  | address byte =>
      rw [NandChip.cycle, sendaddr_rest rest]
      exact ⟨doaddr_account _ rfl known, doaddr_known known⟩
  | dataIn byte =>
      let opened : NandChip := { chip with pins := { restPins with we := false }, iopin := byte }
      rw [NandChip.cycle, senddata_edge rest, NandAccount.cycle, NandAccount.store]
      dsimp only
      split
      · rename_i command
        rw [show chip.account.taken = .command from (taken_command_iff _).mpr command]
        have knownOpened : opened.Known := known
        exact ⟨docmd_account opened command, docmd_known knownOpened⟩
      · rename_i address
        have taken : chip.account.taken = .address := by
          rw [NandChip.account, address]
          rfl
        rw [taken]
        have knownOpened : opened.Known := known
        exact ⟨doaddr_account opened address known, doaddr_known knownOpened⟩
      · rename_i writing
        refine ⟨?_, known⟩
        simp only [NandChip.account, writing]
        rfl
      · rename_i command address writing
        refine ⟨?_, known⟩
        cases idle : chip.iostatus with
        | cmd => exact absurd idle command
        | addr => exact absurd idle address
        | dataWrite => exact absurd idle writing
        | _ => simp only [NandChip.account, idle]; rfl
  | dataOut =>
      rw [NandChip.cycle, readdata_rest rest]
      exact ⟨driven_account chip, driven_known known⟩

theorem cycle_kept (rest : chip.pins = restPins) (cycle : NandCycle) :
    SameWiring chip (chip.cycle cycle) := by
  cases cycle with
  | command byte => exact sendcmd_kept rest byte
  | address byte => exact sendaddr_kept rest byte
  | dataIn byte => exact senddata_kept rest byte
  | dataOut => exact readdata_kept rest

/-- What differs between two states of the chip is among the listed elements. -/
structure TouchesOnly (chip after : NandChip) (accesses : List NandAccess) : Prop where
  addrspace : ∀ cell, after.addrspace cell ≠ chip.addrspace cell →
    ⟨.addrspace, cell.toNat⟩ ∈ accesses
  writebuffer : ∀ cell, after.writebuffer cell ≠ chip.writebuffer cell →
    ⟨.writebuffer, cell.toNat⟩ ∈ accesses

theorem TouchesOnly.none {after : NandChip} (space : after.addrspace = chip.addrspace)
    (buffer : after.writebuffer = chip.writebuffer) (accesses : List NandAccess) :
    TouchesOnly chip after accesses := by
  refine ⟨fun cell changed => absurd ?_ changed, fun cell changed => absurd ?_ changed⟩
  · rw [space]
  · rw [buffer]

theorem dump_touched {space : BitVec 32 → BitVec 8} {base cell : BitVec 32} {len : Nat}
    {change : Nat → BitVec 8 → BitVec 8} (bound : len ≤ 2 ^ 32)
    (changed : updateRange space base change len cell ≠ space cell) :
    ⟨.addrspace, cell.toNat⟩ ∈ dumpAccesses base len := by
  rw [updateRange_apply _ _ _ bound] at changed
  split at changed
  · rename_i inside
    refine List.mem_map.mpr ⟨(cell - base).toNat, List.mem_range.mpr inside, ?_⟩
    rw [← (sub_eq_iff cell base (cell - base).isLt).mp rfl]
  · exact absurd rfl changed

theorem blank_touched {buffer : BitVec 16 → BitVec 8} {cell : BitVec 16}
    {change : Nat → BitVec 8 → BitVec 8}
    (changed : updateRange buffer 0#16 change pagedumpsize cell ≠ buffer cell) :
    ⟨.writebuffer, cell.toNat⟩ ∈ blankAccesses := by
  rw [updateRange_apply _ _ _ (by decide)] at changed
  split at changed
  · rename_i inside
    rw [BitVec.sub_zero] at inside
    exact List.mem_map.mpr ⟨cell.toNat, List.mem_range.mpr inside, rfl⟩
  · exact absurd rfl changed

theorem docmd_touches (chip : NandChip) : TouchesOnly chip chip.docmd chip.docmdAccesses := by
  unfold NandChip.docmd
  split
  case h_3 code =>
    rw [NandChip.docmdAccesses, code]
    exact ⟨fun cell changed => absurd rfl changed, fun cell changed => blank_touched changed⟩
  case h_4 code =>
    rw [NandChip.docmdAccesses, code]
    exact ⟨fun cell changed => absurd rfl changed, fun cell changed => blank_touched changed⟩
  case h_7 code =>
    rw [NandChip.docmdAccesses, code]
    dsimp only
    split
    · rw [NandChip.doeraseAccesses, NandChip.doerase]
      split
      · exact ⟨fun cell changed => dump_touched (by decide) changed, fun cell changed =>
          absurd rfl changed⟩
      · exact TouchesOnly.none (by rfl) (by rfl) _
    · exact TouchesOnly.none (by rfl) (by rfl) _
  case h_10 code =>
    rw [NandChip.docmdAccesses, code]
    split
    · rw [NandChip.finishwriteAccesses, NandChip.finishwrite]
      split
      · exact ⟨fun cell changed => List.mem_append_left _ (dump_touched (by decide) changed),
          fun cell changed => absurd rfl changed⟩
      · exact TouchesOnly.none (by rfl) (by rfl) _
    · exact TouchesOnly.none (by rfl) (by rfl) _
  all_goals exact TouchesOnly.none (by rfl) (by rfl) _

theorem doaddr_touches (chip : NandChip) : TouchesOnly chip chip.doaddr [] := by
  unfold NandChip.doaddr
  dsimp only
  split
  all_goals first
    | exact TouchesOnly.none (by rfl) (by rfl) _
    | split_ifs
  all_goals exact TouchesOnly.none (by rfl) (by rfl) _

theorem driven_touches (chip : NandChip) (accesses : List NandAccess) :
    TouchesOnly chip chip.driven accesses := by
  unfold NandChip.driven
  split
  · rw [NandChip.doread]
    dsimp only
    split_ifs
    all_goals exact TouchesOnly.none (by rfl) (by rfl) _
  · rw [NandChip.doreadid]
    split
    all_goals exact TouchesOnly.none (by rfl) (by rfl) _
  · exact TouchesOnly.none (by rfl) (by rfl) _
  · exact TouchesOnly.none (by rfl) (by rfl) _

theorem cycle_touches (rest : chip.pins = restPins) (cycle : NandCycle) :
    TouchesOnly chip (chip.cycle cycle) (chip.cycleAccesses cycle) := by
  cases cycle with
  | command byte =>
      rw [command_accesses rest, NandChip.cycle, sendcmd_rest rest]
      obtain ⟨space, buffer⟩ := docmd_touches { chip with iopin := byte, iostatus := .cmd }
      exact ⟨space, buffer⟩
  | address byte =>
      rw [address_accesses rest, NandChip.cycle, sendaddr_rest rest]
      obtain ⟨space, buffer⟩ := doaddr_touches { chip with iopin := byte, iostatus := .addr }
      exact ⟨space, buffer⟩
  | dataIn byte =>
      rw [dataIn_accesses rest, NandChip.cycle, senddata_edge rest]
      dsimp only
      split
      · rename_i command
        rw [if_pos command]
        obtain ⟨space, buffer⟩ :=
          docmd_touches { chip with pins := { restPins with we := false }, iopin := byte }
        exact ⟨space, buffer⟩
      · rename_i address
        rw [if_neg (by simp [address]), if_neg (by simp [address])]
        obtain ⟨space, buffer⟩ :=
          doaddr_touches { chip with pins := { restPins with we := false }, iopin := byte }
        exact ⟨space, buffer⟩
      · rename_i writing
        rw [if_neg (by simp [writing]), if_pos writing]
        refine ⟨fun cell changed => absurd rfl changed, fun cell changed => ?_⟩
        by_cases here : cell = chip.pageoffset
        · rw [here]
          exact List.mem_singleton.mpr rfl
        · exact absurd (Function.update_of_ne here _ _) changed
      · exact TouchesOnly.none (by rfl) (by rfl) _
  | dataOut =>
      rw [NandChip.cycle, readdata_rest rest]
      exact driven_touches chip _

theorem run_account (rest : chip.pins = restPins) (known : chip.Known) (cycles : List NandCycle) :
    (run NandChip.cycle chip cycles).account = run NandAccount.cycle chip.account cycles ∧
      (run NandChip.cycle chip cycles).Known := by
  induction cycles generalizing chip with
  | nil => exact ⟨rfl, known⟩
  | cons cycle cycles ih =>
      obtain ⟨account, next⟩ := cycle_account rest known cycle
      rw [run_cons, run_cons, ← account]
      exact ih ((cycle_kept rest cycle).pins.trans rest) next

theorem run_inside_iff (rest : chip.pins = restPins) (known : chip.Known)
    (cycles : List NandCycle) :
    AllInside mapped (chip.runAccesses cycles) ↔
      AllSteps NandAccount.cycle (NandAccount.CycleFits chip.pagefmtsize mapped) chip.account
        cycles := by
  induction cycles generalizing chip with
  | nil => exact iff_of_true allInside_nil trivial
  | cons cycle cycles ih =>
      obtain ⟨account, next⟩ := cycle_account rest known cycle
      have kept := cycle_kept rest cycle
      rw [NandChip.runAccesses, allInside_append, cycle_inside_iff rest,
        ih (kept.pins.trans rest) next, account, kept.format]
      rfl

theorem run_kept (rest : chip.pins = restPins) (cycles : List NandCycle) :
    SameWiring chip (run NandChip.cycle chip cycles) := by
  induction cycles generalizing chip with
  | nil => exact ⟨rfl, rfl⟩
  | cons cycle cycles ih =>
      have kept := cycle_kept rest cycle
      have later := ih (kept.pins.trans rest)
      exact ⟨later.pins.trans kept.pins, later.format.trans kept.format⟩

end Cycles

section Registers

variable (devices : Board Flash) (depth : Nat)

def writtenBytes (machine : Machine Flash) (datasize : Nat) (ecc : Bool) : Bytes :=
  if (datasize ≤ 0x800 ∨ datasize = 0x840) ∧ (ecc = true → datasize = 0x800) then
    bytesFrom ((flashBoard devices).arm2host machine machine.rest.nand.nfData) 0
        (min datasize 0x800) ++
      bytesFrom ((flashBoard devices).arm2host machine machine.rest.nand.nfEcc) 0
        (datasize - 0x800)
  else []

def transferReads (datasize : Nat) (flags : BitVec 4) : Nat :=
  if flags.getLsbD 1 then datasize else 0

def transferSent (machine : Machine Flash) (datasize : Nat) (flags : BitVec 4) : Bytes :=
  let read :=
    if flags.getLsbD 1 then
      nandReadPage (flashBoard devices) (flashStore devices depth) machine datasize
        (flags.getLsbD 0)
    else machine
  if datasize ≠ 0 ∧ flags.getLsbD 2 then writtenBytes devices read datasize (flags.getLsbD 0)
  else []

def commandBurst (chip : NandChip) (machine : Machine Flash) (word : ARMword) :
    Option NandBurst :=
  if word = 0x7fffffff#32 ∨ word = 0#32 then none
  else
    let command := word.extractLsb' 16 8
    let addresses := nandAddresses machine.rest.nand (word.extractLsb' 24 5)
    let datasize := (word &&& 0xfff#32).toNat
    let flags := word.extractLsb' 12 4
    some
      { command := command
        addresses := addresses
        reads := transferReads datasize flags
        data :=
          transferSent devices depth (machine.withChip (chip.send command addresses)) datasize
            flags }

theorem writePage_bytes (machine : Machine Flash) (datasize : Nat) (ecc : Bool) :
    (nandWritePage (flashBoard devices) (flashStore devices depth) machine datasize ecc).chip =
      (writtenBytes devices machine datasize ecc).foldl NandChip.senddata machine.chip := by
  unfold nandWritePage writtenBytes
  dsimp only
  split
  · rename_i sized
    cases ecc with
    | false =>
        rw [if_neg (by decide), if_pos ⟨sized, by simp⟩]
        rfl
    | true =>
        rw [if_pos rfl]
        by_cases whole : datasize = 0x800
        · rw [if_pos whole, if_pos ⟨sized, fun _ => whole⟩, nandEcc_memory]
          rfl
        · rw [if_neg whole, if_neg fun both => whole (both.2 rfl)]
          rfl
  · rename_i bad
    rw [if_neg fun both => bad both.1]
    rfl

theorem run_replicate (chip : NandChip) (count : Nat) :
    run NandChip.cycle chip (List.replicate count .dataOut) = chip.afterReads count := by
  induction count with
  | zero => rfl
  | succ count ih =>
      rw [List.replicate_succ', run_append, ih]
      rfl

theorem run_dataIn (chip : NandChip) (data : Bytes) :
    run NandChip.cycle chip (data.map .dataIn) = data.foldl NandChip.senddata chip := by
  rw [run, List.foldl_map]
  rfl

theorem transfer_cycles (machine : Machine Flash) (datasize : Nat) (flags : BitVec 4) :
    (nandTransfer (flashBoard devices) (flashStore devices depth) machine datasize flags).chip =
      run NandChip.cycle machine.chip
        (List.replicate (transferReads datasize flags) .dataOut ++
          (transferSent devices depth machine datasize flags).map .dataIn) := by
  unfold nandTransfer transferReads transferSent
  dsimp only
  split
  · rename_i empty
    rw [empty, ite_self, if_neg (by simp)]
    rfl
  · rename_i sized
    have reads : Host.chip
        (if flags.getLsbD 1 then
          nandReadPage (flashBoard devices) (flashStore devices depth) machine datasize
            (flags.getLsbD 0)
        else machine) =
          run NandChip.cycle machine.chip
            (List.replicate (if flags.getLsbD 1 then datasize else 0) .dataOut) := by
      split
      · rw [run_replicate, readPage_chip]
      · rfl
    rw [run_append, ← reads]
    by_cases writes : flags.getLsbD 2 = true
    · have sends : datasize ≠ 0 ∧ flags.getLsbD 2 = true := ⟨sized, writes⟩
      rw [if_pos writes, if_pos sends, writePage_bytes, run_dataIn]
    · have kept : ¬(datasize ≠ 0 ∧ flags.getLsbD 2 = true) := fun both => writes both.2
      rw [if_neg writes, if_neg kept]
      rfl

/-- The chip after a write to the command register by some machine.  Between two such writes
the guest may write the other registers of the controller and do anything else. -/
def commandStep (chip : NandChip) (write : Machine Flash × ARMword) : NandChip :=
  (commandWrite devices depth chip write.1 write.2).chip

theorem commandStep_burst (chip : NandChip) (write : Machine Flash × ARMword) :
    commandStep devices depth chip write =
      match commandBurst devices depth chip write.1 write.2 with
      | none => chip
      | some burst => run NandChip.cycle chip burst.cycles := by
  obtain ⟨machine, word⟩ := write
  unfold commandBurst commandStep
  by_cases ignored : word = 0x7fffffff#32 ∨ word = 0#32
  · rw [if_pos ignored]
    show (nandCommand (flashBoard devices) (flashStore devices depth) (machine.withChip chip)
      word).chip = chip
    rw [nandCommand, if_pos ignored]
    rfl
  · rw [if_neg ignored]
    obtain ⟨marker, zero⟩ := not_or.mp ignored
    have sent (command : BitVec 8) (addresses : Bytes) :
        run NandChip.cycle chip (.command command :: addresses.map .address) =
          chip.send command addresses := by
      rw [run_cons, run, List.foldl_map]
      rfl
    dsimp only
    rw [Host.chip, commandWrite_rest devices depth chip machine ⟨marker, zero⟩, NandBurst.cycles,
      run_append, sent]
    exact transfer_cycles devices depth _ _ _

/-- The elements touched by a history of writes to the command register. -/
def historyAccesses : NandChip → List (Machine Flash × ARMword) → List NandAccess
  | _, [] => []
  | chip, write :: rest =>
      (match commandBurst devices depth chip write.1 write.2 with
      | none => []
      | some burst => chip.runAccesses burst.cycles) ++
        historyAccesses (commandStep devices depth chip write) rest

/-- What the history sends to the chip: commands, address cycles, numbers of bytes to be read
and the bytes to be written. -/
def historyBursts : NandChip → List (Machine Flash × ARMword) → List NandBurst
  | _, [] => []
  | chip, write :: rest =>
      (commandBurst devices depth chip write.1 write.2).toList ++
        historyBursts (commandStep devices depth chip write) rest

theorem history_inside_iff {mapped : Nat} {chip : NandChip} (rest : chip.pins = restPins)
    (known : chip.Known) (history : List (Machine Flash × ARMword)) :
    AllInside mapped (historyAccesses devices depth chip history) ↔
      AllSteps NandAccount.burst (NandAccount.Fits chip.pagefmtsize mapped) chip.account
        (historyBursts devices depth chip history) := by
  induction history generalizing chip with
  | nil => exact iff_of_true allInside_nil trivial
  | cons write history ih =>
      have step := commandStep_burst devices depth chip write
      rw [historyAccesses, historyBursts, allInside_append]
      cases sent : commandBurst devices depth chip write.1 write.2 with
      | none =>
          rw [sent] at step
          simp only at step
          rw [step, ih rest known]
          simp
      | some burst =>
          rw [sent] at step
          simp only at step
          have kept := run_kept rest burst.cycles
          obtain ⟨account, later⟩ := run_account rest known burst.cycles
          have here : AllInside mapped (chip.runAccesses burst.cycles) ↔
              chip.account.Fits chip.pagefmtsize mapped burst := by
            rw [run_inside_iff rest known, NandAccount.burst_fits_iff]
          rw [step, ih (kept.pins.trans rest) later, account, kept.format,
            NandAccount.run_burst, here]
          rfl

theorem installed_known (dumptype : Nat) (dump : BitVec 32 → BitVec 8) :
    (NandChip.installedAs dumptype dump).Known := by
  exact CmdStatus.noConfusion

/-- In both formats, and whatever the guest writes to the controller, the chip stays inside its
buffers exactly as long as each thing sent suits the account of what was sent before it. -/
theorem nand_inside_iff (dumptype : Nat) (dump : BitVec 32 → BitVec 8) (mapped : Nat)
    (history : List (Machine Flash × ARMword)) :
    (∀ access ∈ historyAccesses devices depth (NandChip.installedAs dumptype dump) history,
      access.InRange mapped) ↔
      AllSteps NandAccount.burst (NandAccount.Fits (dumpFormat dumptype) mapped)
        NandAccount.installed
        (historyBursts devices depth (NandChip.installedAs dumptype dump) history) := by
  exact history_inside_iff devices depth rfl (installed_known dumptype dump) history

end Registers

section Column

def KnownCommand (command : BitVec 8) : Prop :=
  command ∈ [0x00#8, 0x30#8, 0xff#8, 0x80#8, 0x85#8, 0x60#8, 0xd0#8, 0x70#8, 0x90#8, 0x10#8]

def farColumn : Machine Flash :=
  (flashMachine 0#32 0#32 fun _ => 0#8).onNand fun nand =>
    { nand with address := fun index => if index.val < 2 then 0xff#8 else 0#8 }

/-- A byte is programmed at the last column that two address cycles can name. -/
theorem write_outside_buffer :
    ¬∀ (dumptype : Nat) (dump : BitVec 32 → BitVec 8) (mapped : Nat)
      (history : List (Machine Flash × ARMword)), devicesize ≤ mapped →
        (∀ write ∈ history, KnownCommand (write.2.extractLsb' 16 8)) →
          ∀ access ∈ historyAccesses flashDevices 0 (NandChip.installedAs dumptype dump) history,
            access.InRange mapped := by
  intro claimed
  have known : ∀ write ∈ [(farColumn, 0x1f804001#32)],
      KnownCommand (write.2.extractLsb' 16 8) := by
    simp [KnownCommand]
  have inside := claimed 0 (fun _ => 0xff#8) devicesize _ (Nat.le_refl _) known
  have fits := ((history_inside_iff flashDevices 0 rfl (installed_known _ _) _).mp inside).1
  have page := (NandAccount.program_fits_iff _ devicesize _ 0xff#8 0xff#8 0#8 0#8 0#8 _).mp fits
  exact page.elim nofun (by decide)

end Column

end SkyeyeStarlet
