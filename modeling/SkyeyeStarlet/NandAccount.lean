import Mathlib.Logic.Function.Iterate
import SkyeyeStarlet.Library.Runs
import SkyeyeStarlet.NandErase

/-!
The account of a driver of the flash chip: which page and column the command and address bytes
that it has sent name, and how far the data bytes since have moved them.  It is kept from what
goes over the lines alone; the chip's buffers and pins have no part in it.  What a write to the
command register may send is bounded in its terms.
-/

namespace SkyeyeStarlet

open Runs

/-- What a complete address will be used for. -/
inductive NandPurpose where
  | program
  | random
  | erase
  | identify
  | other
  deriving DecidableEq, Repr

/-- The byte of the address that comes next: two of the column, three of the row. -/
inductive NandProgress where
  | column0
  | column1
  | row0
  | row1
  | row2
  | complete
  | closed
  deriving DecidableEq, Repr

/-- What the chip takes the next byte on its lines for. -/
inductive NandTaken where
  | command
  | address
  | store
  | fetch
  | idle
  deriving DecidableEq, Repr

structure NandAccount where
  purpose : NandPurpose
  progress : NandProgress
  taken : NandTaken
  row : BitVec 32
  column : BitVec 16
  deriving DecidableEq, Repr

inductive NandCycle where
  | command (byte : BitVec 8)
  | address (byte : BitVec 8)
  | dataIn (byte : BitVec 8)
  | dataOut
  deriving DecidableEq, Repr

/-- What the controller sends to the chip for one write to its command register. -/
structure NandBurst where
  command : BitVec 8
  addresses : Bytes
  reads : Nat
  data : Bytes

def NandBurst.cycles (burst : NandBurst) : List NandCycle :=
  .command burst.command :: burst.addresses.map .address ++
    (List.replicate burst.reads .dataOut ++ burst.data.map .dataIn)

/-- A number of bytes from a base on lie in a dump of `mapped` bytes. -/
def InDump (mapped : Nat) (base : BitVec 32) (len : Nat) : Prop :=
  base.toNat + len ≤ mapped ∨ 2 ^ 32 ≤ mapped

namespace NandAccount

def installed : NandAccount :=
  { purpose := .other, progress := .closed, taken := .idle, row := 0#32, column := 0#16 }

def programs (account : NandAccount) : Prop :=
  (account.purpose = .program ∨ account.purpose = .random) ∧ account.progress = .complete

instance (account : NandAccount) : Decidable account.programs :=
  inferInstanceAs (Decidable (_ ∧ _))

def command (account : NandAccount) (byte : BitVec 8) : NandAccount :=
  match byte.toNat with
  | 0x00 =>
      { purpose := .other, progress := .column0, taken := .address, row := 0#32, column := 0#16 }
  | 0x80 =>
      { purpose := .program, progress := .column0, taken := .address, row := 0#32
        column := 0#16 }
  | 0x60 =>
      { purpose := .erase, progress := .row0, taken := .address, row := 0#32, column := 0#16 }
  | 0x90 =>
      { purpose := .identify, progress := .row2, taken := .address, row := 0#32, column := 0#16 }
  | 0x85 => { account with purpose := .random, progress := .column0, taken := .address }
  | 0x30 => { account with taken := .fetch }
  | 0x70 => { account with purpose := .other, progress := .closed, taken := .idle }
  | 0xff =>
      { account with purpose := .other, progress := .closed, taken := .idle, column := 0#16 }
  | 0xd0 => { account with purpose := .other, taken := .command }
  | 0x10 =>
      { account with
        purpose := if account.programs then .other else account.purpose
        taken := .command }
  | _ => { account with taken := .command }

def address (account : NandAccount) (byte : BitVec 8) : NandAccount :=
  match account.progress with
  | .column0 =>
      { account with taken := .address, column := byte.setWidth 16, progress := .column1 }
  | .column1 =>
      let column := account.column ||| (byte.setWidth 16 <<< 8)
      if account.purpose = .random then
        { account with taken := .store, column := column, progress := .complete }
      else { account with taken := .address, column := column, progress := .row0 }
  | .row0 => { account with taken := .address, row := byte.setWidth 32, progress := .row1 }
  | .row1 =>
      { account with
        taken := .address, row := account.row ||| (byte.setWidth 32 <<< 8), progress := .row2 }
  | .row2 =>
      let row := account.row ||| (byte.setWidth 32 <<< 16)
      match account.purpose with
      | .program => { account with taken := .store, row := row, progress := .complete }
      | .erase => { account with taken := .command, row := row, progress := .complete }
      | .identify => { account with taken := .idle, row := row, progress := .closed }
      | _ => { account with taken := .address, row := row }
  | _ => { account with taken := .address }

def store (account : NandAccount) (byte : BitVec 8) : NandAccount :=
  match account.taken with
  | .command => account.command byte
  | .address => account.address byte
  | .store => { account with column := account.column + 1#16 }
  | _ => account

/-- The byte of a device with pages of `0x840` bytes that is read next. -/
def place (account : NandAccount) : Nat :=
  (account.row * 0x840#32 + account.column.setWidth 32).toNat

def fetch (account : NandAccount) : NandAccount :=
  if account.taken = .fetch ∧ account.place < devicesize then
    if account.column + 1#16 = 0x840#16 then
      { account with row := account.row + 1#32, column := 0#16 }
    else { account with column := account.column + 1#16 }
  else account

def addressed (account : NandAccount) (burst : NandBurst) : NandAccount :=
  burst.addresses.foldl address (account.command burst.command)

def burst (account : NandAccount) (burst : NandBurst) : NandAccount :=
  burst.data.foldl store (fetch^[burst.reads] (account.addressed burst))

section Conditions

variable (format : BitVec 16) (mapped : Nat)

/-- A block is confirmed for erase, or a page for program, only where it lies in the dump. -/
def ConfirmFits (account : NandAccount) (byte : BitVec 8) : Prop :=
  (byte = 0xd0#8 → account.purpose = .erase → account.progress = .complete →
    InDump mapped ((account.row &&& ~~~0x3f#32) * format.setWidth 32) erasesize) ∧
  (byte = 0x10#8 → account.programs →
    InDump mapped (account.row * format.setWidth 32) pagedumpsize)

/-- Each byte of a read whose place is below the size of the device lies in the dump. -/
def ReadsFit (account : NandAccount) (count : Nat) : Prop :=
  account.taken = .fetch → ∀ index < count,
    let reached := fetch^[index] account
    reached.place < devicesize →
      (reached.row * format.setWidth 32).toNat + reached.column.toNat < mapped

/-- Data stays within the page from the column on. -/
def DataFits (account : NandAccount) : Bytes → Prop
  | [] => True
  | byte :: rest =>
      match account.taken with
      | .store => account.column.toNat + (byte :: rest).length ≤ pagedumpsize
      | .command => account.ConfirmFits format mapped byte ∧ (account.command byte).DataFits rest
      | .address => (account.address byte).DataFits rest
      | _ => True

/-- What one write to the command register sends suits what was sent before it. -/
structure Fits (account : NandAccount) (burst : NandBurst) : Prop where
  confirm : account.ConfirmFits format mapped burst.command
  reads : (account.addressed burst).ReadsFit format mapped burst.reads
  data : (fetch^[burst.reads] (account.addressed burst)).DataFits format mapped burst.data

end Conditions

section Cycles

def cycle (account : NandAccount) : NandCycle → NandAccount
  | .command byte => account.command byte
  | .address byte => account.address byte
  | .dataIn byte => account.store byte
  | .dataOut => account.fetch

def CycleFits (format : BitVec 16) (mapped : Nat) (account : NandAccount) : NandCycle → Prop
  | .command byte => account.ConfirmFits format mapped byte
  | .address _ => True
  | .dataIn byte =>
      (account.taken = .command → account.ConfirmFits format mapped byte) ∧
        (account.taken = .store → account.column.toNat < pagedumpsize)
  | .dataOut =>
      account.taken = .fetch → account.place < devicesize →
        (account.row * format.setWidth 32).toNat + account.column.toNat < mapped

variable {format : BitVec 16} {mapped : Nat}

theorem run_dataOut (account : NandAccount) (count : Nat) :
    run cycle account (List.replicate count .dataOut) = fetch^[count] account := by
  induction count generalizing account with
  | zero => rfl
  | succ count ih =>
      rw [List.replicate_succ, run_cons, ih, Function.iterate_succ_apply]
      rfl

theorem run_address (account : NandAccount) (addresses : Bytes) :
    run cycle account (addresses.map .address) = addresses.foldl address account := by
  rw [run, List.foldl_map]
  rfl

theorem run_burst (account : NandAccount) (burst : NandBurst) :
    run cycle account burst.cycles = account.burst burst := by
  rw [NandBurst.cycles, List.cons_append, run_cons, run_append, run_append, run_dataOut,
    run_address]
  rw [run, List.foldl_map]
  rfl

theorem fetch_taken (account : NandAccount) : account.fetch.taken = account.taken := by
  unfold fetch
  split_ifs
  all_goals rfl

theorem dataOut_fits_iff (account : NandAccount) (count : Nat) :
    AllSteps cycle (CycleFits format mapped) account (List.replicate count .dataOut) ↔
      account.ReadsFit format mapped count := by
  induction count generalizing account with
  | zero => exact iff_of_true trivial fun _ index small => absurd small (Nat.not_lt_zero index)
  | succ count ih =>
      rw [List.replicate_succ, AllSteps, ih]
      unfold ReadsFit
      constructor
      · rintro ⟨first, later⟩ reading index small
        cases index with
        | zero => exact first reading
        | succ index =>
            exact later ((fetch_taken account).trans reading) index (by omega)
      · intro every
        refine ⟨fun reading => every reading 0 (by omega), fun reading index small => ?_⟩
        exact every ((fetch_taken account).symm.trans reading) (index + 1) (by omega)

theorem addresses_fit (account : NandAccount) (addresses : Bytes) :
    AllSteps cycle (CycleFits format mapped) account (addresses.map .address) := by
  induction addresses generalizing account with
  | nil => trivial
  | cons byte rest ih => exact ⟨trivial, ih _⟩

theorem dataIn_fits_iff (account : NandAccount) (data : Bytes) :
    AllSteps cycle (CycleFits format mapped) account (data.map .dataIn) ↔
      account.DataFits format mapped data := by
  induction data generalizing account with
  | nil => exact Iff.rfl
  | cons byte rest ih =>
      rw [List.map_cons, AllSteps, ih, cycle, store, CycleFits, DataFits]
      cases taken : account.taken with
      | command => simp
      | address => simp
      | store =>
          cases rest with
          | nil =>
              simp only [DataFits, List.length_cons, List.length_nil, reduceCtorEq, false_implies,
                true_implies, true_and, and_true]
              exact Nat.lt_iff_add_one_le
          | cons next rest =>
              have moved (inside : account.column.toNat < pagedumpsize) :
                  (account.column + 1#16).toNat = account.column.toNat + 1 := by
                have size : pagedumpsize = 2112 := rfl
                rw [BitVec.toNat_add]
                simp only [BitVec.toNat_ofNat]
                omega
              simp only [DataFits, List.length_cons]
              constructor
              · rintro ⟨⟨-, inside⟩, later⟩
                rw [moved (inside trivial)] at later
                omega
              · intro whole
                have inside : account.column.toNat < pagedumpsize := by
                  omega
                rw [moved inside]
                exact ⟨⟨fun command => absurd command (by decide), fun _ => inside⟩, by omega⟩
      | fetch =>
          cases rest with
          | nil => simp [DataFits]
          | cons => simp [DataFits, taken]
      | idle =>
          cases rest with
          | nil => simp [DataFits]
          | cons => simp [DataFits, taken]

theorem burst_fits_iff (account : NandAccount) (burst : NandBurst) :
    AllSteps cycle (CycleFits format mapped) account burst.cycles ↔
      account.Fits format mapped burst := by
  rw [NandBurst.cycles, List.cons_append, AllSteps, allSteps_append, allSteps_append,
    dataOut_fits_iff, dataIn_fits_iff, run_dataOut, run_address]
  constructor
  · rintro ⟨confirm, -, reads, data⟩
    exact ⟨confirm, reads, data⟩
  · rintro ⟨confirm, reads, data⟩
    exact ⟨confirm, addresses_fit _ _, reads, data⟩

end Cycles

section Named

variable (format : BitVec 16) (mapped : Nat) (account : NandAccount)

theorem program_fits_iff (column0 column1 row0 row1 row2 : BitVec 8) (data : Bytes) :
    account.Fits format mapped ⟨0x80#8, [column0, column1, row0, row1, row2], 0, data⟩ ↔
      data = [] ∨ (columnAddress column0 column1).toNat + data.length ≤ pagedumpsize := by
  have reads : (account.addressed ⟨0x80#8, [column0, column1, row0, row1, row2], 0, data⟩).ReadsFit
      format mapped 0 :=
    fun _ index small => absurd small (Nat.not_lt_zero index)
  constructor
  · rintro ⟨-, -, fits⟩
    cases data with
    | nil => exact Or.inl rfl
    | cons byte rest => exact Or.inr fits
  · intro ends
    have erases : 0x80#8 ≠ 0xd0#8 := by
      decide
    have confirms : 0x80#8 ≠ 0x10#8 := by
      decide
    refine ⟨⟨fun same => absurd same erases, fun same => absurd same confirms⟩, reads, ?_⟩
    cases data with
    | nil => trivial
    | cons byte rest => exact ends.resolve_left (List.cons_ne_nil byte rest)

theorem erase_fits_iff (row0 row1 row2 : BitVec 8) :
    (account.burst ⟨0x60#8, [row0, row1, row2], 0, []⟩).Fits format mapped
        ⟨0xd0#8, [], 0, []⟩ ↔
      InDump mapped ((rowAddress row0 row1 row2 &&& ~~~0x3f#32) * format.setWidth 32)
        erasesize := by
  constructor
  · rintro ⟨confirm, -, -⟩
    exact confirm.1 rfl rfl rfl
  · intro block
    exact ⟨⟨fun _ _ _ => block, fun programs => absurd programs (by decide)⟩,
      fun _ index small => absurd small (Nat.not_lt_zero index), trivial⟩

end Named

section Reads

structure Within (account : NandAccount) : Prop where
  column : account.column.toNat < 0x840
  row : account.row.toNat ≤ pageCount

variable {account : NandAccount} {format : BitVec 16} {mapped : Nat}

theorem Within.place (within : account.Within) :
    account.place = account.row.toNat * 0x840 + account.column.toNat := by
  have column := within.column
  have row := within.row
  unfold pageCount at row
  unfold NandAccount.place
  rw [BitVec.toNat_add, BitVec.toNat_mul, BitVec.toNat_setWidth]
  simp only [BitVec.toNat_ofNat]
  omega

theorem Within.fetch (within : account.Within) (reading : account.taken = .fetch)
    (before : account.place ≤ devicesize) :
    account.fetch.Within ∧ account.fetch.place = min (account.place + 1) devicesize := by
  have size : devicesize = pageCount * 0x840 := by
    decide
  have pages : pageCount = 262144 := rfl
  have here := within.place
  have column := within.column
  have row := within.row
  by_cases below : account.place < devicesize
  · have inner : account.row.toNat < pageCount := by
      omega
    have moved : (account.column + 1#16).toNat = account.column.toNat + 1 := by
      rw [BitVec.toNat_add]
      simp only [BitVec.toNat_ofNat]
      omega
    have turned : (account.row + 1#32).toNat = account.row.toNat + 1 := by
      rw [BitVec.toNat_add]
      simp only [BitVec.toNat_ofNat]
      omega
    have reached : account.place + 1 = min (account.place + 1) devicesize :=
      (Nat.min_eq_left below).symm
    rw [NandAccount.fetch, if_pos ⟨reading, below⟩]
    split
    · rename_i last
      let next : NandAccount := { account with row := account.row + 1#32, column := 0#16 }
      have ends : account.column.toNat + 1 = 0x840 := by
        rw [← moved, last]
        rfl
      have row : next.row.toNat = account.row.toNat + 1 := turned
      have column : next.column.toNat = 0 := rfl
      have inside : next.Within := ⟨by omega, by omega⟩
      have place : next.place = account.place + 1 := by
        rw [inside.place, row, column, here]
        omega
      exact ⟨inside, place.trans reached⟩
    · rename_i short
      let next : NandAccount := { account with column := account.column + 1#16 }
      have ends : account.column.toNat + 1 ≠ 0x840 := fun ends =>
        short (BitVec.eq_of_toNat_eq (moved.trans ends))
      have row : next.row.toNat = account.row.toNat := rfl
      have column : next.column.toNat = account.column.toNat + 1 := moved
      have inside : next.Within := ⟨by omega, by omega⟩
      have place : next.place = account.place + 1 := by
        rw [inside.place, row, column, here]
        omega
      exact ⟨inside, place.trans reached⟩
  · rw [NandAccount.fetch, if_neg fun both => below both.2]
    exact ⟨within, by omega⟩

theorem Within.fetches (within : account.Within) (reading : account.taken = .fetch)
    (before : account.place ≤ devicesize) (count : Nat) :
    (NandAccount.fetch^[count] account).Within ∧
      (NandAccount.fetch^[count] account).taken = .fetch ∧
        (NandAccount.fetch^[count] account).place = min (account.place + count) devicesize := by
  induction count with
  | zero => exact ⟨within, reading, by rw [Nat.add_zero, Nat.min_eq_left before]; rfl⟩
  | succ count ih =>
      obtain ⟨inside, still, place⟩ := ih
      obtain ⟨next, moved⟩ := inside.fetch still (by omega)
      rw [Function.iterate_succ_apply']
      exact ⟨next, (fetch_taken _).trans still, by omega⟩

/-- Where a read starts inside the device, the bytes that it reads lie one after the other, and
each page of them where its format puts it. -/
theorem reads_fit_iff (within : account.Within) (reading : account.taken = .fetch)
    (before : account.place ≤ devicesize) (narrow : format.toNat ≤ 0xa00) (count : Nat) :
    account.ReadsFit format mapped count ↔
      ∀ place, account.place ≤ place → place < account.place + count → place < devicesize →
        place / 0x840 * format.toNat + place % 0x840 < mapped := by
  have size : devicesize = 262144 * 0x840 := by
    decide
  have element (index : Nat) (below : account.place + index < devicesize) :
      ((NandAccount.fetch^[index] account).row * format.setWidth 32).toNat +
          (NandAccount.fetch^[index] account).column.toNat =
        (account.place + index) / 0x840 * format.toNat + (account.place + index) % 0x840 := by
    obtain ⟨inside, -, place⟩ := within.fetches reading before index
    have column := inside.column
    have linear := inside.place
    have row : (NandAccount.fetch^[index] account).row.toNat =
        (account.place + index) / 0x840 := by
      omega
    have scaled : (account.place + index) / 0x840 * format.toNat ≤ 262144 * 0xa00 := by
      exact Nat.mul_le_mul (by omega) narrow
    have wide : (format.setWidth 32).toNat = format.toNat := by
      rw [BitVec.toNat_setWidth]
      omega
    rw [BitVec.toNat_mul, wide, row, Nat.mod_eq_of_lt (by omega)]
    omega
  constructor
  · intro fits place lower upper below
    obtain ⟨index, rfl⟩ := Nat.exists_eq_add_of_le lower
    have reached := (within.fetches reading before index).2.2
    have inside := fits reading index (by omega) (by omega)
    rwa [element index below] at inside
  · intro every _ index small
    have reached := (within.fetches reading before index).2.2
    dsimp only
    intro checked
    rw [element index (by omega)]
    exact every _ (by omega) (by omega) (by omega)

end Reads

end NandAccount

end SkyeyeStarlet
