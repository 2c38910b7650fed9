import SkyeyeStarlet.ArmCore
import SkyeyeStarlet.Library.Runs

/-!
`bank_ptr` of `common/armmem.c`: the bank of an address, with the bank of the last call tried
first.  The scan stops at an entry of length zero; a configuration that fills the array has
none.
-/

namespace SkyeyeStarlet

open Runs

/-- `MAX_BANK`. -/
def maxBank : Nat :=
  8

structure MemBank where
  addr : ARMword
  len : ARMword
  deriving DecidableEq, Repr

def MemBank.Covers (bank : MemBank) (addr : ARMword) : Prop :=
  bank.addr ≤ addr ∧ addr - bank.addr < bank.len

instance (bank : MemBank) (addr : ARMword) : Decidable (bank.Covers addr) :=
  inferInstanceAs (Decidable (_ ∧ _))

structure MemConfig where
  banks : List MemBank
  nonempty : 0 < banks.length
  small : banks.length ≤ maxBank
  positive : ∀ bank ∈ banks, bank.len ≠ 0#32
  disjoint : banks.Pairwise fun first second => ∀ addr, ¬(first.Covers addr ∧ second.Covers addr)

def MemConfig.entry (config : MemConfig) (index : Nat) : MemBank :=
  config.banks.getD index ⟨0#32, 0#32⟩

inductive BankResult where
  | found (index : Nat)
  | null
  | outside
  deriving DecidableEq, Repr

/-- What a call returns, the entries it examines and the static pointer it leaves.  Nothing is
known of what lies behind the array. -/
structure BankCall where
  result : BankResult
  examined : List Nat
  mbp : Option Nat
  deriving DecidableEq, Repr

/-- The loop over the entries from `index` on, of which the array has `left`. -/
def scanBanks (config : MemConfig) (addr : ARMword) : Nat → Nat → BankCall
  | 0, index => { result := .outside, examined := [index], mbp := some index }
  | left + 1, index =>
      if (config.entry index).len = 0#32 then
        { result := .null, examined := [index], mbp := some index }
      else if (config.entry index).Covers addr then
        { result := .found index, examined := [index], mbp := some index }
      else
        let rest := scanBanks config addr left (index + 1)
        { rest with examined := index :: rest.examined }

def bankPtr (config : MemConfig) (mbp : Option Nat) (addr : ARMword) : BankCall :=
  match mbp with
  | none => scanBanks config addr maxBank 0
  | some index =>
      if (config.entry index).Covers addr then
        { result := .found index, examined := [index], mbp := some index }
      else
        let call := scanBanks config addr maxBank 0
        { call with examined := index :: call.examined }

/-- The call returns the one bank of the address, or none where there is none, and examines
only configured banks and the empty entry that ends them. -/
def RightBank (config : MemConfig) (addr : ARMword) (call : BankCall) : Prop :=
  (match call.result with
    | .found index =>
        (∃ bank, config.banks[index]? = some bank ∧ bank.Covers addr) ∧
          ∀ other bank, config.banks[other]? = some bank → bank.Covers addr → other = index
    | .null => ∀ bank ∈ config.banks, ¬bank.Covers addr
    | .outside => False) ∧
    ∀ index ∈ call.examined, index ≤ config.banks.length ∧ index < maxBank

section Scan

variable {config : MemConfig} {addr : ARMword}

theorem entry_eq {index : Nat} {bank : MemBank} (here : config.banks[index]? = some bank) :
    config.entry index = bank := by
  rw [MemConfig.entry, List.getD_eq_getElem?_getD, here]
  rfl

theorem entry_end {index : Nat} (bound : config.banks.length ≤ index) :
    config.entry index = ⟨0#32, 0#32⟩ := by
  rw [MemConfig.entry, List.getD_eq_getElem?_getD, List.getElem?_eq_none bound]
  rfl

theorem covers_entry {index : Nat} (covers : (config.entry index).Covers addr) :
    config.banks[index]? = some (config.entry index) := by
  rcases Nat.lt_or_ge index config.banks.length with inside | beyond
  · rw [entry_eq (List.getElem?_eq_getElem inside), List.getElem?_eq_getElem inside]
  · rw [entry_end beyond] at covers
    exact absurd covers.2 (BitVec.not_lt_zero)

theorem covers_unique {index other : Nat} (covers : (config.entry index).Covers addr)
    (again : (config.entry other).Covers addr) : other = index := by
  have here := List.getElem?_eq_some_iff.mp (covers_entry covers)
  have there := List.getElem?_eq_some_iff.mp (covers_entry again)
  obtain ⟨bound, first⟩ := here
  obtain ⟨otherBound, second⟩ := there
  have apart := List.pairwise_iff_getElem.mp config.disjoint
  rcases Nat.lt_trichotomy index other with before | same | after
  · have both := apart index other bound otherBound before addr
    rw [first, second] at both
    exact absurd ⟨covers, again⟩ both
  · exact same.symm
  · have both := apart other index otherBound bound after addr
    rw [first, second] at both
    exact absurd ⟨again, covers⟩ both

theorem found_right {index : Nat} (covers : (config.entry index).Covers addr) :
    (∃ bank, config.banks[index]? = some bank ∧ bank.Covers addr) ∧
      ∀ other bank, config.banks[other]? = some bank → bank.Covers addr → other = index := by
  refine ⟨⟨_, covers_entry covers, covers⟩, fun other bank there again => ?_⟩
  rw [← entry_eq there] at again
  exact covers_unique covers again

inductive ScanOutcome (config : MemConfig) (addr : ARMword) (call : BankCall) : Prop
  | found (index : Nat) (covers : (config.entry index).Covers addr)
      (result : call.result = .found index) (mbp : call.mbp = some index)
      (examined : ∀ other ∈ call.examined, other ≤ index)
  | null (uncovered : ∀ other, ¬(config.entry other).Covers addr)
      (room : config.banks.length < maxBank) (result : call.result = .null)
      (mbp : call.mbp = some config.banks.length)
      (examined : ∀ other ∈ call.examined, other ≤ config.banks.length)
  | outside (uncovered : ∀ other, ¬(config.entry other).Covers addr)
      (full : config.banks.length = maxBank) (result : call.result = .outside)

theorem ScanOutcome.cons {call : BankCall} {index : Nat} (outcome : ScanOutcome config addr call)
    (skipped : ¬(config.entry index).Covers addr)
    (first : ∀ found, (config.entry found).Covers addr → index ≤ found)
    (bound : index ≤ config.banks.length) :
    ScanOutcome config addr { call with examined := index :: call.examined } := by
  cases outcome with
  | found found covers result mbp examined =>
      refine .found found covers result mbp fun other member => ?_
      rcases List.mem_cons.mp member with rfl | later
      · exact first found covers
      · exact examined other later
  | null uncovered room result mbp examined =>
      refine .null uncovered room result mbp fun other member => ?_
      rcases List.mem_cons.mp member with rfl | later
      · exact bound
      · exact examined other later
  | outside uncovered full result => exact .outside uncovered full result

theorem scan_outcome (left index : Nat) (fits : index + left = maxBank)
    (bound : index ≤ config.banks.length)
    (before : ∀ other, other < index → ¬(config.entry other).Covers addr) :
    ScanOutcome config addr (scanBanks config addr left index) := by
  have beyond (other : Nat) (above : config.banks.length ≤ other) :
      ¬(config.entry other).Covers addr := by
    intro covers
    have inside := (List.getElem?_eq_some_iff.mp (covers_entry covers)).1
    omega
  induction left generalizing index with
  | zero =>
      have small := config.small
      refine .outside (fun other => ?_) (by omega) rfl
      rcases Nat.lt_or_ge other index with earlier | later
      · exact before other earlier
      · exact beyond other (by omega)
  | succ left ih =>
      rw [scanBanks]
      split
      · rename_i empty
        have last : index = config.banks.length := by
          rcases Nat.lt_or_ge index config.banks.length with inside | above
          · rw [entry_eq (List.getElem?_eq_getElem inside)] at empty
            exact absurd empty (config.positive _ (List.getElem_mem inside))
          · omega
        refine .null (fun other => ?_) (by omega) rfl (by rw [last]) (by simp [last])
        rcases Nat.lt_or_ge other index with earlier | later
        · exact before other earlier
        · exact beyond other (by omega)
      · rename_i nonempty
        split
        · rename_i covers
          exact .found index covers rfl rfl (by simp)
        · rename_i skipped
          have inside : index < config.banks.length := by
            by_contra above
            rw [entry_end (by omega)] at nonempty
            exact nonempty rfl
          have passed (other : Nat) (earlier : other < index + 1) :
              ¬(config.entry other).Covers addr := by
            rcases Nat.lt_or_ge other index with sooner | here
            · exact before other sooner
            · obtain rfl : other = index := by omega
              exact skipped
          have first (found : Nat) (covers : (config.entry found).Covers addr) :
              index ≤ found := by
            by_contra sooner
            exact before found (by omega) covers
          exact (ih (index + 1) (by omega) inside passed).cons skipped first bound

end Scan

section Calls

variable {config : MemConfig} {addr : ARMword} {mbp : Option Nat}

def AtEntry (config : MemConfig) (mbp : Option Nat) : Prop :=
  ∀ index, mbp = some index → index ≤ config.banks.length ∧ index < maxBank

theorem covers_bound {index : Nat} (covers : (config.entry index).Covers addr) :
    index < config.banks.length := by
  exact (List.getElem?_eq_some_iff.mp (covers_entry covers)).1

theorem scan_whole (config : MemConfig) (addr : ARMword) :
    ScanOutcome config addr (scanBanks config addr maxBank 0) := by
  exact scan_outcome maxBank 0 rfl (Nat.zero_le _) fun other earlier =>
    absurd earlier (Nat.not_lt_zero other)

/-- A call is right and leaves the pointer in the table, unless the array is full and no bank
has the address. -/
def Served (config : MemConfig) (addr : ARMword) (call : BankCall) : Prop :=
  AtEntry config call.mbp ∧ RightBank config addr call ∧
      (config.banks.length < maxBank ∨ ∃ bank ∈ config.banks, bank.Covers addr) ∨
    config.banks.length = maxBank ∧ (∀ bank ∈ config.banks, ¬bank.Covers addr) ∧
      ¬RightBank config addr call

theorem uncovered_banks (uncovered : ∀ other, ¬(config.entry other).Covers addr) :
    ∀ bank ∈ config.banks, ¬bank.Covers addr := by
  intro bank member covers
  obtain ⟨index, here⟩ := List.mem_iff_getElem?.mp member
  rw [← entry_eq here] at covers
  exact uncovered index covers

theorem ScanOutcome.served {call : BankCall} (outcome : ScanOutcome config addr call)
    {first : List Nat} (valid : ∀ index ∈ first, index ≤ config.banks.length ∧ index < maxBank) :
    Served config addr { call with examined := first ++ call.examined } := by
  have small := config.small
  cases outcome with
  | found index covers result mbp examined =>
      have bound := covers_bound covers
      have listed := List.mem_of_getElem? (covers_entry covers)
      refine Or.inl
        ⟨fun other there => ?_, ⟨?_, fun other member => ?_⟩, Or.inr ⟨_, listed, covers⟩⟩
      · rw [mbp] at there
        obtain rfl := Option.some.inj there
        omega
      · dsimp only
        rw [result]
        exact found_right covers
      · rcases List.mem_append.mp member with earlier | later
        · exact valid other earlier
        · have last := examined other later
          omega
  | null uncovered room result mbp examined =>
      refine Or.inl ⟨fun other there => ?_, ⟨?_, fun other member => ?_⟩, Or.inl room⟩
      · rw [mbp] at there
        obtain rfl := Option.some.inj there
        omega
      · dsimp only
        rw [result]
        exact uncovered_banks uncovered
      · rcases List.mem_append.mp member with earlier | later
        · exact valid other earlier
        · have last := examined other later
          omega
  | outside uncovered full result =>
      refine Or.inr ⟨full, uncovered_banks uncovered, fun right => ?_⟩
      have wrong := right.1
      dsimp only at wrong
      rw [result] at wrong
      exact wrong

theorem bankPtr_served (valid : AtEntry config mbp) (addr : ARMword) :
    Served config addr (bankPtr config mbp addr) := by
  cases mbp with
  | none => exact @ScanOutcome.served _ _ _ (scan_whole config addr) [] (by simp)
  | some index =>
      have entry := valid index rfl
      rw [bankPtr]
      split
      · rename_i covers
        have listed := List.mem_of_getElem? (covers_entry covers)
        refine Or.inl ⟨?_, ⟨found_right covers, by simpa using entry⟩, Or.inr ⟨_, listed, covers⟩⟩
        rintro other ⟨⟩
        exact entry
      · exact @ScanOutcome.served _ _ _ (scan_whole config addr) [index] (by simpa using entry)

/-- Every call of a sequence finds the bank of its address exactly when there is room for the
entry that ends the table, or every address is in a bank. -/
theorem bank_lookups_iff (config : MemConfig) (addrs : List ARMword) :
    AllSteps (fun mbp addr => (bankPtr config mbp addr).mbp)
        (fun mbp addr => RightBank config addr (bankPtr config mbp addr)) none addrs ↔
      config.banks.length < maxBank ∨
        ∀ addr ∈ addrs, ∃ bank ∈ config.banks, bank.Covers addr := by
  have small := config.small
  have start : AtEntry config none := by
    rintro index ⟨⟩
  generalize (none : Option Nat) = mbp at start
  induction addrs generalizing mbp with
  | nil => exact iff_of_true trivial (Or.inr (by simp))
  | cons addr addrs ih =>
      rw [AllSteps]
      rcases bankPtr_served start addr with ⟨next, right, covered⟩ | ⟨full, uncovered, wrong⟩
      · have later := ih _ next
        constructor
        · rintro ⟨-, rest⟩
          rcases later.mp rest with room | all
          · exact Or.inl room
          · rcases covered with room | here
            · exact Or.inl room
            · exact Or.inr (List.forall_mem_cons.mpr ⟨here, all⟩)
        · rintro (room | all)
          · exact ⟨right, later.mpr (Or.inl room)⟩
          · exact ⟨right, later.mpr (Or.inr (List.forall_mem_cons.mp all).2)⟩
      · refine iff_of_false (fun both => wrong both.1) ?_
        rintro (room | covered)
        · omega
        · obtain ⟨bank, member, covers⟩ := covered addr List.mem_cons_self
          exact uncovered bank member covers

def fullConfig : MemConfig where
  banks := (List.range 8).map fun index => ⟨BitVec.ofNat 32 (16 * index), 16#32⟩
  nonempty := by decide
  small := by decide
  positive := by decide
  disjoint := by
    rw [List.pairwise_map]
    refine List.pairwise_lt_range.imp_of_mem fun {first second} inside bound before addr => ?_
    rw [List.mem_range] at inside bound
    rintro ⟨⟨-, near⟩, ⟨above, -⟩⟩
    dsimp only at near above
    rw [BitVec.lt_def, BitVec.toNat_sub, BitVec.toNat_ofNat, BitVec.toNat_ofNat] at near
    rw [BitVec.le_def, BitVec.toNat_ofNat] at above
    omega

/-- A search for an address in no bank leaves the array. -/
theorem full_table_overrun :
    ¬∀ (config : MemConfig) (addrs : List ARMword),
      AllSteps (fun mbp addr => (bankPtr config mbp addr).mbp)
        (fun mbp addr => RightBank config addr (bankPtr config mbp addr)) none addrs := by
  intro claimed
  have right := (claimed fullConfig [0x1000#32]).1
  exact right.1

end Calls

end SkyeyeStarlet
