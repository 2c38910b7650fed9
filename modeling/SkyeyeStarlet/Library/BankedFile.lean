import Mathlib.Logic.Function.Basic

/-!
A register file with banked registers, of which one bank is live.  `row` says in
which row of the store a bank keeps a register; registers that two banks keep in
one row are shared.  The live bank's registers are in `live`, and the store holds
stale copies of them.
-/

namespace BankedFile

universe u v w x

variable {Bank : Type u} {Reg : Type v} {Row : Type w} {Value : Type x}
  [DecidableEq Row]

/-- The value of register `reg` as bank `bank` sees it, while `current` is live. -/
def read (row : Bank → Reg → Row) (live : Reg → Value) (store : Row → Reg → Value)
    (current bank : Bank) (reg : Reg) : Value :=
  if row bank reg = row current reg then live reg else store (row bank reg) reg

variable {row : Bank → Reg → Row} {live next : Reg → Value} {store saved : Row → Reg → Value}
  {current bank target : Bank} {reg : Reg}

theorem read_current : read row live store current current reg = live reg := by
  simp [read]

theorem read_of_row_eq (shared : row bank reg = row target reg) :
    read row live store current bank reg = read row live store current target reg := by
  simp [read, shared]

/-- Bringing in the registers of `target` and saving those it does not share
changes no register of any bank. -/
theorem read_switch
    (restored : next reg = read row live store current target reg)
    (kept : row bank reg ≠ row target reg →
      saved (row bank reg) reg = read row live store current bank reg) :
    read row next saved target bank reg = read row live store current bank reg := by
  by_cases shared : row bank reg = row target reg
  · rw [read_of_row_eq shared, read_current, restored, read_of_row_eq shared]
  · rw [read, if_neg shared, kept shared]

theorem read_update [DecidableEq Reg] (written : Reg) (value : Value) :
    read row (Function.update live written value) store current bank reg =
      if reg = written ∧ row bank reg = row current reg then value
      else read row live store current bank reg := by
  by_cases same : reg = written
  · subst same
    by_cases shared : row bank reg = row current reg
    · simp [read, shared]
    · simp [read, shared]
  · simp [read, same]

/-- The store has what is live in the banked registers, apart from those that a switch to
`target` saves. -/
def Mirrored (row : Bank → Reg → Row) (banked : Reg → Prop) (live : Reg → Value)
    (store : Row → Reg → Value) (current target : Bank) : Prop :=
  ∀ reg, banked reg → row target reg = row current reg → store (row current reg) reg = live reg

variable {banked : Reg → Prop}

omit [DecidableEq Row] in
theorem Mirrored.toward (mirrored : Mirrored row banked live store current current)
    (target : Bank) : Mirrored row banked live store current target := by
  intro reg own _
  exact mirrored reg own rfl

theorem Mirrored.read (mirrored : Mirrored row banked live store current current)
    (own : banked reg) : read row live store current bank reg = store (row bank reg) reg := by
  rw [BankedFile.read]
  split
  · rename_i shared
    rw [shared]
    exact (mirrored reg own rfl).symm
  · rfl

omit [DecidableEq Row] in
theorem Mirrored.update [DecidableEq Reg] (mirrored : Mirrored row banked live store current target)
    {written : Reg} (spared : banked written → row target written ≠ row current written)
    (value : Value) :
    Mirrored row banked (Function.update live written value) store current target := by
  intro reg own shared
  have other : reg ≠ written := by
    rintro rfl
    exact spared own shared
  rw [Function.update_of_ne other]
  exact mirrored reg own shared

theorem Mirrored.switch (mirrored : Mirrored row banked live store current target)
    (restored : ∀ reg, next reg = BankedFile.read row live store current target reg)
    (kept : ∀ reg, banked reg → saved (row target reg) reg = store (row target reg) reg) :
    Mirrored row banked next saved target target := by
  intro reg own _
  rw [restored, kept reg own, BankedFile.read]
  split
  · rename_i shared
    rw [shared]
    exact mirrored reg own shared
  · rfl

end BankedFile
