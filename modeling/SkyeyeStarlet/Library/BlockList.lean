import Mathlib.Algebra.GroupWithZero.Nat
import Mathlib.Data.List.Chain
import Mathlib.Data.List.Flatten

/-!
A stretch of storage described by a list of consecutive blocks, each of a size and free or
used.  A list is tidy when no block is empty and no two neighbours are free; then every run
of free units lies in one block, and a used block is known by the position at which it starts.
-/

namespace BlockList

structure Block where
  size : Nat
  used : Bool
  deriving DecidableEq, Repr

def extent (blocks : List Block) : Nat :=
  (blocks.map Block.size).sum

def units (blocks : List Block) : List Bool :=
  blocks.flatMap fun block => List.replicate block.size block.used

def spans : Nat → List Block → List (Nat × Nat)
  | _, [] => []
  | pos, block :: rest =>
      if block.used then (pos, block.size) :: spans (pos + block.size) rest
      else spans (pos + block.size) rest

def Apart (first second : Block) : Prop :=
  first.used = true ∨ second.used = true

structure Tidy (blocks : List Block) : Prop where
  positive : ∀ block ∈ blocks, 0 < block.size
  apart : blocks.IsChain Apart

section Layout

@[simp] theorem extent_nil : extent [] = 0 := by
  rfl

@[simp] theorem extent_cons (block : Block) (rest : List Block) :
    extent (block :: rest) = block.size + extent rest := by
  rfl

@[simp] theorem extent_append (first second : List Block) :
    extent (first ++ second) = extent first + extent second := by
  simp [extent]

@[simp] theorem units_nil : units [] = [] := by
  rfl

@[simp] theorem units_cons (block : Block) (rest : List Block) :
    units (block :: rest) = List.replicate block.size block.used ++ units rest := by
  rfl

@[simp] theorem units_append (first second : List Block) :
    units (first ++ second) = units first ++ units second := by
  simp [units]

@[simp] theorem length_units (blocks : List Block) : (units blocks).length = extent blocks := by
  induction blocks with
  | nil => rfl
  | cons block rest ih => simp [ih]

theorem spans_append (pos : Nat) (first second : List Block) :
    spans pos (first ++ second) = spans pos first ++ spans (pos + extent first) second := by
  induction first generalizing pos with
  | nil => rfl
  | cons block rest ih =>
      simp only [List.cons_append, spans, ih, extent_cons, Nat.add_assoc]
      split
      · rfl
      · rfl

theorem spans_bounds {blocks : List Block} {pos : Nat} {span : Nat × Nat}
    (listed : span ∈ spans pos blocks) :
    pos ≤ span.1 ∧ span.1 + span.2 ≤ pos + extent blocks := by
  induction blocks generalizing pos with
  | nil => simp [spans] at listed
  | cons block rest ih =>
      have tail (listed : span ∈ spans (pos + block.size) rest) :
          pos ≤ span.1 ∧ span.1 + span.2 ≤ pos + extent (block :: rest) := by
        have bounds := ih listed
        rw [extent_cons]
        omega
      rw [spans] at listed
      split at listed
      · rcases List.mem_cons.mp listed with rfl | listed
        · rw [extent_cons]
          omega
        · exact tail listed
      · exact tail listed

theorem spans_positive {blocks : List Block} (positive : ∀ block ∈ blocks, 0 < block.size)
    {pos : Nat} {span : Nat × Nat} (listed : span ∈ spans pos blocks) : 0 < span.2 := by
  induction blocks generalizing pos with
  | nil => simp [spans] at listed
  | cons block rest ih =>
      have ih := @ih (fun block member => positive block (List.mem_cons_of_mem _ member))
        (pos + block.size)
      rw [spans] at listed
      split at listed
      · rcases List.mem_cons.mp listed with rfl | listed
        · exact positive block List.mem_cons_self
        · exact ih listed
      · exact ih listed

theorem mem_spans {blocks : List Block} {first : Nat} {span : Nat × Nat}
    (listed : span ∈ spans first blocks) :
    ∃ left right, blocks = left ++ ⟨span.2, true⟩ :: right ∧ span.1 = first + extent left := by
  induction blocks generalizing first with
  | nil => simp [spans] at listed
  | cons block rest ih =>
      have tail (listed : span ∈ spans (first + block.size) rest) :
          ∃ left right, block :: rest = left ++ ⟨span.2, true⟩ :: right ∧
            span.1 = first + extent left := by
        obtain ⟨left, right, shape, place⟩ := ih listed
        refine ⟨block :: left, right, by rw [shape]; rfl, ?_⟩
        rw [place, extent_cons, Nat.add_assoc]
      rw [spans] at listed
      split at listed
      · rename_i used
        rcases List.mem_cons.mp listed with rfl | listed
        · exact ⟨[], rest, by rw [← used]; rfl, rfl⟩
        · exact tail listed
      · exact tail listed

theorem units_iff_spans (blocks : List Block) (pos unit : Nat) :
    (units blocks)[unit]? = some true ↔
      ∃ span ∈ spans pos blocks, span.1 ≤ pos + unit ∧ pos + unit < span.1 + span.2 := by
  induction blocks generalizing pos unit with
  | nil => simp [spans]
  | cons block rest ih =>
      have beyond (span : Nat × Nat) (member : span ∈ spans (pos + block.size) rest) :
          pos + block.size ≤ span.1 := (spans_bounds member).1
      rw [units_cons, spans]
      by_cases inside : unit < block.size
      · rw [List.getElem?_append_left (by simpa using inside)]
        have none : ¬∃ span ∈ spans (pos + block.size) rest,
            span.1 ≤ pos + unit ∧ pos + unit < span.1 + span.2 := by
          rintro ⟨span, member, bounds⟩
          have start := beyond span member
          omega
        cases used : block.used with
        | true =>
            simp only [if_true, List.exists_mem_cons_iff, none, or_false]
            simp [inside]
        | false =>
            simp only [Bool.false_eq_true, if_false, none]
            simp [inside]
      · have later := ih (pos + block.size) (unit - block.size)
        have place : pos + block.size + (unit - block.size) = pos + unit := by omega
        rw [place] at later
        rw [List.getElem?_append_right (by simpa using inside), List.length_replicate, later]
        cases used : block.used with
        | true =>
            simp only [if_true, List.exists_mem_cons_iff]
            constructor
            · exact Or.inr
            · rintro (bounds | found)
              · omega
              · exact found
        | false => simp only [Bool.false_eq_true, if_false]

theorem spans_ordered (pos : Nat) (blocks : List Block) :
    (spans pos blocks).Pairwise fun first second => first.1 + first.2 ≤ second.1 := by
  induction blocks generalizing pos with
  | nil => exact List.Pairwise.nil
  | cons block rest ih =>
      rw [spans]
      split
      · refine List.pairwise_cons.mpr ⟨fun span listed => ?_, ih _⟩
        exact (spans_bounds listed).1
      · exact ih _

end Layout

section Runs

/-- The units from a position on are free. -/
def FreeRun (blocks : List Block) (pos count : Nat) : Prop :=
  ∀ offset, offset < count → (units blocks)[pos + offset]? = some false

theorem units_head {block : Block} {rest : List Block} (positive : 0 < block.size) :
    (units (block :: rest))[0]? = some block.used := by
  rw [units_cons, List.getElem?_append_left (by simpa using positive), List.getElem?_replicate,
    if_pos positive]

theorem Tidy.freeRun_block {blocks : List Block} (tidy : Tidy blocks) {pos count : Nat}
    (positive : 0 < count) (free : FreeRun blocks pos count) :
    ∃ block ∈ blocks, block.used = false ∧ count ≤ block.size := by
  induction blocks generalizing pos with
  | nil => simpa using free 0 positive
  | cons block rest ih =>
      obtain ⟨positives, apart⟩ := tidy
      have tidyRest : Tidy rest :=
        ⟨fun block member => positives block (List.mem_cons_of_mem _ member), apart.tail⟩
      have later (offset : Nat) (beyond : block.size ≤ offset) :
          (units (block :: rest))[offset]? = (units rest)[offset - block.size]? := by
        rw [units_cons, List.getElem?_append_right (by simpa using beyond), List.length_replicate]
      rcases Nat.lt_or_ge pos block.size with inside | beyond
      · have first := free 0 positive
        rw [Nat.add_zero, units_cons, List.getElem?_append_left (by simpa using inside),
          List.getElem?_replicate, if_pos inside] at first
        have unused : block.used = false := by simpa using first
        rcases Nat.lt_or_ge block.size (pos + count) with crosses | fits
        · -- the run reaches the next block, which is then free too
          have next := free (block.size - pos) (by omega)
          rw [Nat.add_sub_cancel' (Nat.le_of_lt inside), later _ (Nat.le_refl _),
            Nat.sub_self] at next
          cases rest with
          | nil => simp at next
          | cons second rest =>
              rw [units_head (positives second (by simp))] at next
              have neighbours := (List.isChain_cons_cons.mp apart).1
              rcases neighbours with used | used
              · rw [unused] at used
                contradiction
              · rw [used] at next
                simp at next
        · exact ⟨block, List.mem_cons_self, unused, by omega⟩
      · have shifted : FreeRun rest (pos - block.size) count := by
          intro offset bound
          have here := free offset bound
          rwa [later _ (by omega), Nat.sub_add_comm beyond] at here
        obtain ⟨found, member, facts⟩ := ih tidyRest shifted
        exact ⟨found, List.mem_cons_of_mem _ member, facts⟩

end Runs

section Changes

def remainder (free : Nat) : List Block :=
  if free = 0 then [] else [⟨free, false⟩]

structure Taken (blocks : List Block) (pos size : Nat) (result : List Block) : Prop where
  shape : ∃ before after free,
    blocks = before ++ ⟨size + free, false⟩ :: after ∧ pos = extent before ∧
      result = before ++ ⟨size, true⟩ :: (remainder free ++ after)

/-- A used block becomes free and is joined with the free blocks beside it. -/
structure Released (blocks : List Block) (pos size : Nat) (result : List Block) : Prop where
  shape : ∃ keep left right rest,
    blocks = keep ++ left ++ ⟨size, true⟩ :: (right ++ rest) ∧ pos = extent (keep ++ left) ∧
      (∀ block ∈ left ++ right, block.used = false) ∧
      (∀ block ∈ keep.getLast?, block.used = true) ∧ (∀ block ∈ rest.head?, block.used = true) ∧
      result = keep ++ ⟨extent left + size + extent right, false⟩ :: rest

variable {blocks result : List Block} {pos size : Nat}

theorem Taken.extent_eq (taken : Taken blocks pos size result) : extent result = extent blocks := by
  obtain ⟨before, after, free, rfl, -, rfl⟩ := taken.shape
  have rest : extent (remainder free) = free := by
    unfold remainder
    split
    · exact (Eq.symm ‹_›)
    · rfl
  simp only [extent_append, extent_cons, rest]
  omega

theorem Released.extent_eq (released : Released blocks pos size result) :
    extent result = extent blocks := by
  obtain ⟨keep, left, right, rest, rfl, -, -, -, -, rfl⟩ := released.shape
  simp only [extent_append, extent_cons]
  omega

theorem Taken.tidy (taken : Taken blocks pos size result) (positive : 0 < size)
    (tidy : Tidy blocks) : Tidy result := by
  obtain ⟨before, after, free, rfl, -, rfl⟩ := taken.shape
  obtain ⟨positives, apart⟩ := tidy
  obtain ⟨apartBefore, apartAfter, -⟩ := List.isChain_append.mp apart
  obtain ⟨beside, apartRest⟩ := List.isChain_cons.mp apartAfter
  have positiveRest (block : Block) (member : block ∈ after) : 0 < block.size :=
    positives block (by simp [member])
  have apartFree : (remainder free ++ after).IsChain Apart := by
    unfold remainder
    split
    · exact apartRest
    · refine List.isChain_cons.mpr ⟨fun block first => ?_, apartRest⟩
      exact (beside block first).imp_left fun used => used
  constructor
  · intro block member
    simp only [List.mem_append, List.mem_cons] at member
    rcases member with earlier | rfl | rest | later
    · exact positives block (by simp [earlier])
    · exact positive
    · unfold remainder at rest
      split at rest
      · simp at rest
      · rw [List.mem_singleton.mp rest]
        exact Nat.pos_of_ne_zero ‹_›
    · exact positiveRest block later
  · refine List.isChain_append.mpr ⟨apartBefore, ?_, fun first _ second here => ?_⟩
    · exact List.isChain_cons.mpr ⟨fun _ _ => Or.inl rfl, apartFree⟩
    · obtain rfl : ⟨size, true⟩ = second := by simpa using here
      exact Or.inr rfl

theorem Released.tidy (released : Released blocks pos size result) (tidy : Tidy blocks) :
    Tidy result := by
  obtain ⟨keep, left, right, rest, rfl, -, -, usedLeft, usedRight, rfl⟩ := released.shape
  obtain ⟨positives, apart⟩ := tidy
  have positive : 0 < size := positives ⟨size, true⟩ (by simp)
  constructor
  · intro block member
    simp only [List.mem_append, List.mem_cons] at member
    rcases member with earlier | rfl | later
    · exact positives block (by simp [earlier])
    · show 0 < extent left + size + extent right
      omega
    · exact positives block (by simp [later])
  · have apartKeep : keep.IsChain Apart := apart.left_of_append.left_of_append
    have apartRest : rest.IsChain Apart := apart.right_of_append.tail.right_of_append
    refine List.isChain_append.mpr ⟨apartKeep, ?_, fun first last _ _ => ?_⟩
    · exact List.isChain_cons.mpr ⟨fun block first => Or.inr (usedRight block first), apartRest⟩
    · exact Or.inl (usedLeft first last)

theorem spans_free {free : List Block} (unused : ∀ block ∈ free, block.used = false) (pos : Nat) :
    spans pos free = [] := by
  induction free generalizing pos with
  | nil => rfl
  | cons block rest ih =>
      rw [spans, unused block List.mem_cons_self, if_neg Bool.false_ne_true]
      exact ih (fun block member => unused block (List.mem_cons_of_mem _ member)) _

theorem Taken.spans_perm (taken : Taken blocks pos size result) (first : Nat) :
    (spans first result).Perm ((first + pos, size) :: spans first blocks) := by
  obtain ⟨before, after, free, rfl, rfl, rfl⟩ := taken.shape
  have rest : spans (first + extent before + size) (remainder free ++ after) =
      spans (first + extent before + (size + free)) after := by
    rw [← Nat.add_assoc]
    unfold remainder
    split
    · rename_i none
      rw [none]
      rfl
    · rfl
  have unused : spans (first + extent before) (⟨size + free, false⟩ :: after) =
      spans (first + extent before + (size + free)) after := by
    rfl
  rw [spans_append, spans_append, spans, if_pos rfl, rest, unused]
  exact List.perm_middle

theorem Released.spans_perm (released : Released blocks pos size result) (first : Nat) :
    (spans first blocks).Perm ((first + pos, size) :: spans first result) := by
  obtain ⟨keep, left, right, rest, rfl, rfl, unused, -, -, rfl⟩ := released.shape
  have leftFree := spans_free (fun block member => unused block (List.mem_append_left _ member))
  have rightFree := spans_free (fun block member => unused block (List.mem_append_right _ member))
  have same : first + extent (keep ++ left) + size + extent right =
      first + extent keep + (extent left + size + extent right) := by
    rw [extent_append]
    omega
  simp only [spans_append, spans, leftFree, rightFree, if_true, Bool.false_eq_true, if_false,
    List.nil_append, List.append_nil, same]
  exact List.perm_middle

theorem units_unused {free : List Block} (unused : ∀ block ∈ free, block.used = false) :
    units free = List.replicate (extent free) false := by
  induction free with
  | nil => rfl
  | cons block rest ih =>
      rw [units_cons, unused block List.mem_cons_self, extent_cons, List.replicate_add,
        ih fun block member => unused block (List.mem_cons_of_mem _ member)]

theorem getElem?_splice (front middle back : List Bool) (index : Nat) :
    (front ++ (middle ++ back))[index]? =
      if index < front.length then front[index]?
      else if index < front.length + middle.length then middle[index - front.length]?
      else back[index - front.length - middle.length]? := by
  rw [List.getElem?_append, List.getElem?_append]
  split
  · rfl
  · split
    · rw [if_pos (by omega)]
    · rw [if_neg (by omega)]

theorem Released.units_iff (released : Released blocks pos size result) (unit : Nat) :
    (units result)[unit]? = some true ↔
      (units blocks)[unit]? = some true ∧ ¬(pos ≤ unit ∧ unit < pos + size) := by
  obtain ⟨keep, left, right, rest, rfl, rfl, unused, -, -, rfl⟩ := released.shape
  have leftFree := units_unused (fun block member => unused block (List.mem_append_left _ member))
  have rightFree := units_unused (fun block member => unused block (List.mem_append_right _ member))
  have after : units (keep ++ ⟨extent left + size + extent right, false⟩ :: rest) =
      units keep ++ (List.replicate (extent left + size + extent right) false ++ units rest) := by
    rw [units_append, units_cons]
  have before : units (keep ++ left ++ ⟨size, true⟩ :: (right ++ rest)) =
      units keep ++ ((List.replicate (extent left) false ++ List.replicate size true ++
        List.replicate (extent right) false) ++ units rest) := by
    simp only [units_append, units_cons, leftFree, rightFree, List.append_assoc]
  rw [after, before, extent_append]
  simp only [getElem?_splice, List.length_append, List.length_replicate, length_units]
  split
  · exact (and_iff_left (by omega)).symm
  · split
    · simp only [List.getElem?_append, List.getElem?_replicate, List.length_append,
        List.length_replicate]
      split_ifs
      all_goals simp
      all_goals omega
    · exact (and_iff_left (by omega)).symm

end Changes

end BlockList
