import SkyeyeStarlet.AccessCore
import SkyeyeStarlet.ThumbBlocks

/-!
The register numbers of block transfers.  The search for the first register of the list has
no bound, so with an empty list it runs on into the other bits of the instruction, and the
first transfer goes to what follows `Reg` in the structure.
-/

namespace SkyeyeStarlet

variable {Mem : Type}

section Loops

def searchedBits (instr : ARMword) : List Nat :=
  List.range (firstListed instr + 1)

def scannedBits (instr : ARMword) : List Nat :=
  (List.range 16).filter fun index => firstListed instr < index

/-- The transfer uses its register: a store reads it before the access, a load writes it
unless an abort is noted. -/
def BlockStep.uses (bus : Bus Mem) (instr : ARMword) (step : BlockStep Mem) : Bool :=
  let read := (armulRead bus .word step.state step.address).1
  !instr.getLsbD 20 || !read.abortSig && (instr.getLsbD 22 || read.aborted == 0#32)

/-- What the routines index `state->Reg` with: the registers of the transfers, register 15
and the base. -/
def registerIndices (bus : Bus Mem) (state : ARMulState Mem) (instr : ARMword) : List Nat :=
  ((blockSteps bus state instr).filter (BlockStep.uses bus instr)).map BlockStep.index ++
    [15, (lhsReg instr).toNat]

/-- The block transfer keeps to the sixteen registers and the sixteen bits of its list. -/
structure ListedInside (bus : Bus Mem) (state : ARMulState Mem) (instr : ARMword) : Prop where
  registers : ∀ index ∈ registerIndices bus state instr, index ≤ 15
  searched : ∀ bit ∈ searchedBits instr, bit < 16
  scanned : ∀ bit ∈ scannedBits instr, bit < 16

end Loops

section Bounds

variable {instr : ARMword}

theorem firstListed_stops (block : instr.extractLsb' 25 3 = 4#3) :
    instr.getLsbD (firstListed instr) = true ∧
      ∀ bit < firstListed instr, instr.getLsbD bit = false := by
  have above : instr.getLsbD 27 = true := by
    have top := congrArg (fun field : BitVec 3 => field.getLsbD 2) block
    simpa using top
  exact firstListed_first (by decide) above

theorem listedRegs_eq_nil_iff : listedRegs instr = [] ↔ instr.extractLsb' 0 16 = 0#16 := by
  rw [listedRegs, List.filter_eq_nil_iff]
  constructor
  · intro unset
    apply BitVec.eq_of_getLsbD_eq
    intro index bound
    have clear := unset index (List.mem_range.mpr bound)
    simpa [bound] using clear
  · intro empty index member
    have bound := List.mem_range.mp member
    have clear := congrArg (fun list : BitVec 16 => list.getLsbD index) empty
    simpa [bound] using clear

theorem firstListed_lt_iff : firstListed instr < 16 ↔ instr.extractLsb' 0 16 ≠ 0#16 := by
  rw [ne_eq, ← listedRegs_eq_nil_iff]
  constructor
  · intro first empty
    have set : instr.getLsbD (firstListed instr) = true := by
      unfold firstListed at first ⊢
      cases found : (List.range 32).find? fun index => instr.getLsbD index with
      | none =>
          rw [found] at first
          exact absurd first (by decide)
      | some index => exact List.find?_some found
    have listed : firstListed instr ∈ listedRegs instr :=
      List.mem_filter.mpr ⟨List.mem_range.mpr first, set⟩
    rw [empty] at listed
    cases listed
  · intro nonempty
    apply mem_listedRegs_lt
    rw [← listed_cons nonempty]
    exact List.mem_cons_self

theorem lowIndices_eq_nil_iff (list : BitVec 8) : lowIndices list = [] ↔ list = 0#8 := by
  revert list
  decide

theorem thumb_list_empty (tinstr : Halfword) (last : Bool) :
    ((pushWord tinstr last).extractLsb' 0 16 = 0#16 ↔
        tinstr.extractLsb' 0 8 = 0#8 ∧ last = false) ∧
      ((popWord tinstr last).extractLsb' 0 16 = 0#16 ↔
        tinstr.extractLsb' 0 8 = 0#8 ∧ last = false) ∧
      ((thumbBlock tinstr).extractLsb' 0 16 = 0#16 ↔ tinstr.extractLsb' 0 8 = 0#8) := by
  refine ⟨?_, ?_, ?_⟩
  · rw [← listedRegs_eq_nil_iff, pushWord_listed, List.append_eq_nil_iff, lowIndices_eq_nil_iff]
    cases last <;> simp
  · rw [← listedRegs_eq_nil_iff, popWord_listed, List.append_eq_nil_iff, lowIndices_eq_nil_iff]
    cases last <;> simp
  · rw [← listedRegs_eq_nil_iff, thumbBlock_listed, lowIndices_eq_nil_iff]

theorem mem_restSteps {transfer : ARMulState Mem → Nat → ARMword → ARMulState Mem}
    {step : BlockStep Mem} {list : List Nat} {address : ARMword} {state : ARMulState Mem}
    (made : step ∈ restSteps transfer list address state) : step.index ∈ list := by
  induction list generalizing address state with
  | nil => cases made
  | cons index rest ih =>
      rw [restSteps] at made
      rcases List.mem_cons.mp made with rfl | later
      · exact List.mem_cons_self
      · split at later
        · exact List.mem_cons_of_mem _ (ih later)
        · cases later

theorem blockSteps_index {bus : Bus Mem} {state : ARMulState Mem} {step : BlockStep Mem}
    (made : step ∈ blockSteps bus state instr) :
    step.index = firstListed instr ∨ step.index < 16 := by
  rcases List.mem_cons.mp made with rfl | later
  · exact Or.inl rfl
  · split at later
    · have listed := mem_restSteps later
      rw [laterListed, List.mem_filter, List.mem_range] at listed
      exact Or.inr listed.1
    · cases later

/-- A block transfer keeps to the registers and to its list exactly where the list is not
empty. -/
theorem listed_registers_iff (bus : Bus Mem) (state : ARMulState Mem) (instr : ARMword) :
    ListedInside bus state instr ↔ instr.extractLsb' 0 16 ≠ 0#16 := by
  rw [← firstListed_lt_iff]
  constructor
  · intro inside
    exact inside.searched (firstListed instr) (List.mem_range.mpr (Nat.lt_succ_self _))
  · intro first
    refine ⟨?_, ?_, ?_⟩
    · intro index used
      rw [registerIndices, List.mem_append, List.mem_map] at used
      rcases used with ⟨step, made, rfl⟩ | other
      · have bound := blockSteps_index (List.mem_filter.mp made).1
        omega
      · have base := (lhsReg instr).isLt
        simp only [List.mem_cons, List.not_mem_nil, or_false] at other
        omega
    · intro bit searched
      rw [searchedBits, List.mem_range] at searched
      omega
    · intro bit scanned
      rw [scannedBits, List.mem_filter, List.mem_range] at scanned
      exact scanned.1

/-- Thumb `ldmia r0!, {}`: the search finds bit 20, and the word that is loaded overwrites
the saved `r4` of user mode. -/
theorem empty_list_overruns :
    let state := coreAt svc32mode true 0x8002#32 (flatMemory fun address => address + 0x41#32)
    switchedWord state 0x8002#32 0xc8000000#32 = some 0xe8b00000#32 ∧
      20 ∈ registerIndices flatBus state 0xe8b00000#32 ∧
      (blockTransfer flatBus state 0xe8b00000#32).file.regBank .userbank 4#4 ≠
        state.file.regBank .userbank 4#4 ∧
      ¬ListedInside flatBus state 0xe8b00000#32 := by
  refine ⟨by decide, by decide, by decide, fun inside => ?_⟩
  exact absurd (inside.registers 20 (by decide)) (by decide)

end Bounds

end SkyeyeStarlet
