import SkyeyeStarlet.Blocks
import SkyeyeStarlet.TrapCore

/-!
The hook of the machine looks at guest memory and leaves the processor alone: what its reads
change is the memory interface, the abort pin and the sticky flag.
-/

namespace SkyeyeStarlet

variable {Mem : Type}

structure Peeks (before after : ARMulState Mem) : Prop where
  same : after =
    { before with mem := after.mem, abortSig := after.abortSig, aborted := after.aborted }

variable {before middle after : ARMulState Mem}

theorem Peeks.refl (state : ARMulState Mem) : Peeks state state := by
  exact ⟨rfl⟩

theorem Peeks.trans (first : Peeks before middle) (second : Peeks middle after) :
    Peeks before after := by
  constructor
  rw [second.same, first.same]

theorem peeks_mem (state : ARMulState Mem) (mem : Mem) : Peeks state { state with mem } := by
  exact ⟨rfl⟩

theorem peeks_read (bus : Bus Mem) (size : AccessSize) (state : ARMulState Mem)
    (address : ARMword) : Peeks state (armulRead bus size state address).1 := by
  unfold armulRead
  dsimp only
  split
  · exact ⟨rfl⟩
  · exact ⟨rfl⟩

section Traps

variable (bus : Bus Mem) (physical : PhysicalBus Mem)

theorem peeks_starletGetString (left : Nat) (pointer : ARMword) (state : ARMulState Mem) :
    Peeks state (starletGetString bus left pointer state) := by
  induction left generalizing pointer state with
  | zero => exact Peeks.refl state
  | succ left ih =>
      have read := peeks_read bus .byte state pointer
      unfold starletGetString
      dsimp only
      split
      · exact read
      · exact read.trans (ih _ _)

theorem peeks_starletStacks (num : Nat) (state : ARMulState Mem) :
    Peeks state (starletStacks bus num state) := by
  induction num generalizing state with
  | zero => exact Peeks.refl state
  | succ num ih => exact (peeks_read bus .word state _).trans (ih _)

theorem peeks_traceVectors (left : Nat) (pvecs : ARMword) (state : ARMulState Mem) :
    Peeks state (traceVectors bus left pvecs state) := by
  induction left generalizing pvecs state with
  | zero => exact Peeks.refl state
  | succ left ih =>
      exact ((peeks_read bus .word state pvecs).trans
        (peeks_read bus .word _ (pvecs + 4#32))).trans (ih _ _)

theorem peeks_traceIoctlv (others : Nat) (state : ARMulState Mem) :
    Peeks state (traceIoctlv bus others state) := by
  have above (list : List Nat) (state : ARMulState Mem) : Peeks state
      (list.foldl (fun state num => (starletStack bus state (num + 1)).1) state) := by
    induction list generalizing state with
    | nil => exact Peeks.refl state
    | cons num rest ih => exact (peeks_read bus .word state _).trans (ih _)
  have read (address : ARMword) := (above (List.range others).reverse state).trans
    (peeks_read bus .word _ address)
  unfold traceIoctlv
  dsimp only
  split
  · exact (read _).trans (peeks_traceVectors bus _ _ _)
  · exact read _

theorem peeks_threadSetPriority (state : ARMulState Mem) :
    Peeks state (threadSetPriority bus physical state) := by
  unfold threadSetPriority
  dsimp only
  split
  · exact ((peeks_read bus .word state _).trans (peeks_mem _ _)).trans
      (peeks_read bus .word _ _)
  · exact Peeks.refl state

theorem peeks_traceSyscall (state : ARMulState Mem) (call : Syscall) :
    Peeks state (traceSyscall bus physical state call) := by
  unfold traceSyscall
  split <;>
    first
    | exact peeks_threadSetPriority bus physical state
    | exact peeks_starletGetString bus _ _ state
    | exact peeks_starletStacks bus _ state
    | exact peeks_traceIoctlv bus _ state
    | exact Peeks.refl state

theorem peeks_semihosting (state : ARMulState Mem) : Peeks state (semihosting bus state) := by
  unfold semihosting
  split
  · exact peeks_read bus .byte state _
  · split
    · exact peeks_starletGetString bus _ _ state
    · exact Peeks.refl state

theorem starletTraps_peeks (state : ARMulState Mem) (instr : ARMword) :
    Peeks state ((starletTraps bus physical).undfTrap state instr).1 := by
  show Peeks state (starletUndefinedTrap bus physical state instr).1
  unfold starletUndefinedTrap
  split
  · exact (peeks_mem state _).trans (peeks_traceSyscall bus physical _ _)
  · split
    · split
      · exact peeks_semihosting bus state
      · exact Peeks.refl state
    · exact Peeks.refl state

end Traps

def flatPhysical : PhysicalBus FlatMemory :=
  { readWord := fun _ mem => (mem, 0#32)
    writeWord := fun _ _ mem => mem }

end SkyeyeStarlet
