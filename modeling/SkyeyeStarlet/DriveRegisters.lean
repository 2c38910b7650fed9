import SkyeyeStarlet.InterruptLine
import SkyeyeStarlet.Library.RegisterFile
import SkyeyeStarlet.Library.WordBits
import SkyeyeStarlet.RegistersCore

/-!
The registers of the drive interface, as the two switches of `starlet_di_write` and
`starlet_di_read` decode them.
-/

namespace SkyeyeStarlet

open RegisterFile Runs

inductive DiRegister where
  | disr
  | dicvr
  | dicmdbuf0
  | dicmdbuf1
  | dicmdbuf2
  | dimar
  | dilength
  | dicr
  | diimmbuf
  | dicfg
  deriving DecidableEq, Repr

namespace DiRegister

def stored (di : Di) : DiRegister → ARMword
  | disr => di.disr
  | dicvr => di.dicvr
  | dicmdbuf0 => di.dicmdbuf0
  | dicmdbuf1 => di.dicmdbuf1
  | dicmdbuf2 => di.dicmdbuf2
  | dimar => di.dimar
  | dilength => di.dilength
  | dicr => di.dicr
  | diimmbuf => di.diimmbuf
  | dicfg => di.dicfg

def written (data old : ARMword) : DiRegister → ARMword
  | disr => writeDisr old data
  | dicvr => writeDicvr old data
  | _ => data

def plain : DiRegister → Bool
  | disr | dicvr => false
  | _ => true

end DiRegister

def diOffset (offset : ARMword) : Nat :=
  (offset &&& 0xff#32).toNat

def diTarget (offset : Nat) : Option DiRegister :=
  match offset with
  | 0x00 => some .disr
  | 0x04 => some .dicvr
  | 0x08 => some .dicmdbuf0
  | 0x0c => some .dicmdbuf1
  | 0x10 => some .dicmdbuf2
  | 0x14 => some .dimar
  | 0x18 => some .dilength
  | 0x1c => some .dicr
  | 0x20 => some .diimmbuf
  | 0x24 => some .dicfg
  | _ => none

def diSource (offset : Nat) : Option DiRegister :=
  match offset with
  | 0x00 => some .disr
  | 0x04 => some .dicvr
  | 0x08 => some .dicmdbuf0
  | 0x0c => some .dicmdbuf1
  | 0x10 => some .dicmdbuf2
  | 0x14 => some .dimar
  | 0x18 => some .dilength
  | 0x20 => some .dicr
  | 0x22 => some .diimmbuf
  | 0x24 => some .dicfg
  | _ => none

/-- `DISR` behind a write: the masks are those of the data, the flags that the data sets are
cleared, and so is a break request. -/
def disrAfter (old data : ARMword) : ARMword :=
  (old &&& ~~~(0x2a#32 ||| (data &&& 0x55#32))) ||| (data &&& 0x2a#32)

/-- `DICVR` behind a write: the mask, the flag unless the data clears it, and a closed cover. -/
def dicvrAfter (old data : ARMword) : ARMword :=
  (old &&& 0x04#32 &&& ~~~data) ||| (data &&& 0x02#32)

section Rules

variable (old data : ARMword)

theorem clearIf_bit (word bits : ARMword) (index : Nat)
    (single : bits = BitVec.twoPow 32 index) :
    clearIf (data &&& bits != 0#32) word bits = word &&& ~~~(data &&& bits) := by
  subst single
  rw [clearIf, WordBits.and_bit_bne_zero, BitVec.and_twoPow]
  split
  · rfl
  · rw [BitVec.not_zero, BitVec.and_allOnes]

theorem clearIf_flags (word : ARMword) :
    clearIf (data &&& 0x40#32 != 0#32)
      (clearIf (data &&& 0x10#32 != 0#32)
        (clearIf (data &&& 0x04#32 != 0#32)
          (clearIf (data &&& 0x01#32 != 0#32) word 0x01#32) 0x04#32) 0x10#32) 0x40#32 =
      word &&& ~~~(data &&& 0x55#32) := by
  have flags : 0x55#32 = 0x01#32 ||| 0x04#32 ||| 0x10#32 ||| 0x40#32 := by
    decide
  calc
    _ = (((word &&& ~~~(data &&& 0x01#32)) &&& ~~~(data &&& 0x04#32)) &&&
          ~~~(data &&& 0x10#32)) &&& ~~~(data &&& 0x40#32) := by
      rw [clearIf_bit data _ 0x01#32 0 rfl, clearIf_bit data _ 0x04#32 2 rfl,
        clearIf_bit data _ 0x10#32 4 rfl, clearIf_bit data _ 0x40#32 6 rfl]
    _ = word &&& ~~~(data &&& 0x55#32) := by
      simp only [flags, BitVec.and_or_distrib_left, BitVec.not_or, BitVec.and_assoc]

theorem writeDisr_eq : writeDisr old data = disrAfter old data := by
  have apart : (data &&& 0x2a#32) &&& (data &&& 0x55#32) = 0#32 := by
    have masks : (0x2a#32 : ARMword) &&& 0x55#32 = 0#32 := by
      decide
    rw [BitVec.and_comm data 0x55#32, ← BitVec.and_assoc, BitVec.and_assoc data, masks,
      BitVec.and_zero, BitVec.zero_and]
  calc
    writeDisr old data =
        ((old &&& ~~~0x2a#32) ||| (data &&& 0x2a#32)) &&& ~~~(data &&& 0x55#32) :=
      clearIf_flags data _
    _ = ((old &&& ~~~0x2a#32) &&& ~~~(data &&& 0x55#32)) |||
          ((data &&& 0x2a#32) &&& ~~~(data &&& 0x55#32)) := BitVec.and_or_distrib_right
    _ = disrAfter old data := by
      rw [(WordBits.and_not_eq_self_iff _ _).mpr apart, BitVec.and_assoc, ← BitVec.not_or]
      rfl

theorem writeDicvr_eq : writeDicvr old data = dicvrAfter old data := by
  have kept := clearIf_bit data (old &&& 0x04#32) 0x04#32 2 rfl
  have cleared : old &&& 0x04#32 &&& ~~~0x04#32 = 0#32 := by
    rw [BitVec.and_assoc, BitVec.and_not_self]
    exact BitVec.and_zero
  have flag : old &&& 0x04#32 &&& ~~~(data &&& 0x04#32) = old &&& 0x04#32 &&& ~~~data := by
    rw [BitVec.not_and, BitVec.and_or_distrib_left, cleared, BitVec.or_zero]
  rw [clearIf, cleared, flag] at kept
  rw [writeDicvr, kept]
  rfl

end Rules

structure DiWrite where
  offset : ARMword
  data : ARMword
  idle : diOffset offset = 0x1c → data &&& 1#32 = 0#32

def DiWrite.target (write : DiWrite) : Option DiRegister :=
  diTarget (diOffset write.offset)

section Step

variable {Other : Type} (board : Board Other) (store : Store Other)

def diStep (machine : Machine Other) (write : DiWrite) : Machine Other :=
  starletDiWrite board store machine write.offset write.data

theorem starletDiRead_source (di : Di) (offset : ARMword) :
    starletDiRead di offset =
      ((diSource (diOffset offset)).map (DiRegister.stored di)).getD 0#32 := by
  unfold starletDiRead diOffset
  generalize (offset &&& 0xff#32).toNat = place
  fun_cases diSource place
  case case11 =>
    split
    case h_11 => rfl
    all_goals contradiction
  all_goals rfl

theorem starletDiWrite_stored (machine : Machine Other) {offset data : ARMword}
    (idle : diOffset offset = 0x1c → data &&& 1#32 = 0#32) (register : DiRegister) :
    register.stored (starletDiWrite board store machine offset data).rest.di =
      if diTarget (diOffset offset) = some register then
        register.written data (register.stored machine.rest.di)
      else register.stored machine.rest.di := by
  unfold starletDiWrite
  unfold diOffset at idle ⊢
  generalize (offset &&& 0xff#32).toNat = place at idle
  unfold diTarget
  split
  case h_8 =>
    have none : (data &&& 1#32 != 0#32) = false := bne_eq_false_iff_eq.mpr (idle rfl)
    simp only [none]
    cases register <;> rfl
  case h_11 => split <;> first | rfl | contradiction
  all_goals cases register <;> rfl

theorem diStep_stored (machine : Machine Other) (write : DiWrite) (register : DiRegister) :
    register.stored (diStep board store machine write).rest.di =
      if write.target = some register then
        register.written write.data (register.stored machine.rest.di)
      else register.stored machine.rest.di := by
  exact starletDiWrite_stored board store machine write.idle register

theorem diStep_independent :
    Independent (diStep board store) (fun register machine => register.stored machine.rest.di)
      DiWrite.target (fun register write old => register.written write.data old) := by
  exact diStep_stored board store

end Step

def DiWrite.place (write : DiWrite) : Option Nat :=
  some (diOffset write.offset)

structure DiWriteLaw (before after : Di) (write : DiWrite) : Prop where
  apart : ∀ offset, diOffset offset ≠ diOffset write.offset →
    starletDiRead after offset = starletDiRead before offset
  disr : diOffset write.offset = 0x00 →
    starletDiRead after write.offset = disrAfter (starletDiRead before write.offset) write.data
  dicvr : diOffset write.offset = 0x04 →
    starletDiRead after write.offset = dicvrAfter (starletDiRead before write.offset) write.data

/-- The register file in every state of a history: a plain register reads as what was written
last at its offset. -/
structure DriveReadsBack {Other : Type} (board : Board Other) (store : Store Other)
    (machine : Machine Other) (writes : List DiWrite) : Prop where
  reads : ∀ before after, writes = before ++ after → ∀ offset register,
    diTarget (diOffset offset) = some register → register.plain = true →
      ∀ write, lastTo DiWrite.place (diOffset offset) before = some write →
        starletDiRead (run (diStep board store) machine before).rest.di offset = write.data
  steps : ∀ before write after, writes = before ++ write :: after →
    DiWriteLaw (run (diStep board store) machine before).rest.di
      (run (diStep board store) machine (before ++ [write])).rest.di write

def DriveSettled (di : Di) (write : DiWrite) : Prop :=
  (diOffset write.offset = 0x1c → write.data = 0#32 ∧ di.dicr = 0#32) ∧
    (diOffset write.offset = 0x20 → write.data = di.dicr ∧ write.data = di.diimmbuf)

section Tables

variable {place : Nat} {register : DiRegister}

def DiRegister.offset : DiRegister → Nat
  | disr => 0x00
  | dicvr => 0x04
  | dicmdbuf0 => 0x08
  | dicmdbuf1 => 0x0c
  | dicmdbuf2 => 0x10
  | dimar => 0x14
  | dilength => 0x18
  | dicr => 0x1c
  | diimmbuf => 0x20
  | dicfg => 0x24

theorem diTarget_eq_some : diTarget place = some register ↔ place = register.offset := by
  constructor
  · intro found
    unfold diTarget at found
    split at found <;> cases found <;> rfl
  · rintro rfl
    cases register <;> rfl

theorem DiWrite.target_eq_some {write : DiWrite} (register : DiRegister) :
    write.target = some register ↔ diOffset write.offset = register.offset := by
  exact diTarget_eq_some

theorem diSource_eq_some (command : register ≠ .dicr) (buffer : register ≠ .diimmbuf) :
    diSource place = some register ↔ place = register.offset := by
  constructor
  · intro found
    unfold diSource at found
    split at found <;> cases found <;> first | rfl | contradiction
  · rintro rfl
    cases register <;> first | rfl | contradiction

end Tables

section Histories

variable {Other : Type} (board : Board Other) (store : Store Other) (machine : Machine Other)

theorem run_plain {register : DiRegister} (plain : register.plain = true)
    (writes : List DiWrite) :
    register.stored (run (diStep board store) machine writes).rest.di =
      (lastTo DiWrite.target register writes).elim (register.stored machine.rest.di)
        DiWrite.data := by
  have overwrites (write : DiWrite) (old : ARMword) (_ : write.target = some register) :
      register.written write.data old = write.data := by
    cases register <;> first | rfl | contradiction
  exact (diStep_independent board store).run_last overwrites machine writes

theorem run_settled {writes : List DiWrite}
    (settled : ∀ write ∈ writes, DriveSettled machine.rest.di write) :
    let di := (run (diStep board store) machine writes).rest.di
    di.dicr = machine.rest.di.dicr ∧ di.diimmbuf = machine.rest.di.diimmbuf := by
  have command := run_plain board store machine (show DiRegister.dicr.plain = true from rfl) writes
  have buffer :=
    run_plain board store machine (show DiRegister.diimmbuf.plain = true from rfl) writes
  refine ⟨command.trans ?_, buffer.trans ?_⟩
  · cases last : lastTo DiWrite.target .dicr writes with
    | none => rfl
    | some write =>
        obtain ⟨member, target⟩ := lastTo_target last
        obtain ⟨zero, held⟩ := (settled write member).1 (diTarget_eq_some.mp target)
        exact zero.trans held.symm
  · cases last : lastTo DiWrite.target .diimmbuf writes with
    | none => rfl
    | some write =>
        obtain ⟨member, target⟩ := lastTo_target last
        exact ((settled write member).2 (diTarget_eq_some.mp target)).2

theorem starletDiRead_unread (di : Di) {offset : ARMword} (place : diOffset offset = 0x1c) :
    starletDiRead di offset = 0#32 := by
  rw [starletDiRead_source, place]
  rfl

theorem starletDiRead_stored (di : Di) {offset : ARMword} {register : DiRegister}
    (source : diSource (diOffset offset) = some register) :
    starletDiRead di offset = register.stored di := by
  rw [starletDiRead_source, source]
  rfl

theorem settled_law {before : List DiWrite} {write : DiWrite}
    (settled : ∀ other ∈ before ++ [write], DriveSettled machine.rest.di other) :
    DiWriteLaw (run (diStep board store) machine before).rest.di
      (run (diStep board store) machine (before ++ [write])).rest.di write := by
  obtain ⟨command, buffer⟩ := run_settled board store machine
    fun other member => settled other (List.mem_append_left [write] member)
  have step := diStep_stored board store (run (diStep board store) machine before) write
  obtain ⟨zeros, same⟩ := settled write
    (List.mem_append_right before (List.mem_singleton_self write))
  rw [run_append, run_cons, run_nil]
  refine ⟨?_, ?_, ?_⟩
  · intro offset apart
    cases source : diSource (diOffset offset) with
    | none => rw [starletDiRead_source, starletDiRead_source, source]; rfl
    | some register =>
        rw [starletDiRead_stored _ source, starletDiRead_stored _ source, step register]
        refine ite_eq_right_iff.mpr fun target => ?_
        have place := diTarget_eq_some.mp target
        by_cases isCommand : register = .dicr
        · subst isCommand
          obtain ⟨zero, held⟩ := zeros place
          exact zero.trans (held.symm.trans command.symm)
        · by_cases isBuffer : register = .diimmbuf
          · subst isBuffer
            exact (same place).2.trans buffer.symm
          · have found := (diSource_eq_some isCommand isBuffer).mp source
            exact absurd (found.trans place.symm) apart
  · intro place
    have source : diSource (diOffset write.offset) = some .disr := by
      rw [place]
      rfl
    rw [starletDiRead_stored _ source, starletDiRead_stored _ source, step .disr,
      if_pos ((DiWrite.target_eq_some .disr).mpr place)]
    exact writeDisr_eq _ _
  · intro place
    have source : diSource (diOffset write.offset) = some .dicvr := by
      rw [place]
      rfl
    rw [starletDiRead_stored _ source, starletDiRead_stored _ source, step .dicvr,
      if_pos ((DiWrite.target_eq_some .dicvr).mpr place)]
    exact writeDicvr_eq _ _

theorem settled_reads {before : List DiWrite}
    (settled : ∀ other ∈ before, DriveSettled machine.rest.di other) {offset : ARMword}
    {register : DiRegister} (target : diTarget (diOffset offset) = some register)
    (plain : register.plain = true) {write : DiWrite}
    (last : lastTo DiWrite.place (diOffset offset) before = some write) :
    starletDiRead (run (diStep board store) machine before).rest.di offset = write.data := by
  obtain ⟨member, here⟩ := lastTo_target last
  have place := diTarget_eq_some.mp target
  have same : diOffset write.offset = diOffset offset := Option.some.inj here
  obtain ⟨zeros, held⟩ := settled write member
  by_cases isCommand : register = .dicr
  · subst isCommand
    rw [starletDiRead_unread _ place]
    exact (zeros (same.trans place)).1.symm
  · by_cases isBuffer : register = .diimmbuf
    · subst isBuffer
      have source : diSource (diOffset offset) = some .dicr := by
        rw [place]
        rfl
      rw [starletDiRead_stored _ source]
      exact (run_settled board store machine settled).1.trans (held (same.trans place)).1.symm
    · have source := (diSource_eq_some isCommand isBuffer).mpr place
      have names (other : DiWrite) :
          other.target = some register ↔ other.place = some (diOffset offset) := by
        rw [DiWrite.target_eq_some, DiWrite.place, Option.some.injEq, place]
      rw [starletDiRead_stored _ source, run_plain board store machine plain,
        lastTo_congr names, last]
      rfl

theorem reads_settled {writes : List DiWrite}
    (law : DriveReadsBack board store machine writes) (before after : List DiWrite)
    (split : writes = before ++ after) :
    ∀ write ∈ before, DriveSettled machine.rest.di write := by
  induction before using List.reverseRecOn generalizing after with
  | nil => exact fun write member => absurd member List.not_mem_nil
  | append_singleton before write ih =>
      have shorter : writes = before ++ write :: after := by
        rw [split, List.append_assoc]
        rfl
      have settled := ih (write :: after) shorter
      obtain ⟨command, buffer⟩ := run_settled board store machine settled
      have steps := (law.steps before write after shorter).apart
      have step := diStep_stored board store (run (diStep board store) machine before) write
      have reads := law.reads (before ++ [write]) after split write.offset
      have last : lastTo DiWrite.place (diOffset write.offset) (before ++ [write]) =
          some write := by
        rw [lastTo_append]
        exact if_pos rfl
      rw [run_append, run_cons, run_nil] at steps reads
      have newest : DriveSettled machine.rest.di write := by
        refine ⟨?_, ?_⟩
        · intro place
          have zero := reads .dicr (diTarget_eq_some.mpr place) rfl write last
          rw [starletDiRead_unread _ place] at zero
          have apart := steps 0x20#32 (by rw [place]; decide)
          have source : diSource (diOffset 0x20#32) = some .dicr := rfl
          rw [starletDiRead_stored _ source, starletDiRead_stored _ source, step .dicr,
            if_pos ((DiWrite.target_eq_some .dicr).mpr place)] at apart
          exact ⟨zero.symm, command.symm.trans (apart.symm.trans zero.symm)⟩
        · intro place
          have source : diSource (diOffset write.offset) = some .dicr := by
            rw [place]
            rfl
          have held := reads .diimmbuf (diTarget_eq_some.mpr place) rfl write last
          have other : write.target ≠ some .dicr := by
            rw [DiWrite.target, place]
            decide
          rw [starletDiRead_stored _ source, step .dicr, if_neg other] at held
          have apart := steps 0x22#32 (by rw [place]; decide)
          have buffered : diSource (diOffset 0x22#32) = some .diimmbuf := rfl
          rw [starletDiRead_stored _ buffered, starletDiRead_stored _ buffered, step .diimmbuf,
            if_pos ((DiWrite.target_eq_some .diimmbuf).mpr place)] at apart
          exact ⟨held.symm.trans command, apart.trans buffer⟩
      intro other member
      rcases List.mem_append.mp member with earlier | isLast
      · exact settled other earlier
      · obtain rfl := List.mem_singleton.mp isLast
        exact newest

/-- The registers read back exactly in the histories that write nothing but zeros to a command
register that holds zero, and to the immediate buffer nothing but what it and the command
register hold. -/
theorem drive_reads_back_iff (writes : List DiWrite) :
    DriveReadsBack board store machine writes ↔
      ∀ write ∈ writes, DriveSettled machine.rest.di write := by
  constructor
  · intro law
    exact reads_settled board store machine law writes [] (List.append_nil writes).symm
  · intro settled
    refine ⟨?_, ?_⟩
    · rintro before after rfl offset register target plain write last
      exact settled_reads board store machine
        (fun other member => settled other (List.mem_append_left after member)) target plain last
    · rintro before write after rfl
      refine settled_law board store machine fun other member => settled other ?_
      rw [List.append_cons]
      exact List.mem_append_left after member

end Histories

/-- A command without its start bit is written, and reads as zero. -/
theorem command_register_unread :
    ¬∀ (board : Board Unit) (store : Store Unit) (machine : Machine Unit)
      (writes : List DiWrite), DriveReadsBack board store machine writes := by
  intro claimed
  let write : DiWrite := ⟨0x1c#32, 2#32, by decide⟩
  have last : lastTo DiWrite.place (diOffset 0x1c#32) [write] = some write :=
    (lastTo_append DiWrite.place _ [] write).trans (if_pos rfl)
  have reads := (claimed starletBoard (memWrite starletBoard 1) resetMachine [write]).reads
    [write] [] rfl 0x1c#32 .dicr rfl rfl write last
  exact absurd reads (by decide)

end SkyeyeStarlet
