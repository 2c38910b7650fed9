import Mathlib.Data.List.Induction
import SkyeyeStarlet.Library.Runs

/-!
A file of registers behind events that each name at most one of them.  Seen at one register, a
run of the file is the run of the events that name it.
-/

namespace RegisterFile

universe u v w x

open Runs

variable {State : Type u} {Event : Type v} {Reg : Type w} {Value : Type x}

variable [DecidableEq Reg]

/-- An event changes the register it names by a rule of its own, and no other. -/
def Independent (step : State → Event → State) (value : Reg → State → Value)
    (target : Event → Option Reg) (rule : Reg → Event → Value → Value) : Prop :=
  ∀ state event reg, value reg (step state event) =
    if target event = some reg then rule reg event (value reg state) else value reg state

def lastTo (target : Event → Option Reg) (reg : Reg) (events : List Event) : Option Event :=
  events.reverse.find? fun event => target event = some reg

theorem lastTo_congr {Other : Type w} [DecidableEq Other] {target : Event → Option Reg}
    {target' : Event → Option Other} {reg : Reg} {reg' : Other}
    (same : ∀ event, target event = some reg ↔ target' event = some reg') (events : List Event) :
    lastTo target reg events = lastTo target' reg' events := by
  simp only [lastTo, same]

theorem lastTo_append (target : Event → Option Reg) (reg : Reg) (events : List Event)
    (event : Event) :
    lastTo target reg (events ++ [event]) =
      if target event = some reg then some event else lastTo target reg events := by
  rw [lastTo, List.reverse_append, List.reverse_singleton, List.singleton_append, List.find?_cons]
  by_cases named : target event = some reg
  · simp only [named, decide_true, if_true]
  · simp only [named, decide_false, if_false]
    rfl

theorem lastTo_target {target : Event → Option Reg} {reg : Reg} {events : List Event}
    {event : Event} (last : lastTo target reg events = some event) :
    event ∈ events ∧ target event = some reg := by
  have member := List.mem_of_find?_eq_some last
  have names := List.find?_some last
  exact ⟨List.mem_reverse.mp member, of_decide_eq_true names⟩

variable {step : State → Event → State} {value : Reg → State → Value}
  {target : Event → Option Reg} {rule : Reg → Event → Value → Value}

theorem Independent.run_last (independent : Independent step value target rule) {reg : Reg}
    {kept : Event → Value} (overwrites : ∀ event old, target event = some reg →
      rule reg event old = kept event) (state : State) (events : List Event) :
    value reg (run step state events) =
      (lastTo target reg events).elim (value reg state) kept := by
  induction events using List.reverseRecOn with
  | nil => rfl
  | append_singleton before event ih =>
      rw [run_append, run_cons, run_nil, independent, lastTo_append]
      by_cases named : target event = some reg
      · rw [if_pos named, if_pos named, overwrites event _ named]
        rfl
      · rw [if_neg named, if_neg named]
        exact ih

end RegisterFile
