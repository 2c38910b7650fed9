import Mathlib.Data.List.Basic

/-!
Runs of a deterministic machine over a list of events.  The rules here turn a
statement about one step into a statement about every run: an invariant, an
invariant that only steps of a given kind keep, and a simulation between two
machines that read the same events.
-/

namespace Runs

universe u v w

variable {State : Type u} {Event : Type v} {Abstract : Type w}

def run (step : State → Event → State) (state : State) (events : List Event) : State :=
  events.foldl step state

@[simp] theorem run_nil (step : State → Event → State) (state : State) :
    run step state [] = state := by
  rfl

@[simp] theorem run_cons (step : State → Event → State) (state : State) (event : Event)
    (rest : List Event) :
    run step state (event :: rest) = run step (step state event) rest := by
  rfl

theorem run_append (step : State → Event → State) (state : State) (first second : List Event) :
    run step state (first ++ second) = run step (run step state first) second := by
  simp [run, List.foldl_append]

theorem run_invariant (step : State → Event → State) (Inv : State → Prop)
    (keeps : ∀ state event, Inv state → Inv (step state event))
    (state : State) (start : Inv state) (events : List Event) :
    Inv (run step state events) := by
  induction events generalizing state with
  | nil => exact start
  | cons event rest ih => exact ih (step state event) (keeps state event start)

/-- Every step of the run is taken in a state where `Allowed` holds of it. -/
def AllSteps (step : State → Event → State) (Allowed : State → Event → Prop) :
    State → List Event → Prop
  | _, [] => True
  | state, event :: rest => Allowed state event ∧ AllSteps step Allowed (step state event) rest

theorem allSteps_of_forall (step : State → Event → State) {Allowed : State → Event → Prop}
    (always : ∀ state event, Allowed state event) (state : State) (events : List Event) :
    AllSteps step Allowed state events := by
  induction events generalizing state with
  | nil => trivial
  | cons event rest ih => exact ⟨always state event, ih (step state event)⟩

theorem allSteps_append (step : State → Event → State) (Allowed : State → Event → Prop)
    (state : State) (first second : List Event) :
    AllSteps step Allowed state (first ++ second) ↔
      AllSteps step Allowed state first ∧ AllSteps step Allowed (run step state first) second := by
  induction first generalizing state with
  | nil => simp [AllSteps]
  | cons event rest ih => simp only [List.cons_append, AllSteps, run_cons, ih, and_assoc]

theorem allSteps_mono (step : State → Event → State) {Allowed Weaker : State → Event → Prop}
    (weaker : ∀ state event, Allowed state event → Weaker state event)
    (state : State) (events : List Event) (allowed : AllSteps step Allowed state events) :
    AllSteps step Weaker state events := by
  induction events generalizing state with
  | nil => trivial
  | cons event rest ih =>
      exact ⟨weaker state event allowed.1, ih (step state event) allowed.2⟩

theorem run_invariant_of_allowed (step : State → Event → State) (Inv : State → Prop)
    (Allowed : State → Event → Prop)
    (keeps : ∀ state event, Inv state → Allowed state event → Inv (step state event))
    (state : State) (start : Inv state) (events : List Event)
    (allowed : AllSteps step Allowed state events) :
    Inv (run step state events) := by
  induction events generalizing state with
  | nil => exact start
  | cons event rest ih =>
      exact ih (step state event) (keeps state event start allowed.1) allowed.2

/-- Where a step that is good keeps the invariant exactly when it is allowed, a run keeps the
invariant with good steps throughout exactly when all its steps are allowed. -/
theorem run_allSteps_iff (step : State → Event → State) (Inv : State → Prop)
    (Good Allowed : State → Event → Prop)
    (exact : ∀ state event, Inv state →
      (Good state event ∧ Inv (step state event) ↔ Allowed state event))
    (state : State) (start : Inv state) (events : List Event) :
    (Inv (run step state events) ∧
        AllSteps step (fun state event => Inv state ∧ Good state event) state events) ↔
      AllSteps step Allowed state events := by
  induction events generalizing state with
  | nil => exact ⟨fun _ => trivial, fun _ => ⟨start, trivial⟩⟩
  | cons event rest ih =>
      constructor
      · rintro ⟨final, ⟨_, good⟩, later⟩
        have next : Inv (step state event) := by
          cases rest with
          | nil => exact final
          | cons => exact later.1.1
        exact ⟨(exact state event start).mp ⟨good, next⟩, (ih _ next).mp ⟨final, later⟩⟩
      · rintro ⟨allowed, later⟩
        obtain ⟨good, next⟩ := (exact state event start).mpr allowed
        obtain ⟨final, kept⟩ := (ih _ next).mpr later
        exact ⟨final, ⟨start, good⟩, kept⟩

theorem run_simulation_of_allowed (step : State → Event → State)
    (abstractStep : Abstract → Event → Abstract) (Rel : State → Abstract → Prop)
    (Allowed : State → Event → Prop)
    (simulates : ∀ state abstract event, Rel state abstract → Allowed state event →
      Rel (step state event) (abstractStep abstract event))
    (state : State) (abstract : Abstract) (start : Rel state abstract) (events : List Event)
    (allowed : AllSteps step Allowed state events) :
    Rel (run step state events) (run abstractStep abstract events) := by
  induction events generalizing state abstract with
  | nil => exact start
  | cons event rest ih =>
      exact ih _ _ (simulates state abstract event start allowed.1) allowed.2

end Runs
