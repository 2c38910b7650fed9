import Mathlib.Data.List.Basic

/-!
Two runs of a machine that several parties drive and that may stop.  What one party sees
after each of its own events depends on those events alone, if a relation between states
survives the events of the others and is kept by the party's own.
-/

namespace Unwinding

universe u v w

variable {State : Type u} {Event : Type v} {View : Type w}

/-- What a party sees after each of its own events, until the machine stops. -/
def observed (step : State → Event → Option State) (mine : Event → Bool) (view : State → View) :
    State → List Event → List View
  | _, [] => []
  | state, event :: rest =>
      match step state event with
      | none => []
      | some next =>
          if mine event then view next :: observed step mine view next rest
          else observed step mine view next rest

variable {step : State → Event → Option State} {mine : Event → Bool} {view : State → View}

theorem observed_stop {state : State} {event : Event} {rest : List Event}
    (stops : step state event = none) : observed step mine view state (event :: rest) = [] := by
  simp only [observed, stops]

theorem observed_other {state next : State} {event : Event} {rest : List Event}
    (stepped : step state event = some next) (other : mine event = false) :
    observed step mine view state (event :: rest) = observed step mine view next rest := by
  simp [observed, stepped, other]

theorem observed_own {state next : State} {event : Event} {rest : List Event}
    (stepped : step state event = some next) (own : mine event = true) :
    observed step mine view state (event :: rest) =
      view next :: observed step mine view next rest := by
  simp [observed, stepped, own]

/-- A relation between the states of two runs that the allowed events keep. -/
structure Respects (step : State → Event → Option State) (mine : Event → Bool)
    (view : State → View) (Allowed : Event → Prop) (Rel : State → State → Prop) : Prop where
  symm : ∀ first second, Rel first second → Rel second first
  seen : ∀ first second, Rel first second → view first = view second
  other : ∀ first second event next, Allowed event → mine event = false → Rel first second →
    step first event = some next → Rel next second
  own : ∀ first second event next next', Allowed event → mine event = true → Rel first second →
    step first event = some next → step second event = some next' → Rel next next'

variable {Allowed : Event → Prop} {Rel : State → State → Prop}

theorem observed_agree (respects : Respects step mine view Allowed Rel) (first second : State)
    (events others : List Event) (related : Rel first second)
    (allowed : ∀ event ∈ events, Allowed event) (allowed' : ∀ event ∈ others, Allowed event)
    (same : events.filter mine = others.filter mine) (index : Nat) (left right : View)
    (seen : (observed step mine view first events)[index]? = some left)
    (seen' : (observed step mine view second others)[index]? = some right) :
    left = right := by
  induction events generalizing first second others index with
  | nil => simp [observed] at seen
  | cons event rest ih =>
      have head := allowed event List.mem_cons_self
      have tail := fun event member => allowed event (List.mem_cons_of_mem _ member)
      cases stepped : step first event with
      | none => simp [observed_stop stepped] at seen
      | some next =>
          by_cases own : mine event = true
          · -- the other run skips to the same event
            induction others generalizing second with
            | nil => simp [observed] at seen'
            | cons event' rest' skip =>
                have head' := allowed' event' List.mem_cons_self
                have tail' := fun event member => allowed' event (List.mem_cons_of_mem _ member)
                cases stepped' : step second event' with
                | none => simp [observed_stop stepped'] at seen'
                | some next' =>
                    by_cases own' : mine event' = true
                    · rw [List.filter_cons_of_pos own, List.filter_cons_of_pos own',
                        List.cons.injEq] at same
                      obtain ⟨rfl, same⟩ := same
                      have moved := respects.own _ _ _ _ _ head own related stepped stepped'
                      rw [observed_own stepped own] at seen
                      rw [observed_own stepped' own] at seen'
                      cases index with
                      | zero =>
                          simp only [List.getElem?_cons_zero, Option.some.injEq] at seen seen'
                          rw [← seen, ← seen']
                          exact respects.seen _ _ moved
                      | succ index => exact ih _ _ _ moved tail tail' same index seen seen'
                    · have not_own : mine event' = false := by simpa using own'
                      have moved := respects.symm _ _
                        (respects.other _ _ _ _ head' not_own (respects.symm _ _ related) stepped')
                      rw [observed_other stepped' not_own] at seen'
                      rw [List.filter_cons_of_neg own'] at same
                      exact skip next' moved tail' same seen'
          · have not_own : mine event = false := by simpa using own
            rw [observed_other stepped not_own] at seen
            rw [List.filter_cons_of_neg own] at same
            exact ih _ _ _ (respects.other _ _ _ _ head not_own related stepped) tail allowed' same
              index seen seen'

/-- The events of the others never stop the machine, and those of the party stop both runs. -/
structure StopsAlike (step : State → Event → Option State) (mine : Event → Bool)
    (Allowed : Event → Prop) (Rel : State → State → Prop) : Prop where
  other : ∀ first second event, Allowed event → mine event = false → Rel first second →
    step first event ≠ none
  own : ∀ first second event, Allowed event → mine event = true → Rel first second →
    (step first event = none ↔ step second event = none)

theorem observed_alone (respects : Respects step mine view Allowed Rel)
    (stops : StopsAlike step mine Allowed Rel) (first second : State) (events : List Event)
    (related : Rel first second) (allowed : ∀ event ∈ events, Allowed event) :
    observed step mine view first events =
      observed step mine view second (events.filter mine) := by
  induction events generalizing first second with
  | nil => rfl
  | cons event rest ih =>
      have head := allowed event List.mem_cons_self
      have tail := fun event member => allowed event (List.mem_cons_of_mem _ member)
      by_cases own : mine event = true
      · rw [List.filter_cons_of_pos own]
        cases stepped : step first event with
        | none =>
            have together := (stops.own _ _ _ head own related).mp stepped
            rw [observed_stop stepped, observed_stop together]
        | some next =>
            cases stepped' : step second event with
            | none =>
                have together := (stops.own _ _ _ head own related).mpr stepped'
                rw [stepped] at together
                cases together
            | some next' =>
                have moved := respects.own _ _ _ _ _ head own related stepped stepped'
                rw [observed_own stepped own, observed_own stepped' own,
                  respects.seen _ _ moved, ih _ _ moved tail]
      · have not_own : mine event = false := by simpa using own
        rw [List.filter_cons_of_neg own]
        cases stepped : step first event with
        | none => exact absurd stepped (stops.other _ _ _ head not_own related)
        | some next =>
            rw [observed_other stepped not_own]
            exact ih _ _ (respects.other _ _ _ _ head not_own related stepped) tail

theorem observed_eq (respects : Respects step mine view Allowed Rel)
    (stops : StopsAlike step mine Allowed Rel) (start : State) (events others : List Event)
    (related : Rel start start) (allowed : ∀ event ∈ events, Allowed event)
    (allowed' : ∀ event ∈ others, Allowed event)
    (same : events.filter mine = others.filter mine) :
    observed step mine view start events = observed step mine view start others := by
  rw [observed_alone respects stops start start events related allowed, same,
    observed_alone respects stops start start others related allowed']

end Unwinding
