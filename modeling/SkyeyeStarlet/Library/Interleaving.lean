import Mathlib.Data.List.Induction
import SkyeyeStarlet.Library.Runs

/-!
A partial step among surroundings that move the state before, between and behind the steps, and
the runs of another system that follow it.
-/

namespace Interleaving

variable {State Concrete Event : Type}

section States

variable (step : State → Option State) (settles : State → State → Prop) (start : State)

inductive Reaches : Nat → State → Prop where
  | start {state : State} (settled : settles start state) : Reaches 0 state
  | step {count : Nat} {before after state : State} (reached : Reaches count before)
      (ran : step before = some after) (settled : settles after state) : Reaches (count + 1) state

variable {step settles start} {count : Nat} {before after : State}

theorem Reaches.settle (trans : ∀ first second third, settles first second →
    settles second third → settles first third)
    (reached : Reaches step settles start count before) (settled : settles before after) :
    Reaches step settles start count after := by
  cases reached with
  | start earlier => exact .start (trans _ _ _ earlier settled)
  | step reached ran earlier => exact .step reached ran (trans _ _ _ earlier settled)

theorem Reaches.invariant {Inv : State → Prop} (begins : Inv start)
    (settles_keeps : ∀ before after, Inv before → settles before after → Inv after)
    (step_keeps : ∀ before after, Inv before → step before = some after → Inv after)
    (reached : Reaches step settles start count after) : Inv after := by
  induction reached with
  | start settled => exact settles_keeps _ _ begins settled
  | step _ ran settled ih => exact settles_keeps _ _ (step_keeps _ _ ih ran) settled

end States

section Following

variable {step : State → Option State} {settles : State → State → Prop} {start : State}
  (refl : ∀ state, settles state state)
  (trans : ∀ first second third, settles first second → settles second third →
    settles first third)
  {concrete : Concrete → Event → Concrete} {Related : Concrete → State → Prop}
  {Good : State → Prop} {Allowed : Event → Prop}
  (follows : ∀ other state event, Related other state → Allowed event →
    (∀ moved, settles state moved → Good moved) →
    ∃ moved after, settles state moved ∧ step moved = some after ∧
      Related (concrete other event) after)

include refl trans follows

theorem run_follows {first : Concrete} (begins : Related first start) (events : List Event)
    (allowed : ∀ event ∈ events, Allowed event)
    (good : ∀ count state, count < events.length → Reaches step settles start count state →
      Good state) :
    ∃ state, Reaches step settles start events.length state ∧
      Related (Runs.run concrete first events) state := by
  induction events using List.reverseRecOn with
  | nil => exact ⟨start, .start (refl start), begins⟩
  | append_singleton earlier last ih =>
      obtain ⟨state, reached, related⟩ := ih
        (fun event member => allowed event (List.mem_append_left _ member))
        (fun count state bound => good count state (by
          rw [List.length_append]
          omega))
      obtain ⟨moved, after, settled, ran, next⟩ := follows _ _ last related
        (allowed last (List.mem_append_right _ List.mem_cons_self))
        (fun moved settled => good earlier.length moved (by simp)
          (reached.settle trans settled))
      refine ⟨after, ?_, ?_⟩
      · rw [List.length_append]
        exact .step (reached.settle trans settled) ran (refl after)
      · rw [Runs.run_append]
        exact next

end Following

end Interleaving
