import Mathlib.Logic.Function.Basic

/-!
A cache whose entries each answer a whole class of keys.  `lookup` is the slow
function that the cache stands in front of and `Covers` says which keys an entry
answers.  A cache is sound when each entry it holds is the slow answer for some
key; coherence of the slow function then makes it the answer for every key the
entry covers.
-/

namespace CoverCache

universe u v w x

variable {Key : Type u} {Entry : Type v} {Fault : Type w} {Slot : Type x}

/-- An entry found for one key is found for every key that it covers. -/
def Coherent (lookup : Key → Except Fault Entry) (Covers : Entry → Key → Prop) : Prop :=
  ∀ key other entry, lookup key = .ok entry → Covers entry other → lookup other = .ok entry

def Sound (lookup : Key → Except Fault Entry) (slots : Slot → Option Entry) : Prop :=
  ∀ slot entry, slots slot = some entry → ∃ key, lookup key = .ok entry

variable {lookup : Key → Except Fault Entry} {Covers : Entry → Key → Prop}
  {slots : Slot → Option Entry}

theorem sound_of_forall_none (empty : ∀ slot, slots slot = none) : Sound lookup slots := by
  intro slot entry held
  simp [empty slot] at held

theorem Sound.hit (sound : Sound lookup slots) (coherent : Coherent lookup Covers)
    {slot : Slot} {entry : Entry} {key : Key}
    (held : slots slot = some entry) (covers : Covers entry key) :
    lookup key = .ok entry := by
  obtain ⟨origin, found⟩ := sound slot entry held
  exact coherent origin key entry found covers

theorem Sound.insert [DecidableEq Slot] (sound : Sound lookup slots) (slot : Slot)
    {key : Key} {entry : Entry} (found : lookup key = .ok entry) :
    Sound lookup (Function.update slots slot (some entry)) := by
  intro other held stored
  by_cases same : other = slot
  · subst same
    simp only [Function.update_self, Option.some.injEq] at stored
    exact ⟨key, stored ▸ found⟩
  · rw [Function.update_of_ne same] at stored
    exact sound other held stored

theorem Sound.erase [DecidableEq Slot] (sound : Sound lookup slots) (slot : Slot) :
    Sound lookup (Function.update slots slot none) := by
  intro other held stored
  by_cases same : other = slot
  · subst same
    simp at stored
  · rw [Function.update_of_ne same] at stored
    exact sound other held stored

end CoverCache
