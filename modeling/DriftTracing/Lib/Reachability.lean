import Mathlib.Logic.Relation

/-!
# Reachable states of a machine with guarded steps

`step s i` is the state after the event `i`, where the event can happen in `s`.
`Reaches step ok` relates a state to those it leads to by any number of steps that
all meet the condition `ok`.
-/
namespace DriftTracing.Lib.Reachability

variable {σ τ ι κ : Type*}

def Reaches (step : σ → ι → Option σ) (ok : σ → ι → Prop) : σ → σ → Prop :=
  Relation.ReflTransGen fun s t => ∃ i, ok s i ∧ step s i = some t

/-- The state after a list of events, if all of them can happen and meet `ok`. -/
def follow (step : σ → ι → Option σ) (ok : σ → ι → Prop) [∀ s i, Decidable (ok s i)] :
    σ → List ι → Option σ
  | s, [] => some s
  | s, i :: is => if ok s i then (step s i).bind fun t => follow step ok t is else none

variable {step : σ → ι → Option σ} {ok : σ → ι → Prop}

theorem Reaches.invariant {I : σ → Prop}
    (preserved : ∀ s i t, I s → ok s i → step s i = some t → I t) {s t : σ}
    (reaches : Reaches step ok s t) (initial : I s) : I t := by
  induction reaches with
  | refl => exact initial
  | tail _ last ih =>
    obtain ⟨i, meets, stepped⟩ := last
    exact preserved _ i _ ih meets stepped

/-- If every step between related states can be made up for by steps of another
machine, so can every run, the invariant of the first one given. -/
theorem Reaches.simulation {step' : τ → κ → Option τ} {ok' : τ → κ → Prop} {I : σ → Prop}
    {R : σ → τ → Prop}
    (preserved : ∀ s i t, I s → ok s i → step s i = some t → I t)
    (matched : ∀ s i t u, I s → R s u → ok s i → step s i = some t →
      ∃ v, Reaches step' ok' u v ∧ R t v)
    {s t : σ} {u : τ} (reaches : Reaches step ok s t) (inv : I s) (initial : R s u) :
    ∃ v, Reaches step' ok' u v ∧ R t v := by
  induction reaches with
  | refl => exact ⟨u, Relation.ReflTransGen.refl, initial⟩
  | tail before last ih =>
    obtain ⟨v, reached, related⟩ := ih
    obtain ⟨i, meets, stepped⟩ := last
    have inv' := Reaches.invariant preserved before inv
    obtain ⟨w, further, related'⟩ := matched _ i _ v inv' related meets stepped
    exact ⟨w, reached.trans further, related'⟩

/-- One step that can happen. -/
theorem Reaches.single {s t : σ} {i : ι} (meets : ok s i) (stepped : step s i = some t) :
    Reaches step ok s t :=
  Relation.ReflTransGen.single ⟨i, meets, stepped⟩

/-- A list of events that can be followed shows its last state to be reachable. -/
theorem reaches_of_follow [∀ s i, Decidable (ok s i)] {s t : σ} {is : List ι}
    (h : follow step ok s is = some t) : Reaches step ok s t := by
  induction is generalizing s with
  | nil =>
    obtain rfl : s = t := by simpa [follow] using h
    exact Relation.ReflTransGen.refl
  | cons i is ih =>
    by_cases meets : ok s i
    · rw [follow, if_pos meets, Option.bind_eq_some_iff] at h
      obtain ⟨u, stepped, rest⟩ := h
      exact Relation.ReflTransGen.head ⟨i, meets, stepped⟩ (ih rest)
    · rw [follow, if_neg meets] at h
      cases h

end DriftTracing.Lib.Reachability
