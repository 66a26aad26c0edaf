import Mathlib.Data.List.Induction
import Mathlib.Logic.Relation

/-!
# Runs of deterministic machines

`run step s inputs` feeds a finite list of inputs to a machine and collects the
outputs in order. `before step s input k` is the state in which the machine reads
input number `k` of an infinite input. One rule each for invariants and for
simulation lifts a fact about one step to every run.
-/
namespace DriftTracing.Lib.Runs

variable {σ τ ι ο : Type*}

def run (step : σ → ι → ο × σ) : σ → List ι → List ο × σ
  | s, [] => ([], s)
  | s, i :: is =>
    let r := step s i
    let rest := run step r.2 is
    (r.1 :: rest.1, rest.2)

@[simp] theorem run_nil (step : σ → ι → ο × σ) (s : σ) : run step s [] = ([], s) := rfl

theorem run_append (step : σ → ι → ο × σ) (s : σ) (is js : List ι) :
    run step s (is ++ js) =
      ((run step s is).1 ++ (run step (run step s is).2 js).1,
        (run step (run step s is).2 js).2) := by
  induction is generalizing s with
  | nil => simp
  | cons i is ih => simp [run, ih]

/-- The state after one more input. -/
theorem run_snoc_state (step : σ → ι → ο × σ) (s : σ) (is : List ι) (i : ι) :
    (run step s (is ++ [i])).2 = (step (run step s is).2 i).2 := by
  rw [run_append]
  rfl

/-- What every step preserves holds after every run. -/
theorem run_invariant {step : σ → ι → ο × σ} {I : σ → Prop}
    (preserved : ∀ s i, I s → I (step s i).2) {s : σ} (initial : I s) (is : List ι) :
    I (run step s is).2 := by
  induction is generalizing s with
  | nil => exact initial
  | cons i is ih => exact ih (preserved s i initial)

/-- Two machines that agree on every step from related states produce the same
outputs on every input and end in related states. -/
theorem run_simulation {step : σ → ι → ο × σ} {step' : τ → ι → ο × τ} {R : σ → τ → Prop}
    (matched : ∀ s t i, R s t → (step s i).1 = (step' t i).1 ∧ R (step s i).2 (step' t i).2)
    {s : σ} {t : τ} (initial : R s t) (is : List ι) :
    (run step s is).1 = (run step' t is).1 ∧ R (run step s is).2 (run step' t is).2 := by
  induction is generalizing s t with
  | nil => exact ⟨rfl, initial⟩
  | cons i is ih =>
    obtain ⟨output, related⟩ := matched s t i initial
    obtain ⟨outputs, final⟩ := ih related
    exact ⟨by simp only [run, output, outputs], final⟩

/-- The inputs of a run without those that `skip` selects in the state they are
read in. -/
def kept (step : σ → ι → ο × σ) (skip : σ → ι → Bool) : σ → List ι → List ι
  | _, [] => []
  | s, i :: is =>
    if skip s i then kept step skip (step s i).2 is else i :: kept step skip (step s i).2 is

theorem kept_snoc (step : σ → ι → ο × σ) (skip : σ → ι → Bool) (s : σ) (is : List ι) (i : ι) :
    kept step skip s (is ++ [i]) =
      kept step skip s is ++ if skip (run step s is).2 i then [] else [i] := by
  induction is generalizing s with
  | nil =>
    rw [List.nil_append, kept, kept, kept, run_nil]
    rfl
  | cons j js ih =>
    rw [List.cons_append, kept, kept, ih]
    split
    · rfl
    · rfl

/-- A run agrees with the run over its kept inputs, if every kept step preserves
the agreement of two states and every skipped one does so while the other state
stands still. -/
theorem run_kept {step : σ → ι → ο × σ} {skip : σ → ι → Bool} {ok : σ → ι → Prop}
    {R : σ → σ → Prop}
    (keeps : ∀ s t i, R s t → skip s i = false → R (step s i).2 (step t i).2)
    (skips : ∀ s t i, R s t → skip s i = true → ok s i → R (step s i).2 t)
    {s : σ} (initial : R s s) (is : List ι)
    (all : ∀ pre i, pre ++ [i] <+: is → skip (run step s pre).2 i = true →
      ok (run step s pre).2 i) :
    R (run step s is).2 (run step s (kept step skip s is)).2 := by
  induction is using List.reverseRecOn with
  | nil => exact initial
  | append_singleton is i ih =>
    have agree := ih fun pre j hpre => all pre j (hpre.trans (List.prefix_append is [i]))
    rw [kept_snoc, run_snoc_state]
    cases skipped : skip (run step s is).2 i with
    | true =>
      rw [if_pos rfl, List.append_nil]
      exact skips _ _ i agree skipped (all is i (List.prefix_refl _) skipped)
    | false =>
      rw [if_neg (by decide), run_snoc_state]
      exact keeps _ _ i agree skipped

/-- What is visible of a run comes from the inputs that `keep` selects, and so does the
agreement with a state: the others show nothing and change nothing of it. -/
theorem run_filter {ω : Type*} {step : σ → ι → ο × σ} {visible : ο → Option ω} {keep : ι → Bool}
    {R : σ → σ → Prop}
    (keeps : ∀ s t i, R s t → keep i = true →
      visible (step s i).1 = visible (step t i).1 ∧ R (step s i).2 (step t i).2)
    (skips : ∀ s t i, R s t → keep i = false →
      visible (step s i).1 = none ∧ R (step s i).2 t)
    {s t : σ} (initial : R s t) (is : List ι) :
    (run step s is).1.filterMap visible = (run step t (is.filter keep)).1.filterMap visible ∧
      R (run step s is).2 (run step t (is.filter keep)).2 := by
  induction is generalizing s t with
  | nil => exact ⟨rfl, initial⟩
  | cons i is ih =>
    cases kept : keep i with
    | true =>
      obtain ⟨output, related⟩ := keeps s t i initial kept
      obtain ⟨outputs, final⟩ := ih related
      rw [List.filter_cons_of_pos kept, run, run, List.filterMap_cons, List.filterMap_cons,
        output, outputs]
      exact ⟨rfl, final⟩
    | false =>
      obtain ⟨output, related⟩ := skips s t i initial kept
      obtain ⟨outputs, final⟩ := ih related
      rw [List.filter_cons_of_neg (by simp [kept]), run, List.filterMap_cons, output]
      exact ⟨outputs, final⟩

/-- The state in which input number `k` is read. -/
def before (step : σ → ι → ο × σ) (s : σ) (input : Nat → ι) : Nat → σ
  | 0 => s
  | k + 1 => (step (before step s input k) (input k)).2

theorem before_succ (step : σ → ι → ο × σ) (s : σ) (input : Nat → ι) (k : Nat) :
    before step s input (k + 1) = (step (before step s input k) (input k)).2 := rfl

/-- A state depends only on the inputs read before it. -/
theorem before_congr (step : σ → ι → ο × σ) (s : σ) {input input' : Nat → ι} {k : Nat}
    (same : ∀ j < k, input j = input' j) : before step s input k = before step s input' k := by
  induction k with
  | zero => rfl
  | succ k ih =>
    rw [before_succ, before_succ, ih fun j hj => same j (by omega), same k (by omega)]

/-- A run over a prefix of an infinite input. -/
theorem run_map_range (step : σ → ι → ο × σ) (s : σ) (input : Nat → ι) (n : Nat) :
    run step s ((List.range n).map input) =
      ((List.range n).map fun k => (step (before step s input k) (input k)).1,
        before step s input n) := by
  induction n with
  | zero => rfl
  | succ n ih =>
    rw [List.range_succ, List.map_append, List.map_append, run_append, ih]
    rfl

/-- A run over a list, input by input. -/
theorem run_getD (step : σ → ι → ο × σ) (s : σ) (is : List ι) (i : ι) :
    run step s is =
      ((List.range is.length).map fun k =>
          (step (before step s (is.getD · i) k) (is.getD k i)).1,
        before step s (is.getD · i) is.length) := by
  have inputs : is = (List.range is.length).map (is.getD · i) := by
    apply List.ext_getElem
    · simp
    · intro k short _
      simp [short]
  rw [← run_map_range, ← inputs]

end DriftTracing.Lib.Runs
