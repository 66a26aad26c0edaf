import DriftTracing.Lib.Runs
import DriftTracing.Source.DriftTracer

/-!
# The two modes of the drift tracer

app/drift_tracer.hpp:74-88 documents what `CLEAR_ON_UPDATE` does to `overdrift()`. It does
nothing else: over any calls the two modes answer alike and have the same drift, and the
overdrift that is not cleared is the last one that the clearing mode showed.
-/
namespace DriftTracing.Source.DriftTracer
open DriftTracing.Lib

/-- The member functions that change a tracer. -/
inductive Call where
  | update (driftval : Int)
  | forceDrift (driftval : Int)
  deriving DecidableEq, Repr

/-- What a caller sees: the answer of `update`, and the two values after the call. -/
structure Shown where
  updated : Option Bool
  drift : Int
  overdrift : Int
  deriving DecidableEq, Repr

variable {maxSpan : UInt32} {maxDrift : Int32} {clearOnUpdate : Bool}

def call (t : DriftTracer maxSpan maxDrift clearOnUpdate) :
    Call → Shown × DriftTracer maxSpan maxDrift clearOnUpdate
  | .update driftval =>
    let r := t.update driftval
    (⟨some r.1, r.2.drift, r.2.overdrift⟩, r.2)
  | .forceDrift driftval =>
    let t := t.forceDrift driftval
    (⟨none, t.drift, t.overdrift⟩, t)

/-- The last value other than 0, or 0. -/
def lastNonzero : List Int → Int :=
  List.foldl (fun last x => if x = 0 then last else x) 0

theorem lastNonzero_snoc (xs : List Int) (x : Int) :
    lastNonzero (xs ++ [x]) = if x = 0 then lastNonzero xs else x := by
  rw [lastNonzero, List.foldl_append]
  rfl

/-- All but the overdrift is the same, an overdrift that is not cleared yet is the one kept,
and a dead band of width 0 has no overdrift. -/
structure Alike (clearing : DriftTracer maxSpan maxDrift true)
    (keeping : DriftTracer maxSpan maxDrift false) : Prop where
  drift : keeping.drift = clearing.drift
  driftSum : keeping.driftSum = clearing.driftSum
  driftSpan : keeping.driftSpan = clearing.driftSpan
  newest : clearing.overdrift ≠ 0 → keeping.overdrift = clearing.overdrift
  still : maxDrift.toInt = 0 → keeping.overdrift = 0

variable {clearing : DriftTracer maxSpan maxDrift true}
  {keeping : DriftTracer maxSpan maxDrift false}

/-- An update answers alike, and keeps the overdrift unless there is a new one. -/
theorem Alike.update (h : Alike clearing keeping) (driftval : Int) :
    (keeping.update driftval).1 = (clearing.update driftval).1 ∧
      Alike (clearing.update driftval).2 (keeping.update driftval).2 ∧
      (keeping.update driftval).2.overdrift =
        if (clearing.update driftval).2.overdrift = 0 then keeping.overdrift
        else (clearing.update driftval).2.overdrift := by
  unfold DriftTracer.update
  rw [h.driftSum, h.driftSpan]
  dsimp only
  split
  · -- the block stays open
    exact ⟨rfl, ⟨h.drift, rfl, rfl, fun new => absurd rfl new, h.still⟩, rfl⟩
  · generalize (clearing.driftSum + driftval).tdiv (clearing.driftSpan + 1).toNat = mean
    split
    · -- the mean exceeds the dead band, in both modes by the same overdrift
      have width : (if mean < 0 then -maxDrift.toInt else maxDrift.toInt) = 0 ↔
          maxDrift.toInt = 0 := by
        split
        · omega
        · exact Iff.rfl
      generalize (if mean < 0 then -maxDrift.toInt else maxDrift.toInt) = overdrift at width
      refine ⟨rfl, ⟨rfl, rfl, rfl, fun _ => rfl, width.mpr⟩, ?_⟩
      dsimp only
      split
      · next zero =>
        rw [zero, h.still (width.mp zero)]
      · rfl
    · exact ⟨rfl, ⟨rfl, rfl, rfl, fun new => absurd rfl new, h.still⟩, rfl⟩

theorem Alike.call (h : Alike clearing keeping) (c : Call) :
    ((DriftTracer.call keeping c).1.updated, (DriftTracer.call keeping c).1.drift) =
        ((DriftTracer.call clearing c).1.updated, (DriftTracer.call clearing c).1.drift) ∧
      Alike (DriftTracer.call clearing c).2 (DriftTracer.call keeping c).2 ∧
      (DriftTracer.call keeping c).2.overdrift =
        if (DriftTracer.call clearing c).1.overdrift = 0 then keeping.overdrift
        else (DriftTracer.call clearing c).1.overdrift := by
  cases c with
  | update driftval =>
    obtain ⟨answer, alike, kept⟩ := h.update driftval
    refine ⟨?_, alike, kept⟩
    dsimp only [DriftTracer.call]
    rw [answer, alike.drift]
  | forceDrift driftval =>
    refine ⟨rfl, ⟨rfl, h.driftSum, h.driftSpan, h.newest, h.still⟩, ?_⟩
    change keeping.overdrift =
      if clearing.overdrift = 0 then keeping.overdrift else clearing.overdrift
    by_cases none : clearing.overdrift = 0
    · rw [if_pos none]
    · rw [if_neg none, h.newest none]

theorem alike_run (calls : List Call) :
    let clearing := Runs.run call ({} : DriftTracer maxSpan maxDrift true) calls
    let keeping := Runs.run call ({} : DriftTracer maxSpan maxDrift false) calls
    keeping.1.map (fun s => (s.updated, s.drift)) =
        clearing.1.map (fun s => (s.updated, s.drift)) ∧
      Alike clearing.2 keeping.2 ∧
      keeping.2.overdrift = lastNonzero (clearing.1.map Shown.overdrift) := by
  induction calls using List.reverseRecOn with
  | nil => exact ⟨rfl, ⟨rfl, rfl, rfl, fun new => absurd rfl new, fun _ => rfl⟩, rfl⟩
  | append_singleton calls c ih =>
    intro clearing keeping
    obtain ⟨shown, alike, last⟩ := ih
    obtain ⟨answer, alike', kept⟩ := alike.call c
    refine ⟨?_, ?_, ?_⟩
    · simp only [clearing, keeping, Runs.run_append, List.map_append]
      rw [shown]
      exact congrArg (_ ++ [·]) answer
    · simp only [clearing, keeping, Runs.run_snoc_state]
      exact alike'
    · simp only [clearing, keeping, Runs.run_append, List.map_append]
      rw [last] at kept
      exact kept.trans (lastNonzero_snoc _ _).symm

/-- Over any calls the two modes show the same answers and drifts, and the overdrift that
is kept is the last one that the clearing mode showed. -/
theorem modes_agree (calls : List Call) :
    let clearing := Runs.run call ({} : DriftTracer maxSpan maxDrift true) calls
    let keeping := Runs.run call ({} : DriftTracer maxSpan maxDrift false) calls
    keeping.1.map (fun s => (s.updated, s.drift)) =
        clearing.1.map (fun s => (s.updated, s.drift)) ∧
      keeping.2.drift = clearing.2.drift ∧
      keeping.2.overdrift = lastNonzero (clearing.1.map Shown.overdrift) := by
  obtain ⟨shown, alike, last⟩ := @alike_run maxSpan maxDrift calls
  exact ⟨shown, alike.drift, last⟩

end DriftTracing.Source.DriftTracer
