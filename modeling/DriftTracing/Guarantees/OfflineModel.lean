import DriftTracing.Guarantees.DriftSamples
import DriftTracing.Source.PlotScripts

/-!
# The offline model unwraps as the application does

plot-drift-model.py has its own wrap check, nested otherwise, and evaluates the first
row where the application only sets its base. Both keep the flag and the turns of an
`Unwrap.Tracker`. When the first timestamp is clear of the wrap they agree after every
row, whatever the order of the timestamps, and their bases differ by the overdrifts,
which the script does not apply.
-/
namespace DriftTracing.Source.PlotDriftModel
open DriftTracing.Lib

/-- The script and a tracker, with a base from which the turns are counted. -/
structure Tracks (base : Int) (t : PlotDriftModel) (tr : Unwrap.Tracker) : Prop where
  flag : t.tsbpdWrapCheck = tr.checking
  turns : t.tsbpdBase = base + Tsbpd.period * tr.turns

theorem init_tracks (df : LogRow) (isLocalClockStd isRemoteClockStd : Bool) :
    Tracks (init df isLocalClockStd isRemoteClockStd).tsbpdBase
      (init df isLocalClockStd isRemoteClockStd) {} :=
  ⟨rfl, by simp⟩

/-- The script's comparisons are the tracker's. -/
theorem getTimeBase_eq (t : PlotDriftModel) (n : Nat) :
    t.getTimeBase n =
      if t.tsbpdWrapCheck then
        if n < Source.TSBPD_WRAP_PERIOD then (t.tsbpdBase + Tsbpd.period, t)
        else if Source.TSBPD_WRAP_PERIOD ≤ n ∧ n ≤ 2 * Source.TSBPD_WRAP_PERIOD then
          (t.tsbpdBase + Tsbpd.period,
            { t with tsbpdWrapCheck := false, tsbpdBase := t.tsbpdBase + Tsbpd.period })
        else (t.tsbpdBase, t)
      else if Tsbpd.period - 1 - Source.TSBPD_WRAP_PERIOD < n then
        (t.tsbpdBase, { t with tsbpdWrapCheck := true })
      else (t.tsbpdBase, t) := by
  have turn : MAX_TIMESTAMP + 1 = (Tsbpd.period : Int) := by decide
  have window : TSBPD_WRAP_PERIOD = (Source.TSBPD_WRAP_PERIOD : Int) := by decide
  have early : (n : Int) < TSBPD_WRAP_PERIOD ↔ n < Source.TSBPD_WRAP_PERIOD := by
    rw [window]
    exact Int.ofNat_lt
  have commits : (n : Int) ≥ TSBPD_WRAP_PERIOD ∧ (n : Int) ≤ TSBPD_WRAP_PERIOD * 2 ↔
      Source.TSBPD_WRAP_PERIOD ≤ n ∧ n ≤ 2 * Source.TSBPD_WRAP_PERIOD := by
    rw [window]
    omega
  have arms : (n : Int) > MAX_TIMESTAMP - TSBPD_WRAP_PERIOD ↔
      Tsbpd.period - 1 - Source.TSBPD_WRAP_PERIOD < n := by
    simp only [MAX_TIMESTAMP, TSBPD_WRAP_PERIOD, Tsbpd.period, Source.TSBPD_WRAP_PERIOD]
    omega
  unfold PlotDriftModel.getTimeBase
  simp only [early, commits, arms, turn]
  split
  · split
    · rfl
    · split
      · simp
      · simp
  · split
    · simp
    · simp

/-- A row is observed, and its timestamp is credited the turns after that. -/
theorem Tracks.getTimeBase {base : Int} {t : PlotDriftModel} {tr : Unwrap.Tracker}
    (h : Tracks base t tr) (n : Nat) :
    let observed := tr.observe Tsbpd.period Source.TSBPD_WRAP_PERIOD n
    (t.getTimeBase n).1 =
        base + Tsbpd.period * observed.turnsOf Source.TSBPD_WRAP_PERIOD n ∧
      Tracks base (t.getTimeBase n).2 observed := by
  obtain ⟨flag, turns⟩ := h
  obtain ⟨checking, count⟩ := tr
  have next : base + (Tsbpd.period : Int) * (count + 1 : Nat) =
      base + Tsbpd.period * count + Tsbpd.period := by
    push_cast
    ring
  dsimp only at flag turns
  rw [getTimeBase_eq, Unwrap.Tracker.observe, flag]
  dsimp only
  cases checking with
  | true =>
    simp only [if_true]
    by_cases early : n < Source.TSBPD_WRAP_PERIOD
    · have outside : ¬ (Source.TSBPD_WRAP_PERIOD ≤ n ∧ n ≤ 2 * Source.TSBPD_WRAP_PERIOD) := by omega
      rw [if_pos early, if_neg outside]
      refine ⟨?_, flag, turns⟩
      simp only [Unwrap.Tracker.turnsOf, early, and_self, if_true, next, turns]
    · rw [if_neg early]
      split
      · rw [turns, ← next]
        exact ⟨rfl, rfl, rfl⟩
      · exact ⟨by simp [Unwrap.Tracker.turnsOf, early, turns], flag, turns⟩
  | false =>
    simp only [Bool.false_eq_true, if_false]
    split
    · next arms =>
      have late : ¬ n < Source.TSBPD_WRAP_PERIOD := by
        simp only [Tsbpd.period, Source.TSBPD_WRAP_PERIOD] at arms ⊢
        omega
      exact ⟨by simp [Unwrap.Tracker.turnsOf, late, turns], rfl, turns⟩
    · exact ⟨by simp [Unwrap.Tracker.turnsOf, turns], flag, turns⟩

/-- The script before row number `k`. -/
def before (t : PlotDriftModel) (timestamps : Nat → UInt32) (k : Nat) : PlotDriftModel :=
  Runs.before (fun t ts => t.getTimeBase (UInt32.toNat ts)) t timestamps k

/-- The base the script returns for row number `k`. -/
def timeBase (t : PlotDriftModel) (timestamps : Nat → UInt32) (k : Nat) : Int :=
  ((before t timestamps k).getTimeBase (timestamps k).toNat).1

/-- From a first timestamp clear of the wrap, the script follows the tracker of the
application, which does not observe that timestamp. -/
theorem Tracks.run {base : Int} {t : PlotDriftModel} (h : Tracks base t {})
    {samples : Nat → Tsbpd.Sample}
    (start : (samples 0).timestampUs.toNat ≤ Source.MAX_TIMESTAMP - Source.TSBPD_WRAP_PERIOD)
    (k : Nat) :
    let timestamps := fun j => (samples j).timestampUs
    t.timeBase timestamps k = base + Tsbpd.period *
        (Tsbpd.tracker samples k).turnsOf Source.TSBPD_WRAP_PERIOD (timestamps k).toNat ∧
      Tracks base (t.before timestamps (k + 1)) (Tsbpd.tracker samples k) := by
  intro timestamps
  induction k with
  | zero =>
    have quiet : Unwrap.Tracker.observe Tsbpd.period Source.TSBPD_WRAP_PERIOD {}
        (timestamps 0).toNat = Tsbpd.tracker samples 0 := by
      have clear : ¬ Tsbpd.period - 1 - Source.TSBPD_WRAP_PERIOD < (timestamps 0).toNat :=
        Nat.not_lt.mpr start
      rw [Unwrap.Tracker.observe, if_neg Bool.false_ne_true, if_neg clear]
      rfl
    rw [← quiet]
    exact h.getTimeBase (timestamps 0).toNat
  | succ k ih => exact ih.2.getTimeBase (timestamps (k + 1)).toNat

/-- The script and the application agree after every row: on the wrap flag, and on the
base for the row's timestamp, counted from the initial one and without the overdrifts
logged so far. -/
theorem unwraps_as_application (df : LogRow) (isLocalClockStd isRemoteClockStd : Bool)
    (samples : Nat → Tsbpd.Sample) (k : Nat)
    (start : (samples 0).timestampUs.toNat ≤ Source.MAX_TIMESTAMP - Source.TSBPD_WRAP_PERIOD)
    (set : Tsbpd.StaysSet samples (k + 1)) :
    let script := init df isLocalClockStd isRemoteClockStd
    let timestamps := fun j => (samples j).timestampUs
    let app := fun j => Tsbpd.before samples (j + 1)
    (script.before timestamps (k + 1)).tsbpdWrapCheck = (app k).wrapCheck ∧
      microsecondsFrom (script.timeBase timestamps k - script.tsbpdBase) =
        (app k).getPktTimeBase (timestamps k) - Tsbpd.initialBase samples -
          microsecondsFrom (∑ j ∈ Finset.range (k + 1), (app j).overdrift) := by
  intro script timestamps app
  have follows := Tsbpd.base_follows samples set
  obtain ⟨returned, tracks⟩ := (init_tracks df isLocalClockStd isRemoteClockStd).run start k
  refine ⟨tracks.flag.trans follows.flag, ?_⟩
  rw [follows.getPktTimeBase_eq, Tsbpd.sum_overdrift set]
  have base : script.timeBase timestamps k = _ := returned
  rw [base, add_sub_cancel_left]
  dsimp only [timestamps]
  omega

/-- The first row of a file that starts 50 seconds before a wrap. -/
def beforeWrapRow : LogRow :=
  ⟨5000000, 5000000, 4244967296, 4244967296, 40000, 40000, 40000, 20000, 0, 0, 0⟩

/-- Over the wrap, with the commit of the turn at the last row. -/
theorem unwraps_as_application_at_commit :
    let script := init beforeWrapRow true true
    let samples := Tsbpd.wrapRun 50000000
    let timestamps := fun j => (samples j).timestampUs
    let app := fun j => Tsbpd.before samples (j + 1)
    (script.before timestamps 5).tsbpdWrapCheck = (app 4).wrapCheck ∧
      microsecondsFrom (script.timeBase timestamps 4 - script.tsbpdBase) =
        (app 4).getPktTimeBase (timestamps 4) - Tsbpd.initialBase samples -
          microsecondsFrom (∑ j ∈ Finset.range 5, (app j).overdrift) := by
  have set : Tsbpd.StaysSet (Tsbpd.wrapRun 50000000) 5 := by
    unfold Tsbpd.StaysSet
    decide +kernel
  exact unwraps_as_application beforeWrapRow true true (Tsbpd.wrapRun 50000000) 4 (by decide) set

end DriftTracing.Source.PlotDriftModel
