import DriftTracing.Guarantees.DriftSamples
import DriftTracing.Protocol.TraceRounds

/-!
# The trace shows the drift of two clocks

This is what the program is for. A process hears the clock of the other one in every
ACKACK, and its samples, with the overdrifts they were corrected by, say how the distance
between the two clocks changed since the first row, as far as the way of the ACKACK
lets it be seen. The network may do what it likes, and no assumption is made on the
delays or the clocks but that the other process did not run for the 71 minutes after which
its timestamps wrap.
-/
namespace DriftTracing.Source
open DriftTracing.Lib

/-- A time that passed is rounded down. -/
theorem microsecondsFrom_countMicroseconds_le {t : Int} (passed : 0 ≤ t) :
    microsecondsFrom (countMicroseconds t) ≤ t := by
  unfold microsecondsFrom countMicroseconds
  rw [Int.tdiv_eq_ediv_of_nonneg passed]
  omega

/-- What the rows of a trace show of the drift of two clocks: the sample, the overdrifts
before it, and half the change of the RTT if it was taken out. -/
def shownDrift (cfg : Config) (rows : Nat → TraceRow) (k : Nat) : Int :=
  (rows k).driftSampleStd + ∑ j ∈ Finset.range k, (rows j).overdrift +
    if cfg.compensateRtt then ((rows k).rttStd.toInt - (rows 0).rttStd.toInt).tdiv 2 else 0

namespace Globals

variable {cfg : Config} {g : Globals} {rounds : Nat → Round} {n k : Nat}

/-- Without wraps the base that a row gives is the base after the row. -/
theorem staysSet_of_rows (unset : g.tsbpd = {}) (clear : Tsbpd.NoWrap (samples cfg g rounds) n)
    (based : ∀ k < n, (row cfg g rounds k).tsbpdBase ≠ epoch) :
    Tsbpd.StaysSet (samples cfg g rounds) n := by
  induction n with
  | zero => exact fun k _ high => absurd high (Nat.not_lt_zero k)
  | succ n ih =>
    have earlier := ih (fun k hk => clear k (by omega)) fun k hk => based k (by omega)
    intro k low high
    rcases Nat.lt_or_eq_of_le (Nat.lt_succ_iff.mp high) with less | rfl
    · exact earlier k low less
    · obtain ⟨j, rfl⟩ : ∃ j, k = j + 1 := ⟨k - 1, by omega⟩
      have follows := Tsbpd.base_follows (samples cfg g rounds) earlier
      have settled : Tsbpd.tracker (samples cfg g rounds) j = {} :=
        Unwrap.Tracker.after_eq_start fun i hi => clear i (by omega)
      have base := based j (by omega)
      rw [(row_tsbpd unset j).2.2.2, follows.getPktTimeBase_eq, settled] at base
      rw [follows.base, settled]
      simpa [Unwrap.Tracker.turnsOf] using base

/-- The ACKACKs of the first `n` rounds give the times since its start at which the other
clock was read, and `distance` is, up to a constant, how far that clock was behind when they
were received. -/
structure Answers (answered distance : Nat → Int) (rounds : Nat → Round) (n : Nat) : Prop where
  timestamp : ∀ k < n,
    (rounds k).ackpkt.timestamp = UInt32.ofInt (countMicroseconds (answered k))
  started : ∀ k < n, 0 ≤ answered k
  apart : ∃ c, ∀ k < n, distance k = (rounds k).recvTimeStd - answered k + c

/-- None of them is so late that its timestamp comes near the wrap. -/
def Early (answered : Nat → Int) (n : Nat) : Prop :=
  ∀ k < n, answered k ≤ microsecondsFrom ((MAX_TIMESTAMP - TSBPD_WRAP_PERIOD : Nat) : Int)

variable {answered distance : Nat → Int}

/-- The change of the distance, by the elapsed times of the rows. -/
theorem Answers.change (h : Answers answered distance rounds n) (hk : k < n) :
    distance k - distance 0 =
      ((row cfg g rounds k).elapsedStd - answered k) -
        ((row cfg g rounds 0).elapsedStd - answered 0) := by
  obtain ⟨c, apart⟩ := h.apart
  rw [apart k hk, apart 0 (by omega), row_elapsedStd, row_elapsedStd]
  omega

theorem Answers.toNat (h : Answers answered distance rounds n) (early : Early answered n)
    (hk : k < n) :
    ((rounds k).ackpkt.timestamp.toNat : Int) = countMicroseconds (answered k) ∧
      (rounds k).ackpkt.timestamp.toNat ≤ MAX_TIMESTAMP - TSBPD_WRAP_PERIOD := by
  have started := h.started k hk
  have high := early k hk
  have nonneg : 0 ≤ countMicroseconds (answered k) := countMicroseconds_nonneg (by omega)
  have near := (countMicroseconds_near (answered k)).2
  have size : MAX_TIMESTAMP - TSBPD_WRAP_PERIOD < 2 ^ 32 := by decide
  simp only [microsecondsFrom] at high near
  rw [h.timestamp k hk, UInt32.ofInt, UInt32.toNat_ofNat']
  omega

/-- The samples give the change of the distance between the two clocks, up to 2 us. -/
theorem Answers.drift (h : Answers answered distance rounds n) (early : Early answered n)
    (unset : g.tsbpd = {}) (based : ∀ k < n, (row cfg g rounds k).tsbpdBase ≠ epoch)
    (hk : k < n) :
    |microsecondsFrom (shownDrift cfg (row cfg g rounds) k) - (distance k - distance 0)| <
      2000 := by
  rw [@Answers.change cfg g _ _ _ _ _ h hk]
  have clear : Tsbpd.NoWrap (samples cfg g rounds) n := fun j hj => (h.toNat early hj).2
  have set := staysSet_of_rows unset clear based
  cases k with
  | zero =>
    have sample : (row cfg g rounds 0).driftSampleStd = 0 := by
      rw [(row_tsbpd unset 0).1, Tsbpd.onSample_unset rfl]
    rw [shownDrift, sample]
    simp
  | succ k =>
    have value := Tsbpd.driftUs_noWrap (fun j hj => clear j (by omega)) (set.mono (m := k + 2) hk)
    rw [samples_halfChange] at value
    have logged : ∑ j ∈ Finset.range (k + 1), (row cfg g rounds j).overdrift =
        Tsbpd.correction (samples cfg g rounds) (k + 1) :=
      loggedOverdrift_eq unset (set.mono (by omega))
    rw [shownDrift, (row_tsbpd unset (k + 1)).1, logged, value]
    have first := (h.toNat early (k := 0) (by omega)).1
    have last := (h.toNat early hk).1
    have first_near := countMicroseconds_near (answered 0)
    have last_near := countMicroseconds_near (answered (k + 1))
    have first_le := microsecondsFrom_countMicroseconds_le (h.started 0 (by omega))
    have last_le := microsecondsFrom_countMicroseconds_le (h.started (k + 1) hk)
    rw [row_elapsedStd, row_elapsedStd]
    dsimp only [samples_recvTimeStd, samples_timestampUs, Tsbpd.initialBase]
    rw [first, last]
    generalize Tsbpd.correction (samples cfg g rounds) (k + 1) = applied
    generalize countMicroseconds (answered 0) = ts0 at first_near first_le ⊢
    generalize countMicroseconds (answered (k + 1)) = ts at last_near last_le ⊢
    have near := countMicroseconds_near ((rounds (k + 1)).recvTimeStd - ((rounds 0).recvTimeStd -
      microsecondsFrom ts0 + microsecondsFrom applied + microsecondsFrom ts))
    simp only [microsecondsFrom] at first_near last_near first_le last_le near ⊢
    rw [abs_lt]
    omega

end Globals

end DriftTracing.Source

namespace DriftTracing.Protocol.History
open DriftTracing.Lib DriftTracing.Source

variable {Addr : Type} [DecidableEq Addr]

/-- What the steady clock of a process read when it received the answer of row `k`. -/
def receivedAt (h : History Addr) (a : Addr) (k : Nat) : Int :=
  ((h.heard a)[k]?.map Heard.clock).getD epoch

/-- What the steady clock of the other process read when it sent that answer. -/
def answeredAt (h : History Addr) (a : Addr) (k : Nat) : Int :=
  ((h.heard a)[k]?.map fun x => x.datagram.clock).getD epoch

/-- The distance between the two clocks that row `k` is about. -/
def distance (h : History Addr) (a : Addr) (k : Nat) : Int := h.receivedAt a k - h.answeredAt a k

/-- Each row of `a` is about an answer that `b` sent to it. -/
structure HearsFrom (startStd startSys : Addr → Int) (h : History Addr) (a b : Addr) : Prop where
  rows : (h.heard a).length = (h.network.peers a).trace.length
  answers : ∀ x ∈ h.heard a, x.datagram.packet.src = b ∧ x.datagram.packet.dst = a ∧
    IsAnswer startStd startSys h x.datagram

omit [DecidableEq Addr] in
theorem HearsFrom.past {startStd startSys : Addr → Int} {h : History Addr} {a b : Addr}
    (hears : HearsFrom startStd startSys h a b) {k : Nat}
    (hk : k < (h.network.peers a).trace.length) :
    h.answeredAt a k ≤ (h.network.peers b).clock := by
  rw [← hears.rows] at hk
  obtain ⟨rfl, -, answer⟩ := hears.answers _ (List.getElem_mem hk)
  rw [answeredAt, List.getElem?_eq_getElem hk]
  exact answer.past

omit [DecidableEq Addr] in
/-- In a pair, what answers the one comes from the other. -/
theorem IsAnswer.src_eq {startStd startSys : Addr → Int} {remote : Addr → Option Addr}
    {h : History Addr} {a b : Addr} {d : Sent Addr} (answer : IsAnswer startStd startSys h d)
    (pair : Network.Pair remote a b) (linked : h.network.Linked remote) (dst : d.packet.dst = a) :
    d.packet.src = b := by
  have destination := answer.destination
  rw [dst] at destination
  rcases linked.learned _ _ destination with caller | ⟨-, called⟩
  · exact pair.toFirst _ caller
  · exact pair.first _ called

/-- The rows of a trace, and the answers of the other process of the pair that they are
about. -/
theorem reachable_answers {cfg : Addr → Config} {remote : Addr → Option Addr}
    {startStd startSys : Addr → Int} {h : History Addr} {a b : Addr}
    (pair : Network.Pair remote a b) (reachable : Reachable cfg remote startStd startSys h) :
    HearsFrom startStd startSys h a b ∧
      ∃ rounds : Nat → Globals.Round,
        (h.network.peers a).trace = (List.range (h.network.peers a).trace.length).map
          (Globals.row (cfg a) { startTimeStd := startStd a, startTimeSys := startSys a } rounds) ∧
        Globals.Answers (fun k => h.answeredAt a k - startStd b) (h.distance a) rounds
          (h.network.peers a).trace.length := by
  obtain ⟨rounds, stored, traces⟩ := reachable_traces reachable a
  have linked := Network.reachable_linked reachable.network
  have trace := traces.run.trace
  rw [Runs.run_getD _ _ _ ⟨[], Globals.ackackOf 0 0, 0, 0⟩] at trace
  have length : (h.network.peers a).trace.length = rounds.length := by
    rw [trace]
    simp
  have heard := traces.handles.length_eq
  have source (x : Heard Addr) (hx : x ∈ h.heard a) : x.datagram.packet.src = b :=
    (traces.answers x hx).2.src_eq pair linked (traces.answers x hx).1
  have round (k : Nat) (hk : k < rounds.length) : ∃ x ∈ h.heard a,
      Handles (rounds.getD k ⟨[], Globals.ackackOf 0 0, 0, 0⟩) x ∧
      h.answeredAt a k = x.datagram.clock ∧ h.receivedAt a k = x.clock := by
    have hk' : k < (h.heard a).length := by omega
    have handled := traces.handles.get hk hk'
    have inside : rounds.getD k ⟨[], Globals.ackackOf 0 0, 0, 0⟩ = rounds[k] := by simp [hk]
    refine ⟨(h.heard a)[k], List.getElem_mem hk', ?_, ?_, ?_⟩
    · rw [inside]
      exact handled
    · rw [answeredAt, List.getElem?_eq_getElem hk']
      rfl
    · rw [receivedAt, List.getElem?_eq_getElem hk']
      rfl
  refine ⟨⟨by omega, fun x hx => ⟨source x hx, traces.answers x hx⟩⟩,
    (rounds.getD · ⟨[], Globals.ackackOf 0 0, 0, 0⟩), ?_, ?_⟩
  · rw [length]
    exact trace
  · rw [length]
    refine ⟨fun k hk => ?_, fun k hk => ?_, -startStd b, fun k hk => ?_⟩
    · obtain ⟨x, hx, handles, answered, -⟩ := round k hk
      obtain ⟨sys, -, tells⟩ := (traces.answers x hx).2.tells
      rw [handles.timestamp, tells.timestamp, source x hx, answered]
    · obtain ⟨x, hx, -, answered, -⟩ := round k hk
      have started := (traces.answers x hx).2.started
      rw [source x hx] at started
      rw [answered]
      omega
    · obtain ⟨x, -, handles, -, received⟩ := round k hk
      rw [distance, handles.recvTimeStd, received]
      omega

/-- In every run of every network, while the other process of a pair has not run for as long
as its timestamps take to come near the wrap, and while the base that a row gives is not
the one that stands for none: each row of a process is about an answer of the other one, and
shows the change of the distance between the two clocks, from when the other one
answered to when the answer was received, to 2 us. -/
theorem trace_shows_clock_drift {cfg : Addr → Config} {remote : Addr → Option Addr}
    {startStd startSys : Addr → Int} {h : History Addr} {a b : Addr}
    (pair : Network.Pair remote a b) (reachable : Reachable cfg remote startStd startSys h)
    (uptime : (h.network.peers b).clock - startStd b ≤
      microsecondsFrom ((MAX_TIMESTAMP - TSBPD_WRAP_PERIOD : Nat) : Int))
    (based : ∀ row ∈ (h.network.peers a).trace, row.tsbpdBase ≠ epoch) :
    HearsFrom startStd startSys h a b ∧
      ∃ rows : Nat → TraceRow,
        (h.network.peers a).trace = (List.range (h.network.peers a).trace.length).map rows ∧
        ∀ k < (h.network.peers a).trace.length,
          |microsecondsFrom (shownDrift (cfg a) rows k) - (h.distance a k - h.distance a 0)| <
            2000 := by
  obtain ⟨hears, rounds, rows, heard⟩ := reachable_answers pair reachable
  have traced : ∀ j < (h.network.peers a).trace.length, (Globals.row (cfg a)
      { startTimeStd := startStd a, startTimeSys := startSys a } rounds j).tsbpdBase ≠ epoch := by
    intro j hj
    apply based
    rw [rows]
    exact List.mem_map.mpr ⟨j, List.mem_range.mpr hj, rfl⟩
  refine ⟨hears, _, rows, fun k hk => heard.drift (fun j hj => ?_) rfl traced hk⟩
  have past := hears.past hj
  dsimp only
  omega

omit [DecidableEq Addr] in
/-- The clocks, from the list of what was heard. -/
theorem clocks_of_heard {h : History Addr} {a : Addr} {clocks : List (Int × Int)}
    (heard : (h.heard a).map (fun x => (x.datagram.clock, x.clock)) = clocks) (k : Nat) :
    h.answeredAt a k = (clocks[k]?.map Prod.fst).getD epoch ∧
      h.receivedAt a k = (clocks[k]?.map Prod.snd).getD epoch := by
  subst heard
  rw [List.getElem?_map, answeredAt, receivedAt]
  cases (h.heard a)[k]? with
  | none => exact ⟨rfl, rfl⟩
  | some x => exact ⟨rfl, rfl⟩

/-- Two round trips, between which the clock of the caller gains 300 us. -/
def twoTrips : List (Network.Event Nat) :=
  [.act 1 .send, .act 1 (.stampSend 0), .act 1 .store, .act 0 (.tick 2000000), .deliver 0,
    .act 0 (.stampRecv 0), .act 0 (.react 0), .act 1 (.tick 4000000), .deliver 1,
    .act 1 (.stampRecv 0), .act 1 (.react 0), .act 1 .send, .act 1 (.stampSend 0), .act 1 .store,
    .act 0 (.tick 12000000), .deliver 2, .act 0 (.stampRecv 0), .act 0 (.react 0),
    .act 1 (.tick 14300000), .deliver 3, .act 1 (.stampRecv 0), .act 1 (.react 0)]

theorem twoTrips_trace :
    (Reachability.follow (step fun _ => {}) (fun _ _ => True)
      (start Network.oneCaller (fun _ => 0) fun _ => 0) twoTrips).map
        (fun h => ((h.network.peers 1).trace.map fun row =>
            (row.driftSampleStd, row.tsbpdBase, row.rttStd),
          (h.heard 1).map fun x => (x.datagram.clock, x.clock), (h.network.peers 0).clock)) =
      some ([(0, 2000000, 4000), (300, 2000000, 10300)],
        [(2000000, 4000000), (12000000, 14300000)], 12000000) := by
  decide +kernel

theorem twoTrips_shows_clock_drift :
    ∃ h, Reachability.follow (step fun _ => {}) (fun _ _ => True)
        (start Network.oneCaller (fun _ => 0) fun _ => 0) twoTrips = some h ∧
      h.distance 1 1 - h.distance 1 0 = 300000 ∧
      HearsFrom (fun _ => 0) (fun _ => 0) h 1 0 ∧
        ∃ rows : Nat → TraceRow,
          (h.network.peers 1).trace = (List.range (h.network.peers 1).trace.length).map rows ∧
          ∀ k < (h.network.peers 1).trace.length,
            |microsecondsFrom (shownDrift {} rows k) - (h.distance 1 k - h.distance 1 0)| <
              2000 := by
  obtain ⟨h, follows, result⟩ := Option.map_eq_some_iff.mp twoTrips_trace
  obtain ⟨shown, rest⟩ := Prod.mk.inj result
  obtain ⟨heard, clock⟩ := Prod.mk.inj rest
  refine ⟨h, follows, ?_,
    @trace_shows_clock_drift _ _ (fun _ => {}) Network.oneCaller (fun _ => 0) (fun _ => 0) h 1 0
      Network.oneCaller_pair (Reachability.reaches_of_follow follows) ?_ fun row inside => ?_⟩
  · obtain ⟨answered₀, received₀⟩ := clocks_of_heard heard 0
    obtain ⟨answered₁, received₁⟩ := clocks_of_heard heard 1
    rw [distance, distance, answered₀, received₀, answered₁, received₁]
    rfl
  · rw [clock]
    decide
  · have base : (row.driftSampleStd, row.tsbpdBase, row.rttStd) ∈
        [(0, 2000000, 4000), (300, 2000000, 10300)] := by
      rw [← shown]
      exact List.mem_map.mpr ⟨row, inside, rfl⟩
    rcases List.mem_cons.mp base with first | second
    · rw [(Prod.mk.inj (Prod.mk.inj first).2).1]
      decide
    · rw [(Prod.mk.inj (Prod.mk.inj (List.mem_singleton.mp second)).2).1]
      decide

end DriftTracing.Protocol.History
