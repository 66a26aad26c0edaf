import DriftTracing.Protocol.Matching

/-!
# The sign of a measured RTT

The sending thread reads the clock after the ACK is out, so the receiving thread can
read its clock for the answer first. This module finds the only step at which that
goes wrong: the sending thread stamps an ACK while the receiving thread holds a
stamped ACKACK with its number, at least a microsecond old. Without such a step no
matched RTT is negative.
-/
namespace DriftTracing.Protocol.Session
open DriftTracing.Lib DriftTracing.Source

/-- When the sending thread stamps an ACK, the receiving thread holds no ACKACK with
its number that was stamped a microsecond or more before. -/
def StampsInOrder (s : Session) : Event → Prop
  | .stampSend _ =>
    match s.sender, s.receiver with
    | .sent _ pkt, .stamped _ ackpkt recvTimeStd _ =>
      ackpkt.ackno = pkt.ackno → s.clock < recvTimeStd + 1000
    | _, _ => True
  | _ => True

instance (s : Session) (e : Event) : Decidable (StampsInOrder s e) := by
  unfold StampsInOrder
  split
  · split
    · infer_instance
    · infer_instance
  · infer_instance

/-- The record of an ACK that is stamped but not stored yet. -/
def pendingRecord : Sender → Option Entry
  | .stamped _ pkt std sys => some ⟨pkt.ackno.toInt32, pkt.ackseqno.toInt32, std, sys⟩
  | _ => none

/-- A record that an ACKACK may still be matched with. -/
def Matchable (s : Session) (e : Entry) : Prop :=
  e ∈ s.globals.path.ackRecords.held ∨ pendingRecord s.sender = some e

/-- Every record was stamped before now, and less than a microsecond after a stamped
ACKACK with its number; every match was made so. -/
structure InOrder (s : Session) : Prop where
  bounds : s.globals.path.ackRecords.InBounds
  past : ∀ e, Matchable s e → e.sendtimeStd ≤ s.clock
  receiver : ∀ cause pkt std sys, s.receiver = .stamped cause pkt std sys →
    ∀ e, Matchable s e → e.ackno = pkt.ackno.toInt32 → e.sendtimeStd < std + 1000
  matched : ∀ m ∈ s.matched, m.rttPair = m.entry.rtt m.recvTimeStd m.recvTimeSys ∧
    m.entry.sendtimeStd < m.recvTimeStd + 1000

theorem inOrder_start (startStd startSys : Int) : InOrder (start startStd startSys) where
  bounds := AckWindow.fresh_inBounds (by decide) (by decide)
  past e h := by
    rcases h with h | h
    · exact absurd h (by rw [start, AckWindow.fresh_held]; exact List.not_mem_nil)
    · cases h
  receiver cause pkt std sys h := by cases h
  matched := by simp [start]

/-- A step that makes no record matchable and leaves receiver and matches alone. -/
theorem InOrder.mono {s t : Session} (h : InOrder s)
    (bounds : t.globals.path.ackRecords.InBounds) (clock : s.clock ≤ t.clock)
    (matchable : ∀ e, Matchable t e → Matchable s e) (receiver : t.receiver = s.receiver)
    (matched : t.matched = s.matched) : InOrder t where
  bounds := bounds
  past e he := Int.le_trans (h.past e (matchable e he)) clock
  receiver cause pkt std sys stamped e he := by
    rw [receiver] at stamped
    exact h.receiver cause pkt std sys stamped e (matchable e he)
  matched := by
    rw [matched]
    exact h.matched

/-- The record stored is the one that was pending. -/
theorem matchable_storeRecord {s : Session} (bounds : s.globals.path.ackRecords.InBounds)
    {cause : Nat} {pkt : PktAck} {std sys : Int} (stamped : s.sender = .stamped cause pkt std sys)
    {e : Entry} (h : Matchable (s.storeRecord cause pkt std sys) e) : Matchable s e := by
  rcases h with live | pending
  · have held : (s.storeRecord cause pkt std sys).globals.path.ackRecords.held = _ :=
      AckWindow.store_held bounds pkt.ackno.toInt32 pkt.ackseqno.toInt32 std sys
    rw [held] at live
    rcases BoundedFifo.mem_push live with old | rfl
    · exact Or.inl old
    · right
      rw [stamped]
      rfl
  · cases pending

/-- The sending thread stamps an ACK now. -/
theorem InOrder.stampSend {s : Session} (h : InOrder s) {cause : Nat} {pkt : PktAck}
    (sent : s.sender = .sent cause pkt) {sys : Int} (order : StampsInOrder s (.stampSend sys)) :
    InOrder { s with sender := .stamped cause pkt s.clock sys } := by
  refine ⟨h.bounds, fun e he => ?_, fun cause' ackpkt std sys' stamped e he number => ?_,
    h.matched⟩
  · rcases he with live | pending
    · exact h.past e (Or.inl live)
    · rw [← Option.some.inj pending]
  · rcases he with live | pending
    · exact h.receiver cause' ackpkt std sys' stamped e (Or.inl live) number
    · rw [← Option.some.inj pending] at number ⊢
      have same : pkt.ackno = ackpkt.ackno := by
        have := congrArg Int32.toUInt32 number
        simpa using this
      have held : s.receiver = .stamped cause' ackpkt std sys' := stamped
      simp only [StampsInOrder, sent, held] at order
      exact order same.symm

/-- A match is made with a live record. -/
theorem InOrder.handle {s : Session} (h : InOrder s) (cfg : Config) {cause : Nat} {pkt : PktAckack}
    {std sys : Int} (stamped : s.receiver = .stamped cause pkt std sys) :
    InOrder (s.handle cfg cause pkt std sys) := by
  obtain ⟨bounds, missed | ⟨older, entry, newer, split, number, matched, rest⟩⟩ :=
    handle_spec cfg h.bounds cause pkt std sys
  · obtain ⟨-, same, still⟩ := missed
    refine ⟨bounds, fun e he => ?_, fun _ _ _ _ waiting => (by cases waiting), ?_⟩
    · rw [Matchable, still] at he
      exact h.past e he
    · rw [same]
      exact h.matched
  · have member : entry ∈ s.globals.path.ackRecords.held := by simp [split]
    refine ⟨bounds, fun e he => ?_, fun _ _ _ _ waiting => (by cases waiting), fun m hm => ?_⟩
    · rcases he with live | pending
      · rw [rest] at live
        exact h.past e (Or.inl (by simp [split, live]))
      · exact h.past e (Or.inr pending)
    · rw [matched, List.mem_append, List.mem_singleton] at hm
      rcases hm with hm | rfl
      · exact h.matched m hm
      · exact ⟨rfl, h.receiver cause pkt std sys stamped entry (Or.inl member) number⟩

theorem InOrder.step {cfg : Config} {s t : Session} {e : Event} (h : InOrder s)
    (order : StampsInOrder s e) (step : Step cfg s e t) : InOrder t := by
  cases step with
  | tick later => exact h.mono h.bounds later (fun _ he => he) rfl rfl
  | send idle =>
    refine h.mono h.bounds (Int.le_refl _) (fun e he => ?_) rfl rfl
    rcases he with live | pending
    · exact Or.inl live
    · cases pending
  | sendShort idle => exact h.mono h.bounds (Int.le_refl _) (fun _ he => he) rfl rfl
  | stampSend sent => exact h.stampSend sent order
  | store stamped =>
    exact h.mono (AckWindow.store_inBounds h.bounds ..) (Int.le_refl _)
      (fun _ he => matchable_storeRecord h.bounds stamped he) rfl rfl
  | reply out => exact h.mono h.bounds (Int.le_refl _) (fun _ he => he) rfl rfl
  | receive waiting out => exact { h with receiver := fun _ _ _ _ received => by cases received }
  | stampRecv received =>
    refine { h with receiver := ?_ }
    intro cause pkt std sys stamped e he _
    have now : s.clock = std := by injection stamped
    have := h.past e he
    omega
  | acknowledge stamped => exact h.handle cfg stamped

/-- In every session in which the sending thread stamps in order, no matched RTT is
negative, for elapsed times that fit an `int`. -/
theorem rtt_nonneg_of_stamps_in_order {cfg : Config} {startStd startSys : Int} {s : Session}
    (reachable : Reachability.Reaches (step cfg) StampsInOrder (start startStd startSys) s) :
    ∀ m ∈ s.matched,
      countMicroseconds (m.recvTimeStd - m.entry.sendtimeStd) < 2 ^ 31 →
      0 ≤ m.rttPair.rttStd.toInt := by
  have inOrder : InOrder s := by
    refine reachable.invariant ?_ (inOrder_start ..)
    exact fun s e t inv order stepped => inv.step order (step_cases stepped)
  intro m hm fits
  obtain ⟨rtt, order⟩ := inOrder.matched m hm
  have inTime : -1000 < m.recvTimeStd - m.entry.sendtimeStd := by omega
  have nonneg := countMicroseconds_nonneg inTime
  rw [rtt, Entry.rtt, toInt_toInt (by omega) fits]
  exact nonneg

/-- The ACK is stamped 999 nanoseconds after its ACKACK, which is in order. -/
def stampedJustInTime : List Event :=
  [.send, .reply 0 [] {} 0 0, .receive 0 [], .stampRecv 0, .tick 999, .stampSend 0, .store,
    .acknowledge]

theorem rtt_nonneg_just_in_time :
    ∃ s, Reachability.follow (step {}) StampsInOrder (start 0 0) stampedJustInTime = some s ∧
      s.matched.map (fun m => m.rttPair.rttStd) = [0] ∧
      ∀ m ∈ s.matched,
        countMicroseconds (m.recvTimeStd - m.entry.sendtimeStd) < 2 ^ 31 →
        0 ≤ m.rttPair.rttStd.toInt := by
  have ends : (Reachability.follow (step {}) StampsInOrder (start 0 0) stampedJustInTime).map
      (fun s => s.matched.map fun m => m.rttPair.rttStd) = some [0] := by decide +kernel
  obtain ⟨s, follows, result⟩ := Option.map_eq_some_iff.mp ends
  exact ⟨s, follows, result,
    rtt_nonneg_of_stamps_in_order (Reachability.reaches_of_follow follows)⟩

/-- The peer answers before the sending thread reads the clock. -/
def stampedLate : List Event :=
  [.send, .reply 0 [] {} 0 0, .receive 0 [], .stampRecv 0, .tick 4000, .stampSend 0, .store,
    .acknowledge]

/-- The ACK is stamped four microseconds after its ACKACK: the RTT is negative. -/
theorem rtt_negative_when_stamped_late :
    ∃ s, Reachability.Reaches (step {}) (fun _ _ => True) (start 0 0) s ∧
      s.matched.map (fun m => (m.recvTimeStd, m.entry.sendtimeStd, m.rttPair.rttStd)) =
        [(0, 4000, -4)] := by
  have ends : (Reachability.follow (step {}) (fun _ _ => True) (start 0 0) stampedLate).map
      (fun s => s.matched.map fun m => (m.recvTimeStd, m.entry.sendtimeStd, m.rttPair.rttStd)) =
      some [(0, 4000, -4)] := by decide +kernel
  obtain ⟨s, follows, result⟩ := Option.map_eq_some_iff.mp ends
  exact ⟨s, Reachability.reaches_of_follow follows, result⟩

/-- The condition is needed: an ACK stamped out of order is matched with a negative
RTT as soon as its record is stored and the ACKACK is handled. -/
theorem late_stamp_reaches_negative {cfg : Config} {startStd startSys : Int} {s : Session}
    (reachable : Reachable cfg startStd startSys s) (fewer : s.sent < 2 ^ 32)
    {cause cause' : Nat} {pkt : PktAck} {ackpkt : PktAckack} {std sys : Int}
    (sent : s.sender = .sent cause pkt) (stamped : s.receiver = .stamped cause' ackpkt std sys)
    (number : ackpkt.ackno = pkt.ackno) (late : std + 1000 ≤ s.clock)
    (fits : s.clock - std < 2 ^ 31 * 1000) :
    ∃ t, Reachability.follow (step cfg) (fun _ _ => True) s
        [.stampSend 0, .store, .acknowledge] = some t ∧
      ∃ m ∈ t.matched, m.rttPair.rttStd.toInt < 0 := by
  obtain ⟨numbered, matching⟩ := reachable_inv reachable
  obtain ⟨bounds, ⟨live, suffix, held, -⟩, -, -⟩ := matching fewer
  obtain ⟨built, own, newer⟩ := numbered.sender cause pkt (by rw [sent]; rfl)
  let stored := storeRecord { s with sender := .stamped cause pkt s.clock 0 } cause pkt s.clock 0
  let entry : Entry := ⟨pkt.ackno.toInt32, pkt.ackseqno.toInt32, s.clock, 0⟩
  have held' : stored.globals.path.ackRecords.held =
      BoundedFifo.push (1024 - 1) s.globals.path.ackRecords.held entry :=
    AckWindow.store_held bounds ..
  refine ⟨stored.handle cfg cause' ackpkt std sys, ?_, ?_⟩
  · simp [Reachability.follow, step, sent, stored, storeRecord, stamped]
  obtain ⟨-, ⟨missed, -, -⟩ | ⟨older, hit, rest, split, image, matched, -⟩⟩ :=
    handle_spec cfg (AckWindow.store_inBounds bounds ..) cause' ackpkt std sys (s := stored)
  · have member : entry ∈ stored.globals.path.ackRecords.held := by
      rw [held']
      exact BoundedFifo.mem_push_self (by decide) ..
    exact absurd (congrArg UInt32.toInt32 number.symm) (missed entry member)
  · have isNew : hit = entry := by
      have member : hit ∈ stored.globals.path.ackRecords.held := by simp [split]
      rw [held'] at member
      rcases BoundedFifo.mem_push member with old | new
      · rw [held] at old
        obtain ⟨r, hr, rfl⟩ := List.mem_map.mp old
        have before := newer r (suffix.subset hr)
        obtain ⟨inRange, image'⟩ := numbered.stored r (suffix.subset hr)
        have same : r.1 = cause := by
          apply wire_injective (by omega) (by omega)
          rw [← image', ← own, ← number, image]
        omega
      · exact new
    refine ⟨_, by rw [matched]; exact List.mem_append_right _ (List.mem_singleton_self _), ?_⟩
    have low := (countMicroseconds_near (std - s.clock)).1
    have tooLate : std - s.clock ≤ -1000 := by omega
    have negative := countMicroseconds_neg tooLate
    unfold microsecondsFrom at low
    rw [isNew]
    change (toInt (countMicroseconds (std - s.clock))).toInt < 0
    rw [toInt_toInt (by omega) (by omega)]
    exact negative

end DriftTracing.Protocol.Session
