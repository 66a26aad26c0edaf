import DriftTracing.Guarantees.Replies
import DriftTracing.Protocol.Session

/-!
# Every match is the record of the ACK that caused it

The number of an ACK survives the way to the peer and back, so a datagram, an ACK in
the sending thread, an ACKACK in the receiving thread and a stored record all carry
the low 32 bits of their cause (`Numbered`). The live records are the newest part
of what was stored, and all newer than anything matched (`Matching`). While fewer
than 2^32 ACKs were built the number tells the cause.
-/
namespace DriftTracing.Protocol.Session
open DriftTracing.Lib DriftTracing.Source

/-- The number on the wire of ACK number `cause`. -/
def wire (cause : Nat) : UInt32 := UInt32.ofNat cause

theorem wire_succ (cause : Nat) : wire cause + 1 = wire (cause + 1) :=
  (UInt32.ofNat_add cause 1).symm

theorem wire_injective {a b : Nat} (ha : a < 2 ^ 32) (hb : b < 2 ^ 32)
    (h : (wire a).toInt32 = (wire b).toInt32) : a = b :=
  AckWindow.toInt32_ofNat_injective ha hb h

/-- The ACK that is out but not stored yet. -/
def pendingAck : Sender → Option (Nat × PktAck)
  | .idle => none
  | .sent cause pkt => some (cause, pkt)
  | .stamped cause pkt _ _ => some (cause, pkt)

/-- The ACKACK in the hands of the receiving thread. -/
def pendingAckack : Receiver → Option (Nat × PktAckack)
  | .waiting => none
  | .received cause pkt => some (cause, pkt)
  | .stamped cause pkt _ _ => some (cause, pkt)

/-- Read as an ACK, over whatever lies behind it, the datagram has its number. -/
def IsAck (d : Datagram) : Prop :=
  ∀ (rest : List UInt8) (size : Nat),
    (PktAck.ofBase (.ofView ⟨d.bytes ++ rest, size⟩)).ackno = wire d.cause

def IsAckack (d : Datagram) : Prop :=
  ∀ (rest : List UInt8) (size : Nat),
    (PktAckack.ofBase (.ofView ⟨d.bytes ++ rest, size⟩)).ackno = wire d.cause

/-- Everything carries the number of its cause, and the causes were sent. -/
structure Numbered (s : Session) : Prop where
  counter : s.ackno = wire (s.sent + 1)
  acks : ∀ d ∈ s.acks, d.cause ≤ s.sent ∧ IsAck d
  ackacks : ∀ d ∈ s.ackacks, d.cause ≤ s.sent ∧ IsAckack d
  sender : ∀ cause pkt, pendingAck s.sender = some (cause, pkt) →
    cause ≤ s.sent ∧ pkt.ackno = wire cause ∧ ∀ r ∈ s.stored, r.1 < cause
  receiver : ∀ cause pkt, pendingAckack s.receiver = some (cause, pkt) →
    cause ≤ s.sent ∧ pkt.ackno = wire cause
  stored : ∀ r ∈ s.stored, r.1 ≤ s.sent ∧ r.2.ackno = (wire r.1).toInt32
  ordered : (s.stored.map Prod.fst).Pairwise (· < ·)

theorem numbered_start (startStd startSys : Int) : Numbered (start startStd startSys) where
  counter := rfl
  acks := by simp [start]
  ackacks := by simp [start]
  sender := by simp [start, pendingAck]
  receiver := by simp [start, pendingAckack]
  stored := by simp [start]
  ordered := by simp [start]

/-- The ACK that is built next has the next number. -/
theorem Numbered.nextAck {s : Session} (h : Numbered s) : s.nextAck.ackno = wire (s.sent + 1) ∧
    IsAck ⟨s.sent + 1, s.nextAck.constBuf⟩ := by
  constructor
  · rw [← h.counter]
    exact (ackPacket_spec ..).2.2
  · intro rest size
    rw [← h.counter]
    exact (ackPacket_constBuf ..).2 rest size

/-- Building an ACK keeps the numbers, whether or not it gets out. -/
theorem Numbered.build {s : Session} (h : Numbered s) (idle : s.sender = .idle) (out : Bool) :
    Numbered (s.build out) where
  counter := by
    change s.ackno + 1 = wire (s.sent + 1 + 1)
    rw [h.counter, wire_succ]
  acks d hd := by
    have old (hd : d ∈ s.acks) : d.cause ≤ s.sent + 1 ∧ IsAck d :=
      ⟨Nat.le_succ_of_le (h.acks d hd).1, (h.acks d hd).2⟩
    cases out with
    | false => exact old hd
    | true =>
      rcases List.mem_append.mp hd with hd | hd
      · exact old hd
      · rw [List.mem_singleton.mp hd]
        exact ⟨Nat.le_refl _, h.nextAck.2⟩
  ackacks d hd := by
    have := h.ackacks d hd
    exact ⟨Nat.le_succ_of_le this.1, this.2⟩
  sender cause pkt pending := by
    change pendingAck s.sender = _ at pending
    rw [idle] at pending
    cases pending
  receiver cause pkt pending := by
    have := h.receiver cause pkt pending
    exact ⟨Nat.le_succ_of_le this.1, this.2⟩
  stored r hr := by
    have := h.stored r hr
    exact ⟨Nat.le_succ_of_le this.1, this.2⟩
  ordered := h.ordered

/-- A record is stored under the number of its ACK, and is newer than the others. -/
theorem Numbered.storeRecord {s : Session} (h : Numbered s) {cause : Nat} {pkt : PktAck}
    {std sys : Int} (stamped : s.sender = .stamped cause pkt std sys) :
    Numbered (s.storeRecord cause pkt std sys) := by
  obtain ⟨built, number, newer⟩ := h.sender cause pkt (by rw [stamped]; rfl)
  refine { h with sender := ?_, stored := ?_, ordered := ?_ }
  · intro cause' pkt' pending
    cases pending
  · intro r hr
    rcases List.mem_append.mp hr with hr | hr
    · exact h.stored r hr
    · rw [List.mem_singleton.mp hr]
      exact ⟨built, congrArg UInt32.toInt32 number⟩
  · change ((s.stored ++ _).map Prod.fst).Pairwise (· < ·)
    rw [List.map_append, List.pairwise_append]
    refine ⟨h.ordered, List.pairwise_singleton .., fun a ha b hb => ?_⟩
    obtain ⟨r, hr, rfl⟩ := List.mem_map.mp ha
    rw [List.mem_singleton.mp hb]
    exact newer r hr

/-- The answer to an ACK carries the number of the ACK. -/
theorem Numbered.answer {s : Session} (h : Numbered s) {d : Datagram} (out : d ∈ s.acks)
    (rest : List UInt8) (peer : Globals) (std sys : Int) :
    Numbered (s.answer d rest peer std sys) := by
  refine { h with ackacks := ?_ }
  intro d' hd'
  rcases List.mem_append.mp hd' with hd' | hd'
  · exact h.ackacks d' hd'
  · rw [List.mem_singleton.mp hd']
    obtain ⟨built, isAck⟩ := h.acks d out
    refine ⟨built, fun rest' size => ?_⟩
    rw [(onCtrlAck_reply ..).2 rest' size]
    exact isAck rest _

theorem Numbered.step {cfg : Config} {s t : Session} {e : Event} (h : Numbered s)
    (step : Step cfg s e t) : Numbered t := by
  cases step with
  | tick later => exact { h with }
  | send idle =>
    refine { h.build idle true with sender := ?_ }
    intro cause pkt pending
    obtain ⟨rfl, rfl⟩ : s.sent + 1 = cause ∧ s.nextAck = pkt := by
      simpa [pendingAck] using pending
    exact ⟨Nat.le_refl _, h.nextAck.1, fun r hr => Nat.lt_succ_of_le (h.stored r hr).1⟩
  | sendShort idle => exact h.build idle _
  | stampSend sent =>
    refine { h with sender := ?_ }
    intro cause pkt pending
    exact h.sender cause pkt (by rw [sent]; exact pending)
  | store stamped => exact h.storeRecord stamped
  | reply out => exact h.answer out ..
  | receive waiting out =>
    refine { h with receiver := ?_ }
    intro cause pkt pending
    obtain ⟨built, isAckack⟩ := h.ackacks _ out
    obtain ⟨rfl, rfl⟩ := Prod.mk.inj (Option.some.inj pending)
    exact ⟨built, isAckack _ _⟩
  | stampRecv received =>
    refine { h with receiver := ?_ }
    intro cause pkt pending
    exact h.receiver cause pkt (by rw [received]; exact pending)
  | acknowledge stamped =>
    refine { h with receiver := ?_ }
    intro cause pkt pending
    cases pending

/-- The live records are the newest stored ones, and newer than every match; each
match is the record of its cause, and the causes increase. -/
structure Matching (s : Session) : Prop where
  bounds : s.globals.path.ackRecords.InBounds
  live : ∃ live, live <:+ s.stored ∧ s.globals.path.ackRecords.held = live.map Prod.snd ∧
    ∀ m ∈ s.matched, ∀ r ∈ live, m.cause < r.1
  own : ∀ m ∈ s.matched, (m.cause, m.entry) ∈ s.stored ∧
    m.rttPair = m.entry.rtt m.recvTimeStd m.recvTimeSys
  increasing : (s.matched.map Match.cause).Pairwise (· < ·)
  answers : s.matched.map (fun m => (m.cause, m.rttPair)) =
    (s.handled.filter Handled.found).map fun r => (r.cause, r.rttPair)

theorem matching_start (startStd startSys : Int) : Matching (start startStd startSys) where
  bounds := AckWindow.fresh_inBounds (by decide) (by decide)
  live := ⟨[], List.suffix_refl _, AckWindow.fresh_held 1024, by simp⟩
  own := by simp [start]
  increasing := by simp [start]
  answers := rfl

/-- The new record is behind the live ones, and newer than every match. -/
theorem Matching.storeRecord {s : Session} (h : Matching s) (numbered : Numbered s) {cause : Nat}
    {pkt : PktAck} {std sys : Int} (stamped : s.sender = .stamped cause pkt std sys) :
    Matching (s.storeRecord cause pkt std sys) := by
  obtain ⟨live, suffix, held, newer⟩ := h.live
  obtain ⟨-, -, newest⟩ := numbered.sender cause pkt (by rw [stamped]; rfl)
  let entry : Entry := ⟨pkt.ackno.toInt32, pkt.ackseqno.toInt32, std, sys⟩
  refine ⟨AckWindow.store_inBounds h.bounds .., ?_, ?_, h.increasing, h.answers⟩
  · refine ⟨BoundedFifo.push (1024 - 1) live (cause, entry), ?_, ?_, ?_⟩
    · obtain ⟨older, split⟩ := suffix
      have longer : live ++ [(cause, entry)] <:+ s.stored ++ [(cause, entry)] :=
        ⟨older, by rw [← List.append_assoc, split]⟩
      exact (BoundedFifo.push_suffix ..).trans longer
    · rw [BoundedFifo.push_map, ← held]
      exact AckWindow.store_held h.bounds ..
    · intro m hm r hr
      rcases BoundedFifo.mem_push hr with hr | rfl
      · exact newer m hm r hr
      · exact newest _ (h.own m hm).1
  · intro m hm
    exact ⟨List.mem_append_left _ (h.own m hm).1, (h.own m hm).2⟩

/-- An ACKACK that is matched takes the record of its own cause, which is newer than
every match before; what stays live is newer still. -/
theorem Matching.handle {s : Session} (h : Matching s) (numbered : Numbered s)
    (fewer : s.sent < 2 ^ 32) (cfg : Config) {cause : Nat} {pkt : PktAckack} {std sys : Int}
    (stamped : s.receiver = .stamped cause pkt std sys) :
    Matching (s.handle cfg cause pkt std sys) := by
  obtain ⟨live, suffix, held, newer⟩ := h.live
  obtain ⟨built, number⟩ := numbered.receiver cause pkt (by rw [stamped]; rfl)
  have answers : (s.handle cfg cause pkt std sys).matched.map (fun m => (m.cause, m.rttPair)) =
      ((s.handle cfg cause pkt std sys).handled.filter Handled.found).map
        fun r => (r.cause, r.rttPair) := by
    simp only [Session.handle, List.map_append, List.filter_append]
    rw [h.answers, newMatch_answers h.bounds]
  obtain ⟨bounds, missed | ⟨older, entry, kept, split, found, matched, rest⟩⟩ :=
    handle_spec cfg h.bounds cause pkt std sys
  · obtain ⟨-, same, still⟩ := missed
    refine ⟨bounds, ⟨live, suffix, still.trans held, ?_⟩, ?_, ?_, answers⟩
    · rw [same]
      exact newer
    · rw [same]
      exact h.own
    · rw [same]
      exact h.increasing
  · rw [held] at split
    obtain ⟨front, back, rfl, -, hit⟩ := List.map_eq_append_iff.mp split
    obtain ⟨⟨id, entry'⟩, tail, rfl, rfl, rfl⟩ := List.map_eq_cons_iff.mp hit
    have member : (id, entry') ∈ front ++ (id, entry') :: tail := by simp
    obtain ⟨before, image⟩ := numbered.stored _ (suffix.subset member)
    obtain rfl : id = cause := by
      apply wire_injective (by omega) (by omega)
      rw [← image, ← number, found]
    have ordered : ((front ++ (id, entry') :: tail).map Prod.fst).Pairwise (· < ·) :=
      numbered.ordered.sublist (suffix.sublist.map Prod.fst)
    rw [List.map_append, List.map_cons, List.pairwise_append, List.pairwise_cons] at ordered
    refine ⟨bounds, ⟨tail, ?_, rest, ?_⟩, ?_, ?_, answers⟩
    · exact ((List.suffix_cons ..).trans (List.suffix_append ..)).trans suffix
    · intro m hm r hr
      rw [matched, List.mem_append, List.mem_singleton] at hm
      rcases hm with hm | rfl
      · exact newer m hm r (by simp [hr])
      · exact ordered.2.1.1 r.1 (List.mem_map_of_mem hr)
    · intro m hm
      rw [matched, List.mem_append, List.mem_singleton] at hm
      rcases hm with hm | rfl
      · exact h.own m hm
      · exact ⟨suffix.subset member, rfl⟩
    · rw [matched, List.map_append, List.pairwise_append]
      refine ⟨h.increasing, List.pairwise_singleton .., ?_⟩
      intro a ha b hb
      obtain ⟨m, hm, rfl⟩ := List.mem_map.mp ha
      rw [List.mem_singleton.mp hb]
      exact newer m hm _ member

theorem Matching.step {cfg : Config} {s t : Session} {e : Event} (h : Matching s)
    (numbered : Numbered s) (fewer : s.sent < 2 ^ 32) (step : Step cfg s e t) : Matching t := by
  cases step with
  | tick later => exact { h with }
  | send idle => exact { h with }
  | sendShort idle => exact { h with }
  | stampSend sent => exact { h with }
  | store stamped => exact h.storeRecord numbered stamped
  | reply out => exact { h with }
  | receive waiting out => exact { h with }
  | stampRecv received => exact { h with }
  | acknowledge stamped => exact h.handle numbered fewer cfg stamped

theorem sent_le_of_step {cfg : Config} {s t : Session} {e : Event} (step : Step cfg s e t) :
    s.sent ≤ t.sent := by
  cases step with
  | send idle => exact Nat.le_succ _
  | sendShort idle => exact Nat.le_succ _
  | _ => exact Nat.le_refl _

/-- The states of a session, over any order of the steps of the two threads, the
peer and the network. -/
def Reachable (cfg : Config) (startStd startSys : Int) (s : Session) : Prop :=
  Reachability.Reaches (step cfg) (fun _ _ => True) (start startStd startSys) s

theorem reachable_inv {cfg : Config} {startStd startSys : Int} {s : Session}
    (reachable : Reachable cfg startStd startSys s) :
    Numbered s ∧ (s.sent < 2 ^ 32 → Matching s) := by
  refine Reachability.Reaches.invariant (I := fun s => Numbered s ∧ (s.sent < 2 ^ 32 → Matching s))
    ?_ reachable ⟨numbered_start .., fun _ => matching_start ..⟩
  intro s e t inv _ stepped
  have step := step_cases stepped
  refine ⟨inv.1.step step, fun fewer => ?_⟩
  have before : s.sent < 2 ^ 32 := Nat.lt_of_le_of_lt (sent_le_of_step step) fewer
  exact (inv.2 before).step inv.1 before step

/-- In every session with fewer than 2^32 ACKs, whatever the network does: the ACKACKs
for which `acknowledge` found a record are the matches, in order, with its answers; all
others it answered with the error value, and left the window alone. The record of a match
belongs to the ACK that caused the ACKACK and carries its number, the RTT is the
reception time minus the recorded send time of that ACK, and the matched ACK numbers
are strictly increasing, so that none is matched twice. -/
theorem matches_are_own_and_increasing {cfg : Config} {startStd startSys : Int} {s : Session}
    (reachable : Reachable cfg startStd startSys s) (fewer : s.sent < 2 ^ 32) :
    (s.handled.filter Handled.found).map (fun r => (r.cause, r.rttPair)) =
      s.matched.map (fun m => (m.cause, m.rttPair)) ∧
    (∀ m ∈ s.matched, (m.cause, m.entry) ∈ s.stored ∧
      m.entry.ackno = (UInt32.ofNat m.cause).toInt32 ∧
      m.rttPair = m.entry.rtt m.recvTimeStd m.recvTimeSys) ∧
    (s.stored.map Prod.fst).Pairwise (· < ·) ∧
    (s.matched.map Match.cause).Pairwise (· < ·) ∧
    (s.matched.map fun m => m.entry.ackno.toUInt32.toNat) = s.matched.map Match.cause := by
  obtain ⟨numbered, matching⟩ := reachable_inv reachable
  have own := (matching fewer).own
  refine ⟨(matching fewer).answers.symm, fun m hm => ?_, numbered.ordered,
    (matching fewer).increasing, ?_⟩
  · obtain ⟨stored, rtt⟩ := own m hm
    exact ⟨stored, (numbered.stored _ stored).2, rtt⟩
  · apply List.map_congr_left
    intro m hm
    obtain ⟨built, image⟩ := numbered.stored _ (own m hm).1
    dsimp only at built image
    rw [image, wire, UInt32.toUInt32_toInt32, UInt32.toNat_ofNat',
      Nat.mod_eq_of_lt (Nat.lt_of_le_of_lt built fewer)]

/-- Two ACKs are answered, the answers arrive in the other order, the second one twice. -/
def reordered : List Event :=
  [.send, .stampSend 0, .store, .tick 1000000, .send, .stampSend 0, .store,
    .reply 0 [] {} 0 0, .reply 1 [] {} 0 0, .tick 3000000,
    .receive 1 [], .stampRecv 0, .acknowledge, .receive 0 [], .stampRecv 0, .acknowledge,
    .receive 1 [], .stampRecv 0, .acknowledge]

theorem reordered_matches :
    ∃ s, Reachability.follow (step {}) (fun _ _ => True) (start 0 0) reordered = some s ∧
      s.matched.map Match.cause = [2] ∧ s.handled.map (·.cause) = [2, 1, 2] ∧
      (s.handled.filter Handled.found).map (fun r => (r.cause, r.rttPair)) =
        s.matched.map (fun m => (m.cause, m.rttPair)) ∧
      (∀ m ∈ s.matched, (m.cause, m.entry) ∈ s.stored ∧
        m.entry.ackno = (UInt32.ofNat m.cause).toInt32 ∧
        m.rttPair = m.entry.rtt m.recvTimeStd m.recvTimeSys) ∧
      (s.stored.map Prod.fst).Pairwise (· < ·) ∧
      (s.matched.map Match.cause).Pairwise (· < ·) ∧
      (s.matched.map fun m => m.entry.ackno.toUInt32.toNat) = s.matched.map Match.cause := by
  have ends : (Reachability.follow (step {}) (fun _ _ => True) (start 0 0) reordered).map
      (fun s => (s.sent, s.matched.map Match.cause, s.handled.map (·.cause))) =
        some (2, [2], [2, 1, 2]) := by decide +kernel
  obtain ⟨s, follows, result⟩ := Option.map_eq_some_iff.mp ends
  obtain ⟨sent, rest⟩ := Prod.mk.inj result
  obtain ⟨causes, handled⟩ := Prod.mk.inj rest
  exact ⟨s, follows, causes, handled,
    matches_are_own_and_increasing (Reachability.reaches_of_follow follows) (by omega)⟩

end DriftTracing.Protocol.Session
