import DriftTracing.Guarantees.Rounds
import DriftTracing.Protocol.History

/-!
# The trace of a process is a run of rounds

Whatever the two threads of a process and the network do in between, its trace file has
the rows of a sequence of rounds, from the globals the process was started with. So
what holds of the rows of rounds holds of every trace. The ACKACK of each round is a
datagram of the history: the answer to an ACK, by a process whose destination this one is,
and it says what the clocks of that process read when it was sent.
-/
namespace DriftTracing.Protocol
open DriftTracing.Lib DriftTracing.Source

namespace Peer

variable {Addr : Type}

/-- The process went through the rounds, and stored the records since the last one. The
records of the rounds and these are all it ever stored. -/
structure HasRun (cfg : Config) (g : Globals) (p : Peer Addr) (rounds : List Globals.Round)
    (stored : List Entry) : Prop where
  trace : p.trace = (Runs.run (Globals.receive cfg) g rounds).1
  globals : p.loop.globals = (Runs.run (Globals.receive cfg) g rounds).2.storeAll stored
  records : p.stored = rounds.flatMap Globals.Round.stored ++ stored

theorem storeAll_snoc (g : Globals) (records : List Entry) (e : Entry) :
    g.storeAll (records ++ [e]) = (g.storeAll records).storeAll [e] := by
  unfold Globals.storeAll
  rw [List.foldl_append]

/-- The round that ends when the receiving thread handles the ACKACK in its buffer. -/
def roundOf (p : Peer Addr) (bytesRead : Nat) (std sys : Int) (stored : List Entry) :
    Globals.Round :=
  ⟨stored, .ofBase (p.pkt bytesRead), std, sys⟩

/-- A step stores a record, ends a round with its row, or does neither. -/
theorem HasRun.step {cfg : Config} {g : Globals} {rounds : List Globals.Round}
    {stored : List Entry} {p q : Peer Addr} {a : Action} {out : Option (Addr × List UInt8)}
    (h : HasRun cfg g p rounds stored) (step : Step cfg p a out q) :
    q.trace = p.trace ∧ (∃ stored', HasRun cfg g q rounds stored') ∨
      ∃ row bytesRead srcAddr std sys, q.trace = p.trace ++ [row] ∧
        p.receiving = .stamped bytesRead srcAddr std sys ∧ p.Holds bytesRead .ackack ∧
        HasRun cfg g q (rounds ++ [p.roundOf bytesRead std sys stored]) [] := by
  cases step with
  | @store pkt std sys stamped =>
    refine Or.inl ⟨rfl, stored ++ [⟨pkt.ackno.toInt32, pkt.ackseqno.toInt32, std, sys⟩],
      h.trace, ?_, ?_⟩
    · rw [storeAll_snoc, ← h.globals]
      rfl
    · rw [storeRecord, h.records, List.append_assoc]
  | @react sys' bytesRead srcAddr std sys reaction loop stamped handled =>
    rcases handle_cases handled with
      ⟨-, -, -, row, rfl⟩ | ⟨-, row, -, rfl⟩ | ⟨holds, -, row, rfl⟩
    · rw [row, Option.toList_none, List.append_nil]
      exact Or.inl ⟨rfl, stored, h.trace, h.globals, h.records⟩
    · rw [row, Option.toList_none, List.append_nil]
      exact Or.inl ⟨rfl, stored, h.trace, h.globals, h.records⟩
    · refine Or.inr ⟨_, bytesRead, srcAddr, std, sys, by rw [row]; rfl, stamped, holds,
        ?_, ?_, ?_⟩
      · rw [row, Runs.run_append, ← h.trace]
        change p.trace ++ [_] = p.trace ++ [_]
        rw [h.globals]
        rfl
      · rw [Runs.run_snoc_state, Globals.receive, h.globals]
        rfl
      · rw [List.flatMap_append, List.append_nil]
        exact h.records.trans (congrArg _ (List.append_nil stored).symm)
  | _ => exact Or.inl ⟨rfl, stored, h.trace, h.globals, h.records⟩

/-- The steady clock does not go back, and the start times stay. -/
theorem step_clock {cfg : Config} {p q : Peer Addr} {a : Action} {out : Option (Addr × List UInt8)}
    (step : Step cfg p a out q) :
    p.clock ≤ q.clock ∧ q.loop.globals.startTimeStd = p.loop.globals.startTimeStd ∧
      q.loop.globals.startTimeSys = p.loop.globals.startTimeSys := by
  cases step with
  | tick later => exact ⟨later, rfl, rfl⟩
  | react stamped handled =>
    refine ⟨Int.le_refl _, ?_⟩
    rcases handle_cases handled with ⟨-, -, -, -, rfl⟩ | ⟨-, -, -, rfl⟩ | ⟨-, -, -, rfl⟩
    · exact ⟨rfl, rfl⟩
    · exact ⟨rfl, rfl⟩
    · exact ⟨rfl, rfl⟩
  | _ => exact ⟨Int.le_refl _, rfl, rfl⟩

end Peer

namespace Network

variable {Addr : Type}

/-- The ACKACK says what the clocks of a process read that was started at these times. -/
structure TellsClocks (startStd startSys : Int) (pkt : PktAckack) (std sys : Int) : Prop where
  timestamp : pkt.timestamp = UInt32.ofInt (countMicroseconds (std - startStd))
  timestampSys : pkt.timestampSys = UInt32.ofInt (countMicroseconds (sys - startSys))

variable [DecidableEq Addr]

theorem Step.clock {cfg : Addr → Config} {n m : Network Addr} (step : Step cfg n m) (a : Addr) :
    (n.peers a).clock ≤ (m.peers a).clock ∧
      (m.peers a).loop.globals.startTimeStd = (n.peers a).loop.globals.startTimeStd ∧
      (m.peers a).loop.globals.startTimeSys = (n.peers a).loop.globals.startTimeSys := by
  rcases step.peer a with same | ⟨action, out, step⟩ | ⟨d, -, -, received⟩
  · rw [same]
    exact ⟨Int.le_refl _, rfl, rfl⟩
  · exact Peer.step_clock step
  · rw [(Peer.receive_eq received).2]
    exact ⟨Int.le_refl _, rfl, rfl⟩

end Network

/-- The datagram, read as an ACK. -/
def Packet.ack {Addr : Type} (d : Packet Addr) : PktAck := .ofBase (alone d.bytes)

/-- The datagram, read as an ACKACK. -/
def Packet.ackack {Addr : Type} (d : Packet Addr) : PktAckack := .ofBase (alone d.bytes)

namespace History

variable {Addr : Type}

/-- The datagram was sent in reaction to an ACK, with the number of the ACK, to the
destination of its sender, and tells the clocks of its sender when it was sent. -/
structure IsAnswer (startStd startSys : Addr → Int) (h : History Addr) (d : Sent Addr) :
    Prop where
  sent : d ∈ h.sent
  destination : (h.network.peers d.packet.src).loop.dstAddr = some d.packet.dst
  answers : ∃ e ∈ h.sent, e.packet.dst = d.packet.src ∧ IsCtrl .ack 44 e.packet.bytes ∧
    d.packet.ackack.ackno = e.packet.ack.ackno
  tells : ∃ sys, d.action = .react sys ∧
    Network.TellsClocks (startStd d.packet.src) (startSys d.packet.src) d.packet.ackack d.clock sys
  started : startStd d.packet.src ≤ d.clock
  past : d.clock ≤ (h.network.peers d.packet.src).clock

/-- Clocks do not go back, start times stay, and every ACKACK on its way is an answer. -/
structure Dated (startStd startSys : Addr → Int) (h : History Addr) : Prop where
  clocks : ∀ a, startStd a ≤ (h.network.peers a).clock
  starts : ∀ a, (h.network.peers a).loop.globals.startTimeStd = startStd a ∧
    (h.network.peers a).loop.globals.startTimeSys = startSys a
  answers : ∀ d ∈ h.sent, IsCtrl .ackack 20 d.packet.bytes → IsAnswer startStd startSys h d

theorem dated_start (remote : Addr → Option Addr) (startStd startSys : Addr → Int) :
    Dated startStd startSys (start remote startStd startSys) where
  clocks _ := Int.le_refl _
  starts _ := ⟨rfl, rfl⟩
  answers := by simp [start]

/-- The round handled the datagram: its ACKACK has the fields that were sent, and its
reception time is what the clock of the process read. -/
structure Handles (r : Globals.Round) (x : Heard Addr) : Prop where
  ackno : r.ackpkt.ackno = x.datagram.packet.ackack.ackno
  timestamp : r.ackpkt.timestamp = x.datagram.packet.ackack.timestamp
  timestampSys : r.ackpkt.timestampSys = x.datagram.packet.ackack.timestampSys
  recvTimeStd : r.recvTimeStd = x.clock

/-- The loop reads what was sent, whatever lies behind it in the buffer. -/
theorem handles_roundOf {p : Peer Addr} {x : Heard Addr}
    (held : Network.InBuffer x.datagram.packet p)
    (form : IsCtrl .ackack 20 x.datagram.packet.bytes) {std : Int} (taken : x.clock = std)
    (sys : Int) (stored : List Entry) :
    Handles (p.roundOf x.datagram.packet.bytes.length std sys stored) x := by
  obtain ⟨-, rest, content⟩ := held
  have field (f : PktField) (covered : f.address + f.width ≤ 20) :
      UInt32.ofNat ((p.pkt x.datagram.packet.bytes.length).getField f) =
        UInt32.ofNat ((alone x.datagram.packet.bytes).getField f) := by
    rw [Peer.pkt, content]
    exact congrArg UInt32.ofNat (form.getField_append covered _ _)
  exact ⟨field PktAckack.fldAckno (by decide), field PktBase.fldTimestamp (by decide),
    field PktAckack.fldTimestampSys (by decide), taken.symm⟩

/-- What a process has traced so far. -/
structure Traces (cfg : Addr → Config) (startStd startSys : Addr → Int) (h : History Addr)
    (a : Addr) (rounds : List Globals.Round) (stored : List Entry) : Prop where
  run : Peer.HasRun (cfg a) { startTimeStd := startStd a, startTimeSys := startSys a }
    (h.network.peers a) rounds stored
  handles : List.Forall₂ Handles rounds (h.heard a)
  answers : ∀ x ∈ h.heard a, x.datagram.packet.dst = a ∧ IsAnswer startStd startSys h x.datagram

variable [DecidableEq Addr]

/-- What was sent stays in the history. -/
theorem Step.sent_subset {cfg : Addr → Config} {h t : History Addr} (step : Step cfg h t)
    {d : Sent Addr} (sent : d ∈ h.sent) : d ∈ t.sent := by
  cases step with
  | act step => exact List.mem_append_left _ sent
  | deliver => exact sent

theorem IsAnswer.step {cfg : Addr → Config} {startStd startSys : Addr → Int} {h t : History Addr}
    {d : Sent Addr} (answer : IsAnswer startStd startSys h d) (step : Step cfg h t) :
    IsAnswer startStd startSys t d := by
  obtain ⟨e, sent, rest⟩ := answer.answers
  exact ⟨step.sent_subset answer.sent, step.network.keeps _ _ answer.destination,
    ⟨e, step.sent_subset sent, rest⟩, answer.tells, answer.started,
    answer.past.trans (step.network.clock _).1⟩

/-- An ACKACK that goes out answers the ACK in the receive buffer. -/
theorem Dated.sends {cfg : Addr → Config} {startStd startSys : Addr → Int} {h : History Addr}
    (dated : Dated startStd startSys h) (formed : h.network.Formed) (rec : Recorded h)
    {a dst : Addr} {action : Action} {bytes : List UInt8} {p : Peer Addr}
    (step : Peer.Step (cfg a) (h.network.peers a) action (some (dst, bytes)) p)
    (ackack : IsCtrl .ackack 20 bytes) :
    IsAnswer startStd startSys (h.act a action (h.network.put a (some (dst, bytes)) p))
      ⟨⟨a, dst, bytes⟩, action, (h.network.peers a).clock⟩ := by
  have network : (h.act a action (h.network.put a (some (dst, bytes)) p)).network =
      h.network.put a (some (dst, bytes)) p := rfl
  rcases Peer.step_out step with ack | ⟨-, k, b, sys, acts, holding, holds, reply⟩
  · exact absurd (ack.type.symm.trans ackack.type) (by decide)
  obtain ⟨r, -, sent, dst_eq, held⟩ := rec.inHand a _ holding
  obtain ⟨rfl, -⟩ := Prod.mk.inj (Option.some.inj (holding.symm.trans held.1))
  have form : IsCtrl .ack 44 r.datagram.packet.bytes := by
    rcases rec.form formed sent with ack | other
    · exact ack
    · cases (held.holds_iff other (by decide) .ack).mp holds
  have stamps := onCtrlAck_timestamps (h.network.peers a).loop.globals
    (.ofBase ((h.network.peers a).pkt r.datagram.packet.bytes.length)) (h.network.peers a).clock sys
  rw [← reply, getTimestampStd, getTimestampSys, (dated.starts a).1, (dated.starts a).2] at stamps
  refine ⟨?_, ?_, ⟨r.datagram, ?_, dst_eq, form, ?_⟩, ⟨sys, acts, stamps.1, stamps.2⟩,
    dated.clocks a, ?_⟩
  · rw [act_sent]
    simp
  · rw [network, Network.put_peers_self]
    exact (Peer.step_dstAddr step).1 _ rfl
  · rw [act_sent]
    exact List.mem_append_left _ sent
  · obtain ⟨-, rest, content⟩ := held
    have number := (onCtrlAck_reply (h.network.peers a).loop.globals
      (.ofBase ((h.network.peers a).pkt r.datagram.packet.bytes.length))
      (h.network.peers a).clock sys).2 [] bytes.length
    rw [← reply, List.append_nil] at number
    refine number.trans ?_
    rw [Peer.pkt, content]
    exact congrArg UInt32.ofNat (form.getField_append (f := PktAck.fldAckno) (by decide) _ _)
  · rw [network, Network.put_peers_self]
    exact (Peer.step_clock step).1

theorem Dated.step {cfg : Addr → Config} {startStd startSys : Addr → Int} {h t : History Addr}
    (dated : Dated startStd startSys h) (formed : h.network.Formed) (rec : Recorded h)
    (step : Step cfg h t) : Dated startStd startSys t := by
  have next := step
  refine ⟨fun a => (dated.clocks a).trans (step.network.clock a).1, fun a => ?_,
    fun d sent ackack => ?_⟩
  · rw [(step.network.clock a).2.1, (step.network.clock a).2.2]
    exact dated.starts a
  · cases step with
    | @act a action out p step =>
      rw [act_sent] at sent
      rcases List.mem_append.mp sent with old | new
      · exact (dated.answers d old ackack).step next
      · obtain ⟨⟨dst, bytes⟩, out', rfl⟩ := List.mem_map.mp new
        obtain rfl : out = some (dst, bytes) := by simpa using out'
        exact dated.sends formed rec step ackack
    | deliver => exact (dated.answers d sent ackack).step next

/-- A new row is about the datagram in hand. -/
theorem act_heard (h : History Addr) (a : Addr) (action : Action) (n : Network Addr) (c : Addr) :
    (h.act a action n).heard c =
      if c = a ∧ (h.network.peers a).trace.length < (n.peers a).trace.length then
        h.heard a ++ (h.inHand a).toList
      else h.heard c := by
  unfold act
  dsimp only
  by_cases longer : (h.network.peers a).trace.length < (n.peers a).trace.length
  · rw [if_pos longer, Function.update_apply]
    simp only [longer, and_true]
  · rw [if_neg longer, if_neg fun both => longer both.2]

/-- A process that acts ends a round, with the datagram in its buffer, or goes on. -/
theorem Traces.act {cfg : Addr → Config} {startStd startSys : Addr → Int} {h : History Addr}
    {a : Addr} {rounds : List Globals.Round} {stored : List Entry} (formed : h.network.Formed)
    (rec : Recorded h) (dated : Dated startStd startSys h)
    (traces : Traces cfg startStd startSys h a rounds stored) {action : Action}
    {out : Option (Addr × List UInt8)} {p : Peer Addr}
    (step : Peer.Step (cfg a) (h.network.peers a) action out p) :
    ∃ rounds' stored',
      Traces cfg startStd startSys (h.act a action (h.network.put a out p)) a rounds' stored' := by
  have next : Step cfg h (h.act a action (h.network.put a out p)) := .act step
  have network : (h.act a action (h.network.put a out p)).network.peers a = p :=
    Network.put_peers_self ..
  have earlier (x : Heard Addr) (hx : x ∈ h.heard a) :=
    And.intro (traces.answers x hx).1 ((traces.answers x hx).2.step next)
  rcases traces.run.step step with
    ⟨same, stored', run⟩ | ⟨row, k, b, std, sys, more, stamped, holds, run⟩
  · have heard : (h.act a action (h.network.put a out p)).heard a = h.heard a := by
      rw [act_heard, Network.put_peers_self, same, if_neg (by simp)]
    exact ⟨rounds, stored', by rw [network]; exact run, by rw [heard]; exact traces.handles,
      by rw [heard]; exact earlier⟩
  · obtain ⟨x, inHand, sent, dst, held⟩ := rec.inHand a _ (by rw [stamped]; rfl)
    have heard : (h.act a action (h.network.put a out p)).heard a = h.heard a ++ [x] := by
      rw [act_heard, Network.put_peers_self, more, if_pos (by simp), inHand]
      rfl
    have taken := rec.taken a x k b std sys inHand stamped
    have length := held.1
    rw [stamped] at length
    obtain ⟨rfl, -⟩ := Prod.mk.inj (Option.some.inj length)
    have form : IsCtrl .ackack 20 x.datagram.packet.bytes := by
      rcases rec.form formed sent with ack | ackack
      · cases (held.holds_iff ack (by decide) .ackack).mp holds
      · exact ackack
    refine ⟨_, [], by rw [network]; exact run, ?_, fun y hy => ?_⟩
    · rw [heard]
      exact List.rel_append traces.handles (.cons (handles_roundOf held form taken sys stored) .nil)
    · rw [heard] at hy
      rcases List.mem_append.mp hy with old | new
      · exact earlier y old
      · rw [List.mem_singleton.mp new]
        exact ⟨dst, (dated.answers _ sent form).step next⟩

theorem Traces.step {cfg : Addr → Config} {startStd startSys : Addr → Int} {h t : History Addr}
    {a : Addr} {rounds : List Globals.Round} {stored : List Entry} (formed : h.network.Formed)
    (rec : Recorded h) (dated : Dated startStd startSys h)
    (traces : Traces cfg startStd startSys h a rounds stored) (step : Step cfg h t) :
    ∃ rounds' stored', Traces cfg startStd startSys t a rounds' stored' := by
  have next := step
  have earlier (x : Heard Addr) (hx : x ∈ h.heard a) :=
    And.intro (traces.answers x hx).1 ((traces.answers x hx).2.step next)
  cases step with
  | @act c action out p step =>
    by_cases own : a = c
    · subst own
      exact traces.act formed rec dated step
    · have heard : (h.act c action (h.network.put c out p)).heard a = h.heard a := by
        rw [act_heard, if_neg fun both => own both.1]
      have network : (h.act c action (h.network.put c out p)).network.peers a =
          h.network.peers a := Network.put_peers_of_ne _ own ..
      exact ⟨rounds, stored, by rw [network]; exact traces.run, by rw [heard]; exact traces.handles,
        by rw [heard]; exact earlier⟩
  | @deliver i d p sent received =>
    refine ⟨rounds, stored, ?_, traces.handles, earlier⟩
    have network : (h.deliver i (h.network.put d.dst none p)).network =
        h.network.put d.dst none p := rfl
    rw [network]
    by_cases own : a = d.dst
    · subst own
      rw [Network.put_peers_self, (Peer.receive_eq received).2]
      exact ⟨traces.run.trace, traces.run.globals, traces.run.records⟩
    · rw [Network.put_peers_of_ne _ own]
      exact traces.run

theorem reachable_traces {cfg : Addr → Config} {remote : Addr → Option Addr}
    {startStd startSys : Addr → Int} {h : History Addr}
    (reachable : Reachable cfg remote startStd startSys h) (a : Addr) :
    ∃ rounds stored, Traces cfg startStd startSys h a rounds stored := by
  have initial : Traces cfg startStd startSys (start remote startStd startSys) a [] [] :=
    ⟨⟨rfl, rfl, rfl⟩, .nil, by simp [start]⟩
  refine (Reachability.Reaches.invariant (I := fun h => h.network.Formed ∧ Recorded h ∧
    Dated startStd startSys h ∧ ∃ rounds stored, Traces cfg startStd startSys h a rounds stored) ?_
    reachable ⟨Network.formed_start .., recorded_start .., dated_start .., [], [], initial⟩).2.2.2
  rintro h e t ⟨formed, rec, dated, rounds, stored, traces⟩ - stepped
  have step := step_cases stepped
  exact ⟨formed.step step.network, rec.step formed step, dated.step formed rec step,
    traces.step formed rec dated step⟩

/-- In every run of every network the trace of a process is the rows of a run of rounds,
which leaves the globals the process has up to the records stored since; the records of
the rounds and these are those that the process stored. Every round handles a datagram
that this process heard, read as it was sent, at the time its clock read; and each of these is
the answer to an ACK, sent by a process whose destination this one is, with the number of
the ACK and what the clocks of that process read when it was sent. -/
theorem traces_are_rounds {cfg : Addr → Config} {remote : Addr → Option Addr}
    {startStd startSys : Addr → Int} {h : History Addr}
    (reachable : Reachable cfg remote startStd startSys h) (a : Addr) :
    ∃ rounds stored,
      let run := Runs.run (Globals.receive (cfg a))
        { startTimeStd := startStd a, startTimeSys := startSys a } rounds
      (h.network.peers a).trace = run.1 ∧
      (h.network.peers a).loop.globals = run.2.storeAll stored ∧
      (h.network.peers a).stored = rounds.flatMap Globals.Round.stored ++ stored ∧
      List.Forall₂ Handles rounds (h.heard a) ∧
      ∀ x ∈ h.heard a, x.datagram.packet.dst = a ∧ IsAnswer startStd startSys h x.datagram := by
  obtain ⟨rounds, stored, traces⟩ := reachable_traces reachable a
  exact ⟨rounds, stored, traces.run.trace, traces.run.globals, traces.run.records, traces.handles,
    traces.answers⟩

/-- The answer of the round trip was sent at the start of the listener. -/
theorem roundTrip_heard :
    (Reachability.follow (step fun _ => {}) (fun _ _ => True)
      (start Network.oneCaller (fun _ => 0) fun _ => 0) Network.roundTrip).map
        (fun h => (h.heard 1).map fun x => (x.datagram.packet.src, x.datagram.clock, x.clock)) =
      some [(0, 0, 3000000)] := by
  decide +kernel

theorem roundTrip_traces_are_rounds :
    ∃ h, Reachability.follow (step fun _ => {}) (fun _ _ => True)
        (start Network.oneCaller (fun _ => 0) fun _ => 0) Network.roundTrip = some h ∧
      (h.heard 1).length = 1 ∧
      ∃ rounds stored,
        let run := Runs.run (Globals.receive {}) { startTimeStd := 0, startTimeSys := 0 } rounds
        (h.network.peers 1).trace = run.1 ∧
        (h.network.peers 1).loop.globals = run.2.storeAll stored ∧
        (h.network.peers 1).stored = rounds.flatMap Globals.Round.stored ++ stored ∧
        List.Forall₂ Handles rounds (h.heard 1) ∧
        ∀ x ∈ h.heard 1, x.datagram.packet.dst = 1 ∧
          IsAnswer (fun _ => 0) (fun _ => 0) h x.datagram := by
  obtain ⟨h, follows, heard⟩ := Option.map_eq_some_iff.mp roundTrip_heard
  refine ⟨h, follows, ?_, @traces_are_rounds _ _ (fun _ => {}) Network.oneCaller (fun _ => 0)
    (fun _ => 0) h (Reachability.reaches_of_follow follows) 1⟩
  simpa using congrArg List.length heard

end History

end DriftTracing.Protocol
