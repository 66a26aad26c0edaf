import DriftTracing.Protocol.Mirror

/-!
# Two processes that were started for each other

Each end of the exchange sees a session with the other one: its own two threads, and a
peer that answers ACKs. The network decides about the datagrams in between, other
processes about nothing. So what holds of sessions holds of both ends.
-/
namespace DriftTracing.Protocol
open DriftTracing.Lib DriftTracing.Source

namespace Network

variable {Addr : Type}

/-- The datagrams are ACKs and ACKACKs, and so is what lies in a receive buffer. -/
structure Formed (n : Network Addr) : Prop where
  packets : ∀ d ∈ n.packets, IsCtrl .ack 44 d.bytes ∨ IsCtrl .ackack 20 d.bytes
  buffers : ∀ a, (n.peers a).loop.buffer.length = mtuSize
  held : ∀ a h, (n.peers a).receiving.holding = some h →
    ∃ d ∈ n.packets, d.dst = a ∧ InBuffer d (n.peers a)

theorem formed_start (remote : Addr → Option Addr) (startStd startSys : Addr → Int) :
    Formed (start remote startStd startSys) where
  packets := by simp [start]
  buffers a := List.length_replicate
  held a h holds := by cases holds

/-- A datagram of the program fits the receive buffer. -/
theorem Formed.recvInto {n : Network Addr} (h : Formed n) {d : Packet Addr} (sent : d ∈ n.packets)
    {buffer : List UInt8} (length : buffer.length = mtuSize) :
    Source.recvInto buffer d.bytes = (d.bytes.length, d.bytes ++ buffer.drop d.bytes.length) := by
  have room : 44 ≤ mtuSize := by decide
  have short : d.bytes.length ≤ buffer.length := by
    rcases h.packets d sent with ack | ackack
    · have := ack.length
      omega
    · have := ackack.length
      omega
  rw [Source.recvInto, List.take_of_length_le short]

/-- Two processes of which each has the other one or nothing for a remote address, and
no third process has one of them. -/
structure Pair (remote : Addr → Option Addr) (a b : Addr) : Prop where
  distinct : a ≠ b
  first : ∀ c, remote a = some c → c = b
  second : ∀ c, remote b = some c → c = a
  toFirst : ∀ c, remote c = some a → c = b
  toSecond : ∀ c, remote c = some b → c = a

theorem Pair.symm {remote : Addr → Option Addr} {a b : Addr} (h : Pair remote a b) :
    Pair remote b a :=
  ⟨h.distinct.symm, h.second, h.first, h.toSecond, h.toFirst⟩

/-- The first one hears only of the second. -/
theorem Pair.src_eq {remote : Addr → Option Addr} {a b : Addr} (h : Pair remote a b)
    {n : Network Addr} (linked : Linked remote n) {d : Packet Addr} (sent : d ∈ n.packets)
    (dst : d.dst = a) : d.src = b := by
  subst dst
  rcases linked.traffic sent with called | ⟨-, caller⟩
  · exact h.toFirst _ called
  · exact h.first _ caller

variable [DecidableEq Addr]

theorem Formed.step {cfg : Addr → Config} {n m : Network Addr} (h : Formed n)
    (step : Step cfg n m) : Formed m := by
  have older {a : Addr} {out : Option (Addr × List UInt8)} {p : Peer Addr} {d : Packet Addr}
      (hd : d ∈ n.packets) : d ∈ (n.put a out p).packets := mem_put.mpr (Or.inl hd)
  cases step with
  | @act a action out p step =>
    obtain ⟨buffer, holding⟩ := Peer.step_holding step
    refine ⟨fun d hd => ?_, fun c => ?_, fun c k holds => ?_⟩
    · rcases mem_put.mp hd with old | ⟨-, rfl⟩
      · exact h.packets d old
      · rcases Peer.step_out step with ack | ⟨ackack, -⟩
        · exact Or.inl ack
        · exact Or.inr ackack
    · by_cases same : c = a
      · subst same
        rw [put_peers_self, buffer]
        exact h.buffers c
      · rw [put_peers_of_ne n same]
        exact h.buffers c
    · by_cases same : c = a
      · subst same
        rw [put_peers_self] at holds ⊢
        obtain ⟨d, hd, dst, held, rest, content⟩ := h.held c k (holding k holds)
        refine ⟨d, older hd, dst, ?_, rest, buffer.trans content⟩
        rw [holds, ← holding k holds]
        exact held
      · rw [put_peers_of_ne n same] at holds ⊢
        obtain ⟨d, hd, held⟩ := h.held c k holds
        exact ⟨d, older hd, held⟩
  | @deliver d p sent received =>
    obtain ⟨-, rfl⟩ := Peer.receive_eq received
    have read := h.recvInto sent (h.buffers d.dst)
    refine ⟨fun e he => ?_, fun c => ?_, fun c k holds => ?_⟩
    · rcases mem_put.mp he with old | ⟨-, new⟩
      · exact h.packets e old
      · cases new
    · by_cases same : c = d.dst
      · subst same
        rw [put_peers_self]
        have := h.buffers d.dst
        simp only [Source.recvInto, List.length_append, List.length_take, List.length_drop]
        omega
      · rw [put_peers_of_ne n same]
        exact h.buffers c
    · by_cases same : c = d.dst
      · subst same
        rw [put_peers_self]
        exact ⟨d, older sent, rfl, by rw [read]; rfl, _, by rw [read]⟩
      · rw [put_peers_of_ne n same] at holds ⊢
        obtain ⟨e, he, held⟩ := h.held c k holds
        exact ⟨e, older he, held⟩

/-- The session is in the state of the process `a`, and what the network keeps of the
ACKs it sent and of the answers to it is on its way in the session. -/
structure Shows (a : Addr) (n : Network Addr) (s : Session) : Prop where
  mirrors : s.Mirrors (n.peers a)
  acks : ∀ d ∈ n.packets, d.src = a → IsCtrl .ack 44 d.bytes → ∃ k, ⟨k, d.bytes⟩ ∈ s.acks
  ackacks : ∀ d ∈ n.packets, d.dst = a → IsCtrl .ackack 20 d.bytes →
    ∃ k, ⟨k, d.bytes⟩ ∈ s.ackacks

omit [DecidableEq Addr] in
theorem Shows.within {a : Addr} {n m : Network Addr} {s t : Session} (h : Shows a n s)
    (mirrors : t.Mirrors (m.peers a)) (within : s.Within t)
    (acks : ∀ d ∈ m.packets, d ∉ n.packets → d.src = a → IsCtrl .ack 44 d.bytes →
      ∃ k, ⟨k, d.bytes⟩ ∈ t.acks)
    (ackacks : ∀ d ∈ m.packets, d ∉ n.packets → d.dst = a → IsCtrl .ackack 20 d.bytes →
      ∃ k, ⟨k, d.bytes⟩ ∈ t.ackacks) : Shows a m t := by
  classical
  refine ⟨mirrors, fun d hd src ack => ?_, fun d hd dst ackack => ?_⟩
  · by_cases old : d ∈ n.packets
    · obtain ⟨k, sent⟩ := h.acks d old src ack
      exact ⟨k, within.1 _ sent⟩
    · exact acks d hd old src ack
  · by_cases old : d ∈ n.packets
    · obtain ⟨k, sent⟩ := h.ackacks d old dst ackack
      exact ⟨k, within.2 _ sent⟩
    · exact ackacks d hd old dst ackack

/-- Whatever happens in the network is nothing or some steps of the session. -/
theorem Shows.step {cfg : Addr → Config} {remote : Addr → Option Addr} {a b : Addr}
    (pair : Pair remote a b) {n m : Network Addr} {s : Session} (linked : Linked remote n)
    (formed : Formed n) (h : Shows a n s) (step : Step cfg n m) :
    ∃ t, s.Leads (cfg a) t ∧ Shows a m t := by
  have linked' := linked.step step
  cases step with
  | @act c action out p step =>
    have new {d : Packet Addr} (hd : d ∈ (n.put c out p).packets) (fresh : d ∉ n.packets) :
        d.src = c ∧ out = some (d.dst, d.bytes) := by
      rcases mem_put.mp hd with old | new
      · exact absurd old fresh
      · exact new
    by_cases own : c = a
    · subst own
      obtain ⟨t, leads, mirrors, within, acks⟩ := h.mirrors.act step
      refine ⟨t, leads, h.within ?_ within (fun d hd fresh _ ack => ?_) fun d hd fresh dst _ => ?_⟩
      · rw [put_peers_self]
        exact mirrors
      · exact acks (d.dst, d.bytes) (new hd fresh).2 ack
      · exact absurd ((new hd fresh).1.symm.trans (pair.src_eq linked' hd dst)) pair.distinct
    · have unchanged : (n.put c out p).peers a = n.peers a := put_peers_of_ne n (Ne.symm own) _ _
      by_cases answers : ∃ bytes, out = some (a, bytes) ∧ IsCtrl .ackack 20 bytes
      · obtain ⟨bytes, rfl, ackack⟩ := answers
        have sent : (⟨c, a, bytes⟩ : Packet Addr) ∈ (n.put c (some (a, bytes)) p).packets :=
          mem_put.mpr (Or.inr ⟨rfl, rfl⟩)
        obtain rfl : c = b := pair.src_eq linked' sent rfl
        rcases Peer.step_out step with ack | ⟨-, k, src, sys, -, holding, holds, rfl⟩
        · exact absurd (ack.type.symm.trans ackack.type) (by decide)
        · obtain ⟨e, he, dst, held⟩ := formed.held c _ holding
          obtain ⟨rfl, -⟩ := Prod.mk.inj (Option.some.inj (holding.symm.trans held.1))
          have ack : IsCtrl .ack 44 e.bytes := by
            rcases formed.packets e he with ack | ackack'
            · exact ack
            · cases (held.holds_iff ackack' (by decide) .ack).mp holds
          obtain ⟨k, out⟩ := h.acks e he (pair.symm.src_eq linked he dst) ack
          obtain ⟨rest, content⟩ := held.2
          obtain ⟨t, leads, mirrors, within, answer⟩ :=
            Session.answered (cfg a) out rest (n.peers c).loop.globals (n.peers c).clock sys
          refine ⟨t, leads, h.within ?_ within (fun d hd fresh src _ => ?_)
            fun d hd fresh _ _ => ⟨k, ?_⟩⟩
          · rw [unchanged]
            exact mirrors _ h.mirrors
          · exact absurd ((new hd fresh).1.symm.trans src) own
          · have bytes := congrArg Prod.snd (Option.some.inj (new hd fresh).2)
            dsimp only at bytes
            rw [← bytes, Peer.pkt, content]
            exact answer
      · refine ⟨s, Relation.ReflTransGen.refl, h.within ?_ ⟨fun _ hd => hd, fun _ hd => hd⟩
          (fun d hd fresh src _ => ?_) fun d hd fresh dst ackack => ?_⟩
        · rw [unchanged]
          exact h.mirrors
        · exact absurd ((new hd fresh).1.symm.trans src) own
        · exact absurd ⟨d.bytes, by rw [(new hd fresh).2, dst], ackack⟩ answers
  | @deliver d p sent received =>
    have old {e : Packet Addr} (he : e ∈ (n.put d.dst none p).packets) : e ∈ n.packets := by
      rcases mem_put.mp he with old | ⟨-, new⟩
      · exact old
      · cases new
    by_cases own : d.dst = a
    · subst own
      have held : InBuffer d p := by
        have read := formed.recvInto sent (formed.buffers d.dst)
        obtain ⟨-, rfl⟩ := Peer.receive_eq received
        exact ⟨by rw [read]; rfl, _, by rw [read]⟩
      have form : IsCtrl .ack 44 d.bytes ∨
          IsCtrl .ackack 20 d.bytes ∧ ∃ k, ⟨k, d.bytes⟩ ∈ s.ackacks := by
        rcases formed.packets d sent with ack | ackack
        · exact Or.inl ack
        · exact Or.inr ⟨ackack, h.ackacks d sent rfl ackack⟩
      obtain ⟨t, leads, mirrors, within⟩ := h.mirrors.receive received held form
      refine ⟨t, leads, h.within ?_ within (fun e he fresh _ _ => absurd (old he) fresh)
        fun e he fresh _ _ => absurd (old he) fresh⟩
      rw [put_peers_self]
      exact mirrors
    · refine ⟨s, Relation.ReflTransGen.refl, h.within ?_ ⟨fun _ hd => hd, fun _ hd => hd⟩
        (fun e he fresh _ _ => absurd (old he) fresh) fun e he fresh _ _ => absurd (old he) fresh⟩
      rw [put_peers_of_ne n (Ne.symm own)]
      exact h.mirrors

theorem reachable_shows {cfg : Addr → Config} {remote : Addr → Option Addr}
    {startStd startSys : Addr → Int} {n : Network Addr} {a b : Addr} (pair : Pair remote a b)
    (reachable : Reachable cfg remote startStd startSys n) :
    ∃ s, Session.Reachable (cfg a) (startStd a) (startSys a) s ∧ Shows a n s := by
  refine Reachability.Reaches.simulation (I := fun n => Linked remote n ∧ Formed n) ?_ ?_ reachable
    ⟨linked_start .., formed_start ..⟩ ⟨Session.Mirrors.start .., by simp [start], by simp [start]⟩
  · exact fun _ _ _ inv _ stepped =>
      ⟨inv.1.step (step_cases stepped), inv.2.step (step_cases stepped)⟩
  · exact fun _ _ _ _ inv shows _ stepped =>
      Shows.step pair inv.1 inv.2 shows (step_cases stepped)

/-- Two processes that were started for each other run one session each, whatever the
network and the other processes do: in every state of the network each of them is in a
state that its own session reaches, and the datagrams between them are those of the
two sessions. -/
theorem exchange_is_two_sessions {cfg : Addr → Config} {remote : Addr → Option Addr}
    {startStd startSys : Addr → Int} {n : Network Addr} {a b : Addr} (pair : Pair remote a b)
    (reachable : Reachable cfg remote startStd startSys n) :
    ∃ s t, Session.Reachable (cfg a) (startStd a) (startSys a) s ∧ Shows a n s ∧
      Session.Reachable (cfg b) (startStd b) (startSys b) t ∧ Shows b n t := by
  obtain ⟨s, ofA, showsA⟩ := reachable_shows pair reachable
  obtain ⟨t, ofB, showsB⟩ := reachable_shows pair.symm reachable
  exact ⟨s, t, ofA, showsA, ofB, showsB⟩

/-- The caller 1 of the listener 0. -/
def oneCaller : Nat → Option Nat
  | 1 => some 0
  | _ => none

theorem oneCaller_pair : Pair oneCaller 1 0 where
  distinct := by decide
  first c h := (Option.some.inj h).symm
  second c h := by cases h
  toFirst c h := by
    unfold oneCaller at h
    split at h <;> simp at h
  toSecond c h := by
    unfold oneCaller at h
    split at h
    · rfl
    · cases h

/-- The ACK of the caller is answered, the answer comes back, and the listener sends an
ACK of its own. -/
def roundTrip : List (Event Nat) :=
  [.act 1 .send, .act 1 (.stampSend 0), .act 1 .store, .deliver 0, .act 0 (.stampRecv 0),
    .act 0 (.react 0), .act 1 (.tick 3000000), .deliver 1, .act 1 (.stampRecv 0),
    .act 1 (.react 0), .act 0 .send]

theorem roundTrip_trace :
    (Reachability.follow (step fun _ => {}) (fun _ _ => True)
      (start oneCaller (fun _ => 0) fun _ => 0) roundTrip).map
        (fun n => ((n.peers 1).trace.map fun row => (row.elapsedStd, row.rttStd),
          (n.peers 1).built, n.packets.map fun d => (d.src, d.dst))) =
      some ([(3000000, 3000)], 1, [(1, 0), (0, 1), (0, 1)]) := by
  decide +kernel

theorem roundTrip_is_two_sessions :
    ∃ n, Reachability.follow (step fun _ => {}) (fun _ _ => True)
        (start oneCaller (fun _ => 0) fun _ => 0) roundTrip = some n ∧
      ∃ s t, Session.Reachable {} 0 0 s ∧ Shows 1 n s ∧
        Session.Reachable {} 0 0 t ∧ Shows 0 n t := by
  obtain ⟨n, follows, -⟩ := Option.map_eq_some_iff.mp roundTrip_trace
  exact ⟨n, follows,
    @exchange_is_two_sessions _ _ (fun _ => {}) oneCaller (fun _ => 0) (fun _ => 0) n 1 0
      oneCaller_pair (Reachability.reaches_of_follow follows)⟩

end Network

namespace Session

/-- The start times are set once. -/
theorem reachable_startTimes {cfg : Config} {startStd startSys : Int} {s : Session}
    (reachable : Reachable cfg startStd startSys s) :
    s.globals.startTimeStd = startStd ∧ s.globals.startTimeSys = startSys := by
  refine reachable.invariant
    (I := fun s => s.globals.startTimeStd = startStd ∧ s.globals.startTimeSys = startSys) ?_
    ⟨rfl, rfl⟩
  intro s e t inv _ stepped
  cases step_cases stepped with
  | _ => exact inv

end Session

namespace Network

variable {Addr : Type} [DecidableEq Addr]

/-- The trace of a process that was started for one other process: every row has the
RTT of an ACK this process sent and stored, from the sending that its record gives to the
reception that the row gives, or -1 on both clocks; and the numbers of these ACKs increase
from row to row, so that no ACK is logged twice. This holds for fewer than 2^32 ACKs,
whatever the network and the other processes do. -/
theorem trace_logs_own_acks {cfg : Addr → Config} {remote : Addr → Option Addr}
    {startStd startSys : Addr → Int} {n : Network Addr} {a b : Addr} (pair : Pair remote a b)
    (reachable : Reachable cfg remote startStd startSys n)
    (fewer : (n.peers a).built < 2 ^ 32) :
    ∃ found : List (Option Match),
      List.Forall₂ (Logs (startStd a) (startSys a)) (n.peers a).trace found ∧
      (∀ m ∈ found.reduceOption, m.cause ≤ (n.peers a).built ∧
        m.entry ∈ (n.peers a).stored ∧ m.entry.ackno = (UInt32.ofNat m.cause).toInt32 ∧
        m.rttPair = m.entry.rtt m.recvTimeStd m.recvTimeSys) ∧
      (found.reduceOption.map Match.cause).Pairwise (· < ·) := by
  obtain ⟨s, ofA, shows⟩ := reachable_shows pair reachable
  obtain ⟨found, matched, rows⟩ := shows.mirrors.rows
  obtain ⟨std, sys⟩ := Session.reachable_startTimes ofA
  obtain ⟨numbered, matching⟩ := Session.reachable_inv ofA
  have own := matching (by rw [shows.mirrors.sent]; exact fewer)
  rw [std, sys] at rows
  refine ⟨found, rows, fun m hm => ?_, ?_⟩
  · rw [← matched] at hm
    obtain ⟨stored, rtt⟩ := own.own m hm
    obtain ⟨built, image⟩ := numbered.stored _ stored
    rw [shows.mirrors.sent] at built
    refine ⟨built, ?_, image, rtt⟩
    rw [← shows.mirrors.stored]
    exact List.mem_map.mpr ⟨_, stored, rfl⟩
  · rw [← matched]
    exact own.increasing

theorem roundTrip_logs_own_acks :
    ∃ n, Reachability.follow (step fun _ => {}) (fun _ _ => True)
        (start oneCaller (fun _ => 0) fun _ => 0) roundTrip = some n ∧
      ∃ found : List (Option Match), List.Forall₂ (Logs 0 0) (n.peers 1).trace found ∧
        (∀ m ∈ found.reduceOption, m.cause ≤ (n.peers 1).built ∧
          m.entry ∈ (n.peers 1).stored ∧ m.entry.ackno = (UInt32.ofNat m.cause).toInt32 ∧
          m.rttPair = m.entry.rtt m.recvTimeStd m.recvTimeSys) ∧
        (found.reduceOption.map Match.cause).Pairwise (· < ·) := by
  obtain ⟨n, follows, result⟩ := Option.map_eq_some_iff.mp roundTrip_trace
  have built : (n.peers 1).built = 1 := congrArg (fun r => r.2.1) result
  exact ⟨n, follows,
    @trace_logs_own_acks _ _ (fun _ => {}) oneCaller (fun _ => 0) (fun _ => 0) n 1 0
      oneCaller_pair (Reachability.reaches_of_follow follows) (by omega)⟩

/-- With two callers, the listener answers ACK 2 of the second one to the first one,
whose own ACK 2 was never delivered. -/
def crossTalk : List (Event Nat) :=
  [.act 1 .send, .act 1 (.stampSend 0), .act 1 .store, .deliver 0, .act 0 (.stampRecv 0),
    .act 0 (.react 0), .act 1 .send, .act 1 (.stampSend 0), .act 1 .store, .act 2 .send,
    .act 2 (.stampSend 0), .act 2 .store, .act 2 .send, .deliver 4, .act 0 (.stampRecv 0),
    .act 0 (.react 0), .act 1 (.tick 3000000), .deliver 5, .act 1 (.stampRecv 0),
    .act 1 (.react 0)]

/-- Without a pair the trace logs an RTT for an ACK that no process ever received. -/
example :
    (Reachability.follow (step fun _ => {}) (fun _ _ => True)
      (start callZero (fun _ => 0) fun _ => 0) crossTalk).map
        (fun n => ((n.peers 1).trace.map TraceRow.rttStd, n.packets.map fun d => (d.src, d.dst))) =
      some ([3000], [(1, 0), (0, 1), (1, 0), (2, 0), (2, 0), (0, 1)]) := by
  decide +kernel

end Network

end DriftTracing.Protocol
