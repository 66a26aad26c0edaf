import DriftTracing.Protocol.Exchange

/-!
# What a process can still measure

Datagrams are lost, sends come up short, records are pushed out of the window and ACK
numbers come round again. None of this is for good: the two threads go on from any
state they are in, and an ACK whose record is in the window and whose number no other
record has is measured when its answer arrives.
-/
namespace DriftTracing.Protocol
open DriftTracing.Lib DriftTracing.Source

namespace Peer

variable {Addr : Type}

/-- The sending thread sleeps and the receiving thread waits. -/
structure Idle (p : Peer Addr) : Prop where
  asleep : p.sending = .sleeping
  waiting : p.receiving = .waiting

/-- At most the row of the datagram that the receiving thread had in hand was traced. -/
def Finishes (p q : Peer Addr) (row : Option TraceRow) : Prop :=
  q.trace = p.trace ++ row.toList ∧ (p.receiving = .waiting → row = none)

/-- The process after it sent an ACK in full and stored the record, `sys` being read off
the system clock. -/
def logAck (p : Peer Addr) (sys : Int) : Peer Addr := p.build.storeRecord p.nextAck p.clock sys

/-- The numbers of the live records, oldest first. -/
def liveAcknos (p : Peer Addr) : List Int32 :=
  p.loop.globals.path.ackRecords.held.map Entry.ackno

/-- The number of the ACK that is `k` ACKs ahead. -/
def acknoAhead (p : Peer Addr) (k : Nat) : Int32 := (p.ackno + UInt32.ofNat k).toInt32

theorem acknoAhead_injective (p : Peer Addr) {j k : Nat} (hj : j < 2 ^ 32) (hk : k < 2 ^ 32)
    (same : p.acknoAhead j = p.acknoAhead k) : j = k := by
  have words : p.ackno + UInt32.ofNat j = p.ackno + UInt32.ofNat k := by
    have := congrArg Int32.toUInt32 same
    simpa [acknoAhead] using this
  apply Session.wire_injective hj hk
  rw [Session.wire, Session.wire, (UInt32.add_right_inj p.ackno).mp words]

theorem logAck_inBounds {p : Peer Addr} (bounds : p.loop.globals.path.ackRecords.InBounds)
    (sys : Int) :
    (p.logAck sys).loop.globals.path.ackRecords.InBounds :=
  AckWindow.store_inBounds bounds ..

/-- The window after an ACK was stored in it. -/
theorem logAck_held {p : Peer Addr} (bounds : p.loop.globals.path.ackRecords.InBounds) (sys : Int) :
    ∃ e : Entry, e.ackno = p.acknoAhead 0 ∧ e.sendtimeStd = p.clock ∧ e.sendtimeSys = sys ∧
      (p.logAck sys).loop.globals.path.ackRecords.held =
        BoundedFifo.push 1023 p.loop.globals.path.ackRecords.held e := by
  refine ⟨⟨p.nextAck.ackno.toInt32, p.nextAck.ackseqno.toInt32, p.clock, sys⟩, ?_, rfl, rfl,
    AckWindow.store_held bounds ..⟩
  rw [nextAck, (ackPacket_spec ..).2.2]
  exact congrArg UInt32.toInt32 (UInt32.add_zero p.ackno).symm

/-- The process after `k` more ACKs. -/
def logAcks (p : Peer Addr) : Nat → Peer Addr
  | 0 => p
  | k + 1 => (p.logAcks k).logAck 0

/-- What the ACKs leave alone. -/
theorem logAcks_frame {p : Peer Addr} (idle : p.Idle) (k : Nat) :
    (p.logAcks k).Idle ∧ (p.logAcks k).loop.dstAddr = p.loop.dstAddr ∧
      (p.logAcks k).trace = p.trace ∧ (p.logAcks k).ackno = p.ackno + UInt32.ofNat k := by
  induction k with
  | zero => exact ⟨idle, rfl, rfl, (UInt32.add_zero p.ackno).symm⟩
  | succ k ih =>
    obtain ⟨idle', dst, trace, ackno⟩ := ih
    refine ⟨⟨rfl, idle'.waiting⟩, dst, trace, ?_⟩
    rw [UInt32.ofNat_add, ← UInt32.add_assoc, ← ackno]
    rfl

/-- The window holds the newest ACKs, and after enough of them no others. -/
theorem logAcks_liveAcknos {p : Peer Addr} (idle : p.Idle)
    (bounds : p.loop.globals.path.ackRecords.InBounds) (k : Nat) :
    (p.logAcks k).loop.globals.path.ackRecords.InBounds ∧
      (p.logAcks k).liveAcknos = BoundedFifo.recent 1023 (fun _ => false)
        (p.liveAcknos ++ (List.range k).map p.acknoAhead) := by
  induction k with
  | zero =>
    refine ⟨bounds, ?_⟩
    rw [List.range_zero, List.map_nil, List.append_nil, BoundedFifo.recent_of_length_le]
    · rfl
    · rw [liveAcknos, List.length_map]
      exact bounds.held_length_le
  | succ k ih =>
    obtain ⟨bounds', live⟩ := ih
    obtain ⟨e, number, -, -, held⟩ := logAck_held bounds' 0
    refine ⟨logAck_inBounds bounds' 0, ?_⟩
    have ahead : e.ackno = p.acknoAhead k := by
      rw [number, acknoAhead, (logAcks_frame idle k).2.2.2]
      exact congrArg UInt32.toInt32 (UInt32.add_zero _)
    rw [List.range_succ, List.map_append, List.map_singleton, ← List.append_assoc,
      ← BoundedFifo.push_recent 1023 _ rfl, ← live, ← ahead]
    change List.map _ ((p.logAcks k).logAck 0).loop.globals.path.ackRecords.held = _
    rw [held, BoundedFifo.push_map]
    rfl

/-- An ACK whose number no other record has is measured from when it was stored. -/
theorem logAck_acknowledge {p : Peer Addr} (bounds : p.loop.globals.path.ackRecords.InBounds)
    (fresh : p.acknoAhead 0 ∉ p.liveAcknos) (sys recvTimeStd recvTimeSys : Int) :
    ((p.logAck sys).loop.globals.path.ackRecords.acknowledge (p.acknoAhead 0) recvTimeStd
        recvTimeSys).1 =
      ⟨toInt (countMicroseconds (recvTimeStd - p.clock)),
        toInt (countMicroseconds (recvTimeSys - sys))⟩ := by
  obtain ⟨e, number, std, sys', held⟩ := logAck_held bounds sys
  have spec := AckWindow.acknowledge_held (logAck_inBounds bounds sys) (p.acknoAhead 0) recvTimeStd
    recvTimeSys
  rw [held] at spec
  cases found : BoundedFifo.takeThrough (fun e => p.acknoAhead 0 == e.ackno)
      (BoundedFifo.push 1023 p.loop.globals.path.ackRecords.held e) with
  | none =>
    have missed := BoundedFifo.takeThrough_eq_none.mp found e
      (BoundedFifo.mem_push_self (by decide) _ e)
    rw [number] at missed
    simp at missed
  | some hit =>
    obtain ⟨x, newer⟩ := hit
    rw [found] at spec
    obtain ⟨older, split, -, same⟩ := BoundedFifo.takeThrough_eq_some.mp found
    have inside : x ∈ BoundedFifo.push 1023 p.loop.globals.path.ackRecords.held e := by
      rw [split]
      simp
    rcases BoundedFifo.mem_push inside with old | rfl
    · exact absurd (List.mem_map.mpr ⟨x, old, (eq_of_beq same).symm⟩) fresh
    · rw [spec.1, Entry.rtt, std, sys']

theorem react_eq {cfg : Config} {p : Peer Addr} {bytesRead : Nat} {srcAddr : Addr}
    {std sys sys' : Int} {reaction : Reaction Addr} {loop : ReplyLoop Addr}
    (stamped : p.receiving = .stamped bytesRead srcAddr std sys)
    (handled : p.handle cfg bytesRead srcAddr ⟨std, sys, p.clock, sys'⟩ = (reaction, loop)) :
    p.step cfg (.react sys') = some (reaction.reply,
      { p with loop, receiving := .waiting, trace := p.trace ++ reaction.row.toList }) := by
  rw [step, stamped]
  dsimp only
  rw [handled]

end Peer

namespace Network

variable {Addr : Type} [DecidableEq Addr]

/-- The states the network leads to. -/
abbrev Leads (cfg : Addr → Config) : Network Addr → Network Addr → Prop :=
  Reachability.Reaches (step cfg) fun _ _ => True

theorem Reachable.leads {cfg : Addr → Config} {remote : Addr → Option Addr}
    {startStd startSys : Addr → Int} {n m : Network Addr}
    (reachable : Reachable cfg remote startStd startSys n) (leads : Leads cfg n m) :
    Reachable cfg remote startStd startSys m :=
  Relation.ReflTransGen.trans reachable leads

theorem put_self (n : Network Addr) (a : Addr) : n.put a none (n.peers a) = n := by
  unfold put
  rw [Function.update_eq_self]
  simp

/-- Of two steps of one process of which at most one sends something, the network shows
one. -/
theorem put_put (n : Network Addr) (a : Addr) {out out' : Option (Addr × List UInt8)}
    (one : out = none ∨ out' = none) (p q : Peer Addr) :
    (n.put a out p).put a out' q = n.put a (out.or out') q := by
  unfold put
  rw [Function.update_idem]
  rcases one with rfl | rfl
  · simp
  · simp

/-- One more action of a process that sends at most one datagram in all. -/
theorem Leads.act {cfg : Addr → Config} {n : Network Addr} {a : Addr}
    {out out' : Option (Addr × List UInt8)} {p q : Peer Addr} (leads : Leads cfg n (n.put a out p))
    (action : Action) (stepped : p.step (cfg a) action = some (out', q))
    (one : out = none ∨ out' = none) :
    Leads cfg n (n.put a (out.or out') q) := by
  refine Relation.ReflTransGen.tail leads ⟨.act a action, trivial, ?_⟩
  rw [step, put_peers_self, stepped, Option.map_some, put_put n a one]

theorem leads_still (cfg : Addr → Config) (n : Network Addr) (a : Addr) :
    Leads cfg n (n.put a none (n.peers a)) := by
  rw [put_self]
  exact Relation.ReflTransGen.refl

theorem leads_tick (cfg : Addr → Config) {n : Network Addr} {a : Addr} {p : Peer Addr}
    (process : n.peers a = p) {std : Int} (later : p.clock ≤ std) :
    Leads cfg n (n.put a none { p with clock := std }) := by
  subst process
  exact (leads_still cfg n a).act (.tick std) (if_pos later) (Or.inl rfl)

/-- The sending thread sends an ACK in full and stores its record. -/
theorem leads_logAck (cfg : Addr → Config) {n : Network Addr} {a b : Addr}
    (asleep : (n.peers a).sending = .sleeping) (known : (n.peers a).loop.dstAddr = some b)
    (sys : Int) :
    ∃ m, Leads cfg n m ∧ m.peers a = (n.peers a).logAck sys ∧
      (∀ c, c ≠ a → m.peers c = n.peers c) ∧
      ⟨a, b, (n.peers a).nextAck.constBuf⟩ ∈ m.packets := by
  have sent := (leads_still cfg n a).act .send
    (by rw [Peer.step, asleep, known]) (Or.inl rfl)
  have stamped := sent.act (.stampSend sys) rfl (Or.inr rfl)
  have stored := stamped.act .store rfl (Or.inr rfl)
  exact ⟨_, stored, put_peers_self .., fun c other => put_peers_of_ne n other _ _,
    mem_put.mpr (Or.inr ⟨rfl, rfl⟩)⟩

/-- The receiving thread runs an iteration for a datagram that is on its way. -/
theorem leads_iteration (cfg : Addr → Config) {n : Network Addr} {d : Packet Addr}
    (sent : d ∈ n.packets) (waiting : (n.peers d.dst).receiving = .waiting) (sys sys' : Int)
    {reaction : Reaction Addr} {loop : ReplyLoop Addr}
    (iteration : ackReplyLoop (cfg d.dst) (n.peers d.dst).loop d.bytes d.src
      ⟨(n.peers d.dst).clock, sys, (n.peers d.dst).clock, sys'⟩ = (reaction, loop)) :
    Leads cfg n (n.put d.dst reaction.reply { n.peers d.dst with
      loop, receiving := .waiting, trace := (n.peers d.dst).trace ++ reaction.row.toList }) := by
  obtain ⟨i, found⟩ := List.mem_iff_getElem?.mp sent
  obtain ⟨q, received⟩ : ∃ q, (n.peers d.dst).receive d.bytes d.src = some q := by
    rw [Peer.receive, waiting]
    exact ⟨_, rfl⟩
  obtain ⟨bytesRead, holding, handled⟩ := Peer.iteration_eq (cfg d.dst) received
    ⟨(n.peers d.dst).clock, sys, (n.peers d.dst).clock, sys'⟩
  rw [iteration] at handled
  have delivered : Leads cfg n (n.put d.dst none q) := by
    refine Reachability.Reaches.single (i := .deliver i) trivial ?_
    rw [step, found, Option.bind_some, received, Option.map_some]
  obtain ⟨-, rfl⟩ := Peer.receive_eq received
  have stamped := delivered.act (.stampRecv sys)
    (by rw [Peer.step, holding]) (Or.inl rfl)
  exact stamped.act (.react sys') (Peer.react_eq rfl handled) (Or.inl rfl)

/-- The sending thread can always finish with the ACK it has. -/
theorem leads_asleep (cfg : Addr → Config) (n : Network Addr) (a : Addr) :
    ∃ q, Leads cfg n (n.put a none q) ∧ q.sending = .sleeping ∧
      q.receiving = (n.peers a).receiving ∧ q.trace = (n.peers a).trace := by
  have same := leads_still cfg n a
  cases phase : (n.peers a).sending with
  | sleeping => exact ⟨_, same, phase, rfl, rfl⟩
  | sent pkt =>
    have stamped := same.act (.stampSend 0) (by rw [Peer.step, phase]) (Or.inl rfl)
    exact ⟨_, stamped.act .store rfl (Or.inl rfl), rfl, rfl, rfl⟩
  | stamped pkt std sys =>
    have stored := same.act .store (by rw [Peer.step, phase]) (Or.inl rfl)
    exact ⟨_, stored, rfl, rfl, rfl⟩

/-- The receiving thread can always finish with the datagram it has. -/
theorem leads_waiting (cfg : Addr → Config) (n : Network Addr) (a : Addr) :
    ∃ out q row, Leads cfg n (n.put a out q) ∧ q.receiving = .waiting ∧
      q.sending = (n.peers a).sending ∧ (n.peers a).Finishes q row := by
  have same := leads_still cfg n a
  cases phase : (n.peers a).receiving with
  | waiting => exact ⟨_, _, none, same, phase, rfl, (List.append_nil _).symm, fun _ => rfl⟩
  | received bytesRead srcAddr =>
    have stamped := same.act (.stampRecv 0) (by rw [Peer.step, phase]) (Or.inl rfl)
    refine ⟨_, _, _, stamped.act (.react 0) (Peer.react_eq rfl rfl) (Or.inl rfl), rfl, rfl, rfl,
      fun waiting => ?_⟩
    rw [phase] at waiting
    cases waiting
  | stamped bytesRead srcAddr std sys =>
    refine ⟨_, _, _, same.act (.react 0) (Peer.react_eq phase rfl) (Or.inl rfl), rfl, rfl, rfl,
      fun waiting => ?_⟩
    rw [phase] at waiting
    cases waiting

theorem leads_idle (cfg : Addr → Config) (n : Network Addr) (a : Addr) :
    ∃ m row, Leads cfg n m ∧ (m.peers a).Idle ∧ (∀ c, c ≠ a → m.peers c = n.peers c) ∧
      (n.peers a).Finishes (m.peers a) row := by
  obtain ⟨p, first, asleep, receiving, trace⟩ := leads_asleep cfg n a
  obtain ⟨out, q, row, second, waiting, sending, traced, one⟩ :=
    leads_waiting cfg (n.put a none p) a
  rw [put_peers_self] at sending traced one
  refine ⟨_, row, first.trans second, ?_, fun c other => ?_, ?_, ?_⟩
  · rw [put_peers_self]
    exact ⟨sending.trans asleep, waiting⟩
  · rw [put_peers_of_ne _ other, put_peers_of_ne _ other]
  · rw [put_peers_self, ← trace]
    exact traced
  · rw [← receiving]
    exact one

theorem reachable_formed {cfg : Addr → Config} {remote : Addr → Option Addr}
    {startStd startSys : Addr → Int} {n : Network Addr}
    (reachable : Reachable cfg remote startStd startSys n) : Formed n :=
  reachable.invariant (fun _ _ _ inv _ stepped => inv.step (step_cases stepped)) (formed_start ..)

omit [DecidableEq Addr] in
/-- A control packet of the program is handled as what it was sent as. -/
theorem Formed.iteration {n : Network Addr} (h : Formed n) {d : Packet Addr} (sent : d ∈ n.packets)
    {type : CtrlType} {size : Nat} (form : IsCtrl type size d.bytes) (enough : 2 ≤ size)
    (cfg : Config) (t : Readings) :
    ∃ rest, (PktBase.ofView ⟨d.bytes ++ rest, d.bytes.length⟩).Is type ∧
      ackReplyLoop cfg (n.peers d.dst).loop d.bytes d.src t =
        handlePkt cfg { (n.peers d.dst).loop with buffer := d.bytes ++ rest }
          (.ofView ⟨d.bytes ++ rest, d.bytes.length⟩) d.src t := by
  have some_byte : d.bytes.length ≠ 0 := by
    have := form.length
    omega
  refine ⟨(n.peers d.dst).loop.buffer.drop d.bytes.length, form.append enough _ _, ?_⟩
  rw [ackReplyLoop, h.recvInto sent (h.buffers d.dst)]
  exact if_neg some_byte

omit [DecidableEq Addr] in
/-- A process of a pair has no destination but the other one. -/
theorem Pair.dst_eq {remote : Addr → Option Addr} {a b c : Addr} (pair : Pair remote a b)
    {n : Network Addr} (linked : Linked remote n) (known : (n.peers a).loop.dstAddr = some c) :
    c = b := by
  rcases linked.learned a c known with called | ⟨-, caller⟩
  · exact pair.first c called
  · exact pair.toFirst c caller

/-- A process answers an ACK that reaches it to the other one of the pair. -/
theorem leads_answer {cfg : Addr → Config} {remote : Addr → Option Addr}
    {startStd startSys : Addr → Int} {n : Network Addr} {a b : Addr} (pair : Pair remote a b)
    (reachable : Reachable cfg remote startStd startSys n) {g : Globals} {ackno : UInt32}
    {now : Int} (sent : ⟨a, b, (ackPacket g ackno now).constBuf⟩ ∈ n.packets)
    (idle : (n.peers b).Idle) :
    ∃ m bytes, Leads cfg n m ∧ (m.peers b).Idle ∧ (m.peers b).loop.dstAddr = some a ∧
      (m.peers b).trace = (n.peers b).trace ∧ (∀ c, c ≠ b → m.peers c = n.peers c) ∧
      ⟨b, a, bytes⟩ ∈ m.packets ∧ IsCtrl .ackack 20 bytes ∧
      ∀ (rest : List UInt8) (size : Nat),
        (PktAckack.ofBase (.ofView ⟨bytes ++ rest, size⟩)).ackno = ackno := by
  obtain ⟨rest, is, iteration⟩ := (reachable_formed reachable).iteration sent
    (ackPacket_isCtrl g ackno now) (by decide) (cfg b) ⟨(n.peers b).clock, 0, (n.peers b).clock, 0⟩
  have destination : (n.peers b).loop.dstAddr.getD a = a := by
    cases known : (n.peers b).loop.dstAddr with
    | none => rfl
    | some c => exact pair.symm.dst_eq (reachable_linked reachable) known
  generalize handled : handlePkt _ _ _ _ _ = effect at iteration
  obtain ⟨reaction, loop⟩ := effect
  have leads := leads_iteration cfg sent idle.waiting 0 0 iteration
  rcases handlePkt_cases handled with ⟨other, -⟩ | ⟨-, row, reply, rfl⟩ | ⟨is', -⟩
  · exact absurd is other
  · dsimp only at reply
    rw [destination] at reply
    rw [reply, row, Option.toList_none, List.append_nil] at leads
    refine ⟨_, onCtrlAck _ _ _ _, leads, ?_, ?_, ?_, fun c other => put_peers_of_ne n other _ _,
      mem_put.mpr (Or.inr ⟨rfl, rfl⟩), onCtrlAck_isCtrl .., fun rest' size => ?_⟩
    · rw [put_peers_self]
      exact ⟨idle.asleep, rfl⟩
    · rw [put_peers_self]
      exact congrArg some destination
    · rw [put_peers_self]
    · rw [(onCtrlAck_reply _ _ _ _).2, (ackPacket_constBuf g ackno now).2]
  · cases is.unique is'

/-- The process `a` can start a measurement, and `b` is there to answer. -/
structure Ready (a b : Addr) (n : Network Addr) : Prop where
  sender : (n.peers a).Idle
  known : (n.peers a).loop.dstAddr = some b
  answerer : (n.peers b).Idle

/-- A process that is ready can send as many ACKs as it likes. -/
theorem Ready.leads_logAcks (cfg : Addr → Config) {n : Network Addr} {a b : Addr}
    (distinct : a ≠ b) (ready : Ready a b n) (k : Nat) :
    ∃ m, Leads cfg n m ∧ Ready a b m ∧ m.peers a = (n.peers a).logAcks k := by
  induction k with
  | zero => exact ⟨n, Relation.ReflTransGen.refl, ready, rfl⟩
  | succ k ih =>
    obtain ⟨m, leads, ready', sender⟩ := ih
    obtain ⟨m', next, sender', others, -⟩ := leads_logAck cfg ready'.sender.asleep ready'.known 0
    refine ⟨m', leads.trans next, ⟨?_, ?_, ?_⟩, ?_⟩
    · rw [sender']
      exact ⟨rfl, ready'.sender.waiting⟩
    · rw [sender']
      exact ready'.known
    · rw [others b distinct.symm]
      exact ready'.answerer
    · rw [sender', sender]
      rfl

/-- Each process of a pair can get ready: it finishes what it has in hand, a caller knows
its destination, and a listener can hear of its caller. -/
theorem leads_ready {cfg : Addr → Config} {remote : Addr → Option Addr}
    {startStd startSys : Addr → Int} {n : Network Addr} {a b : Addr} (pair : Pair remote a b)
    (joined : remote a = some b ∨ remote b = some a)
    (reachable : Reachable cfg remote startStd startSys n) :
    ∃ m row, Leads cfg n m ∧ Ready a b m ∧ (n.peers a).Finishes (m.peers a) row := by
  obtain ⟨n₁, row, toIdleA, idleA, -, trace, one⟩ := leads_idle cfg n a
  obtain ⟨n₂, -, toIdleB, idleB, others, -⟩ := leads_idle cfg n₁ b
  rw [← others a pair.distinct] at idleA trace
  have settled := toIdleA.trans toIdleB
  have linked := reachable_linked (reachable.leads settled)
  rcases joined with caller | called
  · exact ⟨n₂, row, settled, ⟨idleA, linked.started a b caller, idleB⟩, trace, one⟩
  · obtain ⟨n₃, calls, sender, others₃, sent⟩ :=
      leads_logAck cfg idleB.asleep (linked.started b a called) 0
    have atA := others₃ a pair.distinct
    obtain ⟨n₄, bytes, answers, idle, known, trace₄, others₄, -⟩ :=
      leads_answer pair.symm (reachable.leads (settled.trans calls)) sent (by rw [atA]; exact idleA)
    refine ⟨n₄, row, settled.trans (calls.trans answers), ⟨idle, known, ?_⟩, ?_, one⟩
    · rw [others₄ b pair.symm.distinct, sender]
      exact ⟨rfl, idleB.waiting⟩
    · rw [trace₄, atA]
      exact trace

theorem reachable_inBounds {cfg : Addr → Config} {remote : Addr → Option Addr}
    {startStd startSys : Addr → Int} {n : Network Addr} {a b : Addr} (pair : Pair remote a b)
    (reachable : Reachable cfg remote startStd startSys n) :
    (n.peers a).loop.globals.path.ackRecords.InBounds := by
  obtain ⟨s, -, shows⟩ := reachable_shows pair reachable
  rw [← shows.mirrors.globals]
  exact shows.mirrors.bounds

/-- An ACK is sent and answered, and the answer can be taken a chosen time later. -/
theorem Ready.leads_ackack {cfg : Addr → Config} {remote : Addr → Option Addr}
    {startStd startSys : Addr → Int} {n : Network Addr} {a b : Addr} (pair : Pair remote a b)
    (reachable : Reachable cfg remote startStd startSys n) (ready : Ready a b n) {delayStd : Int}
    (later : 0 ≤ delayStd) :
    ∃ m bytes, Leads cfg n m ∧
      m.peers a = { (n.peers a).logAck 0 with clock := (n.peers a).clock + delayStd } ∧
      (m.peers b).Idle ∧ ⟨b, a, bytes⟩ ∈ m.packets ∧ IsCtrl .ackack 20 bytes ∧
      ∀ (rest : List UInt8) (size : Nat),
        (PktAckack.ofBase (.ofView ⟨bytes ++ rest, size⟩)).ackno = (n.peers a).ackno := by
  obtain ⟨n₁, sends, sender, others, sent⟩ := leads_logAck cfg ready.sender.asleep ready.known 0
  obtain ⟨n₂, bytes, answers, idle, -, -, others', answer, form, number⟩ :=
    leads_answer pair (reachable.leads sends) sent
      (by rw [others b pair.symm.distinct]; exact ready.answerer)
  have passes := leads_tick cfg ((others' a pair.distinct).trans sender)
    (Int.le_add_of_nonneg_right later)
  refine ⟨_, bytes, sends.trans (answers.trans passes), put_peers_self .., ?_,
    mem_put.mpr (Or.inl answer), form, number⟩
  rw [put_peers_of_ne _ pair.symm.distinct]
  exact idle

/-- If no record has the number of the next ACK, its RTT can be anything. -/
theorem Ready.leads_row {cfg : Addr → Config} {remote : Addr → Option Addr}
    {startStd startSys : Addr → Int} {n : Network Addr} {a b : Addr} (pair : Pair remote a b)
    (reachable : Reachable cfg remote startStd startSys n) (ready : Ready a b n)
    (fresh : (n.peers a).acknoAhead 0 ∉ (n.peers a).liveAcknos) {delayStd : Int}
    (later : 0 ≤ delayStd) (delaySys : Int) :
    ∃ m row, Leads cfg n m ∧ Ready a b m ∧ (m.peers a).trace = (n.peers a).trace ++ [row] ∧
      row.rttStd = toInt (countMicroseconds delayStd) ∧
      row.rttSys = toInt (countMicroseconds delaySys) := by
  obtain ⟨m, bytes, leads, atA, idleB, sent, form, number⟩ :=
    ready.leads_ackack pair reachable later
  obtain ⟨rest, is, iteration⟩ := (reachable_formed (reachable.leads leads)).iteration sent form
    (by decide) (cfg a) ⟨(m.peers a).clock, delaySys, (m.peers a).clock, 0⟩
  generalize handled : handlePkt _ _ _ _ _ = effect at iteration
  obtain ⟨reaction, loop⟩ := effect
  have reacts :=
    leads_iteration cfg sent (by rw [atA]; exact ready.sender.waiting) delaySys 0 iteration
  rcases handlePkt_cases handled with ⟨-, other, -⟩ | ⟨is', -⟩ | ⟨-, -, row, rfl⟩
  · exact absurd is other
  · cases is'.unique is
  · obtain ⟨last, traced⟩ : ∃ last, reaction.row = some last := ⟨_, row⟩
    rw [traced] at reacts
    refine ⟨_, last, leads.trans reacts, ⟨?_, ?_, ?_⟩, ?_, ?_⟩
    · rw [put_peers_self]
      refine ⟨?_, rfl⟩
      change (m.peers a).sending = .sleeping
      rw [atA]
      rfl
    · rw [put_peers_self]
      change (m.peers a).loop.dstAddr = some b
      rw [atA]
      exact ready.known
    · rw [put_peers_of_ne _ pair.symm.distinct]
      exact idleB
    · rw [put_peers_self]
      have trace : (m.peers a).trace = (n.peers a).trace := by
        rw [atA]
        rfl
      exact congrArg (· ++ [last]) trace
    · have measured := Peer.logAck_acknowledge (reachable_inBounds pair reachable) fresh 0
        ((n.peers a).clock + delayStd) delaySys
      rw [add_sub_cancel_left, Int.sub_zero] at measured
      have pairs : ((m.peers a).loop.globals.path.ackRecords.acknowledge
          (PktAckack.ofBase (.ofView ⟨bytes ++ rest, bytes.length⟩)).ackno.toInt32
          (m.peers a).clock delaySys).1 =
          ⟨toInt (countMicroseconds delayStd), toInt (countMicroseconds delaySys)⟩ := by
        rw [number, atA, ← measured, Peer.acknoAhead]
        exact congrArg (fun k => (AckWindow.acknowledge _ (UInt32.toInt32 k) _ _).1)
          (UInt32.add_zero _).symm
      rw [Option.some.inj (traced.symm.trans row)]
      exact ⟨congrArg RttPair.rttStd pairs, congrArg RttPair.rttSys pairs⟩

/-- With the window full of newer ACKs no record has the number of the next one, whatever
ACKs of 2^32 and more ago it held. -/
theorem Ready.leads_fresh {cfg : Addr → Config} {remote : Addr → Option Addr}
    {startStd startSys : Addr → Int} {n : Network Addr} {a b : Addr} (pair : Pair remote a b)
    (reachable : Reachable cfg remote startStd startSys n) (ready : Ready a b n) :
    ∃ m, Leads cfg n m ∧ Ready a b m ∧ (m.peers a).trace = (n.peers a).trace ∧
      (m.peers a).acknoAhead 0 ∉ (m.peers a).liveAcknos := by
  obtain ⟨m, leads, ready', sender⟩ := ready.leads_logAcks cfg pair.distinct 1023
  obtain ⟨-, -, trace, ackno⟩ := Peer.logAcks_frame ready.sender 1023
  obtain ⟨-, live⟩ :=
    Peer.logAcks_liveAcknos ready.sender (reachable_inBounds pair reachable) 1023
  refine ⟨m, leads, ready', by rw [sender, trace], fun inside => ?_⟩
  rw [sender, live] at inside
  obtain ⟨k, range, same⟩ :=
    List.mem_map.mp (BoundedFifo.mem_of_mem_recent_append (by simp) inside)
  have below := List.mem_range.mp range
  have next : ((n.peers a).logAcks 1023).acknoAhead 0 = (n.peers a).acknoAhead 1023 := by
    rw [Peer.acknoAhead, ackno]
    exact congrArg UInt32.toInt32 (UInt32.add_zero _)
  rw [next] at same
  have := Peer.acknoAhead_injective _ (by omega) (by omega) same
  omega

/-- From any state, whatever was lost and however often the ACK numbers came round, each
process of a pair can still measure any delays, one after the other: the exchange can go
on so that the process logs at most the one row it had in hand, and then exactly these
RTTs. -/
theorem delays_can_be_measured {cfg : Addr → Config} {remote : Addr → Option Addr}
    {startStd startSys : Addr → Int} {n : Network Addr} {a b : Addr} (pair : Pair remote a b)
    (joined : remote a = some b ∨ remote b = some a)
    (reachable : Reachable cfg remote startStd startSys n) (delays : List (Int × Int))
    (later : ∀ d ∈ delays, 0 ≤ d.1) :
    ∃ (m : Network Addr) (pending : Option TraceRow) (rows : List TraceRow), Leads cfg n m ∧
      ((n.peers a).receiving = .waiting → pending = none) ∧
      (m.peers a).trace = (n.peers a).trace ++ pending.toList ++ rows ∧
      rows.map (fun row => (row.rttStd, row.rttSys)) =
        delays.map fun d => (toInt (countMicroseconds d.1), toInt (countMicroseconds d.2)) := by
  obtain ⟨n₀, pending, settles, ready, trace, one⟩ := leads_ready pair joined reachable
  suffices more : ∃ m rows, Leads cfg n₀ m ∧ Ready a b m ∧
      (m.peers a).trace = (n₀.peers a).trace ++ rows ∧
      rows.map (fun row => (row.rttStd, row.rttSys)) =
        delays.map fun d => (toInt (countMicroseconds d.1), toInt (countMicroseconds d.2)) by
    obtain ⟨m, rows, leads, -, added, rtts⟩ := more
    exact ⟨m, pending, rows, settles.trans leads, one, by rw [added, trace], rtts⟩
  have reachable₀ := reachable.leads settles
  induction delays using List.reverseRecOn with
  | nil => exact ⟨n₀, [], Relation.ReflTransGen.refl, ready, (List.append_nil _).symm, rfl⟩
  | append_singleton delays d ih =>
    obtain ⟨m, rows, leads, ready', added, rtts⟩ :=
      ih fun e he => later e (List.mem_append_left _ he)
    have reachable' := reachable₀.leads leads
    obtain ⟨m', flushes, ready'', same, fresh⟩ := ready'.leads_fresh pair reachable'
    obtain ⟨m'', row, measures, ready₃, added', std, sys⟩ :=
      ready''.leads_row pair (reachable'.leads flushes) fresh
        (later d (List.mem_append_right _ (List.mem_singleton_self d))) d.2
    refine ⟨m'', rows ++ [row], leads.trans (flushes.trans measures), ready₃, ?_, ?_⟩
    · rw [added', same, added, List.append_assoc]
    · rw [List.map_append, List.map_append, rtts, List.map_singleton, List.map_singleton, std, sys]

/-- The listener after the round trip: it measures 5 us and 2 ms, one of them with a
system clock that is set back in the meantime. -/
theorem roundTrip_delays_can_be_measured :
    ∃ n, Reachability.follow (step fun _ => {}) (fun _ _ => True)
        (start oneCaller (fun _ => 0) fun _ => 0) roundTrip = some n ∧
      ∃ (m : Network Nat) (pending : Option TraceRow) (rows : List TraceRow),
        Leads (fun _ => {}) n m ∧ ((n.peers 0).receiving = .waiting → pending = none) ∧
        (m.peers 0).trace = (n.peers 0).trace ++ pending.toList ++ rows ∧
        rows.map (fun row => (row.rttStd, row.rttSys)) = [(5, -7), (2000, 2001)] := by
  obtain ⟨n, follows, -⟩ := Option.map_eq_some_iff.mp roundTrip_trace
  obtain ⟨m, pending, rows, leads, one, trace, rtts⟩ :=
    @delays_can_be_measured _ _ (fun _ => {}) oneCaller (fun _ => 0) (fun _ => 0) n 0 1
      oneCaller_pair.symm (Or.inr rfl) (Reachability.reaches_of_follow follows)
      [(5000, -7000), (2000000, 2001000)] (by simp)
  have values : ([(5000, -7000), (2000000, 2001000)] : List (Int × Int)).map
      (fun d => (toInt (countMicroseconds d.1), toInt (countMicroseconds d.2))) =
      [(5, -7), (2000, 2001)] := by
    decide
  exact ⟨n, follows, m, pending, rows, leads, one, trace, rtts.trans values⟩

end Network

end DriftTracing.Protocol
