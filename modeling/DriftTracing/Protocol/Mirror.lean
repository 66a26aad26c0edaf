import DriftTracing.Guarantees.SentPackets
import DriftTracing.Protocol.Links
import DriftTracing.Protocol.Matching
import Mathlib.Data.List.ReduceOption

/-!
# A process as a session

A session follows one process and keeps the history the process does not have. An ACK
in the receive buffer is no concern of the session, and neither is what the process
sends in answer to it: that belongs to the session of the other one.
-/
namespace DriftTracing.Protocol
open DriftTracing.Lib DriftTracing.Source

namespace Peer

variable {Addr : Type}

instance (p : Peer Addr) (bytesRead : Nat) (type : CtrlType) : Decidable (p.Holds bytesRead type) :=
  inferInstanceAs (Decidable (_ ∧ _))

/-- What goes out is an ACK of the process, or its answer to an ACK in its buffer. -/
theorem step_out {cfg : Config} {p q : Peer Addr} {a : Action} {dst : Addr} {bytes : List UInt8}
    (step : Step cfg p a (some (dst, bytes)) q) :
    IsCtrl .ack 44 bytes ∨
      IsCtrl .ackack 20 bytes ∧ ∃ k b sys, a = .react sys ∧
        p.receiving.holding = some (k, b) ∧ p.Holds k .ack ∧
        bytes = onCtrlAck p.loop.globals (.ofBase (p.pkt k)) p.clock sys := by
  generalize sent : some (dst, bytes) = out at step
  cases step with
  | send asleep known =>
    obtain ⟨-, rfl⟩ := Prod.mk.inj (Option.some.inj sent)
    exact Or.inl (ackPacket_isCtrl ..)
  | @sendShort out' dst asleep known =>
    cases out' with
    | false => cases sent
    | true =>
      obtain ⟨-, rfl⟩ := Prod.mk.inj (Option.some.inj sent)
      exact Or.inl (ackPacket_isCtrl ..)
  | react stamped handled =>
    rcases handle_cases handled with ⟨-, -, reply, -⟩ | ⟨holds, -, reply, -⟩ | ⟨-, reply, -⟩
    · rw [reply] at sent
      cases sent
    · rw [reply] at sent
      obtain ⟨-, rfl⟩ := Prod.mk.inj (Option.some.inj sent)
      exact Or.inr ⟨onCtrlAck_isCtrl .., _, _, _, rfl, by rw [stamped]; rfl, holds, rfl⟩
    · rw [reply] at sent
      cases sent
  | _ => cases sent

end Peer

namespace Network

variable {Addr : Type}

/-- The datagram is what the receiving thread holds. -/
def InBuffer (d : Packet Addr) (p : Peer Addr) : Prop :=
  p.receiving.holding = some (d.bytes.length, d.src) ∧ ∃ rest, p.loop.buffer = d.bytes ++ rest

/-- A process takes what it holds for what was sent. -/
theorem InBuffer.holds_iff {d : Packet Addr} {p : Peer Addr} (held : InBuffer d p)
    {type : CtrlType} {size : Nat} (form : IsCtrl type size d.bytes) (enough : 2 ≤ size)
    (type' : CtrlType) : p.Holds d.bytes.length type' ↔ type' = type := by
  obtain ⟨-, rest, content⟩ := held
  obtain ⟨ctrl, read⟩ := form.append enough rest d.bytes.length
  have length := form.length
  unfold Peer.Holds PktBase.Is Peer.pkt
  rw [content, ctrl, read]
  constructor
  · rintro ⟨-, -, same⟩
    exact same.symm
  · rintro rfl
    exact ⟨by omega, rfl, rfl⟩

end Network

/-- The sending thread without the history. -/
def Sender.forget : Sender → Sending
  | .idle => .sleeping
  | .sent _ pkt => .sent pkt
  | .stamped _ pkt std sys => .stamped pkt std sys

/-- The ACKACK in the hands of the receiving thread, with its clock readings. -/
def Receiver.forget : Receiver → Option (PktAckack × Option (Int × Int))
  | .waiting => none
  | .received _ pkt => some (pkt, none)
  | .stamped _ pkt std sys => some (pkt, some (std, sys))

/-- The ACKACK in the receive buffer. An ACK there is no concern of the session. -/
def Peer.ackack {Addr : Type} (p : Peer Addr) : Option (PktAckack × Option (Int × Int)) :=
  match p.receiving with
  | .waiting => none
  | .received bytesRead _ =>
    if p.Holds bytesRead .ackack then some (.ofBase (p.pkt bytesRead), none) else none
  | .stamped bytesRead _ std sys =>
    if p.Holds bytesRead .ackack then some (.ofBase (p.pkt bytesRead), some (std, sys)) else none

/-- What a row says of the record that was found for its ACKACK, if there was one. -/
def Logs (startStd startSys : Int) (row : TraceRow) : Option Match → Prop
  | some m => row.rttStd = m.rttPair.rttStd ∧ row.rttSys = m.rttPair.rttSys ∧
      row.elapsedStd = m.recvTimeStd - startStd ∧ row.elapsedSys = m.recvTimeSys - startSys
  | none => row.rttStd = -1 ∧ row.rttSys = -1

/-- The states a session leads to. -/
abbrev Session.Leads (cfg : Config) : Session → Session → Prop :=
  Reachability.Reaches (Session.step cfg) fun _ _ => True

/-- The session is in the state of the process. -/
structure Session.Mirrors {Addr : Type} (s : Session) (p : Peer Addr) : Prop where
  globals : s.globals = p.loop.globals
  ackno : s.ackno = p.ackno
  clock : s.clock = p.clock
  sent : s.sent = p.built
  stored : s.stored.map Prod.snd = p.stored
  sender : s.sender.forget = p.sending
  receiver : s.receiver.forget = p.ackack
  bounds : s.globals.path.ackRecords.InBounds
  rows : ∃ found : List (Option Match), s.matched = found.reduceOption ∧
    List.Forall₂ (Logs s.globals.startTimeStd s.globals.startTimeSys) p.trace found

/-- What is on its way in one session is in the other. -/
def Session.Within (s t : Session) : Prop :=
  (∀ d ∈ s.acks, d ∈ t.acks) ∧ ∀ d ∈ s.ackacks, d ∈ t.ackacks

namespace Session.Mirrors
variable {Addr : Type} {cfg : Config} {s : Session} {p : Peer Addr}

theorem start (remote : Option Addr) (startStd startSys : Int) :
    (Session.start startStd startSys).Mirrors (Peer.start remote startStd startSys) where
  globals := rfl
  ackno := rfl
  clock := rfl
  sent := rfl
  stored := rfl
  sender := rfl
  receiver := rfl
  bounds := AckWindow.fresh_inBounds (by decide) (by decide)
  rows := ⟨[], rfl, .nil⟩

theorem idle (h : s.Mirrors p) (asleep : p.sending = .sleeping) : s.sender = .idle := by
  have phase := h.sender.trans asleep
  cases sender : s.sender with
  | idle => rfl
  | _ =>
    rw [sender] at phase
    cases phase

theorem nextAck (h : s.Mirrors p) : s.nextAck = p.nextAck := by
  rw [Session.nextAck, h.globals, h.ackno, h.clock]
  rfl

theorem built (h : s.Mirrors p) (out : Bool) :
    (s.build out).Mirrors p.build :=
  { h with
    ackno := congrArg (· + 1) h.ackno
    sent := congrArg (· + 1) h.sent }

/-- Nothing happens in the session. -/
theorem stay (cfg : Config) (h : s.Mirrors p) : ∃ t, s.Leads cfg t ∧ t.Mirrors p ∧ s.Within t :=
  ⟨s, Relation.ReflTransGen.refl, h, fun _ hd => hd, fun _ hd => hd⟩

/-- The receiving thread reads the clocks, for an ACKACK or anything else. -/
theorem stampRecv (cfg : Config) (h : s.Mirrors p) {sys : Int} {bytesRead : Nat} {srcAddr : Addr}
    (received : p.receiving = .received bytesRead srcAddr) :
    ∃ t, s.Leads cfg t ∧
      t.Mirrors { p with receiving := .stamped bytesRead srcAddr p.clock sys } ∧ s.Within t := by
  have phase := h.receiver
  rw [Peer.ackack, received] at phase
  dsimp only at phase
  by_cases holds : p.Holds bytesRead .ackack
  · rw [if_pos holds] at phase
    cases receiver : s.receiver with
    | received cause pkt =>
      rw [receiver] at phase
      obtain rfl : pkt = .ofBase (p.pkt bytesRead) := congrArg Prod.fst (Option.some.inj phase)
      refine ⟨{ s with receiver := .stamped cause (.ofBase (p.pkt bytesRead)) s.clock sys },
        Reachability.Reaches.single (i := .stampRecv sys) trivial ?_, { h with receiver := ?_ },
        fun _ hd => hd, fun _ hd => hd⟩
      · rw [Session.step, receiver]
      · rw [h.clock]
        exact (if_pos holds).symm
    | _ =>
      rw [receiver] at phase
      cases phase
  · rw [if_neg holds] at phase
    exact ({ h with receiver := phase.trans (if_neg holds).symm } :
      s.Mirrors { p with receiving := .stamped bytesRead srcAddr p.clock sys }).stay cfg

/-- A match adds its row, a miss adds a row too. -/
theorem handled (h : s.Mirrors p) (cause : Nat) (pkt : PktAckack) (std sys : Int) :
    (s.handle cfg cause pkt std sys).Mirrors { p with
      loop.globals := (onCtrlAckack cfg p.loop.globals pkt std sys).2
      receiving := .waiting
      trace := p.trace ++ [(onCtrlAckack cfg p.loop.globals pkt std sys).1] } := by
  have spec := AckWindow.acknowledge_held h.bounds pkt.ackno.toInt32 std sys
  obtain ⟨found, matched, rows⟩ := h.rows
  refine { h with
    globals := by rw [← h.globals]; rfl
    receiver := rfl
    bounds := (Session.handle_spec cfg h.bounds cause pkt std sys).1
    rows := ?_ }
  rw [← h.globals]
  refine ⟨found ++ [(s.newMatch cause pkt std sys).head?], ?_, List.rel_append rows (.cons ?_ .nil)⟩
  · change s.matched ++ s.newMatch cause pkt std sys = _
    rw [List.reduceOption_append, matched, Session.newMatch]
    cases s.liveRecord pkt.ackno with
    | none => rfl
    | some entry => rfl
  · rw [Session.newMatch, Session.liveRecord]
    cases live : BoundedFifo.takeThrough (fun e => pkt.ackno.toInt32 == e.ackno)
        s.globals.path.ackRecords.held with
    | none =>
      rw [live] at spec
      dsimp only at spec
      change (s.globals.path.ackRecords.acknowledge pkt.ackno.toInt32 std sys).1.rttStd = -1 ∧
        (s.globals.path.ackRecords.acknowledge pkt.ackno.toInt32 std sys).1.rttSys = -1
      rw [spec]
      exact ⟨rfl, rfl⟩
    | some hit => exact ⟨rfl, rfl, rfl, rfl⟩

/-- The receiving thread handles an ACKACK or anything else. -/
theorem react (h : s.Mirrors p) {bytesRead : Nat} {srcAddr : Addr} {std sys sys' : Int}
    {reaction : Reaction Addr} {loop : ReplyLoop Addr}
    (stamped : p.receiving = .stamped bytesRead srcAddr std sys)
    (handled : p.handle cfg bytesRead srcAddr ⟨std, sys, p.clock, sys'⟩ = (reaction, loop)) :
    ∃ t, s.Leads cfg t ∧
      t.Mirrors { p with loop, receiving := .waiting, trace := p.trace ++ reaction.row.toList } ∧
      s.Within t := by
  have phase := h.receiver
  rw [Peer.ackack, stamped] at phase
  dsimp only at phase
  rcases Peer.handle_cases handled with
    ⟨-, other, -, row, rfl⟩ | ⟨⟨-, is⟩, row, -, rfl⟩ | ⟨holds, -, row, rfl⟩
  · rw [if_neg other] at phase
    rw [row, Option.toList_none, List.append_nil]
    exact ({ h with receiver := phase } : s.Mirrors { p with receiving := .waiting }).stay cfg
  · rw [if_neg fun holds => by cases is.unique holds.2] at phase
    rw [row, Option.toList_none, List.append_nil]
    exact ({ h with receiver := phase } : s.Mirrors { p with
      loop.dstAddr := some (p.loop.dstAddr.getD srcAddr), receiving := .waiting }).stay cfg
  · rw [if_pos holds] at phase
    rw [row]
    cases receiver : s.receiver with
    | stamped cause pkt std' sys'' =>
      rw [receiver] at phase
      obtain ⟨rfl, readings⟩ := Prod.mk.inj (Option.some.inj phase)
      obtain ⟨rfl, rfl⟩ := Prod.mk.inj (Option.some.inj readings)
      refine ⟨_, Reachability.Reaches.single (i := .acknowledge) trivial ?_,
        h.handled cause (.ofBase (p.pkt bytesRead)) std' sys'', fun _ hd => hd, fun _ hd => hd⟩
      rw [Session.step, receiver]
    | _ =>
      rw [receiver] at phase
      cases phase

/-- Whatever the process does by itself, the session can do too. -/
theorem act (h : s.Mirrors p) {a : Action} {out : Option (Addr × List UInt8)} {q : Peer Addr}
    (step : Peer.Step cfg p a out q) :
    ∃ t, s.Leads cfg t ∧ t.Mirrors q ∧ s.Within t ∧
      ∀ d ∈ out, IsCtrl .ack 44 d.2 → ∃ k, ⟨k, d.2⟩ ∈ t.acks := by
  cases step with
  | @tick std later =>
    refine ⟨{ s with clock := std }, Reachability.Reaches.single (i := .tick std) trivial ?_,
      { h with clock := rfl }, ⟨fun _ hd => hd, fun _ hd => hd⟩, by simp⟩
    rw [Session.step, h.clock, if_pos later]
  | wait sends asleep unknown =>
    obtain ⟨t, leads, mirrors, within⟩ := h.stay cfg
    exact ⟨t, leads, mirrors, within, by simp⟩
  | send asleep known =>
    refine ⟨{ s.build true with sender := .sent (s.sent + 1) s.nextAck },
      Reachability.Reaches.single (i := .send) trivial ?_,
      { h.built true with sender := congrArg Sending.sent h.nextAck },
      ⟨fun _ hd => List.mem_append_left _ hd, fun _ hd => hd⟩, fun d hd _ => ?_⟩
    · rw [Session.step, h.idle asleep]
    · rw [← Option.some.inj hd, ← h.nextAck]
      exact ⟨s.sent + 1, List.mem_append_right _ (List.mem_singleton_self _)⟩
  | @sendShort out' dst asleep known =>
    refine ⟨s.build out', Reachability.Reaches.single (i := .sendShort out') trivial ?_,
      h.built out', ⟨fun _ hd => ?_, fun _ hd => hd⟩, fun d hd _ => ?_⟩
    · rw [Session.step, h.idle asleep]
    · cases out' with
      | false => exact hd
      | true => exact List.mem_append_left _ hd
    · cases out' with
      | false => cases hd
      | true =>
        rw [← Option.some.inj hd, ← h.nextAck]
        exact ⟨s.sent + 1, List.mem_append_right _ (List.mem_singleton_self _)⟩
  | @stampSend sys pkt sent =>
    have phase := h.sender.trans sent
    cases sender : s.sender with
    | sent cause pkt' =>
      rw [sender] at phase
      obtain rfl : pkt' = pkt := by injection phase
      refine ⟨{ s with sender := .stamped cause pkt' s.clock sys },
        Reachability.Reaches.single (i := .stampSend sys) trivial ?_, { h with sender := ?_ },
        ⟨fun _ hd => hd, fun _ hd => hd⟩, by simp⟩
      · rw [Session.step, sender]
      · rw [h.clock]
        rfl
    | _ =>
      rw [sender] at phase
      cases phase
  | @store pkt std sys stamped =>
    have phase := h.sender.trans stamped
    cases sender : s.sender with
    | stamped cause pkt' std' sys' =>
      rw [sender] at phase
      injection phase with samePkt sameStd sameSys
      subst samePkt sameStd sameSys
      refine ⟨s.storeRecord cause pkt' std' sys',
        Reachability.Reaches.single (i := .store) trivial ?_,
        { h with
          globals := by rw [Session.storeRecord, h.globals]; rfl
          stored := by rw [Session.storeRecord, List.map_append, h.stored]; rfl
          sender := rfl
          bounds := AckWindow.store_inBounds h.bounds .. },
        ⟨fun _ hd => hd, fun _ hd => hd⟩, by simp⟩
      rw [Session.step, sender]
    | _ =>
      rw [sender] at phase
      cases phase
  | stampRecv received =>
    obtain ⟨t, leads, mirrors, within⟩ := h.stampRecv cfg received
    exact ⟨t, leads, mirrors, within, by simp⟩
  | react stamped handled =>
    obtain ⟨t, leads, mirrors, within⟩ := h.react stamped handled
    refine ⟨t, leads, mirrors, within, fun d hd ack => ?_⟩
    rcases Peer.handle_cases handled with ⟨-, -, reply, -⟩ | ⟨-, -, reply, -⟩ | ⟨-, reply, -⟩
    · rw [reply] at hd
      cases hd
    · rw [reply] at hd
      rw [← Option.some.inj hd] at ack
      have answer := (onCtrlAck_isCtrl ..).type.symm.trans ack.type
      cases answer
    · rw [reply] at hd
      cases hd

/-- The process receives an ACK, which is no concern of the session, or an ACKACK that is
on its way there. -/
theorem receive (h : s.Mirrors p) {d : Packet Addr} {q : Peer Addr}
    (received : p.receive d.bytes d.src = some q) (held : Network.InBuffer d q)
    (form : IsCtrl .ack 44 d.bytes ∨
      IsCtrl .ackack 20 d.bytes ∧ ∃ k, ⟨k, d.bytes⟩ ∈ s.ackacks) :
    ∃ t, s.Leads cfg t ∧ t.Mirrors q ∧ s.Within t := by
  obtain ⟨waiting, filled⟩ := Peer.receive_eq received
  have mirrors (t : Session) (same : t = { s with receiver := t.receiver })
      (receiver : t.receiver.forget = q.ackack) : t.Mirrors q := by
    rw [filled] at receiver ⊢
    rw [same]
    exact { h with receiver := receiver }
  have ackack_eq : q.ackack = if q.Holds d.bytes.length .ackack then
      some (.ofBase (q.pkt d.bytes.length), none) else none := by
    have size : (recvInto p.loop.buffer d.bytes).1 = d.bytes.length := by
      rw [filled] at held
      exact congrArg Prod.fst (Option.some.inj held.1)
    rw [filled, size]
    rfl
  have phase := h.receiver
  rw [Peer.ackack, waiting] at phase
  dsimp only at phase
  rcases form with ack | ⟨ackack, k, sent⟩
  · have other := (held.holds_iff ack (by decide) .ackack).not.mpr (by decide)
    rw [if_neg other] at ackack_eq
    exact (mirrors s rfl (phase.trans ackack_eq.symm)).stay cfg
  · have holds := (held.holds_iff ackack (by decide) .ackack).mpr rfl
    obtain ⟨rest, content⟩ := held.2
    obtain ⟨i, found⟩ := List.mem_iff_getElem?.mp sent
    cases receiver : s.receiver with
    | waiting =>
      refine ⟨s.take ⟨k, d.bytes⟩ rest,
        Reachability.Reaches.single (i := .receive i rest) trivial ?_, mirrors _ rfl ?_,
        fun _ hd => hd, fun _ hd => hd⟩
      · rw [Session.step, receiver]
        dsimp only
        rw [found]
        rfl
      · rw [ackack_eq, if_pos holds, Peer.pkt, content]
        rfl
    | _ =>
      rw [receiver] at phase
      cases phase

end Session.Mirrors

/-- The other process answers an ACK of the session. -/
theorem Session.answered (cfg : Config) {s : Session} {k : Nat} {bytes : List UInt8}
    (sent : ⟨k, bytes⟩ ∈ s.acks) (rest : List UInt8) (peer : Globals) (std sys : Int) :
    ∃ t, s.Leads cfg t ∧ (∀ {Addr : Type} (p : Peer Addr), s.Mirrors p → t.Mirrors p) ∧
      s.Within t ∧
      ⟨k, onCtrlAck peer (.ofBase (.ofView ⟨bytes ++ rest, bytes.length⟩)) std sys⟩ ∈
        t.ackacks := by
  obtain ⟨i, found⟩ := List.mem_iff_getElem?.mp sent
  refine ⟨s.answer ⟨k, bytes⟩ rest peer std sys,
    Reachability.Reaches.single (i := .reply i rest peer std sys) trivial ?_,
    fun p mirrors => { mirrors with }, ⟨fun _ hd => hd, fun _ hd => List.mem_append_left _ hd⟩,
    List.mem_append_right _ (List.mem_singleton_self _)⟩
  rw [Session.step, found]
  rfl

end DriftTracing.Protocol
