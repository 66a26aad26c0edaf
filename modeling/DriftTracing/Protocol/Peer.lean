import DriftTracing.Guarantees.ReplyRuns

/-!
# One process

The two threads of `run`, app/start.cpp:44-96, 147-194 and 209-243, step by step and in
any order. The destination is atomic and the path is locked, so what a thread does
to them is one event each; building an ACK is one event with sending it. The steady
clock never goes back; the system clock reads anything. `recvfrom` is the end of the
network at which datagrams come in.

`trace` is the trace file; `built` counts the ACKs and `stored` keeps the records of
those that were sent in full. No step looks at these two.
-/
namespace DriftTracing.Protocol
open DriftTracing.Source

/-- `ack_sending_loop`: between two ACKs, or with an ACK that was sent in full and is
not stored yet, before and after it read the clocks. -/
inductive Sending where
  | sleeping
  | sent (pkt : PktAck)
  | stamped (pkt : PktAck) (sendTimeStd sendTimeSys : Int)
  deriving DecidableEq, Repr

/-- `ack_reply_loop`: in `recvfrom`, or with a datagram in the buffer, before and after
it read the clocks. -/
inductive Receiving (Addr : Type) where
  | waiting
  | received (bytesRead : Nat) (srcAddr : Addr)
  | stamped (bytesRead : Nat) (srcAddr : Addr) (recvTimeStd recvTimeSys : Int)
  deriving DecidableEq, Repr

structure Peer (Addr : Type) where
  loop : ReplyLoop Addr
  ackno : UInt32 := 1
  sending : Sending := .sleeping
  receiving : Receiving Addr := .waiting
  clock : Int
  trace : List TraceRow := []
  built : Nat := 0
  stored : List Entry := []
  deriving DecidableEq

/-- What a process does by itself. -/
inductive Action where
  /-- Time passes. -/
  | tick (std : Int)
  /-- The sending thread wakes up; what it sends is sent in full. -/
  | send
  /-- The sending thread wakes up; the send comes up short, and the ACK may be out
  nevertheless. -/
  | sendShort (out : Bool)
  /-- The sending thread reads the clocks. -/
  | stampSend (sys : Int)
  /-- The sending thread locks the path and stores the record. -/
  | store
  /-- The receiving thread reads the clocks. -/
  | stampRecv (sys : Int)
  /-- The receiving thread handles what it received; the system clock reads `sys`. -/
  | react (sys : Int)
  deriving DecidableEq, Repr

namespace Peer

variable {Addr : Type}

/-- The state in which `run` starts the threads. A process is started with a remote
address, or as a listener without one. -/
def start (remote : Option Addr) (startStd startSys : Int) : Peer Addr :=
  { loop :=
      { globals := { startTimeStd := startStd, startTimeSys := startSys }
        dstAddr := remote
        buffer := List.replicate mtuSize 0 }
    clock := startStd }

/-- The ACK the sending thread builds next. -/
def nextAck (p : Peer Addr) : PktAck := ackPacket p.loop.globals p.ackno p.clock

/-- An ACK takes its number whether or not it gets out. -/
def build (p : Peer Addr) : Peer Addr := { p with ackno := p.ackno + 1, built := p.built + 1 }

/-- The path is locked, and the record is stored. -/
def storeRecord (p : Peer Addr) (pkt : PktAck) (std sys : Int) : Peer Addr :=
  { p with
    loop.globals := storeAck p.loop.globals pkt std sys
    sending := .sleeping
    stored := p.stored ++ [⟨pkt.ackno.toInt32, pkt.ackseqno.toInt32, std, sys⟩] }

/-- The packet in the receive buffer. -/
def pkt (p : Peer Addr) (bytesRead : Nat) : PktBase := .ofView ⟨p.loop.buffer, bytesRead⟩

/-- A datagram reaches the socket while the receiving thread waits for it. -/
def receive (p : Peer Addr) (datagram : List UInt8) (srcAddr : Addr) : Option (Peer Addr) :=
  match p.receiving with
  | .waiting =>
    let (bytesRead, buffer) := recvInto p.loop.buffer datagram
    some { p with loop.buffer := buffer, receiving := .received bytesRead srcAddr }
  | _ => none

/-- What the receiving thread makes of the packet in its buffer. -/
def handle (cfg : Config) (p : Peer Addr) (bytesRead : Nat) (srcAddr : Addr) (t : Readings) :
    Reaction Addr × ReplyLoop Addr :=
  if bytesRead = 0 then ({ kind := .empty }, p.loop)
  else handlePkt cfg p.loop (p.pkt bytesRead) srcAddr t

/-- An action, and the datagram that goes out with it. -/
def step (cfg : Config) (p : Peer Addr) : Action → Option (Option (Addr × List UInt8) × Peer Addr)
  | .tick std => if p.clock ≤ std then some (none, { p with clock := std }) else none
  | .send =>
    match p.sending, p.loop.dstAddr with
    | .sleeping, some dst =>
      some (some (dst, p.nextAck.constBuf), { p.build with sending := .sent p.nextAck })
    | .sleeping, none => some (none, p)
    | _, _ => none
  | .sendShort out =>
    match p.sending, p.loop.dstAddr with
    | .sleeping, some dst => some (if out then some (dst, p.nextAck.constBuf) else none, p.build)
    | .sleeping, none => some (none, p)
    | _, _ => none
  | .stampSend sys =>
    match p.sending with
    | .sent pkt => some (none, { p with sending := .stamped pkt p.clock sys })
    | _ => none
  | .store =>
    match p.sending with
    | .stamped pkt std sys => some (none, p.storeRecord pkt std sys)
    | _ => none
  | .stampRecv sys =>
    match p.receiving with
    | .received bytesRead srcAddr =>
      some (none, { p with receiving := .stamped bytesRead srcAddr p.clock sys })
    | _ => none
  | .react sys' =>
    match p.receiving with
    | .stamped bytesRead srcAddr std sys =>
      let (reaction, loop) := p.handle cfg bytesRead srcAddr ⟨std, sys, p.clock, sys'⟩
      some (reaction.reply, { p with
        loop
        receiving := .waiting
        trace := p.trace ++ reaction.row.toList })
    | _ => none

/-- What an action needs and what it does. -/
inductive Step (cfg : Config) (p : Peer Addr) :
    Action → Option (Addr × List UInt8) → Peer Addr → Prop
  | tick {std : Int} (later : p.clock ≤ std) : Step cfg p (.tick std) none { p with clock := std }
  | wait {a : Action} (sends : a = .send ∨ ∃ out, a = .sendShort out)
      (asleep : p.sending = .sleeping) (unknown : p.loop.dstAddr = none) : Step cfg p a none p
  | send {dst : Addr} (asleep : p.sending = .sleeping) (known : p.loop.dstAddr = some dst) :
      Step cfg p .send (some (dst, p.nextAck.constBuf))
        { p.build with sending := .sent p.nextAck }
  | sendShort {out : Bool} {dst : Addr} (asleep : p.sending = .sleeping)
      (known : p.loop.dstAddr = some dst) :
      Step cfg p (.sendShort out) (if out then some (dst, p.nextAck.constBuf) else none) p.build
  | stampSend {sys : Int} {pkt : PktAck} (sent : p.sending = .sent pkt) :
      Step cfg p (.stampSend sys) none { p with sending := .stamped pkt p.clock sys }
  | store {pkt : PktAck} {std sys : Int} (stamped : p.sending = .stamped pkt std sys) :
      Step cfg p .store none (p.storeRecord pkt std sys)
  | stampRecv {sys : Int} {bytesRead : Nat} {srcAddr : Addr}
      (received : p.receiving = .received bytesRead srcAddr) :
      Step cfg p (.stampRecv sys) none
        { p with receiving := .stamped bytesRead srcAddr p.clock sys }
  | react {sys' : Int} {bytesRead : Nat} {srcAddr : Addr} {std sys : Int}
      {reaction : Reaction Addr} {loop : ReplyLoop Addr}
      (stamped : p.receiving = .stamped bytesRead srcAddr std sys)
      (handled : p.handle cfg bytesRead srcAddr ⟨std, sys, p.clock, sys'⟩ = (reaction, loop)) :
      Step cfg p (.react sys') reaction.reply
        { p with loop, receiving := .waiting, trace := p.trace ++ reaction.row.toList }

theorem step_cases {cfg : Config} {p q : Peer Addr} {a : Action} {out : Option (Addr × List UInt8)}
    (h : p.step cfg a = some (out, q)) : Step cfg p a out q := by
  cases a with
  | tick std =>
    by_cases later : p.clock ≤ std
    · simp only [step, if_pos later, Option.some.injEq, Prod.mk.injEq] at h
      obtain ⟨rfl, rfl⟩ := h
      exact .tick later
    · rw [step, if_neg later] at h
      cases h
  | send =>
    cases phase : p.sending with
    | sleeping =>
      cases dst : p.loop.dstAddr with
      | none =>
        simp only [step, phase, dst, Option.some.injEq, Prod.mk.injEq] at h
        obtain ⟨rfl, rfl⟩ := h
        exact .wait (Or.inl rfl) phase dst
      | some dst' =>
        simp only [step, phase, dst, Option.some.injEq, Prod.mk.injEq] at h
        obtain ⟨rfl, rfl⟩ := h
        exact .send phase dst
    | _ => simp [step, phase] at h
  | sendShort out' =>
    cases phase : p.sending with
    | sleeping =>
      cases dst : p.loop.dstAddr with
      | none =>
        simp only [step, phase, dst, Option.some.injEq, Prod.mk.injEq] at h
        obtain ⟨rfl, rfl⟩ := h
        exact .wait (Or.inr ⟨out', rfl⟩) phase dst
      | some dst' =>
        simp only [step, phase, dst, Option.some.injEq, Prod.mk.injEq] at h
        obtain ⟨rfl, rfl⟩ := h
        exact .sendShort phase dst
    | _ => simp [step, phase] at h
  | stampSend sys =>
    cases phase : p.sending with
    | sent pkt =>
      simp only [step, phase, Option.some.injEq, Prod.mk.injEq] at h
      obtain ⟨rfl, rfl⟩ := h
      exact .stampSend phase
    | _ => simp [step, phase] at h
  | store =>
    cases phase : p.sending with
    | stamped pkt std sys =>
      simp only [step, phase, Option.some.injEq, Prod.mk.injEq] at h
      obtain ⟨rfl, rfl⟩ := h
      exact .store phase
    | _ => simp [step, phase] at h
  | stampRecv sys =>
    cases phase : p.receiving with
    | received bytesRead srcAddr =>
      simp only [step, phase, Option.some.injEq, Prod.mk.injEq] at h
      obtain ⟨rfl, rfl⟩ := h
      exact .stampRecv phase
    | _ => simp [step, phase] at h
  | react sys' =>
    cases phase : p.receiving with
    | stamped bytesRead srcAddr std sys =>
      simp only [step, phase, Option.some.injEq, Prod.mk.injEq] at h
      obtain ⟨rfl, rfl⟩ := h
      exact .react phase rfl
    | _ => simp [step, phase] at h

/-- The loop takes what it received for a packet of the control type. -/
def Holds (p : Peer Addr) (bytesRead : Nat) (type : CtrlType) : Prop :=
  bytesRead ≠ 0 ∧ (p.pkt bytesRead).Is type

/-- The effects of a packet, for the packet in the buffer. -/
theorem handle_cases {cfg : Config} {p : Peer Addr} {bytesRead : Nat} {srcAddr : Addr}
    {t : Readings} {reaction : Reaction Addr} {loop : ReplyLoop Addr}
    (handled : p.handle cfg bytesRead srcAddr t = (reaction, loop)) :
    (¬ p.Holds bytesRead .ack ∧ ¬ p.Holds bytesRead .ackack ∧
        reaction.reply = none ∧ reaction.row = none ∧ loop = p.loop) ∨
      (p.Holds bytesRead .ack ∧ reaction.row = none ∧
        reaction.reply = some (p.loop.dstAddr.getD srcAddr,
          onCtrlAck p.loop.globals (.ofBase (p.pkt bytesRead)) t.replyTimeStd t.replyTimeSys) ∧
        loop = { p.loop with dstAddr := some (p.loop.dstAddr.getD srcAddr) }) ∨
      (p.Holds bytesRead .ackack ∧ reaction.reply = none ∧
        reaction.row = some (onCtrlAckack cfg p.loop.globals (.ofBase (p.pkt bytesRead))
          t.recvTimeStd t.recvTimeSys).1 ∧
        loop = { p.loop with
          globals := (onCtrlAckack cfg p.loop.globals (.ofBase (p.pkt bytesRead))
            t.recvTimeStd t.recvTimeSys).2 }) := by
  unfold handle at handled
  by_cases empty : bytesRead = 0
  · rw [if_pos empty, Prod.mk.injEq] at handled
    obtain ⟨rfl, rfl⟩ := handled
    exact Or.inl ⟨fun holds => holds.1 empty, fun holds => holds.1 empty, rfl, rfl, rfl⟩
  · rw [if_neg empty] at handled
    rcases handlePkt_cases handled with ⟨noAck, noAckack, rest⟩ | ⟨is, rest⟩ | ⟨is, rest⟩
    · exact Or.inl ⟨fun holds => noAck holds.2, fun holds => noAckack holds.2, rest⟩
    · exact Or.inr (Or.inl ⟨⟨empty, is⟩, rest⟩)
    · exact Or.inr (Or.inr ⟨⟨empty, is⟩, rest⟩)

/-- What is read off the socket is the sender's address; the rest of the process stays. -/
theorem receive_eq {p q : Peer Addr} {datagram : List UInt8} {srcAddr : Addr}
    (received : p.receive datagram srcAddr = some q) :
    p.receiving = .waiting ∧ q = { p with
      loop.buffer := (recvInto p.loop.buffer datagram).2
      receiving := .received (recvInto p.loop.buffer datagram).1 srcAddr } := by
  cases phase : p.receiving with
  | waiting =>
    simp only [receive, phase, Option.some.injEq] at received
    exact ⟨rfl, received.symm⟩
  | _ => simp [receive, phase] at received

/-- Undisturbed by the other thread, the receiving thread runs one iteration of
`ack_reply_loop`: what it sends, the row it traces and the state it leaves are those of
the whole iteration. -/
theorem iteration_eq (cfg : Config) {p q : Peer Addr} {datagram : List UInt8} {srcAddr : Addr}
    (received : p.receive datagram srcAddr = some q) (t : Readings) :
    ∃ bytesRead, q.receiving = .received bytesRead srcAddr ∧
      q.handle cfg bytesRead srcAddr t = ackReplyLoop cfg p.loop datagram srcAddr t := by
  obtain ⟨-, rfl⟩ := receive_eq received
  exact ⟨_, rfl, rfl⟩

end Peer

end DriftTracing.Protocol
