import DriftTracing.Guarantees.AckWindowFifo
import DriftTracing.Lib.Reachability
import DriftTracing.Source.Start

/-!
# A session between two peers

One peer runs the threads of `ack_sending_loop` and `ack_reply_loop`, step by step
and in any order; the other one answers ACKs with `on_ctrl_ack`. The network keeps
every datagram that was sent and delivers any of them at any time: datagrams are
lost, delayed, reordered and duplicated, but not altered. The steady clock never
goes back; the system clock reads anything.

`cause`, `sent`, `stored`, `matched` and `handled` record the history. No step looks at
them.
-/
namespace DriftTracing.Protocol
open DriftTracing.Lib DriftTracing.Source

/-- A datagram in the network. An ACK causes itself, an ACKACK is caused by the ACK
it answers; ACKs are counted from 1. -/
structure Datagram where
  cause : Nat
  bytes : List UInt8
  deriving DecidableEq, Repr

/-- The sending thread: between two ACKs, or with an ACK that is out but not stored
yet, before and after it read the clocks. -/
inductive Sender where
  | idle
  | sent (cause : Nat) (pkt : PktAck)
  | stamped (cause : Nat) (pkt : PktAck) (sendTimeStd sendTimeSys : Int)
  deriving DecidableEq, Repr

/-- The receiving thread: waiting, or with an ACKACK in its hands, before and after
it read the clocks. -/
inductive Receiver where
  | waiting
  | received (cause : Nat) (pkt : PktAckack)
  | stamped (cause : Nat) (pkt : PktAckack) (recvTimeStd recvTimeSys : Int)
  deriving DecidableEq, Repr

/-- An ACKACK for which `acknowledge` found a live record. -/
structure Match where
  cause : Nat
  entry : Entry
  rttPair : RttPair
  recvTimeStd : Int
  recvTimeSys : Int
  deriving DecidableEq, Repr

/-- An ACKACK that was handled, whatever came of it: the answer of `acknowledge`, and the
window before and after the call. -/
structure Handled where
  cause : Nat
  rttPair : RttPair
  before : AckWindow 1024
  after : AckWindow 1024
  deriving DecidableEq

/-- `acknowledge` found a record: it answered with an RTT, or it changed the window. -/
def Handled.found (r : Handled) : Bool := decide (r.rttPair ≠ RttPair.none ∨ r.after ≠ r.before)

structure Session where
  globals : Globals := {}
  ackno : UInt32 := 1
  sender : Sender := .idle
  receiver : Receiver := .waiting
  acks : List Datagram := []
  ackacks : List Datagram := []
  clock : Int := epoch
  sent : Nat := 0
  stored : List (Nat × Entry) := []
  matched : List Match := []
  handled : List Handled := []
  deriving DecidableEq

inductive Event where
  /-- Time passes. -/
  | tick (std : Int)
  /-- An ACK is built and sent in full. -/
  | send
  /-- An ACK is built and its send comes up short; it may be out nevertheless. -/
  | sendShort (out : Bool)
  /-- The sending thread reads the clocks. -/
  | stampSend (sys : Int)
  /-- The sending thread locks the path and stores the record. -/
  | store
  /-- The other peer, in any state, answers an ACK it received into any buffer. -/
  | reply (ack : Nat) (rest : List UInt8) (peer : Globals) (std sys : Int)
  /-- The receiving thread gets an ACKACK. -/
  | receive (ackack : Nat) (rest : List UInt8)
  /-- The receiving thread reads the clocks. -/
  | stampRecv (sys : Int)
  /-- The receiving thread locks the path and handles the ACKACK. -/
  | acknowledge
  deriving DecidableEq

namespace Session

/-- The state in which a peer starts. -/
def start (startStd startSys : Int) : Session :=
  { globals := { startTimeStd := startStd, startTimeSys := startSys }, clock := startStd }

/-- The record `acknowledge` finds for an ACK number. -/
def liveRecord (s : Session) (ackno : UInt32) : Option Entry :=
  (BoundedFifo.takeThrough (fun e => ackno.toInt32 == e.ackno)
    s.globals.path.ackRecords.held).map Prod.fst

/-- What an ACKACK that is handled adds to the history. -/
def newMatch (s : Session) (cause : Nat) (pkt : PktAckack) (std sys : Int) : List Match :=
  match s.liveRecord pkt.ackno with
  | some entry =>
    let rttPair := (s.globals.path.ackRecords.acknowledge pkt.ackno.toInt32 std sys).1
    [⟨cause, entry, rttPair, std, sys⟩]
  | none => []

/-- What `acknowledge` does with an ACKACK that is handled. -/
def newHandled (s : Session) (cause : Nat) (pkt : PktAckack) (std sys : Int) : Handled :=
  let window := s.globals.path.ackRecords
  let answer := window.acknowledge pkt.ackno.toInt32 std sys
  ⟨cause, answer.1, window, answer.2⟩

/-- The ACK the sending thread builds next. -/
def nextAck (s : Session) : PktAck := ackPacket s.globals s.ackno s.clock

/-- The next ACK is built; it takes a number whether or not it gets out. -/
def build (s : Session) (out : Bool) : Session :=
  { s with
    ackno := s.ackno + 1
    sent := s.sent + 1
    acks := if out then s.acks ++ [⟨s.sent + 1, s.nextAck.constBuf⟩] else s.acks }

def storeRecord (s : Session) (cause : Nat) (pkt : PktAck) (std sys : Int) : Session :=
  { s with
    globals := storeAck s.globals pkt std sys
    sender := .idle
    stored := s.stored ++ [(cause, ⟨pkt.ackno.toInt32, pkt.ackseqno.toInt32, std, sys⟩)] }

def answer (s : Session) (ack : Datagram) (rest : List UInt8) (peer : Globals) (std sys : Int) :
    Session :=
  let pkt := PktAck.ofBase (.ofView ⟨ack.bytes ++ rest, ack.bytes.length⟩)
  { s with ackacks := s.ackacks ++ [⟨ack.cause, onCtrlAck peer pkt std sys⟩] }

def take (s : Session) (ackack : Datagram) (rest : List UInt8) : Session :=
  let pkt := PktAckack.ofBase (.ofView ⟨ackack.bytes ++ rest, ackack.bytes.length⟩)
  { s with receiver := .received ackack.cause pkt }

def handle (cfg : Config) (s : Session) (cause : Nat) (pkt : PktAckack) (std sys : Int) : Session :=
  { s with
    globals := (onCtrlAckack cfg s.globals pkt std sys).2
    receiver := .waiting
    matched := s.matched ++ s.newMatch cause pkt std sys
    handled := s.handled ++ [s.newHandled cause pkt std sys] }

def step (cfg : Config) (s : Session) : Event → Option Session
  | .tick std => if s.clock ≤ std then some { s with clock := std } else none
  | .send =>
    match s.sender with
    | .idle => some { s.build true with sender := .sent (s.sent + 1) s.nextAck }
    | _ => none
  | .sendShort out =>
    match s.sender with
    | .idle => some (s.build out)
    | _ => none
  | .stampSend sys =>
    match s.sender with
    | .sent cause pkt => some { s with sender := .stamped cause pkt s.clock sys }
    | _ => none
  | .store =>
    match s.sender with
    | .stamped cause pkt std sys => some (s.storeRecord cause pkt std sys)
    | _ => none
  | .reply ack rest peer std sys => (s.acks[ack]?).map fun d => s.answer d rest peer std sys
  | .receive ackack rest =>
    match s.receiver with
    | .waiting => (s.ackacks[ackack]?).map fun d => s.take d rest
    | _ => none
  | .stampRecv sys =>
    match s.receiver with
    | .received cause pkt => some { s with receiver := .stamped cause pkt s.clock sys }
    | _ => none
  | .acknowledge =>
    match s.receiver with
    | .stamped cause pkt std sys => some (s.handle cfg cause pkt std sys)
    | _ => none

/-- What an event needs and what it does. -/
inductive Step (cfg : Config) (s : Session) : Event → Session → Prop
  | tick {std : Int} (later : s.clock ≤ std) : Step cfg s (.tick std) { s with clock := std }
  | send (idle : s.sender = .idle) :
      Step cfg s .send { s.build true with sender := .sent (s.sent + 1) s.nextAck }
  | sendShort {out : Bool} (idle : s.sender = .idle) : Step cfg s (.sendShort out) (s.build out)
  | stampSend {cause : Nat} {pkt : PktAck} {sys : Int} (sent : s.sender = .sent cause pkt) :
      Step cfg s (.stampSend sys) { s with sender := .stamped cause pkt s.clock sys }
  | store {cause : Nat} {pkt : PktAck} {std sys : Int}
      (stamped : s.sender = .stamped cause pkt std sys) :
      Step cfg s .store (s.storeRecord cause pkt std sys)
  | reply {ack : Nat} {d : Datagram} {rest : List UInt8} {peer : Globals} {std sys : Int}
      (out : d ∈ s.acks) :
      Step cfg s (.reply ack rest peer std sys) (s.answer d rest peer std sys)
  | receive {ackack : Nat} {d : Datagram} {rest : List UInt8} (waiting : s.receiver = .waiting)
      (out : d ∈ s.ackacks) : Step cfg s (.receive ackack rest) (s.take d rest)
  | stampRecv {cause : Nat} {pkt : PktAckack} {sys : Int}
      (received : s.receiver = .received cause pkt) :
      Step cfg s (.stampRecv sys) { s with receiver := .stamped cause pkt s.clock sys }
  | acknowledge {cause : Nat} {pkt : PktAckack} {std sys : Int}
      (stamped : s.receiver = .stamped cause pkt std sys) :
      Step cfg s .acknowledge (s.handle cfg cause pkt std sys)

theorem step_cases {cfg : Config} {s t : Session} {e : Event} (h : s.step cfg e = some t) :
    Step cfg s e t := by
  cases e with
  | tick std =>
    by_cases later : s.clock ≤ std
    · rw [step, if_pos later, Option.some.injEq] at h
      exact h ▸ .tick later
    · rw [step, if_neg later] at h
      cases h
  | send =>
    cases phase : s.sender with
    | idle =>
      rw [step, phase] at h
      exact Option.some.inj h ▸ .send phase
    | _ => simp [step, phase] at h
  | sendShort out =>
    cases phase : s.sender with
    | idle =>
      rw [step, phase] at h
      exact Option.some.inj h ▸ .sendShort phase
    | _ => simp [step, phase] at h
  | stampSend sys =>
    cases phase : s.sender with
    | sent cause pkt =>
      rw [step, phase] at h
      exact Option.some.inj h ▸ .stampSend phase
    | _ => simp [step, phase] at h
  | store =>
    cases phase : s.sender with
    | stamped cause pkt std sys =>
      rw [step, phase] at h
      exact Option.some.inj h ▸ .store phase
    | _ => simp [step, phase] at h
  | reply ack rest peer std sys =>
    rw [step, Option.map_eq_some_iff] at h
    obtain ⟨d, out, rfl⟩ := h
    exact .reply (List.mem_of_getElem? out)
  | receive ackack rest =>
    cases phase : s.receiver with
    | waiting =>
      rw [step, phase] at h
      obtain ⟨d, out, rfl⟩ := Option.map_eq_some_iff.mp h
      exact .receive phase (List.mem_of_getElem? out)
    | _ => simp [step, phase] at h
  | stampRecv sys =>
    cases phase : s.receiver with
    | received cause pkt =>
      rw [step, phase] at h
      exact Option.some.inj h ▸ .stampRecv phase
    | _ => simp [step, phase] at h
  | acknowledge =>
    cases phase : s.receiver with
    | stamped cause pkt std sys =>
      rw [step, phase] at h
      exact Option.some.inj h ▸ .acknowledge phase
    | _ => simp [step, phase] at h

/-- A record is live for the number exactly when `acknowledge` finds one: what it takes
out of the window is not there any more. -/
theorem newHandled_found {s : Session} (bounds : s.globals.path.ackRecords.InBounds)
    (cause : Nat) (pkt : PktAckack) (std sys : Int) :
    (s.newHandled cause pkt std sys).found = (s.liveRecord pkt.ackno).isSome := by
  have spec := AckWindow.acknowledge_held bounds pkt.ackno.toInt32 std sys
  rw [liveRecord]
  cases live : BoundedFifo.takeThrough (fun e => pkt.ackno.toInt32 == e.ackno)
      s.globals.path.ackRecords.held with
  | none =>
    rw [live] at spec
    simp [newHandled, Handled.found, spec]
  | some hit =>
    obtain ⟨entry, newer⟩ := hit
    rw [live] at spec
    obtain ⟨-, -, rest⟩ := spec
    obtain ⟨older, split, -, -⟩ := BoundedFifo.takeThrough_eq_some.mp live
    have changed : (s.newHandled cause pkt std sys).after ≠
        (s.newHandled cause pkt std sys).before := by
      intro same
      have shorter := congrArg (fun w => (AckWindow.held w).length) same
      dsimp only [newHandled] at shorter
      rw [rest, split, List.length_append, List.length_cons] at shorter
      omega
    simp [Handled.found, changed]

/-- The history of the matches has the answer `acknowledge` gave. -/
theorem newMatch_answers {s : Session} (bounds : s.globals.path.ackRecords.InBounds)
    (cause : Nat) (pkt : PktAckack) (std sys : Int) :
    (s.newMatch cause pkt std sys).map (fun m => (m.cause, m.rttPair)) =
      ([s.newHandled cause pkt std sys].filter Handled.found).map
        fun r => (r.cause, r.rttPair) := by
  have found := newHandled_found bounds cause pkt std sys
  rw [newMatch]
  cases live : s.liveRecord pkt.ackno with
  | none =>
    rw [live] at found
    simp [found]
  | some entry =>
    rw [live, Option.isSome_some] at found
    rw [List.filter_cons_of_pos found]
    rfl

/-- Handling an ACKACK removes the oldest live record with its number together with
everything older, and adds that record to the matches; or it does neither. -/
theorem handle_spec (cfg : Config) {s : Session} (bounds : s.globals.path.ackRecords.InBounds)
    (cause : Nat) (pkt : PktAckack) (std sys : Int) :
    (s.handle cfg cause pkt std sys).globals.path.ackRecords.InBounds ∧
      ((∀ e ∈ s.globals.path.ackRecords.held, e.ackno ≠ pkt.ackno.toInt32) ∧
          (s.handle cfg cause pkt std sys).matched = s.matched ∧
          (s.handle cfg cause pkt std sys).globals.path.ackRecords.held =
            s.globals.path.ackRecords.held ∨
        ∃ older entry newer, s.globals.path.ackRecords.held = older ++ entry :: newer ∧
          entry.ackno = pkt.ackno.toInt32 ∧
          (s.handle cfg cause pkt std sys).matched =
            s.matched ++ [⟨cause, entry, entry.rtt std sys, std, sys⟩] ∧
          (s.handle cfg cause pkt std sys).globals.path.ackRecords.held = newer) := by
  have window := onCtrlAckack_ackRecords cfg s.globals pkt std sys
  have spec := AckWindow.acknowledge_held bounds pkt.ackno.toInt32 std sys
  simp only [handle, newMatch, liveRecord, window]
  cases found : BoundedFifo.takeThrough (fun e => pkt.ackno.toInt32 == e.ackno)
      s.globals.path.ackRecords.held with
  | none =>
    rw [found] at spec
    dsimp only at spec ⊢
    rw [spec]
    refine ⟨bounds, Or.inl ⟨fun e he number => ?_, List.append_nil _, rfl⟩⟩
    have differs := BoundedFifo.takeThrough_eq_none.mp found e he
    exact absurd number.symm (by simpa using differs)
  | some hit =>
    obtain ⟨entry, newer⟩ := hit
    rw [found] at spec
    obtain ⟨result, bounds', rest⟩ := spec
    obtain ⟨older, split, -, number⟩ := BoundedFifo.takeThrough_eq_some.mp found
    refine ⟨bounds', Or.inr ⟨older, entry, newer, split, (eq_of_beq number).symm, ?_, rest⟩⟩
    simp only [Option.map_some, result]

end Session

end DriftTracing.Protocol
