import DriftTracing.Guarantees.DatagramReaction
import DriftTracing.Lib.Runs

/-!
# Runs of the receiving thread

`ack_reply_loop` over any sequence of datagrams from anyone, as long as each of them
covers what its type makes the loop read. The loop is two machines in one: the ACKs
alone decide what it sends and to whom, the ACKACKs alone what it measures and traces,
and nothing else has an effect.
-/
namespace DriftTracing.Source
open DriftTracing.Lib

/-- A control packet of the type. -/
def PktBase.Is (p : PktBase) (type : CtrlType) : Prop := p.isCtrl = true ∧ p.controlType = type

instance (p : PktBase) (type : CtrlType) : Decidable (p.Is type) :=
  inferInstanceAs (Decidable (_ ∧ _))

theorem PktBase.Is.unique {p : PktBase} {type type' : CtrlType} (h : p.Is type)
    (h' : p.Is type') : type = type' :=
  h.2.symm.trans h'.2

/-- An ACK is answered and may set the destination, an ACKACK changes the globals and is
traced, and nothing else has an effect. -/
theorem handlePkt_cases {Addr : Type} {cfg : Config} {l l' : ReplyLoop Addr} {p : PktBase}
    {srcAddr : Addr} {t : Readings} {reaction : Reaction Addr}
    (handled : handlePkt cfg l p srcAddr t = (reaction, l')) :
    (¬ p.Is .ack ∧ ¬ p.Is .ackack ∧ reaction.reply = none ∧ reaction.row = none ∧ l' = l) ∨
      (p.Is .ack ∧ reaction.row = none ∧
        reaction.reply = some (l.dstAddr.getD srcAddr,
          onCtrlAck l.globals (.ofBase p) t.replyTimeStd t.replyTimeSys) ∧
        l' = { l with dstAddr := some (l.dstAddr.getD srcAddr) }) ∨
      (p.Is .ackack ∧ reaction.reply = none ∧
        reaction.row = some (onCtrlAckack cfg l.globals (.ofBase p) t.recvTimeStd
          t.recvTimeSys).1 ∧
        l' = { l with
          globals := (onCtrlAckack cfg l.globals (.ofBase p) t.recvTimeStd t.recvTimeSys).2 }) := by
  cases ctrl : p.isCtrl with
  | false =>
    simp only [handlePkt, ctrl, Bool.not_false, if_true, Prod.mk.injEq] at handled
    obtain ⟨rfl, rfl⟩ := handled
    exact Or.inl ⟨by simp [PktBase.Is, ctrl], by simp [PktBase.Is, ctrl], rfl, rfl, rfl⟩
  | true =>
    simp only [handlePkt, ctrl, Bool.not_true, Bool.false_eq_true, if_false] at handled
    cases type : p.controlType with
    | ack =>
      simp only [type, Prod.mk.injEq] at handled
      obtain ⟨rfl, rfl⟩ := handled
      exact Or.inr (Or.inl ⟨⟨ctrl, type⟩, rfl, rfl, rfl⟩)
    | ackack =>
      simp only [type, Prod.mk.injEq] at handled
      obtain ⟨rfl, rfl⟩ := handled
      exact Or.inr (Or.inr ⟨⟨ctrl, type⟩, rfl, rfl, rfl⟩)
    | _ =>
      simp only [type, Prod.mk.injEq] at handled
      obtain ⟨rfl, rfl⟩ := handled
      exact Or.inl ⟨by simp [PktBase.Is, type], by simp [PktBase.Is, type], rfl, rfl, rfl⟩

/-- A datagram that covers its fields is taken for what it is over every buffer. -/
theorem is_received {buffer datagram : List UInt8} (length : buffer.length = mtuSize)
    (some_byte : datagram ≠ []) (covers : Covers datagram) {type : CtrlType}
    (valid : type ≠ .invalid) : (received buffer datagram).Is type ↔ (alone datagram).Is type := by
  unfold PktBase.Is
  rw [isCtrl_received length some_byte]
  rcases Nat.lt_or_ge 1 datagram.length with several | single
  · rw [controlType_received length several]
  · obtain ⟨b, rfl⟩ : ∃ b, datagram = [b] := by
      apply List.length_eq_one_iff.mp
      have := List.length_pos_of_ne_nil some_byte
      omega
    -- a single byte is a control packet of no type, with or without the buffer behind it
    constructor
    · rintro ⟨ctrl, read⟩
      obtain ⟨low, high, -⟩ := covers ctrl
      have invalid := controlType_received_single length
        ((isCtrl_received length some_byte).trans ctrl)
        (fun h => low (by rw [h])) (fun h => high (by rw [h]))
      exact absurd (read.symm.trans invalid) valid
    · rintro ⟨ctrl, read⟩
      obtain ⟨low, high, -⟩ := covers ctrl
      have invalid := controlType_of_first ctrl (fun h => low (congrArg (fun c => [c]) h))
        (fun h => high (congrArg (fun c => [c]) h))
      exact absurd (read.symm.trans invalid) valid

/-- What arrives: a datagram that covers what its type makes the loop read, the row of
the trace included, its sender, and the clock readings of the iteration. -/
structure Arrival (Addr : Type) where
  datagram : List UInt8
  srcAddr : Addr
  readings : Readings
  covers : Covers datagram
  row : (alone datagram).Is .ackack → 20 ≤ datagram.length

namespace Arrival

variable {Addr : Type}

def isAck (a : Arrival Addr) : Bool := (alone a.datagram).Is .ack

def isAckack (a : Arrival Addr) : Bool := (alone a.datagram).Is .ackack

/-- The number of the ACK. -/
def ackno (a : Arrival Addr) : UInt32 := (PktAck.ofBase (alone a.datagram)).ackno

end Arrival

variable {Addr : Type}

/-- An iteration of the loop. -/
def iterate (cfg : Config) (l : ReplyLoop Addr) (a : Arrival Addr) :
    Reaction Addr × ReplyLoop Addr :=
  ackReplyLoop cfg l a.datagram a.srcAddr a.readings

/-- An ACKACK is handled by its number and its two timestamps. -/
theorem onCtrlAckack_row_congr (cfg : Config) (g : Globals) {ackpkt ackpkt' : PktAckack}
    (ackno : ackpkt.ackno = ackpkt'.ackno) (timestamp : ackpkt.timestamp = ackpkt'.timestamp)
    (timestampSys : ackpkt.timestampSys = ackpkt'.timestampSys) (std sys : Int) :
    onCtrlAckack cfg g ackpkt std sys = onCtrlAckack cfg g ackpkt' std sys := by
  unfold onCtrlAckack
  rw [ackno, timestamp, timestampSys]

/-- An iteration by what arrives, whatever the buffer held before. -/
theorem iterate_cases (cfg : Config) {l : ReplyLoop Addr} (buffer : l.buffer.length = mtuSize)
    (a : Arrival Addr) :
    (iterate cfg l a).2.buffer.length = mtuSize ∧
    ((¬ (alone a.datagram).Is .ack ∧ ¬ (alone a.datagram).Is .ackack ∧
        (iterate cfg l a).1.reply = none ∧ (iterate cfg l a).1.row = none ∧
        (iterate cfg l a).2.globals = l.globals ∧ (iterate cfg l a).2.dstAddr = l.dstAddr) ∨
      ((alone a.datagram).Is .ack ∧ (iterate cfg l a).1.row = none ∧
        (iterate cfg l a).1.reply = some (l.dstAddr.getD a.srcAddr,
          onCtrlAck l.globals (.ofBase (alone a.datagram)) a.readings.replyTimeStd
            a.readings.replyTimeSys) ∧
        (iterate cfg l a).2.globals = l.globals ∧
        (iterate cfg l a).2.dstAddr = some (l.dstAddr.getD a.srcAddr)) ∨
      ((alone a.datagram).Is .ackack ∧ (iterate cfg l a).1.reply = none ∧
        (iterate cfg l a).1.row = some (onCtrlAckack cfg l.globals (.ofBase (alone a.datagram))
          a.readings.recvTimeStd a.readings.recvTimeSys).1 ∧
        (iterate cfg l a).2.globals = (onCtrlAckack cfg l.globals (.ofBase (alone a.datagram))
          a.readings.recvTimeStd a.readings.recvTimeSys).2 ∧
        (iterate cfg l a).2.dstAddr = l.dstAddr)) := by
  generalize h : iterate cfg l a = r
  obtain ⟨reaction, l'⟩ := r
  have kept : (recvInto l.buffer a.datagram).2.length = mtuSize := by
    simp only [recvInto, List.length_append, List.length_take, List.length_drop]
    omega
  unfold iterate at h
  by_cases some_byte : a.datagram = []
  · have empty : (recvInto l.buffer a.datagram).1 = 0 := by
      rw [some_byte]
      simp [recvInto]
    simp only [ackReplyLoop, empty, if_true, Prod.mk.injEq] at h
    obtain ⟨rfl, rfl⟩ := h
    refine ⟨kept, Or.inl ⟨?_, ?_, rfl, rfl, rfl, rfl⟩⟩
    · rw [some_byte]
      decide
    · rw [some_byte]
      decide
  rw [ackReplyLoop_eq cfg l buffer some_byte] at h
  have field (f : PktField) (inside : f.address + f.width ≤ mtuSize)
      (covered : f.address + f.width ≤ a.datagram.length) :
      (received l.buffer a.datagram).getField f = (alone a.datagram).getField f :=
    getField_received buffer inside covered
  have ack : (received l.buffer a.datagram).Is .ack ↔ (alone a.datagram).Is .ack :=
    is_received buffer some_byte a.covers (by decide)
  have ackack : (received l.buffer a.datagram).Is .ackack ↔ (alone a.datagram).Is .ackack :=
    is_received buffer some_byte a.covers (by decide)
  rcases handlePkt_cases h with
    ⟨noAck, noAckack, reply, row, rfl⟩ | ⟨is, row, reply, rfl⟩ | ⟨is, reply, row, rfl⟩
  · exact ⟨kept, Or.inl ⟨ack.not.mp noAck, ackack.not.mp noAckack, reply, row, rfl, rfl⟩⟩
  · have is' := ack.mp is
    have number : (PktAck.ofBase (received l.buffer a.datagram)).ackno =
        (PktAck.ofBase (alone a.datagram)).ackno := by
      rw [PktAck.ackno_ofBase, PktAck.ackno_ofBase, field PktAck.fldAckno (by decide)
        ((a.covers is'.1).2.2.1 is'.2)]
    rw [onCtrlAck_congr _ number] at reply
    exact ⟨kept, Or.inr (Or.inl ⟨is', row, reply, rfl, rfl⟩)⟩
  · have is' := ackack.mp is
    have long := a.row is'
    have same : onCtrlAckack cfg l.globals (.ofBase (received l.buffer a.datagram))
          a.readings.recvTimeStd a.readings.recvTimeSys =
        onCtrlAckack cfg l.globals (.ofBase (alone a.datagram)) a.readings.recvTimeStd
          a.readings.recvTimeSys := by
      refine onCtrlAckack_row_congr cfg _ ?_ ?_ ?_ _ _
      · exact congrArg UInt32.ofNat
          (field PktAckack.fldAckno (by decide) (Nat.le_trans (by decide) long))
      · exact congrArg UInt32.ofNat
          (field PktBase.fldTimestamp (by decide) (Nat.le_trans (by decide) long))
      · exact congrArg UInt32.ofNat
          (field PktAckack.fldTimestampSys (by decide) (Nat.le_trans (by decide) long))
    dsimp only at row
    rw [same] at row
    refine ⟨kept, Or.inr (Or.inr ⟨is', reply, row, ?_, rfl⟩)⟩
    dsimp only
    rw [same]

/-- The loop over what arrives, one iteration after the other. -/
def runLoop (cfg : Config) (l : ReplyLoop Addr) (arrivals : List (Arrival Addr)) :
    List (Reaction Addr) × ReplyLoop Addr :=
  Runs.run (iterate cfg) l arrivals

/-- The loop before the first iteration. -/
def startLoop (g : Globals) (dstAddr : Option Addr) : ReplyLoop Addr :=
  ⟨g, dstAddr, List.replicate mtuSize 0⟩

def replies (reactions : List (Reaction Addr)) : List (Addr × List UInt8) :=
  reactions.filterMap Reaction.reply

def rows (reactions : List (Reaction Addr)) : List TraceRow := reactions.filterMap Reaction.row

/-! ## Two machines -/

/-- All that an answer depends on. -/
structure SameAnswers (l l' : ReplyLoop Addr) : Prop where
  dstAddr : l.dstAddr = l'.dstAddr
  startTimeStd : l.globals.startTimeStd = l'.globals.startTimeStd
  startTimeSys : l.globals.startTimeSys = l'.globals.startTimeSys
  buffer : l.buffer.length = mtuSize
  buffer' : l'.buffer.length = mtuSize

/-- All that a row depends on. -/
structure SameMeasures (l l' : ReplyLoop Addr) : Prop where
  globals : l.globals = l'.globals
  buffer : l.buffer.length = mtuSize
  buffer' : l'.buffer.length = mtuSize

theorem onCtrlAck_startTimes {g g' : Globals} (std : g.startTimeStd = g'.startTimeStd)
    (sys : g.startTimeSys = g'.startTimeSys) (ackpkt : PktAck) (nowStd nowSys : Int) :
    onCtrlAck g ackpkt nowStd nowSys = onCtrlAck g' ackpkt nowStd nowSys := by
  unfold onCtrlAck getTimestampStd getTimestampSys
  rw [std, sys]

theorem SameAnswers.keep (cfg : Config) {l l' : ReplyLoop Addr} (h : SameAnswers l l')
    {a : Arrival Addr} (ack : a.isAck = true) :
    (iterate cfg l a).1.reply = (iterate cfg l' a).1.reply ∧
      SameAnswers (iterate cfg l a).2 (iterate cfg l' a).2 := by
  have is := of_decide_eq_true ack
  obtain ⟨buffer, ⟨no, -⟩ | ⟨-, -, reply, globals, dst⟩ | ⟨is', -⟩⟩ := iterate_cases cfg h.buffer a
  · exact absurd is no
  · obtain ⟨buffer', ⟨no, -⟩ | ⟨-, -, reply', globals', dst'⟩ | ⟨is', -⟩⟩ :=
      iterate_cases cfg h.buffer' a
    · exact absurd is no
    · rw [reply, reply', h.dstAddr, onCtrlAck_startTimes h.startTimeStd h.startTimeSys]
      refine ⟨rfl, ?_, ?_, ?_, buffer, buffer'⟩
      · rw [dst, dst', h.dstAddr]
      · rw [globals, globals', h.startTimeStd]
      · rw [globals, globals', h.startTimeSys]
    · cases is.unique is'
  · cases is.unique is'

theorem SameAnswers.skip (cfg : Config) {l l' : ReplyLoop Addr} (h : SameAnswers l l')
    {a : Arrival Addr} (other : a.isAck = false) :
    (iterate cfg l a).1.reply = none ∧ SameAnswers (iterate cfg l a).2 l' := by
  have no := of_decide_eq_false other
  obtain ⟨buffer, ⟨-, -, reply, -, globals, dst⟩ | ⟨is, -⟩ | ⟨-, reply, -, globals, dst⟩⟩ :=
    iterate_cases cfg h.buffer a
  · refine ⟨reply, dst.trans h.dstAddr, ?_, ?_, buffer, h.buffer'⟩
    · rw [globals, h.startTimeStd]
    · rw [globals, h.startTimeSys]
  · exact absurd is no
  · refine ⟨reply, dst.trans h.dstAddr, ?_, ?_, buffer, h.buffer'⟩
    · rw [globals]
      exact h.startTimeStd
    · rw [globals]
      exact h.startTimeSys

theorem SameMeasures.keep (cfg : Config) {l l' : ReplyLoop Addr} (h : SameMeasures l l')
    {a : Arrival Addr} (ackack : a.isAckack = true) :
    (iterate cfg l a).1.row = (iterate cfg l' a).1.row ∧
      SameMeasures (iterate cfg l a).2 (iterate cfg l' a).2 := by
  have is := of_decide_eq_true ackack
  obtain ⟨buffer, ⟨-, no, -⟩ | ⟨is', -⟩ | ⟨-, -, row, globals, -⟩⟩ := iterate_cases cfg h.buffer a
  · exact absurd is no
  · cases is.unique is'
  · obtain ⟨buffer', ⟨-, no, -⟩ | ⟨is', -⟩ | ⟨-, -, row', globals', -⟩⟩ :=
      iterate_cases cfg h.buffer' a
    · exact absurd is no
    · cases is.unique is'
    · rw [row, row', h.globals]
      exact ⟨rfl, by rw [globals, globals', h.globals], buffer, buffer'⟩

theorem SameMeasures.skip (cfg : Config) {l l' : ReplyLoop Addr} (h : SameMeasures l l')
    {a : Arrival Addr} (other : a.isAckack = false) :
    (iterate cfg l a).1.row = none ∧ SameMeasures (iterate cfg l a).2 l' := by
  have no := of_decide_eq_false other
  obtain ⟨buffer, ⟨-, -, -, row, globals, -⟩ | ⟨-, row, -, globals, -⟩ | ⟨is, -⟩⟩ :=
    iterate_cases cfg h.buffer a
  · exact ⟨row, globals.trans h.globals, buffer, h.buffer'⟩
  · exact ⟨row, globals.trans h.globals, buffer, h.buffer'⟩
  · exact absurd is no

/-- What the loop sends, and to whom, is what it would send if only the ACKs arrived;
what it measures and traces is what it would if only the ACKACKs did. This holds for
every sequence of datagrams, from whatever senders. -/
theorem loop_is_two_machines (cfg : Config) (g : Globals) (dstAddr : Option Addr)
    (arrivals : List (Arrival Addr)) :
    (replies (runLoop cfg (startLoop g dstAddr) arrivals).1 =
        replies (runLoop cfg (startLoop g dstAddr) (arrivals.filter Arrival.isAck)).1 ∧
      (runLoop cfg (startLoop g dstAddr) arrivals).2.dstAddr =
        (runLoop cfg (startLoop g dstAddr) (arrivals.filter Arrival.isAck)).2.dstAddr) ∧
    rows (runLoop cfg (startLoop g dstAddr) arrivals).1 =
        rows (runLoop cfg (startLoop g dstAddr) (arrivals.filter Arrival.isAckack)).1 ∧
      (runLoop cfg (startLoop g dstAddr) arrivals).2.globals =
        (runLoop cfg (startLoop g dstAddr) (arrivals.filter Arrival.isAckack)).2.globals := by
  have zeros : (startLoop g dstAddr).buffer.length = mtuSize := List.length_replicate
  obtain ⟨sent, same⟩ := @Runs.run_filter _ _ _ _ (iterate cfg) Reaction.reply Arrival.isAck
    SameAnswers (fun _ _ _ h ack => h.keep cfg ack) (fun _ _ _ h other => h.skip cfg other)
    _ _ ⟨rfl, rfl, rfl, zeros, zeros⟩ arrivals
  obtain ⟨traced, same'⟩ := @Runs.run_filter _ _ _ _ (iterate cfg) Reaction.row Arrival.isAckack
    SameMeasures (fun _ _ _ h ackack => h.keep cfg ackack) (fun _ _ _ h other => h.skip cfg other)
    _ _ ⟨rfl, zeros, zeros⟩ arrivals
  exact ⟨⟨sent, same.dstAddr⟩, traced, same'.globals⟩

/-- ACK 5, an ACKACK of another sender, a keep-alive, and ACK 6 from that other sender. -/
def mixedArrivals : List (Arrival Nat) :=
  [{ datagram := [0x80, 2, 0, 0, 0, 0, 0, 5], srcAddr := 7, readings := ⟨0, 0, 3000, 4000⟩
     covers := by decide +kernel, row := by decide +kernel },
    { datagram := [0x80, 6, 0, 0, 0, 0, 0, 9, 0, 0, 3, 232, 0, 0, 0, 0, 0, 0, 7, 208]
      srcAddr := 8, readings := ⟨5000, 6000, 0, 0⟩
      covers := by decide +kernel, row := by decide +kernel },
    { datagram := [0x80, 1], srcAddr := 8, readings := ⟨0, 0, 0, 0⟩
      covers := by decide +kernel, row := by decide +kernel },
    { datagram := [0x80, 2, 0, 0, 0, 0, 0, 6], srcAddr := 8, readings := ⟨0, 0, 9000, 9000⟩
      covers := by decide +kernel, row := by decide +kernel }]

theorem loop_is_two_machines_mixed :
    mixedArrivals.map Arrival.isAck = [true, false, false, true] ∧
    mixedArrivals.map Arrival.isAckack = [false, true, false, false] ∧
    (replies (runLoop {} (startLoop {} none) mixedArrivals).1 =
        replies (runLoop {} (startLoop {} none) (mixedArrivals.filter Arrival.isAck)).1 ∧
      (runLoop {} (startLoop {} none) mixedArrivals).2.dstAddr =
        (runLoop {} (startLoop {} none) (mixedArrivals.filter Arrival.isAck)).2.dstAddr) ∧
    rows (runLoop {} (startLoop {} none) mixedArrivals).1 =
        rows (runLoop {} (startLoop {} none) (mixedArrivals.filter Arrival.isAckack)).1 ∧
      (runLoop {} (startLoop {} none) mixedArrivals).2.globals =
        (runLoop {} (startLoop {} none) (mixedArrivals.filter Arrival.isAckack)).2.globals :=
  ⟨by decide +kernel, by decide +kernel, loop_is_two_machines {} {} none mixedArrivals⟩

/-! ## One answer for each ACK -/

/-- The destination the loop ends with: the one it has, or the sender of the first ACK. -/
def destination (dstAddr : Option Addr) (arrivals : List (Arrival Addr)) : Option Addr :=
  dstAddr.or ((arrivals.find? Arrival.isAck).map Arrival.srcAddr)

/-- The number a peer reads in an answer. -/
def answerAckno (reply : List UInt8) : UInt32 := (PktAckack.ofBase (alone reply)).ackno

theorem answerAckno_onCtrlAck (g : Globals) (ackpkt : PktAck) (std sys : Int) :
    answerAckno (onCtrlAck g ackpkt std sys) = ackpkt.ackno := by
  have number := (onCtrlAck_reply g ackpkt std sys).2 [] (onCtrlAck g ackpkt std sys).length
  rw [List.append_nil] at number
  exact number

theorem destination_cons (dstAddr : Option Addr) {a : Arrival Addr} (arrivals : List (Arrival Addr))
    (ack : a.isAck = true) :
    destination (some (dstAddr.getD a.srcAddr)) arrivals = destination dstAddr (a :: arrivals) := by
  unfold destination
  rw [List.find?_cons_of_pos ack]
  cases dstAddr with
  | none => rfl
  | some dst => rfl

/-- Every ACK is answered once, in the order of arrival and with its number; all answers
go to one address, the destination the loop started with or else the sender of the first
ACK; and one row is traced for every ACKACK. -/
theorem acks_answered_in_order (cfg : Config) (g : Globals) (dstAddr : Option Addr)
    (arrivals : List (Arrival Addr)) :
    (replies (runLoop cfg (startLoop g dstAddr) arrivals).1).map
        (fun r => (some r.1, answerAckno r.2)) =
      (arrivals.filter Arrival.isAck).map (fun a => (destination dstAddr arrivals, a.ackno)) ∧
    (runLoop cfg (startLoop g dstAddr) arrivals).2.dstAddr = destination dstAddr arrivals ∧
    (rows (runLoop cfg (startLoop g dstAddr) arrivals).1).length =
      (arrivals.filter Arrival.isAckack).length := by
  have general : ∀ l : ReplyLoop Addr, l.buffer.length = mtuSize →
      (replies (runLoop cfg l arrivals).1).map (fun r => (some r.1, answerAckno r.2)) =
        (arrivals.filter Arrival.isAck).map (fun a => (destination l.dstAddr arrivals, a.ackno)) ∧
      (runLoop cfg l arrivals).2.dstAddr = destination l.dstAddr arrivals ∧
      (rows (runLoop cfg l arrivals).1).length = (arrivals.filter Arrival.isAckack).length := by
    induction arrivals with
    | nil =>
      intro l _
      refine ⟨rfl, ?_, rfl⟩
      change l.dstAddr = l.dstAddr.or none
      rw [Option.or_none]
    | cons a rest ih =>
      intro l buffer
      obtain ⟨buffer', effect⟩ := iterate_cases cfg buffer a
      obtain ⟨answers, last, traced⟩ := ih (iterate cfg l a).2 buffer'
      have run : runLoop cfg l (a :: rest) =
          ((iterate cfg l a).1 :: (runLoop cfg (iterate cfg l a).2 rest).1,
            (runLoop cfg (iterate cfg l a).2 rest).2) := rfl
      rw [run, replies, rows, List.filterMap_cons, List.filterMap_cons]
      dsimp only
      rcases effect with
        ⟨noAck, noAckack, reply, row, -, dst⟩ | ⟨is, row, reply, -, dst⟩ | ⟨is, reply, row, -, dst⟩
      · have other : ¬ a.isAck = true := by simpa [Arrival.isAck] using noAck
        have other' : ¬ a.isAckack = true := by simpa [Arrival.isAckack] using noAckack
        rw [reply, row, List.filter_cons_of_neg other, List.filter_cons_of_neg other', destination,
          List.find?_cons_of_neg other, ← dst]
        exact ⟨answers, last, traced⟩
      · have ack : a.isAck = true := decide_eq_true is
        have other : ¬ a.isAckack = true := fun h => by cases is.unique (of_decide_eq_true h)
        rw [reply, row, List.filter_cons_of_pos ack, List.filter_cons_of_neg other, List.map_cons,
          List.map_cons, ← destination_cons l.dstAddr rest ack, ← dst, answerAckno_onCtrlAck]
        refine ⟨congrArg₂ List.cons ?_ answers, last, traced⟩
        rw [dst]
        rfl
      · have other : ¬ a.isAck = true := fun h => by cases is.unique (of_decide_eq_true h)
        have ackack : a.isAckack = true := decide_eq_true is
        rw [reply, row, List.filter_cons_of_neg other, List.filter_cons_of_pos ackack, destination,
          List.find?_cons_of_neg other, ← dst, List.length_cons, List.length_cons]
        exact ⟨answers, last, congrArg (· + 1) traced⟩
  exact general (startLoop g dstAddr) List.length_replicate

/-- Both ACKs are answered to the sender of the first one. -/
theorem acks_answered_in_order_mixed :
    (replies (runLoop {} (startLoop {} none) mixedArrivals).1).map
        (fun r => (some r.1, answerAckno r.2)) = [(some 7, 5), (some 7, 6)] ∧
    (runLoop {} (startLoop {} none) mixedArrivals).2.dstAddr = some 7 ∧
    (rows (runLoop {} (startLoop {} none) mixedArrivals).1).length = 1 := by
  obtain ⟨answers, last, traced⟩ := acks_answered_in_order {} {} none mixedArrivals
  rw [answers, last, traced]
  decide +kernel

end DriftTracing.Source
