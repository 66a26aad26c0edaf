import DriftTracing.Guarantees.Replies

/-!
# What the reaction to a datagram depends on

`ack_reply_loop` reads every datagram through a view of its reused buffer, and no
accessor looks at the size of the view. This module compares iterations over the
same datagram that differ only in what earlier datagrams left in the buffer. They
have the same effect exactly when the datagram is long enough for the fields its
type makes the loop read.
-/
namespace DriftTracing.Source
open DriftTracing.Lib

/-- The same classification, the same reply to the same destination, and the same
globals and destination afterwards. -/
def SameEffect {Addr : Type} (r r' : Reaction Addr × ReplyLoop Addr) : Prop :=
  r.1.kind = r'.1.kind ∧ r.1.reply = r'.1.reply ∧ r.2.globals = r'.2.globals ∧
    r.2.dstAddr = r'.2.dstAddr

/-- The effect of the datagram is the same whatever the buffer held before. -/
def IgnoresBuffer (Addr : Type) (datagram : List UInt8) (srcAddr : Addr) : Prop :=
  ∀ (cfg : Config) (globals : Globals) (dstAddr : Option Addr) (t : Readings)
    (buffer buffer' : List UInt8), buffer.length = mtuSize → buffer'.length = mtuSize →
    SameEffect (ackReplyLoop cfg ⟨globals, dstAddr, buffer⟩ datagram srcAddr t)
      (ackReplyLoop cfg ⟨globals, dstAddr, buffer'⟩ datagram srcAddr t)

/-- The packet that the bytes of the datagram alone are, with zeros behind them. -/
def alone (datagram : List UInt8) : PktBase := .ofView ⟨datagram, datagram.length⟩

/-- The datagram covers its control type, the number of the ACK it is, and the
number and the timestamp of the ACKACK it is. A single byte covers the control
type when no second byte makes it a valid one. -/
def Covers (datagram : List UInt8) : Prop :=
  (alone datagram).isCtrl = true →
    datagram ≠ [0x80] ∧ datagram ≠ [0xFF] ∧
      ((alone datagram).controlType = .ack → 8 ≤ datagram.length) ∧
      ((alone datagram).controlType = .ackack → 12 ≤ datagram.length)

instance (datagram : List UInt8) : Decidable (Covers datagram) :=
  inferInstanceAs (Decidable (_ → _))

/-- What the loop reads of a packet decides its effect. -/
theorem handlePkt_sameEffect {Addr : Type} (cfg : Config) (l l' : ReplyLoop Addr) (p p' : PktBase)
    (srcAddr : Addr) (t : Readings) (globals : l.globals = l'.globals)
    (dstAddr : l.dstAddr = l'.dstAddr) (isCtrl : p.isCtrl = p'.isCtrl)
    (type : p.isCtrl = true → p.controlType = p'.controlType)
    (number : p.isCtrl = true → p.controlType = .ack ∨ p.controlType = .ackack →
      p.getField PktAck.fldAckno = p'.getField PktAck.fldAckno)
    (timestamp : p.isCtrl = true → p.controlType = .ackack → p.timestamp = p'.timestamp) :
    SameEffect (handlePkt cfg l p srcAddr t) (handlePkt cfg l' p' srcAddr t) := by
  unfold handlePkt
  rw [← isCtrl]
  cases ctrl : p.isCtrl with
  | false => exact ⟨rfl, rfl, globals, dstAddr⟩
  | true =>
    rw [← type ctrl]
    simp only [Bool.not_true, Bool.false_eq_true, if_false]
    cases read : p.controlType with
    | ack =>
      have same : (PktAck.ofBase p).ackno = (PktAck.ofBase p').ackno := by
        rw [PktAck.ackno_ofBase, PktAck.ackno_ofBase, number ctrl (Or.inl read)]
      dsimp only
      rw [globals, dstAddr, onCtrlAck_congr _ same]
      exact ⟨rfl, rfl, rfl, rfl⟩
    | ackack =>
      have same : (PktAckack.ofBase p).ackno = (PktAckack.ofBase p').ackno :=
        congrArg UInt32.ofNat (number ctrl (Or.inr read))
      have sent : (PktAckack.ofBase p).timestamp = (PktAckack.ofBase p').timestamp :=
        timestamp ctrl read
      dsimp only
      rw [globals, onCtrlAckack_congr cfg _ same sent]
      exact ⟨rfl, rfl, rfl, dstAddr⟩
    | _ => exact ⟨rfl, rfl, globals, dstAddr⟩

/-- The packet the loop makes of a datagram and a buffer. -/
def received (buffer datagram : List UInt8) : PktBase :=
  .ofView ⟨(recvInto buffer datagram).2, (recvInto buffer datagram).1⟩

theorem ackReplyLoop_eq {Addr : Type} (cfg : Config) (l : ReplyLoop Addr) {datagram : List UInt8}
    (buffer : l.buffer.length = mtuSize) (some_byte : datagram ≠ []) (srcAddr : Addr)
    (t : Readings) :
    ackReplyLoop cfg l datagram srcAddr t =
      handlePkt cfg { l with buffer := (recvInto l.buffer datagram).2 }
        (received l.buffer datagram) srcAddr t := by
  have positive : (recvInto l.buffer datagram).1 ≠ 0 := by
    have : 0 < datagram.length := List.length_pos_of_ne_nil some_byte
    have room : 0 < mtuSize := by decide
    rw [recvInto, List.length_take, buffer]
    omega
  unfold ackReplyLoop
  dsimp only
  rw [if_neg positive]
  rfl

/-- Byte by byte: the datagram, cut to the buffer, and behind it the old bytes. -/
theorem byteAt_received {buffer : List UInt8} (h : buffer.length = mtuSize)
    (datagram : List UInt8) {i : Nat} (inside : i < mtuSize) :
    ByteField.byteAt (received buffer datagram).view.data i =
      if i < datagram.length then ByteField.byteAt datagram i else ByteField.byteAt buffer i := by
  have length : (datagram.take mtuSize).length = min mtuSize datagram.length := List.length_take
  change ByteField.byteAt (recvInto buffer datagram).2 i = _
  rw [recvInto, h]
  dsimp only
  by_cases short : i < datagram.length
  · rw [if_pos short, ByteField.byteAt_append_left _ (by omega), ByteField.byteAt,
      List.getElem?_take_of_lt inside, ByteField.byteAt]
  · rw [if_neg short, ByteField.byteAt_append_right _ (by omega), ByteField.byteAt,
      List.getElem?_drop, length, ByteField.byteAt]
    congr 2
    omega

/-- A field inside the datagram reads as in the datagram alone. -/
theorem getField_received {buffer : List UInt8} (h : buffer.length = mtuSize)
    {datagram : List UInt8} {f : PktField} (inside : f.address + f.width ≤ mtuSize)
    (covered : f.address + f.width ≤ datagram.length) :
    (received buffer datagram).getField f = (alone datagram).getField f := by
  apply ByteField.read_eq_iff.mpr
  intro i hi
  rw [byteAt_received h datagram (by omega), if_pos (by omega)]
  rfl

/-- A buffer of zeros reads as the datagram alone, whatever the field. -/
theorem getField_received_zeros {datagram : List UInt8} {f : PktField}
    (inside : f.address + f.width ≤ mtuSize) :
    (received (List.replicate mtuSize 0) datagram).getField f = (alone datagram).getField f := by
  apply ByteField.read_eq_iff.mpr
  intro i hi
  rw [byteAt_received List.length_replicate datagram (by omega)]
  split
  · rfl
  · next behind =>
    change _ = ByteField.byteAt datagram (f.address + i)
    have zero : (List.replicate mtuSize (0 : UInt8))[f.address + i]? = some 0 :=
      List.getElem?_replicate_of_lt (by omega)
    have none_left : datagram[f.address + i]? = none := List.getElem?_eq_none (by omega)
    rw [ByteField.byteAt, ByteField.byteAt, zero, none_left]
    rfl

theorem ofValue_invalid {n : Nat} (above : 8 < n) (other : n ≠ 0x7FFF) :
    CtrlType.ofValue n = .invalid := by
  unfold CtrlType.ofValue
  split <;> first | omega | rfl

/-- The first byte without its highest bit, and the second byte. -/
theorem controlType_eq (p : PktBase) :
    p.controlType = CtrlType.ofValue (((ByteField.byteAt p.view.data 0).toNat * 256 +
      (ByteField.byteAt p.view.data 1).toNat) % 2 ^ 15) := by
  have word : p.getField PktBase.fldCtrltype = (ByteField.byteAt p.view.data 0).toNat * 256 +
      (ByteField.byteAt p.view.data 1).toNat := by
    change ByteField.read _ 0 (0 + 1 + 1) = _
    rw [ByteField.read_succ, ByteField.read_succ, ByteField.read_zero, pow_zero, pow_one,
      Nat.mul_one, Nat.add_zero]
  have mask : 0x7FFF = 2 ^ 15 - 1 := rfl
  rw [PktBase.controlType, word, Nat.and_comm, mask, Nat.and_two_pow_sub_one_eq_mod]

/-- No second byte makes a valid control type of a first byte between 0x81 and 0xFE. -/
theorem controlType_of_first {p : PktBase} (ctrl : p.isCtrl = true)
    (low : ByteField.byteAt p.view.data 0 ≠ 0x80) (high : ByteField.byteAt p.view.data 0 ≠ 0xFF) :
    p.controlType = .invalid := by
  have ctrl' := p.isCtrl_iff.mp ctrl
  have second := (ByteField.byteAt p.view.data 1).toNat_lt
  have first := (ByteField.byteAt p.view.data 0).toNat_lt
  have low' : (ByteField.byteAt p.view.data 0).toNat ≠ 128 := fun h => low (UInt8.toNat_inj.mp h)
  have high' : (ByteField.byteAt p.view.data 0).toNat ≠ 255 := fun h => high (UInt8.toNat_inj.mp h)
  rw [controlType_eq]
  exact ofValue_invalid (by omega) (by omega)

theorem isCtrl_received {buffer : List UInt8} (h : buffer.length = mtuSize) {datagram : List UInt8}
    (some_byte : datagram ≠ []) : (received buffer datagram).isCtrl = (alone datagram).isCtrl := by
  have covered : 1 ≤ datagram.length := List.length_pos_of_ne_nil some_byte
  rw [PktBase.isCtrl, PktBase.isCtrl, getField_received h (f := ⟨1, 0⟩) (by decide) covered]

theorem controlType_received {buffer : List UInt8} (h : buffer.length = mtuSize)
    {datagram : List UInt8} (covered : 2 ≤ datagram.length) :
    (received buffer datagram).controlType = (alone datagram).controlType := by
  rw [PktBase.controlType, PktBase.controlType,
    getField_received h (f := PktBase.fldCtrltype) (by decide) covered]

/-- A single byte that may be the whole datagram makes an invalid packet of any buffer. -/
theorem controlType_received_single {buffer : List UInt8} (h : buffer.length = mtuSize) {b : UInt8}
    (ctrl : (received buffer [b]).isCtrl = true) (low : b ≠ 0x80) (high : b ≠ 0xFF) :
    (received buffer [b]).controlType = .invalid := by
  have first : ByteField.byteAt (received buffer [b]).view.data 0 = b :=
    byteAt_received h [b] (by decide)
  exact controlType_of_first ctrl (fun h => low (first.symm.trans h))
    (fun h => high (first.symm.trans h))

/-- A datagram that covers its fields has the same effect over all buffers. -/
theorem ignoresBuffer_of_covers {Addr : Type} {datagram : List UInt8} (covers : Covers datagram)
    (srcAddr : Addr) : IgnoresBuffer Addr datagram srcAddr := by
  intro cfg globals dstAddr t buffer buffer' hb hb'
  by_cases some_byte : datagram = []
  · simp [some_byte, SameEffect, ackReplyLoop, recvInto]
  have isCtrl := isCtrl_received hb some_byte
  have isCtrl' := isCtrl_received hb' some_byte
  rw [ackReplyLoop_eq cfg _ hb some_byte, ackReplyLoop_eq cfg _ hb' some_byte]
  rcases Nat.lt_or_ge 1 datagram.length with several | single
  · have type := controlType_received hb several
    have type' := controlType_received hb' several
    have field (f : PktField) (inside : f.address + f.width ≤ mtuSize)
        (covered : f.address + f.width ≤ datagram.length) :
        (received buffer datagram).getField f = (received buffer' datagram).getField f :=
      (getField_received hb inside covered).trans (getField_received hb' inside covered).symm
    refine handlePkt_sameEffect cfg _ _ _ _ srcAddr t rfl rfl (isCtrl.trans isCtrl'.symm)
      (fun _ => type.trans type'.symm) (fun ctrl kind => ?_) (fun ctrl kind => ?_)
    · obtain ⟨-, -, ack, ackack⟩ := covers (isCtrl ▸ ctrl)
      apply field PktAck.fldAckno (by decide)
      rw [type] at kind
      rcases kind with kind | kind
      · exact ack kind
      · exact Nat.le_trans (by decide) (ackack kind)
    · obtain ⟨-, -, -, ackack⟩ := covers (isCtrl ▸ ctrl)
      exact congrArg UInt32.ofNat
        (field PktBase.fldTimestamp (by decide) (ackack (type ▸ kind)))
  · obtain ⟨b, rfl⟩ : ∃ b, datagram = [b] := by
      apply List.length_eq_one_iff.mp
      have := List.length_pos_of_ne_nil some_byte
      omega
    have invalid {l : List UInt8} (h : l.length = mtuSize)
        (ctrl : (received l [b]).isCtrl = true) : (received l [b]).controlType = .invalid := by
      obtain ⟨low, high, -, -⟩ := covers ((isCtrl_received h some_byte) ▸ ctrl)
      exact controlType_received_single h ctrl (fun h => low (by rw [h]))
        (fun h => high (by rw [h]))
    refine handlePkt_sameEffect cfg _ _ _ _ srcAddr t rfl rfl (isCtrl.trans isCtrl'.symm)
      (fun ctrl => ?_) (fun ctrl kind => ?_) (fun ctrl kind => ?_)
    · rw [invalid hb ctrl, invalid hb' (by rw [isCtrl', ← isCtrl, ctrl])]
    · rw [invalid hb ctrl] at kind
      simp at kind
    · rw [invalid hb ctrl] at kind
      simp at kind

/-! ## Datagrams that do not cover their fields

Two buffers tell them apart: one of zeros, one of bytes 0xFF. -/

def zeros : List UInt8 := List.replicate mtuSize 0

def ones : List UInt8 := List.replicate mtuSize 0xFF

theorem zeros_length : zeros.length = mtuSize := List.length_replicate

theorem ones_length : ones.length = mtuSize := List.length_replicate

/-- A field both buffers complete alike lies inside the datagram. -/
theorem covered_of_getField_eq {datagram : List UInt8} {f : PktField} (width : 0 < f.width)
    (inside : f.address + f.width ≤ mtuSize)
    (same : (received zeros datagram).getField f = (received ones datagram).getField f) :
    f.address + f.width ≤ datagram.length := by
  by_contra short
  have last := ByteField.read_eq_iff.mp same (f.width - 1) (by omega)
  have index : f.address + (f.width - 1) < mtuSize := by omega
  have behind : ¬ f.address + (f.width - 1) < datagram.length := by omega
  rw [byteAt_received zeros_length datagram index,
    byteAt_received ones_length datagram index, if_neg behind, if_neg behind] at last
  unfold ByteField.byteAt zeros ones at last
  rw [List.getElem?_replicate_of_lt index, List.getElem?_replicate_of_lt index] at last
  exact absurd last (by decide)

theorem handlePkt_kind {Addr : Type} (cfg : Config) (l : ReplyLoop Addr) {p : PktBase}
    (ctrl : p.isCtrl = true) (srcAddr : Addr) (t : Readings) :
    (handlePkt cfg l p srcAddr t).1.kind = .ctrl p.controlType := by
  simp only [handlePkt, ctrl, Bool.not_true, Bool.false_eq_true, if_false]
  cases p.controlType <;> rfl

theorem handlePkt_reply {Addr : Type} (cfg : Config) (l : ReplyLoop Addr) {p : PktBase}
    (ctrl : p.isCtrl = true) (ack : p.controlType = .ack) (srcAddr : Addr) (t : Readings) :
    (handlePkt cfg l p srcAddr t).1.reply = some (l.dstAddr.getD srcAddr,
      onCtrlAck l.globals (.ofBase p) t.replyTimeStd t.replyTimeSys) := by
  simp only [handlePkt, ctrl, ack, Bool.not_true, Bool.false_eq_true, if_false]

theorem handlePkt_globals {Addr : Type} (cfg : Config) (l : ReplyLoop Addr) {p : PktBase}
    (ctrl : p.isCtrl = true) (ackack : p.controlType = .ackack) (srcAddr : Addr) (t : Readings) :
    (handlePkt cfg l p srcAddr t).2.globals =
      (onCtrlAckack cfg l.globals (.ofBase p) t.recvTimeStd t.recvTimeSys).2 := by
  simp only [handlePkt, ctrl, ackack, Bool.not_true, Bool.false_eq_true, if_false]

/-- A datagram with the same effect over all buffers covers its fields. -/
theorem covers_of_ignoresBuffer {Addr : Type} {datagram : List UInt8} {srcAddr : Addr}
    (ignores : IgnoresBuffer Addr datagram srcAddr) : Covers datagram := by
  intro ctrl
  have some_byte : datagram ≠ [] := by
    rintro rfl
    exact absurd ctrl (by decide)
  have same := ignores {} {} none ⟨0, 0, 0, 0⟩ zeros ones zeros_length ones_length
  rw [ackReplyLoop_eq {} _ zeros_length some_byte,
    ackReplyLoop_eq {} _ ones_length some_byte] at same
  obtain ⟨kind, reply, globals, -⟩ := same
  have ctrlZeros := (isCtrl_received zeros_length some_byte).trans ctrl
  have ctrlOnes := (isCtrl_received ones_length some_byte).trans ctrl
  have typeZeros : (received zeros datagram).controlType = (alone datagram).controlType := by
    rw [PktBase.controlType, zeros, getField_received_zeros (by decide), PktBase.controlType]
  rw [handlePkt_kind _ _ ctrlZeros, handlePkt_kind _ _ ctrlOnes, PktKind.ctrl.injEq] at kind
  have typeOnes := kind.symm.trans typeZeros
  refine ⟨?_, ?_, fun ack => ?_, fun ackack => ?_⟩
  · rintro rfl
    exact absurd kind (by decide +kernel)
  · rintro rfl
    exact absurd kind (by decide +kernel)
  · rw [ack] at typeZeros typeOnes
    rw [handlePkt_reply _ _ ctrlZeros typeZeros, handlePkt_reply _ _ ctrlOnes typeOnes] at reply
    simp only [Option.some.injEq, Prod.mk.injEq, true_and] at reply
    have number : (PktAck.ofBase (received zeros datagram)).ackno =
        (PktAck.ofBase (received ones datagram)).ackno := by
      rw [← (onCtrlAck_reply {} _ 0 0).2 [] 20, reply, (onCtrlAck_reply {} _ 0 0).2 [] 20]
    rw [PktAck.ackno_ofBase, PktAck.ackno_ofBase] at number
    have field : (received zeros datagram).getField PktAck.fldAckno =
        (received ones datagram).getField PktAck.fldAckno :=
      PktBase.getField_eq_of_ofNat_eq rfl number
    exact covered_of_getField_eq (by decide) (by decide) field
  · rw [ackack] at typeZeros typeOnes
    rw [handlePkt_globals _ _ ctrlZeros typeZeros, handlePkt_globals _ _ ctrlOnes typeOnes]
      at globals
    have base (p : PktBase) : (onCtrlAckack {} {} (.ofBase p) 0 0).2.tsbpd.timeBase =
        0 - microsecondsFrom p.timestamp.toNat := by
      unfold onCtrlAckack
      dsimp only
      rw [Tsbpd.onAckack_unset rfl]
      rfl
    have sent : (received zeros datagram).timestamp = (received ones datagram).timestamp := by
      have bases := congrArg (fun g : Globals => g.tsbpd.timeBase) globals
      dsimp only at bases
      rw [base, base] at bases
      have := microsecondsFrom_injective (Int.neg_inj.mp (by simpa using bases))
      exact UInt32.toNat_inj.mp (by omega)
    have field : (received zeros datagram).getField PktBase.fldTimestamp =
        (received ones datagram).getField PktBase.fldTimestamp :=
      PktBase.getField_eq_of_ofNat_eq rfl sent
    exact covered_of_getField_eq (by decide) (by decide) field

/-- The effect of a datagram is independent of what earlier datagrams left in the
receive buffer exactly when the datagram covers the fields its type makes the loop
read. -/
theorem ignoresBuffer_iff_covers (Addr : Type) (datagram : List UInt8) (srcAddr : Addr) :
    IgnoresBuffer Addr datagram srcAddr ↔ Covers datagram :=
  ⟨covers_of_ignoresBuffer, fun covers => ignoresBuffer_of_covers covers srcAddr⟩

/-- The first four bytes of an ACK, received after ACK 5 or after ACK 9. -/
def truncatedAck : List UInt8 := [0x80, 2, 0, 0]

def bufferAfter (ackno : UInt32) : List UInt8 :=
  (recvInto zeros (ackPacket {} ackno 1000000).constBuf).2

/-- The truncated ACK is answered with the number of the ACK before it. -/
theorem truncated_ack_answers_previous :
    (bufferAfter 5).length = mtuSize ∧ (bufferAfter 9).length = mtuSize ∧
      (ackReplyLoop {} ⟨{}, some 7, bufferAfter 5⟩ truncatedAck 7 ⟨0, 0, 0, 0⟩).1.reply =
        some (7, [0x80, 6, 0, 0, 0, 0, 0, 5, 0, 0, 0, 0, 0, 0, 0, 0, 0, 0, 0, 0]) ∧
      (ackReplyLoop {} ⟨{}, some 7, bufferAfter 9⟩ truncatedAck 7 ⟨0, 0, 0, 0⟩).1.reply =
        some (7, [0x80, 6, 0, 0, 0, 0, 0, 9, 0, 0, 0, 0, 0, 0, 0, 0, 0, 0, 0, 0]) ∧
      ¬ IgnoresBuffer Nat truncatedAck 7 := by
  have five : (bufferAfter 5).length = mtuSize := by decide +kernel
  have nine : (bufferAfter 9).length = mtuSize := by decide +kernel
  refine ⟨five, nine, by decide +kernel, by decide +kernel, fun ignores => ?_⟩
  have same := (ignores {} {} (some 7) ⟨0, 0, 0, 0⟩ _ _ five nine).2.1
  exact absurd same (by decide +kernel)

end DriftTracing.Source
