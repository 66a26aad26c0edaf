import DriftTracing.Guarantees.DatagramReaction
import DriftTracing.Guarantees.PacketCodec

/-!
# What the program sends

The two packets it builds are control packets of their types, and are taken for that
whatever the receive buffer holds behind them.
-/
namespace DriftTracing.Source
open DriftTracing.Lib

/-- The bytes are a control packet of the type. -/
structure IsCtrl (type : CtrlType) (size : Nat) (bytes : List UInt8) : Prop where
  length : bytes.length = size
  ctrl : (alone bytes).isCtrl = true
  type : (alone bytes).controlType = type

/-- What is sent after the control type was set is a packet of that type. -/
theorem PacketFormat.isCtrl_applyAll {P F : Type} [DecidableEq F] (K : PacketFormat P F) {p : P}
    (room : K.length ≤ (K.base p).view.data.length) (len : (K.base p).len = K.length)
    (calls : List (Setter F)) {type : CtrlType} (last : Setter.lastType calls = some type) :
    IsCtrl type K.length (K.base (K.applyAll p calls)).constBuf := by
  have codec := K.roundTrip room len calls
  have same : (K.base (K.received (K.applyAll p calls))).view =
      (alone (K.base (K.applyAll p calls)).constBuf).view := by
    rw [received, K.base_ofBase]
    rfl
  have ctrl := codec.receivedCtrl.trans codec.ctrl
  have read := codec.receivedType.trans codec.type
  rw [last] at ctrl read
  refine ⟨codec.sent, ?_, ?_⟩
  · rw [PktBase.isCtrl, PktBase.getField, ← same]
    exact ctrl
  · rw [PktBase.controlType, PktBase.getField, ← same]
    exact read

theorem ackPacket_isCtrl (g : Globals) (ackno : UInt32) (now : Int) :
    IsCtrl .ack 44 (ackPacket g ackno now).constBuf := by
  let header : List (Setter PktAck.Field) :=
    [.controlType .ack (by decide), .word .timestamp (getTimestampStd g now), .word .ackno ackno]
  let calls : List (Setter PktAck.Field) :=
    if g.path.rtt ≠ 0 then
      header ++ [.word .rtt g.path.rtt.toUInt32, .word .rttvar g.path.rttVar.toUInt32]
    else header
  let empty := PktAck.ofBase (.ofView ⟨List.replicate mtuSize 0, mtuSize⟩)
  have built : ackPacket g ackno now = PktAck.format.applyAll empty calls := by
    unfold ackPacket calls
    dsimp only
    split
    · rfl
    · rfl
  have last : Setter.lastType calls = some .ack := by
    unfold calls
    split
    · rfl
    · rfl
  have room : 44 ≤ (List.replicate mtuSize (0 : UInt8)).length := by
    rw [List.length_replicate]
    decide
  rw [built]
  exact PktAck.format.isCtrl_applyAll (p := empty) room rfl calls last

theorem onCtrlAck_isCtrl (g : Globals) (ackpkt : PktAck) (std sys : Int) :
    IsCtrl .ackack 20 (onCtrlAck g ackpkt std sys) := by
  have room : 20 ≤ (List.replicate 40 (0 : UInt8)).length := by
    rw [List.length_replicate]
    decide
  exact PktAckack.format.isCtrl_applyAll (p := .ofBase (.ofView ⟨List.replicate 40 0, 40⟩)) room rfl
    [.controlType .ackack (by decide), .word .timestamp (getTimestampStd g std),
      .word .ackno ackpkt.ackno, .word .timestampSys (getTimestampSys g sys)] rfl

/-- What the two clocks read when an ACK was answered. -/
theorem onCtrlAck_timestamps (g : Globals) (ackpkt : PktAck) (std sys : Int) :
    (PktAckack.ofBase (alone (onCtrlAck g ackpkt std sys))).timestamp = getTimestampStd g std ∧
      (PktAckack.ofBase (alone (onCtrlAck g ackpkt std sys))).timestampSys =
        getTimestampSys g sys := by
  have room : 20 ≤ (List.replicate 40 (0 : UInt8)).length := by
    rw [List.length_replicate]
    decide
  have codec := PktAckack.format.roundTrip (p := .ofBase (.ofView ⟨List.replicate 40 0, 40⟩)) room
    rfl [.controlType .ackack (by decide), .word .timestamp (getTimestampStd g std),
      .word .ackno ackpkt.ackno, .word .timestampSys (getTimestampSys g sys)]
  exact ⟨(codec.receivedWords .timestamp).trans (codec.words .timestamp),
    (codec.receivedWords .timestampSys).trans (codec.words .timestampSys)⟩

/-- Whatever lies behind it in the buffer, a field of a control packet is what was sent. -/
theorem IsCtrl.getField_append {type : CtrlType} {size : Nat} {bytes : List UInt8}
    (h : IsCtrl type size bytes) {f : PktField} (covered : f.address + f.width ≤ size)
    (rest : List UInt8) (k : Nat) :
    (PktBase.ofView ⟨bytes ++ rest, k⟩).getField f = (alone bytes).getField f := by
  apply ByteField.read_eq_iff.mpr
  intro i hi
  have length := h.length
  exact ByteField.byteAt_append_left rest (by omega)

/-- Whatever lies behind it in the buffer, a control packet is taken for what it is. -/
theorem IsCtrl.append {type : CtrlType} {size : Nat} {bytes : List UInt8}
    (h : IsCtrl type size bytes) (enough : 2 ≤ size) (rest : List UInt8) (k : Nat) :
    (PktBase.ofView ⟨bytes ++ rest, k⟩).isCtrl = true ∧
      (PktBase.ofView ⟨bytes ++ rest, k⟩).controlType = type := by
  constructor
  · rw [PktBase.isCtrl, h.getField_append (Nat.le_trans (by decide) enough)]
    exact h.ctrl
  · rw [PktBase.controlType, h.getField_append (Nat.le_trans (by decide) enough)]
    exact h.type

end DriftTracing.Source
