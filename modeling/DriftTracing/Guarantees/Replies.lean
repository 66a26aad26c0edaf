import DriftTracing.Source.Start

/-!
# What the two ends read from each other's packets

An ACK carries its number to the peer, and the reply carries it back. Both numbers
lie inside the bytes that are sent, so what the receive buffer holds behind them is
of no importance.
-/
namespace DriftTracing.Source
open DriftTracing.Lib

/-- The ACK with its header and number, before the RTT is added. -/
theorem ackPacket_eq (g : Globals) (ackno : UInt32) (now : Int) :
    ∃ p : PktBase, p.view.data.length = mtuSize ∧ p.len = 44 ∧
      let numbered := p.setField PktAck.fldAckno ackno.toNat
      (ackPacket g ackno now).toPktBase =
        if g.path.rtt ≠ 0 then
          (numbered.setField PktAck.fldRtt g.path.rtt.toUInt32.toNat).setField PktAck.fldRttvar
            g.path.rttVar.toUInt32.toNat
        else numbered := by
  refine ⟨((PktAck.ofBase (.ofView ⟨List.replicate mtuSize 0, mtuSize⟩)).setControlType
    .ack).setTimestamp (getTimestampStd g now), ?_, rfl, ?_⟩
  · rw [PktBase.setTimestamp, PktBase.length_setField, PktBase.setControlType,
      PktBase.length_setField]
    exact List.length_replicate
  · unfold ackPacket
    dsimp only
    split
    · rfl
    · rfl

/-- The ACK as it is built: its length, and its number. -/
theorem ackPacket_spec (g : Globals) (ackno : UInt32) (now : Int) :
    (ackPacket g ackno now).view.data.length = mtuSize ∧ (ackPacket g ackno now).len = 44 ∧
      (ackPacket g ackno now).ackno = ackno := by
  obtain ⟨p, length, len, packet⟩ := ackPacket_eq g ackno now
  have room : 44 ≤ mtuSize := by decide
  have within (f : PktField) (h : f.address + f.width ≤ 44) (q : PktBase)
      (hq : q.view.data.length = p.view.data.length) :
      f.address + f.width ≤ q.view.data.length := by
    omega
  have numbered := p.ofNat_getField_setField (f := PktAck.fldAckno) rfl ackno
    (within _ (by decide) _ rfl)
  dsimp only at packet
  rw [PktAck.ackno, packet]
  split
  · refine ⟨by simp only [PktBase.length_setField, length], len, ?_⟩
    rw [PktBase.getField_setField_disjoint _ _ _ _ (within _ (by decide) _ (by simp)) (by decide),
      PktBase.getField_setField_disjoint _ _ _ _ (within _ (by decide) _ (by simp)) (by decide)]
    exact numbered
  · exact ⟨by rw [PktBase.length_setField, length], len, numbered⟩

/-- The bytes of an ACK, and the number any reader finds in them. -/
theorem ackPacket_constBuf (g : Globals) (ackno : UInt32) (now : Int) :
    (ackPacket g ackno now).constBuf.length = 44 ∧
      ∀ (rest : List UInt8) (size : Nat),
        (PktAck.ofBase (.ofView ⟨(ackPacket g ackno now).constBuf ++ rest, size⟩)).ackno =
          ackno := by
  obtain ⟨bytes, total, number⟩ := ackPacket_spec g ackno now
  have room : 44 ≤ mtuSize := by decide
  constructor
  · rw [PktBase.constBuf, List.length_take, bytes, total]
    exact Nat.min_eq_left room
  · intro rest size
    rw [PktAck.ackno_ofBase, PktBase.getField_constBuf _ rest size (by rw [total]; decide)
      (by rw [total, bytes]; exact room)]
    exact number

/-- The bytes of the reply to an ACK, and the number any reader finds in them. -/
theorem onCtrlAck_reply (g : Globals) (ackpkt : PktAck) (std sys : Int) :
    (onCtrlAck g ackpkt std sys).length = 20 ∧
      ∀ (rest : List UInt8) (size : Nat),
        (PktAckack.ofBase (.ofView ⟨onCtrlAck g ackpkt std sys ++ rest, size⟩)).ackno =
          ackpkt.ackno := by
  let p := ((PktAckack.ofBase (.ofView ⟨List.replicate 40 0, 40⟩)).setControlType
    .ackack).setTimestamp (getTimestampStd g std)
  have length : p.view.data.length = 40 := by
    simp only [p, PktBase.setTimestamp, PktBase.setControlType, PktBase.length_setField]
    exact List.length_replicate
  let numbered := p.setField PktAckack.fldAckno ackpkt.ackno.toNat
  let packet := numbered.setField PktAckack.fldTimestampSys (getTimestampSys g sys).toNat
  have sent : onCtrlAck g ackpkt std sys = packet.constBuf := rfl
  have number : UInt32.ofNat (packet.getField PktAckack.fldAckno) = ackpkt.ackno := by
    have inside : numbered.view.data.length = 40 := by
      simp only [numbered, PktBase.length_setField, length]
    rw [PktBase.getField_setField_disjoint numbered _ _ _ (by rw [inside]; decide) (by decide)]
    exact p.ofNat_getField_setField rfl _ (by rw [length]; decide)
  have bytes : packet.view.data.length = 40 := by
    simp only [packet, numbered, PktBase.length_setField, length]
  have total : packet.len = 20 := rfl
  rw [sent]
  constructor
  · rw [PktBase.constBuf, List.length_take, bytes, total]
    rfl
  · intro rest size
    unfold PktAckack.ackno PktAckack.ofBase
    rw [PktBase.getField_setLength, PktBase.getField_constBuf _ rest size (by rw [total]; decide)
      (by rw [total, bytes]; decide)]
    exact number

/-- The reply depends on the ACK only through its number. -/
theorem onCtrlAck_congr (g : Globals) {ackpkt ackpkt' : PktAck} (h : ackpkt.ackno = ackpkt'.ackno)
    (std sys : Int) : onCtrlAck g ackpkt std sys = onCtrlAck g ackpkt' std sys := by
  unfold onCtrlAck
  rw [h]

/-- The globals depend on the ACKACK only through its number and its timestamp. -/
theorem onCtrlAckack_congr (cfg : Config) (g : Globals) {ackpkt ackpkt' : PktAckack}
    (ackno : ackpkt.ackno = ackpkt'.ackno) (timestamp : ackpkt.timestamp = ackpkt'.timestamp)
    (std sys : Int) :
    (onCtrlAckack cfg g ackpkt std sys).2 = (onCtrlAckack cfg g ackpkt' std sys).2 := by
  unfold onCtrlAckack
  rw [ackno, timestamp]

end DriftTracing.Source
