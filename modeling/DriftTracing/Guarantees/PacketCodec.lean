import DriftTracing.Lib.Layout
import DriftTracing.Source.Packet

/-!
# The packets as codecs

A packet is written through its setters and read through its getters, on the other
side of the network through views of the bytes that were sent. `PacketFormat` is
what `pkt_ack` and `pkt_ackack` have in common: the control type in the upper half
of word 0, and one 32-bit field in each of a few other words of the packet diagram.
-/
namespace DriftTracing.Source
open DriftTracing.Lib

/-- A packet class `P` with the word fields `F`. -/
structure PacketFormat (P F : Type) where
  base : P → PktBase
  ofBase : PktBase → P
  length : Nat
  field : F → PktField
  /-- The word of the packet diagram a field is drawn in. -/
  word : F → Nat
  get : F → P → UInt32
  set : F → P → UInt32 → P
  setControlType : P → CtrlType → P
  field_eq : ∀ f, field f = ⟨4, 4 * word f⟩
  word_pos : ∀ f, 0 < word f
  word_injective : Function.Injective word
  covered : ∀ f, 4 * word f + 4 ≤ length
  header : 2 ≤ length
  get_eq : ∀ f p, get f p = UInt32.ofNat ((base p).getField (field f))
  set_eq : ∀ f p v, base (set f p v) = (base p).setField (field f) v.toNat
  setControlType_eq : ∀ p type, base (setControlType p type) = (base p).setControlType type
  base_ofBase : ∀ q, base (ofBase q) = q.setLength length

/-- A call of a setter; the control type `INVALID` is not for packets. -/
inductive Setter (F : Type) where
  | controlType (type : CtrlType) (valid : type ≠ .invalid)
  | word (field : F) (value : UInt32)

namespace Setter

variable {F : Type}

/-- The field a call sets, the control type being none of the words. -/
def target : Setter F → Option F
  | .controlType _ _ => none
  | .word f _ => some f

def value : Setter F → Nat
  | .controlType type _ => (0x8000 ||| type.value).toNat
  | .word _ v => v.toNat

/-- The last control type set. -/
def lastType : List (Setter F) → Option CtrlType
  | [] => none
  | .controlType type _ :: cs => (lastType cs).or (some type)
  | .word _ _ :: cs => lastType cs

/-- The last value set for a word field. -/
def lastWord [DecidableEq F] (f : F) : List (Setter F) → Option UInt32
  | [] => none
  | .controlType _ _ :: cs => lastWord f cs
  | .word g v :: cs => (lastWord f cs).or (if g = f then some v else none)

def pair (c : Setter F) : Option F × Nat := (c.target, c.value)

theorem lastOf_word [DecidableEq F] (f : F) (calls : List (Setter F)) :
    lastOf (some f) (calls.map pair) = (lastWord f calls).map UInt32.toNat := by
  induction calls with
  | nil => rfl
  | cons c cs ih =>
    cases c with
    | controlType type valid => simp [lastOf, lastWord, pair, target, ih]
    | word g v =>
      rw [List.map_cons, lastOf, ih, lastWord]
      by_cases same : g = f
      · cases lastWord f cs <;> simp [pair, target, value, same]
      · cases lastWord f cs <;> simp [pair, target, same]

theorem lastOf_type [DecidableEq F] (calls : List (Setter F)) :
    lastOf none (calls.map pair) =
      (lastType calls).map fun type => (0x8000 ||| type.value).toNat := by
  induction calls with
  | nil => rfl
  | cons c cs ih =>
    cases c with
    | controlType type valid =>
      rw [List.map_cons, lastOf, ih, lastType]
      cases lastType cs <;> simp [pair, target, value]
    | word g v => simp [lastOf, lastType, pair, target, ih]

theorem lastType_valid {calls : List (Setter F)} {type : CtrlType}
    (h : lastType calls = some type) : type ≠ .invalid := by
  induction calls with
  | nil => simp [lastType] at h
  | cons c cs ih =>
    cases c with
    | controlType t valid =>
      rw [lastType] at h
      cases later : lastType cs with
      | none =>
        rw [later] at h
        obtain rfl : t = type := by simpa using h
        exact valid
      | some u =>
        rw [later] at h
        exact ih (later.trans (by simpa using h))
    | word g v => exact ih h

end Setter

namespace PacketFormat

variable {P F : Type} (K : PacketFormat P F)

def apply (p : P) : Setter F → P
  | .controlType type _ => K.setControlType p type
  | .word f v => K.set f p v

def applyAll : P → List (Setter F) → P
  | p, [] => p
  | p, c :: cs => applyAll (K.apply p c) cs

/-- The bytes of the fields: two for the control type, and the words. -/
def layout : Layout (Option F) where
  offset := fun | none => 0 | some f => 4 * K.word f
  width := fun | none => 2 | some _ => 4
  apart := by
    intro f g different
    cases f with
    | none =>
      cases g with
      | none => exact absurd rfl different
      | some g =>
        have := K.word_pos g
        dsimp only
        omega
    | some f =>
      cases g with
      | none =>
        have := K.word_pos f
        dsimp only
        omega
      | some g =>
        have : K.word f ≠ K.word g := fun same =>
          different (congrArg some (K.word_injective same))
        dsimp only
        omega

theorem layout_within {size : Nat} (room : K.length ≤ size) : K.layout.Within size := by
  intro f
  cases f with
  | none => exact K.header.trans room
  | some f => exact (K.covered f).trans room

theorem field_address (f : F) : (K.field f).address = 4 * K.word f := by
  rw [K.field_eq, PktField.address, Nat.mul_div_cancel_left _ (by decide), Nat.mul_comm]

/-- The word field as the layout reads it. -/
theorem getField_eq (q : PktBase) (f : F) :
    q.getField (K.field f) = K.layout.get q.view.data (some f) := by
  rw [PktBase.getField, field_address, K.field_eq]
  rfl

theorem apply_data (p : P) (c : Setter F) :
    (K.base (K.apply p c)).view.data = K.layout.set (K.base p).view.data c.target c.value := by
  cases c with
  | controlType type valid =>
    rw [apply, K.setControlType_eq]
    rfl
  | word f v =>
    rw [apply, K.set_eq, PktBase.setField, field_address, K.field_eq]
    rfl

theorem apply_len (p : P) (c : Setter F) : (K.base (K.apply p c)).len = (K.base p).len := by
  cases c with
  | controlType type valid =>
    rw [apply, K.setControlType_eq]
    rfl
  | word f v =>
    rw [apply, K.set_eq]
    rfl

theorem applyAll_data (p : P) (calls : List (Setter F)) :
    (K.base (K.applyAll p calls)).view.data =
      K.layout.setAll (K.base p).view.data (calls.map Setter.pair) := by
  induction calls generalizing p with
  | nil => rfl
  | cons c cs ih =>
    rw [applyAll, ih, K.apply_data]
    rfl

theorem applyAll_len (p : P) (calls : List (Setter F)) :
    (K.base (K.applyAll p calls)).len = (K.base p).len := by
  induction calls generalizing p with
  | nil => rfl
  | cons c cs ih => rw [applyAll, ih, K.apply_len]

/-- The two bytes of the control type decide what kind of packet is read. -/
theorem controlType_eq_layout (q : PktBase) :
    q.controlType = CtrlType.ofValue (0x7FFF &&& K.layout.get q.view.data none) := rfl

theorem isCtrl_iff_layout (q : PktBase) :
    q.isCtrl = true ↔ 128 ≤ K.layout.get q.view.data none / 256 % 256 := by
  have digit := @ByteField.byteAt_eq_digit q.view.data 0 2 0 (by decide)
  rw [q.isCtrl_iff, digit]
  exact Iff.rfl

/-- The value of a word field is the layout's. -/
theorem get_toNat (q : P) (f : F) :
    (K.get f q).toNat = K.layout.get (K.base q).view.data (some f) := by
  have below : K.layout.get (K.base q).view.data (some f) < 2 ^ 32 :=
    ByteField.read_lt (K.base q).view.data (4 * K.word f) 4
  rw [K.get_eq, K.getField_eq, UInt32.toNat_ofNat', Nat.mod_eq_of_lt below]

/-- A byte of none of the fields that the calls set. -/
def Untouched (calls : List (Setter F)) (i : Nat) : Prop :=
  ∀ c ∈ calls, i < K.layout.offset c.target ∨
    K.layout.offset c.target + K.layout.width c.target ≤ i

/-- What the other side makes of the bytes that are sent. -/
def received (p : P) : P := K.ofBase (.ofView ⟨(K.base p).constBuf, (K.base p).constBuf.length⟩)

variable [DecidableEq F]

/-- The codec laws, for a packet and a sequence of setter calls. -/
structure RoundTrip (p : P) (calls : List (Setter F)) : Prop where
  words : ∀ f, K.get f (K.applyAll p calls) = (Setter.lastWord f calls).getD (K.get f p)
  type : (K.base (K.applyAll p calls)).controlType =
    (Setter.lastType calls).getD (K.base p).controlType
  ctrl : (K.base (K.applyAll p calls)).isCtrl =
    ((Setter.lastType calls).isSome || (K.base p).isCtrl)
  size : (K.base (K.applyAll p calls)).view.data.length = (K.base p).view.data.length
  frame : ∀ i, K.Untouched calls i →
    ByteField.byteAt (K.base (K.applyAll p calls)).view.data i =
      ByteField.byteAt (K.base p).view.data i
  drawn : ∀ f, ∀ i < 4,
    (ByteField.byteAt (K.base (K.applyAll p calls)).view.data (4 * K.word f + i)).toNat =
      (K.get f (K.applyAll p calls)).toNat / 256 ^ (3 - i) % 256
  drawnType : ∀ type, Setter.lastType calls = some type → ∀ i < 2,
    (ByteField.byteAt (K.base (K.applyAll p calls)).view.data i).toNat =
      (0x8000 ||| type.value).toNat / 256 ^ (1 - i) % 256
  sent : (K.base (K.applyAll p calls)).constBuf.length = K.length
  receivedWords : ∀ f, K.get f (K.received (K.applyAll p calls)) = K.get f (K.applyAll p calls)
  receivedType : (K.base (K.received (K.applyAll p calls))).controlType =
    (K.base (K.applyAll p calls)).controlType
  receivedCtrl : (K.base (K.received (K.applyAll p calls))).isCtrl =
    (K.base (K.applyAll p calls)).isCtrl
  covered : ∀ f, (K.field f).offset + (K.field f).width ≤ (K.base (K.applyAll p calls)).len

/-- A word field is the layout's, after the calls. -/
theorem words_applyAll {p : P} (room : K.length ≤ (K.base p).view.data.length)
    (calls : List (Setter F)) (f : F) :
    K.get f (K.applyAll p calls) = (Setter.lastWord f calls).getD (K.get f p) := by
  apply UInt32.toNat_inj.mp
  rw [K.get_toNat, K.applyAll_data, K.layout.get_setAll (K.layout_within room),
    Setter.lastOf_word]
  cases Setter.lastWord f calls with
  | none => rw [Option.map_none, Option.map_none, Option.getD_none, Option.getD_none, K.get_toNat]
  | some v => exact Nat.mod_eq_of_lt v.toNat_lt

/-- The encoding of a control type fits its two bytes, is marked as control and is
decoded to the same control type. -/
theorem decode_type {type : CtrlType} (valid : type ≠ .invalid) :
    (0x8000 ||| type.value).toNat < 2 ^ 16 ∧
      128 ≤ (0x8000 ||| type.value).toNat / 256 % 256 ∧
      CtrlType.ofValue (0x7FFF &&& (0x8000 ||| type.value).toNat) = type := by
  cases type with
  | invalid => exact absurd rfl valid
  | _ => decide

/-- The control type bytes, after the calls. -/
theorem type_applyAll {p : P} (room : K.length ≤ (K.base p).view.data.length)
    (calls : List (Setter F)) :
    K.layout.get (K.base (K.applyAll p calls)).view.data none =
      ((Setter.lastType calls).map fun type => (0x8000 ||| type.value).toNat).getD
        (K.layout.get (K.base p).view.data none) := by
  rw [K.applyAll_data, K.layout.get_setAll (K.layout_within room), Setter.lastOf_type]
  cases last : Setter.lastType calls with
  | none => rfl
  | some type => exact Nat.mod_eq_of_lt (decode_type (Setter.lastType_valid last)).1

/-- Every packet format is a codec, over all buffers that hold the packet and all
sequences of setter calls. -/
theorem roundTrip {p : P} (room : K.length ≤ (K.base p).view.data.length)
    (len : (K.base p).len = K.length) (calls : List (Setter F)) : K.RoundTrip p calls := by
  have total : (K.base (K.applyAll p calls)).len = K.length := (K.applyAll_len p calls).trans len
  have size : (K.base (K.applyAll p calls)).view.data.length = (K.base p).view.data.length := by
    rw [K.applyAll_data, K.layout.length_setAll]
  have inside : (K.base (K.applyAll p calls)).len ≤
      (K.base (K.applyAll p calls)).view.data.length := by
    rw [total, size]
    exact room
  have type := K.type_applyAll room calls
  have sameField (f : PktField) (covered : f.address + f.width ≤ K.length) :
      (K.base (K.received (K.applyAll p calls))).getField f =
        (K.base (K.applyAll p calls)).getField f := by
    have read := (K.base (K.applyAll p calls)).getField_constBuf []
      (K.base (K.applyAll p calls)).constBuf.length (total.symm ▸ covered) inside
    rw [List.append_nil] at read
    rw [received, K.base_ofBase, PktBase.getField_setLength]
    exact read
  have sameType : K.layout.get (K.base (K.received (K.applyAll p calls))).view.data none =
      K.layout.get (K.base (K.applyAll p calls)).view.data none :=
    sameField PktBase.fldCtrltype K.header
  refine
    { words := K.words_applyAll room calls
      type := ?_
      ctrl := ?_
      size := size
      frame := ?_
      drawn := ?_
      drawnType := ?_
      sent := ?_
      receivedWords := ?_
      receivedType := ?_
      receivedCtrl := ?_
      covered := ?_ }
  · rw [K.controlType_eq_layout, type]
    cases last : Setter.lastType calls with
    | none => rfl
    | some t => exact (decode_type (Setter.lastType_valid last)).2.2
  · apply Bool.eq_iff_iff.mpr
    rw [K.isCtrl_iff_layout, type]
    cases last : Setter.lastType calls with
    | none => simpa using (K.isCtrl_iff_layout (K.base p)).symm
    | some t => simpa using (decode_type (Setter.lastType_valid last)).2.1
  · intro i untouched
    rw [K.applyAll_data]
    apply K.layout.byteAt_setAll (K.layout_within room)
    intro c hc
    obtain ⟨d, hd, rfl⟩ := List.mem_map.mp hc
    exact untouched d hd
  · intro f i hi
    rw [K.get_toNat]
    exact ByteField.byteAt_eq_digit hi
  · intro t last i hi
    have digit := @ByteField.byteAt_eq_digit (K.base (K.applyAll p calls)).view.data 0 2 i hi
    rw [Nat.zero_add] at digit
    rw [digit]
    change K.layout.get (K.base (K.applyAll p calls)).view.data none / _ % _ = _
    rw [type, last]
    rfl
  · rw [PktBase.constBuf, List.length_take, total]
    exact Nat.min_eq_left (size.symm ▸ room)
  · intro f
    rw [K.get_eq, K.get_eq, sameField (K.field f)]
    rw [field_address, K.field_eq]
    exact K.covered f
  · rw [K.controlType_eq_layout, K.controlType_eq_layout, sameType]
  · apply Bool.eq_iff_iff.mpr
    rw [K.isCtrl_iff_layout, K.isCtrl_iff_layout, sameType]
  · intro f
    rw [K.field_eq, total]
    exact K.covered f

end PacketFormat

/-- The word fields of `pkt_ack`, those of its base class included. -/
inductive PktAck.Field where
  | timestamp | dstsockid | ackno | ackseqno | rtt | rttvar | timestampSys | recvpktrate
  | capacity | recvrate
  deriving DecidableEq

/-- `pkt_ack`: its fields, getters and setters, and where the diagram draws them. -/
def PktAck.format : PacketFormat PktAck PktAck.Field where
  base p := p.toPktBase
  ofBase := PktAck.ofBase
  length := 44
  field
    | .timestamp => PktBase.fldTimestamp
    | .dstsockid => PktBase.fldDstsockid
    | .ackno => fldAckno
    | .ackseqno => fldAckseqno
    | .rtt => fldRtt
    | .rttvar => fldRttvar
    | .timestampSys => fldTimestampSys
    | .recvpktrate => fldRecvpktrate
    | .capacity => fldCapacity
    | .recvrate => fldRecvrate
  word
    | .timestamp => 2
    | .dstsockid => 3
    | .ackno => 1
    | .ackseqno => 4
    | .rtt => 5
    | .rttvar => 6
    | .timestampSys => 7
    | .recvpktrate => 8
    | .capacity => 9
    | .recvrate => 10
  get
    | .timestamp, p => p.timestamp
    | .dstsockid, p => p.dstsockid
    | .ackno, p => p.ackno
    | .ackseqno, p => p.ackseqno
    | .rtt, p => p.rtt
    | .rttvar, p => p.rttvar
    | .timestampSys, p => p.timestampSys
    | .recvpktrate, p => p.recvpktrate
    | .capacity, p => p.capacity
    | .recvrate, p => p.recvrate
  set
    | .timestamp, p, v => ⟨p.setTimestamp v⟩
    | .dstsockid, p, v => ⟨p.setDstsockid v⟩
    | .ackno, p, v => p.setAckno v
    | .ackseqno, p, v => p.setAckseqno v
    | .rtt, p, v => p.setRtt v
    | .rttvar, p, v => p.setRttvar v
    | .timestampSys, p, v => p.setTimestampSys v
    | .recvpktrate, p, v => p.setRecvpktrate v
    | .capacity, p, v => p.setCapacity v
    | .recvrate, p, v => p.setRecvrate v
  setControlType p type := ⟨p.setControlType type⟩
  field_eq f := by cases f <;> rfl
  word_pos f := by cases f <;> decide
  word_injective f g := by cases f <;> cases g <;> decide
  covered f := by cases f <;> decide
  header := by decide
  get_eq f p := by cases f <;> rfl
  set_eq f p v := by cases f <;> rfl
  setControlType_eq p type := rfl
  base_ofBase q := rfl

/-- The word fields of `pkt_ackack`, those of its base class included. -/
inductive PktAckack.Field where
  | timestamp | dstsockid | ackno | timestampSys
  deriving DecidableEq

def PktAckack.format : PacketFormat PktAckack PktAckack.Field where
  base p := p.toPktBase
  ofBase := PktAckack.ofBase
  length := 20
  field
    | .timestamp => PktBase.fldTimestamp
    | .dstsockid => PktBase.fldDstsockid
    | .ackno => fldAckno
    | .timestampSys => fldTimestampSys
  word
    | .timestamp => 2
    | .dstsockid => 3
    | .ackno => 1
    | .timestampSys => 4
  get
    | .timestamp, p => p.timestamp
    | .dstsockid, p => p.dstsockid
    | .ackno, p => p.ackno
    | .timestampSys, p => p.timestampSys
  set
    | .timestamp, p, v => ⟨p.setTimestamp v⟩
    | .dstsockid, p, v => ⟨p.setDstsockid v⟩
    | .ackno, p, v => p.setAckno v
    | .timestampSys, p, v => p.setTimestampSys v
  setControlType p type := ⟨p.setControlType type⟩
  field_eq f := by cases f <;> rfl
  word_pos f := by cases f <;> decide
  word_injective f g := by cases f <;> cases g <;> decide
  covered f := by cases f <;> decide
  header := by decide
  get_eq f p := by cases f <;> rfl
  set_eq f p v := by cases f <;> rfl
  setControlType_eq p type := rfl
  base_ofBase q := rfl

/-- An ACK built over any buffer of at least 44 bytes, and an ACKACK built over any
buffer of at least 20 bytes, obey the codec laws under every sequence of setter calls. -/
theorem packets_round_trip :
    (∀ buffer : List UInt8, 44 ≤ buffer.length → ∀ calls : List (Setter PktAck.Field),
      PktAck.format.RoundTrip (.ofBase (.ofView ⟨buffer, buffer.length⟩)) calls) ∧
    (∀ buffer : List UInt8, 20 ≤ buffer.length → ∀ calls : List (Setter PktAckack.Field),
      PktAckack.format.RoundTrip (.ofBase (.ofView ⟨buffer, buffer.length⟩)) calls) := by
  constructor
  · intro buffer room calls
    exact PktAck.format.roundTrip (p := .ofBase (.ofView ⟨buffer, buffer.length⟩)) room rfl calls
  · intro buffer room calls
    exact PktAckack.format.roundTrip (p := .ofBase (.ofView ⟨buffer, buffer.length⟩)) room rfl
      calls

/-- The setter calls of `ack_sending_loop`, the ACK number set a second time. -/
def sentCalls : List (Setter PktAck.Field) :=
  [.controlType .ack (by decide), .word .timestamp 1000, .word .ackno 7, .word .rtt 20000,
    .word .rttvar 4000, .word .ackno 8]

theorem packets_round_trip_sent_ack :
    PktAck.format.RoundTrip (.ofBase (.ofView ⟨List.replicate 44 0, 44⟩)) sentCalls :=
  packets_round_trip.1 (List.replicate 44 0) (by decide) sentCalls

end DriftTracing.Source
