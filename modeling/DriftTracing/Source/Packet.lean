import DriftTracing.Lib.ByteField
import Mathlib.Data.UInt

/-!
# Packets

src/buf_view.hpp and src/packet/. A view is the memory its pointer leads into and
a size; like the source, the accessors never look at the size. The host is
little-endian, so `bswap` makes every field big-endian.
-/
namespace DriftTracing.Source
open DriftTracing.Lib

/-- `const_bufv` and `mut_bufv`. -/
structure BufView where
  data : List UInt8
  size : Nat
  deriving DecidableEq, Repr

/-- `pkt_field<val_type, byte_offset>`, with `width` for `sizeof(val_type)`. -/
structure PktField where
  width : Nat
  offset : Nat
  deriving DecidableEq, Repr

/-- The word index `offset / sizeof(valtype)` as an address. -/
def PktField.address (f : PktField) : Nat := f.offset / f.width * f.width

inductive CtrlType where
  | invalid | handshake | keepalive | ack | lossreport | cgwarning | shutdown | ackack | dropreq
  | peererror | userdefined
  deriving DecidableEq, Repr

namespace CtrlType

/-- The enumerator as `unsigned`. -/
def value : CtrlType → UInt32
  | invalid => 0xFFFFFFFF
  | handshake => 0
  | keepalive => 1
  | ack => 2
  | lossreport => 3
  | cgwarning => 4
  | shutdown => 5
  | ackack => 6
  | dropreq => 7
  | peererror => 8
  | userdefined => 0x7FFF

/-- The cast of a checked value; any other value is `INVALID`. -/
def ofValue : Nat → CtrlType
  | 0 => handshake
  | 1 => keepalive
  | 2 => ack
  | 3 => lossreport
  | 4 => cgwarning
  | 5 => shutdown
  | 6 => ackack
  | 7 => dropreq
  | 8 => peererror
  | 0x7FFF => userdefined
  | _ => invalid

end CtrlType

structure PktBase where
  view : BufView
  len : Nat
  deriving DecidableEq, Repr

namespace PktBase

def ofView (view : BufView) : PktBase := ⟨view, view.size⟩

def getField (p : PktBase) (f : PktField) : Nat := ByteField.read p.view.data f.address f.width

def setField (p : PktBase) (f : PktField) (val : Nat) : PktBase :=
  { p with view.data := ByteField.write p.view.data f.address f.width val }

def fldCtrltype : PktField := ⟨2, 0⟩
def fldTimestamp : PktField := ⟨4, 8⟩
def fldDstsockid : PktField := ⟨4, 12⟩

def isCtrl (p : PktBase) : Bool := 0x80 &&& p.getField ⟨1, 0⟩ != 0

def timestamp (p : PktBase) : UInt32 := UInt32.ofNat (p.getField fldTimestamp)

def dstsockid (p : PktBase) : UInt32 := UInt32.ofNat (p.getField fldDstsockid)

/-- Discards the highest bit, which defines the type of packet: ctrl/data. -/
def controlType (p : PktBase) : CtrlType := CtrlType.ofValue (0x7FFF &&& p.getField fldCtrltype)

def setControlType (p : PktBase) (type : CtrlType) : PktBase :=
  p.setField fldCtrltype (0x8000 ||| type.value).toNat

def setTimestamp (p : PktBase) (tsUs : UInt32) : PktBase := p.setField fldTimestamp tsUs.toNat

def setDstsockid (p : PktBase) (sockId : UInt32) : PktBase := p.setField fldDstsockid sockId.toNat

/-- `SRTX_ASSERT(len <= m_buff.size())` is commented out in the source. -/
def setLength (p : PktBase) (len : Nat) : PktBase := { p with len }

def constBuf (p : PktBase) : List UInt8 := p.view.data.take p.len

@[simp] theorem getField_setLength (p : PktBase) (len : Nat) (f : PktField) :
    (p.setLength len).getField f = p.getField f := rfl

theorem getField_setField (p : PktBase) (f : PktField) (val : Nat)
    (inside : f.address + f.width ≤ p.view.data.length) :
    (p.setField f val).getField f = val % 256 ^ f.width :=
  ByteField.read_write inside

/-- A four-byte field returns the value it was set to. -/
theorem ofNat_getField_setField (p : PktBase) {f : PktField} (width : f.width = 4) (val : UInt32)
    (inside : f.address + f.width ≤ p.view.data.length) :
    UInt32.ofNat ((p.setField f val.toNat).getField f) = val := by
  have below : val.toNat < 256 ^ f.width := by
    rw [width]
    exact val.toNat_lt
  rw [getField_setField p f _ inside, Nat.mod_eq_of_lt below, UInt32.ofNat_toNat]

theorem getField_setField_disjoint (p : PktBase) (f g : PktField) (val : Nat)
    (inside : f.address + f.width ≤ p.view.data.length)
    (apart : g.address + g.width ≤ f.address ∨ f.address + f.width ≤ g.address) :
    (p.setField f val).getField g = p.getField g :=
  ByteField.read_write_disjoint inside apart

@[simp] theorem length_setField (p : PktBase) (f : PktField) (val : Nat) :
    (p.setField f val).view.data.length = p.view.data.length :=
  ByteField.length_write ..

/-- The conversion of a four-byte field to `uint32_t` loses nothing. -/
theorem getField_eq_of_ofNat_eq {p q : PktBase} {f : PktField} (width : f.width = 4)
    (h : UInt32.ofNat (p.getField f) = UInt32.ofNat (q.getField f)) :
    p.getField f = q.getField f := by
  have below (r : PktBase) : r.getField f < 2 ^ 32 := by
    have := ByteField.read_lt r.view.data f.address f.width
    rw [width] at this
    rwa [getField, width]
  have equal := congrArg UInt32.toNat h
  rwa [UInt32.toNat_ofNat', UInt32.toNat_ofNat', Nat.mod_eq_of_lt (below p),
    Nat.mod_eq_of_lt (below q)] at equal

/-- The highest bit of the first byte. -/
theorem isCtrl_iff (p : PktBase) :
    p.isCtrl = true ↔ 128 ≤ (ByteField.byteAt p.view.data 0).toNat := by
  have first : p.getField ⟨1, 0⟩ = (ByteField.byteAt p.view.data 0).toNat := by
    change ByteField.read _ 0 (0 + 1) = _
    rw [ByteField.read_succ, ByteField.read_zero, pow_zero, Nat.mul_one, Nat.add_zero]
  have bits : ∀ b < 256, (0x80 &&& b != 0) = true ↔ 128 ≤ b := by decide +kernel
  rw [isCtrl, first, bits _ (UInt8.toNat_lt _)]

/-- What is sent reads like the packet, in any field that `length()` covers. -/
theorem getField_constBuf (p : PktBase) {f : PktField} (rest : List UInt8) (size : Nat)
    (covered : f.address + f.width ≤ p.len) (inside : p.len ≤ p.view.data.length) :
    (ofView ⟨p.constBuf ++ rest, size⟩).getField f = p.getField f := by
  apply ByteField.read_eq_iff.mpr
  intro i hi
  have short : f.address + i < p.constBuf.length := by
    rw [constBuf, List.length_take]
    omega
  have taken : ByteField.byteAt p.constBuf (f.address + i) =
      ByteField.byteAt p.view.data (f.address + i) := by
    rw [ByteField.byteAt, constBuf, List.getElem?_take_of_lt (by omega), ByteField.byteAt]
  exact (ByteField.byteAt_append_left rest short).trans taken

end PktBase

/-- The ACK packet. -/
structure PktAck extends PktBase
  deriving DecidableEq, Repr

namespace PktAck

def ofBase (p : PktBase) : PktAck := ⟨p.setLength 44⟩

def fldAckno : PktField := ⟨4, 4⟩
def fldAckseqno : PktField := ⟨4, 16⟩
def fldRtt : PktField := ⟨4, 20⟩
def fldRttvar : PktField := ⟨4, 24⟩
def fldTimestampSys : PktField := ⟨4, 28⟩
def fldRecvpktrate : PktField := ⟨4, 32⟩
def fldCapacity : PktField := ⟨4, 36⟩
def fldRecvrate : PktField := ⟨4, 40⟩

def ackno (p : PktAck) : UInt32 := UInt32.ofNat (p.getField fldAckno)
def ackseqno (p : PktAck) : UInt32 := UInt32.ofNat (p.getField fldAckseqno)
def rtt (p : PktAck) : UInt32 := UInt32.ofNat (p.getField fldRtt)
def rttvar (p : PktAck) : UInt32 := UInt32.ofNat (p.getField fldRttvar)
def timestampSys (p : PktAck) : UInt32 := UInt32.ofNat (p.getField fldTimestampSys)
def recvpktrate (p : PktAck) : UInt32 := UInt32.ofNat (p.getField fldRecvpktrate)
def capacity (p : PktAck) : UInt32 := UInt32.ofNat (p.getField fldCapacity)
def recvrate (p : PktAck) : UInt32 := UInt32.ofNat (p.getField fldRecvrate)

def setAckno (p : PktAck) (value : UInt32) : PktAck := ⟨p.setField fldAckno value.toNat⟩
def setAckseqno (p : PktAck) (value : UInt32) : PktAck := ⟨p.setField fldAckseqno value.toNat⟩
def setRtt (p : PktAck) (value : UInt32) : PktAck := ⟨p.setField fldRtt value.toNat⟩
def setRttvar (p : PktAck) (value : UInt32) : PktAck := ⟨p.setField fldRttvar value.toNat⟩
def setTimestampSys (p : PktAck) (value : UInt32) : PktAck :=
  ⟨p.setField fldTimestampSys value.toNat⟩
def setRecvpktrate (p : PktAck) (value : UInt32) : PktAck :=
  ⟨p.setField fldRecvpktrate value.toNat⟩
def setCapacity (p : PktAck) (value : UInt32) : PktAck := ⟨p.setField fldCapacity value.toNat⟩
def setRecvrate (p : PktAck) (value : UInt32) : PktAck := ⟨p.setField fldRecvrate value.toNat⟩

theorem ackno_ofBase (p : PktBase) : (ofBase p).ackno = UInt32.ofNat (p.getField fldAckno) := rfl

end PktAck

/-- The ACKACK packet. -/
structure PktAckack extends PktBase
  deriving DecidableEq, Repr

namespace PktAckack

def ofBase (p : PktBase) : PktAckack := ⟨p.setLength 20⟩

def fldAckno : PktField := ⟨4, 4⟩
def fldTimestampSys : PktField := ⟨4, 16⟩

def ackno (p : PktAckack) : UInt32 := UInt32.ofNat (p.getField fldAckno)

def timestampSys (p : PktAckack) : UInt32 := UInt32.ofNat (p.getField fldTimestampSys)

def setAckno (p : PktAckack) (value : UInt32) : PktAckack := ⟨p.setField fldAckno value.toNat⟩

def setTimestampSys (p : PktAckack) (value : UInt32) : PktAckack :=
  ⟨p.setField fldTimestampSys value.toNat⟩

theorem ackno_ofBase (p : PktBase) : (ofBase p).ackno = UInt32.ofNat (p.getField fldAckno) := rfl

end PktAckack

end DriftTracing.Source
