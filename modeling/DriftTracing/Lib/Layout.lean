import DriftTracing.Lib.ByteField

/-!
# Records of disjoint byte fields

A layout says where the fields of a record lie in byte memory; no two of them
overlap. After any sequence of writes a field reads the value last written to it,
cut to its width, or what it read before; bytes outside the written fields stay.
-/
namespace DriftTracing.Lib

/-- The value of the last pair with this key. -/
def lastOf {F V : Type*} [DecidableEq F] (f : F) : List (F × V) → Option V
  | [] => none
  | c :: cs => (lastOf f cs).or (if c.1 = f then some c.2 else none)

structure Layout (F : Type*) where
  offset : F → Nat
  width : F → Nat
  apart : ∀ f g, f ≠ g → offset f + width f ≤ offset g ∨ offset g + width g ≤ offset f

namespace Layout

variable {F : Type*} (L : Layout F) {mem : List UInt8}

/-- Every field lies inside the first `size` bytes. -/
def Within (size : Nat) : Prop := ∀ f, L.offset f + L.width f ≤ size

def get (mem : List UInt8) (f : F) : Nat := ByteField.read mem (L.offset f) (L.width f)

def set (mem : List UInt8) (f : F) (value : Nat) : List UInt8 :=
  ByteField.write mem (L.offset f) (L.width f) value

/-- Write the values of a list of pairs, in order. -/
def setAll : List UInt8 → List (F × Nat) → List UInt8
  | mem, [] => mem
  | mem, c :: cs => setAll (L.set mem c.1 c.2) cs

theorem length_set (f : F) (value : Nat) : (L.set mem f value).length = mem.length :=
  ByteField.length_write ..

theorem length_setAll (mem : List UInt8) (calls : List (F × Nat)) :
    (L.setAll mem calls).length = mem.length := by
  induction calls generalizing mem with
  | nil => rfl
  | cons c cs ih => rw [setAll, ih, L.length_set]

theorem get_set_self (within : L.Within mem.length) (f : F) (value : Nat) :
    L.get (L.set mem f value) f = value % 256 ^ L.width f :=
  ByteField.read_write (within f)

theorem get_set_other (within : L.Within mem.length) {f g : F} (different : f ≠ g) (value : Nat) :
    L.get (L.set mem f value) g = L.get mem g :=
  ByteField.read_write_disjoint (within f) (L.apart f g different).symm

/-- Over every order and repetition of writes, a field reads the last value. -/
theorem get_setAll [DecidableEq F] (within : L.Within mem.length) (calls : List (F × Nat)) (f : F) :
    L.get (L.setAll mem calls) f =
      ((lastOf f calls).map (· % 256 ^ L.width f)).getD (L.get mem f) := by
  induction calls generalizing mem with
  | nil => rfl
  | cons c cs ih =>
    rw [setAll, ih (by rwa [L.length_set]), lastOf]
    cases later : lastOf f cs with
    | some value => rfl
    | none =>
      by_cases written : c.1 = f
      · rw [if_pos written, ← written, L.get_set_self within]
        rfl
      · rw [if_neg written, L.get_set_other within written]
        rfl

/-- Bytes that lie in none of the written fields are unchanged. -/
theorem byteAt_setAll (within : L.Within mem.length) (calls : List (F × Nat)) {i : Nat}
    (outside : ∀ c ∈ calls, i < L.offset c.1 ∨ L.offset c.1 + L.width c.1 ≤ i) :
    ByteField.byteAt (L.setAll mem calls) i = ByteField.byteAt mem i := by
  induction calls generalizing mem with
  | nil => rfl
  | cons c cs ih =>
    have rest := @ih (L.set mem c.1 c.2) (by rwa [L.length_set])
      fun d hd => outside d (List.mem_cons_of_mem _ hd)
    rw [setAll, rest]
    exact ByteField.byteAt_write_outside (within c.1) (outside c List.mem_cons_self)

end Layout

end DriftTracing.Lib
