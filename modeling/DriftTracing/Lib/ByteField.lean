import Mathlib.Tactic.Linarith
import Mathlib.Tactic.Ring

/-!
# Big-endian fields in byte memory

A little-endian host loads and stores words with the least significant byte first,
and swaps the bytes of every word it exchanges. `read` and `write` are these two
steps together: a field holds its value big-endian. A read depends on the bytes of
its field and on no others, and tells any two contents of them apart.
-/
namespace DriftTracing.Lib.ByteField

/-- The byte at an index; behind the end there are zeros. -/
def byteAt (mem : List UInt8) (i : Nat) : UInt8 := mem[i]?.getD 0

/-- The word of `width` bytes at `offset`, least significant byte first. -/
def load (mem : List UInt8) (offset : Nat) : Nat → Nat
  | 0 => 0
  | width + 1 => (byteAt mem offset).toNat + 256 * load mem (offset + 1) width

def store (mem : List UInt8) (offset : Nat) : Nat → Nat → List UInt8
  | 0, _ => mem
  | width + 1, value => store (mem.set offset (UInt8.ofNat value)) (offset + 1) width (value / 256)

/-- The word with its `width` bytes in reverse order. -/
def bswap : Nat → Nat → Nat
  | 0, _ => 0
  | width + 1, value => value % 256 * 256 ^ width + bswap width (value / 256)

def read (mem : List UInt8) (offset width : Nat) : Nat := bswap width (load mem offset width)

def write (mem : List UInt8) (offset width value : Nat) : List UInt8 :=
  store mem offset width (bswap width value)

variable {mem mem' : List UInt8} {offset width value : Nat}

@[simp] theorem read_zero (mem : List UInt8) (offset : Nat) : read mem offset 0 = 0 := rfl

/-- The first byte is the most significant one. -/
theorem read_succ (mem : List UInt8) (offset width : Nat) :
    read mem offset (width + 1) =
      (byteAt mem offset).toNat * 256 ^ width + read mem (offset + 1) width := by
  have byte := (byteAt mem offset).toNat_lt
  rw [read, load, bswap, Nat.add_mul_mod_self_left, Nat.mod_eq_of_lt (by omega),
    Nat.add_mul_div_left _ _ (by decide), Nat.div_eq_of_lt (by omega), Nat.zero_add, read]

theorem read_lt (mem : List UInt8) (offset width : Nat) : read mem offset width < 256 ^ width := by
  induction width generalizing offset with
  | zero => simp
  | succ width ih =>
    have byte := (byteAt mem offset).toNat_lt
    have scaled : (byteAt mem offset).toNat * 256 ^ width ≤ 255 * 256 ^ width :=
      Nat.mul_le_mul_right _ (by omega)
    have := ih (offset + 1)
    rw [read_succ, pow_succ]
    omega

/-- Two memories read alike exactly when they agree on every byte of the field. -/
theorem read_eq_iff : read mem offset width = read mem' offset width ↔
    ∀ i < width, byteAt mem (offset + i) = byteAt mem' (offset + i) := by
  induction width generalizing offset with
  | zero => simp
  | succ width ih =>
    have low := read_lt mem (offset + 1) width
    have low' := read_lt mem' (offset + 1) width
    have positive : 0 < 256 ^ width := by positivity
    rw [read_succ, read_succ]
    constructor
    · intro equal
      have top := congrArg (· / 256 ^ width) equal
      have rest := congrArg (· % 256 ^ width) equal
      simp only [Nat.add_comm (_ * 256 ^ width), Nat.add_mul_div_right _ _ positive,
        Nat.add_mul_mod_self_right, Nat.div_eq_of_lt low, Nat.div_eq_of_lt low',
        Nat.mod_eq_of_lt low, Nat.mod_eq_of_lt low', Nat.zero_add] at top rest
      intro i hi
      cases i with
      | zero => exact UInt8.toNat_inj.mp top
      | succ i =>
        have := ih.mp rest i (by omega)
        rwa [Nat.add_right_comm, Nat.add_assoc] at this
    · intro bytes
      have rest : ∀ i < width, byteAt mem (offset + 1 + i) = byteAt mem' (offset + 1 + i) := by
        intro i hi
        have := bytes (i + 1) (by omega)
        rwa [Nat.add_comm i, ← Nat.add_assoc] at this
      have first : byteAt mem offset = byteAt mem' offset := bytes 0 (by omega)
      rw [ih.mpr rest, first]

/-- The bytes of a field are the digits of its value, the most significant first. -/
theorem byteAt_eq_digit {i : Nat} (h : i < width) :
    (byteAt mem (offset + i)).toNat = read mem offset width / 256 ^ (width - 1 - i) % 256 := by
  induction width generalizing offset i with
  | zero => omega
  | succ width ih =>
    have low := read_lt mem (offset + 1) width
    have byte := (byteAt mem offset).toNat_lt
    rw [read_succ, Nat.add_sub_cancel]
    cases i with
    | zero =>
      rw [Nat.sub_zero, Nat.add_zero, Nat.add_comm, Nat.add_mul_div_right _ _ (by positivity),
        Nat.div_eq_of_lt low, Nat.zero_add, Nat.mod_eq_of_lt byte]
    | succ i =>
      have next := @ih (offset + 1) i (by omega)
      have digits : width = (width - 1 - i) + 1 + i := by omega
      have place : width - (i + 1) = width - 1 - i := by omega
      have scaled : (byteAt mem offset).toNat * 256 ^ width =
          256 ^ (width - 1 - i) * (256 * ((byteAt mem offset).toNat * 256 ^ i)) := by
        conv_lhs => rw [digits, pow_add, pow_succ]
        ring
      rw [place, scaled, Nat.mul_add_div (by positivity), Nat.mul_add_mod, ← next]
      congr 2
      omega

theorem byteAt_append_left {front : List UInt8} {i : Nat} (rest : List UInt8)
    (h : i < front.length) : byteAt (front ++ rest) i = byteAt front i := by
  rw [byteAt, byteAt, List.getElem?_append_left h]

theorem byteAt_append_right {front : List UInt8} {i : Nat} (rest : List UInt8)
    (h : front.length ≤ i) : byteAt (front ++ rest) i = byteAt rest (i - front.length) := by
  rw [byteAt, byteAt, List.getElem?_append_right h]

theorem byteAt_set (mem : List UInt8) (i j : Nat) (b : UInt8) (h : i < mem.length) :
    byteAt (mem.set i b) j = if i = j then b else byteAt mem j := by
  unfold byteAt
  by_cases same : i = j
  · rw [if_pos same, ← same, List.getElem?_set_self h]
    rfl
  · rw [if_neg same, List.getElem?_set_ne same]

/-- The bytes of the reversed word, from the other end. -/
theorem bswap_succ (width value : Nat) :
    bswap (width + 1) value = value / 256 ^ width % 256 + 256 * bswap width value := by
  induction width generalizing value with
  | zero => simp [bswap]
  | succ width ih =>
    rw [bswap, ih, bswap, Nat.div_div_eq_div_mul, pow_succ, Nat.mul_comm 256 (256 ^ width)]
    ring

theorem write_succ (mem : List UInt8) (offset width value : Nat) :
    write mem offset (width + 1) value =
      write (mem.set offset (UInt8.ofNat (value / 256 ^ width))) (offset + 1) width value := by
  rw [write, bswap_succ, store, Nat.add_mul_div_left _ _ (by decide),
    Nat.div_eq_of_lt (Nat.mod_lt _ (by decide)), Nat.zero_add, write]
  congr 2
  apply UInt8.toNat_inj.mp
  simp

@[simp] theorem length_write (mem : List UInt8) (offset width value : Nat) :
    (write mem offset width value).length = mem.length := by
  induction width generalizing mem offset with
  | zero => rfl
  | succ width ih => rw [write_succ, ih, List.length_set]

/-- A write changes no byte outside its field. -/
theorem byteAt_write_outside (inside : offset + width ≤ mem.length) {i : Nat}
    (outside : i < offset ∨ offset + width ≤ i) :
    byteAt (write mem offset width value) i = byteAt mem i := by
  induction width generalizing mem offset with
  | zero => rfl
  | succ width ih =>
    rw [write_succ, ih (by rw [List.length_set]; omega) (by omega),
      byteAt_set _ _ _ _ (by omega), if_neg (by omega)]

/-- A field that does not overlap the written one reads as before. -/
theorem read_write_disjoint {at' size : Nat} (inside : offset + width ≤ mem.length)
    (apart : at' + size ≤ offset ∨ offset + width ≤ at') :
    read (write mem offset width value) at' size = read mem at' size :=
  read_eq_iff.mpr fun _ _ => byteAt_write_outside inside (by omega)

/-- The field holds what was written, cut to its width. -/
theorem read_write (inside : offset + width ≤ mem.length) :
    read (write mem offset width value) offset width = value % 256 ^ width := by
  induction width generalizing mem offset with
  | zero => simp [Nat.mod_one]
  | succ width ih =>
    have split : value % 256 ^ (width + 1) =
        value % 256 ^ width + 256 ^ width * (value / 256 ^ width % 256) := by
      rw [pow_succ, Nat.mod_mul]
    rw [write_succ, read_succ, ih (by rw [List.length_set]; omega),
      byteAt_write_outside (by rw [List.length_set]; omega) (by omega),
      byteAt_set _ _ _ _ (by omega), if_pos rfl, UInt8.toNat_ofNat', split,
      Nat.add_comm, Nat.mul_comm (256 ^ width)]

end DriftTracing.Lib.ByteField
