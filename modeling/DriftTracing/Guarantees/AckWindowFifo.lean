import Mathlib.Data.List.Find
import DriftTracing.Lib.BoundedFifo
import DriftTracing.Lib.Runs
import DriftTracing.Source.AckWindow

/-!
# The ACK window is a bounded first-in first-out list

The records from `oldest_idx` up to but excluding `latest_idx`, read circularly,
form a list of at most `SIZE - 1` records. `store` is `push` on it, and both
search branches of `acknowledge` are `takeThrough`: the oldest record with the
number is removed together with everything older. Every finite sequence of calls
on a fresh window therefore answers as the list does.
-/
namespace DriftTracing.Source.AckWindow
open DriftTracing.Lib

variable {size : Nat}

/-- Below 2^32 the `int32_t` image of an ACK number tells the ACK. This includes the
negative images, and the image of 0xFFFFFFFF, which is `SRT_SEQNO_NONE`. -/
theorem toInt32_ofNat_injective {a b : Nat} (ha : a < 2 ^ 32) (hb : b < 2 ^ 32)
    (h : (UInt32.ofNat a).toInt32 = (UInt32.ofNat b).toInt32) : a = b := by
  have same : UInt32.ofNat a = UInt32.ofNat b := by
    have := congrArg Int32.toUInt32 h
    simpa using this
  have := congrArg UInt32.toNat same
  rwa [UInt32.toNat_ofNat', UInt32.toNat_ofNat', Nat.mod_eq_of_lt ha, Nat.mod_eq_of_lt hb] at this

/-- How many records lie between the two indices, around the physical end. -/
def heldCount (w : AckWindow size) : Nat :=
  if w.oldestIdx ≤ w.latestIdx then w.latestIdx - w.oldestIdx
  else w.latestIdx + size - w.oldestIdx

/-- The live records, oldest first. -/
def held (w : AckWindow size) : List Entry :=
  Circular.read w.record size w.oldestIdx w.heldCount

/-- Both indices address a slot, and there are not more slots than an `int` can count
twice. -/
structure InBounds (w : AckWindow size) : Prop where
  latest : w.latestIdx < size
  oldest : w.oldestIdx < size
  small : size ≤ 2 ^ 30

/-- The list operations the window stands for. -/
def fifoCall (cap : Nat) (records : List Entry) : Call → Option RttPair × List Entry
  | .store ackno pktseqno std sys =>
    (none, BoundedFifo.push cap records ⟨ackno, pktseqno, std, sys⟩)
  | .acknowledge ackno std sys =>
    match BoundedFifo.takeThrough (fun e => ackno == e.ackno) records with
    | some (e, newer) =>
      (some ⟨Int32.ofInt ((std - e.sendtimeStd).tdiv 1000),
        Int32.ofInt ((sys - e.sendtimeSys).tdiv 1000)⟩, newer)
    | none => (some ⟨-1, -1⟩, records)

theorem InBounds.heldCount_lt {w : AckWindow size} (h : w.InBounds) : w.heldCount < size := by
  have := h.latest
  have := h.oldest
  unfold heldCount
  split <;> omega

/-- The slot behind the last live record is the one the next `store` writes. -/
theorem InBounds.behind {w : AckWindow size} (h : w.InBounds) :
    (w.oldestIdx + w.heldCount) % size = w.latestIdx := by
  have hl := h.latest
  have ho := h.oldest
  unfold heldCount
  split
  · rw [Nat.add_sub_cancel' ‹_›, Nat.mod_eq_of_lt hl]
  · rw [Nat.add_sub_cancel' (by omega), Nat.add_mod_right, Nat.mod_eq_of_lt hl]

/-- The distance between the indices is the only offset below `SIZE` that leads
from the oldest record to the slot behind the newest. -/
theorem InBounds.heldCount_eq {w : AckWindow size} (h : w.InBounds) {count : Nat}
    (hcount : count < size) (behind : (w.oldestIdx + count) % size = w.latestIdx) :
    w.heldCount = count :=
  Circular.offset_injective h.heldCount_lt hcount (h.behind.trans behind.symm)

theorem held_length (w : AckWindow size) : w.held.length = w.heldCount :=
  Circular.read_length ..

/-- One slot always stays free: full and empty are distinguishable. -/
theorem InBounds.held_length_le {w : AckWindow size} (h : w.InBounds) :
    w.held.length ≤ size - 1 := by
  have := h.heldCount_lt
  rw [held_length]
  omega

theorem held_eq_nil_of_indices_eq {w : AckWindow size} (h : w.oldestIdx = w.latestIdx) :
    w.held = [] := by
  simp [held, heldCount, h]

theorem record_of_set {w w' : AckWindow size} {i : Nat} {e : Entry} (hi : i < size)
    (h : w'.records = w.records.setIfInBounds i e) (j : Nat) :
    w'.record j = if i = j then e else w.record j := by
  unfold record
  rw [h, Vector.getElem?_setIfInBounds]
  by_cases same : i = j
  · simp [← same, hi]
  · simp [same]

theorem fresh_inBounds (hsize : 1 ≤ size) (small : size ≤ 2 ^ 30) : (fresh size).InBounds :=
  ⟨hsize, hsize, small⟩

theorem fresh_held (size : Nat) : (fresh size).held = [] :=
  held_eq_nil_of_indices_eq rfl

theorem InBounds.reset {w : AckWindow size} (h : w.InBounds) : w.reset.InBounds :=
  ⟨Nat.zero_lt_of_lt h.latest, Nat.zero_lt_of_lt h.latest, h.small⟩

theorem reset_held (w : AckWindow size) : w.reset.held = [] :=
  held_eq_nil_of_indices_eq rfl

theorem store_inBounds {w : AckWindow size} (h : w.InBounds) (ackno pktseqno : Int32)
    (std sys : Int) : (w.store ackno pktseqno std sys).InBounds := by
  have hsize : 0 < size := Nat.zero_lt_of_lt h.latest
  constructor
  · exact Nat.mod_lt _ hsize
  · unfold store
    dsimp only
    split
    · exact Nat.mod_lt _ hsize
    · exact h.oldest
  · exact h.small

/-- The record lands behind the live ones and disturbs none of them. -/
theorem store_appends {w : AckWindow size} (h : w.InBounds) (ackno pktseqno : Int32)
    (std sys : Int) :
    Circular.read (w.store ackno pktseqno std sys).record size w.oldestIdx (w.heldCount + 1) =
      w.held ++ [⟨ackno, pktseqno, std, sys⟩] := by
  have records := @record_of_set size w (w.store ackno pktseqno std sys) _ _ h.latest rfl
  rw [Circular.read_succ, h.behind, records, if_pos rfl]
  congr 1
  apply Circular.read_write_behind h.heldCount_lt
  intro i outside
  rw [h.behind] at outside
  rw [records, if_neg (Ne.symm outside)]

/-- The advanced head meets the tail exactly when `SIZE - 1` records were held. -/
theorem InBounds.meets_iff {w : AckWindow size} (h : w.InBounds) :
    (w.latestIdx + 1) % size = w.oldestIdx ↔ w.heldCount + 1 = size := by
  have advanced : (w.latestIdx + 1) % size = (w.oldestIdx + (w.heldCount + 1)) % size := by
    rw [← h.behind, Nat.mod_add_mod, Nat.add_assoc]
  have start : (w.oldestIdx + 0) % size = w.oldestIdx := Nat.mod_eq_of_lt h.oldest
  rw [advanced]
  constructor
  · intro met
    by_contra apart
    have room : w.heldCount + 1 < size := by
      have := h.heldCount_lt
      omega
    have := Circular.offset_injective room (by omega) (met.trans start.symm)
    omega
  · intro full
    rw [full, Nat.add_mod_right, Nat.mod_eq_of_lt h.oldest]

/-- `store` appends the record and, with `SIZE - 1` records held, drops the oldest. -/
theorem store_held {w : AckWindow size} (h : w.InBounds) (ackno pktseqno : Int32)
    (std sys : Int) :
    (w.store ackno pktseqno std sys).held =
      BoundedFifo.push (size - 1) w.held ⟨ackno, pktseqno, std, sys⟩ := by
  have bounds := store_inBounds h ackno pktseqno std sys
  have latest : (w.store ackno pktseqno std sys).latestIdx = (w.latestIdx + 1) % size := rfl
  have hc := h.heldCount_lt
  unfold BoundedFifo.push
  rw [held_length, ← store_appends h]
  by_cases full : w.heldCount + 1 = size
  · have met := h.meets_iff.mpr full
    have oldest : (w.store ackno pktseqno std sys).oldestIdx = (w.oldestIdx + 1) % size := by
      simp [store, met]
    have count : (w.store ackno pktseqno std sys).heldCount = w.heldCount := by
      apply bounds.heldCount_eq hc
      rw [oldest, latest, met, Nat.mod_add_mod, Nat.add_assoc, Nat.add_comm 1, full,
        Nat.add_mod_right, Nat.mod_eq_of_lt h.oldest]
    rw [if_pos (by omega), Circular.read_tail, Nat.add_sub_cancel, held, count, oldest,
      Circular.read_start_mod]
  · have oldest : (w.store ackno pktseqno std sys).oldestIdx = w.oldestIdx := by
      simp [store, mt h.meets_iff.mp full]
    have count : (w.store ackno pktseqno std sys).heldCount = w.heldCount + 1 := by
      apply bounds.heldCount_eq (by omega)
      rw [oldest, latest, ← Nat.add_assoc, ← h.behind, Nat.mod_add_mod]
    rw [if_neg (by omega), held, count, oldest]

/-- Moving the tail behind index `j` keeps exactly the records newer than it. -/
theorem advance_held {w : AckWindow size} (h : w.InBounds) {j : Nat} (low : w.oldestIdx ≤ j)
    (high : j < w.oldestIdx + w.heldCount) :
    AckWindow.InBounds { w with oldestIdx := (j + 1) % size } ∧
      held { w with oldestIdx := (j + 1) % size } =
        Circular.read w.record size (j + 1) (w.oldestIdx + w.heldCount - (j + 1)) := by
  have hsize : 0 < size := Nat.zero_lt_of_lt h.latest
  have bounds : AckWindow.InBounds { w with oldestIdx := (j + 1) % size } :=
    ⟨h.latest, Nat.mod_lt _ hsize, h.small⟩
  have hc := h.heldCount_lt
  refine ⟨bounds, ?_⟩
  have count : heldCount { w with oldestIdx := (j + 1) % size } =
      w.oldestIdx + w.heldCount - (j + 1) := by
    apply bounds.heldCount_eq (by omega)
    dsimp only
    rw [Nat.mod_add_mod, Nat.add_sub_cancel' (by omega), h.behind]
  rw [held, count]
  exact Circular.read_start_mod ..

/-- The physical index of the unwrapped branch is already reduced. -/
theorem firstIndex_unwrapped {w : AckWindow size} (h : w.InBounds) (ackno : Int32)
    (unwrapped : w.oldestIdx ≤ w.latestIdx) :
    firstIndex w.oldestIdx w.latestIdx (fun i => ackno == (w.record i).ackno) =
      (List.range' w.oldestIdx w.heldCount).find? fun j =>
        ackno == (w.record (j % size)).ackno := by
  rw [firstIndex, Int.toNat_natCast, heldCount, if_pos unwrapped]
  apply List.find?_congr
  intro i hi
  rw [List.mem_range'_1] at hi
  have := h.latest
  rw [Nat.mod_eq_of_lt (by omega)]

/-- In the wrapped branch the newest record is at least two slots below the end, so the
cut to `int` loses nothing. -/
theorem InBounds.searchEnd_eq {w : AckWindow size} (h : w.InBounds)
    (wrapped : ¬ w.oldestIdx ≤ w.latestIdx) : w.searchEnd = (w.latestIdx + size : Nat) := by
  have := h.oldest
  have := h.small
  exact toInt_toInt (by omega) (by omega)

theorem firstIndex_wrapped {w : AckWindow size} (h : w.InBounds) (ackno : Int32)
    (wrapped : ¬ w.oldestIdx ≤ w.latestIdx) :
    firstIndex w.oldestIdx w.searchEnd (fun j => ackno == (w.record (j % size)).ackno) =
      (List.range' w.oldestIdx w.heldCount).find? fun j =>
        ackno == (w.record (j % size)).ackno := by
  rw [firstIndex, h.searchEnd_eq wrapped, Int.toNat_natCast, heldCount, if_neg wrapped]

/-- Both search branches, with their different emptiness tests, are the same
operation: the first hit in reading order, with everything up to it removed. -/
theorem acknowledge_eq {w : AckWindow size} (h : w.InBounds) (ackno : Int32) (std sys : Int) :
    match (List.range' w.oldestIdx w.heldCount).find? fun j =>
        ackno == (w.record (j % size)).ackno with
    | some j => (w.acknowledge ackno std sys).1 = (w.record (j % size)).rtt std sys ∧
        (w.acknowledge ackno std sys).2.InBounds ∧
        (w.acknowledge ackno std sys).2.held =
          Circular.read w.record size (j + 1) (w.oldestIdx + w.heldCount - (j + 1))
    | none => w.acknowledge ackno std sys = (RttPair.none, w) := by
  have hsize : 0 < size := Nat.zero_lt_of_lt h.latest
  have hl := h.latest
  by_cases unwrapped : w.oldestIdx ≤ w.latestIdx
  · have count : w.oldestIdx + w.heldCount = w.latestIdx := by
      rw [heldCount, if_pos unwrapped, Nat.add_sub_cancel' unwrapped]
    rw [acknowledge, if_pos unwrapped, ← firstIndex_unwrapped h ackno unwrapped]
    cases found : firstIndex w.oldestIdx w.latestIdx fun i => ackno == (w.record i).ackno with
    | none => rfl
    | some i =>
      have range := List.mem_of_find?_eq_some found
      rw [List.mem_range'_1] at range
      have reduced : i % size = i := Nat.mod_eq_of_lt (by omega)
      dsimp only
      rw [reduced]
      refine ⟨rfl, ?_⟩
      split
      · next newest =>
        rw [count, ← newest, Nat.sub_self]
        exact ⟨h.reset, w.reset_held⟩
      · exact advance_held h range.1 (by omega)
  · have count : w.oldestIdx + w.heldCount = w.latestIdx + size := by
      rw [heldCount, if_neg unwrapped, Nat.add_sub_cancel' (by have := h.oldest; omega)]
    rw [acknowledge, if_neg unwrapped, ← firstIndex_wrapped h ackno unwrapped]
    cases found : firstIndex w.oldestIdx w.searchEnd
        fun j => ackno == (w.record (j % size)).ackno with
    | none => rfl
    | some k =>
      have range := List.mem_of_find?_eq_some found
      rw [List.mem_range'_1, h.searchEnd_eq unwrapped, Int.toNat_natCast] at range
      -- the test for the newest record is never true here: index `latest_idx` is not searched
      have searched : k % size ≠ w.latestIdx := by
        intro same
        have := Nat.mod_add_div k size
        rcases Nat.lt_or_ge k size with below | above
        · rw [Nat.mod_eq_of_lt below] at same
          omega
        · rw [Nat.mod_eq_sub_mod above, Nat.mod_eq_of_lt (by omega)] at same
          omega
      dsimp only
      rw [if_neg searched]
      refine ⟨rfl, ?_⟩
      rw [Nat.mod_add_mod]
      exact advance_held h range.1 (by omega)

/-- `acknowledge` on the live records. -/
theorem acknowledge_held {w : AckWindow size} (h : w.InBounds) (ackno : Int32) (std sys : Int) :
    match BoundedFifo.takeThrough (fun e => ackno == e.ackno) w.held with
    | some (e, newer) => (w.acknowledge ackno std sys).1 = e.rtt std sys ∧
        (w.acknowledge ackno std sys).2.InBounds ∧
        (w.acknowledge ackno std sys).2.held = newer
    | none => w.acknowledge ackno std sys = (RttPair.none, w) := by
  have spec := acknowledge_eq h ackno std sys
  rw [held, BoundedFifo.takeThrough_read]
  revert spec
  cases (List.range' w.oldestIdx w.heldCount).find? fun j =>
      ackno == (w.record (j % size)).ackno with
  | none => exact id
  | some j => exact id

/-- One call keeps the indices in range and acts on the live records as the
list operation does. -/
theorem call_refines {w : AckWindow size} (h : w.InBounds) (c : Call) :
    (w.call c).1 = (fifoCall (size - 1) w.held c).1 ∧
      (w.call c).2.InBounds ∧ (w.call c).2.held = (fifoCall (size - 1) w.held c).2 := by
  cases c with
  | store ackno pktseqno std sys =>
    exact ⟨rfl, store_inBounds h .., store_held h ..⟩
  | acknowledge ackno std sys =>
    have spec := acknowledge_held h ackno std sys
    simp only [call, fifoCall]
    split at spec
    · next found =>
      obtain ⟨result, bounds, rest⟩ := spec
      simp only [result]
      exact ⟨rfl, bounds, rest⟩
    · next missed =>
      simp only [spec]
      exact ⟨rfl, h, trivial⟩

/-- A search ends inside the range it runs over. -/
theorem firstIndex_lt {start i : Nat} {n : Int} {hit : Nat → Bool}
    (found : firstIndex start n hit = some i) : start ≤ i ∧ (i : Int) < n := by
  have range := List.mem_of_find?_eq_some found
  rw [List.mem_range'_1] at range
  omega

/-- For any number of slots the indices stay in range, whatever the cut to `int` makes
of the end of a search. -/
theorem call_indices_lt {w : AckWindow size} (latest : w.latestIdx < size)
    (oldest : w.oldestIdx < size) (c : Call) :
    (w.call c).2.latestIdx < size ∧ (w.call c).2.oldestIdx < size := by
  have hsize : 0 < size := Nat.zero_lt_of_lt latest
  cases c with
  | store ackno pktseqno std sys =>
    refine ⟨Nat.mod_lt _ hsize, ?_⟩
    simp only [call, store]
    split
    · exact Nat.mod_lt _ hsize
    · exact oldest
  | acknowledge ackno std sys =>
    simp only [call, acknowledge]
    split
    · split
      · dsimp only
        split
        · exact ⟨hsize, hsize⟩
        · exact ⟨latest, Nat.mod_lt _ hsize⟩
      · exact ⟨latest, oldest⟩
    · split
      · dsimp only
        split
        · exact ⟨hsize, hsize⟩
        · exact ⟨latest, Nat.mod_lt _ hsize⟩
      · exact ⟨latest, oldest⟩

/-- The natural numbers of the model are what the `int`s of the source hold: with fewer
than 2^31 slots no index, advanced by one, leaves the range of `int`. -/
theorem indices_fit_int (hsize : 1 ≤ size) (hint : size < 2 ^ 31) (calls : List Call) :
    let w := (Runs.run call (fresh size) calls).2
    w.latestIdx + 1 < 2 ^ 31 ∧ w.oldestIdx + 1 < 2 ^ 31 ∧
      (∀ i hit, firstIndex w.oldestIdx w.latestIdx hit = some i → i + 1 < 2 ^ 31) ∧
      ∀ j hit, firstIndex w.oldestIdx w.searchEnd hit = some j → j + 1 < 2 ^ 31 := by
  intro w
  have start : (fresh size).latestIdx < size ∧ (fresh size).oldestIdx < size := ⟨hsize, hsize⟩
  have inside : w.latestIdx < size ∧ w.oldestIdx < size :=
    Runs.run_invariant (I := fun w : AckWindow size => w.latestIdx < size ∧ w.oldestIdx < size)
      (fun w c inside => call_indices_lt inside.1 inside.2 c) start calls
  refine ⟨by omega, by omega, fun i hit found => ?_, fun j hit found => ?_⟩
  · have := (firstIndex_lt found).2
    omega
  · have below := (firstIndex_lt found).2
    have := Int32.toInt_lt (toInt (w.latestIdx + size))
    rw [searchEnd] at below
    omega

/-- Every finite sequence of calls on a fresh window answers as the bounded list
does, and leaves the indices in range and the list's records live. The size
bound keeps the largest index expression, `latest_idx + SIZE`, inside `int`. -/
theorem window_refines_fifo (size : Nat) (hsize : 1 ≤ size) (hint : size < 2 ^ 30)
    (calls : List Call) :
    let window := Runs.run call (fresh size) calls
    let fifo := Runs.run (fifoCall (size - 1)) [] calls
    window.1 = fifo.1 ∧ window.2.held = fifo.2 ∧ window.2.held.length ≤ size - 1 ∧
      window.2.latestIdx < size ∧ window.2.oldestIdx < size ∧
      window.2.latestIdx + size < 2 ^ 31 := by
  have matched (w : AckWindow size) (records : List Entry) (c : Call)
      (h : w.InBounds ∧ w.held = records) :
      (w.call c).1 = (fifoCall (size - 1) records c).1 ∧
        (w.call c).2.InBounds ∧ (w.call c).2.held = (fifoCall (size - 1) records c).2 := by
    obtain ⟨bounds, rfl⟩ := h
    exact call_refines bounds c
  obtain ⟨outputs, bounds, live⟩ :=
    Runs.run_simulation matched ⟨fresh_inBounds hsize (by omega), fresh_held size⟩ calls
  refine ⟨outputs, live, bounds.held_length_le, bounds.latest, bounds.oldest, ?_⟩
  have := bounds.latest
  omega

/-- Four slots around the physical end: the third ACK is stored into slot 2, the
fourth into slot 3 after ACK 1 was matched, the fifth into slot 0. -/
def aroundTheEnd : List Call :=
  [.store 1 0 1000 1000, .store 2 0 2000 2000, .store 3 0 3000 3000, .acknowledge 1 9000 9000,
    .store 4 0 4000 4000, .store 5 0 5000 5000, .acknowledge 7 9000 9000, .acknowledge 4 9000 9000]

theorem window_refines_fifo_around_the_end :
    let window := Runs.run call (fresh 4) aroundTheEnd
    let fifo := Runs.run (fifoCall 3) [] aroundTheEnd
    window.1 = fifo.1 ∧ window.2.held = fifo.2 ∧ window.2.held.length ≤ 3 ∧
      window.2.latestIdx < 4 ∧ window.2.oldestIdx < 4 ∧ window.2.latestIdx + 4 < 2 ^ 31 :=
  window_refines_fifo 4 (by decide) (by decide) aroundTheEnd

end DriftTracing.Source.AckWindow
