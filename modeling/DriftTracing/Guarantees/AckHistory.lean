import DriftTracing.Guarantees.AckWindowFifo
import Mathlib.Data.List.Nodup

/-!
# Which ACKACKs give an RTT

The live records, told from the history of the calls alone: a record is live as long
as fewer than `SIZE - 1` stores followed it, and no `acknowledge` matched its number
or the number of a record stored after it. Evictions, partial acknowledgements and
the reset to the first slot are not mentioned.
-/
namespace DriftTracing.Source.AckWindow
open DriftTracing.Lib

variable {size : Nat}

/-- A call together with what it returned. -/
def answer (w : AckWindow size) (c : Call) : (Call × Option RttPair) × AckWindow size :=
  ((c, (w.call c).1), (w.call c).2)

/-- The window after a sequence of calls on a fresh one. -/
def afterCalls (size : Nat) (calls : List Call) : AckWindow size :=
  (Runs.run answer (fresh size) calls).2

/-- The record a call stores. -/
def storedEntry : Call → Option Entry
  | .store ackno pktseqno std sys => some ⟨ackno, pktseqno, std, sys⟩
  | .acknowledge _ _ _ => none

/-- The records stored by the calls, in order. -/
def storedBy (calls : List Call) : List Entry := calls.filterMap storedEntry

/-- The number a call matched: it was acknowledged, and not answered with the error value. -/
def matchedNumber : Call × Option RttPair → Option Int32
  | (.acknowledge ackno _ _, some result) => if result = RttPair.none then none else some ackno
  | _ => none

/-- The numbers matched by the calls. -/
def matchedBy (size : Nat) (calls : List Call) : List Int32 :=
  (Runs.run answer (fresh size) calls).1.filterMap matchedNumber

/-- The numbers stored are pairwise distinct. -/
def DistinctNumbers (calls : List Call) : Prop := ((storedBy calls).map Entry.ackno).Nodup

/-- Whenever a number is acknowledged that was stored before, less than 2^31
microseconds have elapsed since, and the steady clock has not gone back. -/
def ElapsedFits (calls : List Call) : Prop :=
  ∀ pre ackno std sys post, calls = pre ++ .acknowledge ackno std sys :: post →
    ∀ e ∈ storedBy pre, e.ackno = ackno →
      0 ≤ std - e.sendtimeStd ∧ std - e.sendtimeStd < 2 ^ 31 * 1000

/-- The record was stored, fewer than `SIZE - 1` stores followed it, and no call
matched its number or that of a record stored after it. -/
def LiveByHistory (size : Nat) (calls : List Call) (e : Entry) : Prop :=
  ∃ older newer, storedBy calls = older ++ e :: newer ∧ newer.length < size - 1 ∧
    ∀ x ∈ e :: newer, x.ackno ∉ matchedBy size calls

theorem storedBy_snoc (calls : List Call) (c : Call) :
    storedBy (calls ++ [c]) = storedBy calls ++ (storedEntry c).toList := by
  rw [storedBy, List.filterMap_append, storedBy, List.filterMap_cons, List.filterMap_nil]
  cases storedEntry c <;> rfl

theorem afterCalls_snoc (size : Nat) (calls : List Call) (c : Call) :
    afterCalls size (calls ++ [c]) = ((afterCalls size calls).call c).2 :=
  Runs.run_snoc_state ..

theorem matchedBy_snoc (size : Nat) (calls : List Call) (c : Call) :
    matchedBy size (calls ++ [c]) =
      matchedBy size calls ++ (matchedNumber (c, ((afterCalls size calls).call c).1)).toList := by
  rw [matchedBy, Runs.run_append, List.filterMap_append, matchedBy]
  change _ ++ List.filterMap matchedNumber [(c, ((afterCalls size calls).call c).1)] = _
  rw [List.filterMap_cons, List.filterMap_nil]
  cases matchedNumber (c, ((afterCalls size calls).call c).1) <;> rfl

theorem DistinctNumbers.init {calls : List Call} {c : Call}
    (h : DistinctNumbers (calls ++ [c])) : DistinctNumbers calls := by
  unfold DistinctNumbers at h ⊢
  rw [storedBy_snoc, List.map_append] at h
  exact h.of_append_left

theorem ElapsedFits.init {calls : List Call} {c : Call} (h : ElapsedFits (calls ++ [c])) :
    ElapsedFits calls := by
  intro pre ackno std sys post split
  exact h pre ackno std sys (post ++ [c]) (by rw [split]; simp)

/-- One more call, in time for the record it asks for. -/
theorem ElapsedFits.snoc {calls : List Call} (h : ElapsedFits calls) {c : Call}
    (last : ∀ ackno std sys, c = .acknowledge ackno std sys →
      ∀ e ∈ storedBy calls, e.ackno = ackno →
        0 ≤ std - e.sendtimeStd ∧ std - e.sendtimeStd < 2 ^ 31 * 1000) :
    ElapsedFits (calls ++ [c]) := by
  intro pre ackno std sys post split
  cases post using List.reverseRecOn with
  | nil =>
    obtain ⟨rfl, same⟩ := List.append_inj' split rfl
    exact last ackno std sys (by simpa using same)
  | append_singleton post d =>
    rw [← List.cons_append, ← List.append_assoc] at split
    exact h pre ackno std sys post (List.append_inj' split rfl).1

theorem LiveByHistory.stored {calls : List Call} {e : Entry} (h : LiveByHistory size calls e) :
    e ∈ storedBy calls := by
  obtain ⟨older, newer, whole, -⟩ := h
  rw [whole]
  simp

/-- An elapsed time in range is no error value. -/
theorem rtt_of_elapsed {e : Entry} {std : Int} (sys : Int) (low : 0 ≤ std - e.sendtimeStd)
    (high : std - e.sendtimeStd < 2 ^ 31 * 1000) :
    (e.rtt std sys).rttStd.toInt = countMicroseconds (std - e.sendtimeStd) ∧
      e.rtt std sys ≠ RttPair.none := by
  have quotient : countMicroseconds (std - e.sendtimeStd) = (std - e.sendtimeStd) / 1000 :=
    Int.tdiv_eq_ediv_of_nonneg low
  have value : (e.rtt std sys).rttStd.toInt = countMicroseconds (std - e.sendtimeStd) :=
    toInt_toInt (by omega) (by omega)
  refine ⟨value, fun error => ?_⟩
  rw [error] at value
  have : RttPair.none.rttStd.toInt = -1 := by decide
  omega

/-- The live records are the newest ones of the history that are not gone. -/
structure KeepsHistory (size : Nat) (calls : List Call) : Prop where
  bounds : (afterCalls size calls).InBounds
  live : (afterCalls size calls).held =
    BoundedFifo.recent (size - 1) (fun e => decide (e.ackno ∈ matchedBy size calls))
      (storedBy calls)
  stored : ∀ ackno ∈ matchedBy size calls, ∃ e ∈ storedBy calls, e.ackno = ackno

theorem keepsHistory_nil (hsize : 1 ≤ size) (small : size ≤ 2 ^ 30) : KeepsHistory size [] where
  bounds := fresh_inBounds hsize small
  live := (fresh_held size).trans (BoundedFifo.recent_nil ..).symm
  stored := by simp [matchedBy, Runs.run]

/-- A stored record is new, so its number was not matched. -/
theorem KeepsHistory.store {calls : List Call} (h : KeepsHistory size calls)
    {ackno pktseqno : Int32} {std sys : Int}
    (distinct : DistinctNumbers (calls ++ [.store ackno pktseqno std sys])) :
    KeepsHistory size (calls ++ [.store ackno pktseqno std sys]) := by
  have stored : storedBy (calls ++ [.store ackno pktseqno std sys]) =
      storedBy calls ++ [⟨ackno, pktseqno, std, sys⟩] := storedBy_snoc ..
  have matched : matchedBy size (calls ++ [.store ackno pktseqno std sys]) =
      matchedBy size calls := by
    rw [matchedBy_snoc]
    exact List.append_nil _
  have fresh : ackno ∉ matchedBy size calls := by
    intro old
    obtain ⟨e, he, number⟩ := h.stored ackno old
    unfold DistinctNumbers at distinct
    rw [stored, List.map_append, List.nodup_append] at distinct
    exact distinct.2.2 ackno (List.mem_map.mpr ⟨e, he, number⟩) ackno (by simp) rfl
  refine ⟨?_, ?_, ?_⟩
  · rw [afterCalls_snoc]
    exact store_inBounds h.bounds ..
  · rw [afterCalls_snoc, stored, matched, ← BoundedFifo.push_recent _ _ (by simpa using fresh),
      ← h.live]
    exact store_held h.bounds ..
  · rw [matched, stored]
    intro a ha
    obtain ⟨e, he, number⟩ := h.stored a ha
    exact ⟨e, List.mem_append_left _ he, number⟩

/-- A number without a live record changes nothing. -/
theorem KeepsHistory.missed {calls : List Call} (h : KeepsHistory size calls) {ackno : Int32}
    (std sys : Int)
    (missing : BoundedFifo.takeThrough (fun e => ackno == e.ackno) (afterCalls size calls).held =
      none) :
    (afterCalls size calls).acknowledge ackno std sys = (RttPair.none, afterCalls size calls) := by
  have spec := acknowledge_held h.bounds ackno std sys
  rw [missing] at spec
  exact spec

/-- The record found was stored under the number, and its elapsed time is no error value. -/
theorem KeepsHistory.found {calls : List Call} (h : KeepsHistory size calls) {ackno : Int32}
    {std sys : Int} (elapsed : ElapsedFits (calls ++ [.acknowledge ackno std sys])) {e : Entry}
    {newer : List Entry}
    (hit : BoundedFifo.takeThrough (fun e => ackno == e.ackno) (afterCalls size calls).held =
      some (e, newer)) :
    ((afterCalls size calls).acknowledge ackno std sys).1 = e.rtt std sys ∧
      e.rtt std sys ≠ RttPair.none ∧
      ((afterCalls size calls).acknowledge ackno std sys).2.InBounds ∧
      ((afterCalls size calls).acknowledge ackno std sys).2.held = newer ∧
      ∃ older, BoundedFifo.recent (size - 1)
        (fun e => decide (e.ackno ∈ matchedBy size calls)) (storedBy calls) = older ++ e :: newer ∧
        e.ackno = ackno := by
  have spec := acknowledge_held h.bounds ackno std sys
  rw [hit] at spec
  obtain ⟨result, bounds, rest⟩ := spec
  obtain ⟨older, split, -, number⟩ := BoundedFifo.takeThrough_eq_some.mp hit
  have same : e.ackno = ackno := by
    rw [beq_iff_eq] at number
    exact number.symm
  rw [h.live] at split
  have stored : e ∈ storedBy calls := by
    apply (BoundedFifo.recent_suffix _ _ _).subset
    rw [split]
    simp
  obtain ⟨low, high⟩ := elapsed calls ackno std sys [] rfl e stored same
  exact ⟨result, (rtt_of_elapsed sys low high).2, bounds, rest, older, split, same⟩

theorem KeepsHistory.acknowledge {calls : List Call} (h : KeepsHistory size calls)
    {ackno : Int32} {std sys : Int} (distinct : DistinctNumbers calls)
    (elapsed : ElapsedFits (calls ++ [.acknowledge ackno std sys])) :
    KeepsHistory size (calls ++ [.acknowledge ackno std sys]) := by
  have stored : storedBy (calls ++ [.acknowledge ackno std sys]) = storedBy calls := by
    rw [storedBy_snoc]
    exact List.append_nil _
  have window : afterCalls size (calls ++ [.acknowledge ackno std sys]) =
      ((afterCalls size calls).acknowledge ackno std sys).2 := afterCalls_snoc ..
  have matched : matchedBy size (calls ++ [.acknowledge ackno std sys]) =
      matchedBy size calls ++
        (if ((afterCalls size calls).acknowledge ackno std sys).1 = RttPair.none then none
          else some ackno).toList := matchedBy_snoc ..
  cases hit : BoundedFifo.takeThrough (fun e => ackno == e.ackno) (afterCalls size calls).held with
  | none =>
    have missed := h.missed std sys hit
    rw [missed, if_pos rfl, Option.toList_none, List.append_nil] at matched
    rw [missed] at window
    constructor
    · rw [window]
      exact h.bounds
    · rw [window, stored, matched]
      exact h.live
    · rw [stored, matched]
      exact h.stored
  | some found =>
    obtain ⟨e, newer⟩ := found
    obtain ⟨result, measured, bounds, rest, older, split, number⟩ := h.found elapsed hit
    rw [result, if_neg measured, Option.toList_some] at matched
    have suffix : older ++ e :: newer <:+ storedBy calls := split ▸ BoundedFifo.recent_suffix ..
    constructor
    · rw [window]
      exact bounds
    · rw [window, rest, stored, matched]
      symm
      apply BoundedFifo.recent_of_gone split
      · simp [number]
      · intro y hy
        have recent : y ∈ BoundedFifo.recent (size - 1)
            (fun e => decide (e.ackno ∈ matchedBy size calls)) (storedBy calls) := by
          rw [split]
          simp [hy]
        have old := BoundedFifo.not_gone_of_mem_recent recent
        -- the numbers are distinct, so no newer record carries the one that was matched
        have apart : y.ackno ≠ ackno := by
          intro again
          have nodup := distinct.sublist (suffix.sublist.map Entry.ackno)
          rw [List.map_append, List.map_cons] at nodup
          have once := (List.nodup_cons.mp nodup.of_append_right).1
          rw [number, ← again] at once
          exact once (List.mem_map_of_mem hy)
        simpa [apart] using old
    · intro a ha
      rw [matched, List.mem_append, List.mem_singleton] at ha
      rw [stored]
      rcases ha with earlier | rfl
      · exact h.stored a earlier
      · exact ⟨e, suffix.subset (by simp), number⟩

/-- The live records are told from the history after every sequence of calls. -/
theorem keepsHistory (hsize : 1 ≤ size) (small : size ≤ 2 ^ 30) (calls : List Call)
    (distinct : DistinctNumbers calls) (elapsed : ElapsedFits calls) :
    KeepsHistory size calls := by
  induction calls using List.reverseRecOn with
  | nil => exact keepsHistory_nil hsize small
  | append_singleton calls c ih =>
    have before := ih distinct.init elapsed.init
    cases c with
    | store ackno pktseqno std sys => exact before.store distinct
    | acknowledge ackno std sys => exact before.acknowledge distinct.init elapsed

theorem KeepsHistory.mem_held_iff {calls : List Call} (h : KeepsHistory size calls) (e : Entry) :
    e ∈ (afterCalls size calls).held ↔ LiveByHistory size calls e := by
  rw [h.live, BoundedFifo.mem_recent_iff]
  simp only [decide_eq_false_iff_not]
  rfl

/-- An ACKACK gives an RTT exactly when the history has a live record of its number.
The RTT is the steady time since the record was stored, and an ACKACK that gives
none leaves the window as it was. With more slots the search can end too early: see the
end of this file. -/
theorem acknowledge_gives_rtt_iff (hsize : 2 ≤ size) (small : size ≤ 2 ^ 30) (calls : List Call)
    (ackno : Int32) (std sys : Int) (distinct : DistinctNumbers calls)
    (elapsed : ElapsedFits (calls ++ [.acknowledge ackno std sys])) :
    let answered := (afterCalls size calls).acknowledge ackno std sys
    (answered.1 ≠ RttPair.none ↔ ∃ e, e.ackno = ackno ∧ LiveByHistory size calls e) ∧
      (∀ e, e.ackno = ackno → LiveByHistory size calls e →
        answered.1.rttStd.toInt = countMicroseconds (std - e.sendtimeStd)) ∧
      (answered.1 = RttPair.none → ∀ later : List Call,
        Runs.run call answered.2 later = Runs.run call (afterCalls size calls) later) := by
  intro answered
  have keeps := keepsHistory (Nat.le_of_succ_le hsize) small calls distinct elapsed.init
  have live (e : Entry) := keeps.mem_held_iff e
  cases hit : BoundedFifo.takeThrough (fun e => ackno == e.ackno) (afterCalls size calls).held with
  | none =>
    have missed : answered = _ := keeps.missed std sys hit
    have absent : ∀ e, e.ackno = ackno → ¬ LiveByHistory size calls e := by
      intro e number alive
      have := BoundedFifo.takeThrough_eq_none.mp hit e ((live e).mpr alive)
      simp [number] at this
    rw [missed]
    refine ⟨?_, fun e number alive => absurd alive (absent e number), fun _ later => rfl⟩
    constructor
    · exact fun error => absurd rfl error
    · intro found
      obtain ⟨e, number, alive⟩ := found
      exact absurd alive (absent e number)
  | some found =>
    obtain ⟨e, newer⟩ := found
    obtain ⟨result, measured, -, -, older, split, number⟩ := keeps.found elapsed hit
    have alive : LiveByHistory size calls e := by
      rw [← live, keeps.live, split]
      simp
    have result' : answered.1 = e.rtt std sys := result
    rw [result']
    refine ⟨⟨fun _ => ⟨e, number, alive⟩, fun _ => measured⟩, ?_,
      fun error => absurd error measured⟩
    intro e' number' alive'
    have same : e' = e := List.inj_on_of_nodup_map distinct alive'.stored alive.stored
      (number'.trans number.symm)
    rw [same]
    obtain ⟨low, high⟩ := elapsed calls ackno std sys [] rfl e alive.stored number
    exact (rtt_of_elapsed sys low high).1

/-- Three slots hold two records: the first of three stored was dropped, the second is
matched 9 milliseconds later, and asked for again it is gone. -/
def dropsTheFirst : List Call :=
  [.store 1 0 1000000 0, .store 2 0 2000000 0, .acknowledge 9 5000000 0, .store 3 0 3000000 0]

theorem acknowledge_gives_rtt_of_second :
    let answered := (afterCalls 3 dropsTheFirst).acknowledge 2 11000000 0
    (answered.1 ≠ RttPair.none ↔ ∃ e, e.ackno = 2 ∧ LiveByHistory 3 dropsTheFirst e) ∧
      (∀ e, e.ackno = 2 → LiveByHistory 3 dropsTheFirst e →
        answered.1.rttStd.toInt = countMicroseconds (11000000 - e.sendtimeStd)) ∧
      (answered.1 = RttPair.none → ∀ later : List Call,
        Runs.run call answered.2 later = Runs.run call (afterCalls 3 dropsTheFirst) later) := by
  have elapsed : ElapsedFits (dropsTheFirst ++ [.acknowledge 2 11000000 0]) := by
    apply @ElapsedFits.snoc dropsTheFirst
    · have start : ElapsedFits [] := fun pre ackno std sys post split => by simp at split
      have second : ElapsedFits [.store 1 0 1000000 0, .store 2 0 2000000 0] :=
        (start.snoc (c := .store 1 0 1000000 0) (by simp)).snoc (by simp)
      have third : ElapsedFits [.store 1 0 1000000 0, .store 2 0 2000000 0,
          .acknowledge 9 5000000 0] := second.snoc (by simp [storedBy, storedEntry])
      exact third.snoc (by simp)
    · simp [dropsTheFirst, storedBy, storedEntry]
  exact acknowledge_gives_rtt_iff (by decide) (by decide) dropsTheFirst 2 11000000 0
    (by unfold DistinctNumbers; decide) elapsed

/-! ## Too many slots for `int` -/

/-- The numbers 0, 1, 2 and so on are stored, all at time 0. -/
def storesFromZero (k : Nat) : List Call :=
  (List.range k).map fun i => .store (UInt32.ofNat i).toInt32 0 0 0

theorem storesFromZero_succ (k : Nat) :
    storesFromZero (k + 1) = storesFromZero k ++ [.store (UInt32.ofNat k).toInt32 0 0 0] := by
  rw [storesFromZero, List.range_succ, List.map_append]
  rfl

theorem storedBy_storesFromZero (k : Nat) :
    storedBy (storesFromZero k) =
      (List.range k).map fun i => ⟨(UInt32.ofNat i).toInt32, 0, 0, 0⟩ := by
  rw [storedBy, storesFromZero, List.filterMap_map]
  exact congrFun (List.filterMap_eq_map ..) _

theorem matchedBy_storesFromZero (size k : Nat) : matchedBy size (storesFromZero k) = [] := by
  induction k with
  | zero => rfl
  | succ k ih =>
    rw [storesFromZero_succ, matchedBy_snoc, ih]
    rfl

theorem distinctNumbers_storesFromZero {k : Nat} (fewer : k ≤ 2 ^ 32) :
    DistinctNumbers (storesFromZero k) := by
  rw [DistinctNumbers, storedBy_storesFromZero, List.map_map]
  refine List.Nodup.map_on (fun i hi j hj same => ?_) List.nodup_range
  have hi := List.mem_range.mp hi
  have hj := List.mem_range.mp hj
  exact toInt32_ofNat_injective (by omega) (by omega) same

theorem elapsedFits_storesFromZero (k : Nat) (ackno : Int32) :
    ElapsedFits (storesFromZero k ++ [.acknowledge ackno 0 0]) := by
  have stores (k : Nat) : ElapsedFits (storesFromZero k) := by
    induction k with
    | zero => exact fun pre ackno std sys post split => by simp [storesFromZero] at split
    | succ k ih =>
      rw [storesFromZero_succ]
      exact ih.snoc (by simp)
  refine (stores k).snoc fun ackno std sys last e stored number => ?_
  obtain ⟨-, rfl, -⟩ := Call.acknowledge.inj last
  rw [storedBy_storesFromZero] at stored
  obtain ⟨i, -, rfl⟩ := List.mem_map.mp stored
  dsimp only
  omega

/-- The indices go round with every store. -/
theorem afterCalls_storesFromZero (hsize : 2 ≤ size) (k : Nat) :
    (afterCalls size (storesFromZero k)).latestIdx = k % size ∧
      (afterCalls size (storesFromZero k)).oldestIdx =
        if k < size then 0 else (k + 1) % size := by
  induction k with
  | zero => exact ⟨(Nat.zero_mod size).symm, (if_pos (by omega)).symm⟩
  | succ k ih =>
    obtain ⟨latest, oldest⟩ := ih
    rw [storesFromZero_succ, afterCalls_snoc]
    simp only [call, store, latest, oldest, Nat.mod_add_mod]
    refine ⟨trivial, ?_⟩
    rcases Nat.lt_trichotomy (k + 1) size with below | full | above
    · have start : k < size := by omega
      simp only [if_pos start, if_pos below, Nat.mod_eq_of_lt below]
      rw [if_neg (Nat.succ_ne_zero k)]
    · have start : k < size := by omega
      have behind : ¬ k + 1 < size := by omega
      simp only [if_pos start, if_neg behind]
      rw [full, Nat.mod_self, if_pos rfl, Nat.add_mod_left, Nat.zero_add]
    · have start : ¬ k < size := by omega
      have behind : ¬ k + 1 < size := by omega
      simp only [if_neg start, if_neg behind]
      rw [if_pos trivial, Nat.mod_add_mod]

/-- Cut to `int`, the end of the search can lie before its start. -/
theorem acknowledge_cut {w : AckWindow size} (wrapped : w.latestIdx < w.oldestIdx)
    (cut : w.searchEnd ≤ 0) (ackno : Int32) (std sys : Int) :
    w.acknowledge ackno std sys = (RttPair.none, w) := by
  rw [acknowledge, if_neg (by omega), firstIndex, Int.toNat_of_nonpos cut, Nat.zero_sub]
  rfl

/-- The record stored last is live by the history, and is not found. -/
theorem last_record_cut (hsize : 2 ≤ size) {k count : Nat} (last : count = k + 1)
    (more : size ≤ count) (wrapped : count % size < (count + 1) % size)
    (cut : (toInt ((count % size : Nat) + size)).toInt ≤ 0) :
    ((afterCalls size (storesFromZero count)).acknowledge (UInt32.ofNat k).toInt32 0 0).1 =
        RttPair.none ∧
      LiveByHistory size (storesFromZero count) ⟨(UInt32.ofNat k).toInt32, 0, 0, 0⟩ := by
  obtain ⟨latest, oldest⟩ := afterCalls_storesFromZero hsize count
  rw [if_neg (by omega)] at oldest
  constructor
  · rw [acknowledge_cut]
    · rw [latest, oldest]
      exact wrapped
    · rw [searchEnd, latest]
      exact cut
  · subst last
    refine ⟨storedBy (storesFromZero k), [], ?_, by rw [List.length_nil]; omega, ?_⟩
    · rw [storesFromZero_succ]
      exact storedBy_snoc ..
    · rw [matchedBy_storesFromZero]
      simp

/-- One slot more, and 2^31 stores of as many numbers: `latest_idx + SIZE` is 2^31, and
as an `int` it is negative, so the ACK stored last gives no RTT. -/
theorem last_record_lost :
    DistinctNumbers (storesFromZero (2 ^ 31)) ∧
      ElapsedFits (storesFromZero (2 ^ 31) ++
        [.acknowledge (UInt32.ofNat (2 ^ 31 - 1)).toInt32 0 0]) ∧
      ((afterCalls (2 ^ 30 + 1) (storesFromZero (2 ^ 31))).acknowledge
        (UInt32.ofNat (2 ^ 31 - 1)).toInt32 0 0).1 = RttPair.none ∧
      ∃ e, e.ackno = (UInt32.ofNat (2 ^ 31 - 1)).toInt32 ∧
        LiveByHistory (2 ^ 30 + 1) (storesFromZero (2 ^ 31)) e := by
  obtain ⟨lost, live⟩ := @last_record_cut (2 ^ 30 + 1) (by decide) (2 ^ 31 - 1) (2 ^ 31)
    (by decide) (by decide) (by decide) (by decide +kernel)
  exact ⟨distinctNumbers_storesFromZero (by decide), elapsedFits_storesFromZero _ _, lost, _, rfl,
    live⟩

end DriftTracing.Source.AckWindow
