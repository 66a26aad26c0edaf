import DriftTracing.Source.UriParser

/-!
# The steps of the parser

What each step makes of a text that was joined at the place it looks for: the
character is missing in front of the place, and may occur behind it.
-/
namespace DriftTracing.Source
open Lib.TextSearch

theorem substr_of_le {s : Text} {pos : Nat} (le : pos ≤ s.length) (count : Nat) :
    substr s pos count = .ok ((s.drop pos).take count) := by
  simp [substr, le]

@[simp] theorem substr_front (front rest : Text) :
    substr (front ++ rest) 0 front.length = .ok front := by
  simp [substr]

@[simp] theorem substr_rest (front rest : Text) :
    substr (front ++ rest) front.length ((front ++ rest).length - front.length) = .ok rest := by
  simp [substr]

/-- The rest behind a separator of width `n`. -/
theorem substr_skip {n : Nat} (sep : Text) (width : sep.length = n) (front rest : Text) :
    substr (front ++ (sep ++ rest)) (front.length + n)
      ((front ++ (sep ++ rest)).length - (front.length + n)) = .ok rest := by
  subst width
  rw [substr_of_le (by simp), List.drop_length_add_append, List.drop_left,
    List.take_of_length_le]
  simp only [List.length_append]
  omega

theorem substr_behind (front : Text) (c : Char) (rest : Text) :
    substr (front ++ c :: rest) (front.length + 1)
      ((front ++ c :: rest).length - (front.length + 1)) = .ok rest :=
  substr_skip (n := 1) [c] rfl front rest

theorem substrFrom_behind (front : Text) (c : Char) (rest : Text) :
    substrFrom (front ++ c :: rest) (front.length + 1) = .ok rest := by
  rw [substrFrom, substr_of_le (by simp), List.drop_length_add_append, List.drop_one,
    List.tail_cons, List.take_of_length_le]
  simp only [List.length_append, List.length_cons]
  omega

namespace UriParser

variable {u : UriParser} {front rest : Text}

/-! ### The steps -/

theorem cutQuery_append (free : '?' ∉ front) :
    cutQuery u (front ++ '?' :: rest) =
      .ok ({ u with host := front }, Int32.ofNat (front.length + 1)) := by
  rw [cutQuery, find_separator free]
  simp only [substr_front, intOfSize]
  rfl

theorem cutQuery_none (free : '?' ∉ front) :
    cutQuery u front = .ok ({ u with host := front }, -1) := by
  rw [cutQuery, find_eq_none free]
  rfl

theorem cutProto_append (free : ':' ∉ front) (host : u.host = front ++ ([':', '/', '/'] ++ rest)) :
    cutProto u = .ok { u with proto := front.map Char.toLower, host := rest } := by
  rw [cutProto, host, find_append free]
  simp only [substr_front, substr_skip (n := 3) [':', '/', '/'] rfl front rest]
  rfl

/-- A path starts at the first slash, or there is none. -/
theorem cutPath_append (free : '/' ∉ front) (rooted : rest = [] ∨ ∃ tail, rest = '/' :: tail)
    (host : u.host = front ++ rest) (path : u.path = []) :
    cutPath u = .ok { u with path := rest, host := front } := by
  rw [cutPath, host]
  obtain rfl | ⟨tail, rfl⟩ := rooted
  · rw [List.append_nil, find_eq_none free, ← path, ← List.append_nil front, ← host]
    rfl
  · rw [find_separator free]
    simp only [substr_rest, substr_front]
    rfl

/-- Text in front of an `@` is the user, or the user and the password. -/
theorem cutUserInfo_append {info : Text} {m : QueryMap} (free : '@' ∉ info) (nonempty : info ≠ [])
    (stored : storeUser u.mapQuery info = .ok m) (host : u.host = info ++ '@' :: rest) :
    cutUserInfo u = .ok { u with host := rest, mapQuery := m } := by
  have positive : 0 < info.length := List.length_pos_iff.mpr nonempty
  rw [cutUserInfo, host, find_separator free]
  simp only [substrFrom_behind, substr_front, if_pos positive, bind, Except.bind, stored]
  rfl

/-- Nothing in front of the `@` stands for a multicast address. -/
theorem cutUserInfo_multicast (host : u.host = '@' :: rest) :
    cutUserInfo u =
      .ok { u with host := rest, mapQuery := u.mapQuery.set multicastKey ['1'] } := by
  have behind : substrFrom ('@' :: rest) 1 = .ok rest := substrFrom_behind [] '@' rest
  have found : find ['@'] ('@' :: rest) = some 0 := by simp [find]
  rw [cutUserInfo, host, found]
  simp only [behind]
  rfl

theorem cutUserInfo_none (free : '@' ∉ u.host) : cutUserInfo u = .ok u := by
  rw [cutUserInfo, find_eq_none free]
  rfl

theorem storeUser_none {user : Text} (m : QueryMap) (free : ':' ∉ user) :
    storeUser m user = .ok (m.set userKey user) := by
  rw [storeUser, find_eq_none free]
  rfl

theorem storeUser_password {user : Text} (m : QueryMap) (pw : Text) (free : ':' ∉ user) :
    storeUser m (user ++ ':' :: pw) = .ok ((m.set userKey user).set passwordKey pw) := by
  rw [storeUser, find_separator free]
  simp only [substrFrom_behind, substr_front, bind, Except.bind]
  cases user with
  | nil => rfl
  | cons c cs => simp [pure, Except.pure]

theorem cutPort_append (free : ':' ∉ front) (host : u.host = front ++ ':' :: rest) :
    cutPort u = .ok { u with port := rest, host := front } := by
  rw [cutPort, host, find_separator free]
  simp only [substr_behind, substr_front]
  rfl

theorem cutPort_none (free : ':' ∉ u.host) : cutPort u = .ok u := by
  rw [cutPort, find_eq_none free]
  rfl

theorem takeHostAsPort_keeps (kept : u.port ≠ [] ∨ ¬IsPositiveInteger u.host) :
    takeHostAsPort u = u := by
  rw [takeHostAsPort, if_neg]
  rintro ⟨port, -, integer⟩
  exact kept.elim (· port) (· integer)

theorem finish_other (strUrl : Text) (exp : DefaultExpect) (other : u.proto ≠ fileProto)
    (nonempty : u.proto ≠ []) :
    finish u strUrl exp =
      .ok { u with uriType := (types.lookup u.proto).getD .unknown, origUri := strUrl } := by
  have kept : u.dropDotDirectory = .ok u := by
    rw [dropDotDirectory, if_neg (other ·.1)]
    rfl
  have same : u.treatAsFile exp = u := if_neg (nonempty ·.2.1)
  rw [finish, kept]
  simp only [bind, Except.bind, same]
  rfl

/-! ### The query loop -/

theorem nextPair_last {pair : Text} (small : front.length < 2 ^ 31) (free : '&' ∉ pair) :
    nextPair (front ++ pair) (Int32.ofNat front.length) = .ok (pair, -1) := by
  rw [nextPair, Int32.toNatClampNeg_ofNat_of_lt small]
  simp only [findFrom_append, find_eq_none free, Option.map_none, substr_rest]
  rfl

theorem nextPair_more {pair : Text} (small : front.length < 2 ^ 31) (free : '&' ∉ pair) :
    nextPair (front ++ (pair ++ '&' :: rest)) (Int32.ofNat front.length) =
      .ok (pair, Int32.ofNat (front ++ (pair ++ ['&'])).length) := by
  have next : pair.length + front.length + 1 = (front ++ (pair ++ ['&'])).length := by
    simp only [List.length_append, List.length_singleton]
    omega
  have cut : substr (front ++ (pair ++ '&' :: rest)) front.length pair.length = .ok pair := by
    simp [substr]
  rw [nextPair, Int32.toNatClampNeg_ofNat_of_lt small]
  simp only [findFrom_append, find_separator free, Option.map_some, Nat.add_sub_cancel, cut, next]
  rfl

theorem storePair_append {key value : Text} (m : QueryMap) (free : '=' ∉ key) :
    storePair m (key ++ '=' :: value) = .ok (m.set key value) := by
  rw [storePair, find_separator free]
  simp only [substr_front, substr_behind]
  rfl

theorem queryLoop_step {strUrl pair : Text} {pos fuel : Nat} {i : Int32} {m m' : QueryMap}
    (small : pos < 2 ^ 31) (next : nextPair strUrl (Int32.ofNat pos) = .ok (pair, i))
    (stored : storePair m pair = .ok m') :
    queryLoop (fuel + 1) strUrl (Int32.ofNat pos) m = queryLoop fuel strUrl i m' := by
  have inside : (-1 : Int32) < Int32.ofNat pos := by
    rw [Int32.lt_iff_toInt_lt, Int32.toInt_ofNat_of_lt small]
    exact Int.lt_of_lt_of_le (by decide) (Int.natCast_nonneg pos)
  rw [queryLoop, if_pos inside, next]
  simp only [bind, Except.bind, stored]

theorem queryLoop_end (fuel : Nat) (strUrl : Text) {iQueryStart : Int32} (m : QueryMap)
    (ended : iQueryStart ≤ -1) : queryLoop (fuel + 1) strUrl iQueryStart m = .ok m := by
  rw [queryLoop, if_neg (Int32.not_lt.mpr ended)]
  rfl

/-- What a piece of the query stores: nothing, if it has no `=`. -/
def storePiece (m : QueryMap) (piece : Text) : QueryMap :=
  match cut ['='] piece with
  | none => m
  | some (key, value) => m.set key value

theorem storePair_eq (m : QueryMap) (piece : Text) :
    storePair m piece = .ok (storePiece m piece) := by
  by_cases member : '=' ∈ piece
  · obtain ⟨key, value, rfl, free⟩ := List.eq_append_cons_of_mem member
    rw [storePair_append m free, storePiece, cut_separator free]
  · have missing : find ['='] piece = none := find_eq_none member
    rw [storePair, storePiece, missing, cut_eq_none missing]
    rfl

/-- Where the piece `n` starts, the first one at `first`. -/
def pieceStart (first : Nat) (pieces : List Text) (n : Nat) : Nat :=
  first + ((pieces.take n).map (fun p => p.length + 1)).sum

theorem pieceStart_zero (first : Nat) (pieces : List Text) : pieceStart first pieces 0 = first :=
  rfl

theorem pieceStart_succ (first : Nat) (p : Text) (pieces : List Text) (n : Nat) :
    pieceStart first (p :: pieces) (n + 1) = pieceStart (first + (p.length + 1)) pieces n := by
  simp [pieceStart, Nat.add_assoc]

/-- The loop stores the pieces between the separators, in order. By induction on the
pieces: the loop goes on behind the separator of the first one. -/
theorem queryLoop_splitOn (front rest : Text)
    (starts : ∀ n < (rest.splitOn '&').length,
      pieceStart front.length (rest.splitOn '&') n < 2 ^ 31)
    {fuel : Nat} (enough : (rest.splitOn '&').length < fuel) (m : QueryMap) :
    queryLoop fuel (front ++ rest) (Int32.ofNat front.length) m =
      .ok ((rest.splitOn '&').foldl storePiece m) := by
  generalize pieces_eq : rest.splitOn '&' = pieces at starts enough ⊢
  induction pieces generalizing front rest fuel m with
  | nil => exact absurd pieces_eq (List.splitOn_ne_nil '&' rest)
  | cons p pieces ih =>
    obtain ⟨fuel, rfl⟩ : ∃ k, fuel = k + 1 := Nat.exists_eq_add_one.mpr (by omega)
    have small : front.length < 2 ^ 31 := starts 0 (by simp)
    by_cases member : '&' ∈ rest
    · obtain ⟨piece, rest, rfl, free⟩ := List.eq_append_cons_of_mem member
      rw [List.splitOn_append_cons_self_of_not_mem free, List.cons.injEq] at pieces_eq
      obtain ⟨rfl, pieces_eq⟩ := pieces_eq
      have regroup : front ++ (piece ++ '&' :: rest) = front ++ (piece ++ ['&']) ++ rest := by
        simp
      have width : (front ++ (piece ++ ['&'])).length = front.length + (piece.length + 1) := by
        simp
      rw [queryLoop_step small (nextPair_more small free) (storePair_eq m piece), regroup]
      refine ih _ rest _ pieces_eq (fun n inside => ?_) (by simpa using enough)
      rw [width, ← pieceStart_succ]
      exact starts (n + 1) (by simpa using inside)
    · rw [List.splitOn_eq_singleton member, List.cons.injEq] at pieces_eq
      obtain ⟨rfl, rfl⟩ := pieces_eq
      obtain ⟨fuel, rfl⟩ : ∃ k, fuel = k + 1 :=
        Nat.exists_eq_add_one.mpr (by simp only [List.length_singleton] at enough; omega)
      rw [queryLoop_step small (nextPair_last small member) (storePair_eq m rest)]
      exact queryLoop_end fuel _ _ (Int32.le_refl _)

/-- A position the `int` cannot hold ends the loop at once. -/
theorem intOfSize_far {pos : Nat} (low : 2 ^ 31 ≤ pos) (high : pos < 2 ^ 32) :
    Int32.ofNat pos ≤ -1 := by
  have minus_one : (-1 : Int32).toInt = -1 := rfl
  have negative : (pos : Int).bmod (2 ^ 32) < 0 :=
    (Int.bmod_neg_iff (by omega) (by omega)).mpr (.inr (by omega))
  have size : Int32.size = 2 ^ 32 := rfl
  rw [Int32.le_iff_toInt_le, Int32.toInt_ofNat', minus_one, size]
  omega

end UriParser

end DriftTracing.Source
