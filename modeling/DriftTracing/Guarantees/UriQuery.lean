import DriftTracing.Guarantees.UriSteps

/-!
# The options of any text

Malformed input included, the parser ends without an exception, and the options are
those of the user info overlaid by the pieces of the query. The specification cuts
the text at first matches and splits the query at `&`; it has no positions.
-/
namespace DriftTracing.Source
open Lib.TextSearch

namespace UriParser

/-- The text in front of the first `pat`, or all of it. -/
def frontOf (pat s : Text) : Text := (cut pat s).elim s (·.1)

/-- The text behind the first `pat`, or all of it. -/
def behindOf (pat s : Text) : Text := (cut pat s).elim s (·.2)

/-- The text between the protocol and the path. -/
def authorityOf (s : Text) : Text :=
  frontOf ['/'] (behindOf [':', '/', '/'] (frontOf ['?'] s))

/-- `user`, or `user:password`. -/
def storeInfo (m : QueryMap) (info : Text) : QueryMap :=
  match cut [':'] info with
  | none => m.set userKey info
  | some (user, password) => (m.set userKey user).set passwordKey password

/-- The options of the text in front of the `@`, which is empty for a multicast address. -/
def storeAuthority (m : QueryMap) (authority : Text) : QueryMap :=
  match cut ['@'] authority with
  | none => m
  | some (info, _) => if info = [] then m.set multicastKey ['1'] else storeInfo m info

/-- The pieces between the `&` behind the first `?`. -/
def piecesOf (s : Text) : List Text := (cut ['?'] s).elim [] (·.2.splitOn '&')

/-- The options of the user info, overlaid by the pieces that have a `=`, in order. -/
def parametersOf (s : Text) : QueryMap :=
  (piecesOf s).foldl storePiece (storeAuthority (fun _ => none) (authorityOf s))

/-! ### Every step succeeds -/

variable (u : UriParser)

theorem cutProto_total :
    ∃ proto, cutProto u =
      .ok { u with proto := proto, host := behindOf [':', '/', '/'] u.host } := by
  cases found : find [':', '/', '/'] u.host with
  | none =>
    refine ⟨u.proto, ?_⟩
    rw [cutProto, found, behindOf, cut_eq_none found]
    rfl
  | some i =>
    obtain ⟨pre, post, whole, rfl⟩ := exists_of_find found
    refine ⟨pre.map Char.toLower, ?_⟩
    rw [whole] at found
    rw [behindOf, cutProto, whole, cut_of_find found, found]
    simp only [substr_front, substr_skip (n := 3) [':', '/', '/'] rfl pre post]
    rfl

theorem cutPath_total :
    ∃ path, cutPath u = .ok { u with path := path, host := frontOf ['/'] u.host } := by
  by_cases member : '/' ∈ u.host
  · obtain ⟨front, rest, whole, free⟩ := List.eq_append_cons_of_mem member
    refine ⟨'/' :: rest, ?_⟩
    rw [cutPath, frontOf, whole, find_separator free, cut_separator free]
    simp only [substr_rest, substr_front]
    rfl
  · have missing : find ['/'] u.host = none := find_eq_none member
    refine ⟨u.path, ?_⟩
    rw [cutPath, frontOf, missing, cut_eq_none missing]
    rfl

theorem storeUser_eq (m : QueryMap) (info : Text) : storeUser m info = .ok (storeInfo m info) := by
  by_cases member : ':' ∈ info
  · obtain ⟨user, pw, rfl, free⟩ := List.eq_append_cons_of_mem member
    rw [storeUser_password m pw free, storeInfo, cut_separator free]
  · have missing : find [':'] info = none := find_eq_none member
    rw [storeUser_none m member, storeInfo, cut_eq_none missing]

theorem cutUserInfo_total :
    ∃ host, cutUserInfo u =
      .ok { u with host := host, mapQuery := storeAuthority u.mapQuery u.host } := by
  by_cases member : '@' ∈ u.host
  · obtain ⟨info, rest, whole, free⟩ := List.eq_append_cons_of_mem member
    refine ⟨rest, ?_⟩
    by_cases empty : info = []
    · rw [storeAuthority, whole, cut_separator free]
      simp only [if_pos empty]
      rw [empty, List.nil_append] at whole
      exact cutUserInfo_multicast whole
    · rw [cutUserInfo_append free empty (storeUser_eq u.mapQuery info) whole, storeAuthority,
        whole, cut_separator free]
      simp only [if_neg empty]
  · have missing : find ['@'] u.host = none := find_eq_none member
    refine ⟨u.host, ?_⟩
    rw [cutUserInfo_none member, storeAuthority, cut_eq_none missing]

theorem cutPort_total : ∃ host port, cutPort u = .ok { u with port := port, host := host } := by
  by_cases member : ':' ∈ u.host
  · obtain ⟨host, port, whole, free⟩ := List.eq_append_cons_of_mem member
    exact ⟨host, port, cutPort_append free whole⟩
  · exact ⟨u.host, u.port, cutPort_none member⟩

theorem takeHostAsPort_mapQuery : (takeHostAsPort u).mapQuery = u.mapQuery := by
  unfold takeHostAsPort
  split
  · rfl
  · rfl

theorem dropDotDirectory_total :
    ∃ path, dropDotDirectory u = .ok { u with path := path } := by
  unfold dropDotDirectory
  split
  · next long =>
    rw [substr_of_le (Nat.zero_le _), substrFrom, substr_of_le long.2.le]
    simp only [bind, Except.bind]
    split
    · exact ⟨_, rfl⟩
    · exact ⟨u.path, rfl⟩
  · exact ⟨u.path, rfl⟩

theorem treatAsFile_mapQuery (exp : DefaultExpect) : (treatAsFile u exp).mapQuery = u.mapQuery := by
  unfold treatAsFile
  split
  · rfl
  · rfl

theorem finish_total (strUrl : Text) (exp : DefaultExpect) :
    ∃ r, finish u strUrl exp = .ok r ∧ r.mapQuery = u.mapQuery := by
  obtain ⟨path, dropped⟩ := dropDotDirectory_total u
  rw [finish, dropped]
  exact ⟨_, rfl, treatAsFile_mapQuery _ exp⟩

/-- Every piece starts inside the text. -/
theorem pieceStart_le {pieces : List Text} (first : Nat) {n : Nat} (inside : n < pieces.length) :
    pieceStart first pieces n ≤ first + (List.intercalate ['&'] pieces).length := by
  induction pieces generalizing first n with
  | nil => exact absurd inside (Nat.not_lt_zero n)
  | cons p pieces ih =>
    cases n with
    | zero =>
      rw [pieceStart_zero]
      exact Nat.le_add_right _ _
    | succ n =>
      have inside' : n < pieces.length := by simpa using inside
      have nonempty : pieces ≠ [] := List.ne_nil_of_length_pos (by omega)
      have later := ih (first + (p.length + 1)) inside'
      rw [pieceStart_succ, List.intercalate_cons_of_ne_nil nonempty]
      simp only [List.length_append, List.length_singleton]
      omega

/-- The query starts behind the first `?`, and the loop stores its pieces. -/
theorem cutQuery_total {strUrl : Text} (short : strUrl.length < 2 ^ 31) :
    ∃ i, cutQuery {} strUrl = .ok ({ host := frontOf ['?'] strUrl }, i) ∧
      ∀ fuel m, (piecesOf strUrl).length < fuel →
        queryLoop fuel strUrl i m = .ok ((piecesOf strUrl).foldl storePiece m) := by
  by_cases member : '?' ∈ strUrl
  · obtain ⟨front, query, rfl, free⟩ := List.eq_append_cons_of_mem member
    refine ⟨Int32.ofNat (front.length + 1), ?_, fun fuel m enough => ?_⟩
    · rw [cutQuery_append free, frontOf, cut_separator free]
      rfl
    · rw [piecesOf, cut_separator free] at enough ⊢
      dsimp only [Option.elim_some] at enough ⊢
      have width : (front ++ ['?']).length = front.length + 1 := by simp
      rw [List.append_cons, ← width]
      refine queryLoop_splitOn (front ++ ['?']) query (fun n inside => ?_) enough m
      have inText := pieceStart_le (front ++ ['?']).length inside
      rw [List.intercalate_splitOn, width] at inText
      simp only [List.length_append, List.length_cons] at short
      rw [width]
      omega
  · have missing : find ['?'] strUrl = none := find_eq_none member
    refine ⟨-1, ?_, fun fuel m enough => ?_⟩
    · rw [cutQuery_none member, frontOf, cut_eq_none missing]
      rfl
    · rw [piecesOf, cut_eq_none missing] at enough ⊢
      obtain ⟨fuel, rfl⟩ : ∃ k, fuel = k + 1 := Nat.exists_eq_add_one.mpr (by omega)
      exact queryLoop_end fuel strUrl m (Int32.le_refl _)

/-- For every text that an `int` can index, the parser ends without an exception, after
as many rounds of the query loop as the query has pieces. The options are those of the
user info, overlaid by the pieces. -/
theorem parse_total_lossless (strUrl : Text) (short : strUrl.length < 2 ^ 31 - 1)
    (exp : DefaultExpect) :
    ∃ r : UriParser, (∀ fuel, (piecesOf strUrl).length < fuel → parse fuel strUrl exp = .ok r) ∧
      r.mapQuery = parametersOf strUrl := by
  obtain ⟨i, query, loop⟩ := @cutQuery_total strUrl (by omega)
  obtain ⟨proto, protocol⟩ := cutProto_total { host := frontOf ['?'] strUrl }
  obtain ⟨path, pathname⟩ := cutPath_total
    { proto := proto, host := behindOf [':', '/', '/'] (frontOf ['?'] strUrl) }
  obtain ⟨host, userInfo⟩ := cutUserInfo_total
    { proto := proto, path := path, host := authorityOf strUrl }
  obtain ⟨host', port, ported⟩ := cutPort_total
    { proto := proto, path := path, host := host,
      mapQuery := storeAuthority (fun _ => none) (authorityOf strUrl) }
  let members := takeHostAsPort
    { proto := proto, path := path, host := host', port := port,
      mapQuery := storeAuthority (fun _ => none) (authorityOf strUrl) }
  obtain ⟨r, finished, kept⟩ := finish_total
    { members with mapQuery := parametersOf strUrl } strUrl exp
  refine ⟨r, fun fuel enough => ?_, kept⟩
  rw [parse, query]
  simp only [bind, Except.bind, protocol]
  rw [pathname]
  simp only
  rw [authorityOf] at userInfo
  rw [userInfo]
  simp only
  rw [authorityOf] at ported
  rw [ported]
  simp only [takeHostAsPort_mapQuery]
  rw [loop fuel _ enough]
  exact finished

/-- `udp://me@h?&x&k=1&k=2=3&`. -/
def malformedUrl : Text :=
  ['u', 'd', 'p', ':', '/', '/', 'm', 'e', '@', 'h', '?', '&', 'x', '&', 'k', '=', '1', '&',
    'k', '=', '2', '=', '3', '&']

theorem parse_total_lossless_malformed :
    ∃ r : UriParser, (∀ fuel, 5 < fuel → parse fuel malformedUrl .expectFile = .ok r) ∧
      r.mapQuery userKey = some ['m', 'e'] ∧ r.mapQuery ['k'] = some ['2', '=', '3'] ∧
      r.mapQuery ['x'] = none := by
  have short : malformedUrl.length < 2 ^ 31 - 1 := by simp [malformedUrl]
  obtain ⟨r, parsed, options⟩ := parse_total_lossless malformedUrl short .expectFile
  refine ⟨r, parsed, ?_⟩
  rw [options]
  exact ⟨rfl, rfl, rfl⟩

end UriParser
end DriftTracing.Source
