import DriftTracing.Guarantees.UriSteps
import Mathlib.Algebra.BigOperators.Intervals

/-!
# The parser inverts rendering

`UriParts` holds the components of a URI together with what keeps them apart, and
`render` writes them down. The parser gives the components back, if every pair of
the query starts at a position its `int` can hold; a query behind that is not read.
-/
namespace DriftTracing.Source
open Lib.TextSearch UriParser

/-! ### The components -/

/-- `u` or `u:w` in front of the host. -/
structure UserInfo where
  user : Text
  password : Option Text
  user_free : List.Disjoint ['?', '/', '@', ':'] user
  password_free : ∀ w ∈ password, List.Disjoint ['?', '/', '@'] w
  nonempty : user ≠ [] ∨ password ≠ none

structure QueryPair where
  key : Text
  value : Text
  key_free : List.Disjoint ['=', '&'] key
  value_free : '&' ∉ value

structure UriParts where
  scheme : Text
  userInfo : Option UserInfo
  host : Text
  port : Option Text
  path : Text
  query : List QueryPair
  scheme_nonempty : scheme ≠ []
  scheme_alphanum : ∀ c ∈ scheme, c.isAlphanum
  scheme_not_file : scheme.map Char.toLower ≠ fileProto
  host_free : List.Disjoint ['?', '/', '@', ':'] host
  port_nonempty : port ≠ some []
  port_free : ∀ q ∈ port, List.Disjoint ['?', '/', '@', ':'] q
  /-- Without a port the host is not one that is taken for the port. -/
  host_not_port : port = none → host ≠ [] ∧ ¬IsPositiveInteger host
  path_rooted : path = [] ∨ ∃ tail, path = '/' :: tail
  path_free : '?' ∉ path

def UserInfo.render (i : UserInfo) : Text :=
  match i.password with
  | none => i.user
  | some w => i.user ++ ':' :: w

/-- The options the user info stands for. -/
def UserInfo.options (i : UserInfo) (m : QueryMap) : QueryMap :=
  match i.password with
  | none => m.set userKey i.user
  | some w => (m.set userKey i.user).set passwordKey w

/-- Two texts free of `stops`, joined by another character. -/
theorem disjoint_joined {stops front back : Text} {c : Char} (other : c ∉ stops)
    (front_free : List.Disjoint stops front) (back_free : List.Disjoint stops back) :
    List.Disjoint stops (front ++ c :: back) :=
  List.disjoint_append_right.mpr ⟨front_free, List.disjoint_cons_right.mpr ⟨other, back_free⟩⟩

namespace UserInfo

theorem render_free (i : UserInfo) : List.Disjoint ['?', '/', '@'] i.render := by
  have user_free : List.Disjoint ['?', '/', '@'] i.user :=
    List.disjoint_of_subset_left (by simp) i.user_free
  unfold render
  cases h : i.password with
  | none => exact user_free
  | some w => exact disjoint_joined (by simp) user_free (i.password_free w h)

theorem render_nonempty (i : UserInfo) : i.render ≠ [] := by
  unfold render
  cases h : i.password with
  | none => exact i.nonempty.resolve_right (· h)
  | some w => simp

theorem storeUser_render (i : UserInfo) (m : QueryMap) :
    storeUser m i.render = .ok (i.options m) := by
  have colon_free : ':' ∉ i.user := i.user_free (by simp)
  unfold render options
  cases i.password with
  | none => exact storeUser_none m colon_free
  | some w => exact storeUser_password m w colon_free

end UserInfo

namespace QueryPair

def render (p : QueryPair) : Text := p.key ++ '=' :: p.value

def store (p : QueryPair) (m : QueryMap) : QueryMap := m.set p.key p.value

/-- `k1=v1&k2=v2`. -/
def renderAll (query : List QueryPair) : Text := List.intercalate ['&'] (query.map render)

/-- Where the pair `n` starts, the first one at `first`. -/
def start (first : Nat) (query : List QueryPair) (n : Nat) : Nat :=
  first + ((query.take n).map (fun p => p.render.length + 1)).sum

theorem render_free (p : QueryPair) : '&' ∉ p.render := by
  have key_free : '&' ∉ p.key := p.key_free (by simp)
  simp [render, key_free, p.value_free]

theorem splitOn_renderAll {query : List QueryPair} (nonempty : query ≠ []) :
    (renderAll query).splitOn '&' = query.map render := by
  apply List.splitOn_intercalate '&'
  · intro piece member
    obtain ⟨p, -, rfl⟩ := List.mem_map.mp member
    exact p.render_free
  · simpa using nonempty

theorem storePiece_render (m : QueryMap) (p : QueryPair) : storePiece m p.render = p.store m := by
  have key_free : '=' ∉ p.key := p.key_free (by simp)
  rw [storePiece, render, cut_separator key_free, store]

theorem start_zero (first : Nat) (query : List QueryPair) : start first query 0 = first := rfl

theorem pieceStart_render (first : Nat) (query : List QueryPair) (n : Nat) :
    pieceStart first (query.map render) n = start first query n := by
  simp [pieceStart, start, ← List.map_take, Function.comp_def]

/-- The pieces of a rendered query are its pairs. -/
theorem queryLoop_renderAll {query : List QueryPair} (nonempty : query ≠ []) (front : Text)
    (starts : ∀ n < query.length, start front.length query n < 2 ^ 31) {fuel : Nat}
    (enough : query.length < fuel) (m : QueryMap) :
    queryLoop fuel (front ++ renderAll query) (Int32.ofNat front.length) m =
      .ok (query.foldl (fun m p => p.store m) m) := by
  have pieces := splitOn_renderAll nonempty
  have loop := @queryLoop_splitOn front (renderAll query)
  simp only [pieces, List.length_map, pieceStart_render, List.foldl_map, storePiece_render] at loop
  exact loop starts enough m

end QueryPair

namespace UriParts

/-- `h[:q]`. -/
def hostPort (u : UriParts) : Text :=
  match u.port with
  | none => u.host
  | some q => u.host ++ ':' :: q

/-- `[u[:w]@]h[:q]`. -/
def authority (u : UriParts) : Text :=
  match u.userInfo with
  | none => u.hostPort
  | some i => i.render ++ '@' :: u.hostPort

/-- What is in front of the query. -/
def front (u : UriParts) : Text := u.scheme ++ ([':', '/', '/'] ++ (u.authority ++ u.path))

def render (u : UriParts) : Text :=
  if u.query = [] then u.front else u.front ++ '?' :: QueryPair.renderAll u.query

def pairStart (u : UriParts) (n : Nat) : Nat := QueryPair.start (u.front.length + 1) u.query n

def userOptions (u : UriParts) : QueryMap :=
  match u.userInfo with
  | none => fun _ => none
  | some i => i.options fun _ => none

/-- The user info overlaid by the query, the last pair of a key winning. -/
def parameters (u : UriParts) : QueryMap := u.query.foldl (fun m p => p.store m) u.userOptions

/-- What the parser makes of the text. -/
def parsed (u : UriParts) (strUrl : Text) (m : QueryMap) : UriParser where
  origUri := strUrl
  proto := u.scheme.map Char.toLower
  host := u.host
  port := u.port.getD []
  path := u.path
  uriType := (types.lookup (u.scheme.map Char.toLower)).getD .unknown
  mapQuery := m

variable (u : UriParts)

theorem scheme_free {c : Char} (other : c.isAlphanum = false) : c ∉ u.scheme := fun member =>
  absurd (u.scheme_alphanum c member) (by simp [other])

theorem hostPort_free : List.Disjoint ['?', '/', '@'] u.hostPort := by
  have host_free : List.Disjoint ['?', '/', '@'] u.host :=
    List.disjoint_of_subset_left (by simp) u.host_free
  unfold hostPort
  cases h : u.port with
  | none => exact host_free
  | some q =>
    have port_free : List.Disjoint ['?', '/', '@'] q :=
      List.disjoint_of_subset_left (by simp) (u.port_free q h)
    exact disjoint_joined (by simp) host_free port_free

theorem authority_free : List.Disjoint ['?', '/'] u.authority := by
  have hostPort_free : List.Disjoint ['?', '/'] u.hostPort :=
    List.disjoint_of_subset_left (by simp) u.hostPort_free
  unfold authority
  cases u.userInfo with
  | none => exact hostPort_free
  | some i =>
    have info_free : List.Disjoint ['?', '/'] i.render :=
      List.disjoint_of_subset_left (by simp) i.render_free
    exact disjoint_joined (by simp) info_free hostPort_free

theorem front_free : '?' ∉ u.front := by
  have scheme_free : '?' ∉ u.scheme := u.scheme_free (by decide)
  have authority_free : '?' ∉ u.authority := u.authority_free (by simp)
  simp [front, scheme_free, authority_free, u.path_free]

/-! ### The steps on a rendered URI -/

variable {p : UriParser}

theorem cutProto_front (host : p.host = u.front) :
    p.cutProto = .ok { p with proto := u.scheme.map Char.toLower, host := u.authority ++ u.path } :=
  cutProto_append (u.scheme_free (by decide)) host

theorem cutPath_authority (host : p.host = u.authority ++ u.path) (path : p.path = []) :
    p.cutPath = .ok { p with path := u.path, host := u.authority } :=
  cutPath_append (u.authority_free (by simp)) u.path_rooted host path

theorem cutUserInfo_authority (host : p.host = u.authority) (empty : p.mapQuery = fun _ => none) :
    p.cutUserInfo = .ok { p with host := u.hostPort, mapQuery := u.userOptions } := by
  unfold authority at host
  unfold userOptions
  cases h : u.userInfo with
  | none =>
    replace host : p.host = u.hostPort := by rw [host, h]
    have at_free : '@' ∉ p.host := host ▸ u.hostPort_free (by simp)
    rw [cutUserInfo_none at_free, ← empty, ← host]
  | some i =>
    have at_free : '@' ∉ i.render := i.render_free (by simp)
    rw [h] at host
    rw [cutUserInfo_append at_free i.render_nonempty (i.storeUser_render _) host, empty]

theorem cutPort_hostPort (host : p.host = u.hostPort) (port : p.port = []) :
    p.cutPort = .ok { p with host := u.host, port := u.port.getD [] } := by
  have colon_free : ':' ∉ u.host := u.host_free (by simp)
  unfold hostPort at host
  cases h : u.port with
  | none =>
    replace host : p.host = u.host := by rw [host, h]
    rw [cutPort_none (host ▸ colon_free), Option.getD_none, ← port, ← host]
  | some q =>
    rw [h] at host
    exact cutPort_append colon_free host

theorem port_or_host : u.port.getD [] ≠ [] ∨ ¬IsPositiveInteger u.host := by
  have port_nonempty := u.port_nonempty
  cases h : u.port with
  | none => exact .inr (u.host_not_port h).2
  | some q =>
    rw [h] at port_nonempty
    exact .inl fun empty => port_nonempty (congrArg some empty)

/-- Every step in front of the query loop gives its component back. -/
theorem parse_of_loop {strUrl : Text} {i : Int32} {m : QueryMap} {fuel : Nat}
    (cut : cutQuery {} strUrl = .ok ({ host := u.front }, i))
    (loop : queryLoop fuel strUrl i u.userOptions = .ok m) :
    parse fuel strUrl .expectFile = .ok (u.parsed strUrl m) := by
  have nonempty : u.scheme.map Char.toLower ≠ [] := by simp [u.scheme_nonempty]
  rw [parse, cut]
  simp only [bind, Except.bind]
  rw [u.cutProto_front rfl]
  simp only
  rw [u.cutPath_authority rfl rfl]
  simp only
  rw [u.cutUserInfo_authority rfl rfl]
  simp only
  rw [u.cutPort_hostPort rfl rfl]
  simp only
  rw [takeHostAsPort_keeps u.port_or_host]
  simp only [loop]
  exact finish_other strUrl _ u.scheme_not_file nonempty

/-- Parsing the text gives the components and the options back. -/
def Inverted : Prop :=
  ∃ r : UriParser, (∀ fuel, u.query.length < fuel → parse fuel u.render .expectFile = .ok r) ∧
    r.proto = u.scheme.map Char.toLower ∧ r.host = u.host ∧ r.port = u.port.getD [] ∧
    r.path = u.path ∧ r.mapQuery = u.parameters

theorem parse_render_inverts (starts : ∀ n < u.query.length, u.pairStart n < 2 ^ 31) :
    u.Inverted := by
  refine ⟨u.parsed u.render u.parameters, fun fuel enough => ?_, rfl, rfl, rfl, rfl, rfl⟩
  obtain ⟨fuel, rfl⟩ : ∃ k, fuel = k + 1 := Nat.exists_eq_add_one.mpr (by omega)
  by_cases none : u.query = []
  · have text : u.render = u.front := if_pos none
    have same : u.parameters = u.userOptions := by rw [parameters, none, List.foldl_nil]
    rw [text, same]
    exact u.parse_of_loop (cutQuery_none u.front_free) (queryLoop_end fuel _ _ (Int32.le_refl _))
  · have text : u.render = u.front ++ '?' :: QueryPair.renderAll u.query := if_neg none
    have width : (u.front ++ ['?']).length = u.front.length + 1 := by simp
    have loop := QueryPair.queryLoop_renderAll none (u.front ++ ['?']) (width ▸ starts) enough
      u.userOptions
    rw [text]
    refine u.parse_of_loop (cutQuery_append u.front_free) ?_
    rw [List.append_cons, ← width]
    exact loop

/-- `UDP://me:pw:1@host:9000/a@b://c?bind=1.2.3.4:5&k==?&k=`. -/
def udpParts : UriParts where
  scheme := ['U', 'D', 'P']
  userInfo := some
    { user := ['m', 'e'], password := some ['p', 'w', ':', '1'], user_free := by simp,
      password_free := by simp, nonempty := by simp }
  host := ['h', 'o', 's', 't']
  port := some ['9', '0', '0', '0']
  path := ['/', 'a', '@', 'b', ':', '/', '/', 'c']
  query :=
    [{ key := ['b', 'i', 'n', 'd'], value := ['1', '.', '2', '.', '3', '.', '4', ':', '5'],
        key_free := by simp, value_free := by simp },
      { key := ['k'], value := ['=', '?'], key_free := by simp, value_free := by simp },
      { key := ['k'], value := [], key_free := by simp, value_free := by simp }]
  scheme_nonempty := by simp
  scheme_alphanum := by simp
  scheme_not_file := by decide
  host_free := by simp
  port_nonempty := by simp
  port_free := by simp
  host_not_port := by simp
  path_rooted := .inr ⟨_, rfl⟩
  path_free := by simp

theorem parse_render_inverts_udp : udpParts.Inverted :=
  udpParts.parse_render_inverts (by decide)

/-! ### A query out of reach -/

/-- A query the `int` position cannot hold is not read at all. -/
theorem parse_far_query (nonempty : u.query ≠ []) (low : 2 ^ 31 ≤ u.pairStart 0)
    (high : u.pairStart 0 < 2 ^ 32) (fuel : Nat) :
    parse (fuel + 1) u.render .expectFile = .ok (u.parsed u.render u.userOptions) := by
  have text : u.render = u.front ++ '?' :: QueryPair.renderAll u.query := if_neg nonempty
  have cut : cutQuery {} u.render = .ok ({ host := u.front }, Int32.ofNat (u.pairStart 0)) := by
    rw [text]
    exact cutQuery_append u.front_free
  exact u.parse_of_loop cut (queryLoop_end fuel _ _ (intOfSize_far low high))

/-- `a://h/xx..x?k=v`. -/
def longPath (n : Nat) : UriParts where
  scheme := ['a']
  userInfo := none
  host := ['h']
  port := none
  path := '/' :: List.replicate n 'x'
  query := [{ key := ['k'], value := ['v'], key_free := by simp, value_free := by simp }]
  scheme_nonempty := by simp
  scheme_alphanum := by simp
  scheme_not_file := by decide
  host_free := by simp
  port_nonempty := by simp
  port_free := by simp
  host_not_port := by decide
  path_rooted := .inr ⟨_, rfl⟩
  path_free := by simp [List.mem_replicate]

theorem longPath_start (n : Nat) : (longPath n).pairStart 0 = n + 7 := by
  rw [pairStart, QueryPair.start_zero]
  simp [longPath, front, authority, hostPort]

theorem longPath_not_inverted {n : Nat} (low : 2 ^ 31 ≤ n + 7) (high : n + 7 < 2 ^ 32) :
    ¬(longPath n).Inverted := by
  rintro ⟨r, parsed, -, -, -, -, options⟩
  rw [← longPath_start] at low high
  have far := (longPath n).parse_far_query (by simp [longPath]) low high 1
  have found := parsed 2 (by simp [longPath])
  rw [far, Except.ok.injEq] at found
  have lost : r.mapQuery ['k'] = none := by rw [← found]; rfl
  have held : (longPath n).parameters ['k'] = some ['v'] := rfl
  rw [options, held] at lost
  exact absurd lost (by simp)

theorem query_behind_two_gigabytes_lost : ¬∀ u : UriParts, u.Inverted := fun inverted =>
  longPath_not_inverted (n := 2 ^ 31) (by omega) (by omega) (inverted _)

end UriParts
end DriftTracing.Source
