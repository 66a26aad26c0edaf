import DriftTracing.Lib.TextSearch
import DriftTracing.Source.Clock
import Mathlib.Algebra.Order.Ring.Int
import Mathlib.Logic.Function.Basic

/-!
# The URI parser

app/uri_parser.hpp and app/uri_parser.cpp:1-16, 52-66, 78-201. A string is the list of
its bytes, a byte the character of its code; `tolower` and `isspace` are those of
the "C" locale. `Parse` is cut into its steps, each named after what it does to
the members. The table `types` is read only, the entry its lookup inserts holds
the value a missing one has.
-/
namespace DriftTracing.Source
open Lib.TextSearch

abbrev Text := List Char

inductive ParseError where
  /-- `std::out_of_range`, thrown by `substr`. -/
  | outOfRange
  /-- The query loop has used up its fuel. -/
  | outOfFuel
  deriving DecidableEq, Repr

/-- `s.substr(pos, count)`. -/
def substr (s : Text) (pos count : Nat) : Except ParseError Text :=
  if pos ≤ s.length then .ok ((s.drop pos).take count) else .error .outOfRange

/-- `s.substr(pos)`. -/
def substrFrom (s : Text) (pos : Nat) : Except ParseError Text := substr s pos s.length

/-- A position, or `npos`, assigned to an `int`. -/
def intOfSize : Option Nat → Int32
  | some pos => Int32.ofNat pos
  | none => -1

def isspace (c : Char) : Bool := c = ' ' || 9 ≤ c.toNat && c.toNat ≤ 13

/-- The sign in front of a number, and what is behind it. -/
def cutSign : Text → Int × Text
  | '-' :: digits => (-1, digits)
  | '+' :: digits => (1, digits)
  | digits => (1, digits)

def decimal (digits : Text) : Nat := digits.foldl (fun n c => 10 * n + (c.toNat - 48)) 0

/-- `strtol(s, &eos, 10)` with a `long` of 64 bits: the value, and the number of
characters in front of `eos`. Text without a number is not consumed at all. -/
def strtol (s : Text) : Int × Nat :=
  let (sign, rest) := cutSign (s.dropWhile isspace)
  let digits := rest.takeWhile Char.isDigit
  if digits = [] then (0, 0)
  else (max (-2 ^ 63) (min (2 ^ 63 - 1) (sign * decimal digits)),
    s.length - rest.length + digits.length)

/-- `(int) strtol(s, nullptr, 10)`. -/
def atoi (s : Text) : Int32 := toInt (strtol s).1

/-- `val > 0 && eos == end`. -/
def IsPositiveInteger (s : Text) : Prop := 0 < (strtol s).1 ∧ (strtol s).2 = s.length

instance (s : Text) : Decidable (IsPositiveInteger s) := by
  unfold IsPositiveInteger
  infer_instance

/-- `std::map<string, string>`. -/
abbrev QueryMap := Text → Option Text

/-- `m[key] = value`. -/
def QueryMap.set (m : QueryMap) (key value : Text) : QueryMap := Function.update m key (some value)

inductive UriType where
  | unknown | file | udp | tcp | srt | rtmp | http | rtp
  deriving DecidableEq, Repr

inductive DefaultExpect where
  | expectFile | expectHost
  deriving DecidableEq, Repr

def fileProto : Text := ['f', 'i', 'l', 'e']
def userKey : Text := ['u', 's', 'e', 'r']
def passwordKey : Text := ['p', 'a', 's', 's', 'w', 'o', 'r', 'd']
def multicastKey : Text := ['m', 'u', 'l', 't', 'i', 'c', 'a', 's', 't']

/-- The table `g_uriparser_init` fills. -/
def types : List (Text × UriType) :=
  [(fileProto, .file),
    (['u', 'd', 'p'], .udp),
    (['t', 'c', 'p'], .tcp),
    (['s', 'r', 't'], .srt),
    (['r', 't', 'm', 'p'], .rtmp),
    (['h', 't', 't', 'p'], .http),
    (['r', 't', 'p'], .rtp),
    ([], .unknown)]

structure UriParser where
  origUri : Text := []
  proto : Text := []
  host : Text := []
  port : Text := []
  path : Text := []
  uriType : UriType := .unknown
  mapQuery : QueryMap := fun _ => none

namespace UriParser

/-- The text in front of the first `?`, and where the query starts. -/
def cutQuery (u : UriParser) (strUrl : Text) : Except ParseError (UriParser × Int32) :=
  match find ['?'] strUrl with
  | some idx => do
    let host ← substr strUrl 0 idx
    return ({ u with host := host }, intOfSize (some (idx + 1)))
  | none => return ({ u with host := strUrl }, -1)

def cutProto (u : UriParser) : Except ParseError UriParser :=
  match find [':', '/', '/'] u.host with
  | some idx => do
    let proto ← substr u.host 0 idx
    let host ← substr u.host (idx + 3) (u.host.length - (idx + 3))
    return { u with proto := proto.map Char.toLower, host := host }
  | none => return u

def cutPath (u : UriParser) : Except ParseError UriParser :=
  match find ['/'] u.host with
  | some idx => do
    let path ← substr u.host idx (u.host.length - idx)
    let host ← substr u.host 0 idx
    return { u with path := path, host := host }
  | none => return u

/-- The options the text in front of the `@` stands for. -/
def storeUser (m : QueryMap) (prehost : Text) : Except ParseError QueryMap :=
  match find [':'] prehost with
  | some colon => do
    let pw ← substrFrom prehost (colon + 1)
    let user ← if 0 < colon then substr prehost 0 colon else pure []
    return (m.set userKey user).set passwordKey pw
  | none => return m.set userKey prehost

def cutUserInfo (u : UriParser) : Except ParseError UriParser :=
  match find ['@'] u.host with
  | some atp => do
    let realhost ← substrFrom u.host (atp + 1)
    if 0 < atp then
      let prehost ← substr u.host 0 atp
      let mapQuery ← storeUser u.mapQuery prehost
      return { u with host := realhost, mapQuery := mapQuery }
    else
      return { u with host := realhost, mapQuery := u.mapQuery.set multicastKey ['1'] }
  | none => return u

def cutPort (u : UriParser) : Except ParseError UriParser :=
  match find [':'] u.host with
  | some idx => do
    let port ← substr u.host (idx + 1) (u.host.length - (idx + 1))
    let host ← substr u.host 0 idx
    return { u with port := port, host := host }
  | none => return u

/-- A host that is a single positive integer, with no port, is the port. -/
def takeHostAsPort (u : UriParser) : UriParser :=
  if u.port = [] ∧ u.host ≠ [] ∧ IsPositiveInteger u.host then
    { u with port := u.host, host := [] }
  else u

/-- `strQueryPair` and the new `iQueryStart`. -/
def nextPair (strUrl : Text) (iQueryStart : Int32) : Except ParseError (Text × Int32) :=
  -- the loop passes no negative position on
  let start := iQueryStart.toNatClampNeg
  match findFrom ['&'] strUrl start with
  | some idx => do
    let strQueryPair ← substr strUrl start (idx - start)
    return (strQueryPair, intOfSize (some (idx + 1)))
  | none => do
    let strQueryPair ← substr strUrl start (strUrl.length - start)
    return (strQueryPair, intOfSize none)

def storePair (m : QueryMap) (strQueryPair : Text) : Except ParseError QueryMap :=
  match find ['='] strQueryPair with
  | some idx => do
    let key ← substr strQueryPair 0 idx
    let value ← substr strQueryPair (idx + 1) (strQueryPair.length - (idx + 1))
    return m.set key value
  | none => return m

/-- `while (iQueryStart > -1)`, with fuel for its tests of the condition. -/
def queryLoop : Nat → Text → Int32 → QueryMap → Except ParseError QueryMap
  | 0, _, _, _ => .error .outOfFuel
  | fuel + 1, strUrl, iQueryStart, m =>
    if -1 < iQueryStart then do
      let (strQueryPair, iQueryStart) ← nextPair strUrl iQueryStart
      let m ← storePair m strQueryPair
      queryLoop fuel strUrl iQueryStart m
    else return m

def dropDotDirectory (u : UriParser) : Except ParseError UriParser := do
  if u.proto = fileProto ∧ 3 < u.path.length then
    let front ← substr u.path 0 3
    if front = ['/', '.', '/'] then
      let path ← substrFrom u.path 3
      return { u with path := path }
  return u

/-- An empty protocol is a file: host and path are merged. -/
def treatAsFile (u : UriParser) (exp : DefaultExpect) : UriParser :=
  if exp = .expectFile ∧ u.proto = [] ∧ u.port = [] then
    { u with proto := fileProto, path := u.host ++ u.path, host := [] }
  else u

/-- What follows the query loop. -/
def finish (u : UriParser) (strUrl : Text) (exp : DefaultExpect) : Except ParseError UriParser := do
  let u ← u.dropDotDirectory
  let u := u.treatAsFile exp
  return { u with uriType := (types.lookup u.proto).getD .unknown, origUri := strUrl }

/-- The port in its numeric version. Fallback to 0. -/
def portno (u : UriParser) : UInt16 :=
  let i := atoi u.port
  if i ≤ 0 ∨ 65535 < i then 0 else UInt16.ofInt i.toInt

/-- `Parse`, called by the constructor on value-initialised members. -/
def parse (fuel : Nat) (strUrl : Text) (exp : DefaultExpect) : Except ParseError UriParser := do
  let (u, iQueryStart) ← cutQuery {} strUrl
  let u ← u.cutProto
  let u ← u.cutPath
  let u ← u.cutUserInfo
  let u ← u.cutPort
  let u := u.takeHostAsPort
  let mapQuery ← queryLoop fuel strUrl iQueryStart u.mapQuery
  finish { u with mapQuery := mapQuery } strUrl exp

end UriParser
end DriftTracing.Source
