import DriftTracing.Guarantees.BindPort
import DriftTracing.Guarantees.TraceFile
import DriftTracing.Guarantees.UriRoundTrip
import DriftTracing.Lib.DecimalField
import DriftTracing.Source.Run
import Mathlib.Data.List.TakeWhile

/-!
# From the command line to the socket

README.md:86-109 documents the URIs of the `start` command: a remote address and port, or
a port alone for a listener, and an optional address to bind to, with a port of its own or
the same one. The answers of the system decide how `run` ends: with an error of the
system, or with the exchange on a socket that has the destination and the bound address the
text names.
-/
namespace DriftTracing.Source
open Lib Lib.TextSearch

/-! ### Decimal ports -/

theorem decimal_eq (digits : Text) : decimal digits = Nat.ofDigitChars 10 digits 0 := rfl

/-- A text of digits is a number and nothing else. -/
theorem numberParts_toDigits (n : Nat) :
    numberParts (Nat.toDigits 10 n) = (1, Nat.toDigits 10 n) := by
  have digits (c : Char) (member : c ∈ Nat.toDigits 10 n) : c.isDigit :=
    DecimalField.isDigit_of_mem_toDigits member
  have whole : (Nat.toDigits 10 n).takeWhile Char.isDigit = Nat.toDigits 10 n :=
    List.takeWhile_eq_self_iff.mpr digits
  cases text : Nat.toDigits 10 n with
  | nil => exact absurd text Nat.toDigits_ne_nil
  | cons c cs =>
    rw [text] at digits whole
    have digit := digits c List.mem_cons_self
    have minus : c ≠ '-' := by
      rintro rfl
      simp at digit
    have plus : c ≠ '+' := by
      rintro rfl
      simp at digit
    have space : isspace c = false := by
      rw [Char.isDigit_iff_toNat] at digit
      have zero : '0'.toNat = 48 := rfl
      have blank : c ≠ ' ' := by
        rintro rfl
        exact absurd digit.1 (by decide)
      simp only [isspace, blank, decide_false, Bool.false_or, Bool.and_eq_false_iff,
        decide_eq_false_iff_not]
      omega
    rw [numberParts, List.dropWhile_cons_of_neg (by simp [space]), cutSign_other minus plus]
    dsimp only
    rw [whole]

theorem leadingNumber_toDigits (n : Nat) : leadingNumber (Nat.toDigits 10 n) = n := by
  rw [leadingNumber, numberParts_toDigits]
  dsimp only
  rw [decimal_eq, Nat.ofDigitChars_ten_toDigits]
  omega

theorem ofInt_toNat (port : UInt16) : UInt16.ofInt port.toNat = port := by
  rw [← UInt16.toNat_inj, UInt16.ofInt, UInt16.toNat_ofNat']
  have := port.toNat_lt
  omega

theorem inInt_port (port : UInt16) : InInt port.toNat := by
  have := port.toNat_lt
  unfold InInt
  omega

theorem not_mem_toLower {c : Char} {s : Text} (noLetter : c.toNat < 65) (free : c ∉ s) :
    c ∉ s.map Char.toLower := by
  intro member
  obtain ⟨d, inside, lower⟩ := List.mem_map.mp member
  rw [(toLower_eq_iff noLetter d).mp lower] at inside
  exact free inside

/-- The URI reads a port above 0 as it is written. -/
theorem portno_toDigits {port : UInt16} (positive : port ≠ 0) :
    ({ port := Nat.toDigits 10 port.toNat } : UriParser).portno = port := by
  have number := leadingNumber_toDigits port.toNat
  have nonzero : port.toNat ≠ 0 := fun zero => positive (UInt16.toNat_inj.mp zero)
  have := port.toNat_lt
  rw [portno_number (number ▸ inInt_port port), number, if_pos (by omega), ofInt_toNat]

/-- So does the bind option. -/
theorem stoi_toDigits (port : UInt16) :
    stoi (Nat.toDigits 10 port.toNat) = .ok (Int32.ofNat port.toNat) := by
  have number := leadingNumber_toDigits port.toNat
  have hasNumber : (numberParts (Nat.toDigits 10 port.toNat)).2 ≠ [] := by
    rw [numberParts_toDigits]
    exact Nat.toDigits_ne_nil
  rw [stoi_int hasNumber (number ▸ inInt_port port), number]
  rfl

/-- The `int` of a port keeps it. -/
theorem ofInt_ofNat (port : UInt16) : UInt16.ofInt (Int32.ofNat port.toNat).toInt = port := by
  have := port.toNat_lt
  rw [Int32.toInt_ofNat_of_lt (by omega), ofInt_toNat]

/-! ### What the system answers -/

namespace Net

variable (net : Net)

/-- The address the system has for a name: a number of IPv6, a number of IPv4, or what it
finds under the name. No name is any address of IPv4, and an unknown name has none. -/
def address (name : Text) (port : UInt16) : SockaddrAny :=
  if name = [] then { family := .inet, hport := port }
  else
    match net.inetPton .inet6 name, net.inetPton .inet name, net.getaddrinfo .unspec name with
    | some addr, _, _ => { family := .inet6, addr, hport := port }
    | none, some addr, _ => { family := .inet, addr, hport := port }
    | none, none, some found => { found with hport := port }
    | none, none, none => {}

/-- The system has an address for the name. -/
def Knows (name : Text) : Prop :=
  name = [] ∨ net.inetPton .inet6 name ≠ none ∨ net.inetPton .inet name ≠ none ∨
    ∃ found, net.getaddrinfo .unspec name = some found ∧ found.family ≠ .unspec

/-- The socket can be opened and set up. -/
def Opens : Prop := net.socketError = none ∧ net.ioctlFails = false

theorem createAddr_unspec (name : Text) (port : UInt16) :
    createAddr net name port .unspec = net.address name port := by
  unfold createAddr address
  by_cases any : name = []
  · rw [if_pos any, if_pos any]
    rfl
  · rw [if_neg any, if_neg any, if_pos (by decide)]
    simp only [List.findSome?_cons, List.findSome?_nil]
    cases net.inetPton .inet6 name with
    | some addr => rfl
    | none =>
      cases net.inetPton .inet name with
      | some addr => rfl
      | none =>
        cases net.getaddrinfo .unspec name with
        | some found => rfl
        | none => rfl

theorem openSocket_opens (h : net.Opens) : openSocket net = .ok () := by
  simp [openSocket, h.1, h.2]

/-- A known name gets the port it is asked for, and is not the empty address. -/
theorem address_empty {name : Text} {port : UInt16} (positive : port ≠ 0) :
    (net.address name port).empty = true ↔ ¬ net.Knows name := by
  have inet (addr : List UInt8) :
      SockaddrAny.empty { family := .inet, addr, hport := port } = false := by
    simp [SockaddrAny.empty, positive]
  have inet6 (addr : List UInt8) :
      SockaddrAny.empty { family := .inet6, addr, hport := port } = false := by
    simp [SockaddrAny.empty, positive]
  unfold address Knows
  by_cases any : name = []
  · simp [any, inet]
  rw [if_neg any]
  cases net.inetPton .inet6 name with
  | some addr => simp [inet6]
  | none =>
    cases net.inetPton .inet name with
    | some addr => simp [inet]
    | none =>
      cases net.getaddrinfo .unspec name with
      | none => simp [any, SockaddrAny.empty]
      | some found =>
        cases family : found.family with
        | unspec => simp [any, SockaddrAny.empty, family]
        | inet => simp [SockaddrAny.empty, family, positive]
        | inet6 => simp [SockaddrAny.empty, family, positive]

end Net

/-! ### The documented URIs -/

/-- An address to bind to, with its own port or that of the URI. -/
structure BindOption where
  ip : Text
  port : Option UInt16
  ip_free : List.Disjoint [':', '&'] ip

/-- `udp://host:port`, without a host for a listener, and the option to bind. -/
structure UdpUri where
  scheme : Text
  host : Text
  port : UInt16
  bind : Option BindOption
  scheme_udp : scheme.map Char.toLower = udpProto
  host_free : List.Disjoint ['?', '/', '@', ':'] host
  /-- The positions of the parser are `int`s. -/
  host_short : host.length < 2 ^ 30
  port_pos : port ≠ 0

def BindOption.text (b : BindOption) : Text :=
  match b.port with
  | none => b.ip
  | some port => b.ip ++ ':' :: Nat.toDigits 10 port.toNat

theorem bindKey_free : List.Disjoint ['=', '&'] bindKey := by simp [bindKey]

theorem digits_free {stops : List Char} (letters : ∀ c ∈ stops, c.isDigit = false) (n : Nat) :
    List.Disjoint stops (Nat.toDigits 10 n) := fun c stop digit =>
  DecimalField.not_mem_toDigits (letters c stop) digit

theorem BindOption.text_free (b : BindOption) : '&' ∉ b.text := by
  have ip_free : '&' ∉ b.ip := b.ip_free (by simp)
  have digit_free (port : UInt16) : '&' ∉ Nat.toDigits 10 port.toNat :=
    DecimalField.not_mem_toDigits (by decide)
  unfold text
  cases b.port with
  | none => exact ip_free
  | some port => simp [ip_free, digit_free]

/-- Characters whose lower case is a letter of the protocol. -/
theorem isAlphanum_of_toLower {c : Char} (letter : c.toLower ∈ udpProto) : c.isAlphanum := by
  have known (n : Nat) (value : c.toNat = n) : c = Char.ofNat n := by
    rw [← value, Char.ofNat_toNat]
  rw [udpProto, List.mem_cons, List.mem_cons, List.mem_singleton] at letter
  rcases toLower_cases c with same | ⟨-, shift⟩
  · rw [same] at letter
    rcases letter with rfl | rfl | rfl
    · rfl
    · rfl
    · rfl
  · rcases letter with h | h | h
    · rw [h] at shift
      rw [known 85 (by simpa using shift.symm)]
      rfl
    · rw [h] at shift
      rw [known 68 (by simpa using shift.symm)]
      rfl
    · rw [h] at shift
      rw [known 80 (by simpa using shift.symm)]
      rfl

namespace UdpUri

variable (u : UdpUri)

def query : List QueryPair :=
  match u.bind with
  | none => []
  | some b =>
    [{ key := bindKey, value := b.text, key_free := bindKey_free, value_free := b.text_free }]

/-- The URI as one of the parser's. -/
def parts : UriParts where
  scheme := u.scheme
  userInfo := none
  host := u.host
  port := some (Nat.toDigits 10 u.port.toNat)
  path := []
  query := u.query
  scheme_nonempty := by
    intro empty
    have udp := u.scheme_udp
    rw [empty] at udp
    exact absurd udp (by decide)
  scheme_alphanum := by
    intro c member
    have letter : c.toLower ∈ u.scheme.map Char.toLower := List.mem_map_of_mem member
    rw [u.scheme_udp] at letter
    exact isAlphanum_of_toLower letter
  scheme_not_file := by
    rw [u.scheme_udp]
    decide
  host_free := u.host_free
  port_nonempty := fun empty => Nat.toDigits_ne_nil (Option.some.inj empty)
  port_free := by
    rintro q ⟨⟩
    exact digits_free (by simp) _
  host_not_port := fun none => nomatch none
  path_rooted := .inl rfl
  path_free := by simp

def render : Text := u.parts.render

/-- The options that are left to the parser's caller. -/
def options : QueryMap :=
  match u.bind with
  | none => fun _ => none
  | some b => QueryMap.set (fun _ => none) bindKey b.text

theorem length_digits (port : UInt16) : (Nat.toDigits 10 port.toNat).length ≤ 5 := by
  have := port.toNat_lt
  exact (Nat.length_toDigits_le_iff (by decide) (by decide)).mpr (by omega)

/-- The query is in reach of the parser. -/
theorem start_query : u.parts.front.length + 1 < 2 ^ 31 := by
  have scheme : u.parts.scheme.length = 3 := by
    have udp := congrArg List.length u.scheme_udp
    rw [List.length_map] at udp
    exact udp
  have front : u.parts.front = u.parts.scheme ++ ([':', '/', '/'] ++
    ((u.host ++ ':' :: Nat.toDigits 10 u.port.toNat) ++ [])) := rfl
  have digits := length_digits u.port
  have host := u.host_short
  rw [front]
  simp only [List.length_append, List.length_cons, List.length_nil, scheme]
  omega

theorem parse_render {fuel : Nat} (enough : 1 < fuel) :
    UriParser.parse fuel u.render .expectFile = .ok (u.parts.parsed u.render u.options) := by
  obtain ⟨fuel, rfl⟩ : ∃ k, fuel = k + 1 := Nat.exists_eq_add_one.mpr (by omega)
  cases bind : u.bind with
  | none =>
    have none : u.parts.query = [] := by
      change u.query = []
      rw [query, bind]
    have text : u.render = u.parts.front := if_pos none
    rw [text, options, bind]
    exact u.parts.parse_of_loop (UriParser.cutQuery_none u.parts.front_free)
      (UriParser.queryLoop_end fuel _ _ (Int32.le_refl _))
  | some b =>
    have some : u.parts.query = [⟨bindKey, b.text, bindKey_free, b.text_free⟩] := by
      change u.query = _
      rw [query, bind]
    have nonempty : u.parts.query ≠ [] := by simp [some]
    have text : u.render = u.parts.front ++ '?' :: QueryPair.renderAll u.parts.query :=
      if_neg nonempty
    have width : (u.parts.front ++ ['?']).length = u.parts.front.length + 1 := by simp
    have starts (n : Nat) (hn : n < u.parts.query.length) :
        QueryPair.start (u.parts.front ++ ['?']).length u.parts.query n < 2 ^ 31 := by
      rw [some, List.length_singleton, Nat.lt_one_iff] at hn
      rw [hn, QueryPair.start_zero, width]
      exact u.start_query
    have room : u.parts.query.length < fuel + 1 := by
      rw [some]
      exact enough
    have loop := QueryPair.queryLoop_renderAll nonempty (u.parts.front ++ ['?']) starts room
      u.parts.userOptions
    rw [text]
    refine u.parts.parse_of_loop (UriParser.cutQuery_append u.parts.front_free) ?_
    rw [List.append_cons, ← width, loop, some, options, bind]
    rfl

/-- The address the socket is bound to: the one of the option, or any address at the port
of a listener. -/
def boundTo (net : Net) : Option SockaddrAny :=
  match u.bind with
  | some b => some (net.address (b.ip.map Char.toLower) (b.port.getD u.port))
  | none => if u.host = [] then some (net.address [] u.port) else none

/-- The destination, which a listener that binds no other address does not have. -/
def dstAddr (net : Net) : SockaddrAny :=
  if u.host = [] ∧ u.bind.isNone then {} else net.address u.host u.port

def socket (net : Net) : SocketUdp where
  host := u.host
  port := Int32.ofNat u.port.toNat
  options := fun _ => none
  boundTo := u.boundTo net
  dstAddr := u.dstAddr net

theorem bindArguments_text (b : BindOption) :
    bindArguments b.text (Int32.ofNat u.port.toNat) =
      .ok (b.ip.map Char.toLower, b.port.getD u.port) := by
  have free : ':' ∉ b.ip := b.ip_free (by simp)
  unfold BindOption.text
  cases b.port with
  | none =>
    have none : find [':'] (b.ip.map Char.toLower) = none :=
      find_eq_none (not_mem_toLower (by decide) free)
    rw [bindArguments, none]
    dsimp only
    rw [ofInt_ofNat]
    rfl
  | some port =>
    rw [bindArguments_append free, stoi_toDigits]
    simp only [Except.map, ofInt_ofNat, Option.getD_some]

theorem parsed_portno (m : QueryMap) : (u.parts.parsed u.render m).portno = u.port :=
  portno_toDigits u.port_pos

/-- What the constructor does with the parsed text. -/
theorem socketUdp_parsed (net : Net) :
    socketUdp net (u.parts.parsed u.render u.options) =
      (openSocket net).bind fun _ =>
        if (u.boundTo net).any net.bindFails then
          .error (.runtimeError "UDP binding has failed")
        else .ok (u.socket net) := by
  have host : (u.parts.parsed u.render u.options).host = u.host := rfl
  have query : (u.parts.parsed u.render u.options).mapQuery = u.options := rfl
  unfold socketUdp
  rw [u.parsed_portno, host, query]
  cases openSocket net with
  | error e => rfl
  | ok _ =>
    simp only [Bind.bind, Except.bind, ofInt_ofNat]
    cases bound : u.bind with
    | some b =>
      have option : u.options bindKey = some b.text := by
        simp [options, bound, QueryMap.set]
      have rest : Function.update u.options bindKey none = fun _ => none := by
        funext key
        by_cases same : key = bindKey
        · rw [same, Function.update_self]
        · simp [options, bound, QueryMap.set, same]
      have dst : u.dstAddr net = net.address u.host u.port := by
        simp [dstAddr, bound]
      have address : u.boundTo net =
          some (net.address (b.ip.map Char.toLower) (b.port.getD u.port)) := by
        simp [boundTo, bound]
      rw [option, socket, address, dst]
      simp only [u.bindArguments_text b, bindMe, Option.any_some, net.createAddr_unspec]
      by_cases fails : net.bindFails
          (net.address (b.ip.map Char.toLower) (b.port.getD u.port)) = true
      · rw [if_pos fails, if_pos fails]
      · rw [if_neg fails, if_neg fails, rest]
        rfl
    | none =>
      have option : u.options bindKey = none := by
        simp [options, bound]
      have empty : u.options = fun _ => none := by
        simp [options, bound]
      rw [option]
      by_cases listener : u.host = []
      · have address : u.boundTo net = some (net.address [] u.port) := by
          simp [boundTo, bound, listener]
        have dst : u.dstAddr net = {} := by simp [dstAddr, bound, listener]
        simp only [listener, ne_eq, not_true_eq_false, if_false, net.createAddr_unspec, bindMe,
          socket, address, dst, Option.any_some, empty]
        by_cases fails : net.bindFails (net.address [] u.port) = true
        · rw [if_pos fails, if_pos fails]
        · rw [if_neg fails, if_neg fails]
          rfl
      · have address : u.boundTo net = none := by simp [boundTo, bound, listener]
        have dst : u.dstAddr net = net.address u.host u.port := by
          simp [dstAddr, listener]
        simp only [ne_eq, listener, not_false_eq_true, if_true, socket, address, dst, empty,
          Option.any_none, Bool.false_eq_true, if_false, net.createAddr_unspec]
        rfl

/-- The socket of a documented URI: construction fails with the system only. -/
theorem createSocket_render (net : Net) {fuel : Nat} (enough : 1 < fuel) :
    createSocket net fuel u.render =
      (openSocket net).bind fun _ =>
        if (u.boundTo net).any net.bindFails then
          .error (.runtimeError "UDP binding has failed")
        else .ok (some (u.socket net)) := by
  have udp : (u.parts.parsed u.render u.options).proto = udpProto := u.scheme_udp
  rw [createSocket_udp (u.parse_render enough) udp, u.socketUdp_parsed]
  cases openSocket net with
  | error e => rfl
  | ok _ =>
    dsimp only [Except.bind]
    split
    · rfl
    · rfl

end UdpUri

/-! ### How the run ends -/

/-- The exchange starts without a destination for a listener that binds no other address,
and for a host the system does not know. -/
theorem UdpUri.destination_eq_none_iff (u : UdpUri) (net : Net) :
    (u.socket net).destination = none ↔ u.host = [] ∧ u.bind.isNone ∨ ¬ net.Knows u.host := by
  have destination : (u.socket net).destination = none ↔ (u.dstAddr net).empty = true := by
    rw [SocketUdp.destination, UdpUri.socket]
    simp
  rw [destination, UdpUri.dstAddr]
  by_cases listener : u.host = [] ∧ u.bind.isNone
  · rw [if_pos listener]
    exact ⟨fun _ => .inl listener, fun _ => rfl⟩
  · rw [if_neg listener, net.address_empty u.port_pos]
    exact ⟨.inr, fun h => h.resolve_left listener⟩

/-- The trace file that is asked for: none, or one with the names of its columns. -/
inductive TraceFile (opens : String → Bool) (cfg : RunConfig) : Option StatsLogger → Prop where
  | none : cfg.statsfile = "" → TraceFile opens cfg none
  | opened : cfg.statsfile ≠ "" → opens cfg.statsfile = true →
      TraceFile opens cfg (some
        { compactMode := cfg.compactTrace
          fout := Table.writeRecord ',' '\n' (StatsLogger.columns cfg.compactTrace) })

/-- How a run with a documented URI ends, by the answers of the system. -/
inductive Outcome (net : Net) (opens : String → Bool) (cfg : RunConfig) (u : UdpUri) :
    Except SocketError Started → Prop where
  | noSocket {error : Int32} : net.socketError = some error →
      Outcome net opens cfg u (.error (.runtimeError
        ("Failed to create a UDP socket. Error code: " ++ toString error)))
  | blocking : net.socketError = none → net.ioctlFails = true →
      Outcome net opens cfg u (.error (.runtimeError "UdpCommon::Setup: ioctl FIONBIO"))
  | notBound {sa : SockaddrAny} : net.Opens → u.boundTo net = some sa →
      net.bindFails sa = true →
      Outcome net opens cfg u (.error (.runtimeError "UDP binding has failed"))
  | noTraceFile : net.Opens → (∀ sa, u.boundTo net = some sa → net.bindFails sa = false) →
      cfg.statsfile ≠ "" → opens cfg.statsfile = false →
      Outcome net opens cfg u (.ok (.failed ("Failed to open " ++ cfg.statsfile ++ "!!!")))
  | exchanging {statsLogger : Option StatsLogger} : net.Opens →
      (∀ sa, u.boundTo net = some sa → net.bindFails sa = false) →
      TraceFile opens cfg statsLogger →
      Outcome net opens cfg u (.ok (.exchanging (u.socket net) statsLogger))

theorem makeStatsLogger_cases (opens : String → Bool) (cfg : RunConfig) :
    (cfg.statsfile ≠ "" ∧ opens cfg.statsfile = false ∧
        makeStatsLogger opens cfg = .error ("Failed to open " ++ cfg.statsfile ++ "!!!")) ∨
      ∃ statsLogger, TraceFile opens cfg statsLogger ∧
        makeStatsLogger opens cfg = .ok statsLogger := by
  by_cases traces : cfg.statsfile = ""
  · exact .inr ⟨none, .none traces, by simp [makeStatsLogger, traces, pure, Except.pure]⟩
  cases opened : opens cfg.statsfile with
  | false =>
    refine .inl ⟨traces, rfl, ?_⟩
    simp only [makeStatsLogger, traces, ne_eq, not_false_eq_true, if_true, opened]
    rfl
  | true =>
    refine .inr ⟨_, .opened traces opened, ?_⟩
    simp only [makeStatsLogger, traces, ne_eq, not_false_eq_true, if_true, opened]
    rw [← StatsLogger.printHeader_fout]
    rfl

/-- What `run` makes of a socket and of the trace file. -/
def Started.of (sock : SocketUdp) : Except String (Option StatsLogger) → Started
  | .error what => .failed what
  | .ok statsLogger => .exchanging sock statsLogger

theorem run_render (net : Net) (opens : String → Bool) (cfg : RunConfig) (u : UdpUri) {fuel : Nat}
    (enough : 1 < fuel) :
    run net opens fuel u.render cfg =
      (openSocket net).bind fun _ =>
        if (u.boundTo net).any net.bindFails then
          .error (.runtimeError "UDP binding has failed")
        else .ok (Started.of (u.socket net) (makeStatsLogger opens cfg)) := by
  have nonempty : u.render ≠ [] := by
    rw [UdpUri.render, UriParts.render]
    split
    · simp [UriParts.front]
    · simp
  rw [run, if_neg nonempty, u.createSocket_render net enough]
  cases openSocket net with
  | error e => rfl
  | ok _ =>
    dsimp only [Except.bind]
    split
    · rfl
    · dsimp only [bind, Except.bind]
      cases makeStatsLogger opens cfg with
      | error what => rfl
      | ok statsLogger => rfl

/-- The run ends as the answers of the system say. -/
theorem run_outcome (net : Net) (opens : String → Bool) (cfg : RunConfig) (u : UdpUri)
    {fuel : Nat} (enough : 1 < fuel) :
    Outcome net opens cfg u (run net opens fuel u.render cfg) := by
  rw [run_render net opens cfg u enough]
  cases refused : net.socketError with
  | some error =>
    rw [openSocket, refused]
    exact .noSocket refused
  | none =>
    cases blocks : net.ioctlFails with
    | true =>
      rw [openSocket, refused, blocks]
      exact .blocking refused blocks
    | false =>
      rw [net.openSocket_opens ⟨refused, blocks⟩, Except.bind]
      by_cases fails : (u.boundTo net).any net.bindFails = true
      · rw [if_pos fails]
        obtain ⟨sa, address, fails⟩ := (Option.any_eq_true _ _).mp fails
        exact .notBound ⟨refused, blocks⟩ address fails
      · rw [if_neg fails]
        have bound : ∀ sa, u.boundTo net = some sa → net.bindFails sa = false := by
          intro sa address
          simpa [address] using fails
        rcases makeStatsLogger_cases opens cfg with
          ⟨traces, closed, logger⟩ | ⟨statsLogger, file, logger⟩
        · rw [logger]
          exact .noTraceFile ⟨refused, blocks⟩ bound traces closed
        · rw [logger]
          exact .exchanging ⟨refused, blocks⟩ bound file

/-- Every documented command line ends as the answers of the system say: with an error of the
system, or with the exchange on the socket it describes. -/
theorem run_configures (net : Net) (opens : String → Bool) (cfg : RunConfig) (u : UdpUri)
    (fuel : Nat) (enough : 1 < fuel) :
    Outcome net opens cfg u (run net opens fuel u.render cfg) ∧
      ∀ sock statsLogger, run net opens fuel u.render cfg = .ok (.exchanging sock statsLogger) →
        (sock.destination = none ↔ u.host = [] ∧ u.bind.isNone ∨ ¬ net.Knows u.host) := by
  have outcome := run_outcome net opens cfg u enough
  refine ⟨outcome, fun sock statsLogger started => ?_⟩
  rw [started] at outcome
  cases outcome
  exact u.destination_eq_none_iff net

/-- `UDP://192.168.0.7:4200?bind=192.168.0.10:4201`. -/
def callerUri : UdpUri where
  scheme := ['U', 'D', 'P']
  host := ['1', '9', '2', '.', '1', '6', '8', '.', '0', '.', '7']
  port := 4200
  bind := some
    { ip := ['1', '9', '2', '.', '1', '6', '8', '.', '0', '.', '1', '0'], port := some 4201,
      ip_free := by simp }
  scheme_udp := by decide
  host_free := by simp
  host_short := by decide
  port_pos := by decide

/-- A system that knows the two addresses. -/
def lanNet : Net where
  socketError := none
  ioctlFails := false
  inetPton family name :=
    if family = .inet ∧ name = ['1', '9', '2', '.', '1', '6', '8', '.', '0', '.', '7'] then
      some [192, 168, 0, 7]
    else if family = .inet ∧
        name = ['1', '9', '2', '.', '1', '6', '8', '.', '0', '.', '1', '0'] then
      some [192, 168, 0, 10]
    else none
  getaddrinfo _ _ := none
  bindFails _ := false

/-- The system opens and binds the socket, and the exchange starts. -/
theorem run_configures_caller :
    ∃ sock statsLogger,
      run lanNet (fun _ => true) 2 callerUri.render { statsfile := "drift-trace-a.csv" } =
        .ok (.exchanging sock (some statsLogger)) ∧
      sock.boundTo = some { family := .inet, addr := [192, 168, 0, 10], hport := 4201 } ∧
      sock.dstAddr = { family := .inet, addr := [192, 168, 0, 7], hport := 4200 } ∧
      sock.destination ≠ none := by
  obtain ⟨outcome, destination⟩ := run_configures lanNet (fun _ => true)
    { statsfile := "drift-trace-a.csv" } callerUri 2 (by decide)
  generalize run lanNet _ _ _ _ = result at outcome destination ⊢
  cases outcome with
  | noSocket refused => cases refused
  | blocking opened blocks => cases blocks
  | notBound opened address fails => cases fails
  | noTraceFile opened bound traces closed => cases closed
  | exchanging opened bound file =>
    cases file with
    | none untraced => exact absurd untraced (by decide)
    | opened traces opened =>
      refine ⟨_, _, rfl, by decide, by decide, fun none => ?_⟩
      rcases (destination _ _ rfl).mp none with ⟨listener, -⟩ | unknown
      · cases listener
      · exact unknown (.inr (.inr (.inl (by decide))))

end DriftTracing.Source
