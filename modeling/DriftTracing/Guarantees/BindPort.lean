import DriftTracing.Guarantees.UriSteps
import DriftTracing.Source.UdpSocket

/-!
# The two ways to read a port

The port of the URI goes through `atoi` and a range check, the port of the bind option
through `stoi` and a conversion that keeps the low 16 bits. They agree unless the text
starts with an `int` outside the port range that is no multiple of 65536.
-/
namespace DriftTracing.Source
open Lib.TextSearch

/-! ### Lower case -/

/-- Lower case changes letters into letters only. -/
theorem toLower_cases (c : Char) :
    c.toLower = c ∨ 65 ≤ c.toNat ∧ c.toLower.toNat = c.toNat + 32 := by
  unfold Char.toLower
  split
  · next letter =>
    right
    have low : 65 ≤ c.toNat := UInt32.le_iff_toNat_le.mp letter.1
    have high : c.toNat ≤ 90 := UInt32.le_iff_toNat_le.mp letter.2
    refine ⟨low, ?_⟩
    have shift : (c.val + ('a'.val - 'A'.val)).toNat = (c.toNat + 32) % 2 ^ 32 :=
      UInt32.toNat_add ..
    exact shift.trans (Nat.mod_eq_of_lt (by omega))
  · exact .inl rfl

/-- What no letter satisfies is kept by lower case. -/
theorem toLower_keeps {p : Char → Bool} (letters : ∀ d : Char, 65 ≤ d.toNat → p d = false)
    (c : Char) : p c.toLower = p c := by
  rcases toLower_cases c with same | ⟨letter, shift⟩
  · rw [same]
  · rw [letters c letter, letters c.toLower (by omega)]

theorem isspace_letter (d : Char) (letter : 65 ≤ d.toNat) : isspace d = false := by
  have blank : d ≠ ' ' := by
    rintro rfl
    exact absurd letter (by decide)
  simp only [isspace, blank, decide_false, Bool.false_or, Bool.and_eq_false_iff,
    decide_eq_false_iff_not]
  omega

theorem isDigit_letter (d : Char) (letter : 65 ≤ d.toNat) : d.isDigit = false := by
  rw [Bool.eq_false_iff, ne_eq, Char.isDigit_iff_toNat]
  rintro ⟨-, high⟩
  have nine : '9'.toNat = 57 := rfl
  omega

/-- A sign or a separator comes from itself only. -/
theorem toLower_eq_iff {sep : Char} (noLetter : sep.toNat < 65) (c : Char) :
    c.toLower = sep ↔ c = sep := by
  have letters (d : Char) (letter : 65 ≤ d.toNat) : (d == sep) = false := by
    rw [beq_eq_false_iff_ne]
    rintro rfl
    omega
  have kept := toLower_keeps letters c
  rwa [Bool.eq_iff_iff, beq_iff_eq, beq_iff_eq] at kept

theorem cutSign_other {c : Char} (minus : c ≠ '-') (plus : c ≠ '+') (cs : Text) :
    cutSign (c :: cs) = (1, c :: cs) := by
  unfold cutSign
  split
  · next same =>
    exact absurd (List.cons.inj same).1 minus
  · next same =>
    exact absurd (List.cons.inj same).1 plus
  · rfl

theorem cutSign_toLower (s : Text) :
    cutSign (s.map Char.toLower) = ((cutSign s).1, (cutSign s).2.map Char.toLower) := by
  cases s with
  | nil => rfl
  | cons c cs =>
    by_cases minus : c = '-'
    · subst minus
      rfl
    · by_cases plus : c = '+'
      · subst plus
        rfl
      · have minus' : c.toLower ≠ '-' := mt (toLower_eq_iff (by decide) c).mp minus
        have plus' : c.toLower ≠ '+' := mt (toLower_eq_iff (by decide) c).mp plus
        rw [List.map_cons, cutSign_other minus' plus', cutSign_other minus plus, List.map_cons]

theorem takeWhile_isDigit_toLower (s : Text) :
    (s.map Char.toLower).takeWhile Char.isDigit = s.takeWhile Char.isDigit := by
  induction s with
  | nil => rfl
  | cons c cs ih =>
    rw [List.map_cons, List.takeWhile_cons, List.takeWhile_cons, toLower_keeps isDigit_letter, ih]
    split
    · next digit =>
      rcases toLower_cases c with same | ⟨letter, -⟩
      · rw [same]
      · rw [isDigit_letter c letter] at digit
        exact absurd digit (by simp)
    · rfl

theorem dropWhile_isspace_toLower (s : Text) :
    (s.map Char.toLower).dropWhile isspace = (s.dropWhile isspace).map Char.toLower := by
  rw [List.dropWhile_map]
  congr 2
  funext c
  exact toLower_keeps isspace_letter c

/-- Lower case changes nothing in front of a number or inside it. -/
theorem strtol_toLower (s : Text) : strtol (s.map Char.toLower) = strtol s := by
  simp only [strtol, dropWhile_isspace_toLower, cutSign_toLower, takeWhile_isDigit_toLower,
    List.length_map]

/-! ### The number in front of a text -/

/-- The sign and the digits the text starts with. -/
def numberParts (s : Text) : Int × Text :=
  let (sign, rest) := cutSign (s.dropWhile isspace)
  (sign, rest.takeWhile Char.isDigit)

/-- The number a text starts with, of any size; 0 if there is none. -/
def leadingNumber (s : Text) : Int := (numberParts s).1 * decimal (numberParts s).2

variable {s : Text}

theorem strtol_none (noNumber : (numberParts s).2 = []) : strtol s = (0, 0) :=
  if_pos noNumber

theorem strtol_some (hasNumber : (numberParts s).2 ≠ []) : ∃ eos, 0 < eos ∧
    strtol s = (max (-2 ^ 63) (min (2 ^ 63 - 1) (leadingNumber s)), eos) :=
  ⟨_, Nat.add_pos_right _ (List.length_pos_iff.mpr hasNumber), if_neg hasNumber⟩

theorem leadingNumber_none (noNumber : (numberParts s).2 = []) : leadingNumber s = 0 := by
  rw [leadingNumber, noNumber]
  exact Int.mul_zero _

/-- Cutting the value off at the bounds of `long` changes no `int`. -/
theorem atoi_number (number : InInt (leadingNumber s)) : atoi s = toInt (leadingNumber s) := by
  by_cases noNumber : (numberParts s).2 = []
  · rw [atoi, strtol_none noNumber, leadingNumber_none noNumber]
  · obtain ⟨eos, -, value⟩ := strtol_some noNumber
    unfold InInt at number
    rw [atoi, value]
    congr 1
    omega

theorem stoi_none (noNumber : (numberParts s).2 = []) : stoi s = .error .invalidArgument := by
  rw [stoi, strtol_none noNumber]
  rfl

theorem stoi_int (hasNumber : (numberParts s).2 ≠ []) (number : InInt (leadingNumber s)) :
    stoi s = .ok (toInt (leadingNumber s)) := by
  obtain ⟨eos, positive, value⟩ := strtol_some hasNumber
  have kept : max (-2 ^ 63) (min (2 ^ 63 - 1) (leadingNumber s)) = leadingNumber s := by
    unfold InInt at number
    omega
  rw [stoi, value]
  simp only [kept, if_neg positive.ne', if_pos number]

theorem stoi_large (hasNumber : (numberParts s).2 ≠ []) (number : ¬InInt (leadingNumber s)) :
    stoi s = .error .outOfRange := by
  obtain ⟨eos, positive, value⟩ := strtol_some hasNumber
  have kept : ¬InInt (max (-2 ^ 63) (min (2 ^ 63 - 1) (leadingNumber s))) := by
    unfold InInt at number ⊢
    omega
  rw [stoi, value]
  simp only [if_neg positive.ne', if_neg kept]

theorem stoi_toLower : stoi (s.map Char.toLower) = stoi s := by
  rw [stoi, stoi, strtol_toLower]

/-! ### The two ports -/

theorem ofInt_eq_zero_iff (n : Int) : UInt16.ofInt n = 0 ↔ 65536 ∣ n := by
  rw [← UInt16.toNat_inj, UInt16.ofInt, UInt16.toNat_ofNat', UInt16.toNat_zero]
  omega

/-- A number outside the port range is no port. -/
theorem portno_number (number : InInt (leadingNumber s)) :
    ({ port := s } : UriParser).portno =
      if 0 < leadingNumber s ∧ leadingNumber s ≤ 65535 then UInt16.ofInt (leadingNumber s)
      else 0 := by
  have value : (atoi s).toInt = leadingNumber s := by
    rw [atoi_number number]
    exact toInt_toInt number.1 number.2
  have bound : Int32.toInt 65535 = 65535 := rfl
  have outside : atoi s ≤ 0 ∨ 65535 < atoi s ↔
      ¬(0 < leadingNumber s ∧ leadingNumber s ≤ 65535) := by
    rw [Int32.le_iff_toInt_le, Int32.lt_iff_toInt_lt, value, bound, Int32.toInt_zero]
    omega
  unfold UriParser.portno
  dsimp only
  rw [value]
  by_cases port : 0 < leadingNumber s ∧ leadingNumber s ≤ 65535
  · rw [if_pos port, if_neg (fun out => outside.mp out port)]
  · rw [if_neg port, if_pos (outside.mpr port)]

theorem bindArguments_append {ip text : Text} (free : ':' ∉ ip) (port : Int32) :
    bindArguments (ip ++ ':' :: text) port =
      (stoi text).map fun bindport => (ip.map Char.toLower, UInt16.ofInt bindport.toInt) := by
  have lower : (ip ++ ':' :: text).map Char.toLower =
      ip.map Char.toLower ++ ':' :: text.map Char.toLower := by
    rw [List.map_append, List.map_cons]
    rfl
  have free' : ':' ∉ ip.map Char.toLower := by
    intro member
    obtain ⟨c, inIp, colon⟩ := List.mem_map.mp member
    rw [(toLower_eq_iff (by decide) c).mp colon] at inIp
    exact free inIp
  unfold bindArguments
  simp only [lower, find_separator free', substr_front, substr_behind, Except.mapError, bind,
    Except.bind, stoi_toLower]
  cases stoi text with
  | error e => rfl
  | ok bindport => rfl

/-- The number is handed over modulo 65536. -/
theorem bindArguments_int {ip text : Text} (free : ':' ∉ ip) (hasNumber : (numberParts text).2 ≠ [])
    (number : InInt (leadingNumber text)) (port : Int32) :
    bindArguments (ip ++ ':' :: text) port =
      .ok (ip.map Char.toLower, UInt16.ofInt (leadingNumber text)) := by
  rw [bindArguments_append free, stoi_int hasNumber number, Except.map,
    toInt_toInt number.1 number.2]

/-! ### Construction -/

variable {u : UriParser} {bindOption : Text}

theorem socketUdp_error {e : SocketError} (option : u.mapQuery bindKey = some bindOption)
    (failed : bindArguments bindOption (Int32.ofNat u.portno.toNat) = .error e) (net : Net) :
    ∃ e, socketUdp net u = .error e := by
  unfold socketUdp
  cases openSocket net with
  | error e => exact ⟨e, rfl⟩
  | ok _ =>
    simp only [bind, Except.bind, option, failed]
    exact ⟨e, rfl⟩

/-- A system that opens and binds every socket. -/
def openNet : Net where
  socketError := none
  ioctlFails := false
  inetPton _ _ := none
  getaddrinfo _ _ := none
  bindFails _ := false

theorem socketUdp_openNet {ip : Text} {bindport : UInt16}
    (option : u.mapQuery bindKey = some bindOption)
    (request : bindArguments bindOption (Int32.ofNat u.portno.toNat) = .ok (ip, bindport)) :
    ∃ s, socketUdp openNet u = .ok s := by
  unfold socketUdp
  simp only [bind, Except.bind, option, request]
  exact ⟨_, rfl⟩

/-- The port handed to `CreateAddr` for the bind address, where it comes to that. -/
def bindPort (u : UriParser) : Option UInt16 :=
  (u.mapQuery bindKey).bind fun bindOption =>
    (bindArguments bindOption (Int32.ofNat u.portno.toNat)).toOption.map (·.2)

variable {fuel : Nat} {strUrl ip text : Text}

theorem createSocket_udp (parsed : UriParser.parse fuel strUrl .expectFile = .ok u)
    (udp : u.proto = udpProto) (net : Net) :
    createSocket net fuel strUrl = (socketUdp net u).map some := by
  rw [createSocket, parsed]
  simp only [Except.mapError, bind, Except.bind, if_pos udp]
  cases socketUdp net u with
  | error e => rfl
  | ok s => rfl

/-- Without an `int` there is no socket. -/
theorem createSocket_noInt (parsed : UriParser.parse fuel strUrl .expectFile = .ok u)
    (udp : u.proto = udpProto) (option : u.mapQuery bindKey = some (ip ++ ':' :: text))
    (free : ':' ∉ ip) {e : SocketError} (thrown : stoi text = .error e) (net : Net) :
    ∃ e, createSocket net fuel strUrl = .error e := by
  have failed : bindArguments (ip ++ ':' :: text) (Int32.ofNat u.portno.toNat) = .error e := by
    rw [bindArguments_append free, thrown]
    rfl
  obtain ⟨e', failed'⟩ := socketUdp_error option failed net
  rw [createSocket_udp parsed udp, failed']
  exact ⟨e', rfl⟩

/-- With an `int` the port is its value modulo 65536, and a willing system binds it. -/
theorem createSocket_int (parsed : UriParser.parse fuel strUrl .expectFile = .ok u)
    (udp : u.proto = udpProto) (option : u.mapQuery bindKey = some (ip ++ ':' :: text))
    (free : ':' ∉ ip) (hasNumber : (numberParts text).2 ≠ [])
    (number : InInt (leadingNumber text)) :
    (∃ s, createSocket openNet fuel strUrl = .ok s) ∧
      bindPort u = some (UInt16.ofInt (leadingNumber text)) := by
  have request := bindArguments_int free hasNumber number (Int32.ofNat u.portno.toNat)
  obtain ⟨s, constructed⟩ := socketUdp_openNet option request
  refine ⟨⟨some s, ?_⟩, ?_⟩
  · rw [createSocket_udp parsed udp, constructed]
    rfl
  · rw [bindPort, option, Option.bind_some, request]
    rfl

/-- In the range of `int` the two ports agree on the ports, on 0 and on the multiples of
65536, which are handed over as 0. -/
theorem ofInt_eq_portno_iff (number : InInt (leadingNumber s)) :
    UInt16.ofInt (leadingNumber s) = ({ port := s } : UriParser).portno ↔
      (0 ≤ leadingNumber s ∧ leadingNumber s ≤ 65535) ∨ 65536 ∣ leadingNumber s := by
  rw [portno_number number]
  split
  · next port => exact ⟨fun _ => .inl ⟨port.1.le, port.2⟩, fun _ => rfl⟩
  · next noPort =>
    rw [ofInt_eq_zero_iff]
    omega

/-- Whatever the system answers, construction fails or the bind port is what `portno`
reads from the same text. This holds for the numbers that are no `int`, for those up to
65535 and for the multiples of 65536; any other `int` is reduced modulo 65536. -/
theorem bindPort_eq_portno_iff (parsed : UriParser.parse fuel strUrl .expectFile = .ok u)
    (udp : u.proto = udpProto) (option : u.mapQuery bindKey = some (ip ++ ':' :: text))
    (free : ':' ∉ ip) :
    (∀ net : Net, (∃ e, createSocket net fuel strUrl = .error e) ∨
        bindPort u = some ({ port := text } : UriParser).portno) ↔
      ¬InInt (leadingNumber text) ∨ (0 ≤ leadingNumber text ∧ leadingNumber text ≤ 65535) ∨
        65536 ∣ leadingNumber text := by
  by_cases noNumber : (numberParts text).2 = []
  · have zero := leadingNumber_none noNumber
    have fails := createSocket_noInt parsed udp option free (stoi_none noNumber)
    exact ⟨fun _ => .inr (.inl (by omega)), fun _ net => .inl (fails net)⟩
  · by_cases number : InInt (leadingNumber text)
    · obtain ⟨⟨s, built⟩, handed⟩ := createSocket_int parsed udp option free noNumber number
      rw [handed, Option.some.injEq, ← ofInt_eq_portno_iff number]
      refine ⟨fun same => ?_, fun condition net => ?_⟩
      · rcases same openNet with ⟨e, failed⟩ | same
        · rw [built] at failed
          cases failed
        · exact .inr same
      · rcases condition with noInt | same
        · exact absurd number noInt
        · exact .inr same
    · have fails := createSocket_noInt parsed udp option free (stoi_large noNumber number)
      exact ⟨fun _ => .inl number, fun _ net => .inl (fails net)⟩

/-- `udp://127.0.0.1:9000?bind=127.0.0.1:` and the text of the bind port. -/
def bindUrl (text : Text) : Text :=
  ['u', 'd', 'p', ':', '/', '/', '1', '2', '7', '.', '0', '.', '0', '.', '1', ':', '9', '0', '0',
    '0', '?', 'b', 'i', 'n', 'd', '=', '1', '2', '7', '.', '0', '.', '0', '.', '1', ':'] ++ text

/-- ` +4200x` is 4200 on both ways. -/
theorem bindPort_eq_portno_iff_trailing :
    ∃ u, UriParser.parse 2 (bindUrl [' ', '+', '4', '2', '0', '0', 'x']) .expectFile = .ok u ∧
      ∀ net : Net,
        (∃ e, createSocket net 2 (bindUrl [' ', '+', '4', '2', '0', '0', 'x']) = .error e) ∨
          bindPort u =
            some ({ port := [' ', '+', '4', '2', '0', '0', 'x'] } : UriParser).portno := by
  have free : ':' ∉ ['1', '2', '7', '.', '0', '.', '0', '.', '1'] := by simp
  refine ⟨_, rfl, (bindPort_eq_portno_iff rfl rfl rfl free).mpr (.inr (.inl ?_))⟩
  decide

/-- A system that knows the loopback address and binds it. -/
def loopbackNet : Net where
  socketError := none
  ioctlFails := false
  inetPton family name :=
    if family = .inet ∧ name = ['1', '2', '7', '.', '0', '.', '0', '.', '1'] then
      some [127, 0, 0, 1]
    else none
  getaddrinfo _ _ := none
  bindFails _ := false

/-- 70000 is bound as 4464, and is port 0 in the URI. -/
theorem bindPort_seventy_thousand :
    ∃ u s, UriParser.parse 2 (bindUrl ['7', '0', '0', '0', '0']) .expectFile = .ok u ∧
      u.proto = udpProto ∧
      u.mapQuery bindKey =
        some (['1', '2', '7', '.', '0', '.', '0', '.', '1'] ++ ':' :: ['7', '0', '0', '0', '0']) ∧
      createSocket loopbackNet 2 (bindUrl ['7', '0', '0', '0', '0']) = .ok (some s) ∧
      s.boundTo = some { family := .inet, addr := [127, 0, 0, 1], hport := 4464 } ∧
      bindPort u = some 4464 ∧
      ({ port := ['7', '0', '0', '0', '0'] } : UriParser).portno = 0 :=
  ⟨_, _, rfl, rfl, rfl, rfl, rfl, rfl, rfl⟩

end DriftTracing.Source
