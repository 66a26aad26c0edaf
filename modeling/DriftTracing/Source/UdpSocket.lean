import DriftTracing.Source.UriParser

/-!
# The UDP socket

app/udp_socket.cpp:18-153 and `create_socket` of app/start.cpp:196-206, with what they
use of `sockaddr_any`. The answers of the operating system are given by a `Net`; the
descriptor, `SO_REUSEADDR` and log lines are left out. `CreateAddr` throws no
`invalid_argument`, so the `catch` around its calls is never entered.
-/
namespace DriftTracing.Source
open Lib.TextSearch

def udpProto : Text := ['u', 'd', 'p']
def bindKey : Text := ['b', 'i', 'n', 'd']

inductive SocketError where
  /-- Thrown by `substr`. -/
  | parse (e : ParseError)
  /-- `std::invalid_argument`, thrown by `stoi`: no number. -/
  | invalidArgument
  /-- `std::out_of_range`, thrown by `stoi`: no `int`. -/
  | outOfRange
  | runtimeError (what : String)
  deriving DecidableEq, Repr

/-- `AF_UNSPEC`, `AF_INET` and `AF_INET6`. -/
inductive Family where
  | unspec | inet | inet6
  deriving DecidableEq, Repr

/-- The address in network order; empty for the wildcard and without a family. -/
structure SockaddrAny where
  family : Family := .unspec
  addr : List UInt8 := []
  hport : UInt16 := 0
  deriving DecidableEq, Repr

/-- The answers of the operating system. -/
structure Net where
  /-- The `errno` of a failing `::socket`. -/
  socketError : Option Int32
  ioctlFails : Bool
  /-- The address, where `inet_pton` returns 1. -/
  inetPton : Family → Text → Option (List UInt8)
  /-- The first address, where `getaddrinfo` returns 0. -/
  getaddrinfo : Family → Text → Option SockaddrAny
  bindFails : SockaddrAny → Bool

/-- `std::stoi`. -/
def stoi (s : Text) : Except SocketError Int32 :=
  let (val, eos) := strtol s
  if eos = 0 then .error .invalidArgument
  else if InInt val then .ok (toInt val)
  else .error .outOfRange

variable (net : Net)

def createAddr (name : Text) (port : UInt16) (prefFamily : Family) : SockaddrAny :=
  -- an empty name resolves to ANY, of IPv4 if no family is preferred
  if name = [] then
    { family := if prefFamily = .inet6 then prefFamily else .inet, hport := port }
  else
    let families : List Family :=
      if prefFamily ≠ .inet then [.inet6, .inet] else [.inet, .inet6]
    let resolved := families.findSome? fun family =>
      (net.inetPton family name).map fun addr => { family := family, addr := addr, hport := port }
    match resolved with
    | some result => result
    | none =>
      match net.getaddrinfo prefFamily name with
      | some result => { result with hport := port }
      | none => {}

/-- `bindip` and the converted `bindport`, as they are handed to `CreateAddr`. -/
def bindArguments (bindOption : Text) (port : Int32) : Except SocketError (Text × UInt16) := do
  let bindipport := bindOption.map Char.toLower
  match find [':'] bindipport with
  | some idx => do
    let bindip ← (substr bindipport 0 idx).mapError .parse
    let number ← (substr bindipport (idx + 1) (bindipport.length - (idx + 1))).mapError .parse
    let bindport ← stoi number
    return (bindip, UInt16.ofInt bindport.toInt)
  | none => return (bindipport, UInt16.ofInt port.toInt)

structure SocketUdp where
  host : Text
  port : Int32
  options : QueryMap
  /-- The address `::bind` was called with. -/
  boundTo : Option SockaddrAny
  dstAddr : SockaddrAny

/-- The socket is opened and set to non-blocking mode. -/
def openSocket : Except SocketError Unit :=
  match net.socketError with
  | some error =>
    .error (.runtimeError ("Failed to create a UDP socket. Error code: " ++ toString error))
  | none =>
    if net.ioctlFails then .error (.runtimeError "UdpCommon::Setup: ioctl FIONBIO") else .ok ()

def bindMe (sa : SockaddrAny) : Except SocketError SockaddrAny :=
  if net.bindFails sa then .error (.runtimeError "UDP binding has failed") else .ok sa

/-- The constructor. -/
def socketUdp (srcUri : UriParser) : Except SocketError SocketUdp := do
  let host := srcUri.host
  let port := Int32.ofNat srcUri.portno.toNat
  let options := srcUri.mapQuery
  openSocket net
  let saRequested := createAddr net host (UInt16.ofInt port.toInt) .unspec
  match options bindKey with
  | some bindOption => do
    let (bindip, bindport) ← bindArguments bindOption port
    let saBind ← bindMe net (createAddr net bindip bindport .unspec)
    return { host, port, options := Function.update options bindKey none,
             boundTo := some saBind, dstAddr := saRequested }
  | none =>
    if host ≠ [] then
      return { host, port, options, boundTo := none, dstAddr := saRequested }
    else do
      let sa ← bindMe net saRequested
      return { host, port, options, boundTo := some sa, dstAddr := {} }

/-- The socket, or `nullptr` for another protocol. -/
def createSocket (fuel : Nat) (urlStr : Text) : Except SocketError (Option SocketUdp) := do
  let url ← (UriParser.parse fuel urlStr .expectFile).mapError .parse
  if url.proto = udpProto then
    let socket ← socketUdp net url
    return some socket
  else return none

end DriftTracing.Source
