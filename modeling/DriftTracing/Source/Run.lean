import DriftTracing.Source.StatsLogger
import DriftTracing.Source.UdpSocket

/-!
# Starting the exchange

`run` of app/start.cpp:209-243 up to the start of its threads, and `sockaddr_any::empty`
of app/netinet_any.hpp:214-230. Whether the trace file opens is an answer of the
operating system; what the socket throws leaves `run`.
-/
namespace DriftTracing.Source

/-- Without a family the address is always empty. -/
def SockaddrAny.empty (sa : SockaddrAny) : Bool :=
  match sa.family with
  | .inet => sa.hport == 0 && sa.addr.all (· == 0)
  | .inet6 => sa.hport == 0 && sa.addr.all (· == 0)
  | .unspec => true

/-- What the two loops read of `dst_addr()`. -/
def SocketUdp.destination (sock : SocketUdp) : Option SockaddrAny :=
  if sock.dstAddr.empty then none else some sock.dstAddr

/-- The options of the `start` command that `run` reads. -/
structure RunConfig where
  statsfile : String := ""
  compactTrace : Bool := false
  deriving DecidableEq, Repr

inductive Started where
  /-- An error is logged, and `run` returns. -/
  | failed (what : String)
  /-- The threads are started. -/
  | exchanging (sock : SocketUdp) (statsLogger : Option StatsLogger)

/-- `g_stats_logger`, with what its constructor throws. -/
def makeStatsLogger (opens : String → Bool) (cfg : RunConfig) :
    Except String (Option StatsLogger) := do
  if cfg.statsfile ≠ "" then
    let logger ← StatsLogger.create cfg.statsfile (opens cfg.statsfile) cfg.compactTrace
    return some logger
  else return none

def run (net : Net) (opens : String → Bool) (fuel : Nat) (sockUrl : Text) (cfg : RunConfig) :
    Except SocketError Started := do
  if sockUrl = [] then return .failed "[PATH] Empty URL was provided"
  else
    match ← createSocket net fuel sockUrl with
    | none => return .failed "[PATH] Target creation failed!"
    | some sockUdp =>
      match makeStatsLogger opens cfg with
      | .error what => return .failed what
      | .ok statsLogger => return .exchanging sockUdp statsLogger

end DriftTracing.Source
