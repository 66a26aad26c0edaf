import DriftTracing.Lib.Reachability
import DriftTracing.Protocol.Peer
import Mathlib.Logic.Function.Basic

/-!
# Processes on a network

Any number of processes, each started with the remote address of another one or as a
listener. The network keeps every datagram that was sent and delivers any of them at
any time to the process it is addressed to, with the address of the sender: datagrams
are lost, delayed, reordered and duplicated, but not altered. An address at which
nothing runs is a process that never acts.
-/
namespace DriftTracing.Protocol
open DriftTracing.Lib DriftTracing.Source

structure Packet (Addr : Type) where
  src : Addr
  dst : Addr
  bytes : List UInt8
  deriving DecidableEq, Repr

structure Network (Addr : Type) where
  peers : Addr → Peer Addr
  packets : List (Packet Addr) := []

namespace Network

variable {Addr : Type}

inductive Event (Addr : Type) where
  | act (addr : Addr) (action : Action)
  /-- The datagram reaches the process it is addressed to. -/
  | deliver (packet : Nat)
  deriving DecidableEq, Repr

/-- The processes before the first step; `remote` has the address each is started with. -/
def start (remote : Addr → Option Addr) (startStd startSys : Addr → Int) : Network Addr :=
  { peers := fun a => .start (remote a) (startStd a) (startSys a) }

variable [DecidableEq Addr]

/-- The process at `a` is now `p`, and what it sends is on its way. -/
def put (n : Network Addr) (a : Addr) (out : Option (Addr × List UInt8)) (p : Peer Addr) :
    Network Addr :=
  { peers := Function.update n.peers a p
    packets := n.packets ++ out.toList.map fun d => ⟨a, d.1, d.2⟩ }

def step (cfg : Addr → Config) (n : Network Addr) : Event Addr → Option (Network Addr)
  | .act a action => ((n.peers a).step (cfg a) action).map fun r => n.put a r.1 r.2
  | .deliver i =>
    (n.packets[i]?).bind fun d =>
      ((n.peers d.dst).receive d.bytes d.src).map fun p => n.put d.dst none p

/-- What an event needs and what it does. -/
inductive Step (cfg : Addr → Config) (n : Network Addr) : Network Addr → Prop
  | act {a : Addr} {action : Action} {out : Option (Addr × List UInt8)} {p : Peer Addr}
      (step : Peer.Step (cfg a) (n.peers a) action out p) : Step cfg n (n.put a out p)
  | deliver {d : Packet Addr} {p : Peer Addr} (sent : d ∈ n.packets)
      (received : (n.peers d.dst).receive d.bytes d.src = some p) :
      Step cfg n (n.put d.dst none p)

theorem step_cases {cfg : Addr → Config} {n m : Network Addr} {e : Event Addr}
    (h : n.step cfg e = some m) : Step cfg n m := by
  cases e with
  | act a action =>
    obtain ⟨⟨out, p⟩, stepped, rfl⟩ := Option.map_eq_some_iff.mp h
    exact .act (Peer.step_cases stepped)
  | deliver i =>
    obtain ⟨d, sent, h⟩ := Option.bind_eq_some_iff.mp h
    obtain ⟨p, received, rfl⟩ := Option.map_eq_some_iff.mp h
    exact .deliver (List.mem_of_getElem? sent) received

/-- The states of the network, over any order of the steps of all threads of all
processes and of the deliveries. -/
def Reachable (cfg : Addr → Config) (remote : Addr → Option Addr) (startStd startSys : Addr → Int)
    (n : Network Addr) : Prop :=
  Reachability.Reaches (step cfg) (fun _ _ => True) (start remote startStd startSys) n

@[simp] theorem put_peers_self (n : Network Addr) (a : Addr) (out : Option (Addr × List UInt8))
    (p : Peer Addr) : (n.put a out p).peers a = p :=
  Function.update_self ..

theorem put_peers_of_ne (n : Network Addr) {a b : Addr} (other : b ≠ a)
    (out : Option (Addr × List UInt8)) (p : Peer Addr) : (n.put a out p).peers b = n.peers b :=
  Function.update_of_ne other ..

/-- What a step of the network is for one process: nothing, a step of its own, or a
datagram that reaches it. -/
theorem Step.peer {cfg : Addr → Config} {n m : Network Addr} (step : Step cfg n m) (a : Addr) :
    m.peers a = n.peers a ∨
      (∃ action out, Peer.Step (cfg a) (n.peers a) action out (m.peers a)) ∨
      ∃ d ∈ n.packets, d.dst = a ∧ (n.peers a).receive d.bytes d.src = some (m.peers a) := by
  cases step with
  | @act c action out p step =>
    by_cases same : a = c
    · subst same
      rw [put_peers_self]
      exact Or.inr (Or.inl ⟨action, out, step⟩)
    · exact Or.inl (put_peers_of_ne n same out p)
  | @deliver d p sent received =>
    by_cases same : a = d.dst
    · subst same
      rw [put_peers_self]
      exact Or.inr (Or.inr ⟨d, sent, rfl, received⟩)
    · exact Or.inl (put_peers_of_ne n same none p)

theorem mem_put {n : Network Addr} {a : Addr} {out : Option (Addr × List UInt8)} {p : Peer Addr}
    {d : Packet Addr} :
    d ∈ (n.put a out p).packets ↔ d ∈ n.packets ∨ d.src = a ∧ out = some (d.dst, d.bytes) := by
  constructor
  · intro h
    rcases List.mem_append.mp h with old | new
    · exact Or.inl old
    · obtain ⟨r, hr, rfl⟩ := List.mem_map.mp new
      exact Or.inr ⟨rfl, by simpa using hr⟩
  · rintro (old | ⟨rfl, sent⟩)
    · exact List.mem_append_left _ old
    · apply List.mem_append_right
      rw [sent]
      simp

end Network

end DriftTracing.Protocol
