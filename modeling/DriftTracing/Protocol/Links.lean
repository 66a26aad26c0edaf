import DriftTracing.Protocol.Network

/-!
# Who hears of whom

The destinations decide it. A process keeps the destination it has. A listener takes
the sender of the first ACK it handles, and only a process that was started with the
address of the listener sends it one. So everything a process ever sends goes to one
other process, which is known once all are started, up to the choice of a listener
between several callers.
-/
namespace DriftTracing.Protocol
open DriftTracing.Lib DriftTracing.Source

/-- What the receiving thread holds: a number of bytes in the buffer, and their sender. -/
def Receiving.holding {Addr : Type} : Receiving Addr → Option (Nat × Addr)
  | .waiting => none
  | .received bytesRead srcAddr => some (bytesRead, srcAddr)
  | .stamped bytesRead srcAddr _ _ => some (bytesRead, srcAddr)

namespace Peer

variable {Addr : Type}

/-- The buffer and what it holds change with `recvfrom` only. -/
theorem step_holding {cfg : Config} {p q : Peer Addr} {a : Action}
    {out : Option (Addr × List UInt8)} (step : Step cfg p a out q) :
    q.loop.buffer = p.loop.buffer ∧
      ∀ h, q.receiving.holding = some h → p.receiving.holding = some h := by
  cases step with
  | stampRecv received =>
    refine ⟨rfl, fun h holds => ?_⟩
    rw [received]
    exact holds
  | react stamped handled =>
    refine ⟨?_, fun h holds => (by cases holds)⟩
    rcases handle_cases handled with ⟨-, -, -, -, rfl⟩ | ⟨-, -, -, rfl⟩ | ⟨-, -, -, rfl⟩
    · rfl
    · rfl
    · rfl
  | _ => exact ⟨rfl, fun _ h => h⟩

/-- A process only ever sends to its destination. It takes the first one, the sender of
what it holds, and keeps it. -/
theorem step_dstAddr {cfg : Config} {p q : Peer Addr} {a : Action}
    {out : Option (Addr × List UInt8)} (step : Step cfg p a out q) :
    (∀ d ∈ out, q.loop.dstAddr = some d.1) ∧
      (q.loop.dstAddr = p.loop.dstAddr ∨
        p.loop.dstAddr = none ∧ ∃ k b, p.receiving.holding = some (k, b) ∧
          q.loop.dstAddr = some b) := by
  cases step with
  | send asleep known =>
    refine ⟨fun d hd => ?_, Or.inl rfl⟩
    rw [← Option.some.inj hd]
    exact known
  | @sendShort out' dst asleep known =>
    refine ⟨fun d hd => ?_, Or.inl rfl⟩
    cases out' with
    | false => cases hd
    | true =>
      rw [← Option.some.inj hd]
      exact known
  | react stamped handled =>
    rcases handle_cases handled with
      ⟨-, -, reply, -, rfl⟩ | ⟨-, -, reply, rfl⟩ | ⟨-, reply, -, rfl⟩
    · rw [reply]
      exact ⟨by simp, Or.inl rfl⟩
    · rw [reply]
      refine ⟨fun d hd => ?_, ?_⟩
      · rw [← Option.some.inj hd]
      · cases known : p.loop.dstAddr with
        | none => exact Or.inr ⟨rfl, _, _, by rw [stamped]; rfl, rfl⟩
        | some dst => exact Or.inl rfl
    · rw [reply]
      exact ⟨by simp, Or.inl rfl⟩
  | _ => exact ⟨by simp, Or.inl rfl⟩

end Peer

namespace Network

variable {Addr : Type}

/-- Every datagram, on its way or in a receive buffer, went to the destination its
sender has. A process that was started with a remote address sends there, a listener
to a process that was started with its address. -/
structure Linked (remote : Addr → Option Addr) (n : Network Addr) : Prop where
  packets : ∀ d ∈ n.packets, (n.peers d.src).loop.dstAddr = some d.dst
  held : ∀ a k b, (n.peers a).receiving.holding = some (k, b) →
    (n.peers b).loop.dstAddr = some a
  started : ∀ a b, remote a = some b → (n.peers a).loop.dstAddr = some b
  learned : ∀ a b, (n.peers a).loop.dstAddr = some b →
    remote a = some b ∨ remote a = none ∧ remote b = some a

theorem linked_start (remote : Addr → Option Addr) (startStd startSys : Addr → Int) :
    Linked remote (start remote startStd startSys) where
  packets := by simp [start]
  held := by simp [start, Peer.start, Receiving.holding]
  started _ _ h := h
  learned _ _ h := Or.inl h

/-- A listener that takes the sender of an ACK for its destination takes a process that
was started with its address: it did not send anything before. -/
theorem Linked.takes {remote : Addr → Option Addr} {n : Network Addr} (h : Linked remote n)
    {a b : Addr} {k : Nat} (unknown : (n.peers a).loop.dstAddr = none)
    (holds : (n.peers a).receiving.holding = some (k, b)) :
    remote a = none ∧ remote b = some a := by
  have listener : remote a = none := by
    cases configured : remote a with
    | none => rfl
    | some c =>
      rw [h.started a c configured] at unknown
      cases unknown
  rcases h.learned b a (h.held a k b holds) with caller | ⟨-, called⟩
  · exact ⟨listener, caller⟩
  · rw [listener] at called
    cases called

/-- Where a datagram went, in terms of how the processes were started. -/
theorem Linked.traffic {remote : Addr → Option Addr} {n : Network Addr} (h : Linked remote n)
    {d : Packet Addr} (hd : d ∈ n.packets) :
    remote d.src = some d.dst ∨ remote d.src = none ∧ remote d.dst = some d.src :=
  h.learned _ _ (h.packets d hd)

variable [DecidableEq Addr]

/-- The destination of every process, once it has one. -/
def Keeps (n m : Network Addr) : Prop :=
  ∀ a b, (n.peers a).loop.dstAddr = some b → (m.peers a).loop.dstAddr = some b

theorem Step.keeps {cfg : Addr → Config} {n m : Network Addr} (step : Step cfg n m) :
    n.Keeps m := by
  intro a b known
  rcases step.peer a with same | ⟨action, out, step⟩ | ⟨d, -, -, received⟩
  · rw [same, known]
  · rcases (Peer.step_dstAddr step).2 with keeps | ⟨unknown, -⟩
    · rw [keeps, known]
    · rw [unknown] at known
      cases known
  · rw [(Peer.receive_eq received).2]
    exact known

theorem Linked.step {cfg : Addr → Config} {remote : Addr → Option Addr} {n m : Network Addr}
    (h : Linked remote n) (step : Step cfg n m) : Linked remote m := by
  have keeps := step.keeps
  cases step with
  | @act a action out p step =>
    obtain ⟨sends, dst⟩ := Peer.step_dstAddr step
    refine ⟨fun d hd => ?_, fun c k b holds => ?_, fun c b configured => ?_, fun c b known => ?_⟩
    · rcases mem_put.mp hd with old | ⟨rfl, new⟩
      · exact keeps _ _ (h.packets d old)
      · rw [put_peers_self]
        exact sends _ new
    · by_cases same : c = a
      · subst same
        rw [put_peers_self] at holds
        exact keeps _ _ (h.held c k b ((Peer.step_holding step).2 _ holds))
      · rw [put_peers_of_ne n same] at holds
        exact keeps _ _ (h.held c k b holds)
    · exact keeps _ _ (h.started c b configured)
    · by_cases same : c = a
      · subst same
        rw [put_peers_self] at known
        rcases dst with kept | ⟨unknown, k, b', holds, taken⟩
        · rw [kept] at known
          exact h.learned c b known
        · obtain rfl : b' = b := Option.some.inj (taken.symm.trans known)
          exact Or.inr (h.takes unknown holds)
      · rw [put_peers_of_ne n same] at known
        exact h.learned c b known
  | @deliver d p sent received =>
    obtain ⟨-, rfl⟩ := Peer.receive_eq received
    refine ⟨fun e he => ?_, fun c k b holds => ?_, fun c b configured => ?_, fun c b known => ?_⟩
    · rcases mem_put.mp he with old | ⟨-, new⟩
      · exact keeps _ _ (h.packets e old)
      · cases new
    · by_cases same : c = d.dst
      · subst same
        rw [put_peers_self] at holds
        obtain ⟨-, rfl⟩ := Prod.mk.inj (Option.some.inj holds)
        exact keeps _ _ (h.packets d sent)
      · rw [put_peers_of_ne n same] at holds
        exact keeps _ _ (h.held c k b holds)
    · exact keeps _ _ (h.started c b configured)
    · by_cases same : c = d.dst
      · subst same
        rw [put_peers_self] at known
        exact h.learned _ b known
      · rw [put_peers_of_ne n same] at known
        exact h.learned c b known

theorem reachable_linked {cfg : Addr → Config} {remote : Addr → Option Addr}
    {startStd startSys : Addr → Int} {n : Network Addr}
    (reachable : Reachable cfg remote startStd startSys n) : Linked remote n :=
  reachable.invariant (fun _ _ _ inv _ stepped => inv.step (step_cases stepped))
    (linked_start ..)

/-- In every run of every network: a process that was started with a remote address
sends only there, and a listener only to a process that was started with its address;
all datagrams of a process go to the same one; and a destination is kept for good. -/
theorem traffic_follows_remotes {cfg : Addr → Config} {remote : Addr → Option Addr}
    {startStd startSys : Addr → Int} {n : Network Addr}
    (reachable : Reachable cfg remote startStd startSys n) :
    (∀ d ∈ n.packets,
      remote d.src = some d.dst ∨ remote d.src = none ∧ remote d.dst = some d.src) ∧
    (∀ d ∈ n.packets, ∀ e ∈ n.packets, d.src = e.src → d.dst = e.dst) ∧
    ∀ m, Reachability.Reaches (step cfg) (fun _ _ => True) n m → n.Keeps m := by
  have linked := reachable_linked reachable
  refine ⟨fun d hd => linked.traffic hd, fun d hd e he same => ?_, fun m further => ?_⟩
  · have first := linked.packets d hd
    rw [same, linked.packets e he] at first
    exact (Option.some.inj first).symm
  · refine further.invariant (I := fun m => n.Keeps m) ?_ (fun _ _ known => known)
    exact fun s _ t kept _ stepped a b known => (step_cases stepped).keeps a b (kept a b known)

/-- Two callers, 1 and 2, of the listener 0: it answers the first ACK to arrive, which
is the one of 1, and sends an ACK of its own. -/
def twoCallers : List (Event Nat) :=
  [.act 0 .send, .act 1 .send, .act 2 .send, .deliver 0, .act 0 (.stampRecv 0), .act 0 (.react 0),
    .deliver 1, .act 0 (.stampRecv 0), .act 0 (.react 0), .act 0 .send]

def callZero : Nat → Option Nat
  | 1 => some 0
  | 2 => some 0
  | _ => none

/-- Where the datagrams of the two callers and the listener go. -/
theorem twoCallers_packets :
    (Reachability.follow (step fun _ => {}) (fun _ _ => True)
      (start callZero (fun _ => 0) fun _ => 0) twoCallers).map
        (fun n => (n.packets.map fun d => (d.src, d.dst), (n.peers 0).loop.dstAddr)) =
      some ([(1, 0), (2, 0), (0, 1), (0, 1), (0, 1)], some 1) := by
  decide +kernel

theorem twoCallers_traffic :
    ∃ n, Reachability.follow (step fun _ => {}) (fun _ _ => True)
        (start callZero (fun _ => 0) fun _ => 0) twoCallers = some n ∧
      (∀ d ∈ n.packets,
        callZero d.src = some d.dst ∨ callZero d.src = none ∧ callZero d.dst = some d.src) ∧
      (∀ d ∈ n.packets, ∀ e ∈ n.packets, d.src = e.src → d.dst = e.dst) ∧
      ∀ m, Reachability.Reaches (step fun _ => {}) (fun _ _ => True) n m → n.Keeps m := by
  obtain ⟨n, follows, -⟩ := Option.map_eq_some_iff.mp twoCallers_packets
  exact ⟨n, follows, traffic_follows_remotes (Reachability.reaches_of_follow follows)⟩

/-! ## Callers that are not heard -/

/-- The process has not been reached by any datagram. -/
structure Unreached (p : Peer Addr) : Prop where
  waiting : p.receiving = .waiting
  trace : p.trace = []
  tsbpd : p.loop.globals.tsbpd = {}
  rtt : p.loop.globals.path.rtt = 0
  rttVar : p.loop.globals.path.rttVar = 0

omit [DecidableEq Addr] in
theorem Unreached.step {cfg : Config} {p q : Peer Addr} {a : Action}
    {out : Option (Addr × List UInt8)} (h : Unreached p) (step : Peer.Step cfg p a out q) :
    Unreached q := by
  cases step with
  | stampRecv received =>
    rw [h.waiting] at received
    cases received
  | react stamped handled =>
    rw [h.waiting] at stamped
    cases stamped
  | _ => exact { h with }

/-- A process to which nothing was sent has not been reached. -/
theorem reachable_unreached {cfg : Addr → Config} {remote : Addr → Option Addr}
    {startStd startSys : Addr → Int} {n : Network Addr}
    (reachable : Reachable cfg remote startStd startSys n) (c : Addr)
    (unsent : ∀ d ∈ n.packets, d.dst ≠ c) : Unreached (n.peers c) := by
  refine reachable.invariant
    (I := fun n => (∀ d ∈ n.packets, d.dst ≠ c) → Unreached (n.peers c)) ?_ ?_ unsent
  · intro n e m inv _ stepped unsent
    have before : ∀ d ∈ n.packets, d.dst ≠ c := by
      intro d hd
      apply unsent
      cases step_cases stepped with
      | act step => exact mem_put.mpr (Or.inl hd)
      | deliver sent received => exact mem_put.mpr (Or.inl hd)
    rcases (step_cases stepped).peer c with same | ⟨action, out, step⟩ | ⟨d, sent, dst, -⟩
    · rw [same]
      exact inv before
    · exact (inv before).step step
    · exact absurd dst (before d sent)
  · exact fun _ => ⟨rfl, rfl, rfl, rfl, rfl⟩

/-- A caller whose listener has another destination, and that is nobody's remote
address, gets no datagram at all, however many ACKs it sends: it traces nothing and
never measures an RTT or a drift. -/
theorem unchosen_caller_learns_nothing {cfg : Addr → Config} {remote : Addr → Option Addr}
    {startStd startSys : Addr → Int} {n : Network Addr}
    (reachable : Reachable cfg remote startStd startSys n) {b c : Addr}
    (caller : remote c = some b) (elsewhere : (n.peers b).loop.dstAddr ≠ some c)
    (uncalled : ∀ a, remote a ≠ some c) :
    (∀ d ∈ n.packets, d.dst ≠ c) ∧ Unreached (n.peers c) := by
  have linked := reachable_linked reachable
  have unsent : ∀ d ∈ n.packets, d.dst ≠ c := by
    rintro d hd rfl
    rcases linked.traffic hd with called | ⟨-, chosen⟩
    · exact uncalled _ called
    · rw [caller, Option.some.injEq] at chosen
      rw [chosen] at elsewhere
      exact elsewhere (linked.packets d hd)
  exact ⟨unsent, reachable_unreached reachable c unsent⟩

/-- The second of the two callers. -/
theorem twoCallers_unchosen :
    ∃ n, Reachability.follow (step fun _ => {}) (fun _ _ => True)
        (start callZero (fun _ => 0) fun _ => 0) twoCallers = some n ∧
      (∀ d ∈ n.packets, d.dst ≠ 2) ∧ Unreached (n.peers 2) := by
  obtain ⟨n, follows, result⟩ := Option.map_eq_some_iff.mp twoCallers_packets
  have chosen : (n.peers 0).loop.dstAddr = some 1 := congrArg Prod.snd result
  refine ⟨n, follows, @unchosen_caller_learns_nothing _ _ _ callZero _ _ n
    (Reachability.reaches_of_follow follows) 0 2 rfl ?_ ?_⟩
  · rw [chosen]
    simp
  · intro a
    unfold callZero
    split <;> simp

end Network

end DriftTracing.Protocol
