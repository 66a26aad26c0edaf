import DriftTracing.Protocol.Exchange

/-!
# The history of a network

The network keeps no dates. Its history does: with every datagram the action that sent
it and what the steady clock of its sender read, and for every process the datagrams that
its rows are about, with what its own steady clock read when it took the reception time.
No step looks at any of this, so every run of the network has a history.
-/
namespace DriftTracing.Protocol
open DriftTracing.Lib DriftTracing.Source

/-- A datagram, the action that sent it, and the steady clock of its sender then. -/
structure Sent (Addr : Type) where
  packet : Packet Addr
  action : Action
  clock : Int
  deriving DecidableEq

/-- A datagram that reached a process, and the steady clock of that process then. -/
structure Heard (Addr : Type) where
  datagram : Sent Addr
  clock : Int
  deriving DecidableEq

/-- `sent` has what is on its way, `inHand` what the receive buffer of each process holds,
and `heard` the datagrams of its rows. -/
structure History (Addr : Type) where
  network : Network Addr
  sent : List (Sent Addr) := []
  inHand : Addr → Option (Heard Addr) := fun _ => none
  heard : Addr → List (Heard Addr) := fun _ => []

/-- The action takes the reception time. -/
def Action.stampsReception : Action → Bool
  | .stampRecv _ => true
  | _ => false

namespace Peer

variable {Addr : Type}

/-- The reception time of what is in the buffer is taken once. -/
theorem step_stamped {cfg : Config} {p q : Peer Addr} {a : Action}
    {out : Option (Addr × List UInt8)} (step : Step cfg p a out q) {bytesRead : Nat}
    {srcAddr : Addr} {std sys : Int} (stamped : q.receiving = .stamped bytesRead srcAddr std sys) :
    a.stampsReception = true ∧ std = p.clock ∨
      a.stampsReception = false ∧ p.receiving = .stamped bytesRead srcAddr std sys := by
  cases step with
  | stampRecv received =>
    injection stamped with _ _ taken _
    exact Or.inl ⟨rfl, taken.symm⟩
  | react _ _ => cases stamped
  | wait sends _ _ =>
    rcases sends with rfl | ⟨out, rfl⟩
    · exact Or.inr ⟨rfl, stamped⟩
    · exact Or.inr ⟨rfl, stamped⟩
  | _ => exact Or.inr ⟨rfl, stamped⟩

end Peer

namespace History

variable {Addr : Type}

def start (remote : Addr → Option Addr) (startStd startSys : Addr → Int) : History Addr :=
  { network := .start remote startStd startSys }

variable [DecidableEq Addr]

/-- An action of the process at `a` made the network `n`: what went out is dated, the
reception time may have been taken, and a new row is about what was in the buffer. -/
def act (h : History Addr) (a : Addr) (action : Action) (n : Network Addr) : History Addr :=
  { network := n
    sent := h.sent ++ (n.packets.drop h.network.packets.length).map
      fun d => ⟨d, action, (h.network.peers a).clock⟩
    inHand :=
      if action.stampsReception then
        Function.update h.inHand a
          ((h.inHand a).map fun r => { r with clock := (h.network.peers a).clock })
      else h.inHand
    heard :=
      if (h.network.peers a).trace.length < (n.peers a).trace.length then
        Function.update h.heard a (h.heard a ++ (h.inHand a).toList)
      else h.heard }

/-- Datagram number `i` was delivered, which made the network `n`. -/
def deliver (h : History Addr) (i : Nat) (n : Network Addr) : History Addr :=
  { h with
    network := n
    inHand :=
      match h.sent[i]? with
      | some d => Function.update h.inHand d.packet.dst
          (some ⟨d, (h.network.peers d.packet.dst).clock⟩)
      | none => h.inHand }

/-- The network takes the step, and the history follows. -/
def step (cfg : Addr → Config) (h : History Addr) : Network.Event Addr → Option (History Addr)
  | .act a action => (h.network.step cfg (.act a action)).map (h.act a action)
  | .deliver i => (h.network.step cfg (.deliver i)).map (h.deliver i)

/-- What an event needs and what it does. -/
inductive Step (cfg : Addr → Config) (h : History Addr) : History Addr → Prop
  | act {a : Addr} {action : Action} {out : Option (Addr × List UInt8)} {p : Peer Addr}
      (step : Peer.Step (cfg a) (h.network.peers a) action out p) :
      Step cfg h (h.act a action (h.network.put a out p))
  | deliver {i : Nat} {d : Packet Addr} {p : Peer Addr} (sent : h.network.packets[i]? = some d)
      (received : (h.network.peers d.dst).receive d.bytes d.src = some p) :
      Step cfg h (h.deliver i (h.network.put d.dst none p))

theorem step_cases {cfg : Addr → Config} {h t : History Addr} {e : Network.Event Addr}
    (stepped : h.step cfg e = some t) : Step cfg h t := by
  cases e with
  | act a action =>
    obtain ⟨n, moved, rfl⟩ := Option.map_eq_some_iff.mp stepped
    obtain ⟨⟨out, p⟩, acted, rfl⟩ := Option.map_eq_some_iff.mp moved
    exact .act (Peer.step_cases acted)
  | deliver i =>
    obtain ⟨n, moved, rfl⟩ := Option.map_eq_some_iff.mp stepped
    obtain ⟨d, sent, moved⟩ := Option.bind_eq_some_iff.mp moved
    obtain ⟨p, received, rfl⟩ := Option.map_eq_some_iff.mp moved
    exact .deliver sent received

theorem Step.network {cfg : Addr → Config} {h t : History Addr} (step : Step cfg h t) :
    Network.Step cfg h.network t.network := by
  cases step with
  | act step => exact .act step
  | deliver sent received => exact .deliver (List.mem_of_getElem? sent) received

/-- The histories of all runs of the network. -/
def Reachable (cfg : Addr → Config) (remote : Addr → Option Addr) (startStd startSys : Addr → Int)
    (h : History Addr) : Prop :=
  Reachability.Reaches (step cfg) (fun _ _ => True) (start remote startStd startSys) h

/-- What the network does with a history it does without. -/
theorem Reachable.network {cfg : Addr → Config} {remote : Addr → Option Addr}
    {startStd startSys : Addr → Int} {h : History Addr}
    (reachable : Reachable cfg remote startStd startSys h) :
    Network.Reachable cfg remote startStd startSys h.network := by
  have follows (h : History Addr) (e : Network.Event Addr) (t : History Addr) (n : Network Addr)
      (_ : True) (same : h.network = n) (_ : True) (stepped : h.step cfg e = some t) :
      ∃ m, Reachability.Reaches (Network.step cfg) (fun _ _ => True) n m ∧ t.network = m := by
    subst same
    cases e with
    | act a action =>
      obtain ⟨n, moved, rfl⟩ := Option.map_eq_some_iff.mp stepped
      exact ⟨n, Reachability.Reaches.single trivial moved, rfl⟩
    | deliver i =>
      obtain ⟨n, moved, rfl⟩ := Option.map_eq_some_iff.mp stepped
      exact ⟨n, Reachability.Reaches.single trivial moved, rfl⟩
  obtain ⟨n, reached, rfl⟩ := Reachability.Reaches.simulation (I := fun _ : History Addr => True)
    (fun _ _ _ _ _ _ => trivial) follows reachable trivial rfl
  exact reached

/-- Every state the network reaches has a history. -/
theorem exists_of_reachable {cfg : Addr → Config} {remote : Addr → Option Addr}
    {startStd startSys : Addr → Int} {n : Network Addr}
    (reachable : Network.Reachable cfg remote startStd startSys n) :
    ∃ h, Reachable cfg remote startStd startSys h ∧ h.network = n := by
  refine Reachability.Reaches.simulation (I := fun _ : Network Addr => True)
    (R := fun n h => History.network h = n) (fun _ _ _ _ _ _ => trivial) ?_ reachable trivial rfl
  rintro n e m h - rfl - stepped
  cases e with
  | act a action =>
    refine ⟨h.act a action m, Reachability.Reaches.single (i := .act a action) trivial ?_, rfl⟩
    rw [step, stepped, Option.map_some]
  | deliver i =>
    refine ⟨h.deliver i m, Reachability.Reaches.single (i := .deliver i) trivial ?_, rfl⟩
    rw [step, stepped, Option.map_some]

/-! ## What the history says of the network -/

/-- The history dates what is on its way and what lies in the receive buffers. -/
structure Recorded (h : History Addr) : Prop where
  packets : h.sent.map Sent.packet = h.network.packets
  inHand : ∀ a k, (h.network.peers a).receiving.holding = some k →
    ∃ r, h.inHand a = some r ∧ r.datagram ∈ h.sent ∧ r.datagram.packet.dst = a ∧
      Network.InBuffer r.datagram.packet (h.network.peers a)
  taken : ∀ a r bytesRead srcAddr std sys, h.inHand a = some r →
    (h.network.peers a).receiving = .stamped bytesRead srcAddr std sys → r.clock = std

omit [DecidableEq Addr] in
/-- What was sent is a packet of the exchange. -/
theorem Recorded.form {h : History Addr} (rec : Recorded h) (formed : h.network.Formed)
    {d : Sent Addr} (sent : d ∈ h.sent) :
    IsCtrl .ack 44 d.packet.bytes ∨ IsCtrl .ackack 20 d.packet.bytes := by
  apply formed.packets
  rw [← rec.packets]
  exact List.mem_map_of_mem sent

omit [DecidableEq Addr] in
theorem recorded_start (remote : Addr → Option Addr) (startStd startSys : Addr → Int) :
    Recorded (start remote startStd startSys) where
  packets := rfl
  inHand a k holds := by cases holds
  taken a r bytesRead srcAddr std sys inHand := by cases inHand

/-- What an action sends is dated. -/
theorem act_sent (h : History Addr) (a : Addr) (action : Action)
    (out : Option (Addr × List UInt8)) (p : Peer Addr) :
    (h.act a action (h.network.put a out p)).sent =
      h.sent ++ out.toList.map fun d => ⟨⟨a, d.1, d.2⟩, action, (h.network.peers a).clock⟩ := by
  unfold act Network.put
  rw [List.drop_left, List.map_map]
  rfl

/-- An action leaves the datagram in hand, and may take the reception time. -/
theorem act_inHand (h : History Addr) (a : Addr) (action : Action) (n : Network Addr) (c : Addr) :
    (h.act a action n).inHand c =
      if c = a ∧ action.stampsReception then
        (h.inHand a).map fun r => { r with clock := (h.network.peers a).clock }
      else h.inHand c := by
  unfold act
  dsimp only
  by_cases takes : action.stampsReception
  · rw [if_pos takes, Function.update_apply]
    simp only [takes, and_true]
  · rw [if_neg takes, if_neg fun both => takes both.2]

theorem Recorded.act {cfg : Addr → Config} {h : History Addr} (rec : Recorded h) {a : Addr}
    {action : Action} {out : Option (Addr × List UInt8)} {p : Peer Addr}
    (step : Peer.Step (cfg a) (h.network.peers a) action out p) :
    Recorded (h.act a action (h.network.put a out p)) := by
  obtain ⟨buffer, holding⟩ := Peer.step_holding step
  have network : (h.act a action (h.network.put a out p)).network = h.network.put a out p := rfl
  refine ⟨?_, fun c k holds => ?_, fun c r bytesRead srcAddr std sys inHand stamped => ?_⟩
  · rw [act_sent, List.map_append, rec.packets, List.map_map]
    rfl
  · rw [network] at holds ⊢
    rw [act_inHand, act_sent]
    by_cases same : c = a
    · subst same
      rw [Network.put_peers_self] at holds ⊢
      obtain ⟨r, inHand, sent, dst, held, rest, content⟩ := rec.inHand c k (holding k holds)
      have still : Network.InBuffer r.datagram.packet p :=
        ⟨by rw [holds, ← holding k holds]; exact held, rest, buffer.trans content⟩
      split
      · exact ⟨_, congrArg (Option.map _) inHand, List.mem_append_left _ sent, dst, still⟩
      · exact ⟨r, inHand, List.mem_append_left _ sent, dst, still⟩
    · rw [Network.put_peers_of_ne _ same] at holds ⊢
      rw [if_neg fun both => same both.1]
      obtain ⟨r, inHand, sent, held⟩ := rec.inHand c k holds
      exact ⟨r, inHand, List.mem_append_left _ sent, held⟩
  · rw [network] at stamped
    rw [act_inHand] at inHand
    by_cases same : c = a
    · subst same
      rw [Network.put_peers_self] at stamped
      rcases Peer.step_stamped step stamped with ⟨takes, rfl⟩ | ⟨keeps, before⟩
      · rw [if_pos ⟨rfl, takes⟩] at inHand
        obtain ⟨r', -, rfl⟩ := Option.map_eq_some_iff.mp inHand
        rfl
      · rw [if_neg fun both => Bool.false_ne_true (keeps.symm.trans both.2)] at inHand
        exact rec.taken c r bytesRead srcAddr std sys inHand before
    · rw [Network.put_peers_of_ne _ same] at stamped
      rw [if_neg fun both => same both.1] at inHand
      exact rec.taken c r bytesRead srcAddr std sys inHand stamped

theorem Recorded.deliver {h : History Addr} (rec : Recorded h) (formed : h.network.Formed)
    {i : Nat} {d : Packet Addr} {p : Peer Addr} (sent : h.network.packets[i]? = some d)
    (received : (h.network.peers d.dst).receive d.bytes d.src = some p) :
    Recorded (h.deliver i (h.network.put d.dst none p)) := by
  have dated := sent
  rw [← rec.packets, List.getElem?_map, Option.map_eq_some_iff] at dated
  obtain ⟨s, found, rfl⟩ := dated
  have inHand (c : Addr) : (h.deliver i (h.network.put s.packet.dst none p)).inHand c =
      if c = s.packet.dst then some ⟨s, (h.network.peers s.packet.dst).clock⟩
      else h.inHand c := by
    simp only [History.deliver, found]
    exact Function.update_apply ..
  have network : (h.deliver i (h.network.put s.packet.dst none p)).network =
      h.network.put s.packet.dst none p := rfl
  have read := formed.recvInto (List.mem_of_getElem? sent) (formed.buffers s.packet.dst)
  obtain ⟨-, rfl⟩ := Peer.receive_eq received
  refine ⟨?_, fun c k holds => ?_, fun c r bytesRead srcAddr std sys held stamped => ?_⟩
  · rw [network]
    exact rec.packets.trans (List.append_nil _).symm
  · rw [network] at holds ⊢
    rw [inHand]
    by_cases same : c = s.packet.dst
    · subst same
      rw [Network.put_peers_self, if_pos rfl]
      exact ⟨_, rfl, List.mem_of_getElem? found, rfl, by rw [read]; rfl, _, by rw [read]⟩
    · rw [Network.put_peers_of_ne _ same] at holds ⊢
      rw [if_neg same]
      exact rec.inHand c k holds
  · rw [network] at stamped
    rw [inHand] at held
    by_cases same : c = s.packet.dst
    · subst same
      rw [Network.put_peers_self] at stamped
      cases stamped
    · rw [Network.put_peers_of_ne _ same] at stamped
      rw [if_neg same] at held
      exact rec.taken c r bytesRead srcAddr std sys held stamped

theorem Recorded.step {cfg : Addr → Config} {h t : History Addr} (rec : Recorded h)
    (formed : h.network.Formed) (step : Step cfg h t) : Recorded t := by
  cases step with
  | act step => exact rec.act step
  | deliver sent received => exact rec.deliver formed sent received

end History

end DriftTracing.Protocol
