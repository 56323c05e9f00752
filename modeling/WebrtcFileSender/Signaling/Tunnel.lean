import WebrtcFileSender.Signaling.Pairing

/-!
Contract: the tunnel between two paired clients.

Owns: the relays among the outputs of a run, what one event relays, and the
history theorem: while two paired sockets stay `OPEN`, the pair is not broken by
anybody, everything relayable one side sends reaches exactly the other side, in
order and once, and nothing crosses into or out of the pair.

Does not own: messages of the server itself, and who may forge them.
-/

namespace WebrtcFileSender.Signaling

open Server

/-- One message passed on from a client to its partner. -/
structure Relay where
  sender : SocketId
  receiver : SocketId
  message : Json

/-- The relays among the outputs, in order. -/
def relays (outputs : List Output) : List Relay :=
  outputs.filterMap fun
    | .sent receiver message (.relay sender) => some ⟨sender, receiver, message⟩
    | _ => none

/-- The messages relayed to `receiver`, in order. -/
def relayedTo (receiver : SocketId) (outputs : List Output) : List Json :=
  (relays outputs).filterMap fun relay =>
    if relay.receiver = receiver then some relay.message else none

/-- The relayable messages received from `sender`, in order. -/
def receivedFrom (sender : SocketId) (events : List Event) : List Json :=
  events.filterMap fun
    | .message ws (some p) => if ws = sender ∧ Relayable p then some p else none
    | _ => none

/-! ## What one event relays -/

theorem relays_append (left right : List Output) :
    relays (left ++ right) = relays left ++ relays right := by
  simp [relays]

/-- A relay is a message that was sent. -/
theorem sent_of_mem_relays {outputs : List Output} {relay : Relay}
    (relayed : relay ∈ relays outputs) :
    .sent relay.receiver relay.message (.relay relay.sender) ∈ outputs := by
  obtain ⟨output, member, matched⟩ := List.mem_filterMap.mp relayed
  split at matched
  case h_1 =>
    obtain rfl := Option.some.inj matched
    exact member
  case h_2 => contradiction

theorem relayedTo_append (receiver : SocketId) (left right : List Output) :
    relayedTo receiver (left ++ right) =
      relayedTo receiver left ++ relayedTo receiver right := by
  simp [relayedTo, relays_append]

theorem receivedFrom_append (sender : SocketId) (left right : List Event) :
    receivedFrom sender (left ++ right) =
      receivedFrom sender left ++ receivedFrom sender right := by
  simp [receivedFrom]

/-- Outputs that the server writes itself relay nothing. -/
theorem relays_eq_nil {outputs : List Output}
    (own : ∀ output ∈ outputs, ∀ sender receiver message,
      output ≠ .sent receiver message (.relay sender)) :
    relays outputs = [] := by
  apply List.eq_nil_iff_forall_not_mem.mpr
  intro relay relayed
  exact own _ (sent_of_mem_relays relayed) _ _ _ rfl

theorem relays_send_server (server : Server) (ws : SocketId) (message : Json) :
    relays (server.send ws message .server) = [] :=
  relays_eq_nil (forall_mem_send (by simp))

theorem relays_broadcastPeerLists (server : Server) :
    relays server.broadcastPeerLists = [] :=
  relays_eq_nil (forall_mem_broadcastPeerLists (by simp))

/-- The relay an event causes in a given state. -/
def relayOf (server : Server) : Event → List Relay
  | .message ws (some p) =>
      match server.pairPartner ws with
      | some partner =>
          if Relayable p ∧ server.readyState partner = .OPEN then [⟨ws, partner, p⟩] else []
      | none => []
  | _ => []

private theorem relayOf_notRelayable {server : Server} {ws : SocketId} {p : Json}
    (notRelayed : ¬ Relayable p) :
    relayOf server (.message ws (some p)) = [] := by
  simp only [relayOf]
  split <;> simp [notRelayed]

/-- Only the relay branch of the message handler relays. -/
theorem relays_of_step
    {server next : Server} {event : Event} {outputs : List Output}
    (stepped : server.step event = some (next, outputs)) :
    relays outputs = relayOf server event := by
  cases effect_of_step stepped with
  | connected => exact relays_broadcastPeerLists _
  | granted ws targetWs p alive target alone targetAlone notRelayed =>
      rw [relayOf_notRelayable notRelayed]
      rw [grant_outputs, relays_append, relays_append, relays_send_server,
        relays_send_server]
      rfl
  | refused ws p reason alive notRelayed =>
      rw [relayOf_notRelayable notRelayed, relays_send_server]
  | listed ws p alive notRelayed =>
      rw [relayOf_notRelayable notRelayed]
      exact relays_send_server server ws _
  | ignored ws raw alive undeliverable =>
      cases raw with
      | none => rfl
      | some p =>
          simp only [relayOf]
          split
          case h_2 => rfl
          case h_1 partner paired =>
            rw [if_neg fun deliverable =>
              undeliverable p partner rfl deliverable.1 paired deliverable.2]
            rfl
  | relayed ws partner p alive relayable paired partnerOpen =>
      simp only [relayOf, paired]
      rw [if_pos ⟨relayable, partnerOpen⟩]
      rfl
  | closing => rfl
  | closed ws =>
      change relays (server.onClose ws).2 = []
      exact relays_eq_nil (forall_mem_onClose (by simp) (by simp))
  | fired index timer => exact relays_send_server server timer.ws _

/-! ## The pair stays -/

/-- Two sockets that are each other's partner, both `OPEN`. -/
structure OpenPair (server : Server) (a b : SocketId) : Prop where
  forward : server.pairPartner a = some b
  backward : server.pairPartner b = some a
  leftOpen : server.readyState a = .OPEN
  rightOpen : server.readyState b = .OPEN

namespace OpenPair

variable {server next : Server} {a b : SocketId} {event : Event} {outputs : List Output}

theorem symm (pair : OpenPair server a b) : OpenPair server b a :=
  ⟨pair.backward, pair.forward, pair.rightOpen, pair.leftOpen⟩

theorem of_partner
    (invariant : PairingInvariant server)
    (paired : server.pairPartner a = some b)
    (leftOpen : server.readyState a = .OPEN)
    (rightOpen : server.readyState b = .OPEN) :
    OpenPair server a b where
  forward := paired
  backward := invariant.matching.points_back paired fun leaving => leaving leftOpen
  leftOpen := leftOpen
  rightOpen := rightOpen

theorem step
    (invariant : PairingInvariant server)
    (pair : OpenPair server a b)
    (stepped : server.step event = some (next, outputs))
    (staysOpen : next.readyState a = .OPEN) (partnerOpen : next.readyState b = .OPEN) :
    OpenPair next a b where
  forward := invariant.partner_kept pair.forward pair.leftOpen stepped staysOpen
    (by simp [partnerOpen])
  backward := invariant.partner_kept pair.backward pair.rightOpen stepped partnerOpen
    (by simp [staysOpen])
  leftOpen := staysOpen
  rightOpen := partnerOpen

/-- A relay touches one side of the pair exactly when it comes from the other. -/
theorem relay_private
    (invariant : PairingInvariant server)
    (pair : OpenPair server a b)
    {relay : Relay}
    (relayed : relay ∈ relayOf server event) :
    relay.receiver = b ↔ relay.sender = a := by
  have points : server.pairPartner relay.sender = some relay.receiver := by
    unfold relayOf at relayed
    split at relayed
    case h_2 => contradiction
    case h_1 ws p =>
      split at relayed
      case h_2 => contradiction
      case h_1 partner paired =>
        split at relayed
        case isFalse => contradiction
        case isTrue =>
          obtain rfl := List.mem_singleton.mp relayed
          exact paired
  constructor
  · intro toB
    rw [toB] at points
    exact invariant.matching.injective points pair.forward
  · intro fromA
    rw [fromA, pair.forward] at points
    exact (Option.some.inj points).symm

/-- One event relays to `b` exactly what it receives from `a`. -/
theorem relay_complete
    (invariant : PairingInvariant server)
    (pair : OpenPair server a b)
    (stepped : server.step event = some (next, outputs)) :
    relayedTo b outputs = receivedFrom a [event] := by
  unfold relayedTo
  rw [relays_of_step stepped]
  cases event with
  | connection | closing | close | timeout => rfl
  | message ws raw =>
      cases raw with
      | none => rfl
      | some p =>
          by_cases fromA : ws = a
          · subst fromA
            by_cases relayable : Relayable p <;>
              simp [relayOf, receivedFrom, pair.forward, pair.rightOpen, relayable]
          · cases paired : server.pairPartner ws with
            | none => simp [relayOf, receivedFrom, paired, fromA]
            | some partner =>
                have notB : partner ≠ b := by
                  rintro rfl
                  exact fromA (invariant.matching.injective paired pair.forward)
                by_cases deliverable :
                    Relayable p ∧ server.readyState partner = .OPEN <;>
                  simp [relayOf, receivedFrom, paired, fromA, notB, deliverable]

end OpenPair

/-! ## Histories of a pair -/

/-- What a period of an open pair looks like from outside. -/
structure Tunnel (a b : SocketId) (events : List Event) (outputs : List Output) : Prop where
  forward : relayedTo b outputs = receivedFrom a events
  backward : relayedTo a outputs = receivedFrom b events
  isPrivate : ∀ relay ∈ relays outputs,
    (relay.receiver = b ↔ relay.sender = a) ∧ (relay.receiver = a ↔ relay.sender = b)

theorem Tunnel.extend
    {server next : Server} {a b : SocketId}
    {events : List Event} {outputs fresh : List Output} {event : Event}
    (invariant : PairingInvariant server)
    (pair : OpenPair server a b)
    (tunnel : Tunnel a b events outputs)
    (stepped : server.step event = some (next, fresh)) :
    Tunnel a b (events ++ [event]) (outputs ++ fresh) where
  forward := by
    rw [relayedTo_append, receivedFrom_append, tunnel.forward,
      pair.relay_complete invariant stepped]
  backward := by
    rw [relayedTo_append, receivedFrom_append, tunnel.backward,
      pair.symm.relay_complete invariant stepped]
  isPrivate := by
    intro relay member
    rw [relays_append, List.mem_append, relays_of_step stepped] at member
    rcases member with old | now
    · exact tunnel.isPrivate relay old
    · exact ⟨pair.relay_private invariant now, pair.symm.relay_private invariant now⟩

/-- Along every continuation after which both sides are still `OPEN`, the pair
holds and the period is a tunnel. -/
theorem openPair_history
    {server final : Server} {a b : SocketId}
    {events : List Event} {outputs : List Output}
    (invariant : PairingInvariant server)
    (pair : OpenPair server a b)
    (run : Machine.Run Server.step Machine.free server events outputs final) :
    PairingInvariant final ∧ a < final.connected ∧ b < final.connected ∧
      (final.readyState a = .OPEN → final.readyState b = .OPEN →
        OpenPair final a b ∧ Tunnel a b events outputs) := by
  induction run with
  | nil =>
      exact ⟨invariant, invariant.known pair.backward, invariant.known pair.forward,
        fun _ _ => ⟨pair, ⟨rfl, rfl, by simp [relays]⟩⟩⟩
  | snoc before allowed stepped inductionHypothesis =>
      obtain ⟨invariantBefore, leftKnown, rightKnown, history⟩ := inductionHypothesis
      have grows := connected_mono_step stepped
      refine ⟨invariantBefore.step stepped, Nat.lt_of_lt_of_le leftKnown grows,
        Nat.lt_of_lt_of_le rightKnown grows, fun leftOpen rightOpen => ?_⟩
      obtain ⟨pairBefore, tunnel⟩ := history
        (open_before_step leftKnown stepped leftOpen)
        (open_before_step rightKnown stepped rightOpen)
      exact ⟨pairBefore.step invariantBefore stepped leftOpen rightOpen,
        tunnel.extend invariantBefore pairBefore stepped⟩

/-- **The tunnel is private, complete and stable.** Take any reachable state in
which `a` and `b` are paired and both `OPEN`, and any continuation during which
both stay `OPEN`. They are still each other's partner. The messages relayed to
`b` are exactly the relayable messages received from `a`, in order and once
each, and the same the other way round. A relay reaches one of the two exactly
when the other one sent it, so no third client is heard by either and none
hears either. -/
theorem tunnel_private_complete_stable
    {past : List Event} {pastOutputs : List Output} {server : Server}
    (reached : ServerRun Machine.free past pastOutputs server)
    {a b : SocketId}
    (paired : server.pairPartner a = some b)
    (leftOpen : server.readyState a = .OPEN) (rightOpen : server.readyState b = .OPEN)
    {events : List Event} {outputs : List Output} {final : Server}
    (period : Machine.Run Server.step Machine.free server events outputs final)
    (leftStays : final.readyState a = .OPEN) (rightStays : final.readyState b = .OPEN) :
    final.pairPartner a = some b ∧ final.pairPartner b = some a ∧
      relayedTo b outputs = receivedFrom a events ∧
      relayedTo a outputs = receivedFrom b events ∧
      ∀ relay ∈ relays outputs,
        (relay.receiver = b ↔ relay.sender = a) ∧
          (relay.receiver = a ↔ relay.sender = b) := by
  have invariant := PairingInvariant.of_run reached
  have pair := OpenPair.of_partner invariant paired leftOpen rightOpen
  obtain ⟨-, -, -, history⟩ := openPair_history invariant pair period
  obtain ⟨finalPair, tunnel⟩ := history leftStays rightStays
  exact ⟨finalPair.forward, finalPair.backward, tunnel.forward, tunnel.backward,
    tunnel.isPrivate⟩

/-- Two paired clients and a third one: the first sends a candidate, the third
asks for the first, the second sends `peer_left`. -/
def tunnelPast : List Event :=
  [.connection (some "10.0.0.1") (some 5001), .connection (some "10.0.0.2") (some 5002),
    .connection (some "10.0.0.3") (some 5003),
    .message 0 (some (.obj [("type", .str "pair_request"),
      ("targetIP", .str "10.0.0.2:5002")]))]

def tunnelPeriod : List Event :=
  [.message 0 (some (.obj [("type", .str "candidate")])),
    .message 2 (some (.obj [("type", .str "pair_request"),
      ("targetIP", .str "10.0.0.1:5001")])),
    .message 1 (some (.obj [("type", .str "peer_left")]))]

theorem tunnel_private_complete_stable_period :
    ∃ past server outputs final,
      ServerRun Machine.free tunnelPast past server ∧
      Machine.Run Server.step Machine.free server tunnelPeriod outputs final ∧
      relayedTo 1 outputs = [.obj [("type", .str "candidate")]] ∧
      relayedTo 0 outputs = [] := by
  obtain ⟨server, past, reached, checked⟩ :
      ∃ server past, ServerRun Machine.free tunnelPast past server ∧
        decide (server.pairPartner 0 = some 1 ∧ server.readyState 0 = .OPEN ∧
          server.readyState 1 = .OPEN ∧
          (Machine.exec Server.step Machine.free server tunnelPeriod).any (fun result =>
            decide (result.1.readyState 0 = .OPEN ∧ result.1.readyState 1 = .OPEN))) =
          true :=
    Machine.run_of_exec_any (fun (server : Server) _ =>
      decide (server.pairPartner 0 = some 1 ∧ server.readyState 0 = .OPEN ∧
        server.readyState 1 = .OPEN ∧
        (Machine.exec Server.step Machine.free server tunnelPeriod).any (fun result =>
          decide (result.1.readyState 0 = .OPEN ∧ result.1.readyState 1 = .OPEN))))
      (by decide)
  obtain ⟨paired, leftOpen, rightOpen, tested⟩ := of_decide_eq_true checked
  obtain ⟨final, outputs, period, stays⟩ := Machine.run_of_exec_any
    (fun (server : Server) _ =>
      decide (server.readyState 0 = .OPEN ∧ server.readyState 1 = .OPEN)) tested
  obtain ⟨leftStays, rightStays⟩ := of_decide_eq_true stays
  obtain ⟨-, -, forward, backward, -⟩ := tunnel_private_complete_stable reached paired
    leftOpen rightOpen period leftStays rightStays
  refine ⟨past, server, outputs, final, reached, period, ?_, ?_⟩
  · rw [forward]
    rfl
  · rw [backward]
    rfl

end WebrtcFileSender.Signaling
