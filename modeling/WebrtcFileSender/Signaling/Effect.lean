import WebrtcFileSender.Library.Matching
import WebrtcFileSender.Signaling.Server

/-!
Contract: everything one event can do to the signaling server.

Owns: the inversion of `Server.step` into named effects, each with its guards,
its next state and its outputs. Later proofs argue over these cases and do not
unfold the handlers again.
-/

namespace WebrtcFileSender.Signaling

namespace Server

/-- A parsed message is passed on when its type is a string other than the three
the server keeps for itself. -/
def Relayable (p : Json) : Prop :=
  ∃ type, p.stringField? "type" = some type ∧
    type ≠ "pair_request" ∧ type ≠ "list_peers" ∧ type ≠ "peer_left"

instance (p : Json) : Decidable (Relayable p) :=
  match field : p.stringField? "type" with
  | none => .isFalse fun ⟨_, found, _⟩ => by simp [field] at found
  | some type =>
      decidable_of_iff
        (type ≠ "pair_request" ∧ type ≠ "list_peers" ∧ type ≠ "peer_left") (by
          simp [Relayable, field])

/-- The effects of one event. -/
inductive Effect (server : Server) : Event → Server → List Output → Prop
  | connected (remoteAddress : Option String) (remotePort : Option Nat) :
      Effect server (.connection remoteAddress remotePort)
        (server.onConnection remoteAddress remotePort).1
        (server.onConnection remoteAddress remotePort).2
  | granted (ws targetWs : SocketId) (p : Json)
      (alive : server.readyState ws ≠ .CLOSED)
      (target : server.validTarget ws p = some targetWs)
      (alone : server.pairPartner ws = none)
      (targetAlone : server.pairPartner targetWs = none)
      (notRelayed : ¬ Relayable p)
      (asked : p.stringField? "type" = some "pair_request") :
      Effect server (.message ws (some p)) (server.grant ws targetWs).1
        (server.grant ws targetWs).2
  | refused (ws : SocketId) (p : Json) (reason : String)
      (alive : server.readyState ws ≠ .CLOSED)
      (notRelayed : ¬ Relayable p) :
      Effect server (.message ws (some p)) server
        (server.send ws (errorMessage reason) .server)
  | listed (ws : SocketId) (p : Json)
      (alive : server.readyState ws ≠ .CLOSED)
      (notRelayed : ¬ Relayable p) :
      Effect server (.message ws (some p)) server (server.sendPeerList ws)
  | ignored (ws : SocketId) (raw : Option Json)
      (alive : server.readyState ws ≠ .CLOSED)
      (undeliverable : ∀ p partner, raw = some p → Relayable p →
        server.pairPartner ws = some partner → server.readyState partner ≠ .OPEN) :
      Effect server (.message ws raw) server []
  | relayed (ws partner : SocketId) (p : Json)
      (alive : server.readyState ws ≠ .CLOSED)
      (relayable : Relayable p)
      (paired : server.pairPartner ws = some partner)
      (partnerOpen : server.readyState partner = .OPEN) :
      Effect server (.message ws (some p)) server [.sent partner p (.relay ws)]
  | closing (ws : SocketId) (wasOpen : server.readyState ws = .OPEN) :
      Effect server (.closing ws)
        { server with readyState := Function.update server.readyState ws .CLOSING } []
  | closed (ws : SocketId) (wasClosing : server.readyState ws = .CLOSING) :
      Effect server (.close ws) (server.onClose ws).1 (server.onClose ws).2
  | fired (index : Nat) (timer : Timer) (armed : server.timers[index]? = some timer) :
      Effect server (.timeout index)
        { server with timers := server.timers.eraseIdx index }
        (server.onTimeout timer)

private theorem notRelayable_of_type {p : Json} {type : String}
    (field : p.stringField? "type" = some type)
    (reserved : type = "pair_request" ∨ type = "list_peers" ∨ type = "peer_left") :
    ¬ Relayable p := by
  rintro ⟨other, found, notPair, notList, notLeft⟩
  rw [field] at found
  obtain rfl := Option.some.inj found
  rcases reserved with same | same | same
  · exact notPair same
  · exact notList same
  · exact notLeft same

private theorem pairRequest_effect {server : Server} {ws : SocketId} {p : Json}
    (alive : server.readyState ws ≠ .CLOSED)
    (asked : p.stringField? "type" = some "pair_request") :
    Effect server (.message ws (some p)) (server.onPairRequest ws p).1
      (server.onPairRequest ws p).2 := by
  have notRelayed : ¬ Relayable p := notRelayable_of_type asked (.inl rfl)
  unfold onPairRequest
  split
  case h_1 => exact .refused ws p _ alive notRelayed
  case h_2 targetWs target =>
    split
    case isTrue => exact .refused ws p _ alive notRelayed
    case isFalse busy =>
      simp only [not_or, Bool.not_eq_true, Option.isSome_eq_false_iff,
        Option.isNone_iff_eq_none] at busy
      exact .granted ws targetWs p alive target busy.1 busy.2 notRelayed asked

private theorem relay_effect {server : Server} {ws : SocketId} {p : Json} {type : String}
    (alive : server.readyState ws ≠ .CLOSED)
    (field : p.stringField? "type" = some type)
    (notPair : type ≠ "pair_request") (notList : type ≠ "list_peers") :
    Effect server (.message ws (some p)) server (server.onRelay ws type p) := by
  unfold onRelay
  split
  case h_1 alone =>
    exact .ignored ws _ alive fun q partner _ _ paired => by simp [alone] at paired
  case h_2 partner paired =>
    split
    case isTrue notOpen =>
      refine .ignored ws _ alive fun q other _ _ found => ?_
      rw [paired] at found
      obtain rfl := Option.some.inj found
      exact notOpen
    case isFalse partnerOpen =>
      simp only [ne_eq, not_not] at partnerOpen
      split
      case isTrue left =>
        refine .ignored ws _ alive fun q other same relayable _ => ?_
        obtain rfl := Option.some.inj same
        exact absurd relayable (notRelayable_of_type field (.inr (.inr left)))
      case isFalse notLeft =>
        rw [send, if_pos partnerOpen]
        exact .relayed ws partner p alive ⟨type, field, notPair, notList, notLeft⟩
          paired partnerOpen

/-- Every step is one of the effects. -/
theorem effect_of_step {server next : Server} {event : Event} {outputs : List Output}
    (stepped : server.step event = some (next, outputs)) :
    Effect server event next outputs := by
  cases event with
  | connection remoteAddress remotePort =>
      simp only [step, Option.some.injEq] at stepped
      rw [← show (server.onConnection remoteAddress remotePort).1 = next by rw [stepped],
        ← show (server.onConnection remoteAddress remotePort).2 = outputs by rw [stepped]]
      exact .connected remoteAddress remotePort
  | message ws raw =>
      simp only [step] at stepped
      split at stepped
      case isTrue => contradiction
      case isFalse alive =>
        simp only [Option.some.injEq] at stepped
        rw [← show (server.onMessage ws raw).1 = next by rw [stepped],
          ← show (server.onMessage ws raw).2 = outputs by rw [stepped]]
        unfold onMessage
        split
        case h_1 => exact .ignored ws _ alive (by simp)
        case h_2 p =>
          split
          case h_1 untyped =>
            refine .ignored ws _ alive fun q _ same relayable _ => ?_
            obtain ⟨type, found, -⟩ := relayable
            obtain rfl := Option.some.inj same
            simp [untyped] at found
          case h_2 type field =>
            split
            case isTrue isPair =>
              exact pairRequest_effect alive (isPair ▸ field)
            case isFalse notPair =>
              split
              case isTrue isList =>
                exact .listed ws p alive
                  (notRelayable_of_type field (.inr (.inl isList)))
              case isFalse notList => exact relay_effect alive field notPair notList
  | closing ws =>
      simp only [step] at stepped
      split at stepped
      case isTrue wasOpen =>
        simp only [Option.some.injEq, Prod.mk.injEq] at stepped
        obtain ⟨rfl, rfl⟩ := stepped
        exact .closing ws wasOpen
      case isFalse => contradiction
  | close ws =>
      simp only [step] at stepped
      split at stepped
      case isTrue wasClosing =>
        simp only [Option.some.injEq] at stepped
        rw [← show (server.onClose ws).1 = next by rw [stepped],
          ← show (server.onClose ws).2 = outputs by rw [stepped]]
        exact .closed ws wasClosing
      case isFalse => contradiction
  | timeout index =>
      simp only [step] at stepped
      split at stepped
      case h_1 => contradiction
      case h_2 timer armed =>
        simp only [Option.some.injEq, Prod.mk.injEq] at stepped
        obtain ⟨rfl, rfl⟩ := stepped
        exact .fired index timer armed

/-- A granted request tells both sides their role. -/
theorem grant_outputs (server : Server) (ws targetWs : SocketId) :
    (server.grant ws targetWs).2 =
      [.granted ws targetWs] ++
        server.send ws (offererMessage (server.clientIP ws)) .server ++
        server.send targetWs
          (answererMessage (server.clientIP targetWs) (server.clientIP ws)) .server := by
  simp [grant, send]

/-! ## What a close changes -/

/-- The partner a close event releases: the partner field of the closing socket,
when that partner is `OPEN`. -/
def informedPartner (server : Server) (ws : SocketId) : Option SocketId :=
  (server.pairPartner ws).filter fun partner =>
    Function.update server.readyState ws .CLOSED partner = .OPEN

theorem onClose_eq (server : Server) (ws : SocketId) :
    (server.onClose ws).1 =
      { server with
        readyState := Function.update server.readyState ws .CLOSED
        pairPartner :=
          MatchingUpTo.depart server.pairPartner ws (server.informedPartner ws)
        clientsByIP := server.unregister ws } := by
  unfold onClose informedPartner
  cases paired : server.pairPartner ws with
  | none => simp [MatchingUpTo.depart]
  | some partner =>
      by_cases stays : Function.update server.readyState ws .CLOSED partner = .OPEN
      · rw [Option.filter_some_pos (by simpa using stays)]
        simp [stays, MatchingUpTo.depart]
      · rw [Option.filter_some_neg (by simpa using stays)]
        simp [stays, MatchingUpTo.depart]

/-- A close may tell the partner, and then sends everyone a list. -/
theorem onClose_outputs (server : Server) (ws : SocketId) :
    ∃ notice, (server.onClose ws).2 =
        notice ++ (server.onClose ws).1.broadcastPeerLists ∧
      (notice = [] ∨ ∃ partner,
        notice = (server.onClose ws).1.send partner peerLeftMessage .server) := by
  unfold onClose
  dsimp only
  split
  case h_1 => exact ⟨[], rfl, .inl rfl⟩
  case h_2 partner paired =>
    split
    case isTrue => exact ⟨_, rfl, .inr ⟨partner, rfl⟩⟩
    case isFalse => exact ⟨[], rfl, .inl rfl⟩

/-! ## What a step sends -/

section Outputs

variable {P : Output → Prop}

theorem forall_mem_send {server : Server} {ws : SocketId} {message : Json} {origin : Origin}
    (sent : P (.sent ws message origin)) :
    ∀ output ∈ server.send ws message origin, P output := by
  intro output member
  unfold send at member
  split at member
  · rw [List.mem_singleton.mp member]
    exact sent
  · contradiction

theorem forall_mem_broadcastPeerLists {server : Server}
    (lists : ∀ receiver entries, P (.sent receiver (peersMessage entries) .server)) :
    ∀ output ∈ server.broadcastPeerLists, P output := by
  intro output member
  simp only [broadcastPeerLists, List.mem_flatMap] at member
  obtain ⟨entry, -, sent⟩ := member
  exact forall_mem_send (lists _ _) output sent

theorem forall_mem_onClose {server : Server} {ws : SocketId}
    (left : ∀ receiver, P (.sent receiver peerLeftMessage .server))
    (lists : ∀ receiver entries, P (.sent receiver (peersMessage entries) .server)) :
    ∀ output ∈ (server.onClose ws).2, P output := by
  intro output member
  obtain ⟨notice, outputs, told⟩ := server.onClose_outputs ws
  rw [outputs] at member
  rcases List.mem_append.mp member with toPartner | inLists
  · rcases told with rfl | ⟨partner, rfl⟩
    · contradiction
    · exact forall_mem_send (left partner) output toPartner
  · exact forall_mem_broadcastPeerLists lists output inLists

end Outputs

/-- A message that an event makes the server send, by its reason. -/
inductive Sent (server : Server) (event : Event) : SocketId → Json → Origin → Prop
  | peers (receiver : SocketId) (entries : List Json) :
      Sent server event receiver (peersMessage entries) .server
  | error (receiver : SocketId) (reason : String) :
      Sent server event receiver (errorMessage reason) .server
  | offerer (receiver : SocketId) (selfIP : String) :
      Sent server event receiver (offererMessage selfIP) .server
  | answerer (receiver : SocketId) (selfIP peerIP : String) :
      Sent server event receiver (answererMessage selfIP peerIP) .server
  | joined (index : Nat) (timer : Timer)
      (isTimeout : event = .timeout index) (armed : server.timers[index]? = some timer) :
      Sent server event timer.ws (peerJoinedMessage (server.clientIP timer.targetWs)) .server
  | left (receiver : SocketId) : Sent server event receiver peerLeftMessage .server
  | relayed (sender receiver : SocketId) (p : Json)
      (isMessage : event = .message sender (some p))
      (relayable : Relayable p)
      (paired : server.pairPartner sender = some receiver)
      (isOpen : server.readyState receiver = .OPEN) :
      Sent server event receiver p (.relay sender)

theorem eq_of_mem_send {server : Server} {ws receiver : SocketId} {given message : Json}
    {author origin : Origin}
    (sent : .sent receiver message origin ∈ server.send ws given author) :
    receiver = ws ∧ message = given ∧ origin = author := by
  have same := forall_mem_send (P := (· = .sent ws given author)) rfl _ sent
  exact Output.sent.inj same

/-- Everything an event sends has one of these reasons. -/
theorem sent_of_step {server next : Server} {event : Event} {outputs : List Output}
    (stepped : server.step event = some (next, outputs))
    {receiver : SocketId} {message : Json} {origin : Origin}
    (sent : .sent receiver message origin ∈ outputs) :
    Sent server event receiver message origin := by
  have lists : ∀ socket entries, Output.sent socket (peersMessage entries) .server =
      .sent receiver message origin → Sent server event receiver message origin := by
    intro socket entries same
    obtain ⟨rfl, rfl, rfl⟩ := Output.sent.inj same
    exact .peers _ entries
  cases effect_of_step stepped with
  | connected =>
      exact forall_mem_broadcastPeerLists (P := fun output =>
        output = .sent receiver message origin → Sent server _ receiver message origin)
        lists _ sent rfl
  | granted ws targetWs =>
      rw [grant_outputs, List.append_assoc] at sent
      rcases List.mem_append.mp sent with isGrant | told
      · simp at isGrant
      · rcases List.mem_append.mp told with toRequester | toTarget
        · obtain ⟨rfl, rfl, rfl⟩ := eq_of_mem_send toRequester
          exact .offerer _ _
        · obtain ⟨rfl, rfl, rfl⟩ := eq_of_mem_send toTarget
          exact .answerer _ _ _
  | refused ws p reason =>
      obtain ⟨rfl, rfl, rfl⟩ := eq_of_mem_send sent
      exact .error _ reason
  | listed ws =>
      obtain ⟨rfl, rfl, rfl⟩ := eq_of_mem_send sent
      exact .peers _ _
  | ignored | closing => contradiction
  | relayed ws partner p alive relayable paired partnerOpen =>
      obtain ⟨rfl, rfl, rfl⟩ := Output.sent.inj (List.mem_singleton.mp sent)
      exact .relayed ws receiver message rfl relayable paired partnerOpen
  | closed ws =>
      refine forall_mem_onClose (P := fun output =>
        output = .sent receiver message origin → Sent server _ receiver message origin)
        ?_ lists _ sent rfl
      intro socket same
      obtain ⟨rfl, rfl, rfl⟩ := Output.sent.inj same
      exact .left _
  | fired index timer armed =>
      obtain ⟨rfl, rfl, rfl⟩ := eq_of_mem_send sent
      exact .joined index timer rfl armed

/-! ## Monotone facts of every step -/

/-- A socket that has connected and is `OPEN` after an event was `OPEN` before. -/
theorem open_before_step
    {server next : Server} {event : Event} {outputs : List Output} {ws : SocketId}
    (known : ws < server.connected)
    (stepped : server.step event = some (next, outputs))
    (openAfter : next.readyState ws = .OPEN) :
    server.readyState ws = .OPEN := by
  cases effect_of_step stepped with
  | connected =>
      have old : ws ≠ server.connected := Nat.ne_of_lt known
      simpa [Server.onConnection, Function.update_of_ne old] using openAfter
  | granted | refused | listed | ignored | relayed | fired => exact openAfter
  | closing closingWs =>
      by_cases same : ws = closingWs
      · subst same
        simp at openAfter
      · simpa [Function.update_of_ne same] using openAfter
  | closed closedWs =>
      rw [onClose_eq] at openAfter
      by_cases same : ws = closedWs
      · subst same
        simp at openAfter
      · simpa [Function.update_of_ne same] using openAfter

/-- A closed socket stays closed. -/
theorem closed_after_step
    {server next : Server} {event : Event} {outputs : List Output} {ws : SocketId}
    (known : ws < server.connected)
    (stepped : server.step event = some (next, outputs))
    (closedBefore : server.readyState ws = .CLOSED) :
    next.readyState ws = .CLOSED := by
  cases effect_of_step stepped with
  | connected =>
      have old : ws ≠ server.connected := Nat.ne_of_lt known
      simpa [Server.onConnection, Function.update_of_ne old] using closedBefore
  | granted | refused | listed | ignored | relayed | fired => exact closedBefore
  | closing closingWs wasOpen =>
      have other : ws ≠ closingWs := by
        rintro rfl
        rw [closedBefore] at wasOpen
        contradiction
      simpa [Function.update_of_ne other] using closedBefore
  | closed closedWs =>
      rw [onClose_eq]
      by_cases same : ws = closedWs
      · subst same
        simp
      · simpa [Function.update_of_ne same] using closedBefore

/-- A socket keeps the key it was given when it connected. -/
theorem clientIP_step
    {server next : Server} {event : Event} {outputs : List Output} {ws : SocketId}
    (known : ws < server.connected)
    (stepped : server.step event = some (next, outputs)) :
    next.clientIP ws = server.clientIP ws := by
  cases effect_of_step stepped with
  | connected =>
      have old : ws ≠ server.connected := Nat.ne_of_lt known
      simp [Server.onConnection, Function.update_of_ne old]
  | granted | refused | listed | ignored | relayed | closing | fired => rfl
  | closed closedWs => rw [onClose_eq]

theorem connected_mono_step
    {server next : Server} {event : Event} {outputs : List Output}
    (stepped : server.step event = some (next, outputs)) :
    server.connected ≤ next.connected := by
  cases effect_of_step stepped with
  | connected => exact Nat.le_succ _
  | granted | refused | listed | ignored | relayed | closing | fired => exact Nat.le_refl _
  | closed ws => exact Nat.le_of_eq (by rw [onClose_eq])

end Server

end WebrtcFileSender.Signaling
