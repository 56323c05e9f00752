import WebrtcFileSender.Client.DeferredWork
import WebrtcFileSender.Client.Emission

/-!
Contract: two clients joined by one data channel.

Owns: the machine of two `RTCClient`s. What a client has handed to the channel
and the peer has not received is its `outgoing` queue; a delivery takes the first
packet and runs the peer's callback. The channel is reliable and ordered while it
is open, and has room for what is handed to it. Its state at each end only moves forward, a packet reaches only an open
end, and an end that closes drops what it had under way.

Does not own: how the channel came about, nor one that is full. The user, the file systems and the ICE
agent are the environment of both clients.
-/

namespace WebrtcFileSender

/-- The two ends of the channel. -/
inductive Side where
  | A
  | B
deriving DecidableEq, Repr

def Side.peer : Side → Side
  | .A => .B
  | .B => .A

@[simp] theorem Side.peer_peer (side : Side) : side.peer.peer = side := by
  cases side <;> rfl

theorem Side.peer_ne (side : Side) : side.peer ≠ side := by
  cases side <;> decide

theorem Side.eq_or_eq_peer (side other : Side) : other = side ∨ other = side.peer := by
  cases side <;> cases other <;> decide

/-- Ghost: the client number of an end. -/
def Side.clientId : Side → Nat
  | .A => 0
  | .B => 1

theorem Side.clientId_injective {side other : Side}
    (same : side.clientId = other.clientId) : side = other := by
  cases side <;> cases other <;> first | rfl | contradiction

abbrev Session := Side → RTCClient

namespace Session

/-- Both clients after `init`. -/
def initial (helloName : Side → String) : Session :=
  fun side => .initial side.clientId (helloName side)

inductive Action where
  | take (side : Side) (input : RTCClient.Input)
  | deliver (side : Side) (outcome : RTCClient.WriteOutcome)

/-- What happens at one end. A packet that is delivered, a file whose sending
begins and a destination that is opened are recorded beside what an observer of
the client sees. -/
inductive Event where
  | observed (side : Side) (observation : RTCClient.Observation)
  | delivered (side : Side) (packet : Packet)
  | began (side : Side) (transfer : TransferId) (bytes : Bytes) (announced : Nat)
  | opened (side : Side) (transfer : Option TransferId) (path : String)
deriving DecidableEq, Repr

/-- A send handle that was not there before. -/
def beginnings (side : Side) (client next : RTCClient) : List Event :=
  match client.sendHandle, next.sendHandle with
  | none, some handle =>
      [.began side handle.transfer handle.file.bytes next.sendTotalBytes]
  | _, _ => []

/-- A receive handle that was not there before. -/
def openings (side : Side) (client next : RTCClient) : List Event :=
  match client.recvHandle, next.recvHandle with
  | none, some handle => [.opened side handle.transfer handle.path]
  | _, _ => []

def events (side : Side) (client next : RTCClient) (calls : List DelegateCall) :
    List Event :=
  (client.observe next calls).map (.observed side) ++
    beginnings side client next ++ openings side client next

/-- An input that an end takes by itself: not a delivery, and a change of the
channel only forward. -/
def Possible (client : RTCClient) : RTCClient.Input → Prop
  | .receive _ _ | .transmit => False
  | .dataChannelState state => RTCDataChannelState.Follows client.readyState state
  | _ => True

instance (client : RTCClient) :
    (input : RTCClient.Input) → Decidable (Possible client input)
  | .receive _ _ | .transmit => .isFalse id
  | .dataChannelState state =>
      inferInstanceAs (Decidable (RTCDataChannelState.Follows client.readyState state))
  | .sendFileAtURL _ | .cancelFileTransfer | .acceptIncomingFileToURL _
  | .rejectIncomingFileWithReason _ | .runMain | .runFile _ | .iceConnectionState _ =>
      .isTrue trivial

def step (session : Session) : Action → Option (Session × List Event)
  | .take side input =>
      if Possible (session side) input then
        ((session side).act input).map fun (next, calls) =>
          (Function.update session side next, events side (session side) next calls)
      else none
  | .deliver side outcome =>
      match (session side.peer).outgoing with
      | [] => none
      | packet :: rest =>
          if (session side).isDataChannelOpen then
            let next := (session side).didReceiveMessage packet outcome
            some
              (Function.update
                (Function.update session side.peer
                  { session side.peer with outgoing := rest }) side next,
                .delivered side packet :: events side (session side) next [])
          else none

/-- Recorded runs of two clients after `init`. -/
abbrev SessionRun (helloName : Side → String)
    (guard : List Event × Session → Action → Prop) :=
  Machine.Run (Machine.recorded Session.step) guard ([], Session.initial helloName)

/-! ## One action -/

/-- What one action does: one end takes an input, or it receives the first
packet that the other end has under way. -/
inductive Effect (session : Session) : Action → Session → List Event → Prop
  | taken (side : Side) (input : RTCClient.Input) (next : RTCClient)
      (calls : List DelegateCall)
      (possible : Possible (session side) input)
      (effect : RTCClient.Effect (session side) input next calls) :
      Effect session (.take side input) (Function.update session side next)
        (events side (session side) next calls)
  | delivered (side : Side) (outcome : RTCClient.WriteOutcome) (packet : Packet)
      (rest : List Packet) (next : RTCClient)
      (queue : (session side.peer).outgoing = packet :: rest)
      (isOpen : (session side).isDataChannelOpen = true)
      (effect : RTCClient.Effect (session side) (.receive packet outcome) next []) :
      Effect session (.deliver side outcome)
        (Function.update
          (Function.update session side.peer
            { session side.peer with outgoing := rest }) side next)
        (.delivered side packet :: events side (session side) next [])

variable {session following : Session} {action : Action} {fresh : List Event}

theorem effect_of_step (stepped : session.step action = some (following, fresh)) :
    Effect session action following fresh := by
  cases action with
  | take side input =>
      simp only [step] at stepped
      split at stepped
      case isFalse => contradiction
      case isTrue possible =>
        simp only [Option.map_eq_some_iff, Prod.mk.injEq, Prod.exists] at stepped
        obtain ⟨next, calls, acted, rfl, rfl⟩ := stepped
        exact .taken side input next calls possible (RTCClient.effect_of_act acted)
  | deliver side outcome =>
      simp only [step] at stepped
      split at stepped
      case h_1 => contradiction
      case h_2 packet rest queue =>
        split at stepped
        case isFalse => contradiction
        case isTrue isOpen =>
          simp only [Option.some.injEq, Prod.mk.injEq] at stepped
          obtain ⟨rfl, rfl⟩ := stepped
          exact .delivered side outcome packet rest _ queue isOpen
            (RTCClient.effect_of_act rfl)

theorem mem_events_of_observed {side : Side} {client next : RTCClient}
    {calls : List DelegateCall} {observation : RTCClient.Observation}
    (observed : observation ∈ client.observe next calls) :
    .observed side observation ∈ events side client next calls :=
  List.mem_append_left _ (List.mem_append_left _ (List.mem_map_of_mem observed))

theorem began_mem_events {side : Side} {client next : RTCClient}
    {calls : List DelegateCall} {handle : ReadHandle}
    (before : client.sendHandle = none) (after : next.sendHandle = some handle) :
    .began side handle.transfer handle.file.bytes next.sendTotalBytes ∈
      events side client next calls := by
  apply List.mem_append_left
  apply List.mem_append_right
  simp [beginnings, before, after]

theorem opened_mem_events {side : Side} {client next : RTCClient}
    {calls : List DelegateCall} {handle : WriteHandle}
    (before : client.recvHandle = none) (after : next.recvHandle = some handle) :
    .opened side handle.transfer handle.path ∈ events side client next calls := by
  apply List.mem_append_right
  simp [openings, before, after]

/-- The events of one end are observations, a beginning or an opening. -/
theorem mem_events {side : Side} {client next : RTCClient} {calls : List DelegateCall}
    {event : Event} (member : event ∈ events side client next calls) :
    (∃ observation, event = .observed side observation) ∨
    (∃ handle, client.sendHandle = none ∧ next.sendHandle = some handle ∧
      event = .began side handle.transfer handle.file.bytes next.sendTotalBytes) ∨
    ∃ handle, client.recvHandle = none ∧ next.recvHandle = some handle ∧
      event = .opened side handle.transfer handle.path := by
  rcases List.mem_append.mp member with seen | opening
  · rcases List.mem_append.mp seen with observed | beginning
    · obtain ⟨observation, -, rfl⟩ := List.mem_map.mp observed
      exact .inl ⟨observation, rfl⟩
    · unfold beginnings at beginning
      split at beginning
      case h_1 handle before after =>
        exact .inr (.inl ⟨handle, before, after, List.mem_singleton.mp beginning⟩)
      case h_2 => contradiction
  · unfold openings at opening
    split at opening
    case h_1 handle before after =>
      exact .inr (.inr ⟨handle, before, after, List.mem_singleton.mp opening⟩)
    case h_2 => contradiction

theorem delivered_not_mem_events {side owner : Side} {client next : RTCClient}
    {calls : List DelegateCall} {packet : Packet} :
    .delivered owner packet ∉ events side client next calls := by
  intro member
  rcases mem_events member with ⟨_, same⟩ | ⟨_, -, -, same⟩ | ⟨_, -, -, same⟩
  all_goals contradiction

/-! ## Both ends after an action -/

/-- After an input at one end, a property of both ends has to be shown of the
new client and of the peer. -/
theorem forall_update {P : Side → RTCClient → Prop} {side : Side} {next : RTCClient}
    (atSide : P side next)
    (atPeer : P side.peer (session side.peer)) :
    ∀ other, P other (Function.update session side next other) := by
  intro other
  rcases side.eq_or_eq_peer other with rfl | rfl
  · rw [Function.update_self]
    exact atSide
  · rw [Function.update_of_ne side.peer_ne]
    exact atPeer

/-- The same after a delivery, which changes both ends. -/
theorem forall_update₂ {P : Side → RTCClient → Prop} {side : Side}
    {next sender : RTCClient}
    (atSide : P side next)
    (atPeer : P side.peer sender) :
    ∀ other,
      P other (Function.update (Function.update session side.peer sender) side next other) := by
  apply forall_update atSide
  rw [Function.update_self]
  exact atPeer

end Session

end WebrtcFileSender
