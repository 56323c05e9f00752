import WebrtcFileSender.Client.Emission
import WebrtcFileSender.Net.System
import WebrtcFileSender.Signaling.Tunnel

/-!
Contract: what one action of the system does to the pending choice of a client,
to the remote descriptions it may be connected by, and to its data channel.

Owns: the keys a user action makes pending, the inversion of one step of a client
and of one step of the server as far as the choice of a device depends on it, and
the inversion of one action of the system.
-/

namespace WebrtcFileSender

namespace Net

open Signaling

/-! ## One client -/

namespace Device

/-- The key that an input makes pending. -/
def choice (device : Device) : Input → Option String
  | .selectRow row =>
      (row.bind fun row => device.onlinePeers[row]?).bind fun peer =>
        device.selectTarget peer.ip
  | .send => device.sendTarget
  | .runMain => if device.openReported then device.clearPending.sendTarget else none
  | _ => none

/-- What one input may do. -/
structure Change (device : Device) (input : Input) (next : Device) : Prop where
  /-- The pending choice stays, is dropped, or is made anew while the channel is
  not open. -/
  pending : next.pendingAutoSend = true →
    (device.pendingAutoSend = true ∧ next.pendingPeerIP = device.pendingPeerIP) ∨
      ∃ key, device.choice input = some key ∧ next.pendingPeerIP = some key ∧
        next.isDataChannelOpen = false
  /-- No client by itself comes by the description of another. -/
  reaches : ∀ peer, next.endpoint.Reaches peer → device.endpoint.Reaches peer
  /-- The channel that is open was open, or has opened to a client that is
  reached. -/
  channel : next.isDataChannelOpen = true →
    (device.isDataChannelOpen = true ∧
        next.endpoint.channelPeer = device.endpoint.channelPeer) ∨
      ∃ peer, device.endpoint.Reaches peer ∧ next.endpoint.channelPeer = some peer

variable {device next : Device} {input : Input} {signals : List Json}

theorem Change.refl (device : Device) (input : Input) : device.Change input device :=
  ⟨fun pending => .inl ⟨pending, rfl⟩, fun _ => id, fun isOpen => .inl ⟨isOpen, rfl⟩⟩

/-- A step of the transfer half touches neither choice nor channel. -/
theorem Change.of_client {client : RTCClient}
    (sameState : client.readyState = device.endpoint.client.readyState) :
    device.Change input (device.withClient client) := by
  refine ⟨fun pending => .inl ⟨pending, rfl⟩, fun _ => id, ?_⟩
  intro isOpen
  refine .inl ⟨?_, rfl⟩
  simpa [isDataChannelOpen, RTCClient.isDataChannelOpen, withClient, sameState] using isOpen

theorem selectTarget_spec {ip key : String} (target : device.selectTarget ip = some key) :
    device.isDataChannelOpen = false ∧ key = ip := by
  unfold selectTarget at target
  split at target
  case isTrue => contradiction
  case isFalse =>
    split at target
    case isTrue => contradiction
    case isFalse =>
      split at target
      case isTrue => contradiction
      case isFalse =>
        split at target
        case isTrue => contradiction
        case isFalse notOpen =>
          exact ⟨by simpa using notOpen, (Option.some.inj target).symm⟩

theorem sendTarget_spec {key : String} (target : device.sendTarget = some key) :
    device.isDataChannelOpen = false := by
  unfold sendTarget at target
  split at target
  case isTrue => contradiction
  case isFalse sendable =>
    simp only [not_or, Bool.not_eq_true] at sendable
    exact sendable.2

/-- The choice of a device touches only the pending fields. -/
theorem Change.connect {key : String}
    (chosen : device.choice input = some key)
    (notOpen : device.isDataChannelOpen = false) :
    device.Change input (device.connect key).1 := by
  refine ⟨fun _ => .inr ⟨key, chosen, rfl, notOpen⟩, fun _ => id, ?_⟩
  intro isOpen
  have stillClosed : (device.connect key).1.isDataChannelOpen = false := notOpen
  rw [stillClosed] at isOpen
  contradiction

/-- `onSend:` sends, connects to its target, or does nothing. -/
theorem onSend_cases (device : Device) :
    device.onSend.1 = device ∨
    (∃ client, device.onSend.1 = device.withClient client ∧
      client.readyState = device.endpoint.client.readyState) ∨
    ∃ key, device.sendTarget = some key ∧ device.onSend.1 = (device.connect key).1 := by
  unfold onSend
  split
  case h_1 => exact .inl rfl
  case h_2 url sendable =>
    split
    case isTrue =>
      split
      case h_1 => exact .inl rfl
      case h_2 client sent =>
        obtain ⟨file, -, -, -, -, -, rfl⟩ := RTCClient.sendFileAtURL_ok sent
        exact .inr (.inl ⟨_, rfl, by rw [RTCClient.beginSending_eq]⟩)
    case isFalse =>
      split
      case h_1 => exact .inl rfl
      case h_2 target chosen => exact .inr (.inr ⟨target, chosen, rfl⟩)

theorem change_of_selectRow (device : Device) (row : Option Nat) :
    device.Change (.selectRow row) (device.tableViewSelectionDidChange row).1 := by
  have moved : device.Change (.selectRow row) { device with selectedPeerRow := row } :=
    ⟨fun pending => .inl ⟨pending, rfl⟩, fun _ => id, fun isOpen => .inl ⟨isOpen, rfl⟩⟩
  unfold tableViewSelectionDidChange
  dsimp only
  split
  case h_1 => exact moved
  case h_2 peer selected =>
    unfold onSelectPeerIP
    split
    case h_1 => exact moved
    case h_2 target chosen =>
      have sameTarget : device.selectTarget peer.ip = some target := chosen
      obtain ⟨notOpen, rfl⟩ := selectTarget_spec sameTarget
      have isChoice : device.choice (.selectRow row) = some peer.ip := by
        simp only [choice, selected, Option.bind_some]
        exact sameTarget
      refine ⟨fun _ => .inr ⟨peer.ip, isChoice, rfl, notOpen⟩, fun _ => id, ?_⟩
      intro isOpen
      have wasOpen : device.isDataChannelOpen = true := isOpen
      rw [notOpen] at wasOpen
      contradiction

theorem change_of_send (device : Device) : device.Change .send device.onSend.1 := by
  rcases device.onSend_cases with same | ⟨client, sent, sameState⟩ | ⟨key, chosen, connects⟩
  · rw [same]
    exact .refl device .send
  · rw [sent]
    exact .of_client sameState
  · rw [connects]
    exact .connect chosen (sendTarget_spec chosen)

/-- The report of an open channel: the choice is dropped, and `onSend:` may make
the next one. -/
theorem change_of_openReported {client : RTCClient}
    (reported : device.openReported = true)
    (sameState : client.readyState = device.endpoint.client.readyState) :
    device.Change .runMain (device.withClient client).clearPending.onSend.1 := by
  have sameOpen : (device.withClient client).clearPending.isDataChannelOpen =
      device.isDataChannelOpen := by
    simp [isDataChannelOpen, RTCClient.isDataChannelOpen, clearPending, withClient, sameState]
  have sameTarget : (device.withClient client).clearPending.sendTarget =
      device.clearPending.sendTarget := by
    have sameOpen' : (device.withClient client).clearPending.isDataChannelOpen =
        device.clearPending.isDataChannelOpen := sameOpen
    simp only [sendTarget, sameOpen']
    rfl
  rcases (device.withClient client).clearPending.onSend_cases with
    same | ⟨sent, isSent, sentState⟩ | ⟨key, chosen, connects⟩
  · rw [same]
    refine ⟨fun pending => ?_, fun _ => id, fun isOpen => .inl ⟨?_, rfl⟩⟩
    · have cleared : (device.withClient client).clearPending.pendingAutoSend = false := rfl
      rw [cleared] at pending
      contradiction
    · rw [← sameOpen]
      exact isOpen
  · rw [isSent]
    refine ⟨fun pending => ?_, fun _ => id, fun isOpen => .inl ⟨?_, rfl⟩⟩
    · have cleared : ((device.withClient client).clearPending.withClient sent).pendingAutoSend =
          false := rfl
      rw [cleared] at pending
      contradiction
    · have wasOpen : sent.isDataChannelOpen = true := isOpen
      rw [← sameOpen]
      have same : sent.isDataChannelOpen =
          (device.withClient client).clearPending.isDataChannelOpen := by
        simp [isDataChannelOpen, RTCClient.isDataChannelOpen, sentState]
      rw [← same]
      exact wasOpen
  · rw [connects]
    have notOpen := sendTarget_spec chosen
    have isChoice : device.choice .runMain = some key := by
      simp only [choice, reported, if_true]
      rw [← sameTarget]
      exact chosen
    refine ⟨fun _ => .inr ⟨key, isChoice, rfl, notOpen⟩, fun _ => id, ?_⟩
    intro isOpen
    have wasOpen : (device.withClient client).clearPending.isDataChannelOpen = true := isOpen
    rw [notOpen] at wasOpen
    contradiction

theorem change_of_runMain
    (ran : device.runMain = some (next, signals)) :
    device.Change .runMain next := by
  simp only [runMain, RTCClient.act, Option.map_eq_some_iff, Prod.exists] at ran
  obtain ⟨client, calls, acted, handled⟩ := ran
  split at acted
  case h_1 => contradiction
  case h_2 block rest queue =>
    have block_client : ∀ block : MainBlock,
        ({ device.endpoint.client with mainQueue := rest }.runBlock block).1.readyState =
          device.endpoint.client.readyState := by
      intro block
      cases block with
      | iceConnectionLost =>
          simp only [RTCClient.runBlock]
          split <;> rfl
      | cleanup | dataChannelStateDidChange | didReceivePeerName | didUpdateOnlinePeers
      | fileReceiveOffered | fileReceiveProgress | fileSendProgress => rfl
    have result := Option.some.inj acted
    have sameState := block_client block
    rw [result] at sameState
    dsimp only at sameState
    have unhandled : device.Change .runMain (device.withClient client) := .of_client sameState
    cases block with
    | dataChannelStateDidChange state =>
        obtain ⟨rfl, rfl⟩ := Prod.mk.inj result
        simp only [handleAll, handle, dataChannelStateDidChange] at handled
        split at handled
        case isTrue opened =>
          obtain ⟨rfl, pending⟩ := opened
          have reported : device.openReported = true := by
            have wasPending : device.pendingAutoSend = true := pending
            simp [openReported, wasPending, queue]
          obtain ⟨rfl, -⟩ := Prod.mk.inj handled
          exact change_of_openReported reported rfl
        case isFalse =>
          obtain ⟨rfl, -⟩ := Prod.mk.inj handled
          exact unhandled
    | didUpdateOnlinePeers peers =>
        obtain ⟨rfl, rfl⟩ := Prod.mk.inj result
        simp only [handleAll, handle] at handled
        obtain ⟨rfl, -⟩ := Prod.mk.inj handled
        exact ⟨unhandled.pending, unhandled.reaches, unhandled.channel⟩
    | iceConnectionLost | cleanup | didReceivePeerName | fileReceiveOffered
    | fileReceiveProgress | fileSendProgress =>
        obtain ⟨rfl, rfl⟩ := Prod.mk.inj result
        simp only [handleAll, handle, dataChannelStateDidChange, reduceCtorEq, false_and,
          if_false] at handled
        obtain ⟨rfl, -⟩ := Prod.mk.inj handled
        exact unhandled

/-- A completion handler applies the description it was started for. -/
theorem change_of_complete {index : Nat} {result : Option String} {endpoint : Endpoint}
    (completes : device.endpoint.complete index result = some (endpoint, signals)) :
    device.Change (.complete index result) { device with endpoint := endpoint } := by
  simp only [Endpoint.complete, Option.map_eq_some_iff] at completes
  obtain ⟨completion, atIndex, handled⟩ := completes
  have waiting : completion ∈ device.endpoint.completions := List.mem_of_getElem? atIndex
  have erased : ∀ other ∈ device.endpoint.completions.eraseIdx index,
      other ∈ device.endpoint.completions := fun other => List.mem_of_mem_eraseIdx
  have build : endpoint.client.readyState = device.endpoint.client.readyState →
      endpoint.channelPeer = device.endpoint.channelPeer →
      (∀ peer, endpoint.Reaches peer → device.endpoint.Reaches peer) →
      device.Change (.complete index result) { device with endpoint := endpoint } := by
    intro sameState samePeer reaches
    refine ⟨fun pending => .inl ⟨pending, rfl⟩, reaches, fun isOpen => .inl ⟨?_, samePeer⟩⟩
    simpa [isDataChannelOpen, RTCClient.isDataChannelOpen, sameState] using isOpen
  have kept : ∀ peer, Endpoint.Reaches
      { device.endpoint with completions := device.endpoint.completions.eraseIdx index } peer →
      device.endpoint.Reaches peer := by
    intro peer reached
    rcases reached with applied | ⟨other, inQueue, isAuthor⟩
    · exact .inl applied
    · exact .inr ⟨other, erased other inQueue, isAuthor⟩
  have started : ∀ (endpoint : Endpoint) (fresh : Completion), fresh.author = none →
      ∀ peer, Endpoint.Reaches { endpoint with
        completions := endpoint.completions ++ [fresh] } peer → endpoint.Reaches peer := by
    intro endpoint fresh noAuthor peer reached
    rcases reached with applied | ⟨other, inQueue, isAuthor⟩
    · exact .inl applied
    · rcases List.mem_append.mp inQueue with old | new
      · exact .inr ⟨other, old, isAuthor⟩
      · rw [List.mem_singleton.mp new, noAuthor] at isAuthor
        contradiction
  have applies : ∀ author, completion.author = author → ∀ peer, Endpoint.Reaches
      (Endpoint.flushCandidates
        { device.endpoint with completions := device.endpoint.completions.eraseIdx index }
        author) peer → device.endpoint.Reaches peer := by
    intro author isAuthor peer reached
    rcases reached with applied | ⟨other, inQueue, otherAuthor⟩
    · exact .inr ⟨completion, waiting, isAuthor.trans applied⟩
    · exact .inr ⟨other, erased other inQueue, otherAuthor⟩
  cases result with
  | none =>
      obtain ⟨rfl, -⟩ := Prod.mk.inj handled
      exact build rfl rfl kept
  | some created =>
      cases completion with
      | offerForConstraints | answerForConstraints =>
          obtain ⟨rfl, -⟩ := Prod.mk.inj handled
          exact build rfl rfl fun peer reached => kept peer (started _ _ rfl peer reached)
      | setLocalOffer sdp | setLocalAnswer sdp =>
          obtain ⟨rfl, -⟩ := Prod.mk.inj handled
          exact build rfl rfl kept
      | setRemoteOffer author =>
          obtain ⟨rfl, -⟩ := Prod.mk.inj handled
          exact build rfl rfl fun peer reached =>
            applies author rfl peer (started _ _ rfl peer reached)
      | setRemoteAnswer author =>
          obtain ⟨rfl, -⟩ := Prod.mk.inj handled
          exact build rfl rfl (applies author rfl)

theorem isOpen_of_changeState (client : RTCClient) (state : RTCDataChannelState) :
    (client.dataChannelDidChangeState state).isDataChannelOpen = true → state = .Open := by
  rcases client.dataChannelDidChangeState_cases state with
    ⟨name, ip, role, isOpen, -⟩ | ⟨notOpen, result⟩
  · exact fun _ => isOpen
  · rw [result]
    intro isOpen
    simp [RTCClient.isDataChannelOpen, notOpen] at isOpen

/-- Every input of a client changes choice and channel only in these ways. -/
theorem change_of_step
    (stepped : device.step input = some (next, signals)) :
    device.Change input next := by
  cases input with
  | chooseFile selection =>
      simp only [step, Option.some.injEq, Prod.mk.injEq] at stepped
      obtain ⟨rfl, -⟩ := stepped
      exact ⟨fun pending => .inl ⟨pending, rfl⟩, fun _ => id, fun isOpen => .inl ⟨isOpen, rfl⟩⟩
  | selectRow row =>
      have result := change_of_selectRow device row
      rw [Option.some.inj stepped] at result
      exact result
  | send =>
      have result := change_of_send device
      rw [Option.some.inj stepped] at result
      exact result
  | refreshOnlinePeers | generateIceCandidate =>
      simp only [step, Option.some.injEq, Prod.mk.injEq] at stepped
      obtain ⟨rfl, -⟩ := stepped
      exact .refl device _
  | runMain => exact change_of_runMain stepped
  | complete index result =>
      simp only [step, Option.map_eq_some_iff, Prod.exists, Prod.mk.injEq] at stepped
      obtain ⟨endpoint, sent, completes, rfl, -⟩ := stepped
      exact change_of_complete completes
  | channelState peer state =>
      simp only [step] at stepped
      split at stepped
      case isFalse => contradiction
      case isTrue possible =>
        simp only [Option.some.injEq, Prod.mk.injEq] at stepped
        obtain ⟨rfl, -⟩ := stepped
        refine ⟨fun pending => .inl ⟨pending, rfl⟩, fun _ => id, ?_⟩
        intro isOpen
        have opened : state = .Open := isOpen_of_changeState _ state isOpen
        refine .inr ⟨peer, possible.2.2 opened, ?_⟩
        simp [Endpoint.dataChannelDidChangeState, opened]
  | replacedChannelState state =>
      simp only [step, Option.some.injEq, Prod.mk.injEq] at stepped
      obtain ⟨rfl, -⟩ := stepped
      refine ⟨fun pending => .inl ⟨pending, rfl⟩, fun _ => id, fun isOpen => .inl ⟨?_, rfl⟩⟩
      have sameState :
          (device.endpoint.replacedChannelDidChangeState state).client.readyState =
            device.endpoint.client.readyState := by
        simp only [Endpoint.replacedChannelDidChangeState]
        split
        · rw [RTCClient.sendHello, RTCClient.sendControlJSON_eq]
          rfl
        · rfl
      simpa [isDataChannelOpen, RTCClient.isDataChannelOpen, sameState] using isOpen
  | openDataChannel peer state =>
      simp only [step] at stepped
      split at stepped
      case isFalse => contradiction
      case isTrue reached =>
        simp only [Option.some.injEq, Prod.mk.injEq] at stepped
        obtain ⟨rfl, -⟩ := stepped
        unfold Endpoint.didOpenDataChannel
        split
        · exact .refl device _
        · exact ⟨fun pending => .inl ⟨pending, rfl⟩, fun _ => id,
            fun _ => .inr ⟨peer, reached, rfl⟩⟩
  | transfer input =>
      simp only [step] at stepped
      split at stepped
      case isFalse => contradiction
      case isTrue isTransfer =>
        simp only [Option.map_eq_some_iff, Prod.exists, Prod.mk.injEq] at stepped
        obtain ⟨client, calls, acted, rfl, -⟩ := stepped
        refine .of_client (RTCClient.readyState_of_effect ?_ (RTCClient.effect_of_act acted))
        rintro state rfl
        contradiction

/-- A successful automatic send goes out on the open channel. -/
theorem autoSends_spec (sends : device.autoSends = true) :
    device.pendingAutoSend = true ∧ device.isDataChannelOpen = true := by
  simp only [autoSends, openReported, Bool.and_eq_true] at sends
  refine ⟨sends.1.1, ?_⟩
  have sent := sends.2
  cases url : device.sendableURL with
  | none => simp [url] at sent
  | some fileURL =>
      simp only [url, Option.any_some, RTCClient.sendSucceeds] at sent
      split at sent
      case h_1 client succeeded =>
        obtain ⟨file, isOpen, -⟩ := RTCClient.sendFileAtURL_ok succeeded
        exact isOpen
      case h_2 => contradiction

end Device

/-- What is added to a link was sent by the server. -/
theorem mem_of_sentTo {ws : SocketId} {outputs : List Output} {message : Json}
    {origin : Origin} (sent : (message, origin) ∈ sentTo ws outputs) :
    .sent ws message origin ∈ outputs := by
  obtain ⟨output, member, matched⟩ := List.mem_filterMap.mp sent
  cases output with
  | granted => contradiction
  | sent receiver given source =>
      dsimp only at matched
      split at matched
      case isFalse => contradiction
      case isTrue isReceiver =>
        obtain ⟨rfl, rfl⟩ := Prod.mk.inj (Option.some.inj matched)
        rw [← isReceiver]
        exact member

/-! ## A signal arrives -/

/-- What one round of `receiveSignal` can do, by the type of the signal. `reads`
says which candidates the signal may be read as. -/
inductive SignalEffect (endpoint : Endpoint) (json : Json) (author : Option SocketId)
    (reads : RTCIceCandidate → Prop) : Endpoint → Prop
  | role (isRole : json.stringField? "type" = some "role") :
      SignalEffect endpoint json author reads (endpoint.receiveRole json)
  | peerJoined (isJoined : json.stringField? "type" = some "peer_joined") :
      SignalEffect endpoint json author reads (endpoint.receivePeerJoined json)
  | dispatched (block : MainBlock)
      (isReport : json.stringField? "type" = some "peer_left" ∨
        json.stringField? "type" = some "peers") :
      SignalEffect endpoint json author reads
        { endpoint with client := endpoint.client.dispatchMain block }
  | offer (isOffer : json.stringField? "type" = some "offer") :
      SignalEffect endpoint json author reads
        { endpoint with completions := endpoint.completions ++ [.setRemoteOffer author] }
  | answer (isAnswer : json.stringField? "type" = some "answer") :
      SignalEffect endpoint json author reads
        { endpoint with completions := endpoint.completions ++ [.setRemoteAnswer author] }
  | candidate (candidate : RTCIceCandidate)
      (isCandidate : json.stringField? "type" = some "candidate")
      (read : reads candidate) :
      SignalEffect endpoint json author reads (endpoint.receiveCandidate candidate)
  | ignored
      (notRole : json.stringField? "type" ≠ some "role")
      (notCandidate : json.stringField? "type" ≠ some "candidate") :
      SignalEffect endpoint json author reads endpoint

theorem Endpoint.receiveSignal_effect (endpoint : Endpoint) (json : Json)
    (author : Option SocketId) :
    SignalEffect endpoint json author (· = iceCandidate json)
      (endpoint.receiveSignal json author) := by
  unfold receiveSignal
  dsimp only
  split
  case isTrue isRole => exact .role isRole
  case isFalse notRole =>
    split
    case isTrue isJoined => exact .peerJoined isJoined
    case isFalse =>
      split
      case isTrue isLeft => exact .dispatched _ (.inl isLeft)
      case isFalse =>
        split
        case isTrue isError => exact .ignored notRole (by simp [isError])
        case isFalse =>
          split
          case isTrue isPeers => exact .dispatched _ (.inr isPeers)
          case isFalse =>
            split
            case isTrue isOffer => exact .offer isOffer
            case isFalse =>
              split
              case isTrue isAnswer => exact .answer isAnswer
              case isFalse =>
                split
                case isTrue isCandidate => exact .candidate _ isCandidate rfl
                case isFalse notCandidate => exact .ignored notRole notCandidate

/-- An offer or an answer. -/
def describes (message : Json) : Bool :=
  message.stringField? "type" == some "offer" || message.stringField? "type" == some "answer"

/-- Only an offer or an answer brings a description, and no signal opens a
channel. -/
theorem Endpoint.receiveSignal_change (endpoint : Endpoint) (message : Json)
    (author : Option SocketId) :
    (∀ peer, (endpoint.receiveSignal message author).Reaches peer →
      endpoint.Reaches peer ∨ (describes message = true ∧ author = some peer)) ∧
    ((endpoint.receiveSignal message author).client.isDataChannelOpen = true →
      endpoint.client.isDataChannelOpen = true ∧
        (endpoint.receiveSignal message author).channelPeer = endpoint.channelPeer) := by
  have appended : ∀ (fresh : Completion) (next : Endpoint), next.remote = endpoint.remote →
      next.completions = endpoint.completions ++ [fresh] →
      (∀ peer, fresh.author = some peer → describes message = true ∧ author = some peer) →
      ∀ peer, next.Reaches peer →
        endpoint.Reaches peer ∨ (describes message = true ∧ author = some peer) := by
    intro fresh next sameRemote grown brings peer reached
    rw [Reaches, sameRemote, grown] at reached
    rcases reached with applied | ⟨other, inQueue, otherAuthor⟩
    · exact .inl (.inl applied)
    · rcases List.mem_append.mp inQueue with old | new
      · exact .inl (.inr ⟨other, old, otherAuthor⟩)
      · rw [List.mem_singleton.mp new] at otherAuthor
        exact .inr (brings peer otherAuthor)
  have effect := endpoint.receiveSignal_effect message author
  generalize endpoint.receiveSignal message author = next at effect ⊢
  cases effect with
  | role | dispatched | ignored =>
      exact ⟨fun peer reached => .inl reached, fun isOpen => ⟨isOpen, rfl⟩⟩
  | peerJoined =>
      unfold receivePeerJoined
      dsimp only
      split
      case isTrue =>
        refine ⟨appended .offerForConstraints _ rfl rfl ?_, ?_⟩
        · intro peer noAuthor
          contradiction
        · intro isOpen
          contradiction
      case isFalse => exact ⟨fun peer reached => .inl reached, fun isOpen => ⟨isOpen, rfl⟩⟩
  | offer isOffer =>
      refine ⟨appended (.setRemoteOffer author) _ rfl rfl ?_, fun isOpen => ⟨isOpen, rfl⟩⟩
      intro peer isAuthor
      exact ⟨by simp [describes, isOffer], isAuthor⟩
  | answer isAnswer =>
      refine ⟨appended (.setRemoteAnswer author) _ rfl rfl ?_, fun isOpen => ⟨isOpen, rfl⟩⟩
      intro peer isAuthor
      exact ⟨by simp [describes, isAnswer], isAuthor⟩
  | candidate =>
      unfold receiveCandidate
      split
      · exact ⟨fun peer reached => .inl reached, fun isOpen => ⟨isOpen, rfl⟩⟩
      · exact ⟨fun peer reached => .inl reached, fun isOpen => ⟨isOpen, rfl⟩⟩

/-! ## One action of the system -/

namespace System

/-- The event that an action is for the server. -/
def serverEvent (system : System) : Action → Option Server.Event
  | .server event => some event
  | .process ws => (system.uplink ws).head?.map fun message => .message ws (some message)
  | .receive _ | .act _ _ => none

/-- What the server puts out in an action. -/
def serverOutputs (system : System) (action : Action) : List Output :=
  ((system.serverEvent action).bind system.server.step).elim [] Prod.snd

/-- A client has handled the first of its messages. -/
def received (system : System) (ws : SocketId) (message : Json) (origin : Origin)
    (rest : List (Json × Origin)) : System :=
  { system with
    device := Function.update system.device ws
      { system.device ws with
        endpoint := (system.device ws).endpoint.receiveSignal message (author origin) }
    downlink := Function.update system.downlink ws rest }

/-- What one action does. -/
inductive Effect (system : System) : Action → System → List Output → Prop
  | served (event : Server.Event) (next : Server) (outputs : List Output)
      (notMessage : ∀ ws raw, event ≠ .message ws raw)
      (stepped : system.server.step event = some (next, outputs)) :
      Effect system (.server event) (system.served next outputs) outputs
  | processed (ws : SocketId) (message : Json) (rest : List Json) (next : Server)
      (outputs : List Output)
      (queue : system.uplink ws = message :: rest)
      (stepped : system.server.step (.message ws (some message)) = some (next, outputs)) :
      Effect system (.process ws)
        ({ system with uplink := Function.update system.uplink ws rest }.served next outputs)
        outputs
  | received (ws : SocketId) (message : Json) (origin : Origin)
      (rest : List (Json × Origin))
      (queue : system.downlink ws = (message, origin) :: rest) :
      Effect system (.receive ws) (system.received ws message origin rest) []
  | acted (ws : SocketId) (input : Input) (next : Device) (signals : List Json)
      (known : ws < system.server.connected)
      (stepped : (system.device ws).step input = some (next, signals)) :
      Effect system (.act ws input) (system.acted ws next signals) []

/-- What an action reports: only a client that acts reports anything. -/
def reported (system : System) : Action → List Event
  | .act ws input => system.events ws input
  | .server _ | .process _ | .receive _ => []

theorem effect_of_step {system following : System} {action : Action} {events : List Event}
    (stepped : system.step action = some (following, events)) :
    Effect system action following (system.serverOutputs action) ∧
      events = system.reported action := by
  cases action with
  | server event =>
      simp only [step] at stepped
      split at stepped
      case h_1 => contradiction
      case h_2 notMessage =>
        simp only [Option.map_eq_some_iff, Prod.exists, Prod.mk.injEq] at stepped
        obtain ⟨next, outputs, serverStepped, rfl, rfl⟩ := stepped
        have emitted : system.serverOutputs (.server event) = outputs := by
          simp [serverOutputs, serverEvent, serverStepped]
        rw [emitted]
        exact ⟨.served event next outputs notMessage serverStepped, rfl⟩
  | process ws =>
      simp only [step] at stepped
      split at stepped
      case h_1 => contradiction
      case h_2 message rest queue =>
        simp only [Option.map_eq_some_iff, Prod.exists, Prod.mk.injEq] at stepped
        obtain ⟨next, outputs, serverStepped, rfl, rfl⟩ := stepped
        have emitted : system.serverOutputs (.process ws) = outputs := by
          simp [serverOutputs, serverEvent, queue, serverStepped]
        rw [emitted]
        exact ⟨.processed ws message rest next outputs queue serverStepped, rfl⟩
  | receive ws =>
      simp only [step] at stepped
      split at stepped
      case h_1 => contradiction
      case h_2 message origin rest queue =>
        simp only [Option.some.injEq, Prod.mk.injEq] at stepped
        obtain ⟨rfl, rfl⟩ := stepped
        exact ⟨.received ws message origin rest queue, rfl⟩
  | act ws input =>
      simp only [step] at stepped
      split at stepped
      case isFalse => contradiction
      case isTrue known =>
        simp only [Option.map_eq_some_iff, Prod.exists, Prod.mk.injEq] at stepped
        obtain ⟨next, signals, deviceStepped, rfl, rfl⟩ := stepped
        exact ⟨.acted ws input next signals known deviceStepped, rfl⟩

end System

end Net

end WebrtcFileSender
