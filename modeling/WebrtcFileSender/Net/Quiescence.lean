import WebrtcFileSender.Library.Weight
import WebrtcFileSender.Net.AutoSend
import WebrtcFileSender.Net.Observation

/-!
Contract: a signaling system that is left to itself comes to rest.

A signal brings forth others: a pair request two roles and a timer, the timer a
`peer_joined`, that an offer, the offer an answer, and a reported open channel may bring
forth a pair request.

Owns: the work that a system has before it, which every step by itself lowers, and that a
system without such a step has nothing left to handle.

The server and the clients handle their queues, timers fire, completion handlers are
called with success or an error, and main queues run. The users, the data channels, the
connections and the gathering of candidates are not steps of the system by itself.
-/

namespace WebrtcFileSender.Net

open Signaling Weight

/-! ## Work -/

/-- What the arrival of a message at a client may bring forth. -/
def arrivalWork (message : Json) : Nat :=
  let type := message.stringField? "type"
  if type = some "peer_joined" then 13
  else if type = some "offer" then 8
  else if type = some "answer" ∨ type = some "peer_left" ∨ type = some "peers" then 2
  else 1

/-- What the arrival of a signal at the server may bring forth. A pair request that is
granted sends two roles and arms a timer. -/
def requestWork (message : Json) : Nat :=
  if message.stringField? "type" = some "pair_request" then 17 else arrivalWork message + 2

def timerWork : Nat := 14

def Completion.work : Completion → Nat
  | .offerForConstraints => 12
  | .setLocalOffer _ => 11
  | .setRemoteOffer _ => 7
  | .answerForConstraints => 6
  | .setLocalAnswer _ => 5
  | .setRemoteAnswer _ => 1

/-- A reported open channel may lead to a pair request, a lost connection to a cleanup. -/
def blockWork : MainBlock → Nat
  | .dataChannelStateDidChange .Open => 18
  | .iceConnectionLost => 2
  | .dataChannelStateDidChange _ | .didReceivePeerName _ _ _ | .didUpdateOnlinePeers _
  | .fileReceiveOffered | .fileReceiveProgress _ | .fileSendProgress _ | .cleanup _ _ => 1

def outputWork : Output → Nat
  | .sent _ message _ => arrivalWork message
  | .granted _ _ => 0

def Endpoint.work (endpoint : Endpoint) : Nat :=
  total Completion.work endpoint.completions + total blockWork endpoint.client.mainQueue

theorem arrivalWork_pos (message : Json) : 0 < arrivalWork message := by
  unfold arrivalWork
  dsimp only
  repeat' split
  all_goals decide

theorem arrivalWork_lt_requestWork (message : Json) :
    arrivalWork message + 2 ≤ requestWork message := by
  unfold requestWork
  split
  case isTrue isRequest =>
    have light : arrivalWork message = 1 := by simp [arrivalWork, isRequest]
    omega
  case isFalse => exact Nat.le_refl _

theorem blockWork_pos (block : MainBlock) : 0 < blockWork block := by
  unfold blockWork
  split <;> decide

/-! ## A client -/

/-- Whatever a signal leaves to do weighs less than its arrival. -/
theorem Endpoint.work_receiveSignal (endpoint : Endpoint) (message : Json)
    (author : Option SocketId) :
    (endpoint.receiveSignal message author).work < endpoint.work + arrivalWork message := by
  have positive := arrivalWork_pos message
  unfold receiveSignal
  dsimp only
  split
  case isTrue isRole =>
    exact Nat.lt_add_of_pos_right positive
  case isFalse =>
    split
    case isTrue isJoined =>
      have weight : arrivalWork message = 13 := by simp [arrivalWork, isJoined]
      unfold receivePeerJoined
      dsimp only
      split
      case isTrue =>
        simp only [work, createOffer, total_append, total_cons, total_nil, Completion.work]
        omega
      case isFalse => exact Nat.lt_add_of_pos_right positive
    case isFalse =>
      split
      case isTrue isLeft =>
        have weight : arrivalWork message = 2 := by simp [arrivalWork, isLeft]
        simp only [work, RTCClient.dispatchMain, total_append, total_cons, total_nil, blockWork]
        omega
      case isFalse =>
        split
        case isTrue => exact Nat.lt_add_of_pos_right positive
        case isFalse =>
          split
          case isTrue isPeers =>
            have weight : arrivalWork message = 2 := by simp [arrivalWork, isPeers]
            simp only [work, RTCClient.dispatchMain, total_append, total_cons, total_nil,
              blockWork]
            omega
          case isFalse =>
            split
            case isTrue isOffer =>
              have weight : arrivalWork message = 8 := by simp [arrivalWork, isOffer]
              simp only [work, total_append, total_cons, total_nil, Completion.work]
              omega
            case isFalse =>
              split
              case isTrue isAnswer =>
                have weight : arrivalWork message = 2 := by simp [arrivalWork, isAnswer]
                simp only [work, total_append, total_cons, total_nil, Completion.work]
                omega
              case isFalse =>
                split
                case isTrue =>
                  unfold receiveCandidate
                  split
                  · exact Nat.lt_add_of_pos_right positive
                  · exact Nat.lt_add_of_pos_right positive
                case isFalse => exact Nat.lt_add_of_pos_right positive

/-- Whatever a completion handler starts or sends weighs less than the handler. -/
theorem Endpoint.work_complete {endpoint following : Endpoint} {index : Nat}
    {result : Option String} {signals : List Json}
    (completes : endpoint.complete index result = some (following, signals)) :
    following.work + total requestWork signals < endpoint.work := by
  simp only [complete, Option.map_eq_some_iff] at completes
  obtain ⟨completion, atIndex, handled⟩ := completes
  have taken := total_eraseIdx Completion.work atIndex
  cases result with
  | none =>
      obtain ⟨rfl, rfl⟩ := Prod.mk.inj handled
      have positive : 0 < completion.work := by
        cases completion <;> simp [Completion.work]
      simp only [work, total_nil]
      omega
  | some created =>
      cases completion with
      | offerForConstraints | answerForConstraints =>
          obtain ⟨rfl, rfl⟩ := Prod.mk.inj handled
          simp only [Completion.work] at taken
          simp only [work, total_append, total_cons, total_nil, Completion.work]
          omega
      | setLocalOffer sdp =>
          obtain ⟨rfl, rfl⟩ := Prod.mk.inj handled
          have weight : requestWork (offerMessage sdp) = 10 := rfl
          simp only [Completion.work] at taken
          simp only [work, total_cons, total_nil, weight]
          omega
      | setLocalAnswer sdp =>
          obtain ⟨rfl, rfl⟩ := Prod.mk.inj handled
          have weight : requestWork (answerMessage sdp) = 4 := rfl
          simp only [Completion.work] at taken
          simp only [work, total_cons, total_nil, weight]
          omega
      | setRemoteOffer author =>
          obtain ⟨rfl, rfl⟩ := Prod.mk.inj handled
          simp only [Completion.work] at taken
          simp only [work, flushCandidates, total_append, total_cons, total_nil,
            Completion.work]
          omega
      | setRemoteAnswer author =>
          obtain ⟨rfl, rfl⟩ := Prod.mk.inj handled
          simp only [Completion.work] at taken
          simp only [work, flushCandidates, total_nil]
          omega

namespace Device

variable {device next : Device} {signals : List Json}

theorem work_connect (device : Device) (ip : String) :
    total requestWork (device.connect ip).2 ≤ 17 := by
  simp only [connect, Endpoint.connectToPeerIP]
  split
  · exact Nat.zero_le _
  · exact Nat.le_refl 17

/-- `onSend:` dispatches nothing and sends at most a pair request. -/
theorem work_onSend (sends : device.onSend = (next, signals)) :
    next.endpoint.work = device.endpoint.work ∧ total requestWork signals ≤ 17 := by
  unfold onSend at sends
  split at sends
  case h_1 =>
    obtain ⟨rfl, rfl⟩ := Prod.mk.inj sends
    exact ⟨rfl, Nat.zero_le _⟩
  case h_2 url sendable =>
    split at sends
    case isTrue =>
      split at sends
      case h_1 =>
        obtain ⟨rfl, rfl⟩ := Prod.mk.inj sends
        exact ⟨rfl, Nat.zero_le _⟩
      case h_2 client sent =>
        obtain ⟨rfl, rfl⟩ := Prod.mk.inj sends
        obtain ⟨file, -, -, -, -, -, rfl⟩ := RTCClient.sendFileAtURL_ok sent
        rw [RTCClient.beginSending_eq]
        exact ⟨rfl, Nat.zero_le _⟩
    case isFalse =>
      split at sends
      case h_1 =>
        obtain ⟨rfl, rfl⟩ := Prod.mk.inj sends
        exact ⟨rfl, Nat.zero_le _⟩
      case h_2 target chosen =>
        obtain ⟨rfl, rfl⟩ := Prod.mk.inj sends
        exact ⟨rfl, device.work_connect target⟩

theorem work_runMain (ran : device.runMain = some (next, signals)) :
    next.endpoint.work + total requestWork signals < device.endpoint.work := by
  simp only [runMain, RTCClient.act, Option.map_eq_some_iff, Prod.exists] at ran
  obtain ⟨client, calls, acted, handled⟩ := ran
  split at acted
  case h_1 => contradiction
  case h_2 block rest queue =>
    have weight : device.endpoint.work =
        total Completion.work device.endpoint.completions + (blockWork block +
          total blockWork rest) := by
      rw [Endpoint.work, queue, total_cons]
    have positive := blockWork_pos block
    have result := Option.some.inj acted
    cases block with
    | dataChannelStateDidChange state =>
        obtain ⟨rfl, rfl⟩ := Prod.mk.inj result
        simp only [handleAll, handle, dataChannelStateDidChange, List.append_nil] at handled
        split at handled
        case isTrue opened =>
          obtain ⟨rfl, -⟩ := opened
          obtain ⟨sameWork, light⟩ := work_onSend handled
          have heavy : blockWork (.dataChannelStateDidChange .Open) = 18 := rfl
          rw [sameWork, weight, heavy]
          simp only [clearPending, Endpoint.work]
          omega
        case isFalse =>
          obtain ⟨rfl, rfl⟩ := Prod.mk.inj handled
          simp only [Endpoint.work, total_nil] at weight ⊢
          omega
    | iceConnectionLost =>
        obtain ⟨rfl, rfl⟩ := Prod.mk.inj result
        simp only [handleAll, handle, dataChannelStateDidChange, reduceCtorEq, false_and,
          if_false] at handled
        obtain ⟨rfl, rfl⟩ := Prod.mk.inj handled
        have heavy : blockWork .iceConnectionLost = 2 := rfl
        rw [weight, heavy]
        simp only [Endpoint.work]
        split
        · simp only [RTCClient.cleanupTransferWithError, RTCClient.dispatchMain, total_append,
            total_cons, total_nil, blockWork]
          omega
        · simp only [total_append, total_nil]
          omega
    | cleanup | didReceivePeerName | didUpdateOnlinePeers | fileReceiveOffered
    | fileReceiveProgress | fileSendProgress =>
        obtain ⟨rfl, rfl⟩ := Prod.mk.inj result
        simp only [handleAll, handle] at handled
        obtain ⟨rfl, rfl⟩ := Prod.mk.inj handled
        simp only [Endpoint.work, RTCClient.resetTransfer, applyOnlinePeers, List.append_nil,
          total_nil] at weight ⊢
        omega

end Device

/-! ## The server -/

/-- The socket that an output is sent to. -/
def address : Output → Option SocketId
  | .sent receiver _ _ => some receiver
  | .granted _ _ => none

theorem total_sentTo (ws : SocketId) (outputs : List Output) :
    total (fun sent => arrivalWork sent.1) (sentTo ws outputs) =
      total outputWork (outputs.filter fun output => address output = some ws) := by
  induction outputs with
  | nil => rfl
  | cons output rest inductionHypothesis =>
      cases output with
      | granted => simpa [sentTo, address] using inductionHypothesis
      | sent receiver message origin =>
          by_cases same : receiver = ws
          · simpa [sentTo, address, same, outputWork] using inductionHypothesis
          · simpa [sentTo, address, same] using inductionHypothesis

theorem outputWork_send_le (server : Server) (ws : SocketId) (message : Json)
    (origin : Origin) :
    total outputWork (server.send ws message origin) ≤ arrivalWork message := by
  unfold Server.send
  split
  · simp [outputWork]
  · simp

/-- The server sends only to sockets that are open afterwards. -/
theorem open_of_sent {server next : Server} {event : Server.Event} {outputs : List Output}
    (stepped : server.step event = some (next, outputs))
    {receiver : SocketId} {message : Json} {origin : Origin}
    (sent : .sent receiver message origin ∈ outputs) :
    next.readyState receiver = .OPEN := by
  have direct : ∀ {server : Server} {ws : SocketId} {given : Json} {author : Origin},
      .sent receiver message origin ∈ server.send ws given author →
      server.readyState receiver = .OPEN := by
    intro server ws given author member
    unfold Server.send at member
    split at member
    case isTrue isOpen =>
      obtain ⟨rfl, -⟩ := Output.sent.inj (List.mem_singleton.mp member)
      exact isOpen
    case isFalse => contradiction
  have broadcast : ∀ {server : Server},
      .sent receiver message origin ∈ server.broadcastPeerLists →
      server.readyState receiver = .OPEN := by
    intro server member
    obtain ⟨entry, -, listed⟩ := List.mem_flatMap.mp member
    exact direct listed
  cases Server.effect_of_step stepped with
  | connected => exact broadcast sent
  | granted ws targetWs =>
      rw [Server.grant_outputs, List.append_assoc] at sent
      rcases List.mem_append.mp sent with isGrant | told
      · simp at isGrant
      · rcases List.mem_append.mp told with toRequester | toTarget
        · exact direct toRequester
        · exact direct toTarget
  | refused | listed => exact direct sent
  | ignored | closing => contradiction
  | relayed ws partner p alive relayable paired partnerOpen =>
      obtain ⟨rfl, -⟩ := Output.sent.inj (List.mem_singleton.mp sent)
      exact partnerOpen
  | closed ws =>
      obtain ⟨notice, outputs, told⟩ := server.onClose_outputs ws
      rw [outputs] at sent
      rcases List.mem_append.mp sent with noticed | listed
      · rcases told with rfl | ⟨partner, rfl⟩
        · contradiction
        · exact direct noticed
      · exact broadcast listed
  | fired => exact direct sent

/-- Whatever the server sends and arms for a signal weighs less than the signal. -/
theorem work_message {server next : Server} {ws : SocketId} {message : Json}
    {outputs : List Output}
    (stepped : server.step (.message ws (some message)) = some (next, outputs)) :
    next.connected = server.connected ∧
      total outputWork outputs + timerWork * next.timers.length <
        requestWork message + timerWork * server.timers.length := by
  have heavier := arrivalWork_lt_requestWork message
  have positive := arrivalWork_pos message
  cases Server.effect_of_step stepped with
  | granted _ targetWs p alive target alone targetAlone notRelayed asked =>
      have weight : requestWork message = 17 := by simp [requestWork, asked]
      have toRequester := outputWork_send_le server ws
        (Server.offererMessage (server.clientIP ws)) .server
      have toTarget := outputWork_send_le server targetWs
        (Server.answererMessage (server.clientIP targetWs) (server.clientIP ws)) .server
      have offererWeight : ∀ selfIP, arrivalWork (Server.offererMessage selfIP) = 1 :=
        fun _ => rfl
      have answererWeight : ∀ selfIP peerIP,
          arrivalWork (Server.answererMessage selfIP peerIP) = 1 := fun _ _ => rfl
      rw [offererWeight] at toRequester
      rw [answererWeight] at toTarget
      refine ⟨rfl, ?_⟩
      rw [Server.grant_outputs]
      simp only [total_append, total_cons, total_nil, outputWork, Server.grant,
        List.length_append, List.length_singleton, timerWork]
      omega
  | refused _ p reason =>
      have light := outputWork_send_le server ws (Server.errorMessage reason) .server
      have errorWeight : arrivalWork (Server.errorMessage reason) = 1 := rfl
      refine ⟨rfl, ?_⟩
      omega
  | listed =>
      have light := outputWork_send_le server ws
        (Server.peersMessage (server.buildPeerListFor ws)) .server
      have listWeight : ∀ entries, arrivalWork (Server.peersMessage entries) = 2 :=
        fun _ => rfl
      rw [listWeight] at light
      refine ⟨rfl, ?_⟩
      simp only [Server.sendPeerList]
      omega
  | ignored =>
      refine ⟨rfl, ?_⟩
      rw [total_nil]
      omega
  | relayed _ partner p =>
      refine ⟨rfl, ?_⟩
      rw [total_cons, total_nil, outputWork]
      omega

theorem work_timeout {server next : Server} {index : Nat} {outputs : List Output}
    (stepped : server.step (.timeout index) = some (next, outputs)) :
    next.connected = server.connected ∧
      total outputWork outputs + timerWork * next.timers.length <
        timerWork * server.timers.length := by
  cases Server.effect_of_step stepped with
  | fired _ timer armed =>
      have light := outputWork_send_le server timer.ws
        (Server.peerJoinedMessage (server.clientIP timer.targetWs)) .server
      have joinedWeight : ∀ peerIP, arrivalWork (Server.peerJoinedMessage peerIP) = 13 :=
        fun _ => rfl
      rw [joinedWeight] at light
      have bounded := (List.getElem?_eq_some_iff.mp armed).1
      refine ⟨rfl, ?_⟩
      simp only [Server.onTimeout, List.length_eraseIdx_of_lt bounded, timerWork]
      omega

/-! ## The system -/

namespace System

variable {system following start final : System} {action : Action} {actions : List Action}
  {events : List Event} {helloName : SocketId → String}

/-- The work at one client and on its two links. -/
def workAt (system : System) (ws : SocketId) : Nat :=
  total requestWork (system.uplink ws) +
    total (fun sent => arrivalWork sent.1) (system.downlink ws) +
    (system.device ws).endpoint.work

def work (system : System) : Nat :=
  ∑ ws ∈ Finset.range system.server.connected, system.workAt ws +
    timerWork * system.server.timers.length

/-- A step that no user, connection or data channel makes. -/
def Internal (_ : System) : Action → Prop
  | .process _ | .receive _ | .server (.timeout _) | .act _ .runMain
  | .act _ (.complete _ _) => True
  | .server (.connection _ _) | .server (.message _ _) | .server (.closing _)
  | .server (.close _) | .act _ (.chooseFile _) | .act _ (.selectRow _) | .act _ .send
  | .act _ .refreshOnlinePeers | .act _ (.generateIceCandidate _) | .act _ (.channelState _ _)
  | .act _ (.replacedChannelState _) | .act _ (.openDataChannel _ _)
  | .act _ (.transfer _) => False

/-- Nothing is on the way to a socket that has not connected. -/
structure Contained (system : System) : Prop where
  pairing : PairingInvariant system.server
  downlink : ∀ ws, system.server.connected ≤ ws → system.downlink ws = []

theorem Contained.initial (helloName : SocketId → String) : (initial helloName).Contained :=
  ⟨.initial, fun _ _ => rfl⟩

theorem Contained.known (contained : system.Contained) {ws : SocketId}
    (present : system.server.readyState ws ≠ .CLOSED) : ws < system.server.connected := by
  by_contra beyond
  exact present (contained.pairing.unconnected (Nat.not_lt.mp beyond))

theorem Contained.served (contained : system.Contained) {event : Server.Event}
    {next : Server} {outputs : List Output}
    (stepped : system.server.step event = some (next, outputs)) :
    (system.served next outputs).Contained := by
  have pairing := contained.pairing.step stepped
  refine ⟨pairing, ?_⟩
  intro ws beyond
  have before := contained.downlink ws
    (Nat.le_trans (Server.connected_mono_step stepped) beyond)
  simp only [System.served, before, List.nil_append]
  apply List.eq_nil_iff_forall_not_mem.mpr
  intro arrived sent
  have isOpen := open_of_sent stepped (mem_of_sentTo sent)
  rw [pairing.unconnected beyond] at isOpen
  contradiction

theorem Contained.step (contained : system.Contained)
    (stepped : system.step action = some (following, events)) : following.Contained := by
  cases (effect_of_step stepped).1 with
  | served event next outputs notMessage serverStepped =>
      exact contained.served serverStepped
  | processed ws message rest next outputs queue serverStepped =>
      have unsent : Contained
          { system with uplink := Function.update system.uplink ws rest } :=
        ⟨contained.pairing, contained.downlink⟩
      exact unsent.served serverStepped
  | received ws message origin rest queue =>
      refine ⟨contained.pairing, ?_⟩
      intro other beyond
      have before := contained.downlink other beyond
      by_cases same : other = ws
      · subst same
        rw [before] at queue
        contradiction
      · simpa [System.received, Function.update_of_ne same] using before
  | acted => exact ⟨contained.pairing, contained.downlink⟩

/-! ## Every step lowers the work -/

/-- A step of the server adds what it sends. -/
theorem work_served (system : System) (next : Server) (outputs : List Output)
    (sameSockets : next.connected = system.server.connected) :
    (system.served next outputs).work ≤
      ∑ ws ∈ Finset.range system.server.connected, system.workAt ws +
        total outputWork outputs + timerWork * next.timers.length := by
  have addressed := sum_addressed_le outputWork system.server.connected address outputs
  have each : ∀ ws, (system.served next outputs).workAt ws = system.workAt ws +
      total outputWork (outputs.filter fun output => address output = some ws) := by
    intro ws
    rw [← total_sentTo]
    simp only [workAt, System.served, total_append]
    omega
  simp only [work, each, Finset.sum_add_distrib]
  simp only [System.served, sameSockets]
  omega

theorem work_processed {ws : SocketId} {message : Json} {rest : List Json} {next : Server}
    {outputs : List Output}
    (contained : system.Contained)
    (queue : system.uplink ws = message :: rest)
    (stepped : system.server.step (.message ws (some message)) = some (next, outputs)) :
    ({ system with uplink := Function.update system.uplink ws rest }.served next outputs).work <
      system.work := by
  obtain ⟨sameSockets, lower⟩ := work_message stepped
  have alive : system.server.readyState ws ≠ .CLOSED := by
    intro isClosed
    simp [Server.step, isClosed] at stepped
  have same : ∀ other, other ≠ ws →
      workAt { system with uplink := Function.update system.uplink ws rest } other =
        system.workAt other := by
    intro other others
    simp only [workAt, Function.update_of_ne others]
  have changed := sum_changed (contained.known alive) same
  have here : workAt { system with uplink := Function.update system.uplink ws rest } ws +
      requestWork message = system.workAt ws := by
    simp only [workAt, Function.update_self, queue, total_cons]
    omega
  have bounded := work_served { system with uplink := Function.update system.uplink ws rest }
    next outputs sameSockets
  simp only [work] at bounded ⊢
  omega

/-- One client has changed and has less work. -/
theorem work_changed {ws : SocketId} (known : ws < system.server.connected)
    (sameServer : following.server = system.server)
    (same : ∀ other, other ≠ ws → following.workAt other = system.workAt other)
    (lower : following.workAt ws < system.workAt ws) :
    following.work < system.work := by
  have changed := sum_changed known same
  rw [work, work, sameServer]
  omega

theorem work_received {ws : SocketId} {message : Json} {origin : Origin}
    {rest : List (Json × Origin)}
    (contained : system.Contained)
    (queue : system.downlink ws = (message, origin) :: rest) :
    (system.received ws message origin rest).work < system.work := by
  have lower := (system.device ws).endpoint.work_receiveSignal message (author origin)
  have known : ws < system.server.connected := by
    by_contra beyond
    rw [contained.downlink ws (Nat.not_lt.mp beyond)] at queue
    contradiction
  refine work_changed known rfl ?_ ?_
  · intro other others
    simp only [workAt, System.received, Function.update_of_ne others]
  · simp only [workAt, System.received, Function.update_self, queue, total_cons]
    omega

theorem work_acted {ws : SocketId} {next : Device} {signals : List Json}
    (known : ws < system.server.connected)
    (lower : next.endpoint.work + total requestWork signals <
      (system.device ws).endpoint.work) :
    (system.acted ws next signals).work < system.work := by
  refine work_changed known rfl ?_ ?_
  · intro other others
    simp only [workAt, System.acted, Function.update_of_ne others]
  · simp only [workAt, System.acted, Function.update_self, total_append]
    omega

theorem work_lowers (contained : system.Contained) (internal : Internal system action)
    (stepped : system.step action = some (following, events)) :
    following.work < system.work := by
  have effect := (effect_of_step stepped).1
  generalize system.serverOutputs action = outputs at effect
  cases effect with
  | served event next outputs notMessage serverStepped =>
      cases event with
      | timeout index =>
          obtain ⟨sameSockets, lower⟩ := work_timeout serverStepped
          have bounded := system.work_served next outputs sameSockets
          simp only [work] at bounded ⊢
          omega
      | connection | message | closing | close => exact internal.elim
  | processed ws message rest next outputs queue serverStepped =>
      exact work_processed contained queue serverStepped
  | received ws message origin rest queue => exact work_received contained queue
  | acted ws input next signals known deviceStepped =>
      apply work_acted known
      cases input with
      | runMain => exact Device.work_runMain deviceStepped
      | complete index result =>
          simp only [Device.step, Option.map_eq_some_iff, Prod.exists, Prod.mk.injEq]
            at deviceStepped
          obtain ⟨endpoint, sent, completes, rfl, rfl⟩ := deviceStepped
          exact Endpoint.work_complete completes
      | chooseFile | selectRow | send | refreshOnlinePeers | generateIceCandidate
      | channelState | replacedChannelState | openDataChannel | transfer =>
          exact internal.elim

/-! ## What is possible -/

/-- Nothing is left to handle. What a client sent before it closed is never read. -/
structure Settled (system : System) : Prop where
  timers : system.server.timers = []
  uplink : ∀ ws, system.server.readyState ws ≠ .CLOSED → system.uplink ws = []
  downlink : ∀ ws, system.downlink ws = []
  completions : ∀ ws, ws < system.server.connected →
    (system.device ws).endpoint.completions = []
  mainQueue : ∀ ws, ws < system.server.connected →
    (system.device ws).endpoint.client.mainQueue = []

/-- A completion handler is called with success. -/
def Succeeds (_ : System) : Action → Prop
  | .act _ (.complete _ result) => result.isSome = true
  | _ => True

/-- The system by itself, with no completion handler that fails. -/
def Driven (system : System) (action : Action) : Prop :=
  Internal system action ∧ Succeeds system action

theorem step_timeout {timer : Timer} {rest : List Timer}
    (armed : system.server.timers = timer :: rest) :
    (system.step (.server (.timeout 0))).isSome = true := by
  simp [step, Server.step, armed]

theorem step_process {ws : SocketId} {message : Json} {rest : List Json}
    (alive : system.server.readyState ws ≠ .CLOSED)
    (queue : system.uplink ws = message :: rest) :
    (system.step (.process ws)).isSome = true := by
  simp [step, queue, Server.step, alive]

theorem step_receive {ws : SocketId} {arrived : Json × Origin} {rest : List (Json × Origin)}
    (queue : system.downlink ws = arrived :: rest) :
    (system.step (.receive ws)).isSome = true := by
  simp [step, queue]

theorem step_complete {ws : SocketId} {completion : Completion} {rest : List Completion}
    (known : ws < system.server.connected)
    (waiting : (system.device ws).endpoint.completions = completion :: rest) (sdp : String) :
    (system.step (.act ws (.complete 0 (some sdp)))).isSome = true := by
  simp [step, known, Device.step, Endpoint.complete, waiting]

theorem step_runMain {ws : SocketId} {block : MainBlock} {rest : List MainBlock}
    (known : ws < system.server.connected)
    (queue : (system.device ws).endpoint.client.mainQueue = block :: rest) :
    (system.step (.act ws .runMain)).isSome = true := by
  simp [step, known, Device.step, Device.runMain, RTCClient.act, queue]

/-- A system that has something left to handle has a step by itself, and one in which no
completion handler fails. -/
theorem exists_step_of_not_settled (restless : ¬ Settled system) :
    ∃ action, Internal system action ∧ Succeeds system action ∧
      (system.step action).isSome = true := by
  by_contra stuck
  push Not at stuck
  apply restless
  constructor
  case timers =>
    cases armed : system.server.timers with
    | nil => rfl
    | cons timer rest => exact absurd (step_timeout armed) (stuck _ trivial trivial)
  case uplink =>
    intro ws alive
    cases queue : system.uplink ws with
    | nil => rfl
    | cons message rest => exact absurd (step_process alive queue) (stuck _ trivial trivial)
  case downlink =>
    intro ws
    cases queue : system.downlink ws with
    | nil => rfl
    | cons arrived rest => exact absurd (step_receive queue) (stuck _ trivial trivial)
  case completions =>
    intro ws known
    cases waiting : (system.device ws).endpoint.completions with
    | nil => rfl
    | cons completion rest =>
        exact absurd (step_complete known waiting "sdp") (stuck _ trivial rfl)
  case mainQueue =>
    intro ws known
    cases queue : (system.device ws).endpoint.client.mainQueue with
    | nil => rfl
    | cons block rest => exact absurd (step_runMain known queue) (stuck _ trivial trivial)

theorem Settled.stuck (settled : Settled system) (internal : Internal system action) :
    system.step action = none := by
  cases action with
  | server event =>
      cases event with
      | timeout index => simp [step, Server.step, settled.timers]
      | connection | message | closing | close => exact internal.elim
  | process ws =>
      by_cases alive : system.server.readyState ws = .CLOSED
      · cases queue : system.uplink ws with
        | nil => simp [step, queue]
        | cons message rest => simp [step, queue, Server.step, alive]
      · simp [step, settled.uplink ws alive]
  | receive ws => simp [step, settled.downlink ws]
  | act ws input =>
      by_cases known : ws < system.server.connected
      · cases input with
        | runMain =>
            simp [step, Device.step, Device.runMain, RTCClient.act,
              settled.mainQueue ws known]
        | complete index result =>
            simp [step, Device.step, Endpoint.complete, settled.completions ws known]
        | chooseFile | selectRow | send | refreshOnlinePeers | generateIceCandidate
        | channelState | replacedChannelState | openDataChannel | transfer =>
            exact internal.elim
      · simp [step, known]

theorem settled_iff :
    (∀ action, Internal system action → system.step action = none) ↔ Settled system := by
  constructor
  · intro stuck
    by_contra restless
    obtain ⟨action, internal, -, enabled⟩ := exists_step_of_not_settled restless
    rw [stuck action internal] at enabled
    contradiction
  · intro settled action
    exact settled.stuck

/-- A system in which everybody does what is left to do gets done with it. -/
theorem Contained.exists_settled (contained : system.Contained) :
    ∃ actions events final,
      Machine.Run System.step Driven system actions events final ∧ Settled final := by
  obtain ⟨actions, events, final, run, stuck⟩ : ∃ actions events final,
      Machine.Run System.step (fun system action => system.Contained ∧ Driven system action)
        system actions events final ∧
      ∀ action, final.Contained ∧ Driven final action → final.step action = none :=
    Machine.Run.exists_stuck work
      (fun allowed stepped => work_lowers allowed.1 allowed.2.1 stepped) system
  have reached : final.Contained := run.state_invariant Contained contained
    fun holds _ stepped => holds.step stepped
  refine ⟨actions, events, final, run.mono fun _ _ allowed => allowed.2, ?_⟩
  by_contra restless
  obtain ⟨action, internal, succeeds, enabled⟩ := exists_step_of_not_settled restless
  rw [stuck action ⟨reached, internal, succeeds⟩] at enabled
  contradiction

/-- **A signaling system that is left to itself comes to rest.** From every state that the
server and its clients can reach, in whatever order queues are handled, timers fire, main
queues run and completion handlers are called, with success or not: no more steps are
possible than the work of the state, no step is possible exactly when nothing is left to
handle, and from every state on the way the system can get there. -/
theorem signaling_comes_to_rest {past : List Action} {pastEvents : List Event}
    (reached : SystemRun helloName Machine.free past pastEvents start)
    (run : Machine.Run System.step Internal start actions events final) :
    actions.length ≤ start.work ∧
      ((∀ action, Internal final action → final.step action = none) ↔ Settled final) ∧
      ∃ later more settled,
        Machine.Run System.step Internal final later more settled ∧ Settled settled := by
  have contained : start.Contained := reached.state_invariant Contained (.initial helloName)
    fun holds _ stepped => holds.step stepped
  obtain ⟨containedFinal, within⟩ := run.within Contained contained
    fun holds _ stepped => holds.step stepped
  refine ⟨?_, settled_iff, ?_⟩
  · have bounded := within.length_le work fun allowed stepped =>
      work_lowers allowed.1 allowed.2 stepped
    omega
  · obtain ⟨later, more, settled, onward, rests⟩ := containedFinal.exists_settled
    exact ⟨later, more, settled, onward.mono fun _ _ allowed => allowed.1, rests⟩

/-- The first client asks for the second. The server handles the request, and the system
can be run to its rest. -/
theorem signaling_comes_to_rest_requested :
    ∃ past start events final,
      SystemRun (fun _ => "mac#001") Machine.free (gathered ++ [.act 0 (.selectRow (some 0))])
        past start ∧
      Machine.Run System.step Internal start [.process 0] events final ∧
      1 ≤ start.work ∧
      ∃ later more settled,
        Machine.Run System.step Internal final later more settled ∧ Settled settled := by
  obtain ⟨start, past, reached, enabled⟩ :
      ∃ start past, SystemRun (fun _ => "mac#001") Machine.free
          (gathered ++ [.act 0 (.selectRow (some 0))]) past start ∧
        (start.step (.process 0)).isSome = true :=
    Machine.run_of_exec_any (fun (start : System) _ => (start.step (.process 0)).isSome)
      (by decide)
  obtain ⟨⟨final, events⟩, stepped⟩ := Option.isSome_iff_exists.mp enabled
  have run : Machine.Run System.step Internal start [.process 0] events final :=
    .single trivial stepped
  obtain ⟨bounded, -, rests⟩ := signaling_comes_to_rest reached run
  exact ⟨past, start, events, final, reached, run, bounded, rests⟩

end System

end WebrtcFileSender.Net
