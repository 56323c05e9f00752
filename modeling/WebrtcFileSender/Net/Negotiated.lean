import WebrtcFileSender.Net.Exchange
import WebrtcFileSender.Net.Quiescence
import WebrtcFileSender.Net.Roles

/-!
Contract: two clients that are paired for the first time carry their negotiation through.

Owns: the exchange that two clients of a system make, as the system sees it, that the
system simulates the exchange whatever all other clients do, and the theorem that an
undisturbed pair always ends up connected: each with its role, with the description of
the other, and with every candidate of the other in order.

A pair is disturbed when one of its sockets closes or one of its completion handlers
reports an error.
-/

namespace WebrtcFileSender.Net

open Signaling Weight

/-! ## Signals -/

/-- The message of the exchange that a text is, when it comes from `author`. -/
def signal? (author : Option SocketId) (message : Json) : Option Signal :=
  let type := message.stringField? "type"
  if type = some "role" then some (.role (namesOfferer message))
  else if type = some "peer_joined" then some .joined
  else if type = some "offer" then some (.offer author)
  else if type = some "answer" then some (.answer author)
  else if type = some "candidate" then some (.candidate (Endpoint.iceCandidate message))
  else none

/-- A client with its two links as a party of the exchange. -/
def Endpoint.party (endpoint : Endpoint) (sending arriving : List Signal) : Party where
  toNegotiation := endpoint.negotiation
  remote := endpoint.remote
  sending := sending
  arriving := arriving

namespace Endpoint

variable {endpoint following : Endpoint} {sending arriving : List Signal}

theorem party_receivePeerJoined (endpoint : Endpoint) (message : Json)
    (sending arriving : List Signal) :
    (endpoint.receivePeerJoined message).party sending arriving =
      (endpoint.party sending arriving).receive .joined := by
  unfold receivePeerJoined Party.receive
  dsimp only
  split
  case isTrue offers =>
    have offerer : endpoint.client.isOfferer = true := offers
    simp only [party, negotiation, createOffer, offerer, if_true]
  case isFalse answers =>
    have answerer : endpoint.client.isOfferer = false := Bool.eq_false_iff.mpr answers
    simp only [party, negotiation, answerer, Bool.false_eq_true, if_false]

theorem party_receiveCandidate (endpoint : Endpoint) (candidate : RTCIceCandidate)
    (sending arriving : List Signal) :
    (endpoint.receiveCandidate candidate).party sending arriving =
      (endpoint.party sending arriving).receive (.candidate candidate) := by
  unfold receiveCandidate Party.receive
  dsimp only
  split
  case isTrue described => simp only [party, negotiation, described, if_true]
  case isFalse undescribed =>
    have notDescribed : endpoint.client.hasRemoteDescription = false :=
      Bool.eq_false_iff.mpr undescribed
    simp only [party, negotiation, notDescribed, Bool.false_eq_true, if_false]

/-- A client handles a text as the party handles its signal. -/
theorem party_receiveSignal (endpoint : Endpoint) (message : Json)
    (author : Option SocketId) (sending arriving : List Signal) :
    (endpoint.receiveSignal message author).party sending arriving =
      (signal? author message).elim (endpoint.party sending arriving)
        (endpoint.party sending arriving).receive := by
  by_cases isRole : message.stringField? "type" = some "role"
  · simp only [receiveSignal, signal?, isRole, if_true, Option.elim]
    rfl
  by_cases isJoined : message.stringField? "type" = some "peer_joined"
  · simp [receiveSignal, signal?, isJoined, party_receivePeerJoined]
  by_cases isLeft : message.stringField? "type" = some "peer_left"
  · simp [receiveSignal, signal?, isLeft, party, negotiation, RTCClient.dispatchMain]
  by_cases isPeers : message.stringField? "type" = some "peers"
  · simp [receiveSignal, signal?, isPeers, party, negotiation, RTCClient.dispatchMain]
  by_cases isOffer : message.stringField? "type" = some "offer"
  · simp [receiveSignal, signal?, isOffer, party, negotiation, Party.receive]
  by_cases isAnswer : message.stringField? "type" = some "answer"
  · simp [receiveSignal, signal?, isAnswer, party, negotiation, Party.receive]
  by_cases isCandidate : message.stringField? "type" = some "candidate"
  · simp [receiveSignal, signal?, isCandidate, party_receiveCandidate]
  · simp [receiveSignal, signal?, isRole, isJoined, isLeft, isPeers, isOffer, isAnswer,
      isCandidate]

/-- A candidate survives its way through a text. -/
theorem iceCandidate_candidateMessage (candidate : RTCIceCandidate) :
    iceCandidate (candidateMessage candidate) = candidate := by
  have index : intValue (some (.num candidate.sdpMLineIndex 0)) = candidate.sdpMLineIndex := by
    simp [intValue]
  show RTCIceCandidate.mk candidate.sdp (intValue (some (.num candidate.sdpMLineIndex 0)))
    candidate.sdpMid = candidate
  rw [index]

/-- A completion handler that succeeds does what the party does. -/
theorem party_complete {index : Nat} {created : String} {signals : List Json}
    (completes : endpoint.complete index (some created) = some (following, signals))
    (self : SocketId) :
    ∃ completion, endpoint.completions[index]? = some completion ∧
      following.party (sending ++ signals.filterMap (signal? (some self))) arriving =
        Party.completed { endpoint.party sending arriving with
          completions := endpoint.completions.eraseIdx index } self created completion := by
  simp only [complete, Option.map_eq_some_iff] at completes
  obtain ⟨completion, atIndex, handled⟩ := completes
  refine ⟨completion, atIndex, ?_⟩
  cases completion with
  | offerForConstraints | setRemoteOffer | answerForConstraints | setRemoteAnswer =>
      obtain ⟨rfl, rfl⟩ := Prod.mk.inj handled
      simp only [List.filterMap_nil, List.append_nil]
      rfl
  | setLocalOffer | setLocalAnswer =>
      obtain ⟨rfl, rfl⟩ := Prod.mk.inj handled
      rfl

end Endpoint

namespace Device

variable {device next : Device} {input : Input} {signals : List Json}

theorem onSend_remote (device : Device) :
    device.onSend.1.endpoint.remote = device.endpoint.remote := by
  rcases device.onSend_cases with same | ⟨client, sent, -⟩ | ⟨key, -, connects⟩
  · rw [same]
  · rw [sent]
    rfl
  · rw [connects]
    rfl

theorem handleAll_remote (device : Device) (calls : List DelegateCall) :
    (device.handleAll calls).1.endpoint.remote = device.endpoint.remote := by
  induction calls generalizing device with
  | nil => rfl
  | cons call rest inductionHypothesis =>
      have later := inductionHypothesis (device.handle call).1
      simp only [handleAll]
      rw [later]
      cases call with
      | dataChannelStateDidChange state =>
          simp only [handle, dataChannelStateDidChange]
          split
          · exact device.clearPending.onSend_remote
          · rfl
      | didUpdateOnlinePeers | didReceivePeerName | fileReceiveOffered | fileReceiveProgress
      | fileSendProgress | fileTransferDidFinish => rfl

/-- Only completion handlers apply a remote description. -/
theorem remote_of_step
    (stepped : device.step input = some (next, signals))
    (notCompletion : ∀ index result, input ≠ .complete index result) :
    next.endpoint.remote = device.endpoint.remote := by
  cases input with
  | chooseFile | refreshOnlinePeers | generateIceCandidate | replacedChannelState =>
      simp only [step, Option.some.injEq, Prod.mk.injEq] at stepped
      obtain ⟨rfl, -⟩ := stepped
      rfl
  | selectRow row =>
      simp only [step, Option.some.injEq] at stepped
      have same : (device.tableViewSelectionDidChange row).1.endpoint.remote =
          device.endpoint.remote := by
        unfold tableViewSelectionDidChange
        dsimp only
        split
        · rfl
        · unfold onSelectPeerIP
          split <;> rfl
      rw [stepped] at same
      exact same
  | send =>
      simp only [step, Option.some.injEq] at stepped
      have same := device.onSend_remote
      rw [stepped] at same
      exact same
  | runMain =>
      simp only [step, runMain, Option.map_eq_some_iff, Prod.exists] at stepped
      obtain ⟨client, calls, -, handled⟩ := stepped
      have same := handleAll_remote (device.withClient client) calls
      have result : ((device.withClient client).handleAll calls).1 = next :=
        congrArg Prod.fst handled
      rw [result] at same
      exact same
  | complete index result => exact absurd rfl (notCompletion index result)
  | channelState peer state =>
      simp only [step] at stepped
      split at stepped
      case isFalse => contradiction
      case isTrue =>
        simp only [Option.some.injEq, Prod.mk.injEq] at stepped
        obtain ⟨rfl, -⟩ := stepped
        rfl
  | openDataChannel peer state =>
      simp only [step] at stepped
      split at stepped
      case isFalse => contradiction
      case isTrue =>
        simp only [Option.some.injEq, Prod.mk.injEq] at stepped
        obtain ⟨rfl, -⟩ := stepped
        unfold Endpoint.didOpenDataChannel
        split <;> rfl
  | transfer given =>
      simp only [step] at stepped
      split at stepped
      case isFalse => contradiction
      case isTrue =>
        simp only [Option.map_eq_some_iff, Prod.exists, Prod.mk.injEq] at stepped
        obtain ⟨client, calls, -, rfl, -⟩ := stepped
        rfl

end Device

/-! ## What the server sends to a party -/

/-- The signals that `ws` is sent. -/
def signalsTo (ws : SocketId) (outputs : List Output) : List Signal :=
  (sentTo ws outputs).filterMap fun sent => signal? (author sent.2) sent.1

theorem signalsTo_append (ws : SocketId) (left right : List Output) :
    signalsTo ws (left ++ right) = signalsTo ws left ++ signalsTo ws right := by
  simp [signalsTo, sentTo]

/-- A message that is no signal. -/
def Silent : Output → Prop
  | .sent _ message origin => signal? (author origin) message = none
  | .granted _ _ => True

theorem signalsTo_silent {ws : SocketId} {outputs : List Output}
    (silent : ∀ output ∈ outputs, Silent output) :
    signalsTo ws outputs = [] := by
  apply List.filterMap_eq_nil_iff.mpr
  intro sent member
  exact silent _ (mem_of_sentTo member)

/-- What is sent to others does not reach `ws`. -/
theorem signalsTo_send_other {server : Server} {ws receiver : SocketId} {message : Json}
    {origin : Origin} (others : receiver ≠ ws) :
    signalsTo ws (server.send receiver message origin) = [] := by
  apply List.filterMap_eq_nil_iff.mpr
  intro sent member
  obtain ⟨rfl, -⟩ := Server.eq_of_mem_send (mem_of_sentTo member)
  exact absurd rfl others

/-- What a client sends and the server does not pass on is no signal. -/
theorem signal?_eq_none {message : Json} (signal : ClientSignal message)
    (notRelayed : ¬ Server.Relayable message) (author : Option SocketId) :
    signal? author message = none := by
  cases signal with
  | pairRequest | listPeers => rfl
  | offer sdp => exact absurd ⟨"offer", rfl, by decide, by decide, by decide⟩ notRelayed
  | answer sdp => exact absurd ⟨"answer", rfl, by decide, by decide, by decide⟩ notRelayed
  | candidate candidate =>
      exact absurd ⟨"candidate", rfl, by decide, by decide, by decide⟩ notRelayed

/-- Two paired sockets, both open, and no timer that is to tell the answerer. -/
structure Paired (server : Server) (socket : Role → SocketId) : Prop where
  invariant : PairingInvariant server
  pair : ∀ role, OpenPair server (socket role) (socket role.other)
  timers : ∀ timer ∈ server.timers, timer.ws ≠ socket .answerer

namespace Paired

variable {server next : Server} {socket : Role → SocketId} {event : Server.Event}
  {outputs : List Output}

theorem socket_ne (paired : Paired server socket) (role : Role) :
    socket role.other ≠ socket role := by
  intro same
  have points := (paired.pair role).forward
  rw [same] at points
  exact paired.invariant.matching.irreflexive _ points

/-- The event is the end of a timer of `ws`. -/
def fires (server : Server) (ws : SocketId) : Server.Event → Bool
  | .timeout index => server.timers[index]?.any fun timer => timer.ws = ws
  | _ => false

/-- What an event sends to one of the two: what the other sends is passed on, and a timer
tells that the other has joined. -/
def signalsFor (server : Server) (socket : Role → SocketId) (role : Role) :
    Server.Event → List Signal
  | .message sender (some message) =>
      if sender = socket role.other ∧ Server.Relayable message then
        (signal? (some sender) message).toList
      else []
  | event => if fires server (socket role) event then [.joined] else []

theorem signalsTo_step (paired : Paired server socket)
    (stepped : server.step event = some (next, outputs)) (role : Role) :
    signalsTo (socket role) outputs = signalsFor server socket role event := by
  have pair := paired.pair role
  have lists : ∀ server : Server, signalsTo (socket role) server.broadcastPeerLists = [] :=
    fun server => signalsTo_silent (Server.forall_mem_broadcastPeerLists fun _ _ => rfl)
  cases Server.effect_of_step stepped with
  | connected => exact lists _
  | granted ws targetWs p alive target alone targetAlone notRelayed =>
      have notWs : ws ≠ socket role := by
        rintro rfl
        rw [pair.forward] at alone
        contradiction
      have notTarget : targetWs ≠ socket role := by
        rintro rfl
        rw [pair.forward] at targetAlone
        contradiction
      simp only [signalsFor]
      rw [if_neg fun relayed => notRelayed relayed.2, Server.grant_outputs, signalsTo_append,
        signalsTo_append, signalsTo_send_other notWs, signalsTo_send_other notTarget]
      rfl
  | refused ws p reason alive notRelayed =>
      simp only [signalsFor]
      rw [if_neg fun relayed => notRelayed relayed.2]
      exact signalsTo_silent (Server.forall_mem_send rfl)
  | listed ws p alive notRelayed =>
      simp only [signalsFor]
      rw [if_neg fun relayed => notRelayed relayed.2]
      exact signalsTo_silent (Server.forall_mem_send rfl)
  | ignored ws raw alive undeliverable =>
      cases raw with
      | none => rfl
      | some p =>
          simp only [signalsFor]
          rw [if_neg]
          · rfl
          · rintro ⟨rfl, relayable⟩
            exact undeliverable p (socket role) rfl relayable pair.backward pair.leftOpen
  | relayed ws partner p alive relayable points partnerOpen =>
      simp only [signalsFor]
      by_cases fromOther : ws = socket role.other
      · subst fromOther
        rw [pair.backward] at points
        obtain rfl := Option.some.inj points
        rw [if_pos ⟨rfl, relayable⟩]
        cases isSignal : signal? (some (socket role.other)) p <;>
          simp [Net.signalsTo, sentTo, author, isSignal]
      · rw [if_neg fun relayed => fromOther relayed.1]
        have notHere : partner ≠ socket role := by
          rintro rfl
          exact fromOther (paired.invariant.matching.injective points pair.backward)
        simp [Net.signalsTo, sentTo, notHere]
  | closing => rfl
  | closed ws =>
      exact signalsTo_silent (Server.forall_mem_onClose (fun _ => rfl) fun _ _ => rfl)
  | fired index timer armed =>
      have fired : fires server (socket role) (.timeout index) =
          decide (timer.ws = socket role) := by
        rw [fires, armed, Option.any_some]
      simp only [signalsFor, fired, decide_eq_true_eq]
      by_cases toHere : timer.ws = socket role
      · rw [if_pos toHere, Server.onTimeout, toHere, Server.send, if_pos pair.leftOpen]
        simp only [Net.signalsTo, sentTo, List.filterMap_cons, if_true]
        rfl
      · rw [if_neg toHere]
        exact signalsTo_send_other toHere

/-- The pair stays until one of the two closes. -/
theorem step (paired : Paired server socket)
    (stepped : server.step event = some (next, outputs))
    (notClosing : ∀ role, event ≠ .closing (socket role)) :
    Paired next socket := by
  have staysOpen : ∀ role, next.readyState (socket role) = .OPEN := by
    intro role
    have isOpen := (paired.pair role).leftOpen
    cases Server.effect_of_step stepped with
    | connected =>
        have old : socket role ≠ server.connected := by
          intro same
          rw [same, paired.invariant.unconnected (Nat.le_refl _)] at isOpen
          contradiction
        simpa [Server.onConnection, Function.update_of_ne old] using isOpen
    | granted | refused | listed | ignored | relayed | fired => exact isOpen
    | closing ws =>
        have others : socket role ≠ ws := by
          rintro rfl
          exact notClosing role rfl
        simpa [Function.update_of_ne others] using isOpen
    | closed ws wasClosing =>
        have others : socket role ≠ ws := by
          rintro rfl
          rw [isOpen] at wasClosing
          contradiction
        rw [Server.onClose_eq]
        simpa [Function.update_of_ne others] using isOpen
  refine ⟨paired.invariant.step stepped, ?_, ?_⟩
  · intro role
    exact (paired.pair role).step paired.invariant stepped (staysOpen role)
      (staysOpen role.other)
  · intro timer armed
    cases Server.effect_of_step stepped with
    | connected | refused | listed | ignored | relayed | closing =>
        exact paired.timers timer armed
    | granted ws targetWs p alive target alone =>
        rcases List.mem_append.mp armed with old | new
        · exact paired.timers timer old
        · obtain rfl := List.mem_singleton.mp new
          rintro rfl
          have points := (paired.pair .answerer).forward
          rw [points] at alone
          contradiction
    | closed ws =>
        rw [Server.onClose_eq] at armed
        exact paired.timers timer armed
    | fired index => exact paired.timers timer (List.mem_of_mem_eraseIdx armed)

/-- The timers that will tell the offerer. -/
def armed (server : Server) (socket : Role → SocketId) : Nat :=
  total (fun timer => if timer.ws = socket .offerer then 1 else 0) server.timers

/-- Only a timer that fires is gone, and none is armed for the pair again. -/
theorem armed_step (paired : Paired server socket)
    (stepped : server.step event = some (next, outputs)) :
    armed next socket + (if fires server (socket .offerer) event then 1 else 0) =
      armed server socket := by
  cases Server.effect_of_step stepped with
  | connected | refused | listed | ignored | relayed | closing => rfl
  | granted ws targetWs p alive target alone =>
      have others : ws ≠ socket .offerer := by
        rintro rfl
        rw [(paired.pair .offerer).forward] at alone
        contradiction
      simp [armed, Server.grant, fires, others]
  | closed ws =>
      rw [Server.onClose_eq]
      rfl
  | fired index timer atIndex =>
      have taken := total_eraseIdx
        (fun timer : Timer => if timer.ws = socket .offerer then 1 else 0) atIndex
      simpa [armed, fires, atIndex] using taken

end Paired

/-! ## The exchange of two clients -/

namespace System

variable {system following : System} {socket : Role → SocketId} {action : Action}
  {fresh : List (SocketId × RTCIceCandidate)}

/-- A client with its links, as a party. -/
def partyAt (system : System) (ws : SocketId) : Party :=
  (system.device ws).endpoint.party
    ((system.uplink ws).filterMap (signal? (some ws)))
    ((system.downlink ws).filterMap fun sent => signal? (author sent.2) sent.1)

def exchange (socket : Role → SocketId) (system : System) : Exchange where
  socket := socket
  timers := Paired.armed system.server socket
  party := fun role => system.partyAt (socket role)

/-- The candidates that an action gathers, with their client. -/
def gathers : Action → List (SocketId × RTCIceCandidate)
  | .act ws (.generateIceCandidate candidate) => [(ws, candidate)]
  | _ => []

/-- The system with the candidates that are gathered. -/
def gathering (system : System) (action : Action) :
    Option (System × List (SocketId × RTCIceCandidate)) :=
  (system.step action).map fun (next, _) => (next, gathers action)

/-- What the exchange sees of a candidate that is gathered. -/
def seen (socket : Role → SocketId) (gathered : SocketId × RTCIceCandidate) : List Gathered :=
  if gathered.1 = socket .offerer then [⟨.offerer, gathered.2⟩]
  else if gathered.1 = socket .answerer then [⟨.answerer, gathered.2⟩]
  else []

/-- Neither socket closes and no completion handler of the two reports an error. -/
def Undisturbed (socket : Role → SocketId) (_ : System) : Action → Prop
  | .server (.closing ws) => ∀ role, ws ≠ socket role
  | .act ws (.complete _ result) => (∃ role, ws = socket role) → result.isSome = true
  | _ => True

/-- What every undisturbed step keeps of the server and the links. -/
structure Carries (socket : Role → SocketId) (system : System) : Prop where
  paired : Paired system.server socket
  honest : system.ClientsHonest

theorem partyAt_served (system : System) (next : Server) (outputs : List Output)
    (ws : SocketId) :
    (system.served next outputs).partyAt ws =
      { system.partyAt ws with
        arriving := (system.partyAt ws).arriving ++ signalsTo ws outputs } := by
  simp only [partyAt, System.served, List.filterMap_append]
  rfl

/-! ## The system simulates the exchange -/

/-- A step of the system as a run of the exchange. -/
def Matched (socket : Role → SocketId) (system following : System)
    (fresh : List (SocketId × RTCIceCandidate)) : Prop :=
  ∃ moves, Machine.Run Exchange.step Machine.free (system.exchange socket) moves
    (fresh.flatMap (seen socket)) (following.exchange socket)

theorem Matched.idle (same : following.exchange socket = system.exchange socket) :
    Matched socket system following [] :=
  ⟨[], by rw [same]; exact .nil⟩

theorem Matched.move (move : Exchange.Move)
    (stepped : (system.exchange socket).step move =
      some (following.exchange socket, fresh.flatMap (seen socket))) :
    Matched socket system following fresh :=
  ⟨[move], .single trivial stepped⟩

/-- The exchange after a client has changed. -/
theorem exchange_changed {ws : SocketId} {role : Role}
    (carries : Carries socket system)
    (isParty : ws = socket role)
    (sameTimers : Paired.armed following.server socket = Paired.armed system.server socket)
    (same : ∀ other, other ≠ ws → following.partyAt other = system.partyAt other) :
    following.exchange socket =
      (system.exchange socket).set role (following.partyAt (socket role)) := by
  refine Exchange.ext rfl sameTimers ?_
  funext another
  rcases role.eq_or_other another with rfl | rfl
  · rw [Exchange.set_party_same]
    rfl
  · rw [Exchange.set_party_other]
    apply same
    rw [isParty]
    exact carries.paired.socket_ne role

theorem exchange_same
    (sameTimers : Paired.armed following.server socket = Paired.armed system.server socket)
    (same : ∀ role, following.partyAt (socket role) = system.partyAt (socket role)) :
    following.exchange socket = system.exchange socket := by
  refine Exchange.ext rfl sameTimers ?_
  funext role
  exact same role

/-- A client handles a text as its party handles the signal, if it is one. -/
theorem matched_received {ws : SocketId} {message : Json} {origin : Origin}
    {rest : List (Json × Origin)}
    (carries : Carries socket system)
    (queue : system.downlink ws = (message, origin) :: rest) :
    Matched socket system (system.received ws message origin rest) [] := by
  have others : ∀ other, other ≠ ws →
      (system.received ws message origin rest).partyAt other = system.partyAt other := by
    intro other others
    simp only [partyAt, System.received, Function.update_of_ne others]
  have here : (system.received ws message origin rest).partyAt ws =
      (signal? (author origin) message).elim
        { system.partyAt ws with
          arriving := rest.filterMap fun sent => signal? (author sent.2) sent.1 }
        (Party.receive { system.partyAt ws with
          arriving := rest.filterMap fun sent => signal? (author sent.2) sent.1 }) := by
    simp only [partyAt, System.received, Function.update_self]
    rw [Endpoint.party_receiveSignal]
    rfl
  by_cases isParty : ∃ role, ws = socket role
  · obtain ⟨role, rfl⟩ := isParty
    cases isSignal : signal? (author origin) message with
    | none =>
        apply Matched.idle
        refine exchange_same rfl (Exchange.forall_role role ?_ ?_)
        · rw [here, isSignal]
          simp only [Option.elim, partyAt, Endpoint.party, queue, List.filterMap_cons, isSignal]
        · exact others _ (carries.paired.socket_ne role)
    | some signal =>
        have arriving : ((system.exchange socket).party role).arriving =
            signal :: rest.filterMap fun sent => signal? (author sent.2) sent.1 := by
          simp only [exchange, partyAt, Endpoint.party, queue, List.filterMap_cons, isSignal]
        have changed : (system.received (socket role) message origin rest).exchange socket =
            (system.exchange socket).set role
              ((system.received (socket role) message origin rest).partyAt (socket role)) :=
          exchange_changed carries rfl rfl others
        apply Matched.move (.receive role)
        rw [Exchange.step_receive arriving, changed, here, isSignal]
        rfl
  · push Not at isParty
    exact .idle (exchange_same rfl fun role => others _ (isParty role).symm)

/-- A completion handler that succeeds and a gathered candidate are moves of the party;
what else a client does the exchange does not see. -/
theorem matched_acted {ws : SocketId} {input : Input} {next : Device} {signals : List Json}
    (carries : Carries socket system)
    (undisturbed : Undisturbed socket system (.act ws input))
    (stepped : (system.device ws).step input = some (next, signals)) :
    Matched socket system (system.acted ws next signals) (gathers (.act ws input)) := by
  have others : ∀ other, other ≠ ws →
      (system.acted ws next signals).partyAt other = system.partyAt other := by
    intro other others
    simp only [partyAt, System.acted, Function.update_of_ne others]
  have here : (system.acted ws next signals).partyAt ws = next.endpoint.party
      ((system.uplink ws).filterMap (signal? (some ws)) ++
        signals.filterMap (signal? (some ws)))
      ((system.downlink ws).filterMap fun sent => signal? (author sent.2) sent.1) := by
    simp only [partyAt, System.acted, Function.update_self, List.filterMap_append]
  by_cases isParty : ∃ role, ws = socket role
  case neg =>
    have unseen : (gathers (.act ws input)).flatMap (seen socket) = [] := by
      apply List.flatMap_eq_nil_iff.mpr
      intro gathered member
      have sender : gathered.1 = ws := by
        unfold gathers at member
        split at member
        case h_1 _ _ same =>
          obtain rfl := List.mem_singleton.mp member
          exact (Action.act.inj same).1.symm
        case h_2 => contradiction
      push Not at isParty
      rw [seen, sender, if_neg (isParty .offerer), if_neg (isParty .answerer)]
    push Not at isParty
    have same : (system.acted ws next signals).exchange socket = system.exchange socket :=
      exchange_same rfl fun role => others _ (isParty role).symm
    refine ⟨[], ?_⟩
    rw [unseen, same]
    exact .nil
  case pos =>
    obtain ⟨role, rfl⟩ := isParty
    have changed : (system.acted (socket role) next signals).exchange socket =
        (system.exchange socket).set role
          ((system.acted (socket role) next signals).partyAt (socket role)) :=
      exchange_changed carries rfl rfl others
    by_cases isCompletion : ∃ index result, input = .complete index result
    · obtain ⟨index, result, rfl⟩ := isCompletion
      obtain ⟨created, rfl⟩ := Option.isSome_iff_exists.mp (undisturbed ⟨role, rfl⟩)
      simp only [Device.step, Option.map_eq_some_iff, Prod.exists, Prod.mk.injEq] at stepped
      obtain ⟨endpoint, sent, completes, rfl, rfl⟩ := stepped
      obtain ⟨completion, atIndex, result⟩ := Endpoint.party_complete completes (socket role)
      rw [result] at here
      apply Matched.move (.complete role index created)
      rw [changed, here]
      have waiting : ((system.exchange socket).party role).completions[index]? =
          some completion := atIndex
      rw [Exchange.step, waiting]
      rfl
    · have notCompletion : ∀ index result, input ≠ .complete index result :=
        fun index result same => isCompletion ⟨index, result, same⟩
      have sameNegotiation : next.endpoint.negotiation =
          (system.device (socket role)).endpoint.negotiation :=
        Device.negotiation_of_step stepped notCompletion
      have sameRemote := Device.remote_of_step stepped notCompletion
      by_cases isCandidate : ∃ candidate, input = .generateIceCandidate candidate
      · obtain ⟨candidate, rfl⟩ := isCandidate
        obtain ⟨rfl, rfl⟩ := Prod.mk.inj (Option.some.inj stepped)
        apply Matched.move (.gather role candidate)
        have isSeen : seen socket (socket role, candidate) = [⟨role, candidate⟩] := by
          cases role with
          | offerer => rw [seen, if_pos rfl]
          | answerer =>
              have apart : socket .answerer ≠ socket .offerer := carries.paired.socket_ne .offerer
              rw [seen, if_neg apart, if_pos rfl]
        have sent : signal? (some (socket role)) (Endpoint.candidateMessage candidate) =
            some (.candidate candidate) := by
          have read : signal? (some (socket role)) (Endpoint.candidateMessage candidate) =
              some (.candidate (Endpoint.iceCandidate (Endpoint.candidateMessage candidate))) :=
            rfl
          rwa [Endpoint.iceCandidate_candidateMessage] at read
        rw [changed, here, gathers, List.flatMap_singleton, isSeen, List.filterMap_cons, sent]
        rfl
      · have requests := Device.requests_of_step stepped notCompletion
          fun candidate same => isCandidate ⟨candidate, same⟩
        have silent : signals.filterMap (signal? (some (socket role))) = [] := by
          apply List.filterMap_eq_nil_iff.mpr
          intro signal sent
          cases requests signal sent with
          | pairRequest | listPeers => rfl
        have nothing : gathers (.act (socket role) input) = [] := by
          unfold gathers
          split
          case h_1 _ candidate same =>
            exact absurd (Action.act.inj same).2 fun isGathered =>
              isCandidate ⟨candidate, isGathered⟩
          case h_2 => rfl
        rw [nothing]
        apply Matched.idle
        refine exchange_same rfl (Exchange.forall_role role ?_ ?_)
        · rw [here, silent, List.append_nil]
          simp only [partyAt, Endpoint.party, sameNegotiation, sameRemote]
        · exact others _ (carries.paired.socket_ne role)

/-- A step of the server that is no message: a timer of the offerer is a move. -/
theorem matched_served {event : Server.Event} {next : Server} {outputs : List Output}
    (carries : Carries socket system)
    (notMessage : ∀ ws raw, event ≠ .message ws raw)
    (stepped : system.server.step event = some (next, outputs)) :
    Matched socket system (system.served next outputs) [] := by
  have signals : ∀ role, Paired.signalsFor system.server socket role event =
      if Paired.fires system.server (socket role) event then [.joined] else [] := by
    intro role
    unfold Paired.signalsFor
    split
    case h_1 => exact absurd rfl (notMessage _ _)
    case h_2 => rfl
  have after : ∀ role, (system.served next outputs).partyAt (socket role) =
      { system.partyAt (socket role) with
        arriving := (system.partyAt (socket role)).arriving ++
          if Paired.fires system.server (socket role) event then [.joined] else [] } := by
    intro role
    rw [partyAt_served, carries.paired.signalsTo_step stepped, signals]
  have timers := carries.paired.armed_step stepped
  have answererIdle : Paired.fires system.server (socket .answerer) event = false := by
    unfold Paired.fires
    split
    case h_1 index =>
      cases armed : system.server.timers[index]? with
      | none => rfl
      | some timer =>
          simpa using carries.paired.timers timer (List.mem_of_getElem? armed)
    case h_2 => rfl
  by_cases fires : Paired.fires system.server (socket .offerer) event = true
  · rw [if_pos fires] at timers
    apply Matched.move .fire
    have armed : (system.exchange socket).timers = Paired.armed next socket + 1 := timers.symm
    rw [Exchange.step_fire armed]
    refine congrArg some (Prod.ext ?_ rfl)
    refine Exchange.ext rfl rfl ?_
    funext role
    cases role with
    | offerer =>
        have offerer := after .offerer
        rw [if_pos fires] at offerer
        rw [Exchange.deliver, Exchange.set_party_same]
        exact offerer.symm
    | answerer =>
        have answerer := after .answerer
        rw [answererIdle, if_neg Bool.false_ne_true, List.append_nil] at answerer
        exact answerer.symm
  · rw [if_neg fires] at timers
    apply Matched.idle
    refine exchange_same timers (Exchange.forall_role .offerer ?_ ?_)
    · rw [after, if_neg fires, List.append_nil]
    · have answerer := after .answerer
      rw [answererIdle, if_neg Bool.false_ne_true, List.append_nil] at answerer
      exact answerer

/-- The server handles a text: what is a signal is passed on to the other party. -/
theorem matched_processed {ws : SocketId} {message : Json} {rest : List Json} {next : Server}
    {outputs : List Output}
    (carries : Carries socket system)
    (queue : system.uplink ws = message :: rest)
    (stepped : system.server.step (.message ws (some message)) = some (next, outputs)) :
    Matched socket system
      ({ system with uplink := Function.update system.uplink ws rest }.served next outputs)
      [] := by
  have timers : Paired.armed next socket = Paired.armed system.server socket :=
    carries.paired.armed_step stepped
  have signals := carries.paired.signalsTo_step stepped
  have others : ∀ other, other ≠ ws →
      partyAt { system with uplink := Function.update system.uplink ws rest } other =
        system.partyAt other := by
    intro other others
    simp only [partyAt, Function.update_of_ne others]
  by_cases isParty : ∃ role, ws = socket role
  case neg =>
    push Not at isParty
    apply Matched.idle
    refine exchange_same timers fun role => ?_
    rw [partyAt_served, signals, Paired.signalsFor, if_neg fun relayed =>
      isParty _ relayed.1, List.append_nil]
    exact others _ (isParty role).symm
  case pos =>
    obtain ⟨role, rfl⟩ := isParty
    have apart := carries.paired.socket_ne role
    have toSender : signalsTo (socket role) outputs = [] := by
      rw [signals, Paired.signalsFor, if_neg fun relayed => apart relayed.1.symm]
    have toOther : signalsTo (socket role.other) outputs =
        (signal? (some (socket role)) message).toList := by
      rw [signals, Paired.signalsFor, role.other_other]
      split
      case isTrue => rfl
      case isFalse notSent =>
        have notRelayed : ¬ Server.Relayable message := fun relayable =>
          notSent ⟨rfl, relayable⟩
        rw [signal?_eq_none (carries.honest (socket role) message (by simp [queue])) notRelayed]
        rfl
    cases isSignal : signal? (some (socket role)) message with
    | none =>
        apply Matched.idle
        refine exchange_same timers (Exchange.forall_role role ?_ ?_)
        · rw [partyAt_served, toSender, List.append_nil]
          simp only [partyAt, Endpoint.party, Function.update_self, queue, List.filterMap_cons,
            isSignal]
        · rw [partyAt_served, toOther, isSignal, Option.toList_none, List.append_nil]
          exact others _ apart
    | some signal =>
        have sending : ((system.exchange socket).party role).sending =
            signal :: rest.filterMap (signal? (some (socket role))) := by
          simp only [exchange, partyAt, Endpoint.party, queue, List.filterMap_cons, isSignal]
        apply Matched.move (.relay role)
        rw [Exchange.step_relay sending]
        refine congrArg some (Prod.ext ?_ rfl)
        refine Exchange.ext rfl timers.symm ?_
        funext another
        rcases role.eq_or_other another with rfl | rfl
        · rw [Exchange.deliver, Exchange.set_party_of_other, Exchange.set_party_same]
          simp only [exchange]
          rw [partyAt_served, toSender, List.append_nil]
          simp only [partyAt, Endpoint.party, Function.update_self]
        · rw [Exchange.deliver, Exchange.set_party_same, Exchange.set_party_other]
          simp only [exchange]
          rw [partyAt_served, toOther, isSignal, others _ apart]
          rfl

/-- Every undisturbed step of the system is a move of the exchange or none. -/
theorem Carries.matched (carries : Carries socket system)
    (undisturbed : Undisturbed socket system action)
    (stepped : system.gathering action = some (following, fresh)) :
    Carries socket following ∧ Matched socket system following fresh := by
  simp only [gathering, Option.map_eq_some_iff, Prod.exists, Prod.mk.injEq] at stepped
  obtain ⟨result, events, stepped, rfl, rfl⟩ := stepped
  have effect := (effect_of_step stepped).1
  generalize system.serverOutputs action = outputs at effect
  have honest := carries.honest.step effect
  cases effect with
  | served event next outputs notMessage serverStepped =>
      refine ⟨⟨carries.paired.step serverStepped ?_, honest⟩,
        matched_served carries notMessage serverStepped⟩
      rintro role rfl
      exact undisturbed role rfl
  | processed ws message rest next outputs queue serverStepped =>
      refine ⟨⟨carries.paired.step serverStepped ?_, honest⟩,
        matched_processed carries queue serverStepped⟩
      intro role same
      contradiction
  | received ws message origin rest queue =>
      exact ⟨⟨carries.paired, honest⟩, matched_received carries queue⟩
  | acted ws input next signals known deviceStepped =>
      exact ⟨⟨carries.paired, honest⟩, matched_acted carries undisturbed deviceStepped⟩

/-! ## The pair -/

/-- The first asks for the second. -/
def pairOf (a b : SocketId) : Role → SocketId
  | .offerer => a
  | .answerer => b

/-- A client that has not negotiated yet: it waits for nothing, nothing of a negotiation
is on its links, and no timer is to tell it of a partner. -/
structure Unnegotiated (system : System) (ws : SocketId) : Prop where
  described : (system.partyAt ws).hasRemoteDescription = false
  pending : (system.partyAt ws).pendingCandidates = []
  added : (system.partyAt ws).addedCandidates = []
  completions : (system.partyAt ws).completions = []
  sending : (system.partyAt ws).sending = []
  arriving : (system.partyAt ws).arriving = []
  timers : ∀ timer ∈ system.server.timers, timer.ws ≠ ws

theorem paired_of_grant {server : Server} {a b : SocketId} {outputs : List Output} {next : Server}
    (invariant : PairingInvariant next)
    (distinct : b ≠ a)
    (leftOpen : server.readyState a = .OPEN) (rightOpen : server.readyState b = .OPEN)
    (noTimer : ∀ timer ∈ server.timers, timer.ws ≠ b)
    (result : server.grant a b = (next, outputs)) :
    Paired next (pairOf a b) := by
  obtain ⟨rfl, -⟩ := Prod.mk.inj result
  have pair : OpenPair (server.grant a b).1 a b := by
    refine ⟨?_, ?_, leftOpen, rightOpen⟩
    · simp [Server.grant, Function.update_of_ne distinct.symm]
    · simp [Server.grant]
  refine ⟨invariant, Exchange.forall_role .offerer pair pair.symm, ?_⟩
  intro timer armed
  rcases List.mem_append.mp armed with old | new
  · exact noTimer timer old
  · obtain rfl := List.mem_singleton.mp new
    exact distinct.symm

/-- A grant opens the exchange: both roles are sent and the timer is armed. -/
theorem waiting_of_granted {a b : SocketId} {after : System} {events : List Event}
    (contained : system.Contained) (honest : system.ClientsHonest)
    (leftFresh : system.Unnegotiated a) (rightFresh : system.Unnegotiated b)
    (leftOpen : system.server.readyState a = .OPEN)
    (rightOpen : system.server.readyState b = .OPEN)
    (alone : system.server.pairPartner a = none)
    (granted : system.step (.process a) = some (after, events))
    (paired : after.server.pairPartner a = some b) :
    Carries (pairOf a b) after ∧ (after.exchange (pairOf a b)).At .waiting ∧
      ∀ role, (after.exchange (pairOf a b)).accounted role = [] := by
  have effect := (effect_of_step granted).1
  generalize system.serverOutputs (.process a) = outputs at effect
  have stillHonest := honest.step effect
  cases effect with
  | processed _ message rest next _ queue stepped =>
      have invariant := contained.pairing.step stepped
      have nowPaired : next.pairPartner a = some b := paired
      cases Server.effect_of_step stepped with
      | refused | listed | ignored | relayed =>
          rw [alone] at nowPaired
          contradiction
      | granted _ targetWs p alive target _ targetAlone =>
          obtain ⟨distinct, -, -⟩ := contained.pairing.validTarget_spec target
          obtain rfl : targetWs = b := by
            simpa [Server.grant, Function.update_of_ne distinct.symm] using nowPaired
          have pair : Paired (system.server.grant a targetWs).1 (pairOf a targetWs) :=
            paired_of_grant invariant distinct leftOpen rightOpen rightFresh.timers rfl
          have toRequester : signalsTo a (system.server.grant a targetWs).2 = [.role true] := by
            rw [Server.grant_outputs, signalsTo_append, signalsTo_append,
              signalsTo_send_other distinct, Server.send, if_pos leftOpen]
            simp only [signalsTo, sentTo, List.filterMap_cons, if_true]
            rfl
          have toTarget : signalsTo targetWs (system.server.grant a targetWs).2 =
              [.role false] := by
            rw [Server.grant_outputs, signalsTo_append, signalsTo_append,
              signalsTo_send_other distinct.symm, Server.send, if_pos rightOpen]
            simp only [signalsTo, sentTo, List.filterMap_cons, if_true]
            rfl
          have sending : rest.filterMap (signal? (some a)) = [] := by
            have none := List.filterMap_eq_nil_iff.mp leftFresh.sending
            apply List.filterMap_eq_nil_iff.mpr
            intro later member
            exact none later (by simp [queue, member])
          have atRequester : partyAt
              ({ system with uplink := Function.update system.uplink a rest }.served
                (system.server.grant a targetWs).1 (system.server.grant a targetWs).2) a =
              { system.partyAt a with sending := [], arriving := [.role true] } := by
            have noneArrives : (system.downlink a).filterMap
              (fun sent => signal? (author sent.2) sent.1) = [] := leftFresh.arriving
            rw [partyAt_served, toRequester]
            simp only [partyAt, Endpoint.party, Function.update_self, sending, noneArrives,
              List.nil_append]
          have atTarget : partyAt
              ({ system with uplink := Function.update system.uplink a rest }.served
                (system.server.grant a targetWs).1 (system.server.grant a targetWs).2) targetWs =
              { system.partyAt targetWs with arriving := [.role false] } := by
            have noneArrives : (system.downlink targetWs).filterMap
              (fun sent => signal? (author sent.2) sent.1) = [] := rightFresh.arriving
            rw [partyAt_served, toTarget]
            simp only [partyAt, Endpoint.party, Function.update_of_ne distinct, noneArrives,
              List.nil_append]
          refine ⟨⟨pair, stillHonest⟩, ⟨?_, Exchange.forall_role .offerer ?_ ?_⟩, ?_⟩
          · have before : Paired.armed system.server (pairOf a targetWs) = 0 :=
              total_eq_zero _ fun timer armed => if_neg (leftFresh.timers timer armed)
            have armed : Paired.armed (system.server.grant a targetWs).1 (pairOf a targetWs) =
                Paired.armed system.server (pairOf a targetWs) + 1 := by
              simp [Paired.armed, Server.grant, pairOf]
            rw [before] at armed
            exact armed
          · simp only [exchange, pairOf, atRequester]
            exact ⟨leftFresh.completions, rfl, ⟨true, rfl, fun read => absurd read.symm Bool.false_ne_true⟩, leftFresh.described⟩
          · simp only [exchange, pairOf, Role.other, atTarget]
            refine ⟨rightFresh.completions, ?_, ⟨true, rfl, fun read => absurd read.symm Bool.false_ne_true⟩, rightFresh.described⟩
            rw [rightFresh.sending]
            rfl
          · refine Exchange.forall_role .offerer ?_ ?_
            · simp only [Exchange.accounted, exchange, pairOf, Role.other, atRequester, atTarget,
                Party.held, rightFresh.added, rightFresh.pending]
              rfl
            · simp only [Exchange.accounted, exchange, pairOf, Role.other, atRequester, atTarget,
                Party.held, leftFresh.added, leftFresh.pending, rightFresh.sending]
              rfl

/-! ## Whole runs -/

/-- The candidates that a client has gathered, in order. -/
def gatheredFrom (ws : SocketId) (history : List (SocketId × RTCIceCandidate)) :
    List RTCIceCandidate :=
  history.filterMap fun gathered => if gathered.1 = ws then some gathered.2 else none

theorem gatheredBy_seen (apart : socket .answerer ≠ socket .offerer)
    (history : List (SocketId × RTCIceCandidate)) (role : Role) :
    Exchange.gatheredBy role (history.flatMap (seen socket)) =
      gatheredFrom (socket role) history := by
  induction history with
  | nil => rfl
  | cons gathered rest inductionHypothesis =>
      rw [List.flatMap_cons, Exchange.gatheredBy_append, inductionHypothesis]
      by_cases fromOfferer : gathered.1 = socket .offerer
      · cases role <;>
          simp [seen, gatheredFrom, Exchange.gatheredBy, fromOfferer, apart.symm]
      · by_cases fromAnswerer : gathered.1 = socket .answerer
        · cases role <;>
            simp [seen, gatheredFrom, Exchange.gatheredBy, fromAnswerer, apart]
        · cases role <;>
            simp [seen, gatheredFrom, Exchange.gatheredBy, fromOfferer, fromAnswerer]

/-- Nothing is outstanding for a client. -/
structure Quiet (system : System) (ws : SocketId) : Prop where
  uplink : system.uplink ws = []
  downlink : system.downlink ws = []
  completions : (system.device ws).endpoint.completions = []
  timers : ∀ timer ∈ system.server.timers, timer.ws ≠ ws

/-- A client that has carried its negotiation with `peer` through. -/
structure Negotiated (system : System) (ws peer : SocketId) (offers : Bool)
    (candidates : List RTCIceCandidate) : Prop where
  isOfferer : (system.device ws).endpoint.client.isOfferer = offers
  described : (system.device ws).endpoint.client.hasRemoteDescription = true
  remote : (system.device ws).endpoint.remote = some peer
  pending : (system.device ws).endpoint.client.pendingCandidates = []
  added : (system.device ws).endpoint.addedCandidates = candidates

/-- What holds of the exchange that a granted pair makes. -/
structure Exchanging (socket : Role → SocketId) (history : List (SocketId × RTCIceCandidate))
    (system : System) : Prop where
  carries : Carries socket system
  stage : ∃ stage, (system.exchange socket).At stage
  accounts : ∀ role, (system.exchange socket).accounted role = gatheredFrom (socket role) history

theorem Exchanging.of_run {socket : Role → SocketId} {middle final : System}
    {actions : List Action} {history : List (SocketId × RTCIceCandidate)}
    (carries : Carries socket middle)
    (waiting : (middle.exchange socket).At .waiting)
    (nothing : ∀ role, (middle.exchange socket).accounted role = [])
    (run : Machine.Run System.gathering (Undisturbed socket) middle actions history final) :
    Exchanging socket history final := by
  obtain ⟨carriesFinal, moves, simulated⟩ := run.projected (exchange socket) (seen socket)
    (Carries socket) carries fun holds undisturbed stepped => holds.matched undisturbed stepped
  obtain ⟨stage, accounts⟩ := simulated.invariant
    (fun history exchange => (∃ stage, exchange.At stage) ∧
      ∀ role, exchange.accounted role = Exchange.gatheredBy role history)
    ⟨⟨.waiting, waiting⟩, nothing⟩
    (by
      intro history exchange move next fresh holds _ stepped
      obtain ⟨⟨stage, at_⟩, accounts⟩ := holds
      refine ⟨at_.step stepped, ?_⟩
      intro role
      rw [at_.accounted_step stepped, accounts, Exchange.gatheredBy_append])
  refine ⟨carriesFinal, stage, ?_⟩
  intro role
  rw [accounts]
  exact gatheredBy_seen (carriesFinal.paired.socket_ne .offerer) history role

/-- When nothing is outstanding for the two, both have carried it through. -/
theorem Exchanging.negotiated {socket : Role → SocketId}
    {history : List (SocketId × RTCIceCandidate)}
    (exchanging : Exchanging socket history system)
    (quiet : ∀ role, system.Quiet (socket role)) (role : Role) :
    system.Negotiated (socket role) (socket role.other) role.offers
      (gatheredFrom (socket role.other) history) := by
  obtain ⟨stage, holds⟩ := exchanging.stage
  have idle : (system.exchange socket).Idle := by
    refine ⟨?_, fun role => (quiet role).completions, ?_, ?_⟩
    · exact total_eq_zero _ fun timer armed => if_neg ((quiet .offerer).timers timer armed)
    · intro role
      simp only [exchange, partyAt, Endpoint.party, (quiet role).uplink, List.filterMap_nil]
    · intro role
      simp only [exchange, partyAt, Endpoint.party, (quiet role).downlink, List.filterMap_nil]
  have complete := holds.complete_of_idle idle exchanging.accounts role
  exact ⟨complete.isOfferer, complete.described, complete.remote, complete.pending,
    complete.added⟩

/-- Along the way nothing is lost, repeated or reordered, and no foreign description is
applied. -/
structure OnTheWay (system : System) (ws peer : SocketId)
    (candidates : List RTCIceCandidate) : Prop where
  candidates : (system.device ws).endpoint.addedCandidates ++
    (system.device ws).endpoint.client.pendingCandidates <+: candidates
  remote : (system.device ws).endpoint.client.hasRemoteDescription = true →
    (system.device ws).endpoint.remote = some peer

theorem Exchanging.onTheWay {socket : Role → SocketId}
    {history : List (SocketId × RTCIceCandidate)}
    (exchanging : Exchanging socket history system) (role : Role) :
    system.OnTheWay (socket role) (socket role.other)
      (gatheredFrom (socket role.other) history) := by
  constructor
  · have accounts := exchanging.accounts role.other
    rw [Exchange.accounted, role.other_other, Party.held, List.append_assoc] at accounts
    exact ⟨_, accounts⟩
  · intro isDescribed
    obtain ⟨stage, holds⟩ := exchanging.stage
    have described := (holds.party role).described
    cases reached : stage.described role with
    | true =>
        rw [reached] at described
        exact described.2.1
    | false =>
        rw [reached] at described
        have undescribed :
            (system.device (socket role)).endpoint.client.hasRemoteDescription = false :=
          described
        rw [isDescribed] at undescribed
        contradiction

/-- The system by itself gathers nothing. -/
theorem gathers_of_internal (internal : Internal system action) : gathers action = [] := by
  cases action with
  | act ws input =>
      cases input with
      | generateIceCandidate => exact internal.elim
      | chooseFile | selectRow | send | refreshOnlinePeers | runMain | complete | channelState
      | replacedChannelState | openDataChannel | transfer => rfl
  | server | process | receive => rfl

theorem undisturbed_of_driven (driven : Driven system action) :
    Undisturbed socket system action := by
  obtain ⟨internal, succeeds⟩ := driven
  cases action with
  | server event =>
      cases event with
      | closing => exact internal.elim
      | connection | message | close | timeout => trivial
  | process | receive => trivial
  | act ws input =>
      cases input with
      | complete index result => exact fun _ => succeeds
      | chooseFile | selectRow | send | refreshOnlinePeers | runMain | generateIceCandidate
      | channelState | replacedChannelState | openDataChannel | transfer => trivial

/-- A run of the system by itself gathers nothing and disturbs nobody. -/
theorem gathering_of_driven {start final : System} {actions : List Action}
    {events : List Event} (run : Machine.Run System.step Driven start actions events final) :
    Machine.Run System.gathering (Undisturbed socket) start actions [] final := by
  have labelled : Machine.Run System.gathering Driven start actions (actions.flatMap gathers)
      final := by
    refine run.relabelled gathers ?_
    intro system action next fresh stepped
    simp [gathering, stepped]
  have nothing : actions.flatMap gathers = [] := by
    refine labelled.invariant (fun history _ => history = []) rfl ?_
    intro history system action next fresh before driven stepped
    simp only [gathering, Option.map_eq_some_iff, Prod.exists, Prod.mk.injEq] at stepped
    obtain ⟨-, -, -, -, rfl⟩ := stepped
    rw [before, gathers_of_internal driven.1]
    rfl
  rw [nothing] at labelled
  exact labelled.mono fun _ _ driven => undisturbed_of_driven driven

/-- What has settled has nothing outstanding for a client that is open. -/
theorem Settled.quiet (settled : Settled system) (contained : system.Contained)
    {ws : SocketId} (isOpen : system.server.readyState ws = .OPEN) : system.Quiet ws := by
  have present : system.server.readyState ws ≠ .CLOSED := by simp [isOpen]
  refine ⟨settled.uplink ws present, settled.downlink ws,
    settled.completions ws (contained.known present), ?_⟩
  rw [settled.timers]
  simp

/-- **A pair carries its negotiation through.** `a` and `b` are open and have not negotiated
yet, and the server grants `a` its request for `b`. Whatever then happens in the system, in
whatever order, as long as neither of the two closes or has a completion handler that
fails: they stay each other's partner; what each has got of the candidates of the other is
a beginning of them, in order and once each, and the only description either has is that
of the other; when nothing is outstanding for the two, both have carried the negotiation
through; and the system by itself can always get there. -/
theorem pair_carries_negotiation_through {helloName : SocketId → String}
    {past actions : List Action} {pastEvents began : List Event}
    {start middle final : System} {history : List (SocketId × RTCIceCandidate)}
    {a b : SocketId}
    (reached : SystemRun helloName Machine.free past pastEvents start)
    (leftFresh : start.Unnegotiated a) (rightFresh : start.Unnegotiated b)
    (leftOpen : start.server.readyState a = .OPEN)
    (rightOpen : start.server.readyState b = .OPEN)
    (alone : start.server.pairPartner a = none)
    (granted : start.step (.process a) = some (middle, began))
    (paired : middle.server.pairPartner a = some b)
    (run : Machine.Run System.gathering (Undisturbed (pairOf a b)) middle actions history
      final) :
    (final.server.pairPartner a = some b ∧ final.server.pairPartner b = some a) ∧
      (final.OnTheWay a b (gatheredFrom b history) ∧
        final.OnTheWay b a (gatheredFrom a history)) ∧
      (final.Quiet a → final.Quiet b →
        final.Negotiated a b true (gatheredFrom b history) ∧
          final.Negotiated b a false (gatheredFrom a history)) ∧
      ∃ later events settled, Machine.Run System.step Driven final later events settled ∧
        settled.Negotiated a b true (gatheredFrom b history) ∧
        settled.Negotiated b a false (gatheredFrom a history) := by
  obtain ⟨contained, honest⟩ : start.Contained ∧ start.ClientsHonest :=
    reached.state_invariant (fun system => system.Contained ∧ system.ClientsHonest)
      ⟨.initial helloName, by simp [ClientsHonest, initial]⟩
      fun holds _ stepped => ⟨holds.1.step stepped, holds.2.step (effect_of_step stepped).1⟩
  obtain ⟨carries, waiting, nothing⟩ := waiting_of_granted contained honest leftFresh
    rightFresh leftOpen rightOpen alone granted paired
  have exchanging := Exchanging.of_run carries waiting nothing run
  have negotiated : ∀ {system : System}, Exchanging (pairOf a b) history system →
      system.Quiet a → system.Quiet b →
      system.Negotiated a b true (gatheredFrom b history) ∧
        system.Negotiated b a false (gatheredFrom a history) := by
    intro system exchanging leftQuiet rightQuiet
    have both := exchanging.negotiated (Exchange.forall_role .offerer leftQuiet rightQuiet)
    exact ⟨both .offerer, both .answerer⟩
  refine ⟨?_, ⟨exchanging.onTheWay .offerer, exchanging.onTheWay .answerer⟩,
    negotiated exchanging, ?_⟩
  · have pair := exchanging.carries.paired.pair .offerer
    exact ⟨pair.forward, pair.backward⟩
  · have containedFinal : final.Contained := by
      refine run.state_invariant Contained (contained.step granted) ?_
      intro system action next fresh holds _ stepped
      simp only [gathering, Option.map_eq_some_iff, Prod.exists, Prod.mk.injEq] at stepped
      obtain ⟨result, events, stepped, rfl, -⟩ := stepped
      exact holds.step stepped
    obtain ⟨later, events, settled, onward, rests⟩ := containedFinal.exists_settled
    have whole := run.trans (gathering_of_driven onward)
    rw [List.append_nil] at whole
    have exchangingSettled := Exchanging.of_run carries waiting nothing whole
    have containedSettled : settled.Contained :=
      onward.state_invariant Contained containedFinal fun holds _ stepped => holds.step stepped
    have pair := exchangingSettled.carries.paired.pair .offerer
    exact ⟨later, events, settled, onward, negotiated exchangingSettled
      (rests.quiet containedSettled pair.leftOpen) (rests.quiet containedSettled pair.rightOpen)⟩

/-- The request of the first client for the second is handled, and the second gathers a
candidate. -/
theorem pair_carries_negotiation_through_gathered :
    ∃ past start began middle history final,
      SystemRun (fun _ => "mac#001") Machine.free (gathered ++ [.act 0 (.selectRow (some 0))])
        past start ∧
      start.step (.process 0) = some (middle, began) ∧
      Machine.Run System.gathering (Undisturbed (pairOf 0 1)) middle
        [.act 1 (.generateIceCandidate ⟨"host", 0, "0"⟩)] history final ∧
      ∃ later events settled, Machine.Run System.step Driven final later events settled ∧
        settled.Negotiated 0 1 true [⟨"host", 0, "0"⟩] ∧ settled.Negotiated 1 0 false [] := by
  let fresh (start : System) (ws : SocketId) : Bool :=
    decide ((start.partyAt ws).hasRemoteDescription = false ∧
      (start.partyAt ws).pendingCandidates = [] ∧ (start.partyAt ws).addedCandidates = [] ∧
      (start.partyAt ws).completions = [] ∧ (start.partyAt ws).sending = [] ∧
      (start.partyAt ws).arriving = [] ∧ start.server.readyState ws = .OPEN ∧
      start.server.pairPartner ws = none ∧ start.server.timers = [])
  let grants (start : System) : Bool :=
    (start.step (.process 0)).any fun result =>
      decide (result.1.server.pairPartner 0 = some 1) && decide (1 < result.1.server.connected)
  obtain ⟨start, past, reached, checked⟩ :
      ∃ start past, SystemRun (fun _ => "mac#001") Machine.free
          (gathered ++ [.act 0 (.selectRow (some 0))]) past start ∧
        (fresh start 0 && fresh start 1 && grants start) = true :=
    Machine.run_of_exec_any (fun (start : System) _ =>
      fresh start 0 && fresh start 1 && grants start) (by decide)
  simp only [Bool.and_eq_true] at checked
  obtain ⟨⟨left, right⟩, grant⟩ := checked
  have unnegotiated : ∀ {ws}, fresh start ws = true →
      start.Unnegotiated ws ∧ start.server.readyState ws = .OPEN ∧
        start.server.pairPartner ws = none := by
    intro ws isFresh
    obtain ⟨described, pending, added, completions, sending, arriving, isOpen, alone, timers⟩ :=
      of_decide_eq_true isFresh
    exact ⟨⟨described, pending, added, completions, sending, arriving, by simp [timers]⟩,
      isOpen, alone⟩
  obtain ⟨leftFresh, leftOpen, alone⟩ := unnegotiated left
  obtain ⟨rightFresh, rightOpen, -⟩ := unnegotiated right
  obtain ⟨⟨middle, began⟩, granted, result⟩ := (Option.any_eq_true _ _).mp grant
  simp only [Bool.and_eq_true, decide_eq_true_eq] at result
  obtain ⟨paired, known⟩ := result
  have gathers : middle.gathering (.act 1 (.generateIceCandidate ⟨"host", 0, "0"⟩)) =
      some (middle.acted 1 (middle.device 1) [Endpoint.candidateMessage ⟨"host", 0, "0"⟩],
        [(1, ⟨"host", 0, "0"⟩)]) := by
    simp [gathering, step, known, Device.step, System.gathers]
  have run : Machine.Run System.gathering (Undisturbed (pairOf 0 1)) middle
      [.act 1 (.generateIceCandidate ⟨"host", 0, "0"⟩)] _ _ := .single trivial gathers
  obtain ⟨-, -, -, later, events, settled, onward, offerer, answerer⟩ :=
    pair_carries_negotiation_through reached leftFresh rightFresh leftOpen rightOpen alone
      granted paired run
  exact ⟨past, start, began, middle, _, _, reached, granted, run, later, events, settled, onward,
    offerer, answerer⟩

end System

end WebrtcFileSender.Net
