import WebrtcFileSender.Net.Effect

/-!
Contract: the automatic send goes to the chosen device, under a condition.

The container remembers the key of the device it has asked to be paired with,
and sends as soon as any channel opens. It never compares the two. An error
reply leaves the choice pending, and the server may pair the client at somebody
else's request.

Owns: the offer that an automatic send hands to the channel, the clients that may
come to be at the other end of a client's channel, the condition under which the
choice and these clients agree, and the theorem that the file then goes to the
chosen device.
-/

namespace WebrtcFileSender.Net

open Signaling

/-! ## What an automatic send hands over -/

namespace Device

variable {device next : Device} {signals : List Json}

/-- The offer of the selected file. -/
def offer (device : Device) (url : FileURL) : Packet :=
  ⟨.ftOffer (url.lastPathComponent.getD "file") (u64 url.fileSize) RTCClient.chunkSize,
    some ⟨device.endpoint.client.clientId, device.endpoint.client.begun⟩⟩

/-- `onSend:` hands an offer to the channel, or leaves the channel alone. -/
theorem outgoing_onSend (device : Device) :
    (∃ url, device.sendableURL = some url ∧
      device.endpoint.client.sendSucceeds url = true ∧
      device.onSend.1.endpoint.client.outgoing =
        device.endpoint.client.outgoing ++ [device.offer url]) ∨
    ((∀ url, device.sendableURL = some url →
        device.endpoint.client.sendSucceeds url = false) ∧
      device.onSend.1.endpoint.client.outgoing = device.endpoint.client.outgoing) := by
  unfold onSend
  cases sendable : device.sendableURL with
  | none => exact .inr ⟨by simp, rfl⟩
  | some url =>
      dsimp only
      split
      case isTrue =>
        cases sent : device.endpoint.client.sendFileAtURL url with
        | error =>
            refine .inr ⟨?_, rfl⟩
            intro other same
            obtain rfl := Option.some.inj same
            rw [RTCClient.sendSucceeds, sent]
        | ok client =>
            obtain ⟨file, isOpen, -, -, -, -, rfl⟩ := RTCClient.sendFileAtURL_ok sent
            refine .inl ⟨url, rfl, by rw [RTCClient.sendSucceeds, sent], ?_⟩
            simp only [RTCClient.beginSending_eq, RTCClient.queued_of_isOpen isOpen, offer]
      case isFalse notOpen =>
        refine .inr ⟨?_, ?_⟩
        · intro other _
          have closed : device.endpoint.client.isDataChannelOpen = false :=
            Bool.eq_false_iff.mpr notOpen
          simp [RTCClient.sendSucceeds, RTCClient.sendFileAtURL, RTCClient.sendFileCheck, closed]
        · split <;> rfl

/-- A block of the main queue hands nothing to the channel itself. -/
theorem outgoing_runBlock (client : RTCClient) (block : MainBlock) :
    (client.runBlock block).1.outgoing = client.outgoing := by
  cases block with
  | iceConnectionLost =>
      simp only [RTCClient.runBlock]
      split <;> rfl
  | dataChannelStateDidChange | didReceivePeerName | didUpdateOnlinePeers
  | fileReceiveOffered | fileReceiveProgress | fileSendProgress | cleanup => rfl

theorem sendSucceeds_withMainQueue (client : RTCClient) (rest : List MainBlock)
    (url : FileURL) :
    RTCClient.sendSucceeds { client with mainQueue := rest } url =
      client.sendSucceeds url := by
  have sameCheck : RTCClient.sendFileCheck { client with mainQueue := rest } url =
      client.sendFileCheck url := rfl
  simp only [RTCClient.sendSucceeds, RTCClient.sendFileAtURL, sameCheck]
  cases client.sendFileCheck url <;> rfl

/-- A block that reports no open channel, or reports it to a container that waits for
none, hands over nothing. -/
theorem outgoing_handleAll_unopened {block : MainBlock} {rest : List MainBlock}
    {client : RTCClient} {calls : List DelegateCall}
    (unopened : ¬ (block = .dataChannelStateDidChange .Open ∧ device.pendingAutoSend = true))
    (ran : { device.endpoint.client with mainQueue := rest }.runBlock block = (client, calls)) :
    ((device.withClient client).handleAll calls).1.endpoint.client.outgoing =
      client.outgoing := by
  cases block with
  | dataChannelStateDidChange state =>
      obtain ⟨-, rfl⟩ := Prod.mk.inj ran
      have notBoth : ¬ (state = .Open ∧ device.pendingAutoSend = true) := by
        rintro ⟨rfl, pending⟩
        exact unopened ⟨rfl, pending⟩
      have ignored : (device.withClient client).dataChannelStateDidChange state =
          (device.withClient client, []) := if_neg notBoth
      simp only [handleAll, handle, ignored]
      rfl
  | didUpdateOnlinePeers peers =>
      obtain ⟨-, rfl⟩ := Prod.mk.inj ran
      rfl
  | iceConnectionLost | cleanup | didReceivePeerName | fileReceiveOffered
  | fileReceiveProgress | fileSendProgress =>
      obtain ⟨-, rfl⟩ := Prod.mk.inj ran
      simp [handleAll, handle, dataChannelStateDidChange, withClient]

/-- The main queue hands an offer of the selected file to the channel exactly where an
automatic send is reported. -/
theorem autoSends_iff_offers (ran : device.runMain = some (next, signals)) :
    device.autoSends = true ↔
      ∃ url, device.sendableURL = some url ∧
        next.endpoint.client.outgoing =
          device.endpoint.client.outgoing ++ [device.offer url] := by
  have unsent : next.endpoint.client.outgoing = device.endpoint.client.outgoing →
      ¬ ∃ url, device.sendableURL = some url ∧
        next.endpoint.client.outgoing =
          device.endpoint.client.outgoing ++ [device.offer url] := by
    rintro same ⟨url, -, grown⟩
    rw [same] at grown
    simpa using congrArg List.length grown
  simp only [runMain, RTCClient.act, Option.map_eq_some_iff, Prod.exists] at ran
  obtain ⟨client, calls, acted, handled⟩ := ran
  split at acted
  case h_1 => contradiction
  case h_2 block rest queue =>
    have result := Option.some.inj acted
    have sameOutgoing : client.outgoing = device.endpoint.client.outgoing := by
      have kept := outgoing_runBlock { device.endpoint.client with mainQueue := rest } block
      rw [result] at kept
      exact kept
    by_cases opened : block = .dataChannelStateDidChange .Open ∧ device.pendingAutoSend = true
    · obtain ⟨rfl, pending⟩ := opened
      obtain ⟨rfl, rfl⟩ := Prod.mk.inj result
      simp only [handleAll, handle, dataChannelStateDidChange, pending, and_self, if_true,
        Prod.mk.injEq] at handled
      obtain ⟨rfl, -⟩ := handled
      have reported : device.openReported = true := by
        simp [openReported, pending, queue]
      rcases outgoing_onSend (device.withClient
          { device.endpoint.client with mainQueue := rest }).clearPending with
        ⟨url, sendable, succeeds, grown⟩ | ⟨fails, same⟩
      · have sendable : device.sendableURL = some url := sendable
        have succeeds : device.endpoint.client.sendSucceeds url = true :=
          (sendSucceeds_withMainQueue _ rest url).symm.trans succeeds
        refine iff_of_true ?_ ⟨url, sendable, grown⟩
        simp [autoSends, reported, sendable, succeeds]
      · refine iff_of_false ?_ (unsent same)
        intro sends
        simp only [autoSends, Bool.and_eq_true, Option.any_eq_true] at sends
        obtain ⟨-, url, sendable, succeeds⟩ := sends
        have failed : device.endpoint.client.sendSucceeds url = false :=
          (sendSucceeds_withMainQueue _ rest url).symm.trans (fails url sendable)
        rw [failed] at succeeds
        contradiction
    · have unreported : ¬ device.autoSends = true := by
        intro sends
        simp only [autoSends, openReported, queue, List.head?_cons, Bool.and_eq_true,
          beq_iff_eq, Option.some.injEq] at sends
        exact opened ⟨sends.1.2, sends.1.1⟩
      refine iff_of_false unreported (unsent ?_)
      have same := outgoing_handleAll_unopened opened result
      rw [← sameOutgoing, ← same]
      exact congrArg (fun result => result.1.endpoint.client.outgoing) handled.symm

end Device

/-! ## The clients that may be reached -/

namespace System

/-- The clients whose descriptions reach `ws`: those the server pairs with it,
those with an offer or an answer on the way to it, and the authors of what is
applied or being applied. -/
def links (system : System) (ws : SocketId) : List SocketId :=
  (List.range system.server.connected).filter
      (fun other => system.server.pairPartner other == some ws) ++
    (system.downlink ws).filterMap
      (fun (message, origin) => if describes message then author origin else none) ++
    (system.device ws).endpoint.completions.filterMap Completion.author ++
    (system.device ws).endpoint.remote.toList

/-- The pending choice of a client, if there is one, is `other`. -/
def Agrees (system : System) (ws other : SocketId) : Prop :=
  (system.device ws).pendingAutoSend = true →
    (system.device ws).pendingPeerIP = some (system.server.clientIP other)

instance (system : System) (ws other : SocketId) : Decidable (system.Agrees ws other) :=
  inferInstanceAs (Decidable (_ → _))

/-- The pair that the server makes of a message. -/
def granted (server : Server) (ws : SocketId) (message : Json) : Option SocketId :=
  if message.stringField? "type" = some "pair_request" ∧ server.pairPartner ws = none then
    (server.validTarget ws message).filter fun target =>
      (server.pairPartner target).isNone
  else none

/-- A device is chosen only when no other client is linked to the one that
chooses, and a pair is granted only if it agrees with the pending choices of
both. -/
def Agreed (system : System) : Action → Prop
  | .act ws input => ∀ key ∈ (system.device ws).choice input,
      ∀ other ∈ system.links ws, system.server.clientIP other = key
  | .process ws => ∀ message ∈ (system.uplink ws).head?,
      ∀ target ∈ granted system.server ws message,
        system.Agrees ws target ∧ system.Agrees target ws
  | .server _ | .receive _ => True

instance (system : System) : (action : Action) → Decidable (system.Agreed action)
  | .act ws input => inferInstanceAs (Decidable (∀ key ∈ (system.device ws).choice input,
      ∀ other ∈ system.links ws, system.server.clientIP other = key))
  | .process ws => inferInstanceAs (Decidable (∀ message ∈ (system.uplink ws).head?,
      ∀ target ∈ granted system.server ws message,
        system.Agrees ws target ∧ system.Agrees target ws))
  | .server _ | .receive _ => .isTrue trivial

/-- `other` is linked to `ws`. -/
def Linked (system : System) (ws other : SocketId) : Prop :=
  system.server.pairPartner other = some ws ∨
    (∃ message, (message, Origin.relay other) ∈ system.downlink ws ∧
      describes message = true) ∨
    (system.device ws).endpoint.Reaches other

theorem mem_links {system : System} {ws other : SocketId}
    (known : other < system.server.connected)
    (linked : system.Linked ws other) :
    other ∈ system.links ws := by
  unfold links
  rcases linked with paired | ⟨message, inFlight, isDescription⟩ |
    applied | ⟨completion, waiting, isAuthor⟩
  · apply List.mem_append_left
    apply List.mem_append_left
    apply List.mem_append_left
    simp [known, paired]
  · apply List.mem_append_left
    apply List.mem_append_left
    apply List.mem_append_right
    exact List.mem_filterMap.mpr ⟨_, inFlight, by simp [isDescription, author]⟩
  · apply List.mem_append_right
    simp [applied]
  · apply List.mem_append_left
    apply List.mem_append_right
    exact List.mem_filterMap.mpr ⟨completion, waiting, isAuthor⟩

/-! ## The invariant -/

/-- Whoever is linked to a client with a pending choice is the choice, and so is
whoever is at the other end of its open channel. -/
structure AutoSendInvariant (system : System) : Prop where
  pairing : PairingInvariant system.server
  known : ∀ ws other, system.Linked ws other → other < system.server.connected
  agrees : ∀ ws other, system.Linked ws other → system.Agrees ws other
  channel : ∀ ws, (system.device ws).isDataChannelOpen = true →
    ∃ other, (system.device ws).endpoint.channelPeer = some other ∧
      other < system.server.connected ∧ system.Agrees ws other

namespace AutoSendInvariant

variable {system : System}

theorem initial (helloName : SocketId → String) :
    AutoSendInvariant (System.initial helloName) := by
  have nobody : ∀ ws other, ¬ (System.initial helloName).Linked ws other := by
    intro ws other linked
    rcases linked with paired | ⟨message, inFlight, -⟩ | applied | ⟨completion, waiting, -⟩
    · simp [System.initial, Server.initial] at paired
    · simp [System.initial] at inFlight
    · simp [System.initial, Device.initial, Endpoint.initial] at applied
    · simp [System.initial, Device.initial, Endpoint.initial] at waiting
  refine ⟨.initial, fun ws other linked => absurd linked (nobody ws other),
    fun ws other linked => absurd linked (nobody ws other), ?_⟩
  intro ws isOpen
  simp [System.initial, Device.initial, Endpoint.initial, Device.isDataChannelOpen,
    RTCClient.isDataChannelOpen, RTCClient.initial] at isOpen

/-! ## The server makes a step -/

/-- A pair after an event of the server was there before, or the event is the
request that is granted. -/
theorem paired_before {server next : Server} {event : Server.Event} {outputs : List Output}
    (stepped : server.step event = some (next, outputs))
    {ws other : SocketId} (paired : next.pairPartner other = some ws) :
    server.pairPartner other = some ws ∨
      ∃ sender message target, event = .message sender (some message) ∧
        granted server sender message = some target ∧
        ((other = sender ∧ ws = target) ∨ (other = target ∧ ws = sender)) := by
  cases Server.effect_of_step stepped with
  | connected =>
      by_cases isNew : other = server.connected
      · subst isNew
        simp [Server.onConnection] at paired
      · simp only [Server.onConnection, Function.update_of_ne isNew] at paired
        exact .inl paired
  | granted sender targetWs p alive target alone targetAlone notRelayed asked =>
      have isGranted : granted server sender p = some targetWs := by
        simp [granted, asked, alone, target, targetAlone, Option.filter]
      by_cases isTarget : other = targetWs
      · subst isTarget
        simp only [Server.grant, Function.update_self, Option.some.injEq] at paired
        exact .inr ⟨sender, p, other, rfl, isGranted, .inr ⟨rfl, paired.symm⟩⟩
      · simp only [Server.grant, Function.update_of_ne isTarget] at paired
        by_cases isSender : other = sender
        · subst isSender
          simp only [Function.update_self, Option.some.injEq] at paired
          exact .inr ⟨other, p, targetWs, rfl, isGranted, .inl ⟨rfl, paired.symm⟩⟩
        · rw [Function.update_of_ne isSender] at paired
          exact .inl paired
  | refused | listed | ignored | relayed | closing | fired => exact .inl paired
  | closed closedWs =>
      rw [Server.onClose_eq] at paired
      exact .inl (MatchingUpTo.depart_some paired).1

/-- What the server passes on to `ws` comes from the partner of `ws`. -/
theorem partner_of_relay {server next : Server} {event : Server.Event}
    {outputs : List Output}
    (stepped : server.step event = some (next, outputs))
    {ws other : SocketId} {message : Json}
    (sent : (message, Origin.relay other) ∈ sentTo ws outputs) :
    server.pairPartner other = some ws := by
  cases Server.sent_of_step stepped (mem_of_sentTo sent) with
  | relayed sender receiver p isMessage relayable paired => exact paired

theorem sender_known
    (invariant : AutoSendInvariant system)
    {sender : SocketId} (present : system.server.readyState sender ≠ .CLOSED) :
    sender < system.server.connected := by
  by_contra beyond
  exact present (invariant.pairing.unconnected (Nat.not_lt.mp beyond))

/-- A step of the server keeps the invariant when the pair it makes agrees with
the pending choices. -/
theorem served
    (invariant : AutoSendInvariant system)
    {event : Server.Event} {next : Server} {outputs : List Output}
    (stepped : system.server.step event = some (next, outputs))
    (agreed : ∀ sender message target, event = .message sender (some message) →
      granted system.server sender message = some target →
      system.Agrees sender target ∧ system.Agrees target sender) :
    AutoSendInvariant (system.served next outputs) := by
  have grows := Server.connected_mono_step stepped
  have linkedBefore : ∀ ws other, (system.served next outputs).Linked ws other →
      system.Linked ws other ∨
        (other < system.server.connected ∧ system.Agrees ws other) := by
    intro ws other linked
    rcases linked with paired | ⟨message, inFlight, isDescription⟩ | reached
    · rcases paired_before stepped paired with
        before | ⟨sender, message, target, isMessage, isGranted, same⟩
      · exact .inl (.inl before)
      · obtain ⟨agreesSender, agreesTarget⟩ := agreed sender message target isMessage isGranted
        have targetKnown : target < system.server.connected ∧
            sender < system.server.connected := by
          subst isMessage
          have isTarget : system.server.validTarget sender message = some target := by
            unfold granted at isGranted
            split at isGranted
            · exact (Option.filter_eq_some_iff.mp isGranted).1
            · contradiction
          obtain ⟨-, present, -⟩ := invariant.pairing.validTarget_spec isTarget
          refine ⟨invariant.sender_known present, invariant.sender_known ?_⟩
          intro closed
          simp [Server.step, closed] at stepped
        rcases same with ⟨rfl, rfl⟩ | ⟨rfl, rfl⟩
        · exact .inr ⟨targetKnown.2, agreesTarget⟩
        · exact .inr ⟨targetKnown.1, agreesSender⟩
    · rcases List.mem_append.mp inFlight with old | new
      · exact .inl (.inr (.inl ⟨message, old, isDescription⟩))
      · exact .inl (.inl (partner_of_relay stepped new))
    · exact .inl (.inr (.inr reached))
  have stillAgrees : ∀ ws other, other < system.server.connected →
      system.Agrees ws other → (system.served next outputs).Agrees ws other := by
    intro ws other isKnown agrees pending
    have sameKey : next.clientIP other = system.server.clientIP other :=
      Server.clientIP_step isKnown stepped
    exact (agrees pending).trans (congrArg some sameKey.symm)
  have wasKnown : ∀ ws other, (system.served next outputs).Linked ws other →
      other < system.server.connected := by
    intro ws other linked
    rcases linkedBefore ws other linked with before | ⟨isKnown, -⟩
    · exact invariant.known ws other before
    · exact isKnown
  refine ⟨invariant.pairing.step stepped, ?_, ?_, ?_⟩
  · intro ws other linked
    exact Nat.lt_of_lt_of_le (wasKnown ws other linked) grows
  · intro ws other linked
    apply stillAgrees ws other (wasKnown ws other linked)
    rcases linkedBefore ws other linked with before | ⟨-, agrees⟩
    · exact invariant.agrees ws other before
    · exact agrees
  · intro ws isOpen
    obtain ⟨other, isPeer, isKnown, agrees⟩ := invariant.channel ws isOpen
    exact ⟨other, isPeer, Nat.lt_of_lt_of_le isKnown grows,
      stillAgrees ws other isKnown agrees⟩

/-! ## A client makes a step -/

/-- The invariant after a change at one client that leaves the server alone. -/
theorem at_device
    (invariant : AutoSendInvariant system)
    {following : System} {ws : SocketId}
    (sameServer : following.server = system.server)
    (sameDevice : ∀ other, other ≠ ws → following.device other = system.device other)
    (sameDownlink : ∀ other, other ≠ ws → following.downlink other = system.downlink other)
    (linked : ∀ other, following.Linked ws other → system.Linked ws other)
    (agrees : ∀ other, system.Linked ws other → following.Agrees ws other)
    (channel : (following.device ws).isDataChannelOpen = true →
      ∃ other, (following.device ws).endpoint.channelPeer = some other ∧
        other < system.server.connected ∧ following.Agrees ws other) :
    AutoSendInvariant following := by
  have elsewhere : ∀ owner other, owner ≠ ws →
      (following.Linked owner other → system.Linked owner other) ∧
      (system.Agrees owner other → following.Agrees owner other) := by
    intro owner other notWs
    rw [Linked, Linked, Agrees, Agrees, sameServer, sameDevice owner notWs,
      sameDownlink owner notWs]
    exact ⟨id, id⟩
  refine ⟨by rw [sameServer]; exact invariant.pairing, ?_, ?_, ?_⟩
  · intro owner other isLinked
    rw [sameServer]
    by_cases isWs : owner = ws
    · subst isWs
      exact invariant.known owner other (linked other isLinked)
    · exact invariant.known owner other ((elsewhere owner other isWs).1 isLinked)
  · intro owner other isLinked
    by_cases isWs : owner = ws
    · subst isWs
      exact agrees other (linked other isLinked)
    · obtain ⟨before, after⟩ := elsewhere owner other isWs
      exact after (invariant.agrees owner other (before isLinked))
  · intro owner isOpen
    rw [sameServer]
    by_cases isWs : owner = ws
    · subst isWs
      exact channel isOpen
    · rw [sameDevice owner isWs] at isOpen ⊢
      obtain ⟨other, isPeer, isKnown, agrees⟩ := invariant.channel owner isOpen
      exact ⟨other, isPeer, isKnown, (elsewhere owner other isWs).2 agrees⟩

theorem acted
    (invariant : AutoSendInvariant system)
    {ws : SocketId} {input : Input} {next : Device} {signals : List Json}
    (agreed : system.Agreed (.act ws input))
    (stepped : (system.device ws).step input = some (next, signals)) :
    AutoSendInvariant (system.acted ws next signals) := by
  have change := Device.change_of_step stepped
  have atWs : (system.acted ws next signals).device ws = next := Function.update_self ..
  have linked : ∀ other, (system.acted ws next signals).Linked ws other →
      system.Linked ws other := by
    intro other isLinked
    rcases isLinked with paired | inFlight | reached
    · exact .inl paired
    · exact .inr (.inl inFlight)
    · rw [atWs] at reached
      exact .inr (.inr (change.reaches other reached))
  -- A choice that is made now names every linked client; one that stays did so before.
  have agrees : ∀ other, system.Linked ws other →
      (system.acted ws next signals).Agrees ws other := by
    intro other isLinked pending
    rw [atWs] at pending ⊢
    rcases change.pending pending with ⟨wasPending, same⟩ | ⟨key, chosen, isPending, -⟩
    · rw [same]
      exact invariant.agrees ws other isLinked wasPending
    · have isKnown := invariant.known ws other isLinked
      rw [isPending, ← agreed key chosen other (mem_links isKnown isLinked)]
      rfl
  refine invariant.at_device rfl ?_ (fun _ _ => rfl) linked agrees ?_
  · intro other notWs
    exact Function.update_of_ne notWs ..
  · intro isOpen
    rw [atWs] at isOpen ⊢
    rcases change.channel isOpen with ⟨wasOpen, samePeer⟩ | ⟨peer, reached, isPeer⟩
    · obtain ⟨other, wasPeer, isKnown, agreedBefore⟩ := invariant.channel ws wasOpen
      refine ⟨other, samePeer.trans wasPeer, isKnown, ?_⟩
      intro pending
      rw [atWs] at pending ⊢
      rcases change.pending pending with ⟨wasPending, same⟩ | ⟨key, -, -, notOpen⟩
      · rw [same]
        exact agreedBefore wasPending
      · rw [notOpen] at isOpen
        contradiction
    · have isLinked : system.Linked ws peer := .inr (.inr reached)
      exact ⟨peer, isPeer, invariant.known ws peer isLinked, agrees peer isLinked⟩

/-- A signal arrives. -/
theorem received
    (invariant : AutoSendInvariant system)
    {ws : SocketId} {message : Json} {origin : Origin} {rest : List (Json × Origin)}
    (queue : system.downlink ws = (message, origin) :: rest) :
    AutoSendInvariant
      { system with
        device := Function.update system.device ws
          { system.device ws with
            endpoint := (system.device ws).endpoint.receiveSignal message (author origin) }
        downlink := Function.update system.downlink ws rest } := by
  obtain ⟨reaches, channel⟩ :=
    (system.device ws).endpoint.receiveSignal_change message (author origin)
  refine invariant.at_device rfl
    (fun other (notWs : other ≠ ws) => Function.update_of_ne notWs ..)
    (fun other notWs => Function.update_of_ne notWs ..) ?_ ?_ ?_
  · intro other isLinked
    rcases isLinked with paired | ⟨given, inFlight, isDescription⟩ | reached
    · exact .inl paired
    · dsimp only at inFlight
      rw [Function.update_self] at inFlight
      refine .inr (.inl ⟨given, ?_, isDescription⟩)
      rw [queue]
      exact List.mem_cons_of_mem _ inFlight
    · dsimp only at reached
      rw [Function.update_self] at reached
      rcases reaches other reached with before | ⟨isDescription, isAuthor⟩
      · exact .inr (.inr before)
      · refine .inr (.inl ⟨message, ?_, isDescription⟩)
        cases origin with
        | server => contradiction
        | relay sender =>
            obtain rfl : sender = other := Option.some.inj isAuthor
            rw [queue]
            exact List.mem_cons_self
  · intro other isLinked pending
    dsimp only at pending ⊢
    rw [Function.update_self] at pending ⊢
    exact invariant.agrees ws other isLinked pending
  · intro isOpen
    dsimp only at isOpen ⊢
    rw [Function.update_self] at isOpen ⊢
    obtain ⟨wasOpen, samePeer⟩ := channel isOpen
    obtain ⟨other, wasPeer, isKnown, agrees⟩ := invariant.channel ws wasOpen
    refine ⟨other, samePeer.trans wasPeer, isKnown, ?_⟩
    intro pending
    dsimp only at pending ⊢
    rw [Function.update_self] at pending ⊢
    exact agrees pending

/-- One allowed action keeps the invariant, and an automatic send that it makes
goes to the pending device. -/
theorem step
    (invariant : AutoSendInvariant system)
    {action : Action} {following : System} {fresh : List Event}
    (agreed : system.Agreed action)
    (stepped : system.step action = some (following, fresh)) :
    AutoSendInvariant following ∧
      ∀ ws pendingPeerIP peerKey, .autoSent ws pendingPeerIP peerKey ∈ fresh →
        ∃ key, pendingPeerIP = some key ∧ peerKey = some key := by
  obtain ⟨effect, rfl⟩ := effect_of_step stepped
  generalize system.serverOutputs action = outputs at effect
  cases effect with
  | served event next outputs notMessage serverStepped =>
      refine ⟨invariant.served serverStepped ?_, by simp [reported]⟩
      intro sender message target isMessage
      exact absurd isMessage (notMessage sender (some message))
  | processed ws message rest next outputs queue serverStepped =>
      have sameLinks : AutoSendInvariant
          { system with uplink := Function.update system.uplink ws rest } :=
        ⟨invariant.pairing, invariant.known, invariant.agrees, invariant.channel⟩
      refine ⟨sameLinks.served serverStepped ?_, by simp [reported]⟩
      intro sender given target isMessage isGranted
      obtain ⟨rfl, same⟩ := Server.Event.message.inj isMessage
      obtain rfl := Option.some.inj same
      exact agreed message (by simp [queue]) target isGranted
  | received ws message origin rest queue =>
      exact ⟨invariant.received queue, by simp [reported]⟩
  | acted ws input next signals known deviceStepped =>
      refine ⟨invariant.acted agreed deviceStepped, ?_⟩
      intro owner pendingPeerIP peerKey sent
      cases input with
      | runMain =>
          simp only [reported, events] at sent
          split at sent
          case isFalse => contradiction
          case isTrue sends =>
            obtain ⟨pending, isOpen⟩ := Device.autoSends_spec sends
            obtain ⟨other, isPeer, -, agrees⟩ := invariant.channel ws isOpen
            obtain ⟨-, rfl, rfl⟩ := Event.autoSent.inj (List.mem_singleton.mp sent)
            refine ⟨system.server.clientIP other, agrees pending, ?_⟩
            rw [isPeer]
            rfl
      | chooseFile | selectRow | send | refreshOnlinePeers | complete | generateIceCandidate
      | channelState | replacedChannelState | openDataChannel | transfer => contradiction

end AutoSendInvariant

/-- **An automatic send goes to the chosen device.** Take any run of the server
and its clients in which a device is chosen only while no other client is linked
to the one that chooses, and the server grants only pairs that agree with the
pending choices of both. Whenever the report of an open channel leads to a
successful automatic send, the client at the other end of the channel is the one
whose key was pending. -/
theorem autoSend_goes_to_chosen_device
    {helloName : SocketId → String} {actions : List Action} {history : List Event}
    {final : System}
    (run : SystemRun helloName Agreed actions history final)
    {ws : SocketId} {pendingPeerIP peerKey : Option String}
    (sent : .autoSent ws pendingPeerIP peerKey ∈ history) :
    ∃ key, pendingPeerIP = some key ∧ peerKey = some key := by
  have holds := run.invariant
    (fun history system => AutoSendInvariant system ∧
      ∀ ws pendingPeerIP peerKey, .autoSent ws pendingPeerIP peerKey ∈ history →
        ∃ key, pendingPeerIP = some key ∧ peerKey = some key)
    ⟨.initial helloName, by simp⟩
    (by
      intro history system action following fresh before agreed stepped
      obtain ⟨invariant, earlier⟩ := before
      obtain ⟨after, now⟩ := invariant.step agreed stepped
      refine ⟨after, ?_⟩
      intro ws pendingPeerIP peerKey member
      rcases List.mem_append.mp member with old | new
      · exact earlier ws pendingPeerIP peerKey old
      · exact now ws pendingPeerIP peerKey new)
  exact holds.2 ws pendingPeerIP peerKey sent

/-! ## Two runs -/

/-- Three clients connect and see each other; the first and the third choose a
file. -/
def gathered : List Action :=
  let notes : Selection := ⟨.ofFile "notes.txt" ⟨[1, 2], File.bounded_notes⟩, false⟩
  [.server (.connection (some "a") (some 1)), .server (.connection (some "b") (some 2)),
    .server (.connection (some "c") (some 3)),
    .receive 0, .receive 0, .receive 0, .receive 2,
    .act 0 .runMain, .act 0 .runMain, .act 0 .runMain, .act 2 .runMain,
    .act 0 (.chooseFile (some notes)), .act 2 (.chooseFile (some notes))]

/-- After a granted request the offerer creates its offer, and the server passes
it on. -/
def offered (offerer : SocketId) : List Action :=
  [.server (.timeout 0), .receive offerer, .receive offerer,
    .act offerer (.complete 0 (some "sdp of the offer")),
    .act offerer (.complete 0 (some "")), .process offerer]

/-- The answerer handles the offer, which is the last of its messages, and its
answer is applied. -/
def answered (offerer answerer : SocketId) (messages : Nat) : List Action :=
  List.replicate messages (.receive answerer) ++
    [.act answerer (.complete 0 (some "")),
      .act answerer (.complete 0 (some "sdp of the answer")),
      .act answerer (.complete 0 (some "")), .process answerer,
      .receive offerer, .act offerer (.complete 0 (some ""))]

/-- The first client chooses the second, and their channel opens. -/
def chosenRun : List Action :=
  gathered ++ [.act 0 (.selectRow (some 0)), .process 0] ++ offered 0 ++ answered 0 1 4 ++
    [.act 0 (.channelState 1 .Open), .act 0 .runMain]

theorem autoSend_goes_to_chosen_device_chosenRun :
    ∃ history final,
      SystemRun (fun _ => "mac#001") Agreed chosenRun history final ∧
      .autoSent 0 (some "b:2") (some "b:2") ∈ history ∧
      ∃ key, some "b:2" = some key ∧ some "b:2" = some key := by
  obtain ⟨final, history, run, checked⟩ :
      ∃ final history,
        SystemRun (fun _ => "mac#001") Agreed chosenRun history final ∧
        decide (.autoSent 0 (some "b:2") (some "b:2") ∈ history) = true :=
    Machine.run_of_exec_any (fun (_ : System) (history : List Event) =>
      decide (.autoSent 0 (some "b:2") (some "b:2") ∈ history)) (by decide)
  have sent := of_decide_eq_true checked
  exact ⟨history, final, run, sent, autoSend_goes_to_chosen_device run sent⟩

/-- The first client chooses the second; before the server handles its request,
the third has been paired with it. The request is refused as busy, the choice
stays pending, and the channel to the third client opens. -/
def crossedRun : List Action :=
  gathered ++ [.act 0 (.selectRow (some 0)), .act 2 (.selectRow (some 0)),
    .process 2, .process 0] ++ offered 2 ++ answered 2 0 3 ++
    [.act 0 (.openDataChannel 2 .Open), .act 0 .runMain]

/-- The file chosen for the second client is offered to the third. -/
theorem autoSend_goes_to_other_device :
    ∃ history final,
      SystemRun (fun _ => "mac#001") Machine.free crossedRun history final ∧
      ∃ ws pendingPeerIP peerKey, .autoSent ws pendingPeerIP peerKey ∈ history ∧
        ¬ ∃ key, pendingPeerIP = some key ∧ peerKey = some key := by
  obtain ⟨final, history, run, checked⟩ :
      ∃ final history,
        SystemRun (fun _ => "mac#001") Machine.free crossedRun history final ∧
        decide (.autoSent 0 (some "b:2") (some "c:3") ∈ history) = true :=
    Machine.run_of_exec_any (fun (_ : System) (history : List Event) =>
      decide (.autoSent 0 (some "b:2") (some "c:3") ∈ history)) (by decide)
  refine ⟨history, final, run, 0, some "b:2", some "c:3", of_decide_eq_true checked, ?_⟩
  rintro ⟨key, isPending, isPeer⟩
  have same : some "b:2" = some "c:3" := isPending.trans isPeer.symm
  simp at same

end System

end WebrtcFileSender.Net
