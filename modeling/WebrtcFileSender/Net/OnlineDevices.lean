import WebrtcFileSender.Net.Quiescence
import WebrtcFileSender.Signaling.Directory

/-!
Contract: the device list on the send page follows the registry of the server.

A list is written by the server, waits on the link, waits again as a block of the main
queue, and is shown. Every list replaces the one before.

Owns: the list that a page will have shown when all that is on the way has arrived, that
only the server changes it, and what it names.

Does not own: the row that is selected in the list.
-/

namespace WebrtcFileSender.Net

open Signaling

/-! ## The last of a queue -/

section Latest

variable {α : Type}

/-- What is shown when all that waits has been shown. -/
def latest (shown : α) (waiting : List α) : α :=
  waiting.getLast?.getD shown

theorem latest_cons (shown head : α) (rest : List α) :
    latest shown (head :: rest) = latest head rest := by
  simp [latest, List.getLast?_cons]

theorem latest_append (shown : α) (left right : List α) :
    latest shown (left ++ right) = latest (latest shown left) right := by
  unfold latest
  rw [List.getLast?_append]
  cases right.getLast? with
  | none => rfl
  | some last => rfl

theorem latest_of_forall {shown last : α} {waiting : List α} (nonempty : waiting ≠ [])
    (same : ∀ value ∈ waiting, value = last) : latest shown waiting = last := by
  unfold latest
  rw [List.getLast?_eq_some_getLast nonempty]
  exact same _ (List.getLast_mem nonempty)

end Latest

/-! ## Lists on the way -/

/-- What `applyOnlinePeers:` shows of a list. -/
def shownPeers (peers : List OnlinePeer) : List OnlinePeer :=
  peers.filterMap fun peer =>
    if peer.ip = "" then none
    else some (OnlinePeer.mk peer.ip (if peer.name = "" then peer.ip else peer.name))

/-- The lists among the blocks of the main queue, as they will be shown. -/
def pendingLists (mainQueue : List MainBlock) : List (List OnlinePeer) :=
  mainQueue.filterMap fun
    | .didUpdateOnlinePeers peers => some (shownPeers peers)
    | _ => none

/-- The list that a message will show. -/
def listOf? (message : Json) : Option (List OnlinePeer) :=
  if message.stringField? "type" = some "peers" then
    some (shownPeers (Endpoint.onlinePeers message))
  else none

/-- The lists among the messages on a link. -/
def arrivingLists (downlink : List (Json × Origin)) : List (List OnlinePeer) :=
  downlink.filterMap fun sent => listOf? sent.1

theorem pendingLists_append (left right : List MainBlock) :
    pendingLists (left ++ right) = pendingLists left ++ pendingLists right :=
  List.filterMap_append

theorem arrivingLists_append (left right : List (Json × Origin)) :
    arrivingLists (left ++ right) = arrivingLists left ++ arrivingLists right :=
  List.filterMap_append

/-- A block that brings no list. -/
def Listless (block : MainBlock) : Prop :=
  ∀ peers, block ≠ .didUpdateOnlinePeers peers

theorem pendingLists_listless {blocks : List MainBlock}
    (listless : ∀ block ∈ blocks, Listless block) : pendingLists blocks = [] := by
  apply List.filterMap_eq_nil_iff.mpr
  intro block member
  have brings := listless block member
  cases block with
  | didUpdateOnlinePeers peers => exact absurd rfl (brings peers)
  | dataChannelStateDidChange | iceConnectionLost | didReceivePeerName | fileReceiveOffered
  | fileReceiveProgress | fileSendProgress | cleanup => rfl

theorem pendingLists_grown {before after blocks : List MainBlock}
    (grown : after = before ++ blocks) (listless : ∀ block ∈ blocks, Listless block) :
    pendingLists after = pendingLists before := by
  rw [grown, pendingLists_append, pendingLists_listless listless, List.append_nil]

/-! ## One client -/

/-- The transfer half adds no list. -/
theorem pendingLists_of_effect {client next : RTCClient} {input : RTCClient.Input}
    {calls : List DelegateCall}
    (effect : RTCClient.Effect client input next calls) (notMain : input ≠ .runMain) :
    pendingLists next.mainQueue = pendingLists client.mainQueue := by
  cases effect with
  | reported | iceLost | iceIdle | cleaned => exact absurd rfl notMain
  | began =>
      rw [RTCClient.beginSending_eq]
  | cancelled =>
      rw [RTCClient.cancelFileTransfer_eq]
      exact pendingLists_grown rfl (by simp [Listless])
  | rejected reason =>
      rw [RTCClient.rejectIncomingFileWithReason_eq]
      exact pendingLists_grown rfl (by simp [Listless])
  | looped given loop rest =>
      obtain ⟨handle, sent, packets, blocks, result, change⟩ :=
        client.loopStatement_change loop.transfer given loop.point
      rw [result]
      refine pendingLists_grown rfl ?_
      rintro block member peers rfl
      rcases change.dispatches _ member with ⟨progress, same⟩ | ⟨error, -, same⟩
      · contradiction
      · contradiction
  | channelChanged state =>
      obtain ⟨outgoing, result⟩ := client.dataChannelDidChangeState_eq state
      rw [result]
      exact pendingLists_grown rfl (by simp [Listless])
  | greeted | offered | unopened | ended | writeFailed | stored | completed | iceChanged =>
      exact pendingLists_grown rfl (by simp [Listless])
  | accepted | busy | started | transmitted | nothing => rfl

namespace Device

variable {device next : Device} {input : Input} {signals : List Json}

/-- What the page will show, up to what is on the link. -/
def upcoming (device : Device) (arriving : List (List OnlinePeer)) : List OnlinePeer :=
  latest device.onlinePeers
    (pendingLists device.endpoint.client.mainQueue ++ arriving)

theorem upcoming_same {arriving : List (List OnlinePeer)}
    (sameList : next.onlinePeers = device.onlinePeers)
    (sameQueue : pendingLists next.endpoint.client.mainQueue =
      pendingLists device.endpoint.client.mainQueue) :
    next.upcoming arriving = device.upcoming arriving := by
  rw [upcoming, upcoming, sameList, sameQueue]

theorem upcoming_onSend (device : Device) (arriving : List (List OnlinePeer)) :
    device.onSend.1.upcoming arriving = device.upcoming arriving := by
  unfold onSend
  split
  case h_1 => rfl
  case h_2 url sendable =>
    split
    case isTrue =>
      split
      case h_1 => rfl
      case h_2 client sent =>
        obtain ⟨file, -, -, -, -, -, rfl⟩ := RTCClient.sendFileAtURL_ok sent
        rw [RTCClient.beginSending_eq]
        rfl
    case isFalse => split <;> rfl

/-- The first block of the main queue is shown, if it is a list. -/
theorem upcoming_runMain (ran : device.runMain = some (next, signals))
    (arriving : List (List OnlinePeer)) :
    next.upcoming arriving = device.upcoming arriving := by
  simp only [runMain, RTCClient.act, Option.map_eq_some_iff, Prod.exists] at ran
  obtain ⟨client, calls, acted, handled⟩ := ran
  split at acted
  case h_1 => contradiction
  case h_2 block rest queue =>
    have result := Option.some.inj acted
    cases block with
    | didUpdateOnlinePeers peers =>
        obtain ⟨rfl, rfl⟩ := Prod.mk.inj result
        obtain ⟨rfl, -⟩ := Prod.mk.inj handled
        have first : pendingLists device.endpoint.client.mainQueue =
            shownPeers peers :: pendingLists rest := by
          rw [queue]
          rfl
        rw [upcoming, upcoming, first, List.cons_append, latest_cons]
        rfl
    | dataChannelStateDidChange state =>
        have popped : pendingLists device.endpoint.client.mainQueue = pendingLists rest := by
          rw [queue]
          rfl
        obtain ⟨rfl, rfl⟩ := Prod.mk.inj result
        simp only [handleAll, handle, dataChannelStateDidChange, List.append_nil] at handled
        split at handled
        case isTrue =>
          generalize cleared : clearPending _ = waiting at handled
          have sent : waiting.onSend.1 = next := congrArg Prod.fst handled
          rw [← sent, upcoming_onSend, ← cleared]
          exact upcoming_same rfl popped.symm
        case isFalse =>
          obtain ⟨rfl, -⟩ := Prod.mk.inj handled
          exact upcoming_same rfl popped.symm
    | iceConnectionLost =>
        have popped : pendingLists device.endpoint.client.mainQueue = pendingLists rest := by
          rw [queue]
          rfl
        obtain ⟨rfl, rfl⟩ := Prod.mk.inj result
        simp only [handleAll, handle, dataChannelStateDidChange, reduceCtorEq, false_and,
          if_false] at handled
        obtain ⟨rfl, -⟩ := Prod.mk.inj handled
        refine upcoming_same rfl ?_
        rw [popped]
        dsimp only
        split
        · exact pendingLists_grown rfl (by simp [Listless])
        · rfl
    | cleanup | didReceivePeerName | fileReceiveOffered | fileReceiveProgress
    | fileSendProgress =>
        have popped : pendingLists device.endpoint.client.mainQueue = pendingLists rest := by
          rw [queue]
          rfl
        obtain ⟨rfl, rfl⟩ := Prod.mk.inj result
        obtain ⟨rfl, -⟩ := Prod.mk.inj handled
        exact upcoming_same rfl popped.symm

/-- Nothing that a client does by itself changes what it will have shown. -/
theorem upcoming_of_step
    (stepped : device.step input = some (next, signals)) (arriving : List (List OnlinePeer)) :
    next.upcoming arriving = device.upcoming arriving := by
  cases input with
  | chooseFile | refreshOnlinePeers | generateIceCandidate =>
      simp only [step, Option.some.injEq, Prod.mk.injEq] at stepped
      obtain ⟨rfl, -⟩ := stepped
      rfl
  | selectRow row =>
      simp only [step, Option.some.injEq] at stepped
      have same : (device.tableViewSelectionDidChange row).1.upcoming arriving =
          device.upcoming arriving := by
        unfold tableViewSelectionDidChange
        dsimp only
        split
        · rfl
        · unfold onSelectPeerIP
          split <;> rfl
      rw [stepped] at same
      exact same
  | send =>
      simp only [step, Option.some.injEq] at stepped
      have same := device.upcoming_onSend arriving
      rw [stepped] at same
      exact same
  | runMain => exact upcoming_runMain stepped arriving
  | complete index result =>
      simp only [step, Option.map_eq_some_iff, Prod.exists, Prod.mk.injEq] at stepped
      obtain ⟨endpoint, sent, completes, rfl, -⟩ := stepped
      obtain ⟨completion, -, handled⟩ := Option.map_eq_some_iff.mp completes
      refine upcoming_same rfl ?_
      cases result with
      | none =>
          obtain ⟨rfl, -⟩ := Prod.mk.inj handled
          rfl
      | some created =>
          cases completion with
          | offerForConstraints | answerForConstraints | setLocalOffer | setLocalAnswer
          | setRemoteOffer | setRemoteAnswer =>
              obtain ⟨rfl, -⟩ := Prod.mk.inj handled
              rfl
  | channelState peer state =>
      simp only [step] at stepped
      split at stepped
      case isFalse => contradiction
      case isTrue =>
        simp only [Option.some.injEq, Prod.mk.injEq] at stepped
        obtain ⟨rfl, -⟩ := stepped
        refine upcoming_same rfl ?_
        obtain ⟨outgoing, result⟩ :=
          device.endpoint.client.dataChannelDidChangeState_eq state
        simp only [Endpoint.dataChannelDidChangeState, result]
        exact pendingLists_grown rfl (by simp [Listless])
  | replacedChannelState state =>
      simp only [step, Option.some.injEq, Prod.mk.injEq] at stepped
      obtain ⟨rfl, -⟩ := stepped
      refine upcoming_same rfl ?_
      simp only [Endpoint.replacedChannelDidChangeState]
      split
      · rw [RTCClient.sendHello, RTCClient.sendControlJSON_eq]
        exact pendingLists_grown rfl (by simp [Listless])
      · exact pendingLists_grown rfl (by simp [Listless])
  | openDataChannel peer state =>
      simp only [step] at stepped
      split at stepped
      case isFalse => contradiction
      case isTrue =>
        simp only [Option.some.injEq, Prod.mk.injEq] at stepped
        obtain ⟨rfl, -⟩ := stepped
        refine upcoming_same rfl ?_
        unfold Endpoint.didOpenDataChannel
        split
        · rfl
        · exact pendingLists_grown rfl (by simp [Listless])
  | transfer given =>
      simp only [step] at stepped
      split at stepped
      case isFalse => contradiction
      case isTrue isTransfer =>
        simp only [Option.map_eq_some_iff, Prod.exists, Prod.mk.injEq] at stepped
        obtain ⟨client, calls, acted, rfl, -⟩ := stepped
        refine upcoming_same rfl (pendingLists_of_effect (RTCClient.effect_of_act acted) ?_)
        rintro rfl
        contradiction

end Device

/-- A list that arrives is dispatched to the main queue. -/
theorem pendingLists_receiveSignal (endpoint : Endpoint) (message : Json)
    (author : Option SocketId) :
    pendingLists (endpoint.receiveSignal message author).client.mainQueue =
      pendingLists endpoint.client.mainQueue ++ (listOf? message).toList := by
  by_cases isPeers : message.stringField? "type" = some "peers"
  · have received : (endpoint.receiveSignal message author).client.mainQueue =
        endpoint.client.mainQueue ++
          [.didUpdateOnlinePeers (Endpoint.onlinePeers message)] := by
      simp [Endpoint.receiveSignal, isPeers, RTCClient.dispatchMain]
    rw [received, pendingLists_append, listOf?, if_pos isPeers]
    rfl
  · have unchanged : pendingLists endpoint.client.mainQueue =
        pendingLists endpoint.client.mainQueue ++ (listOf? message).toList := by
      rw [listOf?, if_neg isPeers]
      exact (List.append_nil _).symm
    unfold Endpoint.receiveSignal
    dsimp only
    split
    · exact unchanged
    · split
      · unfold Endpoint.receivePeerJoined
        dsimp only
        split <;> exact unchanged
      · split
        · rw [← unchanged]
          exact pendingLists_grown rfl (by simp [Listless])
        · split
          · exact unchanged
          · split
            · exact unchanged
            · split
              · exact unchanged
              · split
                · unfold Endpoint.receiveCandidate
                  split <;> exact unchanged
                · exact unchanged

/-! ## The lists of the server -/

/-- A key as it is shown: it is the address and the name. -/
def entryOf (key : String) : OnlinePeer := ⟨key, key⟩

theorem connectionKey_ne_empty (remoteAddress : Option String) (remotePort : Option Nat) :
    Server.connectionKey remoteAddress remotePort ≠ "" := by
  unfold Server.connectionKey
  cases remoteAddress with
  | none =>
      dsimp only
      split <;> simp
  | some address =>
      by_cases empty : address = ""
      · simp only [empty, if_true]
        split <;> simp
      · simp only [empty, if_false]
        split
        · simp
        · exact empty

/-- No client is registered without a key. -/
def Keyed (server : Server) : Prop :=
  ∀ key ∈ OrderedMap.keys server.clientsByIP, key ≠ ""

theorem Keyed.step {server next : Server} {event : Server.Event} {outputs : List Output}
    (keyed : Keyed server) (stepped : server.step event = some (next, outputs)) :
    Keyed next := by
  cases Server.effect_of_step stepped with
  | connected remoteAddress remotePort =>
      intro key member
      rcases OrderedMap.mem_of_mem_set member with same | old
      · rw [same]
        exact connectionKey_ne_empty remoteAddress remotePort
      · exact keyed key old
  | granted | refused | listed | ignored | relayed | closing | fired => exact keyed
  | closed ws =>
      rw [Server.onClose_eq]
      intro key member
      apply keyed key
      simp only [Server.unregister] at member
      split at member
      · exact (List.Sublist.map _ List.filter_sublist).subset member
      · exact member

/-- What is shown of an address that names itself. -/
theorem filterMap_named {α : Type} {entries : List α} {key : α → String}
    {read : α → Option OnlinePeer}
    (reads : ∀ entry ∈ entries, key entry ≠ "" → read entry = some (entryOf (key entry)))
    (nonempty : ∀ entry ∈ entries, key entry ≠ "") :
    entries.filterMap read = entries.map fun entry => entryOf (key entry) := by
  rw [← List.filterMap_eq_map']
  apply List.filterMap_congr
  intro entry member
  exact reads entry member (nonempty entry member)

/-- A list of keys is shown as it was written. -/
theorem listOf?_peersMessage {keys : List String} (nonempty : ∀ key ∈ keys, key ≠ "") :
    listOf? (Server.peersMessage (keys.map Server.peerEntry)) = some (keys.map entryOf) := by
  have isPeers : (Server.peersMessage (keys.map Server.peerEntry)).stringField? "type" =
      some "peers" := rfl
  have read : Endpoint.onlinePeers (Server.peersMessage (keys.map Server.peerEntry)) =
      keys.map entryOf := by
    have fields : Endpoint.onlinePeers (Server.peersMessage (keys.map Server.peerEntry)) =
        (keys.map Server.peerEntry).filterMap fun entry =>
          let ip := (entry.stringField? "ip").getD ""
          let name := (entry.stringField? "name").getD ""
          if ip = "" then none else some ⟨ip, if name = "" then ip else name⟩ := rfl
    rw [fields, List.filterMap_map]
    refine filterMap_named ?_ nonempty
    intro key _ given
    have named : (Server.peerEntry key).stringField? "ip" = some key ∧
        (Server.peerEntry key).stringField? "name" = some key := ⟨rfl, rfl⟩
    simp [named, given, entryOf]
  rw [listOf?, if_pos isPeers, read, shownPeers, List.filterMap_map]
  congr 1
  refine filterMap_named ?_ nonempty
  intro key _ given
  simp [entryOf, given]

/-- The page names devices by their keys; it has not the client itself, and of the devices
whose sockets are `OPEN` now it has exactly the others, in the order of the registry. With
no socket on its way to close it has no other device. -/
structure ShowsOnline (server : Server) (ws : SocketId) (peers : List OnlinePeer) : Prop where
  named : ∀ peer ∈ peers, peer.name = peer.ip
  notSelf : server.clientIP ws ∉ peers.map OnlinePeer.ip
  online : (peers.map OnlinePeer.ip).filter server.stillOpen = server.openOthers ws
  exact : (∀ entry ∈ server.clientsByIP, server.readyState entry.2 ≠ .CLOSING) →
    peers = (server.openOthers ws).map entryOf

/-- Nothing but keys, registry and states of the sockets matters. -/
theorem ShowsOnline.congr {server next : Server} {ws : SocketId} {peers : List OnlinePeer}
    (shows : ShowsOnline server ws peers)
    (sameRegistry : server.clientsByIP = next.clientsByIP)
    (sameKeys : server.clientIP = next.clientIP)
    (sameStates : server.readyState = next.readyState) : ShowsOnline next ws peers := by
  have sameOpen : server.stillOpen = next.stillOpen := by
    funext key
    simp only [Server.stillOpen, sameRegistry, sameStates]
  have sameOthers : server.openOthers ws = next.openOthers ws := by
    simp only [Server.openOthers, sameRegistry, sameStates]
  obtain ⟨named, notSelf, online, exact⟩ := shows
  rw [sameKeys] at notSelf
  rw [sameOpen, sameOthers] at online
  rw [sameRegistry, sameStates, sameOthers] at exact
  exact ⟨named, notSelf, online, exact⟩

/-- The list was written by the server, with the present registry. -/
def Listed (server : Server) (ws : SocketId) (peers : List OnlinePeer) : Prop :=
  ∃ keys : List String, peers = keys.map entryOf ∧
    Accurate server ws (Server.peersMessage (keys.map Server.peerEntry)) ∧
    ∀ key ∈ keys, key ∈ OrderedMap.keys server.clientsByIP

theorem map_ip_entryOf (keys : List String) : (keys.map entryOf).map OnlinePeer.ip = keys := by
  rw [List.map_map]
  exact List.map_id keys

theorem Listed.showsOnline {server : Server} {ws : SocketId} {peers : List OnlinePeer}
    (listed : Listed server ws peers) (registry : Server.RegistryInvariant server) :
    ShowsOnline server ws peers := by
  obtain ⟨keys, rfl, accurate, registered⟩ := listed
  have lists := accurate.lists
  have notSelf := accurate.notSelf
  rw [listedKeys_peersMessage] at lists notSelf
  constructor
  case named =>
    intro peer member
    obtain ⟨key, -, rfl⟩ := List.mem_map.mp member
    rfl
  case notSelf => rwa [map_ip_entryOf]
  case online => rwa [map_ip_entryOf]
  case exact =>
    intro noneClosing
    rw [← lists, List.filter_eq_self.mpr]
    intro key member
    obtain ⟨⟨other, ws'⟩, stored, rfl⟩ := List.mem_map.mp (registered key member)
    have found := (OrderedMap.get_eq_some_iff registry.distinct).mpr stored
    have notClosed : server.readyState ws' ≠ .CLOSED := by
      have latest := registry.latest other
      rw [found] at latest
      have kept := Option.filter_eq_some_iff.mp latest.symm
      simpa using kept.2
    have notClosing := noneClosing _ stored
    cases state : server.readyState ws' with
    | OPEN => simp [Server.stillOpen, found, state]
    | CLOSING => exact absurd state notClosing
    | CLOSED => exact absurd state notClosed

/-- The server changes what a page will have shown by what it sends. -/
theorem arrivingLists_sentTo (ws : SocketId) (outputs : List Output) :
    arrivingLists (sentTo ws outputs) =
      (peersTo (fun _ => true) ws outputs).filterMap listOf? := by
  unfold arrivingLists sentTo peersTo
  rw [List.filterMap_filterMap, List.filterMap_filterMap]
  apply List.filterMap_congr
  intro output _
  cases output with
  | granted => rfl
  | sent receiver message origin =>
      by_cases toClient : receiver = ws
      · by_cases isPeers : message.stringField? "type" = some "peers"
        · simp [toClient, isPeers]
        · simp [toClient, isPeers, listOf?]
      · simp [toClient]

/-! ## The whole system -/

/-- No client sends a device list. -/
theorem ClientSignal.not_peers {message : Json} (signal : ClientSignal message) :
    message.stringField? "type" ≠ some "peers" := by
  cases signal with
  | pairRequest | listPeers | offer | answer | candidate =>
      simp [Endpoint.pairRequestMessage, Endpoint.listPeersMessage, Endpoint.offerMessage,
        Endpoint.answerMessage, Endpoint.candidateMessage, Json.stringField?, Json.field?,
        Json.string?]

namespace System

variable {system following start final : System} {action : Action} {actions : List Action}
  {events : List Event} {helloName : SocketId → String}

/-- What the page of `ws` will have shown when all that is on the way has arrived. -/
def upcoming (system : System) (ws : SocketId) : List OnlinePeer :=
  (system.device ws).upcoming (arrivingLists (system.downlink ws))

theorem upcoming_served (system : System) (next : Server) (outputs : List Output)
    (ws : SocketId) :
    (system.served next outputs).upcoming ws =
      latest (system.upcoming ws)
        ((peersTo (fun _ => true) ws outputs).filterMap listOf?) := by
  simp only [upcoming, served, Device.upcoming, arrivingLists_append, arrivingLists_sentTo]
  rw [← List.append_assoc, latest_append]

theorem upcoming_received {ws : SocketId} {message : Json} {origin : Origin}
    {rest : List (Json × Origin)} (queue : system.downlink ws = (message, origin) :: rest)
    (other : SocketId) :
    (system.received ws message origin rest).upcoming other = system.upcoming other := by
  by_cases same : other = ws
  · subst same
    have head : arrivingLists (system.downlink other) =
        (listOf? message).toList ++ arrivingLists rest := by
      rw [queue, arrivingLists, List.filterMap_cons]
      cases listOf? message <;> rfl
    simp only [upcoming, received, Function.update_self, Device.upcoming,
      pendingLists_receiveSignal, head, List.append_assoc]
  · simp only [upcoming, received, Function.update_of_ne same]

theorem upcoming_acted {ws : SocketId} {input : Input} {next : Device} {signals : List Json}
    (stepped : (system.device ws).step input = some (next, signals)) (other : SocketId) :
    (system.acted ws next signals).upcoming other = system.upcoming other := by
  by_cases same : other = ws
  · subst same
    simp only [upcoming, acted, Function.update_self]
    exact Device.upcoming_of_step stepped _
  · simp only [upcoming, acted, Function.update_of_ne same]

/-- What every page will have shown is up to date. -/
structure Current (system : System) : Prop where
  honest : system.ClientsHonest
  registry : Server.RegistryInvariant system.server
  keyed : Keyed system.server
  lists : ∀ ws, system.server.Registered ws → system.server.readyState ws = .OPEN →
    Listed system.server ws (system.upcoming ws)

theorem Current.initial (helloName : SocketId → String) : (initial helloName).Current where
  honest := by simp [ClientsHonest, System.initial]
  registry := .initial
  keyed := by
    intro key member
    contradiction
  lists := by
    intro ws registered
    contradiction

/-- The list that the server writes now is up to date. -/
theorem listed_present {server : Server} {ws : SocketId}
    (registry : Server.RegistryInvariant server) (registered : server.Registered ws) :
    Listed server ws ((server.openOthers ws).map entryOf) := by
  refine ⟨server.openOthers ws, rfl, ?_, ?_⟩
  · rw [← Server.buildPeerListFor_eq]
    exact .present registry registered
  · intro key member
    obtain ⟨peerWs, stored, -⟩ := Server.mem_openOthers.mp member
    exact OrderedMap.mem_keys_of_mem stored

/-- A step of the server keeps what every page will have shown up to date. -/
theorem lists_served {event : Server.Event} {next : Server} {outputs : List Output}
    (current : system.Current)
    (stepped : system.server.step event = some (next, outputs))
    (unforged : Unforged system.server event)
    (ws : SocketId) (registered : next.Registered ws) (isOpen : next.readyState ws = .OPEN) :
    Listed next ws ((system.served next outputs).upcoming ws) := by
  have registry := current.registry.step stepped
  have keyed := current.keyed.step stepped
  rw [upcoming_served]
  rcases @lists_of_step (fun _ => true) system.server next event outputs ws current.registry
      rfl stepped (fun relay member _ => unforged relay member) registered isOpen with
    ⟨sent, present⟩ | ⟨silent, sameRegistry, sameKeys, closes⟩
  · have nonempty : ∀ key ∈ next.openOthers ws, key ≠ "" := by
      intro key member
      obtain ⟨peerWs, stored, -⟩ := Server.mem_openOthers.mp member
      exact keyed key (OrderedMap.mem_keys_of_mem stored)
    have each : ∀ message ∈ peersTo (fun _ => true) ws outputs,
        listOf? message = some ((next.openOthers ws).map entryOf) := by
      intro message member
      rw [present message member, Server.buildPeerListFor_eq]
      exact listOf?_peersMessage nonempty
    rw [latest_of_forall]
    · exact listed_present registry registered
    · obtain ⟨message, member⟩ := List.exists_mem_of_ne_nil _ sent
      exact List.ne_nil_of_mem (List.mem_filterMap.mpr ⟨message, member, each message member⟩)
    · intro peers member
      obtain ⟨message, inSent, read⟩ := List.mem_filterMap.mp member
      rw [each message inSent] at read
      exact (Option.some.inj read).symm
  · have registeredBefore : system.server.Registered ws := by
      rw [Server.Registered, sameRegistry, sameKeys] at registered
      exact registered
    obtain ⟨keys, isList, accurate, inRegistry⟩ :=
      current.lists ws registeredBefore (closes ws isOpen)
    rw [silent, List.filterMap_nil]
    refine ⟨keys, isList, accurate.later current.registry sameRegistry sameKeys closes, ?_⟩
    rw [sameRegistry]
    exact inRegistry

theorem Current.step (current : system.Current)
    (stepped : system.step action = some (following, events)) : following.Current := by
  have effect := (effect_of_step stepped).1
  have honest := current.honest.step effect
  generalize system.serverOutputs action = outputs at effect
  cases effect with
  | served event next outputs notMessage serverStepped =>
      refine ⟨honest, current.registry.step serverStepped, current.keyed.step serverStepped, ?_⟩
      apply lists_served current serverStepped
      intro relay member
      unfold relayOf at member
      split at member
      case h_1 => exact absurd rfl (notMessage _ _)
      case h_2 => contradiction
  | processed ws message rest next outputs queue serverStepped =>
      have unsent : Current
          { system with uplink := Function.update system.uplink ws rest } :=
        ⟨honest, current.registry, current.keyed, current.lists⟩
      refine ⟨honest, current.registry.step serverStepped, current.keyed.step serverStepped, ?_⟩
      apply lists_served unsent serverStepped
      intro relay member
      simp only [relayOf] at member
      split at member
      case h_1 partner paired =>
        split at member
        case isTrue =>
          obtain rfl := List.mem_singleton.mp member
          exact (current.honest ws message (by simp [queue])).not_peers
        case isFalse => contradiction
      case h_2 => contradiction
  | received ws message origin rest queue =>
      refine ⟨honest, current.registry, current.keyed, ?_⟩
      intro other registered isOpen
      rw [upcoming_received queue]
      exact current.lists other registered isOpen
  | acted ws input next signals known deviceStepped =>
      refine ⟨honest, current.registry, current.keyed, ?_⟩
      intro other registered isOpen
      rw [upcoming_acted deviceStepped]
      exact current.lists other registered isOpen

/-- By itself the system neither registers nor drops a client. -/
theorem sockets_of_internal (internal : Internal system action)
    (stepped : system.step action = some (following, events)) :
    following.server.clientsByIP = system.server.clientsByIP ∧
      following.server.clientIP = system.server.clientIP ∧
      following.server.readyState = system.server.readyState := by
  have effect := (effect_of_step stepped).1
  generalize system.serverOutputs action = outputs at effect
  cases effect with
  | served event next outputs notMessage serverStepped =>
      cases Server.effect_of_step serverStepped with
      | fired => exact ⟨rfl, rfl, rfl⟩
      | connected | closing | closed => exact internal.elim
      | granted | refused | listed | ignored | relayed => exact absurd rfl (notMessage _ _)
  | processed ws message rest next outputs queue serverStepped =>
      cases Server.effect_of_step serverStepped with
      | granted | refused | listed | ignored | relayed => exact ⟨rfl, rfl, rfl⟩
  | received | acted => exact ⟨rfl, rfl, rfl⟩

/-- At rest every page shows what it will have shown. -/
theorem Settled.upcoming_eq (settled : Settled system) {ws : SocketId}
    (known : ws < system.server.connected) :
    system.upcoming ws = (system.device ws).onlinePeers := by
  simp only [upcoming, Device.upcoming, settled.mainQueue ws known, settled.downlink ws]
  rfl

/-- **The send pages show the devices that are online.** Take any run of the system, after
which users, connections and data channels do nothing any more. At every moment from then
on, what a client's page will have shown when all that is on the way to it has arrived is
up to date; and when the system has come to rest, which it does, every page shows it: the
registered clients whose sockets are `OPEN`, without the client itself. -/
theorem pages_show_online_devices {past : List Action} {pastEvents : List Event}
    (reached : SystemRun helloName Machine.free past pastEvents start)
    (run : Machine.Run System.step Internal start actions events final) :
    ∀ ws, start.server.Registered ws → start.server.readyState ws = .OPEN →
      ShowsOnline start.server ws (final.upcoming ws) ∧
      ((∀ action, Internal final action → final.step action = none) →
        ShowsOnline start.server ws (final.device ws).onlinePeers) := by
  intro ws registered isOpen
  have current : start.Current := reached.state_invariant Current (.initial helloName)
    fun holds _ stepped => holds.step stepped
  have contained : start.Contained := reached.state_invariant Contained (.initial helloName)
    fun holds _ stepped => holds.step stepped
  have later : final.Current ∧ final.Contained :=
    run.state_invariant (fun system => system.Current ∧ system.Contained)
      ⟨current, contained⟩ fun holds _ stepped => ⟨holds.1.step stepped, holds.2.step stepped⟩
  obtain ⟨sameRegistry, sameKeys, sameStates⟩ := run.state_invariant
    (fun system => system.server.clientsByIP = start.server.clientsByIP ∧
      system.server.clientIP = start.server.clientIP ∧
      system.server.readyState = start.server.readyState)
    ⟨rfl, rfl, rfl⟩ fun same internal stepped =>
      have kept := sockets_of_internal internal stepped
      ⟨kept.1.trans same.1, kept.2.1.trans same.2.1, kept.2.2.trans same.2.2⟩
  have stillOpen : final.server.readyState ws = .OPEN := by rw [sameStates, isOpen]
  have stillRegistered : final.server.Registered ws := by
    rw [Server.Registered, sameRegistry, sameKeys]
    exact registered
  have shows : ShowsOnline start.server ws (final.upcoming ws) :=
    ((later.1.lists ws stillRegistered stillOpen).showsOnline later.1.registry).congr
      sameRegistry sameKeys sameStates
  refine ⟨shows, ?_⟩
  intro stuck
  have known : ws < final.server.connected := later.2.known (by simp [stillOpen])
  rw [← (settled_iff.mp stuck).upcoming_eq known]
  exact shows

/-- Three clients connect, and the second starts to close. The system comes to rest, and
then the first client sees the third. -/
theorem pages_show_online_devices_closing :
    ∃ past start actions events final,
      SystemRun (fun _ => "mac#001") Machine.free (gathered ++ [.server (.closing 1)])
        past start ∧
      Machine.Run System.step Internal start actions events final ∧
      start.server.openOthers 0 = ["c:3"] ∧
      ShowsOnline start.server 0 (final.device 0).onlinePeers := by
  obtain ⟨start, past, reached, checked⟩ :
      ∃ start past, SystemRun (fun _ => "mac#001") Machine.free
          (gathered ++ [.server (.closing 1)]) past start ∧
        decide (start.server.Registered 0 ∧ start.server.readyState 0 = .OPEN ∧
          start.server.openOthers 0 = ["c:3"]) = true :=
    Machine.run_of_exec_any (fun (start : System) _ =>
      decide (start.server.Registered 0 ∧ start.server.readyState 0 = .OPEN ∧
        start.server.openOthers 0 = ["c:3"])) (by decide)
  obtain ⟨registered, isOpen, others⟩ := of_decide_eq_true checked
  have contained : start.Contained := reached.state_invariant Contained
    (.initial fun _ => "mac#001") fun holds _ stepped => holds.step stepped
  obtain ⟨actions, events, final, driven, settled⟩ := contained.exists_settled
  have run : Machine.Run System.step Internal start actions events final :=
    driven.mono fun _ _ allowed => allowed.1
  exact ⟨past, start, actions, events, final, reached, run, others,
    (pages_show_online_devices reached run 0 registered isOpen).2 fun _ => settled.stuck⟩

end System

end WebrtcFileSender.Net
