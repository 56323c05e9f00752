import WebrtcFileSender.Signaling.Tunnel

/-!
Contract: the registry `clientsByIP` and the device lists that clients are sent.

Owns: the law that a key names the socket that connected last with it, and the
relation between the last list a client was sent and the sockets that are `OPEN`
now.

Lists are written on connection, close and `list_peers`; a socket that starts to
close is not announced. A message of type `peers` that a partner sends is relayed
like any other, so a client can be sent a list that the server did not write.
-/

namespace WebrtcFileSender.Signaling

open Server

namespace Server

/-! ## The registry -/

/-- The socket that connected last with a key. -/
def mostRecent (server : Server) (key : String) : Option SocketId :=
  ((List.range server.connected).filter fun ws => server.clientIP ws = key).getLast?

theorem mostRecent_spec {server : Server} {key : String} {ws : SocketId}
    (recent : server.mostRecent key = some ws) :
    ws < server.connected ∧ server.clientIP ws = key := by
  have member := List.mem_of_getLast? recent
  simpa using member

theorem mostRecent_onConnection (server : Server) (remoteAddress : Option String)
    (remotePort : Option Nat) (key : String) :
    (server.onConnection remoteAddress remotePort).1.mostRecent key =
      if connectionKey remoteAddress remotePort = key then some server.connected
      else server.mostRecent key := by
  have older : ((List.range server.connected).filter fun ws =>
        (server.onConnection remoteAddress remotePort).1.clientIP ws = key) =
      (List.range server.connected).filter fun ws => server.clientIP ws = key := by
    apply List.filter_congr
    intro ws inRange
    have old : ws ≠ server.connected := Nat.ne_of_lt (List.mem_range.mp inRange)
    simp [onConnection, Function.update_of_ne old]
  have connected : (server.onConnection remoteAddress remotePort).1.connected =
      server.connected + 1 := rfl
  have fresh : (server.onConnection remoteAddress remotePort).1.clientIP server.connected =
      connectionKey remoteAddress remotePort := by
    simp [onConnection]
  unfold mostRecent
  rw [connected, List.range_succ, List.filter_append, older]
  split
  case isTrue same => simp [fresh, same]
  case isFalse other => simp [fresh, other]

/-- What every event keeps of the registry. -/
structure RegistryInvariant (server : Server) : Prop where
  pairing : PairingInvariant server
  latest : ∀ key, OrderedMap.get server.clientsByIP key =
    (server.mostRecent key).filter fun ws => server.readyState ws ≠ .CLOSED
  distinct : (OrderedMap.keys server.clientsByIP).Nodup

namespace RegistryInvariant

variable {server next : Server} {event : Event} {outputs : List Output}

theorem initial : RegistryInvariant Server.initial where
  pairing := .initial
  latest := by intro key; rfl
  distinct := List.nodup_nil

private theorem latest_onConnection (invariant : RegistryInvariant server)
    (remoteAddress : Option String) (remotePort : Option Nat) (key : String) :
    OrderedMap.get (server.onConnection remoteAddress remotePort).1.clientsByIP key =
      ((server.onConnection remoteAddress remotePort).1.mostRecent key).filter fun ws =>
        (server.onConnection remoteAddress remotePort).1.readyState ws ≠ .CLOSED := by
  have stored : (server.onConnection remoteAddress remotePort).1.clientsByIP =
      OrderedMap.set server.clientsByIP (connectionKey remoteAddress remotePort)
        server.connected := rfl
  rw [mostRecent_onConnection, stored, OrderedMap.get_set]
  split
  case isTrue => simp [Option.filter, onConnection]
  case isFalse =>
    rw [invariant.latest]
    cases recent : server.mostRecent key with
    | none => rfl
    | some ws =>
        have old : ws ≠ server.connected := Nat.ne_of_lt (mostRecent_spec recent).1
        simp [Option.filter, onConnection, Function.update_of_ne old]

/-- A late close of an older socket does not evict the newer one. -/
private theorem latest_onClose (invariant : RegistryInvariant server) (ws : SocketId)
    (wasClosing : server.readyState ws = .CLOSING) (key : String) :
    OrderedMap.get (server.onClose ws).1.clientsByIP key =
      ((server.onClose ws).1.mostRecent key).filter fun other =>
        (server.onClose ws).1.readyState other ≠ .CLOSED := by
  have sameRecent : (server.onClose ws).1.mostRecent key = server.mostRecent key := by
    rw [onClose_eq]
    rfl
  have registry : (server.onClose ws).1.clientsByIP = server.unregister ws := by
    rw [onClose_eq]
  have states : (server.onClose ws).1.readyState =
      Function.update server.readyState ws .CLOSED := by
    rw [onClose_eq]
  have before := invariant.latest key
  rw [sameRecent, registry, states, unregister]
  cases recent : server.mostRecent key with
  | none =>
      rw [recent] at before
      split
      case isTrue =>
        rw [OrderedMap.get_delete]
        split
        · rfl
        · exact before
      case isFalse => exact before
  | some latest =>
      rw [recent] at before
      by_cases isClosing : latest = ws
      · subst isClosing
        have named : server.clientIP latest = key := (mostRecent_spec recent).2
        have stored : OrderedMap.get server.clientsByIP (server.clientIP latest) =
            some latest := by
          rw [named, before]
          simp [Option.filter, wasClosing]
        rw [if_pos stored, OrderedMap.get_delete, if_pos named]
        simp [Option.filter]
      · have kept : OrderedMap.get server.clientsByIP key =
            (some latest).filter fun other =>
              Function.update server.readyState ws .CLOSED other ≠ .CLOSED := by
          rw [before]
          simp [Option.filter, Function.update_of_ne isClosing]
        split
        case isFalse => exact kept
        case isTrue stored =>
          rw [OrderedMap.get_delete]
          split
          case isFalse => exact kept
          case isTrue named =>
            -- The key of the closing socket would name two sockets.
            rw [named, before] at stored
            have same : latest = ws := by
              simp only [Option.filter] at stored
              split at stored
              · exact Option.some.inj stored
              · contradiction
            exact absurd same isClosing

theorem step (invariant : RegistryInvariant server)
    (stepped : server.step event = some (next, outputs)) : RegistryInvariant next := by
  have pairing := invariant.pairing.step stepped
  cases effect_of_step stepped with
  | connected remoteAddress remotePort =>
      exact ⟨pairing, invariant.latest_onConnection remoteAddress remotePort,
        OrderedMap.nodup_set invariant.distinct _ _⟩
  | granted | refused | listed | ignored | relayed | fired =>
      exact ⟨pairing, invariant.latest, invariant.distinct⟩
  | closing ws wasOpen =>
      refine ⟨pairing, ?_, invariant.distinct⟩
      intro key
      have sameRecent : { server with
            readyState := Function.update server.readyState ws .CLOSING }.mostRecent key =
          server.mostRecent key := rfl
      rw [sameRecent, invariant.latest]
      cases server.mostRecent key with
      | none => rfl
      | some latest =>
          by_cases isClosing : latest = ws
          · subst isClosing
            simp [Option.filter, wasOpen]
          · simp [Option.filter, Function.update_of_ne isClosing]
  | closed ws wasClosing =>
      refine ⟨pairing, invariant.latest_onClose ws wasClosing, ?_⟩
      rw [onClose_eq]
      unfold unregister
      dsimp only
      split
      · exact OrderedMap.nodup_delete invariant.distinct _
      · exact invariant.distinct

end RegistryInvariant

/-! ## Device lists -/

/-- The key names a socket that is `OPEN`. -/
def stillOpen (server : Server) (key : String) : Bool :=
  (OrderedMap.get server.clientsByIP key).any fun ws => server.readyState ws = .OPEN

/-- The keys of the registered `OPEN` sockets other than `ws`, in registry order. -/
def openOthers (server : Server) (ws : SocketId) : List String :=
  (server.clientsByIP.filter fun entry =>
    entry.2 ≠ ws ∧ server.readyState entry.2 = .OPEN).map Prod.fst

def Registered (server : Server) (ws : SocketId) : Prop :=
  OrderedMap.get server.clientsByIP (server.clientIP ws) = some ws

instance (server : Server) (ws : SocketId) : Decidable (server.Registered ws) :=
  inferInstanceAs (Decidable (_ = _))

theorem buildPeerListFor_eq (server : Server) (ws : SocketId) :
    server.buildPeerListFor ws = (server.openOthers ws).map peerEntry := by
  unfold buildPeerListFor openOthers
  induction server.clientsByIP with
  | nil => rfl
  | cons entry rest inductionHypothesis =>
      by_cases listed : entry.2 ≠ ws ∧ server.readyState entry.2 = .OPEN
      · rw [List.filterMap_cons, List.filter_cons_of_pos (by simpa using listed)]
        simp only [if_pos listed]
        rw [inductionHypothesis]
        rfl
      · rw [List.filterMap_cons, List.filter_cons_of_neg (by simpa using listed)]
        simp only [if_neg listed]
        exact inductionHypothesis

theorem mem_openOthers {server : Server} {ws : SocketId} {key : String} :
    key ∈ server.openOthers ws ↔ ∃ peerWs, (key, peerWs) ∈ server.clientsByIP ∧
      peerWs ≠ ws ∧ server.readyState peerWs = .OPEN := by
  simp [openOthers]

theorem nodup_openOthers {server : Server} (invariant : RegistryInvariant server)
    (ws : SocketId) : (server.openOthers ws).Nodup :=
  List.Nodup.sublist (List.Sublist.map _ List.filter_sublist) invariant.distinct

end Server

/-- The keys that a device list names. -/
def listedKeys (message : Json) : List String :=
  match message.field? "peers" with
  | some (.arr items) => items.filterMap (Json.stringField? "ip")
  | _ => []

theorem listedKeys_peersMessage (keys : List String) :
    listedKeys (peersMessage (keys.map peerEntry)) = keys := by
  have fields : listedKeys (peersMessage (keys.map peerEntry)) =
      (keys.map peerEntry).filterMap (Json.stringField? "ip") := rfl
  rw [fields]
  induction keys with
  | nil => rfl
  | cons key rest inductionHypothesis =>
      have head : (peerEntry key).stringField? "ip" = some key := rfl
      rw [List.map_cons, List.filterMap_cons, head]
      dsimp only
      rw [inductionHypothesis rfl]

/-- The device lists that were sent to `ws`, of the origins that count. -/
def peersTo (counts : Origin → Bool) (ws : SocketId) (outputs : List Output) : List Json :=
  outputs.filterMap fun
    | .sent receiver message origin =>
        if receiver = ws ∧ counts origin = true ∧ message.stringField? "type" = some "peers"
        then some message else none
    | .granted _ _ => none

/-- A list is accurate: restricted to the keys that are still open, it names
every other `OPEN` socket in registry order, and it does not name its receiver. -/
structure Accurate (server : Server) (ws : SocketId) (message : Json) : Prop where
  lists : (listedKeys message).filter server.stillOpen = server.openOthers ws
  notSelf : server.clientIP ws ∉ listedKeys message

section Lists

variable {counts : Origin → Bool} {server next : Server} {event : Event}
  {outputs : List Output} {ws : SocketId}

theorem peersTo_append (left right : List Output) :
    peersTo counts ws (left ++ right) = peersTo counts ws left ++ peersTo counts ws right := by
  simp [peersTo]

/-- A message of another type is no device list. -/
theorem peersTo_send_other {receiver : SocketId} {message : Json} {origin : Origin}
    {type : String} (typed : message.stringField? "type" = some type)
    (other : type ≠ "peers") :
    peersTo counts ws (server.send receiver message origin) = [] := by
  unfold Server.send
  split
  · simp [peersTo, typed, other]
  · rfl

theorem peersTo_sendPeerList {receiver : SocketId} {message : Json}
    (member : message ∈ peersTo counts ws (server.sendPeerList receiver)) :
    receiver = ws ∧ message = peersMessage (server.buildPeerListFor ws) := by
  unfold Server.sendPeerList Server.send at member
  split at member
  case isFalse => contradiction
  case isTrue =>
    simp only [peersTo, List.filterMap_cons, List.filterMap_nil] at member
    split at member
    case h_1 => contradiction
    case h_2 sent found =>
      split at found
      case isFalse => contradiction
      case isTrue sentTo =>
        obtain rfl := Option.some.inj found
        obtain ⟨rfl, -⟩ := sentTo
        exact ⟨rfl, List.mem_singleton.mp member⟩

/-- A broadcast sends every client its own list. -/
theorem peersTo_broadcastPeerLists {message : Json}
    (member : message ∈ peersTo counts ws server.broadcastPeerLists) :
    message = peersMessage (server.buildPeerListFor ws) := by
  unfold Server.broadcastPeerLists at member
  generalize server.clientsByIP = entries at member
  induction entries with
  | nil => contradiction
  | cons entry rest inductionHypothesis =>
      rw [List.flatMap_cons, peersTo_append] at member
      rcases List.mem_append.mp member with atHead | inRest
      · exact (peersTo_sendPeerList atHead).2
      · exact inductionHypothesis inRest

theorem sendPeerList_mem (countsServer : counts .server = true)
    (isOpen : server.readyState ws = .OPEN) :
    peersMessage (server.buildPeerListFor ws) ∈ peersTo counts ws (server.sendPeerList ws) := by
  have typed : (peersMessage (server.buildPeerListFor ws)).stringField? "type" =
      some "peers" := rfl
  simp [Server.sendPeerList, Server.send, isOpen, peersTo, countsServer, typed]

theorem broadcastPeerLists_mem (countsServer : counts .server = true)
    (registry : RegistryInvariant server) (registered : server.Registered ws)
    (isOpen : server.readyState ws = .OPEN) :
    peersMessage (server.buildPeerListFor ws) ∈
      peersTo counts ws server.broadcastPeerLists := by
  have stored := (OrderedMap.get_eq_some_iff registry.distinct).mp registered
  obtain ⟨before, after, split⟩ := List.append_of_mem stored
  simp only [Server.broadcastPeerLists, split, List.flatMap_append, List.flatMap_cons]
  rw [peersTo_append, peersTo_append]
  apply List.mem_append_right
  apply List.mem_append_left
  exact sendPeerList_mem countsServer isOpen

/-- What one event means for the lists of a client that is registered and `OPEN`
afterwards: it is sent its present list, or no list at all, and then nothing has
become open. -/
theorem lists_of_step
    (registry : RegistryInvariant server)
    (countsServer : counts .server = true)
    (stepped : server.step event = some (next, outputs))
    (unforged : ∀ relay ∈ relayOf server event, counts (.relay relay.sender) = true →
      relay.message.stringField? "type" ≠ some "peers")
    (registered : next.Registered ws) (isOpen : next.readyState ws = .OPEN) :
    (peersTo counts ws outputs ≠ [] ∧
      ∀ message ∈ peersTo counts ws outputs,
        message = peersMessage (next.buildPeerListFor ws)) ∨
    (peersTo counts ws outputs = [] ∧ next.clientsByIP = server.clientsByIP ∧
      next.clientIP = server.clientIP ∧
      ∀ other, next.readyState other = .OPEN → server.readyState other = .OPEN) := by
  have following := registry.step stepped
  cases effect_of_step stepped with
  | connected remoteAddress remotePort =>
      left
      refine ⟨?_, fun message member => peersTo_broadcastPeerLists member⟩
      exact List.ne_nil_of_mem
        (broadcastPeerLists_mem countsServer following registered isOpen)
  | granted requester target =>
      right
      refine ⟨?_, rfl, rfl, fun _ => id⟩
      have offerer : ∀ selfIP, peersTo counts ws
          (server.send requester (offererMessage selfIP) .server) = [] :=
        fun _ => peersTo_send_other rfl (by decide)
      have answerer : ∀ selfIP peerIP, peersTo counts ws
          (server.send target (answererMessage selfIP peerIP) .server) = [] :=
        fun _ _ => peersTo_send_other rfl (by decide)
      rw [grant_outputs, peersTo_append, peersTo_append, offerer, answerer]
      rfl
  | refused requester p reason =>
      exact .inr ⟨peersTo_send_other rfl (by decide), rfl, rfl, fun _ => id⟩
  | listed requester p =>
      by_cases isSelf : requester = ws
      · subst isSelf
        left
        refine ⟨?_, fun message member => (peersTo_sendPeerList member).2⟩
        exact List.ne_nil_of_mem (sendPeerList_mem countsServer isOpen)
      · right
        refine ⟨?_, rfl, rfl, fun _ => id⟩
        apply List.eq_nil_iff_forall_not_mem.mpr
        intro message member
        exact isSelf (peersTo_sendPeerList member).1
  | ignored => exact .inr ⟨rfl, rfl, rfl, fun _ => id⟩
  | relayed sender partner p alive relayable paired partnerOpen =>
      right
      refine ⟨?_, rfl, rfl, fun _ => id⟩
      have relays : relayOf server (.message sender (some p)) = [⟨sender, partner, p⟩] := by
        simp [relayOf, paired, relayable, partnerOpen]
      rw [relays] at unforged
      have counted := unforged _ (List.mem_singleton_self _)
      dsimp only at counted
      simp only [peersTo, List.filterMap_cons, List.filterMap_nil]
      split
      case h_1 => rfl
      case h_2 message found =>
        split at found
        case isFalse => contradiction
        case isTrue sentTo => exact absurd sentTo.2.2 (counted sentTo.2.1)
  | closing closingWs =>
      refine .inr ⟨rfl, rfl, rfl, ?_⟩
      intro other openAfter
      by_cases same : other = closingWs
      · subst same
        simp at openAfter
      · simpa [Function.update_of_ne same] using openAfter
  | closed closedWs =>
      left
      obtain ⟨notice, outputs, told⟩ := server.onClose_outputs closedWs
      have silent : peersTo counts ws notice = [] := by
        rcases told with rfl | ⟨partner, rfl⟩
        · rfl
        · exact peersTo_send_other rfl (by decide)
      rw [outputs, peersTo_append, silent, List.nil_append]
      refine ⟨?_, fun message member => peersTo_broadcastPeerLists member⟩
      exact List.ne_nil_of_mem
        (broadcastPeerLists_mem countsServer following registered isOpen)
  | fired index timer =>
      exact .inr ⟨peersTo_send_other rfl (by decide), rfl, rfl, fun _ => id⟩

/-- The list that the server writes now is accurate now. -/
theorem Accurate.present (registry : RegistryInvariant server)
    (registered : server.Registered ws) :
    Accurate server ws (peersMessage (server.buildPeerListFor ws)) := by
  have named : listedKeys (peersMessage (server.buildPeerListFor ws)) =
      server.openOthers ws := by
    rw [buildPeerListFor_eq, listedKeys_peersMessage]
  constructor
  · rw [named]
    apply List.filter_eq_self.mpr
    intro key listed
    obtain ⟨peerWs, stored, -, isOpen⟩ := mem_openOthers.mp listed
    have found := (OrderedMap.get_eq_some_iff registry.distinct).mpr stored
    simp [stillOpen, found, isOpen]
  · rw [named]
    intro listed
    obtain ⟨peerWs, stored, notSelf, -⟩ := mem_openOthers.mp listed
    have found := (OrderedMap.get_eq_some_iff registry.distinct).mpr stored
    rw [registered] at found
    exact notSelf (Option.some.inj found).symm

/-- A list stays accurate while the registry stays and sockets only stop being
`OPEN`. -/
theorem Accurate.later {message : Json} (registry : RegistryInvariant server)
    (accurate : Accurate server ws message)
    (sameRegistry : next.clientsByIP = server.clientsByIP)
    (sameKeys : next.clientIP = server.clientIP)
    (closes : ∀ other, next.readyState other = .OPEN → server.readyState other = .OPEN) :
    Accurate next ws message := by
  have weaker : ∀ key, next.stillOpen key = true → server.stillOpen key = true := by
    intro key isOpen
    simp only [stillOpen, sameRegistry, Option.any_eq_true] at isOpen ⊢
    obtain ⟨other, found, openAfter⟩ := isOpen
    exact ⟨other, found, by simpa using closes other (by simpa using openAfter)⟩
  constructor
  · calc (listedKeys message).filter next.stillOpen
        = ((listedKeys message).filter server.stillOpen).filter next.stillOpen := by
          rw [List.filter_filter]
          apply List.filter_congr
          intro key _
          cases isOpen : next.stillOpen key with
          | false => rfl
          | true => simp [weaker key isOpen]
      _ = (server.openOthers ws).filter next.stillOpen := by rw [accurate.lists]
      _ = next.openOthers ws := by
          unfold openOthers
          rw [sameRegistry, List.filter_map, List.filter_filter]
          congr 1
          apply List.filter_congr
          intro entry stored
          obtain ⟨key, peerWs⟩ := entry
          have found := (OrderedMap.get_eq_some_iff registry.distinct).mpr stored
          by_cases openAfter : next.readyState peerWs = .OPEN
          · have openBefore := closes peerWs openAfter
            simp [stillOpen, sameRegistry, found, openAfter, openBefore]
          · simp [stillOpen, sameRegistry, found, openAfter]
  · rw [sameKeys]
    exact accurate.notSelf

end Lists

/-! ## Whole runs -/

/-- The last list that a registered `OPEN` client was sent is accurate. -/
structure DirectoryInvariant (counts : Origin → Bool) (history : List Output)
    (server : Server) : Prop where
  registry : RegistryInvariant server
  lists : ∀ ws, server.Registered ws → server.readyState ws = .OPEN →
    ∃ message, (peersTo counts ws history).getLast? = some message ∧
      Accurate server ws message

theorem DirectoryInvariant.step
    {counts : Origin → Bool} {history outputs : List Output} {server next : Server}
    {event : Event}
    (invariant : DirectoryInvariant counts history server)
    (countsServer : counts .server = true)
    (stepped : server.step event = some (next, outputs))
    (unforged : ∀ relay ∈ relayOf server event, counts (.relay relay.sender) = true →
      relay.message.stringField? "type" ≠ some "peers") :
    DirectoryInvariant counts (history ++ outputs) next := by
  have following := invariant.registry.step stepped
  refine ⟨following, ?_⟩
  intro ws registered isOpen
  rw [peersTo_append]
  rcases lists_of_step invariant.registry countsServer stepped unforged registered isOpen with
    ⟨sent, present⟩ | ⟨silent, sameRegistry, sameKeys, closes⟩
  · obtain ⟨message, last⟩ : ∃ message,
        (peersTo counts ws outputs).getLast? = some message :=
      ⟨_, List.getLast?_eq_some_getLast sent⟩
    refine ⟨message, ?_, ?_⟩
    · rw [List.getLast?_append, last]
      rfl
    · rw [present message (List.mem_of_getLast? last)]
      exact .present following registered
  · have registeredBefore : server.Registered ws := by
      rw [Registered, sameRegistry, sameKeys] at registered
      exact registered
    obtain ⟨message, last, accurate⟩ :=
      invariant.lists ws registeredBefore (closes ws isOpen)
    refine ⟨message, ?_, accurate.later invariant.registry sameRegistry sameKeys closes⟩
    rw [silent, List.append_nil]
    exact last

/-- What the server itself writes is accurate in every run. -/
theorem written_directory_is_accurate
    {events : List Event} {outputs : List Output} {server : Server}
    (run : ServerRun Machine.free events outputs server) :
    DirectoryInvariant (fun origin => origin = .server) outputs server := by
  refine run.invariant (DirectoryInvariant fun origin => origin = .server)
    ⟨.initial, ?_⟩ ?_
  · intro ws registered
    contradiction
  · intro history state event next fresh invariant _ stepped
    refine invariant.step (by simp) stepped ?_
    intro relay _ counted
    simp at counted

/-- No partner is passed a message of type `peers` from a client. -/
def Unforged (server : Server) (event : Event) : Prop :=
  ∀ relay ∈ relayOf server event, relay.message.stringField? "type" ≠ some "peers"

instance (server : Server) (event : Event) : Decidable (Unforged server event) :=
  inferInstanceAs (Decidable (∀ relay ∈ relayOf server event, _))

/-- **The peer directory is accurate.** After every run in which no client sends
its partner a message of type `peers`: a key names the socket that connected last
with it, as long as that has not closed, and nothing otherwise. The last device
list that a registered `OPEN` client was sent, restricted to the keys whose socket
is still `OPEN`, names exactly the other registered `OPEN` sockets, each once and
in registry order, and it never names the client itself. -/
theorem directory_is_accurate
    {events : List Event} {outputs : List Output} {server : Server}
    (run : ServerRun Unforged events outputs server) :
    (∀ key, OrderedMap.get server.clientsByIP key =
      (server.mostRecent key).filter fun ws => server.readyState ws ≠ .CLOSED) ∧
    ∀ ws, server.Registered ws → server.readyState ws = .OPEN →
      ∃ message, (peersTo (fun _ => true) ws outputs).getLast? = some message ∧
        (listedKeys message).filter server.stillOpen = server.openOthers ws ∧
        (server.openOthers ws).Nodup ∧ server.clientIP ws ∉ listedKeys message := by
  have invariant : DirectoryInvariant (fun _ => true) outputs server := by
    refine run.invariant (DirectoryInvariant fun _ => true) ⟨.initial, ?_⟩ ?_
    · intro ws registered
      contradiction
    · intro history state event next fresh invariant unforged stepped
      exact invariant.step rfl stepped fun relay member _ => unforged relay member
  refine ⟨invariant.registry.latest, ?_⟩
  intro ws registered isOpen
  obtain ⟨message, last, accurate⟩ := invariant.lists ws registered isOpen
  exact ⟨message, last, accurate.lists, nodup_openOthers invariant.registry ws,
    accurate.notSelf⟩

/-- The second socket takes over the key of the first, whose close comes late, and
the third starts to close. -/
def takenOverRun : List Event :=
  [.connection (some "10.0.0.1") (some 5001), .closing 0,
    .connection (some "10.0.0.1") (some 5001), .connection (some "10.0.0.2") (some 5002),
    .connection (some "10.0.0.3") (some 5003), .close 0, .closing 2]

theorem directory_is_accurate_takenOverRun :
    ∃ outputs server, ServerRun Unforged takenOverRun outputs server ∧
      server.Registered 1 ∧ server.readyState 1 = .OPEN ∧
      ∃ message, (peersTo (fun _ => true) 1 outputs).getLast? = some message ∧
        (listedKeys message).filter server.stillOpen = ["10.0.0.3:5003"] := by
  obtain ⟨server, outputs, run, checked⟩ :
      ∃ server outputs, ServerRun Unforged takenOverRun outputs server ∧
        decide (server.Registered 1 ∧ server.readyState 1 = .OPEN ∧
          server.openOthers 1 = ["10.0.0.3:5003"]) = true :=
    Machine.run_of_exec_any (fun (server : Server) _ =>
      decide (server.Registered 1 ∧ server.readyState 1 = .OPEN ∧
        server.openOthers 1 = ["10.0.0.3:5003"])) (by decide)
  obtain ⟨registered, isOpen, others⟩ := of_decide_eq_true checked
  obtain ⟨message, last, lists, -⟩ := (directory_is_accurate run).2 1 registered isOpen
  exact ⟨outputs, server, run, registered, isOpen, message, last, lists.trans others⟩

/-- Two clients are paired, and the second sends the first an empty device list. -/
def forgedRun : List Event :=
  [.connection (some "10.0.0.1") (some 5001), .connection (some "10.0.0.2") (some 5002),
    .message 0 (some (.obj [("type", .str "pair_request"),
      ("targetIP", .str "10.0.0.2:5002")])),
    .message 1 (some (.obj [("type", .str "peers"), ("peers", .arr [])]))]

/-- The last list that the first client was sent leaves out the second, which is
registered and `OPEN`. -/
theorem forged_list_is_relayed :
    ∃ outputs server, ServerRun Machine.free forgedRun outputs server ∧
      server.Registered 0 ∧ server.readyState 0 = .OPEN ∧
      ¬ ∃ message, (peersTo (fun _ => true) 0 outputs).getLast? = some message ∧
        (listedKeys message).filter server.stillOpen = server.openOthers 0 := by
  obtain ⟨server, outputs, run, checked⟩ :
      ∃ server outputs, ServerRun Machine.free forgedRun outputs server ∧
        decide (server.Registered 0 ∧ server.readyState 0 = .OPEN ∧
          server.openOthers 0 = ["10.0.0.2:5002"] ∧
          ((peersTo (fun _ => true) 0 outputs).getLast?.map listedKeys) = some []) = true :=
    Machine.run_of_exec_any (fun (server : Server) outputs =>
      decide (server.Registered 0 ∧ server.readyState 0 = .OPEN ∧
        server.openOthers 0 = ["10.0.0.2:5002"] ∧
        ((peersTo (fun _ => true) 0 outputs).getLast?.map listedKeys) = some []))
      (by decide)
  obtain ⟨registered, isOpen, others, empty⟩ := of_decide_eq_true checked
  refine ⟨outputs, server, run, registered, isOpen, ?_⟩
  rintro ⟨message, last, lists⟩
  rw [last, Option.map_some, Option.some.injEq] at empty
  rw [empty, others] at lists
  contradiction

end WebrtcFileSender.Signaling
