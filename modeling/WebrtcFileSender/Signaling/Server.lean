import WebrtcFileSender.Library.Json
import WebrtcFileSender.Library.Machine
import WebrtcFileSender.Library.OrderedMap

/-!
Contract: the signaling server of `signaling-server.js`.

Owns: the server state, the four helper functions, the `connection`, `message`
and `close` handlers, the 200 ms timer of a granted pair request, and the step
function of the server as a machine over socket events.

A socket is named by the order in which it connected. Its JavaScript properties
`readyState`, `_clientIP` and `_pairPartner` are functions of the name; a name
that has not connected yet reads as `CLOSED`. `ws.send` is a no-op on a socket
that is not `OPEN`. An event that the `ws` library cannot emit in a state (a
message or a second close after the close event, a close before `CLOSING`) is
not enabled there.

Does not own: the socket transport, JSON syntax (a message event carries the
result of `JSON.parse`), and the log lines.
-/

namespace WebrtcFileSender.Signaling

abbrev SocketId := Nat

/-- `ws.readyState` of an accepted socket. -/
inductive ReadyState where
  | OPEN
  | CLOSING
  | CLOSED
deriving DecidableEq, Repr

/-- Who wrote the text of a sent message: the server itself, or a client whose
message is passed on. -/
inductive Origin where
  | server
  | relay (sender : SocketId)
deriving DecidableEq, Repr

/-- What a handler emits. `granted` marks the moment a pair request binds its
two sockets; it is not sent to anybody. -/
inductive Output where
  | sent (receiver : SocketId) (message : Json) (origin : Origin)
  | granted (ws targetWs : SocketId)
deriving Repr

/-- The closure passed to `setTimeout`. -/
structure Timer where
  ws : SocketId
  targetWs : SocketId
deriving DecidableEq, Repr

structure Server where
  connected : Nat
  readyState : SocketId → ReadyState
  clientIP : SocketId → String
  pairPartner : SocketId → Option SocketId
  clientsByIP : OrderedMap String SocketId
  timers : List Timer

namespace Server

def initial : Server where
  connected := 0
  readyState := fun _ => .CLOSED
  clientIP := fun _ => ""
  pairPartner := fun _ => none
  clientsByIP := []
  timers := []

/-! ## Messages of the server -/

def peerEntry (peerKey : String) : Json :=
  .obj [("ip", .str peerKey), ("name", .str peerKey)]

def peersMessage (peers : List Json) : Json :=
  .obj [("type", .str "peers"), ("peers", .arr peers)]

def errorMessage (reason : String) : Json :=
  .obj [("type", .str "error"), ("reason", .str reason)]

def offererMessage (selfIP : String) : Json :=
  .obj [("type", .str "role"), ("role", .str "offerer"), ("selfIP", .str selfIP)]

def answererMessage (selfIP peerIP : String) : Json :=
  .obj [("type", .str "role"), ("role", .str "answerer"), ("selfIP", .str selfIP),
    ("peerIP", .str peerIP)]

def peerJoinedMessage (peerIP : String) : Json :=
  .obj [("type", .str "peer_joined"), ("peerIP", .str peerIP)]

def peerLeftMessage : Json :=
  .obj [("type", .str "peer_left")]

/-! ## Helper functions -/

/-- `ws.send(message)`. -/
def send (server : Server) (ws : SocketId) (message : Json) (origin : Origin) :
    List Output :=
  if server.readyState ws = .OPEN then [.sent ws message origin] else []

def buildPeerListFor (server : Server) (ws : SocketId) : List Json :=
  server.clientsByIP.filterMap fun (peerKey, peerWs) =>
    if peerWs ≠ ws ∧ server.readyState peerWs = .OPEN then some (peerEntry peerKey)
    else none

def sendPeerList (server : Server) (ws : SocketId) : List Output :=
  server.send ws (peersMessage (server.buildPeerListFor ws)) .server

def broadcastPeerLists (server : Server) : List Output :=
  server.clientsByIP.flatMap fun (_, ws) => server.sendPeerList ws

/-! ## Handlers -/

/-- The key of a connection: `addr:port`, or the address alone without a port.
An absent or empty address reads as `unknown`. -/
def connectionKey (remoteAddress : Option String) (remotePort : Option Nat) : String :=
  let addr := match remoteAddress with
    | some address => if address = "" then "unknown" else address
    | none => "unknown"
  match remotePort with
  | some (port + 1) => addr ++ ":" ++ toString (port + 1)
  | _ => addr

/-- `wss.on('connection')` up to the registration of the handlers. -/
def onConnection (server : Server) (remoteAddress : Option String)
    (remotePort : Option Nat) : Server × List Output :=
  let ws := server.connected
  let key := connectionKey remoteAddress remotePort
  let next : Server :=
    { server with
      connected := ws + 1
      readyState := Function.update server.readyState ws .OPEN
      clientIP := Function.update server.clientIP ws key
      pairPartner := Function.update server.pairPartner ws none
      clientsByIP := OrderedMap.set server.clientsByIP key ws }
  (next, next.broadcastPeerLists)

/-- The socket a `pair_request` names: `clientsByIP.get(p.targetIP)`. Keys are
strings, so any other value finds nothing. -/
def lookupTarget (server : Server) (p : Json) : Option SocketId :=
  (p.stringField? "targetIP").bind (OrderedMap.get server.clientsByIP)

/-- `!targetIP || !targetWs || targetWs === ws` is false, with its `targetWs`. -/
def validTarget (server : Server) (ws : SocketId) (p : Json) : Option SocketId :=
  match p.field? "targetIP", server.lookupTarget p with
  | some targetIP, some targetWs =>
      if targetIP.truthy = false ∨ targetWs = ws then none else some targetWs
  | _, _ => none

/-- Both partner fields are set, both roles are sent, and the timer is armed. -/
def grant (server : Server) (ws targetWs : SocketId) : Server × List Output :=
  let next : Server :=
    { server with
      pairPartner :=
        Function.update (Function.update server.pairPartner ws (some targetWs))
          targetWs (some ws)
      timers := server.timers ++ [⟨ws, targetWs⟩] }
  (next,
    .granted ws targetWs ::
      (next.send ws (offererMessage (next.clientIP ws)) .server ++
        next.send targetWs
          (answererMessage (next.clientIP targetWs) (next.clientIP ws)) .server))

/-- The `pair_request` branch of the message handler. -/
def onPairRequest (server : Server) (ws : SocketId) (p : Json) : Server × List Output :=
  match server.validTarget ws p with
  | none => (server, server.send ws (errorMessage "target_not_found") .server)
  | some targetWs =>
      if (server.pairPartner ws).isSome ∨ (server.pairPartner targetWs).isSome then
        (server, server.send ws (errorMessage "busy") .server)
      else server.grant ws targetWs

/-- The relay at the end of the message handler. -/
def onRelay (server : Server) (ws : SocketId) (type : String) (p : Json) : List Output :=
  match server.pairPartner ws with
  | none => []
  | some partner =>
      if server.readyState partner ≠ .OPEN then []
      else if type = "peer_left" then []
      else server.send partner p (.relay ws)

/-- `ws.on('message')`. The argument is `none` when `JSON.parse` throws. -/
def onMessage (server : Server) (ws : SocketId) (raw : Option Json) :
    Server × List Output :=
  match raw with
  | none => (server, [])
  | some p =>
      match p.stringField? "type" with
      | none => (server, [])
      | some type =>
          if type = "pair_request" then server.onPairRequest ws p
          else if type = "list_peers" then (server, server.sendPeerList ws)
          else (server, server.onRelay ws type p)

/-- Take `ws` out of the registry unless its key was taken over meanwhile. -/
def unregister (server : Server) (ws : SocketId) : OrderedMap String SocketId :=
  if OrderedMap.get server.clientsByIP (server.clientIP ws) = some ws then
    OrderedMap.delete server.clientsByIP (server.clientIP ws)
  else server.clientsByIP

/-- `ws.on('close')`; the library has set `readyState` to `CLOSED` before. The
partner is released, and told, only when it is `OPEN`. -/
def onClose (server : Server) (ws : SocketId) : Server × List Output :=
  let released : Server :=
    { server with
      readyState := Function.update server.readyState ws .CLOSED
      pairPartner := Function.update server.pairPartner ws none
      clientsByIP := server.unregister ws }
  match server.pairPartner ws with
  | none => (released, released.broadcastPeerLists)
  | some partner =>
      if released.readyState partner = .OPEN then
        let next : Server :=
          { released with
            pairPartner := Function.update released.pairPartner partner none }
        (next, next.send partner peerLeftMessage .server ++ next.broadcastPeerLists)
      else (released, released.broadcastPeerLists)

/-- The timer callback: only `ws.readyState` is tested. -/
def onTimeout (server : Server) (timer : Timer) : List Output :=
  server.send timer.ws (peerJoinedMessage (server.clientIP timer.targetWs)) .server

/-! ## The server as a machine -/

inductive Event where
  | connection (remoteAddress : Option String) (remotePort : Option Nat)
  | message (ws : SocketId) (raw : Option Json)
  | closing (ws : SocketId)
  | close (ws : SocketId)
  | timeout (index : Nat)
deriving Repr

def step (server : Server) : Event → Option (Server × List Output)
  | .connection remoteAddress remotePort =>
      some (server.onConnection remoteAddress remotePort)
  | .message ws raw =>
      if server.readyState ws = .CLOSED then none else some (server.onMessage ws raw)
  | .closing ws =>
      if server.readyState ws = .OPEN then
        some ({ server with readyState := Function.update server.readyState ws .CLOSING },
          [])
      else none
  | .close ws =>
      if server.readyState ws = .CLOSING then some (server.onClose ws) else none
  | .timeout index =>
      match server.timers[index]? with
      | none => none
      | some timer =>
          some ({ server with timers := server.timers.eraseIdx index },
            server.onTimeout timer)

end Server

/-- Runs of the server from its start. -/
abbrev ServerRun (guard : Server → Server.Event → Prop) :=
  Machine.Run Server.step guard Server.initial

end WebrtcFileSender.Signaling
