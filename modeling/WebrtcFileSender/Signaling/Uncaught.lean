import WebrtcFileSender.Library.JavaScript
import WebrtcFileSender.Signaling.Effect

/-!
Contract: the signaling server as a process that an uncaught exception ends.

Owns: the listeners of `signaling-server.js` with every property access and every
`JSON.stringify` that can throw, their agreement with the handlers of the server
model, the events that the `ws` library emits on a socket, and the law that the
process goes down exactly with the first `error` event or the first message to pass
on that is nested too deeply to be stringified.

The server subscribes to `message` and `close`. `ws` emits `error` on a socket
that has not closed, for a frame that violates the protocol or that is larger than
the library allows. `send` does not throw on an accepted socket, since none is
`CONNECTING`. `ws._socket` is set before `connection` is emitted.
-/

namespace WebrtcFileSender.Signaling

open JavaScript

namespace Server

/-! ## The listeners with what they may throw -/

/-- The events that `wss.on('connection')` subscribes to on a socket. -/
def listeners : List String := ["message", "close"]

/-- `ws.send(JSON.stringify(message))`. -/
def sendText (stack : CallStack) (server : Server) (ws : SocketId) (message : Json)
    (origin : Origin) : Except Uncaught (List Output) := do
  let text ← stringify stack message
  return server.send ws text origin

def sendPeerListText (stack : CallStack) (server : Server) (ws : SocketId) :
    Except Uncaught (List Output) :=
  if server.readyState ws ≠ .OPEN then return []
  else server.sendText stack ws (peersMessage (server.buildPeerListFor ws)) .server

def broadcastPeerListTexts (stack : CallStack) (server : Server) :
    Except Uncaught (List Output) := do
  let texts ← server.clientsByIP.mapM fun (_, ws) => server.sendPeerListText stack ws
  return texts.flatten

/-- The callback of `wss.on('connection')`. -/
def connectionListener (stack : CallStack) (server : Server)
    (remoteAddress : Option String) (remotePort : Option Nat) :
    Except Uncaught (Server × List Output) := do
  let next := (server.onConnection remoteAddress remotePort).1
  let outputs ← next.broadcastPeerListTexts stack
  return (next, outputs)

/-- The two roles of a granted pair request. -/
def grantListener (stack : CallStack) (server : Server) (ws targetWs : SocketId) :
    Except Uncaught (Server × List Output) := do
  let next := (server.grant ws targetWs).1
  let offerer ← next.sendText stack ws (offererMessage (next.clientIP ws)) .server
  let answerer ← next.sendText stack targetWs
    (answererMessage (next.clientIP targetWs) (next.clientIP ws)) .server
  return (next, .granted ws targetWs :: (offerer ++ answerer))

/-- The `pair_request` branch of the message listener. -/
def pairRequestListener (stack : CallStack) (server : Server) (ws : SocketId)
    (p : Json) : Except Uncaught (Server × List Output) := do
  let targetIP ← property (some p) "targetIP"
  let targetWs := (targetIP.bind Json.string?).bind (OrderedMap.get server.clientsByIP)
  if truthy targetIP = false ∨ targetWs = none ∨ targetWs = some ws then
    let outputs ← server.sendText stack ws (errorMessage "target_not_found") .server
    return (server, outputs)
  else
    let target ← dereference targetWs "_pairPartner"
    if (server.pairPartner ws).isSome ∨ (server.pairPartner target).isSome then
      let outputs ← server.sendText stack ws (errorMessage "busy") .server
      return (server, outputs)
    else server.grantListener stack ws target

/-- The end of the message listener. -/
def relayListener (stack : CallStack) (server : Server) (ws : SocketId) (type : String)
    (p : Json) : Except Uncaught (Server × List Output) := do
  let partner := server.pairPartner ws
  if partner = none then return (server, [])
  else
    let partnerWs ← dereference partner "readyState"
    if server.readyState partnerWs ≠ .OPEN then return (server, [])
    else if type = "peer_left" then return (server, [])
    else
      let outputs ← server.sendText stack partnerWs p (.relay ws)
      return (server, outputs)

/-- `ws.on('message')`. A text that is not JSON is caught. -/
def messageListener (stack : CallStack) (server : Server) (ws : SocketId)
    (raw : Option Json) : Except Uncaught (Server × List Output) := do
  match raw with
  | none => return (server, [])
  | some p =>
      if truthy (some p) = false then return (server, [])
      else
        let type ← property (some p) "type"
        match type.bind Json.string? with
        | none => return (server, [])
        | some type =>
            if type = "pair_request" then server.pairRequestListener stack ws p
            else if type = "list_peers" then
              let outputs ← server.sendPeerListText stack ws
              return (server, outputs)
            else server.relayListener stack ws type p

/-- `ws.on('close')`. -/
def closeListener (stack : CallStack) (server : Server) (ws : SocketId) :
    Except Uncaught (Server × List Output) := do
  let partner := server.pairPartner ws
  let released : Server :=
    { server with
      readyState := Function.update server.readyState ws .CLOSED
      pairPartner := Function.update server.pairPartner ws none
      clientsByIP := server.unregister ws }
  if partner = none then
    let outputs ← released.broadcastPeerListTexts stack
    return (released, outputs)
  else
    let partnerWs ← dereference partner "readyState"
    if released.readyState partnerWs = .OPEN then
      let next : Server :=
        { released with
          pairPartner := Function.update released.pairPartner partnerWs none }
      let left ← next.sendText stack partnerWs peerLeftMessage .server
      let outputs ← next.broadcastPeerListTexts stack
      return (next, left ++ outputs)
    else
      let outputs ← released.broadcastPeerListTexts stack
      return (released, outputs)

/-- The callback of `setTimeout`. -/
def timeoutListener (stack : CallStack) (server : Server) (timer : Timer) :
    Except Uncaught (List Output) :=
  if server.readyState timer.ws = .OPEN then
    server.sendText stack timer.ws (peerJoinedMessage (server.clientIP timer.targetWs))
      .server
  else return []

/-! ## The server's own messages -/

variable (stack : CallStack) (server : Server)

theorem sendText_of_shallow (ws : SocketId) {message : Json} (origin : Origin)
    (low : message.depth ≤ 3) :
    server.sendText stack ws message origin = .ok (server.send ws message origin) := by
  unfold sendText
  rw [stringify_of_shallow stack low, ok_bind]
  rfl

/-- A peer list has three levels: the message, the list, and an entry. -/
theorem depth_peersMessage (ws : SocketId) :
    (peersMessage (server.buildPeerListFor ws)).depth ≤ 3 := by
  have entries : ∀ entry ∈ server.buildPeerListFor ws, entry.depth ≤ 1 := by
    intro entry member
    obtain ⟨registered, -, isEntry⟩ := List.mem_filterMap.mp member
    dsimp only at isEntry
    split at isEntry
    case isTrue =>
      obtain rfl := Option.some.inj isEntry
      simp [peerEntry, Json.depth, Json.fieldsDepth]
    case isFalse => contradiction
  have items := Json.itemsDepth_le entries
  simp only [peersMessage, Json.depth, Json.fieldsDepth]
  omega

theorem sendPeerListText_eq (ws : SocketId) :
    server.sendPeerListText stack ws = .ok (server.sendPeerList ws) := by
  unfold sendPeerListText
  split
  case isTrue notOpen =>
    rw [sendPeerList, send, if_neg notOpen]
    rfl
  case isFalse => exact server.sendText_of_shallow stack ws .server (server.depth_peersMessage ws)

theorem broadcastPeerListTexts_eq :
    server.broadcastPeerListTexts stack = .ok server.broadcastPeerLists := by
  unfold broadcastPeerListTexts broadcastPeerLists
  simp only [sendPeerListText_eq]
  have taken : (server.clientsByIP.mapM fun entry : String × SocketId =>
      (Except.ok (server.sendPeerList entry.2) : Except Uncaught _)) =
      .ok (server.clientsByIP.map fun entry => server.sendPeerList entry.2) :=
    List.mapM_pure
  rw [taken, ok_bind, ← List.flatMap_def]
  rfl

theorem connectionListener_eq (remoteAddress : Option String) (remotePort : Option Nat) :
    server.connectionListener stack remoteAddress remotePort =
      .ok (server.onConnection remoteAddress remotePort) := by
  simp only [connectionListener, broadcastPeerListTexts_eq, ok_bind]
  rfl

theorem grantListener_eq (ws targetWs : SocketId) :
    server.grantListener stack ws targetWs = .ok (server.grant ws targetWs) := by
  have offerer (selfIP : String) : (offererMessage selfIP).depth ≤ 3 := by
    simp [offererMessage, Json.depth, Json.fieldsDepth]
  have answerer (selfIP peerIP : String) : (answererMessage selfIP peerIP).depth ≤ 3 := by
    simp [answererMessage, Json.depth, Json.fieldsDepth]
  simp only [grantListener, sendText_of_shallow _ _ _ _ (offerer _),
    sendText_of_shallow _ _ _ _ (answerer _ _), ok_bind]
  rfl

theorem timeoutListener_eq (timer : Timer) :
    server.timeoutListener stack timer = .ok (server.onTimeout timer) := by
  unfold timeoutListener
  split
  case isTrue =>
    exact server.sendText_of_shallow stack timer.ws .server
      (by simp [peerJoinedMessage, Json.depth, Json.fieldsDepth])
  case isFalse notOpen =>
    rw [onTimeout, send, if_neg notOpen]
    rfl

theorem closeListener_eq (ws : SocketId) :
    server.closeListener stack ws = .ok (server.onClose ws) := by
  unfold closeListener onClose
  simp only [broadcastPeerListTexts_eq]
  cases server.pairPartner ws with
  | none => rfl
  | some partner =>
      simp only [reduceCtorEq, if_false, dereference, ok_bind]
      split
      case isTrue =>
        rw [sendText_of_shallow _ _ _ _ (by simp [peerLeftMessage, Json.depth, Json.fieldsDepth]),
          ok_bind]
        rfl
      case isFalse => rfl

theorem errorText_eq (ws : SocketId) (reason : String) :
    server.sendText stack ws (errorMessage reason) .server =
      .ok (server.send ws (errorMessage reason) .server) :=
  server.sendText_of_shallow stack ws .server
    (by simp [errorMessage, Json.depth, Json.fieldsDepth])

theorem pairRequestListener_eq (ws : SocketId) {p : Json}
    (isTruthy : truthy (some p) = true) :
    server.pairRequestListener stack ws p = .ok (server.onPairRequest ws p) := by
  unfold pairRequestListener onPairRequest validTarget lookupTarget
  simp only [errorText_eq, grantListener_eq]
  rw [property_of_truthy isTruthy, ok_bind]
  have sameTarget : ((p.field? "targetIP").bind Json.string?).bind
      (OrderedMap.get server.clientsByIP) =
      (p.stringField? "targetIP").bind (OrderedMap.get server.clientsByIP) := rfl
  rw [sameTarget]
  cases field : p.field? "targetIP" with
  | none =>
      simp only [truthy, Option.any_none, true_or, if_true]
      rfl
  | some targetIP =>
      cases found : (p.stringField? "targetIP").bind (OrderedMap.get server.clientsByIP) with
      | none =>
          simp only [true_or, or_true, if_true]
          rfl
      | some targetWs =>
          by_cases invalid : targetIP.truthy = false ∨ targetWs = ws
          · have refused : truthy (some targetIP) = false ∨ some targetWs = none ∨
                some targetWs = some ws := by
              rcases invalid with falsy | self
              · exact .inl falsy
              · exact .inr (.inr (congrArg some self))
            simp only [if_pos refused, if_pos invalid]
            rfl
          · have valid : ¬ (truthy (some targetIP) = false ∨ some targetWs = none ∨
                some targetWs = some ws) := by
              rintro (falsy | absent | self)
              · exact invalid (.inl falsy)
              · contradiction
              · exact invalid (.inr (Option.some.inj self))
            simp only [if_neg valid, if_neg invalid, dereference, ok_bind]
            split <;> rfl

/-! ## The messages that are passed on -/

/-- A message of this type is passed on to the partner of the socket, if it is not one
of the two requests. -/
def PassesOn (ws : SocketId) (type : String) : Prop :=
  type ≠ "peer_left" ∧
    ∃ partner, server.pairPartner ws = some partner ∧ server.readyState partner = .OPEN

/-- The server stringifies this value of a client. -/
def Relays (ws : SocketId) (p : Json) : Prop :=
  ∃ type, p.stringField? "type" = some type ∧ type ≠ "pair_request" ∧
    type ≠ "list_peers" ∧ server.PassesOn ws type

theorem relayListener_eq (ws : SocketId) (type : String) (p : Json)
    (fits : server.PassesOn ws type → stack.holds p = true) :
    server.relayListener stack ws type p = .ok (server, server.onRelay ws type p) := by
  unfold relayListener onRelay
  cases paired : server.pairPartner ws with
  | none => rfl
  | some partner =>
      simp only [reduceCtorEq, if_false, dereference, ok_bind]
      split
      case isTrue => rfl
      case isFalse isOpen =>
        split
        case isTrue => rfl
        case isFalse notLeft =>
          have held := fits ⟨notLeft, partner, paired, not_not.mp isOpen⟩
          rw [sendText, stringify, if_pos held]
          rfl

theorem relayListener_overflow (ws : SocketId) (type : String) (p : Json)
    (passes : server.PassesOn ws type) (tooDeep : stack.holds p = false) :
    server.relayListener stack ws type p = .error .rangeError := by
  obtain ⟨notLeft, partner, paired, isOpen⟩ := passes
  unfold relayListener
  simp only [paired, reduceCtorEq, if_false, dereference, ok_bind, isOpen, ne_eq,
    not_true_eq_false, notLeft, sendText, stringify, tooDeep, Bool.false_eq_true]
  rfl

/-- Whatever a client sends, the message listener finishes as the model says, if the
stack holds what is passed on. -/
theorem messageListener_eq (ws : SocketId) (raw : Option Json)
    (fits : ∀ p, raw = some p → server.Relays ws p → stack.holds p = true) :
    server.messageListener stack ws raw = .ok (server.onMessage ws raw) := by
  cases raw with
  | none => rfl
  | some p =>
      simp only [messageListener, onMessage]
      cases isTruthy : truthy (some p) with
      | false =>
          have untyped : p.stringField? "type" = none := by
            cases p with
            | obj => contradiction
            | null | bool | num | str | arr => rfl
          simp only [if_true, untyped]
          rfl
      | true =>
          simp only [Bool.true_eq_false, if_false, property_of_truthy isTruthy, ok_bind]
          have sameType : (p.field? "type").bind Json.string? = p.stringField? "type" := rfl
          rw [sameType]
          cases typed : p.stringField? "type" with
          | none => rfl
          | some type =>
              dsimp only
              split
              case isTrue => exact server.pairRequestListener_eq stack ws isTruthy
              case isFalse notRequest =>
                split
                case isTrue =>
                  rw [sendPeerListText_eq, ok_bind]
                  rfl
                case isFalse notList =>
                  exact server.relayListener_eq stack ws type p fun passes =>
                    fits p rfl ⟨type, typed, notRequest, notList, passes⟩

theorem messageListener_overflow (ws : SocketId) (p : Json)
    (relayed : server.Relays ws p) (tooDeep : stack.holds p = false) :
    server.messageListener stack ws (some p) = .error .rangeError := by
  obtain ⟨type, typed, notRequest, notList, passes⟩ := relayed
  have isTruthy : truthy (some p) = true := by
    cases p with
    | obj => rfl
    | null | bool | num | str | arr => contradiction
  have sameType : (p.field? "type").bind Json.string? = some type := typed
  simp only [messageListener, isTruthy, Bool.true_eq_false, if_false,
    property_of_truthy isTruthy, ok_bind, sameType, notRequest, notList]
  exact server.relayListener_overflow stack ws type p passes tooDeep

end Server

/-! ## The process -/

/-- What the `ws` library and the timers bring to the process. -/
inductive Emission where
  | connection (remoteAddress : Option String) (remotePort : Option Nat)
  | message (ws : SocketId) (raw : Option Json)
  | error (ws : SocketId)
  | ping (ws : SocketId)
  | pong (ws : SocketId)
  | closing (ws : SocketId)
  | close (ws : SocketId)
  | timeout (index : Nat)
deriving Repr

/-- The process serves, or an exception has ended it. -/
inductive Process where
  | running (server : Server)
  | down (uncaught : Uncaught)

namespace Process

/-- An emission that is possible in this state runs its listener. -/
def dispatch (stack : CallStack) (server : Server) :
    Emission → Option (Except Uncaught (Server × List Output))
  | .connection remoteAddress remotePort =>
      some (server.connectionListener stack remoteAddress remotePort)
  | .message ws raw =>
      if server.readyState ws = .CLOSED then none
      else
        some (emit Server.listeners "message" (server.messageListener stack ws raw)
          (server, []))
  | .error ws =>
      if server.readyState ws = .CLOSED then none
      else some (emit Server.listeners "error" (.ok (server, [])) (server, []))
  | .ping ws =>
      if server.readyState ws = .CLOSED then none
      else some (emit Server.listeners "ping" (.ok (server, [])) (server, []))
  | .pong ws =>
      if server.readyState ws = .CLOSED then none
      else some (emit Server.listeners "pong" (.ok (server, [])) (server, []))
  | .closing ws => (server.step (.closing ws)).map .ok
  | .close ws =>
      if server.readyState ws = .CLOSING then
        some (emit Server.listeners "close" (server.closeListener stack ws) (server, []))
      else none
  | .timeout index =>
      server.timers[index]?.map fun timer => do
        let outputs ← server.timeoutListener stack timer
        return ({ server with timers := server.timers.eraseIdx index }, outputs)

def step (stack : CallStack) : Process → Emission → Option (Process × List Output)
  | .down _, _ => none
  | .running server, emission =>
      (dispatch stack server emission).map fun
        | .ok (next, outputs) => (.running next, outputs)
        | .error uncaught => (.down uncaught, [])

/-- The emission is no `error`, and a value that is passed on has room on the stack. -/
def Harmless (stack : CallStack) : Process → Emission → Prop
  | _, .error _ => False
  | .running server, .message ws (some p) => server.Relays ws p → stack.holds p = true
  | _, _ => True

end Process

/-- Runs of the process from its start. -/
abbrev ProcessRun (stack : CallStack) (guard : Process → Emission → Prop) :=
  Machine.Run (Process.step stack) guard (.running .initial)

/-- The event of the server model that an emission stands for. -/
def Emission.event? : Emission → Option Server.Event
  | .connection remoteAddress remotePort => some (.connection remoteAddress remotePort)
  | .message ws raw => some (.message ws raw)
  | .closing ws => some (.closing ws)
  | .close ws => some (.close ws)
  | .timeout index => some (.timeout index)
  | .error _ | .ping _ | .pong _ => none

namespace Process

variable {stack : CallStack} {server : Server} {emission : Emission} {next : Process}
variable {outputs : List Output}

/-- The process goes on as the server model does, or as it is after an emission that
has no listener. -/
def Serves (server : Server) (emission : Emission) (next : Process)
    (outputs : List Output) : Prop :=
  ∃ following, next = .running following ∧
    ((∃ event, emission.event? = some event ∧
        server.step event = some (following, outputs)) ∨
      (emission.event? = none ∧ following = server ∧ outputs = []))

/-- One emission: a harmful one ends the process, every other is one step of the
server model or none. -/
theorem step_cases
    (stepped : (Process.running server).step stack emission = some (next, outputs)) :
    (¬ Harmless stack (.running server) emission ∧
      (∃ uncaught, next = .down uncaught) ∧ outputs = []) ∨
    (Harmless stack (.running server) emission ∧ Serves server emission next outputs) := by
  simp only [step, Option.map_eq_some_iff] at stepped
  obtain ⟨result, dispatched, handled⟩ := stepped
  have served : ∀ {event : Server.Event} {returned : Server × List Output},
      emission.event? = some event → server.step event = some returned →
      result = .ok returned → Serves server emission next outputs := by
    rintro event ⟨following, emitted⟩ isEvent serverStepped rfl
    obtain ⟨rfl, rfl⟩ := Prod.mk.inj handled
    exact ⟨following, rfl, .inl ⟨event, isEvent, serverStepped⟩⟩
  cases emission with
  | connection remoteAddress remotePort =>
      obtain rfl := Option.some.inj dispatched
      exact .inr ⟨trivial, served rfl rfl
        (server.connectionListener_eq stack remoteAddress remotePort)⟩
  | message ws raw =>
      simp only [dispatch] at dispatched
      split at dispatched
      case isTrue => contradiction
      case isFalse alive =>
        obtain rfl := Option.some.inj dispatched
        have stepsTo : server.step (.message ws raw) = some (server.onMessage ws raw) := by
          simp [Server.step, alive]
        by_cases fits : ∀ p, raw = some p → server.Relays ws p → stack.holds p = true
        · have harmless : Harmless stack (.running server) (.message ws raw) := by
            cases raw with
            | none => trivial
            | some p => exact fits p rfl
          exact .inr ⟨harmless, served rfl stepsTo
            (server.messageListener_eq stack ws raw fits)⟩
        · push Not at fits
          obtain ⟨p, rfl, relayed, overflows⟩ := fits
          have tooDeep : stack.holds p = false := eq_false_of_ne_true overflows
          rw [server.messageListener_overflow stack ws p relayed tooDeep] at handled
          obtain ⟨rfl, rfl⟩ := Prod.mk.inj handled
          exact .inl ⟨fun harmless => overflows (harmless relayed), ⟨_, rfl⟩, rfl⟩
  | error ws =>
      simp only [dispatch] at dispatched
      split at dispatched
      case isTrue => contradiction
      case isFalse =>
        obtain rfl := Option.some.inj dispatched
        obtain ⟨rfl, rfl⟩ := Prod.mk.inj handled
        exact .inl ⟨id, ⟨_, rfl⟩, rfl⟩
  | ping ws | pong ws =>
      simp only [dispatch] at dispatched
      split at dispatched
      case isTrue => contradiction
      case isFalse =>
        obtain rfl := Option.some.inj dispatched
        obtain ⟨rfl, rfl⟩ := Prod.mk.inj handled
        exact .inr ⟨trivial, server, rfl, .inr ⟨rfl, rfl, rfl⟩⟩
  | close ws =>
      simp only [dispatch] at dispatched
      split at dispatched
      case isFalse => contradiction
      case isTrue isClosing =>
        obtain rfl := Option.some.inj dispatched
        have stepsTo : server.step (.close ws) = some (server.onClose ws) := by
          simp [Server.step, isClosing]
        exact .inr ⟨trivial, served rfl stepsTo (server.closeListener_eq stack ws)⟩
  | closing ws =>
      obtain ⟨returned, stepsTo, rfl⟩ := Option.map_eq_some_iff.mp dispatched
      exact .inr ⟨trivial, served rfl stepsTo rfl⟩
  | timeout index =>
      obtain ⟨timer, found, rfl⟩ := Option.map_eq_some_iff.mp dispatched
      have stepsTo : server.step (.timeout index) =
          some ({ server with timers := server.timers.eraseIdx index },
            server.onTimeout timer) := by
        simp only [Server.step, found]
      refine .inr ⟨trivial, served rfl stepsTo ?_⟩
      rw [Server.timeoutListener_eq, ok_bind]
      rfl

theorem step_overflow {ws : SocketId} {p : Json}
    (alive : ¬ server.readyState ws = .CLOSED)
    (relayed : server.Relays ws p) (tooDeep : stack.holds p = false) :
    (Process.running server).step stack (.message ws (some p)) =
      some (.down .rangeError, []) := by
  simp only [step, dispatch, if_neg alive,
    server.messageListener_overflow stack ws p relayed tooDeep]
  rfl

end Process

/-- As long as the process runs, it is the server model on the emissions that
have a listener. -/
theorem serverRun_of_processRun {stack : CallStack}
    {emissions : List Emission} {outputs : List Output} {process : Process}
    (run : ProcessRun stack Machine.free emissions outputs process) :
    ∀ server, process = .running server →
      ServerRun Machine.free (emissions.filterMap Emission.event?) outputs server := by
  induction run with
  | nil =>
      rintro server same
      obtain rfl := Process.running.inj same
      exact .nil
  | @snoc emissions outputs emitted middle final emission before _ stepped
      inductionHypothesis =>
      rintro server rfl
      cases middle with
      | down uncaught => contradiction
      | running previous =>
          have earlier := inductionHypothesis previous rfl
          rw [List.filterMap_append]
          rcases Process.step_cases stepped with
            ⟨-, ⟨uncaught, isDown⟩, -⟩ | ⟨-, following, isRunning, made⟩
          · contradiction
          · obtain rfl := Process.running.inj isRunning
            rcases made with ⟨event, isEvent, serverStepped⟩ | ⟨noEvent, rfl, rfl⟩
            · simp only [List.filterMap_cons, isEvent, List.filterMap_nil]
              exact .snoc earlier trivial serverStepped
            · simpa [noEvent] using earlier

/-- **The server stays up exactly as long as every emission is harmless.** In every
run in which clients connect, send any JSON value or any other bytes, and disconnect
at any time, the process runs at the end if and only if no socket has emitted `error`
and no message that was passed on was nested too deeply for the call stack; no other
emission throws, in any state. -/
theorem server_stays_up_iff {stack : CallStack}
    {emissions : List Emission} {outputs : List Output} {process : Process}
    (run : ProcessRun stack Machine.free emissions outputs process) :
    (∃ server, process = .running server) ↔
      ProcessRun stack (Process.Harmless stack) emissions outputs process := by
  constructor
  · induction run with
    | nil =>
        intro up
        exact .nil
    | @snoc emissions outputs emitted middle final emission before _ stepped
        inductionHypothesis =>
        rintro ⟨server, rfl⟩
        cases middle with
        | down uncaught => contradiction
        | running previous =>
            have earlier := inductionHypothesis ⟨previous, rfl⟩
            rcases Process.step_cases stepped with ⟨-, ⟨uncaught, isDown⟩, -⟩ | ⟨harmless, -⟩
            · contradiction
            · exact .snoc earlier harmless stepped
  · intro guarded
    apply guarded.state_invariant (fun process => ∃ server, process = .running server)
    · exact ⟨.initial, rfl⟩
    · rintro process emission next emitted ⟨server, rfl⟩ harmless stepped
      rcases Process.step_cases stepped with ⟨harmful, -⟩ | ⟨-, following, isRunning, -⟩
      · contradiction
      · exact ⟨following, isRunning⟩

/-- The call stack of these examples. -/
def thousandLevels : CallStack :=
  .ofDepth 1000 (by decide)

/-- Two clients connect and pair, one sends texts that are not JSON, `null`, an
array, an ill-typed request and a nested message that is passed on, and leaves. -/
def hostileRun : List Emission :=
  [.connection (some "10.0.0.1") (some 5001), .connection (some "10.0.0.2") (some 5002),
    .message 0 (some (.obj [("type", .str "pair_request"),
      ("targetIP", .str "10.0.0.2:5002")])),
    .message 1 none, .message 1 (some .null), .message 1 (some (.arr [.null])),
    .message 1 (some (.obj [("type", .str "pair_request"), ("targetIP", .null)])),
    .message 1 (some (.obj [("type", .str "offer"), ("sdp", .nested 4)])),
    .ping 1, .closing 1, .message 0 (some (.obj [("type", .str "offer")])), .close 1,
    .timeout 0]

/-- The process runs. -/
def Process.isRunning : Process → Bool
  | .running _ => true
  | .down _ => false

theorem server_stays_up_iff_hostileRun :
    ∃ outputs process,
      ProcessRun thousandLevels (Process.Harmless thousandLevels) hostileRun outputs
        process ∧
      process.isRunning = true := by
  obtain ⟨process, outputs, run, up⟩ :
      ∃ process outputs,
        ProcessRun thousandLevels Machine.free hostileRun outputs process ∧
          process.isRunning = true :=
    Machine.run_of_exec_any (fun (process : Process) _ => process.isRunning) (by decide)
  have running : ∃ server, process = .running server := by
    cases process with
    | running server => exact ⟨server, rfl⟩
    | down => contradiction
  exact ⟨outputs, process, (server_stays_up_iff run).mp running, up⟩

/-- Two clients connect, and the first pairs with the second. -/
def pairedConnections : List Emission :=
  [.connection (some "10.0.0.1") (some 5001), .connection (some "10.0.0.2") (some 5002),
    .message 0 (some (.obj [("type", .str "pair_request"),
      ("targetIP", .str "10.0.0.2:5002")]))]

/-- An offer around arrays in each other. -/
def nestedOffer (levels : Nat) : Json :=
  .obj [("type", .str "offer"), ("sdp", .nested levels)]

theorem nestedOffer_overflows {levels : Nat} (deep : 1000 ≤ levels) :
    thousandLevels.holds (nestedOffer levels) = false := by
  simp only [thousandLevels, CallStack.ofDepth, nestedOffer, Json.depth, Json.fieldsDepth,
    Json.depth_nested, decide_eq_false_iff_not]
  omega

theorem nestedOffer_relayed {server : Server} (levels : Nat)
    (paired : server.pairPartner 0 = some 1) (partnerOpen : server.readyState 1 = .OPEN) :
    server.Relays 0 (nestedOffer levels) :=
  ⟨"offer", rfl, by decide, by decide, by decide, 1, paired, partnerOpen⟩

theorem pairedConnections_run :
    ∃ outputs server,
      ProcessRun thousandLevels Machine.free pairedConnections outputs (.running server) ∧
        server.readyState 0 = .OPEN ∧ server.pairPartner 0 = some 1 ∧
        server.readyState 1 = .OPEN := by
  obtain ⟨process, outputs, run, paired⟩ :
      ∃ process outputs,
        ProcessRun thousandLevels Machine.free pairedConnections outputs process ∧
          (match process with
            | .running server =>
                decide (server.readyState 0 = .OPEN ∧ server.pairPartner 0 = some 1 ∧
                  server.readyState 1 = .OPEN)
            | .down _ => false) = true :=
    Machine.run_of_exec_any (fun (process : Process) _ => match process with
      | .running server =>
          decide (server.readyState 0 = .OPEN ∧ server.pairPartner 0 = some 1 ∧
            server.readyState 1 = .OPEN)
      | .down _ => false) (by decide)
  cases process with
  | down => contradiction
  | running server => exact ⟨outputs, server, run, of_decide_eq_true paired⟩

/-- The first client sends a malformed frame, or nested arrays for its partner: the
process is down for all clients. -/
theorem one_client_brings_server_down :
    (∃ outputs,
      ProcessRun thousandLevels Machine.free (pairedConnections ++ [.error 0]) outputs
        (.down .unhandledErrorEvent)) ∧
    ∃ outputs,
      ProcessRun thousandLevels Machine.free
        (pairedConnections ++ [.message 0 (some (nestedOffer 5000))]) outputs
        (.down .rangeError) := by
  obtain ⟨outputs, server, run, isOpen, paired, partnerOpen⟩ := pairedConnections_run
  have alive : ¬ server.readyState 0 = .CLOSED := by simp [isOpen]
  constructor
  · have stepped : (Process.running server).step thousandLevels (.error 0) =
        some (.down .unhandledErrorEvent, []) := by
      simp only [Process.step, Process.dispatch, if_neg alive]
      rfl
    exact ⟨_, run.trans (.single trivial stepped)⟩
  · exact ⟨_, run.trans (.single trivial (Process.step_overflow alive
      (nestedOffer_relayed 5000 paired partnerOpen) (nestedOffer_overflows (by decide))))⟩

end WebrtcFileSender.Signaling
