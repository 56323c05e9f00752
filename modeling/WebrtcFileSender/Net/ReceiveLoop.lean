import WebrtcFileSender.Net.Decoding

/-!
Contract: the chain of `receiveSignal` calls on one socket.

`receiveSignal` asks the socket for one message; the completion handler reads it
and calls `receiveSignal` again, on every path. A dead socket completes each call
at once, with an error and without a message. The handler does not look at the
error, and a message to nil returns zero, which is the type of a data message.

Owns: the completion handler with its test for data, the chain over any sequence
of completions, and what the chain does on a dead socket.

Between two completions anything may happen to the client, so each completion
finds a client of its own. The container holds the client for good.
-/

namespace WebrtcFileSender.Net

open Foundation

/-- `NSURLSessionWebSocketMessage`. What it carries is given as
`NSJSONSerialization` reads it, and is absent when that fails. -/
inductive WebSocketMessage where
  | data (json : Option Json)
  | string (json : Option Json)

namespace WebSocketMessage

/-- `NSURLSessionWebSocketMessageTypeData`. -/
def typeData : Nat := 0

/-- `NSURLSessionWebSocketMessageTypeString`. -/
def typeString : Nat := 1

/-- `message.type`; nil returns zero. -/
def type : Option WebSocketMessage → Nat
  | none => 0
  | some (.data _) => typeData
  | some (.string _) => typeString

/-- `[message.string dataUsingEncoding:NSUTF8StringEncoding]`. -/
def stringData : Option WebSocketMessage → Option (Option Json)
  | some (.string json) => some json
  | none | some (.data _) => none

/-- `message.data`. -/
def dataData : Option WebSocketMessage → Option (Option Json)
  | some (.data json) => some json
  | none | some (.string _) => none

/-- `msgData`, nil or the data to be parsed. -/
def msgData (message : Option WebSocketMessage) : Option (Option Json) :=
  if type message = typeString then stringData message
  else if type message = typeData then dataData message
  else none

end WebSocketMessage

/-- What a completion handler finds when it is called. -/
structure Moment where
  endpoint : Endpoint
  peerConnection : Bool

/-- The completion handler up to its call of `receiveSignal`. Without data it does
nothing else, and a nil dictionary has no type. -/
def Moment.completionHandler (moment : Moment) (message : Option WebSocketMessage) :
    Except Exception Endpoint :=
  match WebSocketMessage.msgData message with
  | none => .ok moment.endpoint
  | some none => .ok moment.endpoint
  | some (some json) =>
      moment.endpoint.receiveSignalMessage moment.peerConnection json none

/-- The chain so far: the messages that were handled to the end, the calls of
`receiveMessageWithCompletionHandler:`, and whether the last is still to be
completed. -/
structure ReceiveChain where
  processed : List WebSocketMessage
  receiveCalls : Nat
  armed : Bool

namespace ReceiveChain

/-- `setupWebSocket` calls `receiveSignal` once. -/
def start : ReceiveChain where
  processed := []
  receiveCalls := 1
  armed := true

/-- The socket completes a call. A handler that raises ends the chain. -/
def complete (chain : ReceiveChain) (moment : Moment) (message : Option WebSocketMessage) :
    ReceiveChain :=
  if chain.armed then
    match moment.completionHandler message with
    | .error _ => { chain with armed := false }
    | .ok _ =>
        { processed := chain.processed ++ message.toList
          receiveCalls := chain.receiveCalls + 1
          armed := true }
  else chain

def receiveAll (chain : ReceiveChain) (messages : List (Moment × WebSocketMessage)) :
    ReceiveChain :=
  messages.foldl (fun chain received => chain.complete received.1 (some received.2)) chain

/-- The socket is dead: every call completes without a message. -/
def failAll (chain : ReceiveChain) (dead : List Moment) : ReceiveChain :=
  dead.foldl (fun chain moment => chain.complete moment none) chain

/-- Every message is handled once, to the end and in order, and no further call
waits. -/
def Ended (chain : ReceiveChain) (messages : List (Moment × WebSocketMessage)) : Prop :=
  chain.processed = messages.map Prod.snd ∧ chain.armed = false

/-! ## One completion -/

variable {chain : ReceiveChain}

/-- Without a message there is no data, so the handler only calls again. -/
theorem complete_none (moment : Moment) (armed : chain.armed = true) :
    chain.complete moment none = { chain with receiveCalls := chain.receiveCalls + 1 } := by
  have noData : moment.completionHandler none = .ok moment.endpoint := rfl
  rw [complete, if_pos armed, noData]
  dsimp only [Option.toList]
  rw [List.append_nil, ← armed]

theorem complete_some {moment : Moment} {message : WebSocketMessage}
    (armed : chain.armed = true)
    (finishes : Finishes (moment.completionHandler (some message))) :
    chain.complete moment (some message) =
      { processed := chain.processed ++ [message]
        receiveCalls := chain.receiveCalls + 1
        armed := true } := by
  obtain ⟨endpoint, handled⟩ := finishes
  rw [complete, if_pos armed, handled]
  rfl

/-- A completion handles at most its own message, and none without calling
again. -/
theorem complete_cases (chain : ReceiveChain) (moment : Moment)
    (message : WebSocketMessage) :
    ((chain.complete moment (some message)).processed = chain.processed ∧
      (chain.complete moment (some message)).armed = false) ∨
    ((chain.complete moment (some message)).processed = chain.processed ++ [message] ∧
      (chain.complete moment (some message)).armed = true) := by
  unfold complete
  split
  case isFalse notArmed => exact .inl ⟨rfl, by simpa using notArmed⟩
  case isTrue =>
    split
    · exact .inl ⟨rfl, rfl⟩
    · exact .inr ⟨rfl, rfl⟩

theorem complete_of_not_armed (notArmed : chain.armed = false) (moment : Moment)
    (message : Option WebSocketMessage) : chain.complete moment message = chain := by
  simp [complete, notArmed]

/-! ## All completions -/

theorem receiveAll_of_not_armed (notArmed : chain.armed = false)
    (messages : List (Moment × WebSocketMessage)) : chain.receiveAll messages = chain := by
  induction messages with
  | nil => rfl
  | cons received rest inductionHypothesis =>
      rw [receiveAll, List.foldl_cons, complete_of_not_armed notArmed]
      exact inductionHypothesis

theorem receiveAll_of_finishes (armed : chain.armed = true)
    (messages : List (Moment × WebSocketMessage))
    (finishes : ∀ received ∈ messages,
      Finishes (received.1.completionHandler (some received.2))) :
    chain.receiveAll messages =
      { processed := chain.processed ++ messages.map Prod.snd
        receiveCalls := chain.receiveCalls + messages.length
        armed := true } := by
  induction messages generalizing chain with
  | nil =>
      rw [List.map_nil, List.append_nil, ← armed]
      rfl
  | cons received rest inductionHypothesis =>
      rw [receiveAll, List.foldl_cons, complete_some armed (finishes _ List.mem_cons_self)]
      have again : (ReceiveChain.mk (chain.processed ++ [received.2])
          (chain.receiveCalls + 1) true).armed = true := rfl
      have later := inductionHypothesis again fun other member =>
        finishes other (List.mem_cons_of_mem _ member)
      rw [receiveAll] at later
      rw [later]
      simp only [List.map_cons, List.length_cons, List.append_assoc, List.singleton_append,
        Nat.add_assoc, Nat.add_comm 1]

/-- A chain that has ended has left a message unhandled. -/
theorem processed_lt_of_ended (messages : List (Moment × WebSocketMessage))
    (armed : chain.armed = true)
    (ended : (chain.receiveAll messages).armed = false) :
    (chain.receiveAll messages).processed.length <
      chain.processed.length + messages.length := by
  induction messages generalizing chain with
  | nil =>
      rw [show chain.receiveAll [] = chain from rfl, armed] at ended
      contradiction
  | cons received rest inductionHypothesis =>
      rw [receiveAll, List.foldl_cons] at ended ⊢
      rcases chain.complete_cases received.1 received.2 with
        ⟨same, stopped⟩ | ⟨grown, again⟩
      · have idle := receiveAll_of_not_armed stopped rest
        rw [receiveAll] at idle
        rw [idle, same, List.length_cons]
        omega
      · have shorter := inductionHypothesis again ended
        rw [receiveAll, grown, List.length_append, List.length_singleton] at shorter
        rw [List.length_cons]
        omega

theorem failAll_of_armed (armed : chain.armed = true) (dead : List Moment) :
    chain.failAll dead = { chain with receiveCalls := chain.receiveCalls + dead.length } := by
  induction dead generalizing chain with
  | nil => rfl
  | cons moment rest inductionHypothesis =>
      rw [failAll, List.foldl_cons, complete_none moment armed]
      have again : { chain with receiveCalls := chain.receiveCalls + 1 }.armed = true := armed
      have later := inductionHypothesis again
      rw [failAll] at later
      rw [later, List.length_cons]
      simp only [Nat.add_assoc, Nat.add_comm 1]

theorem failAll_of_not_armed (notArmed : chain.armed = false) (dead : List Moment) :
    chain.failAll dead = chain := by
  induction dead with
  | nil => rfl
  | cons moment rest inductionHypothesis =>
      rw [failAll, List.foldl_cons, complete_of_not_armed notArmed]
      exact inductionHypothesis

/-! ## The dead socket -/

/-- **The chain never ends as it should.** Whatever messages the socket delivers
and however many calls it fails after them: the chain does not come to an end with
every message handled. When no message raises, every message is handled exactly
once and in order, and each failed call is followed by another. -/
theorem receive_loop_never_ends
    (messages : List (Moment × WebSocketMessage)) (dead : List Moment) :
    (¬ ((start.receiveAll messages).failAll dead).Ended messages) ∧
    ((∀ received ∈ messages, Finishes (received.1.completionHandler (some received.2))) →
      (start.receiveAll messages).failAll dead =
        { processed := messages.map Prod.snd
          receiveCalls := messages.length + dead.length + 1
          armed := true }) := by
  have startArmed : start.armed = true := rfl
  constructor
  · rintro ⟨complete, ended⟩
    cases armed : (start.receiveAll messages).armed with
    | true =>
        rw [failAll_of_armed armed] at ended
        rw [armed] at ended
        contradiction
    | false =>
        have fewer := processed_lt_of_ended messages startArmed armed
        rw [failAll_of_not_armed armed] at complete
        rw [complete, List.length_map] at fewer
        have none : start.processed.length = 0 := rfl
        omega
  · intro finishes
    have delivered := receiveAll_of_finishes startArmed messages finishes
    have armed : (start.receiveAll messages).armed = true := by rw [delivered]
    rw [failAll_of_armed armed, delivered]
    have none : start.processed = [] := rfl
    have first : start.receiveCalls = 1 := rfl
    rw [none, first, List.nil_append, Nat.add_comm 1, Nat.add_right_comm]

/-- The client after its start, with its peer connection. -/
def idleMoment : Moment := ⟨.initial 0 "mac#001", true⟩

/-- The socket is dead before any message comes; no number of failed calls ends the
chain. -/
theorem receive_loop_runs_on :
    ¬ ∃ failures : Nat,
      ((start.receiveAll []).failAll (List.replicate failures idleMoment)).Ended [] := by
  rintro ⟨failures, -, ended⟩
  rw [failAll_of_armed (by rfl)] at ended
  contradiction

end ReceiveChain

end WebrtcFileSender.Net
