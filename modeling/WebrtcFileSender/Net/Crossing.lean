import Mathlib.Data.List.InsertIdx
import WebrtcFileSender.Library.Tagged
import WebrtcFileSender.Net.AutoSend
import WebrtcFileSender.Net.Observation

/-!
Contract: negotiation messages and the pairings they were generated for.

The server passes a message on to whoever is the partner of its sender when it
arrives. A client creates descriptions and gathers candidates over several
callbacks and drops none of them when its partner leaves.

Owns: the system with, as ghost data, the pairing for which each message and
each completion handler works, and the condition under which no message is
passed on outside its pairing.

A pairing is named by its two sockets, which are never paired again
(`no_pair_granted_twice`).
-/

namespace WebrtcFileSender.Net

open Signaling

/-- The client whose request was granted, and the one it asked for. -/
structure Pairing where
  offerer : SocketId
  answerer : SocketId
deriving DecidableEq, Repr

/-- The two sides of the pairing are `a` and `b`. -/
def Pairing.Between (pairing : Pairing) (a b : SocketId) : Prop :=
  pairing = ⟨a, b⟩ ∨ pairing = ⟨b, a⟩

instance (pairing : Pairing) (a b : SocketId) : Decidable (pairing.Between a b) :=
  inferInstanceAs (Decidable (_ ∨ _))

theorem Pairing.Between.symm {pairing : Pairing} {a b : SocketId}
    (between : pairing.Between a b) : pairing.Between b a :=
  Or.symm between

/-- A message on which its receiver starts to create a description. -/
def prompts (message : Json) : Bool :=
  message.stringField? "type" == some "peer_joined" ||
    message.stringField? "type" == some "offer"

/-- A signal may still come of the handler. -/
def Completion.generates : Completion → Bool
  | .setRemoteAnswer _ => false
  | .offerForConstraints | .setLocalOffer _ | .setRemoteOffer _ | .answerForConstraints
  | .setLocalAnswer _ => true

/-- The handler passes a new description to `setLocalDescription:`, with which
candidates begin to be gathered. -/
def Completion.creates : Completion → Bool
  | .offerForConstraints | .answerForConstraints => true
  | .setLocalOffer _ | .setRemoteOffer _ | .setLocalAnswer _ | .setRemoteAnswer _ => false

/-- The system with the pairings for which its parts work. -/
structure Traced where
  system : System
  completions : SocketId → List (Completion × Option Pairing)
  uplink : SocketId → List (Json × Option Pairing)
  downlink : SocketId → List ((Json × Origin) × Option Pairing)
  /-- The pairings for which a client has begun to gather candidates. -/
  gathering : SocketId → List Pairing

/-- An action; that of a candidate says for which pairing it was gathered. -/
inductive Move where
  | plain (action : Action)
  | gather (ws : SocketId) (candidate : RTCIceCandidate) (pairing : Pairing)

def Move.action : Move → Action
  | .plain action => action
  | .gather ws candidate _ => .act ws (.generateIceCandidate candidate)

/-- A message that was passed on, with the pairing it was generated for. -/
structure Passage where
  relay : Relay
  pairing : Option Pairing

/-- The message goes from one side of its pairing to the other. -/
def Passage.InPairing (passage : Passage) : Prop :=
  ∃ pairing, passage.pairing = some pairing ∧
    pairing.Between passage.relay.sender passage.relay.receiver

namespace Traced

def initial (helloName : SocketId → String) : Traced where
  system := .initial helloName
  completions := fun _ => []
  uplink := fun _ => []
  downlink := fun _ => []
  gathering := fun _ => []

/-- The pairing for which a move works: that of the timer, message or handler it
takes up. -/
def cause (traced : Traced) : Move → Option Pairing
  | .plain (.server (.timeout index)) =>
      traced.system.server.timers[index]?.map fun timer => ⟨timer.ws, timer.targetWs⟩
  | .plain (.process ws) => (traced.uplink ws).head?.bind Prod.snd
  | .plain (.receive ws) => (traced.downlink ws).head?.bind Prod.snd
  | .plain (.act ws (.complete index _)) => (traced.completions ws)[index]?.bind Prod.snd
  | .plain _ => none
  | .gather _ _ pairing => some pairing

/-- Candidates are gathered for a pairing once its description has been set. -/
def Enabled (traced : Traced) : Move → Prop
  | .plain (.act _ (.generateIceCandidate _)) => False
  | .plain _ => True
  | .gather ws _ pairing => pairing ∈ traced.gathering ws

instance (traced : Traced) : (move : Move) → Decidable (traced.Enabled move)
  | .plain (.act _ (.generateIceCandidate _)) => .isFalse id
  | .plain (.act _ (.chooseFile _)) | .plain (.act _ (.selectRow _)) | .plain (.act _ .send)
  | .plain (.act _ .refreshOnlinePeers) | .plain (.act _ .runMain)
  | .plain (.act _ (.complete _ _)) | .plain (.act _ (.channelState _ _))
  | .plain (.act _ (.replacedChannelState _)) | .plain (.act _ (.openDataChannel _ _))
  | .plain (.act _ (.transfer _)) | .plain (.server _) | .plain (.process _)
  | .plain (.receive _) => .isTrue trivial
  | .gather ws _ pairing => inferInstanceAs (Decidable (pairing ∈ traced.gathering ws))

def keptUplink (traced : Traced) : Move → SocketId → List (Json × Option Pairing)
  | .plain (.process ws) => Function.update traced.uplink ws (traced.uplink ws).tail
  | _ => traced.uplink

def keptDownlink (traced : Traced) :
    Move → SocketId → List ((Json × Origin) × Option Pairing)
  | .plain (.receive ws) => Function.update traced.downlink ws (traced.downlink ws).tail
  | _ => traced.downlink

def keptCompletions (traced : Traced) :
    Move → SocketId → List (Completion × Option Pairing)
  | .plain (.act ws (.complete index _)) =>
      Function.update traced.completions ws ((traced.completions ws).eraseIdx index)
  | _ => traced.completions

/-- The pairing for which a move begins to gather candidates at `ws`. -/
def begins (traced : Traced) (ws : SocketId) : Move → List Pairing
  | .plain (.act sender (.complete index (some result))) =>
      if sender = ws ∧ (traced.completions ws)[index]?.any (fun entry => entry.1.creates) then
        (traced.cause (.plain (.act sender (.complete index (some result))))).toList
      else []
  | _ => []

/-- The ghost data after a move to `next`: what is new works for the pairing of
the move, if anything can still come of it. -/
def follow (traced : Traced) (move : Move) (next : System) : Traced where
  system := next
  completions := fun ws =>
    Tagged.extend (traced.keptCompletions move ws) (next.device ws).endpoint.completions
      fun completion => if completion.generates then traced.cause move else none
  uplink := fun ws =>
    Tagged.extend (traced.keptUplink move ws) (next.uplink ws) fun _ => traced.cause move
  downlink := fun ws =>
    Tagged.extend (traced.keptDownlink move ws) (next.downlink ws) fun entry =>
      if prompts entry.1 then traced.cause move else none
  gathering := fun ws => traced.gathering ws ++ traced.begins ws move

/-- The messages that a move passes on. -/
def passages (traced : Traced) (move : Move) (outputs : List Output) : List Passage :=
  (relays outputs).map fun relay => ⟨relay, traced.cause move⟩

def step (traced : Traced) (move : Move) : Option (Traced × List Passage) :=
  if traced.Enabled move then
    (traced.system.observed move.action).map fun (next, outputs) =>
      (traced.follow move next, traced.passages move outputs)
  else none

/-- The pairings for which something may still be generated or passed on at
`ws`: by its handlers, by its messages in either direction, and by the timers of
its requests. -/
def outstanding (traced : Traced) (ws : SocketId) : List Pairing :=
  Tagged.tags (traced.completions ws) ++ Tagged.tags (traced.uplink ws) ++
    Tagged.tags (traced.downlink ws) ++
    (traced.system.server.timers.filter fun timer => timer.ws = ws).map
      fun timer => ⟨timer.ws, timer.targetWs⟩

/-- A request is granted only when nothing is outstanding at either side, and a
client that has a partner gathers candidates for their pairing only. -/
def Settled (traced : Traced) : Move → Prop
  | .plain (.process ws) => ∀ message ∈ (traced.system.uplink ws).head?,
      ∀ target ∈ System.granted traced.system.server ws message,
        traced.outstanding ws = [] ∧ traced.outstanding target = []
  | .gather ws _ pairing => ∀ partner ∈ traced.system.server.pairPartner ws,
      pairing.Between ws partner
  | .plain (.server _) | .plain (.receive _) | .plain (.act _ _) => True

instance (traced : Traced) : (move : Move) → Decidable (traced.Settled move)
  | .plain (.process ws) =>
      inferInstanceAs (Decidable (∀ message ∈ (traced.system.uplink ws).head?,
        ∀ target ∈ System.granted traced.system.server ws message,
          traced.outstanding ws = [] ∧ traced.outstanding target = []))
  | .gather ws _ pairing =>
      inferInstanceAs (Decidable (∀ partner ∈ traced.system.server.pairPartner ws,
        pairing.Between ws partner))
  | .plain (.server _) | .plain (.receive _) | .plain (.act _ _) => .isTrue trivial

end Traced

/-- Runs of the system with the pairings for which its parts work. -/
abbrev TracedRun (helloName : SocketId → String) (guard : Traced → Move → Prop) :=
  Machine.Run Traced.step guard (Traced.initial helloName)

/-! ## What prompts a client -/

/-- A signal registers at most one handler, and one that generates something only
when it prompts it. -/
theorem Endpoint.completions_receiveSignal (endpoint : Endpoint) (message : Json)
    (author : Option SocketId) :
    ∃ fresh, (endpoint.receiveSignal message author).completions =
        endpoint.completions ++ fresh ∧
      ∀ completion ∈ fresh, completion.generates = true → prompts message = true := by
  have effect := endpoint.receiveSignal_effect message author
  generalize endpoint.receiveSignal message author = next at effect ⊢
  cases effect with
  | role | dispatched | ignored => exact ⟨[], (List.append_nil _).symm, by simp⟩
  | peerJoined isJoined =>
      unfold receivePeerJoined
      dsimp only
      split
      · exact ⟨[.offerForConstraints], rfl, by simp [prompts, isJoined]⟩
      · exact ⟨[], (List.append_nil _).symm, by simp⟩
  | offer isOffer => exact ⟨[.setRemoteOffer author], rfl, by simp [prompts, isOffer]⟩
  | answer => exact ⟨[.setRemoteAnswer author], rfl, by simp [Completion.generates]⟩
  | candidate =>
      unfold receiveCandidate
      split
      · exact ⟨[], (List.append_nil _).symm, by simp⟩
      · exact ⟨[], (List.append_nil _).symm, by simp⟩

/-- Nothing comes of a handler that does not generate. -/
theorem Endpoint.completions_complete {endpoint next : Endpoint} {index : Nat}
    {result : Option String} {signals : List Json}
    (completes : endpoint.complete index result = some (next, signals)) :
    ∃ completion fresh, endpoint.completions[index]? = some completion ∧
      next.completions = endpoint.completions.eraseIdx index ++ fresh ∧
      (completion.generates = false → fresh = [] ∧ signals = []) := by
  simp only [complete, Option.map_eq_some_iff] at completes
  obtain ⟨completion, atIndex, handled⟩ := completes
  cases result with
  | none =>
      obtain ⟨rfl, rfl⟩ := Prod.mk.inj handled
      exact ⟨completion, [], atIndex, (List.append_nil _).symm, fun _ => ⟨rfl, rfl⟩⟩
  | some created =>
      cases completion with
      | offerForConstraints | setRemoteOffer | answerForConstraints =>
          obtain ⟨rfl, rfl⟩ := Prod.mk.inj handled
          exact ⟨_, [_], atIndex, rfl, by simp [Completion.generates]⟩
      | setLocalOffer | setLocalAnswer =>
          obtain ⟨rfl, rfl⟩ := Prod.mk.inj handled
          exact ⟨_, [], atIndex, (List.append_nil _).symm, by simp [Completion.generates]⟩
      | setRemoteAnswer =>
          obtain ⟨rfl, rfl⟩ := Prod.mk.inj handled
          exact ⟨_, [], atIndex, (List.append_nil _).symm, fun _ => ⟨rfl, rfl⟩⟩

/-- The server prompts a client by the timer of its request or by passing on a
message of its partner. -/
theorem prompts_of_step {server next : Server} {event : Server.Event}
    {outputs : List Output}
    (stepped : server.step event = some (next, outputs))
    {receiver : SocketId} {message : Json} {origin : Origin}
    (sent : .sent receiver message origin ∈ outputs)
    (isPrompt : prompts message = true) :
    (∃ index timer, event = .timeout index ∧ server.timers[index]? = some timer ∧
      receiver = timer.ws) ∨
    ∃ sender, event = .message sender (some message) ∧ Server.Relayable message ∧
      server.pairPartner sender = some receiver ∧ server.readyState receiver = .OPEN := by
  cases Server.sent_of_step stepped sent with
  | peers | error | offerer | answerer | left => contradiction
  | joined index timer isTimeout armed => exact .inl ⟨index, timer, isTimeout, armed, rfl⟩
  | relayed sender receiver p isMessage relayable paired isOpen =>
      exact .inr ⟨sender, isMessage, relayable, paired, isOpen⟩

namespace Traced

variable {traced : Traced} {move : Move} {next : System} {outputs : List Output}

/-! ## The ghost data follows the system -/

/-- The tagged queues are the queues of the system, and whatever a signal may
still come of is tagged. -/
structure Consistent (traced : Traced) : Prop where
  completions : ∀ ws, (traced.completions ws).map Prod.fst =
    (traced.system.device ws).endpoint.completions
  uplink : ∀ ws, (traced.uplink ws).map Prod.fst = traced.system.uplink ws
  downlink : ∀ ws, (traced.downlink ws).map Prod.fst = traced.system.downlink ws
  generating : ∀ {ws completion tag}, (completion, tag) ∈ traced.completions ws →
    completion.generates = true → ∃ pairing, tag = some pairing
  negotiating : ∀ {ws message tag}, (message, tag) ∈ traced.uplink ws →
    ServerRequest message ∨ ∃ pairing, tag = some pairing
  prompting : ∀ {ws message origin tag}, ((message, origin), tag) ∈ traced.downlink ws →
    prompts message = true → ∃ pairing, tag = some pairing

theorem mem_outstanding {ws : SocketId} {pairing : Pairing} :
    pairing ∈ traced.outstanding ws ↔
      (∃ completion, (completion, some pairing) ∈ traced.completions ws) ∨
      (∃ message, (message, some pairing) ∈ traced.uplink ws) ∨
      (∃ entry, (entry, some pairing) ∈ traced.downlink ws) ∨
      ∃ timer ∈ traced.system.server.timers, timer.ws = ws ∧
        pairing = ⟨timer.ws, timer.targetWs⟩ := by
  simp only [outstanding, List.mem_append, Tagged.mem_tags, List.mem_map, List.mem_filter,
    decide_eq_true_eq, or_assoc]
  constructor
  · rintro (handler | message | entry | ⟨timer, ⟨armed, isWs⟩, rfl⟩)
    · exact .inl handler
    · exact .inr (.inl message)
    · exact .inr (.inr (.inl entry))
    · exact .inr (.inr (.inr ⟨timer, armed, isWs, rfl⟩))
  · rintro (handler | message | entry | ⟨timer, armed, isWs, rfl⟩)
    · exact .inl handler
    · exact .inr (.inl message)
    · exact .inr (.inr (.inl entry))
    · exact .inr (.inr (.inr ⟨timer, ⟨armed, isWs⟩, rfl⟩))

theorem mem_of_keptCompletions {ws : SocketId} {entry : Completion × Option Pairing}
    (kept : entry ∈ traced.keptCompletions move ws) : entry ∈ traced.completions ws := by
  unfold keptCompletions at kept
  split at kept
  · exact Tagged.mem_of_mem_update (fun _ => List.mem_of_mem_eraseIdx) kept
  · exact kept

theorem mem_of_keptUplink {ws : SocketId} {entry : Json × Option Pairing}
    (kept : entry ∈ traced.keptUplink move ws) : entry ∈ traced.uplink ws := by
  unfold keptUplink at kept
  split at kept
  · exact Tagged.mem_of_mem_update (fun _ => List.mem_of_mem_tail) kept
  · exact kept

theorem mem_of_keptDownlink {ws : SocketId} {entry : (Json × Origin) × Option Pairing}
    (kept : entry ∈ traced.keptDownlink move ws) : entry ∈ traced.downlink ws := by
  unfold keptDownlink at kept
  split at kept
  · exact Tagged.mem_of_mem_update (fun _ => List.mem_of_mem_tail) kept
  · exact kept

/-- Where the pairing of something new at `ws` comes from. -/
inductive Arises (traced : Traced) (move : Move) (ws : SocketId) (pairing : Pairing) : Prop
  | outstanding (waits : pairing ∈ traced.outstanding ws)
  | gathered (candidate : RTCIceCandidate) (isGather : move = .gather ws candidate pairing)
  | passedOn (sender : SocketId)
      (isProcess : move = .plain (.process sender))
      (waits : pairing ∈ traced.outstanding sender)
      (paired : traced.system.server.pairPartner sender = some ws)
      (isOpen : traced.system.server.readyState ws = .OPEN)

/-- What a move adds at `ws` works for the pairing of the move. -/
def Caused (traced : Traced) (move : Move) (ws : SocketId) : Prop :=
  ∃ pairing, traced.cause move = some pairing ∧ traced.Arises move ws pairing

/-- An input that is no completion handler works for no pairing and takes up no
handler. -/
theorem cause_act {ws : SocketId} {input : Input}
    (notCompletion : ∀ index result, input ≠ .complete index result) :
    traced.cause (.plain (.act ws input)) = none ∧
      traced.keptCompletions (.plain (.act ws input)) = traced.completions := by
  cases input with
  | complete index result => exact absurd rfl (notCompletion index result)
  | chooseFile | selectRow | send | refreshOnlinePeers | runMain | generateIceCandidate
  | channelState | replacedChannelState | openDataChannel | transfer => exact ⟨rfl, rfl⟩

namespace Consistent

/-- The message that the server handles next, with its tag. -/
theorem uplink_head (consistent : traced.Consistent) {ws : SocketId} {message : Json}
    {rest : List Json} (queue : traced.system.uplink ws = message :: rest) :
    ∃ tag later, traced.uplink ws = (message, tag) :: later ∧
      later.map Prod.fst = rest := by
  have aligned := consistent.uplink ws
  rw [queue] at aligned
  obtain ⟨⟨head, tag⟩, later, tagged, rfl, sameRest⟩ := List.map_eq_cons_iff.mp aligned
  exact ⟨tag, later, tagged, sameRest⟩

theorem downlink_head (consistent : traced.Consistent) {ws : SocketId} {message : Json}
    {origin : Origin} {rest : List (Json × Origin)}
    (queue : traced.system.downlink ws = (message, origin) :: rest) :
    ∃ tag later, traced.downlink ws = ((message, origin), tag) :: later ∧
      later.map Prod.fst = rest := by
  have aligned := consistent.downlink ws
  rw [queue] at aligned
  obtain ⟨⟨head, tag⟩, later, tagged, rfl, sameRest⟩ := List.map_eq_cons_iff.mp aligned
  exact ⟨tag, later, tagged, sameRest⟩

theorem completion_at (consistent : traced.Consistent) {ws : SocketId} {index : Nat}
    {completion : Completion}
    (atIndex : (traced.system.device ws).endpoint.completions[index]? = some completion) :
    ∃ tag, (traced.completions ws)[index]? = some (completion, tag) := by
  rw [← consistent.completions ws, List.getElem?_map, Option.map_eq_some_iff] at atIndex
  obtain ⟨⟨found, tag⟩, isFound, rfl⟩ := atIndex
  exact ⟨tag, isFound⟩

/-- A handler that generates works for a pairing. -/
theorem caused_complete (consistent : traced.Consistent) {ws : SocketId} {index : Nat}
    {result : Option String} {completion : Completion}
    (atIndex : (traced.system.device ws).endpoint.completions[index]? = some completion)
    (generates : completion.generates = true) :
    traced.Caused (.plain (.act ws (.complete index result))) ws := by
  obtain ⟨tag, found⟩ := consistent.completion_at atIndex
  have member := List.mem_of_getElem? found
  obtain ⟨pairing, rfl⟩ := consistent.generating member generates
  refine ⟨pairing, by simp [cause, found], .outstanding ?_⟩
  exact mem_outstanding.mpr (.inl ⟨completion, member⟩)

theorem not_relayable_serverRequest {message : Json} (request : ServerRequest message) :
    ¬ Server.Relayable message := by
  rintro ⟨type, isType, notPair, notList, -⟩
  cases request with
  | pairRequest => exact notPair (Option.some.inj isType).symm
  | listPeers => exact notList (Option.some.inj isType).symm

/-- A message that is passed on works for a pairing of its sender. -/
theorem cause_process (consistent : traced.Consistent) {sender : SocketId}
    {message : Json} {rest : List Json}
    (queue : traced.system.uplink sender = message :: rest)
    (relayable : Server.Relayable message) :
    ∃ pairing, traced.cause (.plain (.process sender)) = some pairing ∧
      pairing ∈ traced.outstanding sender := by
  obtain ⟨tag, later, tagged, -⟩ := consistent.uplink_head queue
  have member : (message, tag) ∈ traced.uplink sender := by simp [tagged]
  rcases consistent.negotiating member with request | ⟨pairing, rfl⟩
  · exact absurd relayable (not_relayable_serverRequest request)
  · refine ⟨pairing, by simp [cause, tagged], ?_⟩
    exact mem_outstanding.mpr (.inr (.inl ⟨message, member⟩))

/-- The signals of a move, with their reason. -/
theorem uplink_grown (consistent : traced.Consistent)
    (enabled : traced.Enabled move)
    (effect : System.Effect traced.system move.action next outputs) (ws : SocketId) :
    ∃ fresh, next.uplink ws = (traced.keptUplink move ws).map Prod.fst ++ fresh ∧
      ∀ message ∈ fresh,
        (ServerRequest message ∧ traced.cause move = none) ∨ traced.Caused move ws := by
  have unchanged : next.uplink ws = traced.system.uplink ws →
      traced.keptUplink move ws = traced.uplink ws →
      ∃ fresh, next.uplink ws = (traced.keptUplink move ws).map Prod.fst ++ fresh ∧
        ∀ message ∈ fresh,
          (ServerRequest message ∧ traced.cause move = none) ∨ traced.Caused move ws := by
    intro sameUplink sameKept
    refine ⟨[], ?_, by simp⟩
    rw [sameUplink, sameKept, consistent.uplink, List.append_nil]
  cases move with
  | gather sender candidate pairing =>
      cases effect with
      | acted _ _ device signals known stepped =>
          simp only [Device.step, Option.some.injEq, Prod.mk.injEq] at stepped
          obtain ⟨-, rfl⟩ := stepped
          by_cases same : ws = sender
          · subst same
            refine ⟨[Endpoint.candidateMessage candidate], ?_, ?_⟩
            · simp [System.acted, keptUplink, consistent.uplink]
            · intro message _
              exact .inr ⟨pairing, rfl, .gathered candidate rfl⟩
          · exact unchanged (by simp [System.acted, Function.update_of_ne same]) rfl
  | plain action =>
      simp only [Move.action] at effect
      cases effect with
      | served => exact unchanged rfl rfl
      | received => exact unchanged rfl rfl
      | processed sender message rest server outputs queue =>
          obtain ⟨tag, later, tagged, sameRest⟩ := consistent.uplink_head queue
          by_cases same : ws = sender
          · subst same
            refine ⟨[], ?_, by simp⟩
            simp [System.served, keptUplink, tagged, sameRest]
          · refine unchanged ?_ ?_
            · simp [System.served, Function.update_of_ne same]
            · simp [keptUplink, Function.update_of_ne same]
      | acted sender input device signals known stepped =>
          have sameKept : traced.keptUplink (.plain (.act sender input)) = traced.uplink := rfl
          by_cases same : ws = sender
          · subst same
            refine ⟨signals, ?_, ?_⟩
            · simp [System.acted, sameKept, consistent.uplink]
            · intro message sent
              by_cases isCompletion : ∃ index result, input = .complete index result
              · obtain ⟨index, result, rfl⟩ := isCompletion
                simp only [Device.step, Option.map_eq_some_iff, Prod.exists,
                  Prod.mk.injEq] at stepped
                obtain ⟨endpoint, signals, completes, -, rfl⟩ := stepped
                obtain ⟨completion, fresh, atIndex, -, silent⟩ :=
                  Endpoint.completions_complete completes
                refine .inr (consistent.caused_complete atIndex ?_)
                by_contra notGenerating
                rw [(silent (by simpa using notGenerating)).2] at sent
                contradiction
              · have notCompletion : ∀ index result, input ≠ .complete index result :=
                  fun index result isSame => isCompletion ⟨index, result, isSame⟩
                refine .inl ⟨?_, (cause_act notCompletion).1⟩
                apply Device.requests_of_step stepped notCompletion ?_ message sent
                rintro candidate rfl
                exact enabled
          · exact unchanged (by simp [System.acted, Function.update_of_ne same]) rfl

/-- The handlers that a move registers, with their reason. -/
theorem completions_grown (consistent : traced.Consistent)
    (enabled : traced.Enabled move)
    (effect : System.Effect traced.system move.action next outputs) (ws : SocketId) :
    ∃ fresh, (next.device ws).endpoint.completions =
        (traced.keptCompletions move ws).map Prod.fst ++ fresh ∧
      ∀ completion ∈ fresh, completion.generates = true → traced.Caused move ws := by
  have unchanged : (next.device ws).endpoint.completions =
        (traced.system.device ws).endpoint.completions →
      traced.keptCompletions move ws = traced.completions ws →
      ∃ fresh, (next.device ws).endpoint.completions =
          (traced.keptCompletions move ws).map Prod.fst ++ fresh ∧
        ∀ completion ∈ fresh, completion.generates = true → traced.Caused move ws := by
    intro sameCompletions sameKept
    refine ⟨[], ?_, by simp⟩
    rw [sameCompletions, sameKept, consistent.completions, List.append_nil]
  cases move with
  | gather sender candidate pairing =>
      cases effect with
      | acted _ _ device signals known stepped =>
          simp only [Device.step, Option.some.injEq, Prod.mk.injEq] at stepped
          obtain ⟨rfl, -⟩ := stepped
          exact unchanged (by simp [System.acted]) rfl
  | plain action =>
      simp only [Move.action] at effect
      cases effect with
      | served => exact unchanged rfl rfl
      | processed => exact unchanged rfl rfl
      | received receiver message origin rest queue =>
          by_cases same : ws = receiver
          · subst same
            obtain ⟨tag, later, tagged, -⟩ := consistent.downlink_head queue
            obtain ⟨fresh, grown, prompted⟩ :=
              (traced.system.device ws).endpoint.completions_receiveSignal message
                (author origin)
            refine ⟨fresh, ?_, ?_⟩
            · simp only [System.received, Function.update_self, keptCompletions]
              rw [grown, consistent.completions]
            · intro completion isFresh generates
              have member : ((message, origin), tag) ∈ traced.downlink ws := by
                simp [tagged]
              obtain ⟨pairing, rfl⟩ :=
                consistent.prompting member (prompted completion isFresh generates)
              refine ⟨pairing, by simp [cause, tagged], .outstanding ?_⟩
              exact mem_outstanding.mpr (.inr (.inr (.inl ⟨_, member⟩)))
          · exact unchanged (by simp [System.received, Function.update_of_ne same]) rfl
      | acted sender input device signals known stepped =>
          by_cases isCompletion : ∃ index result, input = .complete index result
          · obtain ⟨index, result, rfl⟩ := isCompletion
            by_cases same : ws = sender
            · subst same
              simp only [Device.step, Option.map_eq_some_iff, Prod.exists,
                Prod.mk.injEq] at stepped
              obtain ⟨endpoint, sent, completes, rfl, rfl⟩ := stepped
              obtain ⟨completion, fresh, atIndex, grown, silent⟩ :=
                Endpoint.completions_complete completes
              refine ⟨fresh, ?_, ?_⟩
              · simp only [System.acted, Function.update_self, keptCompletions]
                rw [grown, ← List.eraseIdx_map, consistent.completions]
              · intro other isFresh _
                apply consistent.caused_complete atIndex
                by_contra notGenerating
                rw [(silent (by simpa using notGenerating)).1] at isFresh
                contradiction
            · refine unchanged (by simp [System.acted, Function.update_of_ne same]) ?_
              simp [keptCompletions, Function.update_of_ne same]
          · have notCompletion : ∀ index result, input ≠ .complete index result :=
              fun index result isSame => isCompletion ⟨index, result, isSame⟩
            refine unchanged ?_ (congrFun (cause_act notCompletion).2 ws)
            by_cases same : ws = sender
            · subst same
              simp only [System.acted, Function.update_self]
              exact congrArg Negotiation.completions
                (Device.negotiation_of_step stepped notCompletion)
            · simp [System.acted, Function.update_of_ne same]

/-- The messages that a move adds to a link, with their reason. -/
theorem downlink_grown (consistent : traced.Consistent)
    (effect : System.Effect traced.system move.action next outputs) (ws : SocketId) :
    ∃ fresh, next.downlink ws = (traced.keptDownlink move ws).map Prod.fst ++ fresh ∧
      ∀ entry ∈ fresh, prompts entry.1 = true → traced.Caused move ws := by
  have unchanged : next.downlink ws = traced.system.downlink ws →
      traced.keptDownlink move ws = traced.downlink ws →
      ∃ fresh, next.downlink ws = (traced.keptDownlink move ws).map Prod.fst ++ fresh ∧
        ∀ entry ∈ fresh, prompts entry.1 = true → traced.Caused move ws := by
    intro sameDownlink sameKept
    refine ⟨[], ?_, by simp⟩
    rw [sameDownlink, sameKept, consistent.downlink, List.append_nil]
  cases move with
  | gather sender candidate pairing =>
      cases effect with
      | acted => exact unchanged rfl rfl
  | plain action =>
      simp only [Move.action] at effect
      cases effect with
      | acted => exact unchanged rfl rfl
      | received receiver message origin rest queue =>
          obtain ⟨tag, later, tagged, sameRest⟩ := consistent.downlink_head queue
          by_cases same : ws = receiver
          · subst same
            refine ⟨[], ?_, by simp⟩
            simp [System.received, keptDownlink, tagged, sameRest]
          · refine unchanged ?_ ?_
            · simp [System.received, Function.update_of_ne same]
            · simp [keptDownlink, Function.update_of_ne same]
      | served event server outputs notMessage stepped =>
          refine ⟨sentTo ws outputs, ?_, ?_⟩
          · simp [System.served, keptDownlink, consistent.downlink]
          · rintro ⟨message, origin⟩ sent isPrompt
            rcases prompts_of_step stepped (mem_of_sentTo sent) isPrompt with
              ⟨index, timer, rfl, armed, rfl⟩ | ⟨sender, isMessage, -⟩
            · refine ⟨⟨timer.ws, timer.targetWs⟩, by simp [cause, armed], .outstanding ?_⟩
              exact mem_outstanding.mpr
                (.inr (.inr (.inr ⟨timer, List.mem_of_getElem? armed, rfl, rfl⟩)))
            · exact absurd isMessage (notMessage sender (some message))
      | processed sender message rest server outputs queue stepped =>
          refine ⟨sentTo ws outputs, ?_, ?_⟩
          · simp [System.served, keptDownlink, consistent.downlink]
          · rintro ⟨relayed, origin⟩ sent isPrompt
            rcases prompts_of_step stepped (mem_of_sentTo sent) isPrompt with
              ⟨index, timer, isTimeout, -⟩ | ⟨other, isMessage, relayable, paired, isOpen⟩
            · contradiction
            · obtain ⟨rfl, same⟩ := Server.Event.message.inj isMessage
              obtain rfl := Option.some.inj same
              obtain ⟨pairing, isCause, waits⟩ := consistent.cause_process queue relayable
              exact ⟨pairing, isCause, .passedOn sender rfl waits paired isOpen⟩

theorem follow (consistent : traced.Consistent)
    (enabled : traced.Enabled move)
    (effect : System.Effect traced.system move.action next outputs) :
    (traced.follow move next).Consistent := by
  refine ⟨?_, ?_, ?_, ?_, ?_, ?_⟩
  · intro ws
    obtain ⟨fresh, grown, -⟩ := consistent.completions_grown enabled effect ws
    exact Tagged.map_fst_extend grown
  · intro ws
    obtain ⟨fresh, grown, -⟩ := consistent.uplink_grown enabled effect ws
    exact Tagged.map_fst_extend grown
  · intro ws
    obtain ⟨fresh, grown, -⟩ := consistent.downlink_grown effect ws
    exact Tagged.map_fst_extend grown
  · intro ws completion tag member generates
    obtain ⟨fresh, grown, caused⟩ := consistent.completions_grown enabled effect ws
    rcases Tagged.mem_extend grown member with kept | ⟨isFresh, rfl⟩
    · exact consistent.generating (mem_of_keptCompletions kept) generates
    · obtain ⟨pairing, isCause, -⟩ := caused completion isFresh generates
      exact ⟨pairing, by simp [generates, isCause]⟩
  · intro ws message tag member
    obtain ⟨fresh, grown, caused⟩ := consistent.uplink_grown enabled effect ws
    rcases Tagged.mem_extend grown member with kept | ⟨isFresh, rfl⟩
    · exact consistent.negotiating (mem_of_keptUplink kept)
    · rcases caused message isFresh with ⟨request, -⟩ | ⟨pairing, isCause, -⟩
      · exact .inl request
      · exact .inr ⟨pairing, isCause⟩
  · intro ws message origin tag member isPrompt
    obtain ⟨fresh, grown, caused⟩ := consistent.downlink_grown effect ws
    rcases Tagged.mem_extend grown member with kept | ⟨isFresh, rfl⟩
    · exact consistent.prompting (mem_of_keptDownlink kept) isPrompt
    · obtain ⟨pairing, isCause, -⟩ := caused (message, origin) isFresh isPrompt
      exact ⟨pairing, by simp [isPrompt, isCause]⟩

/-- A pairing that is outstanding after a move was so before, or arises in it, or
is the one that is granted. -/
theorem outstanding_follow (consistent : traced.Consistent)
    (enabled : traced.Enabled move)
    (effect : System.Effect traced.system move.action next outputs)
    {ws : SocketId} {pairing : Pairing}
    (waits : pairing ∈ (traced.follow move next).outstanding ws) :
    traced.Arises move ws pairing ∨
      ∃ timer ∈ next.server.timers, timer.ws = ws ∧ pairing = ⟨timer.ws, timer.targetWs⟩ ∧
        timer ∉ traced.system.server.timers := by
  have arises : traced.Caused move ws → traced.cause move = some pairing →
      traced.Arises move ws pairing := by
    rintro ⟨other, isCause, arises⟩ isPairing
    rw [isCause] at isPairing
    obtain rfl := Option.some.inj isPairing
    exact arises
  rcases mem_outstanding.mp waits with
    ⟨completion, member⟩ | ⟨message, member⟩ | ⟨entry, member⟩ | ⟨timer, armed, isWs, same⟩
  · obtain ⟨fresh, grown, caused⟩ := consistent.completions_grown enabled effect ws
    rcases Tagged.mem_extend grown member with kept | ⟨isFresh, isTag⟩
    · refine .inl (.outstanding (mem_outstanding.mpr (.inl ?_)))
      exact ⟨completion, mem_of_keptCompletions kept⟩
    · split at isTag
      case isTrue generates =>
        exact .inl (arises (caused completion isFresh generates) isTag.symm)
      case isFalse => contradiction
  · obtain ⟨fresh, grown, caused⟩ := consistent.uplink_grown enabled effect ws
    rcases Tagged.mem_extend grown member with kept | ⟨isFresh, isTag⟩
    · refine .inl (.outstanding (mem_outstanding.mpr (.inr (.inl ?_))))
      exact ⟨message, mem_of_keptUplink kept⟩
    · rcases caused message isFresh with ⟨-, noCause⟩ | isCaused
      · rw [noCause] at isTag
        contradiction
      · exact .inl (arises isCaused isTag.symm)
  · obtain ⟨fresh, grown, caused⟩ := consistent.downlink_grown effect ws
    rcases Tagged.mem_extend grown member with kept | ⟨isFresh, isTag⟩
    · refine .inl (.outstanding (mem_outstanding.mpr (.inr (.inr (.inl ?_)))))
      exact ⟨entry, mem_of_keptDownlink kept⟩
    · split at isTag
      case isTrue isPrompt => exact .inl (arises (caused entry isFresh isPrompt) isTag.symm)
      case isFalse => contradiction
  · by_cases old : timer ∈ traced.system.server.timers
    · refine .inl (.outstanding (mem_outstanding.mpr (.inr (.inr (.inr ?_)))))
      exact ⟨timer, old, isWs, same⟩
    · exact .inr ⟨timer, armed, isWs, same, old⟩

end Consistent

/-! ## Whole runs -/

/-- The step of the server in a move, if it makes one. -/
theorem server_of_effect
    (effect : System.Effect traced.system move.action next outputs) :
    (next.server = traced.system.server ∧ outputs = []) ∨
      ∃ event, traced.system.server.step event = some (next.server, outputs) ∧
        ∀ sender raw, event = .message sender raw →
          move = .plain (.process sender) ∧
            ∃ message rest, raw = some message ∧
              traced.system.uplink sender = message :: rest := by
  cases move with
  | gather sender candidate pairing =>
      cases effect with
      | acted => exact .inl ⟨rfl, rfl⟩
  | plain action =>
      simp only [Move.action] at effect
      cases effect with
      | received | acted => exact .inl ⟨rfl, rfl⟩
      | served event server outputs notMessage stepped =>
          refine .inr ⟨event, stepped, ?_⟩
          intro sender raw isMessage
          exact absurd isMessage (notMessage sender raw)
      | processed sender message rest server outputs queue stepped =>
          refine .inr ⟨_, stepped, ?_⟩
          intro other raw isMessage
          obtain ⟨rfl, rfl⟩ := Server.Event.message.inj isMessage
          exact ⟨rfl, message, rest, rfl, queue⟩

/-- A timer is new only when its pair is. -/
theorem timer_of_step {server following : Server} {event : Server.Event}
    (invariant : PairingInvariant server)
    (stepped : server.step event = some (following, outputs))
    {timer : Timer} (armed : timer ∈ following.timers) (isNew : timer ∉ server.timers) :
    following.pairPartner timer.ws = some timer.targetWs := by
  cases Server.effect_of_step stepped with
  | connected | refused | listed | ignored | relayed | closing => exact absurd armed isNew
  | closed ws =>
      rw [Server.onClose_eq] at armed
      exact absurd armed isNew
  | fired => exact absurd (List.mem_of_mem_eraseIdx armed) isNew
  | granted ws targetWs p alive target =>
      obtain ⟨distinct, -, -⟩ := invariant.validTarget_spec target
      rcases List.mem_append.mp armed with old | new
      · exact absurd old isNew
      · obtain rfl := List.mem_singleton.mp new
        exact MatchingUpTo.bind_left _ distinct.symm

/-- What every move of a settled run keeps: whatever is outstanding at a client
with a partner belongs to their pairing. -/
structure CrossingInvariant (traced : Traced) : Prop where
  consistent : traced.Consistent
  pairing : PairingInvariant traced.system.server
  own : ∀ {ws partner}, traced.system.server.pairPartner ws = some partner →
    ∀ pairing ∈ traced.outstanding ws, pairing.Between ws partner

namespace CrossingInvariant

theorem initial (helloName : SocketId → String) :
    CrossingInvariant (Traced.initial helloName) where
  consistent :=
    { completions := fun _ => rfl
      uplink := fun _ => rfl
      downlink := fun _ => rfl
      generating := by simp [Traced.initial]
      negotiating := by simp [Traced.initial]
      prompting := by simp [Traced.initial] }
  pairing := .initial
  own := by
    intro ws partner paired
    simp [Traced.initial, System.initial, Server.initial] at paired

/-- A client whose partner stays: what arises belongs to their pairing. -/
theorem between_of_arises (invariant : CrossingInvariant traced)
    (settled : traced.Settled move)
    {ws partner : SocketId} {pairing : Pairing}
    (paired : traced.system.server.pairPartner ws = some partner)
    (arises : traced.Arises move ws pairing) :
    pairing.Between ws partner := by
  cases arises with
  | outstanding waits => exact invariant.own paired pairing waits
  | gathered candidate isGather =>
      subst isGather
      exact settled partner paired
  | passedOn sender isProcess waits pairedSender isOpen =>
      have back : traced.system.server.pairPartner ws = some sender := by
        rcases invariant.pairing.matching.symmetric pairedSender with back | ⟨gone, -⟩
        · exact back
        · rw [isOpen] at gone
          contradiction
      rw [paired] at back
      obtain rfl := Option.some.inj back
      exact (invariant.own pairedSender pairing waits).symm

/-- At the two sides of a pair that a move makes nothing arises. -/
theorem not_arises_of_granted {ws other sender target : SocketId} {pairing : Pairing}
    {message : Json} {rest : List Json}
    (settled : traced.Settled (.plain (.process sender)))
    (queue : traced.system.uplink sender = message :: rest)
    (isGranted : System.granted traced.system.server sender message = some target)
    (isSide : (other = sender ∧ ws = target) ∨ (other = target ∧ ws = sender)) :
    ¬ traced.Arises (.plain (.process sender)) other pairing := by
  have nothing := settled message (by simp [queue]) target isGranted
  intro arises
  cases arises with
  | outstanding waits =>
      rcases isSide with ⟨rfl, -⟩ | ⟨rfl, -⟩
      · rw [nothing.1] at waits
        contradiction
      · rw [nothing.2] at waits
        contradiction
  | gathered candidate isGather => contradiction
  | passedOn actual isProcess waits =>
      simp only [Move.plain.injEq, Action.process.injEq] at isProcess
      rw [← isProcess, nothing.1] at waits
      contradiction

theorem follow (invariant : CrossingInvariant traced)
    (settled : traced.Settled move) (enabled : traced.Enabled move)
    (effect : System.Effect traced.system move.action next outputs) :
    CrossingInvariant (traced.follow move next) := by
  have consistent := invariant.consistent.follow enabled effect
  rcases server_of_effect effect with ⟨sameServer, -⟩ | ⟨event, stepped, isMessage⟩
  · refine ⟨consistent, ?_, ?_⟩
    · show PairingInvariant next.server
      rw [sameServer]
      exact invariant.pairing
    · intro ws partner paired pairing waits
      have pairedBefore : traced.system.server.pairPartner ws = some partner := by
        rw [← sameServer]
        exact paired
      rcases invariant.consistent.outstanding_follow enabled effect waits with
        arises | ⟨timer, armed, -, -, isNew⟩
      · exact invariant.between_of_arises settled pairedBefore arises
      · rw [sameServer] at armed
        exact absurd armed isNew
  · refine ⟨consistent, invariant.pairing.step stepped, ?_⟩
    intro ws partner paired pairing waits
    rcases invariant.consistent.outstanding_follow enabled effect waits with
      arises | ⟨timer, armed, rfl, rfl, isNew⟩
    · rcases System.AutoSendInvariant.paired_before stepped paired with
        before | ⟨sender, message, target, isSent, isGranted, isSide⟩
      · exact invariant.between_of_arises settled before arises
      · obtain ⟨rfl, head, rest, same, queue⟩ := isMessage sender _ isSent
        obtain rfl := Option.some.inj same
        exact absurd arises (not_arises_of_granted settled queue isGranted isSide)
    · -- The timer of the pair that has just been made.
      have isPartner := timer_of_step invariant.pairing stepped armed isNew
      have actual : next.server.pairPartner timer.ws = some partner := paired
      rw [isPartner] at actual
      obtain rfl := Option.some.inj actual
      exact .inl rfl

/-- What a move passes on stays in its pairing. -/
theorem passages_inPairing (invariant : CrossingInvariant traced)
    (effect : System.Effect traced.system move.action next outputs) :
    ∀ passage ∈ traced.passages move outputs, passage.InPairing := by
  intro passage passed
  obtain ⟨⟨sender, receiver, message⟩, relayed, rfl⟩ := List.mem_map.mp passed
  rcases server_of_effect effect with ⟨-, rfl⟩ | ⟨event, stepped, isMessage⟩
  · contradiction
  · cases Server.sent_of_step stepped (sent_of_mem_relays relayed) with
    | relayed _ _ _ isSent relayable paired isOpen =>
        obtain ⟨rfl, head, rest, same, queue⟩ := isMessage _ _ isSent
        obtain rfl := Option.some.inj same
        obtain ⟨pairing, isCause, waits⟩ := invariant.consistent.cause_process queue relayable
        exact ⟨pairing, isCause, invariant.own paired pairing waits⟩

end CrossingInvariant

theorem effect_of_step {passages : List Passage} {following : Traced}
    (stepped : traced.step move = some (following, passages)) :
    traced.Enabled move ∧ ∃ next outputs,
      System.Effect traced.system move.action next outputs ∧
      following = traced.follow move next ∧ passages = traced.passages move outputs := by
  simp only [step] at stepped
  split at stepped
  case isFalse => contradiction
  case isTrue enabled =>
    simp only [Option.map_eq_some_iff, Prod.exists, Prod.mk.injEq] at stepped
    obtain ⟨next, outputs, observed, rfl, rfl⟩ := stepped
    exact ⟨enabled, next, outputs, System.effect_of_observed observed, rfl, rfl⟩

end Traced

/-- **Negotiation stays in its pairing when pairings are settled.** Take any run
of the server and its clients in which a request is granted only when neither
side has anything of an earlier pairing outstanding, and a client with a partner
gathers candidates for their pairing only. Then every message the server passes
on was generated for a pairing, and goes from one side of that pairing to the
other. -/
theorem negotiation_stays_in_pairing
    {helloName : SocketId → String} {moves : List Move} {passages : List Passage}
    {final : Traced}
    (run : TracedRun helloName Traced.Settled moves passages final) :
    ∀ passage ∈ passages, passage.InPairing := by
  have holds := run.invariant
    (fun passages traced => Traced.CrossingInvariant traced ∧
      ∀ passage ∈ passages, passage.InPairing)
    ⟨.initial helloName, by simp⟩
    (by
      intro history traced move following fresh before settled stepped
      obtain ⟨invariant, earlier⟩ := before
      obtain ⟨enabled, next, outputs, effect, rfl, rfl⟩ := Traced.effect_of_step stepped
      refine ⟨invariant.follow settled enabled effect, ?_⟩
      intro passage member
      rcases List.mem_append.mp member with old | new
      · exact earlier passage old
      · exact invariant.passages_inPairing effect passage new)
  exact holds.2

/-! ## Two runs -/

/-- The first client is paired with the second; they negotiate and a candidate
is passed on. The second leaves, and the third is paired with the first. -/
def settledRun : List Move :=
  List.map .plain (System.gathered ++ [.act 0 (.selectRow (some 0)), .process 0] ++
      System.offered 0 ++ System.answered 0 1 4) ++
    [.gather 0 ⟨"candidate", 0, "0"⟩ ⟨0, 1⟩] ++
    List.map .plain ([.process 0, .server (.closing 1), .server (.close 1),
      .act 2 (.selectRow (some 0)), .process 2, .receive 2] ++ System.offered 2)

/-- Who sent to whom, and for which pairing. -/
def Passage.route (passage : Passage) : SocketId × SocketId × Option Pairing :=
  (passage.relay.sender, passage.relay.receiver, passage.pairing)

theorem negotiation_stays_in_pairing_settledRun :
    ∃ passages final, TracedRun (fun _ => "mac#001") Traced.Settled settledRun passages final ∧
      passages.map Passage.route =
        [(0, 1, some ⟨0, 1⟩), (1, 0, some ⟨0, 1⟩), (0, 1, some ⟨0, 1⟩),
          (2, 0, some ⟨2, 0⟩)] ∧
      ∀ passage ∈ passages, passage.InPairing := by
  obtain ⟨final, passages, run, checked⟩ :
      ∃ final passages,
        TracedRun (fun _ => "mac#001") Traced.Settled settledRun passages final ∧
        decide (passages.map Passage.route =
          [(0, 1, some ⟨0, 1⟩), (1, 0, some ⟨0, 1⟩), (0, 1, some ⟨0, 1⟩),
            (2, 0, some ⟨2, 0⟩)]) = true :=
    Machine.run_of_exec_any (fun (_ : Traced) (passages : List Passage) =>
      decide (passages.map Passage.route =
        [(0, 1, some ⟨0, 1⟩), (1, 0, some ⟨0, 1⟩), (0, 1, some ⟨0, 1⟩),
          (2, 0, some ⟨2, 0⟩)])) (by decide +kernel)
  exact ⟨passages, final, run, of_decide_eq_true checked, negotiation_stays_in_pairing run⟩

/-- The offer for the second client is on the way when the second leaves, and
arrives after the third has been paired with the first. -/
def overtakenRun : List Move :=
  List.map .plain (System.gathered ++ [.act 0 (.selectRow (some 0)), .process 0] ++
    (System.offered 0).dropLast ++
    [.server (.closing 1), .server (.close 1), .act 2 (.selectRow (some 0)), .process 2,
      .process 0])

/-- The third client is sent the offer that was made for the second. -/
theorem offer_crosses_into_next_pairing :
    ∃ passages final, TracedRun (fun _ => "mac#001") Machine.free overtakenRun passages final ∧
      ¬ ∀ passage ∈ passages, passage.InPairing := by
  obtain ⟨final, passages, run, checked⟩ :
      ∃ final passages,
        TracedRun (fun _ => "mac#001") Machine.free overtakenRun passages final ∧
        decide (passages.map Passage.route = [(0, 2, some ⟨0, 1⟩)]) = true :=
    Machine.run_of_exec_any (fun (_ : Traced) (passages : List Passage) =>
      decide (passages.map Passage.route = [(0, 2, some ⟨0, 1⟩)])) (by decide)
  refine ⟨passages, final, run, ?_⟩
  intro allOwn
  have member : (0, 2, some ⟨0, 1⟩) ∈ passages.map Passage.route := by
    rw [of_decide_eq_true checked]
    exact List.mem_singleton_self _
  obtain ⟨passage, isPassage, route⟩ := List.mem_map.mp member
  obtain ⟨pairing, isPairing, between⟩ := allOwn passage isPassage
  simp only [Passage.route, Prod.mk.injEq] at route
  obtain ⟨isSender, isReceiver, isTag⟩ := route
  rw [isTag] at isPairing
  obtain rfl := Option.some.inj isPairing
  rw [isSender, isReceiver] at between
  revert between
  decide

end WebrtcFileSender.Net
