import WebrtcFileSender.Net.Negotiation

/-!
Contract: the runs of the system with what the server puts out.

Owns: the system as a machine whose outputs are those of its server, the signals
that clients of this class send, the pair requests among them, and the projection
of a run of the system to the run of its server.
-/

namespace WebrtcFileSender.Net

open Signaling

/-- What a client of this class sends to the server. -/
inductive ClientSignal : Json → Prop
  | pairRequest (targetIP : String) : ClientSignal (Endpoint.pairRequestMessage targetIP)
  | listPeers : ClientSignal Endpoint.listPeersMessage
  | offer (sdp : String) : ClientSignal (Endpoint.offerMessage sdp)
  | answer (sdp : String) : ClientSignal (Endpoint.answerMessage sdp)
  | candidate (candidate : RTCIceCandidate) :
      ClientSignal (Endpoint.candidateMessage candidate)

/-- What a client sends without negotiating: requests to the server itself. -/
inductive ServerRequest : Json → Prop
  | pairRequest (targetIP : String) : ServerRequest (Endpoint.pairRequestMessage targetIP)
  | listPeers : ServerRequest Endpoint.listPeersMessage

theorem ServerRequest.clientSignal {message : Json} (request : ServerRequest message) :
    ClientSignal message := by
  cases request with
  | pairRequest targetIP => exact .pairRequest targetIP
  | listPeers => exact .listPeers

/-- The key that a pair request names. -/
def requestedKey? (message : Json) : Option String :=
  if message.stringField? "type" = some "pair_request" then message.stringField? "targetIP"
  else none

namespace Device

variable {device next : Device} {input : Input} {signals : List Json}

theorem connect_requests (device : Device) (ip : String) :
    ∀ signal ∈ (device.connect ip).2, ServerRequest signal := by
  intro signal sent
  simp only [connect, Endpoint.connectToPeerIP] at sent
  split at sent
  · contradiction
  · obtain rfl := List.mem_singleton.mp sent
    exact .pairRequest ip

theorem onSend_requests (device : Device) :
    ∀ signal ∈ device.onSend.2, ServerRequest signal := by
  intro signal sent
  unfold onSend at sent
  split at sent
  case h_1 => contradiction
  case h_2 =>
    split at sent
    case isTrue =>
      split at sent
      case h_1 => contradiction
      case h_2 => contradiction
    case isFalse =>
      split at sent
      case h_1 => contradiction
      case h_2 target chosen => exact device.connect_requests target signal sent

theorem handle_requests (device : Device) (call : DelegateCall) :
    ∀ signal ∈ (device.handle call).2, ServerRequest signal := by
  intro signal sent
  cases call with
  | dataChannelStateDidChange state =>
      simp only [handle, dataChannelStateDidChange] at sent
      split at sent
      · exact device.clearPending.onSend_requests signal sent
      · contradiction
  | didUpdateOnlinePeers | didReceivePeerName | fileReceiveOffered | fileReceiveProgress
  | fileSendProgress | fileTransferDidFinish => contradiction

theorem handleAll_requests (device : Device) (calls : List DelegateCall) :
    ∀ signal ∈ (device.handleAll calls).2, ServerRequest signal := by
  induction calls generalizing device with
  | nil =>
      intro signal sent
      contradiction
  | cons call rest inductionHypothesis =>
      intro signal sent
      simp only [handleAll] at sent
      rcases List.mem_append.mp sent with now | later
      · exact device.handle_requests call signal now
      · exact inductionHypothesis _ signal later

/-- Offers and answers come from completion handlers, candidates from the
library; any other input sends requests to the server only. -/
theorem requests_of_step
    (stepped : device.step input = some (next, signals))
    (notCompletion : ∀ index result, input ≠ .complete index result)
    (notCandidate : ∀ candidate, input ≠ .generateIceCandidate candidate) :
    ∀ signal ∈ signals, ServerRequest signal := by
  cases input with
  | chooseFile | replacedChannelState =>
      simp only [step, Option.some.injEq, Prod.mk.injEq] at stepped
      obtain ⟨-, rfl⟩ := stepped
      simp
  | refreshOnlinePeers =>
      simp only [step, Option.some.injEq, Prod.mk.injEq] at stepped
      obtain ⟨-, rfl⟩ := stepped
      intro signal sent
      obtain rfl := List.mem_singleton.mp sent
      exact .listPeers
  | selectRow row =>
      simp only [step, Option.some.injEq] at stepped
      have requests : ∀ signal ∈ (device.tableViewSelectionDidChange row).2,
          ServerRequest signal := by
        intro signal sent
        unfold tableViewSelectionDidChange at sent
        dsimp only at sent
        split at sent
        · contradiction
        · unfold onSelectPeerIP at sent
          split at sent
          · contradiction
          · exact connect_requests _ _ signal sent
      rw [stepped] at requests
      exact requests
  | send =>
      simp only [step, Option.some.injEq] at stepped
      have requests := device.onSend_requests
      rw [stepped] at requests
      exact requests
  | runMain =>
      simp only [step, runMain, Option.map_eq_some_iff, Prod.exists] at stepped
      obtain ⟨client, calls, -, handled⟩ := stepped
      have requests := handleAll_requests (device.withClient client) calls
      have result : ((device.withClient client).handleAll calls).2 = signals := by
        have second := congrArg Prod.snd handled
        exact second
      rw [result] at requests
      exact requests
  | complete index result => exact absurd rfl (notCompletion index result)
  | generateIceCandidate candidate => exact absurd rfl (notCandidate candidate)
  | channelState | openDataChannel =>
      simp only [step] at stepped
      split at stepped
      case isFalse => contradiction
      case isTrue =>
        simp only [Option.some.injEq, Prod.mk.injEq] at stepped
        obtain ⟨-, rfl⟩ := stepped
        simp
  | transfer given =>
      simp only [step] at stepped
      split at stepped
      case isFalse => contradiction
      case isTrue =>
        simp only [Option.map_eq_some_iff, Prod.exists, Prod.mk.injEq] at stepped
        obtain ⟨client, calls, -, -, rfl⟩ := stepped
        simp

/-! ## Pair requests -/

theorem selectTarget_ne_empty {ip key : String} (target : device.selectTarget ip = some key) :
    key ≠ "" := by
  unfold selectTarget at target
  split at target
  case isTrue => contradiction
  case isFalse nonempty =>
    obtain ⟨-, rfl⟩ : device.isDataChannelOpen = false ∧ key = ip :=
      selectTarget_spec (by rw [selectTarget, if_neg nonempty]; exact target)
    exact nonempty

theorem sendTarget_ne_empty {key : String} (target : device.sendTarget = some key) :
    key ≠ "" := by
  unfold sendTarget at target
  split at target
  case isTrue => contradiction
  case isFalse =>
    obtain ⟨targetIP, -, chosen⟩ := Option.bind_eq_some_iff.mp target
    split at chosen
    case isTrue => contradiction
    case isFalse nonempty =>
      rw [← Option.some.inj chosen]
      exact nonempty

theorem connect_requestedKeys (device : Device) {key : String} (nonempty : key ≠ "") :
    (device.connect key).2.filterMap requestedKey? = [key] := by
  simp only [connect, Endpoint.connectToPeerIP, if_neg nonempty]
  rfl

theorem onSend_requestedKeys (device : Device) :
    device.onSend.2.filterMap requestedKey? = device.sendTarget.toList := by
  unfold onSend
  split
  case h_1 unsendable => simp [sendTarget, unsendable]
  case h_2 url sendable =>
    split
    case isTrue isOpen =>
      have noTarget : device.sendTarget = none := by simp [sendTarget, isOpen]
      rw [noTarget]
      split <;> rfl
    case isFalse =>
      split
      case h_1 noTarget => rw [noTarget]; rfl
      case h_2 target chosen =>
        rw [chosen]
        exact device.connect_requestedKeys (sendTarget_ne_empty chosen)

theorem requestedKeys_of_runMain (ran : device.runMain = some (next, signals)) :
    signals.filterMap requestedKey? = (device.choice .runMain).toList := by
  simp only [runMain, RTCClient.act, Option.map_eq_some_iff, Prod.exists] at ran
  obtain ⟨client, calls, acted, handled⟩ := ran
  split at acted
  case h_1 => contradiction
  case h_2 block rest queue =>
    have result := Option.some.inj acted
    cases block with
    | dataChannelStateDidChange state =>
        obtain ⟨rfl, rfl⟩ := Prod.mk.inj result
        simp only [handleAll, handle, dataChannelStateDidChange, List.append_nil] at handled
        split at handled
        case isTrue opened =>
          obtain ⟨rfl, pending⟩ := opened
          have wasPending : device.pendingAutoSend = true := pending
          have reported : device.openReported = true := by simp [openReported, queue, wasPending]
          obtain ⟨-, rfl⟩ := Prod.mk.inj handled
          rw [onSend_requestedKeys, choice, reported]
          rfl
        case isFalse unopened =>
          obtain ⟨-, rfl⟩ := Prod.mk.inj handled
          have notReported : device.openReported = false := by
            by_cases opens : state = .Open
            · have notPending : device.pendingAutoSend = false :=
                Bool.eq_false_iff.mpr fun pending => unopened ⟨opens, pending⟩
              simp [openReported, notPending]
            · simp [openReported, queue, opens]
          rw [choice, notReported]
          rfl
    | iceConnectionLost | cleanup | didReceivePeerName | didUpdateOnlinePeers
    | fileReceiveOffered | fileReceiveProgress | fileSendProgress =>
        obtain ⟨rfl, rfl⟩ := Prod.mk.inj result
        simp only [handleAll, handle, dataChannelStateDidChange, reduceCtorEq, false_and,
          if_false] at handled
        obtain ⟨-, rfl⟩ := Prod.mk.inj handled
        simp [choice, openReported, queue]

theorem requestedKeys_of_complete {index : Nat} {result : Option String} {endpoint : Endpoint}
    (completes : device.endpoint.complete index result = some (endpoint, signals)) :
    signals.filterMap requestedKey? = [] := by
  obtain ⟨-, -, rfl | ⟨sdp, rfl | rfl⟩⟩ := Endpoint.complete_spec completes
  · rfl
  · rfl
  · rfl

/-- The pair requests that an input sends are its choice. -/
theorem requestedKeys_of_step (stepped : device.step input = some (next, signals)) :
    signals.filterMap requestedKey? = (device.choice input).toList := by
  cases input with
  | chooseFile | replacedChannelState | refreshOnlinePeers | generateIceCandidate =>
      simp only [step, Option.some.injEq, Prod.mk.injEq] at stepped
      obtain ⟨-, rfl⟩ := stepped
      rfl
  | selectRow row =>
      simp only [step, Option.some.injEq] at stepped
      have keys : (device.tableViewSelectionDidChange row).2.filterMap requestedKey? =
          (device.choice (.selectRow row)).toList := by
        simp only [tableViewSelectionDidChange, choice]
        cases chosen : row.bind fun row => device.onlinePeers[row]? with
        | none => rfl
        | some peer =>
            simp only [Option.bind_some, onSelectPeerIP]
            have sameTarget : selectTarget { device with selectedPeerRow := row } peer.ip =
                device.selectTarget peer.ip := rfl
            rw [sameTarget]
            cases target : device.selectTarget peer.ip with
            | none => rfl
            | some key => exact connect_requestedKeys _ (selectTarget_ne_empty target)
      rw [stepped] at keys
      exact keys
  | send =>
      simp only [step, Option.some.injEq] at stepped
      have keys := device.onSend_requestedKeys
      rw [stepped] at keys
      exact keys
  | runMain => exact requestedKeys_of_runMain stepped
  | complete index result =>
      simp only [step, Option.map_eq_some_iff, Prod.exists, Prod.mk.injEq] at stepped
      obtain ⟨endpoint, sent, completes, -, rfl⟩ := stepped
      exact requestedKeys_of_complete completes
  | channelState | openDataChannel =>
      simp only [step] at stepped
      split at stepped
      case isFalse => contradiction
      case isTrue =>
        simp only [Option.some.injEq, Prod.mk.injEq] at stepped
        obtain ⟨-, rfl⟩ := stepped
        rfl
  | transfer given =>
      simp only [step] at stepped
      split at stepped
      case isFalse => contradiction
      case isTrue =>
        simp only [Option.map_eq_some_iff, Prod.exists, Prod.mk.injEq] at stepped
        obtain ⟨client, calls, -, -, rfl⟩ := stepped
        rfl

/-- A client sends nothing but the five kinds of signals. -/
theorem clientSignals_of_step
    (stepped : device.step input = some (next, signals)) :
    ∀ signal ∈ signals, ClientSignal signal := by
  by_cases isCompletion : ∃ index result, input = .complete index result
  · obtain ⟨index, result, rfl⟩ := isCompletion
    simp only [step, Option.map_eq_some_iff, Prod.exists, Prod.mk.injEq] at stepped
    obtain ⟨endpoint, sent, completes, -, rfl⟩ := stepped
    obtain ⟨-, -, rfl | ⟨sdp, rfl | rfl⟩⟩ := Endpoint.complete_spec completes
    · simp
    · simpa using ClientSignal.offer sdp
    · simpa using ClientSignal.answer sdp
  · by_cases isCandidate : ∃ candidate, input = .generateIceCandidate candidate
    · obtain ⟨candidate, rfl⟩ := isCandidate
      simp only [step, Option.some.injEq, Prod.mk.injEq] at stepped
      obtain ⟨-, rfl⟩ := stepped
      simpa using ClientSignal.candidate candidate
    · intro signal sent
      apply ServerRequest.clientSignal
      apply requests_of_step stepped _ _ signal sent
      · intro index result same
        exact isCompletion ⟨index, result, same⟩
      · intro candidate same
        exact isCandidate ⟨candidate, same⟩

end Device

/-! ## Steps with the outputs of the server -/

namespace System

def observed (system : System) (action : Action) : Option (System × List Output) :=
  (system.step action).map fun (next, _) => (next, system.serverOutputs action)

theorem effect_of_observed {system following : System} {action : Action}
    {outputs : List Output}
    (stepped : system.observed action = some (following, outputs)) :
    Effect system action following outputs := by
  simp only [observed, Option.map_eq_some_iff, Prod.exists, Prod.mk.injEq] at stepped
  obtain ⟨result, events, stepped, rfl, rfl⟩ := stepped
  exact (effect_of_step stepped).1

end System

/-- Runs of the whole system with the outputs of the server. -/
abbrev ObservedRun (helloName : SocketId → String) (guard : System → Action → Prop) :=
  Machine.Run System.observed guard (System.initial helloName)

/-! ## The run of the server -/

namespace System

/-- On the way to the server are only signals of clients of this class. -/
def ClientsHonest (system : System) : Prop :=
  ∀ ws, ∀ message ∈ system.uplink ws, ClientSignal message

theorem ClientsHonest.step {system following : System} {action : Action}
    {outputs : List Output}
    (honest : system.ClientsHonest)
    (effect : Effect system action following outputs) :
    following.ClientsHonest := by
  cases effect with
  | served | received => exact honest
  | processed ws message rest next outputs queue =>
      intro other signal inFlight
      apply honest other signal
      simp only [System.served] at inFlight
      by_cases same : other = ws
      · subst same
        rw [Function.update_self] at inFlight
        rw [queue]
        exact List.mem_cons_of_mem _ inFlight
      · rwa [Function.update_of_ne same] at inFlight
  | acted ws input next signals known stepped =>
      intro other signal inFlight
      simp only [System.acted] at inFlight
      by_cases same : other = ws
      · subst same
        rw [Function.update_self] at inFlight
        rcases List.mem_append.mp inFlight with old | new
        · exact honest other signal old
        · exact Device.clientSignals_of_step stepped signal new
      · rw [Function.update_of_ne same] at inFlight
        exact honest other signal inFlight

/-- The messages of the server's events come from clients of this class. -/
def HonestEvent (_ : Server) (event : Server.Event) : Prop :=
  ∀ ws raw, event = .message ws raw → ∃ message, raw = some message ∧ ClientSignal message

/-- **The server in a run of the system makes a run of its own**, with the same
outputs, in which every message is one that clients of this class send. -/
theorem serverRun_of_observed
    {helloName : SocketId → String} {guard : System → Action → Prop} {actions : List Action}
    {outputs : List Output} {final : System}
    (run : ObservedRun helloName guard actions outputs final) :
    final.ClientsHonest ∧ ∃ events, ServerRun HonestEvent events outputs final.server := by
  apply run.invariant (fun outputs system =>
    system.ClientsHonest ∧ ∃ events, ServerRun HonestEvent events outputs system.server)
  · exact ⟨by simp [ClientsHonest, System.initial], [], .nil⟩
  · intro history system action following fresh before _ stepped
    obtain ⟨honest, events, serverRun⟩ := before
    have effect := effect_of_observed stepped
    refine ⟨honest.step effect, ?_⟩
    cases effect with
    | served event next outputs notMessage serverStepped =>
        refine ⟨_, serverRun.snoc ?_ serverStepped⟩
        intro ws raw same
        exact absurd same (notMessage ws raw)
    | processed ws message rest next outputs queue serverStepped =>
        refine ⟨_, serverRun.snoc ?_ serverStepped⟩
        intro sender raw same
        obtain ⟨rfl, rfl⟩ := Server.Event.message.inj same
        exact ⟨message, rfl, honest ws message (by simp [queue])⟩
    | received | acted =>
        rw [List.append_nil]
        exact ⟨events, serverRun⟩

end System

end WebrtcFileSender.Net
