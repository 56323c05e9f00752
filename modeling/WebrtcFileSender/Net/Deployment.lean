import WebrtcFileSender.Net.Application
import WebrtcFileSender.Net.Observation

/-!
Contract: the server and whole applications that read JSON from their sockets.

The system has typed clients, and their copies of the transfer on the pages are left out.
Here every client is an application that reads whatever arrives as `receiveSignal` does,
and that raises on an ill-typed message.

Owns: the deployment as a machine, the messages that are on the way between clients of this
class, and that the deployment does what the system does.
-/

namespace WebrtcFileSender.Net

open Signaling

structure Deployment where
  server : Server
  application : SocketId → Application
  uplink : SocketId → List Json
  downlink : SocketId → List (Json × Origin)

namespace Deployment

def initial (helloName : SocketId → String) : Deployment where
  server := .initial
  application := fun ws => .initial ws (helloName ws)
  uplink := fun _ => []
  downlink := fun _ => []

/-- The deployment without the copies on the pages. -/
def system (deployment : Deployment) : System where
  server := deployment.server
  device := fun ws => (deployment.application ws).device
  uplink := deployment.uplink
  downlink := deployment.downlink

/-- The server has made a step. -/
def served (deployment : Deployment) (server : Server) (outputs : List Output) : Deployment :=
  { deployment with
    server := server
    downlink := fun ws => deployment.downlink ws ++ sentTo ws outputs }

/-- An application that raises makes no step. -/
def step (deployment : Deployment) : Action → Option (Deployment × List Event)
  | .server event =>
      match event with
      | .message _ _ => none
      | event =>
          (deployment.server.step event).map fun (server, outputs) =>
            (deployment.served server outputs, [])
  | .process ws =>
      match deployment.uplink ws with
      | [] => none
      | message :: rest =>
          (deployment.server.step (.message ws (some message))).map fun (server, outputs) =>
            ({ deployment with
              uplink := Function.update deployment.uplink ws rest }.served server outputs, [])
  | .receive ws =>
      match deployment.downlink ws with
      | [] => none
      | (message, origin) :: rest =>
          ((deployment.application ws).step (.signal message (author origin))).map fun (app, _) =>
            ({ deployment with
              application := Function.update deployment.application ws app
              downlink := Function.update deployment.downlink ws rest }, [])
  | .act ws input =>
      if ws < deployment.server.connected then
        ((deployment.application ws).step (.act input)).map fun (app, signals) =>
          ({ deployment with
            application := Function.update deployment.application ws app
            uplink := Function.update deployment.uplink ws
              (deployment.uplink ws ++ signals) },
            deployment.system.events ws input)
      else none

end Deployment

/-- The index of a media line is an `int`. -/
def IntLines {σ : Type} (_ : σ) : Action → Prop
  | .act _ (.generateIceCandidate candidate) =>
      -2 ^ 31 ≤ candidate.sdpMLineIndex ∧ candidate.sdpMLineIndex < 2 ^ 31
  | _ => True

/-- Runs of the whole deployment. -/
abbrev DeploymentRun (helloName : SocketId → String) :=
  Machine.Run Deployment.step IntLines (Deployment.initial helloName)

/-! ## One application -/

/-- An application does what its send half does. -/
theorem Application.step_act (app : Application) (input : Input) :
    (app.step (.act input)).map (fun result => (result.1.device, result.2)) =
      app.device.step input := by
  cases input with
  | chooseFile => rfl
  | send => simp only [step, Option.map_some, device_onSend]; rfl
  | runMain =>
      simp only [step, runMain, Option.map_map, Device.step, Device.runMain]
      congr 1
      funext result
      obtain ⟨sameDevice, sameSignals⟩ := (app.withClient result.1).device_handleAll result.2
      exact Prod.ext sameDevice sameSignals
  | selectRow | refreshOnlinePeers | complete | generateIceCandidate | channelState
  | replacedChannelState | openDataChannel | transfer =>
      simp only [step]
      generalize app.device.step _ = stepped
      cases stepped <;> rfl

/-! ## What is on the way -/

/-- A message that a client of this class writes. -/
inductive Sendable (message : Json) : Prop
  | request (isRequest : ServerRequest message)
  | written (isWritten : Endpoint.Written message)

theorem Device.sendable_of_step {device next : Device} {input : Input} {signals : List Json}
    {ws : SocketId} {system : System}
    (stepped : device.step input = some (next, signals))
    (intLines : IntLines system (.act ws input)) :
    ∀ signal ∈ signals, Sendable signal := by
  by_cases isCompletion : ∃ index result, input = .complete index result
  · obtain ⟨index, result, rfl⟩ := isCompletion
    simp only [step, Option.map_eq_some_iff, Prod.exists, Prod.mk.injEq] at stepped
    obtain ⟨endpoint, sent, completes, -, rfl⟩ := stepped
    obtain ⟨-, -, rfl | ⟨sdp, rfl | rfl⟩⟩ := Endpoint.complete_spec completes
    · simp
    · simpa using Sendable.written (.offer sdp)
    · simpa using Sendable.written (.answer sdp)
  · by_cases isCandidate : ∃ candidate, input = .generateIceCandidate candidate
    · obtain ⟨candidate, rfl⟩ := isCandidate
      simp only [step, Option.some.injEq, Prod.mk.injEq] at stepped
      obtain ⟨-, rfl⟩ := stepped
      simpa using Sendable.written (.candidate candidate intLines)
    · intro signal sent
      refine .request (requests_of_step stepped ?_ ?_ signal sent)
      · intro index result same
        exact isCompletion ⟨index, result, same⟩
      · intro candidate same
        exact isCandidate ⟨candidate, same⟩

namespace System

/-- Every message on the way is one that the server or a client of this class writes. -/
structure Legible (system : System) : Prop where
  uplink : ∀ ws, ∀ message ∈ system.uplink ws, Sendable message
  downlink : ∀ ws, ∀ sent ∈ system.downlink ws, Endpoint.Written sent.1

theorem Legible.initial (helloName : SocketId → String) : (initial helloName).Legible :=
  ⟨by simp [System.initial], by simp [System.initial]⟩

/-- What the server sends can be read, if what it passes on can. -/
theorem written_of_step {server next : Server} {event : Server.Event} {outputs : List Output}
    (stepped : server.step event = some (next, outputs))
    (relays : ∀ ws message, event = .message ws (some message) → Server.Relayable message →
      Endpoint.Written message)
    (ws : SocketId) : ∀ sent ∈ sentTo ws outputs, Endpoint.Written sent.1 := by
  rintro ⟨message, origin⟩ sent
  cases Server.sent_of_step stepped (mem_of_sentTo sent) with
  | peers receiver entries => exact .peers entries
  | error receiver reason => exact .error reason
  | offerer receiver selfIP => exact .offerer selfIP
  | answerer receiver selfIP peerIP => exact .answerer selfIP peerIP
  | joined index timer => exact .peerJoined _
  | left receiver => exact .peerLeft
  | relayed sender receiver p isMessage relayable => exact relays _ _ isMessage relayable

theorem Legible.served {system : System} (legible : system.Legible) {event : Server.Event}
    {next : Server} {outputs : List Output}
    (stepped : system.server.step event = some (next, outputs))
    (relays : ∀ ws message, event = .message ws (some message) → Server.Relayable message →
      Endpoint.Written message) :
    (system.served next outputs).Legible := by
  refine ⟨legible.uplink, ?_⟩
  intro ws sent member
  rcases List.mem_append.mp member with old | new
  · exact legible.downlink ws sent old
  · exact written_of_step stepped relays ws sent new

/-- A request to the server is not passed on. -/
theorem Sendable.written_of_relayable {message : Json} (sendable : Sendable message)
    (relayable : Server.Relayable message) : Endpoint.Written message := by
  cases sendable with
  | written isWritten => exact isWritten
  | request isRequest =>
      obtain ⟨type, isType, notPair, notList, -⟩ := relayable
      cases isRequest with
      | pairRequest targetIP => exact absurd (Option.some.inj isType).symm notPair
      | listPeers => exact absurd (Option.some.inj isType).symm notList

theorem Legible.step {system following : System} {action : Action} {events : List Event}
    (legible : system.Legible) (intLines : IntLines system action)
    (stepped : system.step action = some (following, events)) : following.Legible := by
  have effect := (effect_of_step stepped).1
  generalize system.serverOutputs action = outputs at effect
  cases effect with
  | served event next outputs notMessage serverStepped =>
      apply legible.served serverStepped
      intro ws message same
      exact absurd same (notMessage ws _)
  | processed ws message rest next outputs queue serverStepped =>
      have unsent : Legible
          { system with uplink := Function.update system.uplink ws rest } := by
        refine ⟨?_, legible.downlink⟩
        intro other signal inFlight
        dsimp only at inFlight
        by_cases same : other = ws
        · subst same
          rw [Function.update_self] at inFlight
          apply legible.uplink other
          rw [queue]
          exact List.mem_cons_of_mem _ inFlight
        · rw [Function.update_of_ne same] at inFlight
          exact legible.uplink other signal inFlight
      apply unsent.served serverStepped
      intro sender given same
      obtain ⟨-, same⟩ := Server.Event.message.inj same
      obtain rfl := Option.some.inj same
      exact Sendable.written_of_relayable (legible.uplink ws message (by simp [queue]))
  | received ws message origin rest queue =>
      refine ⟨legible.uplink, ?_⟩
      intro other sent member
      simp only [System.received] at member
      by_cases same : other = ws
      · subst same
        rw [Function.update_self] at member
        apply legible.downlink other
        rw [queue]
        exact List.mem_cons_of_mem _ member
      · rw [Function.update_of_ne same] at member
        exact legible.downlink other sent member
  | acted ws input next signals known deviceStepped =>
      refine ⟨?_, legible.downlink⟩
      intro other signal inFlight
      simp only [System.acted] at inFlight
      by_cases same : other = ws
      · subst same
        rw [Function.update_self] at inFlight
        rcases List.mem_append.mp inFlight with old | new
        · exact legible.uplink other signal old
        · exact Device.sendable_of_step deviceStepped intLines signal new
      · rw [Function.update_of_ne same] at inFlight
        exact legible.uplink other signal inFlight

end System

/-! ## The deployment and the system -/

namespace Deployment

variable {deployment following : Deployment} {action : Action} {events : List Event}
  {helloName : SocketId → String} {actions : List Action} {final : Deployment}

/-- The devices, when one application changes. -/
theorem device_update (application : SocketId → Application) (ws : SocketId)
    (app : Application) :
    (fun other => (Function.update application ws app other).device) =
      Function.update (fun other => (application other).device) ws app.device :=
  Function.comp_update Application.device application ws app

/-- A signal that can be read is handled as the typed model handles it. -/
theorem step_signal (app : Application) {message : Json} (author : Option SocketId)
    (written : Endpoint.Written message) :
    app.step (.signal message author) =
      some ({ app with
        device := { app.device with
          endpoint := app.device.endpoint.receiveSignal message author } }, []) := by
  simp only [Application.step, Endpoint.receiveSignalMessage_written _ _ written]

/-- Where every message can be read, the deployment and the system do the same. -/
theorem system_step (legible : deployment.system.Legible) (action : Action) :
    (deployment.step action).map (fun result => (result.1.system, result.2)) =
      deployment.system.step action := by
  cases action with
  | server event =>
      cases event with
      | message => rfl
      | connection | closing | close | timeout =>
          simp only [step, System.step, Option.map_map]
          rfl
  | process ws =>
      have sameLink : deployment.system.uplink ws = deployment.uplink ws := rfl
      cases queue : deployment.uplink ws with
      | nil => simp only [step, System.step, sameLink, queue, Option.map_none]
      | cons message rest =>
          simp only [step, System.step, sameLink, queue, Option.map_map]
          rfl
  | receive ws =>
      have sameLink : deployment.system.downlink ws = deployment.downlink ws := rfl
      cases queue : deployment.downlink ws with
      | nil => simp only [step, System.step, sameLink, queue, Option.map_none]
      | cons sent rest =>
          obtain ⟨message, origin⟩ := sent
          have written : Endpoint.Written message :=
            legible.downlink ws (message, origin) (by simp [sameLink, queue])
          simp only [step, System.step, queue, step_signal _ _ written, Option.map_some, system,
            device_update]
  | act ws input =>
      have sameServer : deployment.system.server = deployment.server := rfl
      simp only [step, System.step, sameServer]
      split
      case isFalse => rfl
      case isTrue =>
        have sameStep : (deployment.system.device ws).step input =
            (deployment.application ws).device.step input := rfl
        rw [sameStep, ← Application.step_act, Option.map_map, Option.map_map]
        congr 1
        funext result
        simp only [Function.comp_apply, system, System.acted, device_update]

/-- An action of the deployment is a step of one application at most. -/
theorem application_step (stepped : deployment.step action = some (following, events))
    (ws : SocketId) :
    following.application ws = deployment.application ws ∨
      ∃ stimulus signals, (deployment.application ws).step stimulus =
        some (following.application ws, signals) := by
  have changed : ∀ {actor : SocketId} {app : Application} {stimulus : Stimulus}
      {signals : List Json},
      (deployment.application actor).step stimulus = some (app, signals) →
      following.application = Function.update deployment.application actor app →
      following.application ws = deployment.application ws ∨
        ∃ stimulus signals, (deployment.application ws).step stimulus =
          some (following.application ws, signals) := by
    intro actor app stimulus signals appStepped updated
    rw [updated]
    by_cases same : ws = actor
    · subst same
      rw [Function.update_self]
      exact .inr ⟨stimulus, signals, appStepped⟩
    · rw [Function.update_of_ne same]
      exact .inl rfl
  cases action with
  | server event =>
      simp only [step] at stepped
      split at stepped
      case h_1 => contradiction
      case h_2 =>
        obtain ⟨result, -, same⟩ := Option.map_eq_some_iff.mp stepped
        obtain ⟨rfl, -⟩ := Prod.mk.inj same
        exact .inl rfl
  | process actor =>
      simp only [step] at stepped
      split at stepped
      case h_1 => contradiction
      case h_2 =>
        obtain ⟨result, -, same⟩ := Option.map_eq_some_iff.mp stepped
        obtain ⟨rfl, -⟩ := Prod.mk.inj same
        exact .inl rfl
  | receive actor =>
      simp only [step] at stepped
      split at stepped
      case h_1 => contradiction
      case h_2 =>
        obtain ⟨result, appStepped, same⟩ := Option.map_eq_some_iff.mp stepped
        obtain ⟨rfl, -⟩ := Prod.mk.inj same
        exact changed appStepped rfl
  | act actor input =>
      simp only [step] at stepped
      split at stepped
      case isFalse => contradiction
      case isTrue =>
        obtain ⟨result, appStepped, same⟩ := Option.map_eq_some_iff.mp stepped
        obtain ⟨rfl, -⟩ := Prod.mk.inj same
        exact changed appStepped rfl

/-- What one application does in a run of the deployment is a run of its own. -/
theorem applicationRun_of_run (run : DeploymentRun helloName actions events final)
    (ws : SocketId) :
    ∃ stimuli signals,
      ApplicationRun ws (helloName ws) Machine.free stimuli signals (final.application ws) := by
  refine run.state_invariant (fun deployment => ∃ stimuli signals,
    ApplicationRun ws (helloName ws) Machine.free stimuli signals (deployment.application ws))
    ⟨[], [], .nil⟩ ?_
  rintro deployment action following fresh ⟨stimuli, signals, own⟩ _ stepped
  rcases application_step stepped ws with same | ⟨stimulus, sent, appStepped⟩
  · rw [same]
    exact ⟨stimuli, signals, own⟩
  · exact ⟨_, _, own.snoc trivial appStepped⟩

/-- **Applications on the wire run as the typed system.** The runs of the typed system are
exactly those of the server with whole applications that read raw JSON: no message that the
server or a client of this class writes makes an application raise, and each application
makes a run of its own. -/
theorem deployment_runs_as_system {system : System} :
    Machine.Run System.step IntLines (System.initial helloName) actions events system ↔
      ∃ deployment, DeploymentRun helloName actions events deployment ∧
        deployment.system = system ∧
        (∀ ws, ∀ sent ∈ deployment.downlink ws, Foundation.Finishes
          ((deployment.application ws).device.endpoint.receiveSignalMessage true sent.1
            (author sent.2))) ∧
        ∀ ws, ∃ stimuli signals, ApplicationRun ws (helloName ws) Machine.free stimuli signals
          (deployment.application ws) := by
  have legibleStart : (initial helloName).system.Legible := .initial helloName
  have sameRuns : Machine.Run System.step IntLines (System.initial helloName) actions events
      system ↔ ∃ deployment, DeploymentRun helloName actions events deployment ∧
        deployment.system = system :=
    Machine.Run.iff_abstract Deployment.system System.Legible legibleStart
      (fun legible intLines stepped => legible.step intLines stepped)
      (fun _ _ => Iff.rfl) fun _ action legible => system_step legible action
  rw [sameRuns]
  constructor
  · rintro ⟨deployment, run, rfl⟩
    refine ⟨deployment, run, rfl, ?_, applicationRun_of_run run⟩
    have typed := sameRuns.mpr ⟨deployment, run, rfl⟩
    have legible : deployment.system.Legible :=
      typed.state_invariant System.Legible (.initial helloName)
        fun legible intLines stepped => legible.step intLines stepped
    intro ws sent member
    exact ⟨_, Endpoint.receiveSignalMessage_written _ _ (legible.downlink ws sent member)⟩
  · rintro ⟨deployment, run, same, -⟩
    exact ⟨deployment, run, same⟩

end Deployment

end WebrtcFileSender.Net
