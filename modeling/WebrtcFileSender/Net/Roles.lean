import WebrtcFileSender.Net.AutoSend
import WebrtcFileSender.Net.Observation
import WebrtcFileSender.Signaling.Roles

/-!
Contract: one offerer and one answerer per pair.

The role of a client is what the last `role` message it has handled says. It
survives the end of a pairing, and messages are on the way while pairs come and
go.

Owns: the role messages a client has yet to handle, the invariant that relates
its role to those it was sent, and the theorem that two partners who have
handled all of theirs have complementary roles.
-/

namespace WebrtcFileSender.Net

open Signaling

/-- The role messages that wait in a link. -/
def roleMessages (queue : List (Json × Origin)) : List Json :=
  (queue.map Prod.fst).filter isRole

def namesOfferer (message : Json) : Bool :=
  message.stringField? "role" == some "offerer"

/-- The role after the messages `handled`. -/
def roleAfter (handled : List Json) : Bool :=
  (handled.getLast?.map namesOfferer).getD false

theorem rolesTo_eq (ws : SocketId) (outputs : List Output) :
    rolesTo ws outputs = roleMessages (sentTo ws outputs) := by
  induction outputs with
  | nil => rfl
  | cons output rest inductionHypothesis =>
      cases output with
      | granted => exact inductionHypothesis
      | sent receiver message origin =>
          by_cases toWs : receiver = ws
          · by_cases isTold : isRole message = true
            · simp_all [rolesTo, roleMessages, sentTo]
            · simp_all [rolesTo, roleMessages, sentTo]
          · simp_all [rolesTo, roleMessages, sentTo]

theorem roleMessages_append (left right : List (Json × Origin)) :
    roleMessages (left ++ right) = roleMessages left ++ roleMessages right := by
  simp [roleMessages]

theorem isRole_clientSignal {message : Json} (signal : ClientSignal message) :
    isRole message = false := by
  cases signal with
  | pairRequest | listPeers | offer | answer | candidate => rfl

/-! ## The role of one client -/

/-- Only a role message changes the role, to the one it names. -/
theorem Endpoint.isOfferer_receiveSignal (endpoint : Endpoint) (message : Json)
    (author : Option SocketId) :
    (endpoint.receiveSignal message author).client.isOfferer =
      if isRole message then namesOfferer message else endpoint.client.isOfferer := by
  have effect := endpoint.receiveSignal_effect message author
  generalize endpoint.receiveSignal message author = next at effect ⊢
  cases effect with
  | role isTold => simp [isRole, isTold, receiveRole, namesOfferer]
  | peerJoined isJoined =>
      simp only [isRole, isJoined]
      unfold receivePeerJoined
      dsimp only
      split <;> rfl
  | dispatched block isReport =>
      rcases isReport with isLeft | isPeers
      · simp only [isRole, isLeft]
        rfl
      · simp only [isRole, isPeers]
        rfl
  | offer isOffer => simp [isRole, isOffer]
  | answer isAnswer => simp [isRole, isAnswer]
  | candidate candidate isCandidate =>
      simp only [isRole, isCandidate]
      unfold receiveCandidate
      split <;> rfl
  | ignored notTold => simp [isRole, notTold]

/-- No input of a client changes its role. -/
theorem Device.isOfferer_of_step {device next : Device} {input : Input}
    {signals : List Json}
    (stepped : device.step input = some (next, signals)) :
    next.endpoint.client.isOfferer = device.endpoint.client.isOfferer := by
  by_cases isCompletion : ∃ index result, input = .complete index result
  · obtain ⟨index, result, rfl⟩ := isCompletion
    simp only [step, Option.map_eq_some_iff, Prod.exists, Prod.mk.injEq] at stepped
    obtain ⟨endpoint, sent, completes, rfl, -⟩ := stepped
    rcases (Endpoint.complete_spec completes).1 with same | described
    · show endpoint.client.isOfferer = device.endpoint.client.isOfferer
      rw [same]
    · show endpoint.client.isOfferer = device.endpoint.client.isOfferer
      rw [described]
  · have same := negotiation_of_step stepped fun index result same =>
      isCompletion ⟨index, result, same⟩
    exact congrArg Negotiation.isOfferer same

/-! ## Whole runs -/

namespace System

/-- Of the role messages a client was sent, it has handled all but those in its
link, and its role is that of the last one it has handled. -/
def RolesHandled (history : List Output) (system : System) : Prop :=
  ∀ ws, ∃ handled, rolesTo ws history = handled ++ roleMessages (system.downlink ws) ∧
    (system.device ws).endpoint.client.isOfferer = roleAfter handled

variable {history outputs : List Output} {system following : System}

/-- A step of the server adds to a link what it sends. -/
theorem RolesHandled.served (handled : RolesHandled history system)
    (next : Server) (outputs : List Output) :
    RolesHandled (history ++ outputs) (system.served next outputs) := by
  intro ws
  obtain ⟨done, sent, role⟩ := handled ws
  refine ⟨done, ?_, role⟩
  simp only [System.served]
  rw [rolesTo_append, roleMessages_append, sent, rolesTo_eq ws outputs, List.append_assoc]

theorem RolesHandled.received (handled : RolesHandled history system)
    {ws : SocketId} {message : Json} {origin : Origin} {rest : List (Json × Origin)}
    (queue : system.downlink ws = (message, origin) :: rest) :
    RolesHandled history (system.received ws message origin rest) := by
  intro other
  obtain ⟨done, sent, role⟩ := handled other
  by_cases same : other = ws
  · subst same
    have newRole := (system.device other).endpoint.isOfferer_receiveSignal message
      (author origin)
    simp only [System.received, Function.update_self]
    rw [queue] at sent
    by_cases isTold : isRole message = true
    · refine ⟨done ++ [message], ?_, ?_⟩
      · rw [sent]
        simp [roleMessages, isTold]
      · rw [newRole, if_pos isTold]
        simp [roleAfter]
    · refine ⟨done, ?_, ?_⟩
      · rw [sent]
        simp [roleMessages, isTold]
      · rw [newRole, if_neg isTold, role]
  · refine ⟨done, ?_, ?_⟩
    · simpa [System.received, Function.update_of_ne same] using sent
    · simpa [System.received, Function.update_of_ne same] using role

theorem RolesHandled.acted (handled : RolesHandled history system)
    {ws : SocketId} {input : Input} {next : Device} {signals : List Json}
    (stepped : (system.device ws).step input = some (next, signals)) :
    RolesHandled history (system.acted ws next signals) := by
  intro other
  obtain ⟨done, sent, role⟩ := handled other
  refine ⟨done, sent, ?_⟩
  by_cases same : other = ws
  · subst same
    simp only [System.acted, Function.update_self]
    rw [Device.isOfferer_of_step stepped, role]
  · simpa [System.acted, Function.update_of_ne same] using role

theorem RolesHandled.step {action : Action}
    (handled : RolesHandled history system)
    (effect : Effect system action following outputs) :
    RolesHandled (history ++ outputs) following := by
  cases effect with
  | served event next outputs => exact handled.served next outputs
  | processed ws message rest next outputs =>
      have unsent : RolesHandled history
          { system with uplink := Function.update system.uplink ws rest } := handled
      exact unsent.served next outputs
  | received ws message origin rest queue =>
      rw [List.append_nil]
      exact handled.received queue
  | acted ws input next signals known stepped =>
      rw [List.append_nil]
      exact handled.acted stepped

theorem RolesHandled.of_run
    {helloName : SocketId → String} {guard : System → Action → Prop} {actions : List Action}
    (run : ObservedRun helloName guard actions outputs system) :
    RolesHandled outputs system := by
  apply run.invariant RolesHandled
  · intro ws
    exact ⟨[], rfl, rfl⟩
  · intro history system action following fresh handled _ stepped
    exact handled.step (effect_of_observed stepped)

/-- A client that has handled all its role messages has the role of the last
one it was sent. -/
theorem RolesHandled.isOfferer (handled : RolesHandled history system) {ws : SocketId}
    {message : Json}
    (noneWaits : roleMessages (system.downlink ws) = [])
    (last : (rolesTo ws history).getLast? = some message) :
    (system.device ws).endpoint.client.isOfferer = namesOfferer message := by
  obtain ⟨done, sent, role⟩ := handled ws
  rw [noneWaits, List.append_nil] at sent
  rw [role, roleAfter, ← sent, last]
  rfl

end System

/-- **A pair has one offerer.** Take any run of the server and its clients. When
two `OPEN` clients are each other's partner and neither has a role message on
the way, one of them is the offerer and the other is not. The last request
granted to either is that of the offerer for the other, and the last role message
sent to the answerer names the key of the offerer. -/
theorem pair_has_one_offerer
    {helloName : SocketId → String} {actions : List Action} {outputs : List Output}
    {final : System}
    (run : ObservedRun helloName Machine.free actions outputs final)
    {a b : SocketId}
    (leftOpen : final.server.readyState a = .OPEN)
    (rightOpen : final.server.readyState b = .OPEN)
    (forward : final.server.pairPartner a = some b)
    (backward : final.server.pairPartner b = some a)
    (leftHandled : roleMessages (final.downlink a) = [])
    (rightHandled : roleMessages (final.downlink b) = []) :
    ∃ offerer answerer,
      ((offerer = a ∧ answerer = b) ∨ (offerer = b ∧ answerer = a)) ∧
      (final.device offerer).endpoint.client.isOfferer = true ∧
      (final.device answerer).endpoint.client.isOfferer = false ∧
      (∃ earlier later, outputs = earlier ++ .granted offerer answerer :: later ∧
        ∀ output ∈ later, ¬ output.Grants offerer ∧ ¬ output.Grants answerer) ∧
      ∃ message, (rolesTo answerer outputs).getLast? = some message ∧
        message.stringField? "peerIP" = some (final.server.clientIP offerer) := by
  have handled := System.RolesHandled.of_run run
  obtain ⟨-, events, serverRun⟩ := System.serverRun_of_observed run
  have unforged : ServerRun RolesUnforged events outputs final.server := by
    apply serverRun.mono
    intro server event honest ws p isMessage
    obtain ⟨message, same, signal⟩ := honest ws (some p) isMessage
    obtain rfl := Option.some.inj same
    exact isRole_clientSignal signal
  have roles : ∀ {offerer answerer}, Granted outputs final.server offerer answerer →
      final.server.readyState offerer = .OPEN → final.server.readyState answerer = .OPEN →
      roleMessages (final.downlink offerer) = [] →
      roleMessages (final.downlink answerer) = [] →
      (final.device offerer).endpoint.client.isOfferer = true ∧
        (final.device answerer).endpoint.client.isOfferer = false := by
    intro offerer answerer granted offererOpen answererOpen offererHandled answererHandled
    exact ⟨handled.isOfferer offererHandled (granted.offererTold offererOpen),
      handled.isOfferer answererHandled (granted.answererTold answererOpen)⟩
  rcases (RoleInvariant.of_run unforged).granted a b forward backward with granted | granted
  · obtain ⟨offers, answers⟩ := roles granted leftOpen rightOpen leftHandled rightHandled
    exact ⟨a, b, .inl ⟨rfl, rfl⟩, offers, answers, granted.last, _,
      granted.answererTold rightOpen, rfl⟩
  · obtain ⟨offers, answers⟩ := roles granted rightOpen leftOpen rightHandled leftHandled
    exact ⟨b, a, .inr ⟨rfl, rfl⟩, offers, answers, granted.last, _,
      granted.answererTold leftOpen, rfl⟩

/-- The first client asks for the second and is its offerer; the second leaves;
then the first and the third ask for each other, and the request of the third is
granted. -/
def repairedRun : List Action :=
  System.gathered ++ [.act 0 (.selectRow (some 0)), .process 0, .receive 0,
    .server (.closing 1), .server (.close 1), .receive 0, .receive 0, .act 0 .runMain,
    .act 0 .runMain, .act 0 (.selectRow (some 0)), .act 2 (.selectRow (some 0)), .process 2,
    .process 0, .receive 0, .receive 2, .receive 2]

theorem pair_has_one_offerer_repairedRun :
    ∃ outputs final,
      ObservedRun (fun _ => "mac#001") Machine.free repairedRun outputs final ∧
      ∃ offerer answerer,
        ((offerer = 0 ∧ answerer = 2) ∨ (offerer = 2 ∧ answerer = 0)) ∧
        (final.device offerer).endpoint.client.isOfferer = true ∧
        (final.device answerer).endpoint.client.isOfferer = false ∧
        (∃ earlier later, outputs = earlier ++ .granted offerer answerer :: later ∧
          ∀ output ∈ later, ¬ output.Grants offerer ∧ ¬ output.Grants answerer) ∧
        ∃ message, (rolesTo answerer outputs).getLast? = some message ∧
          message.stringField? "peerIP" = some (final.server.clientIP offerer) := by
  let settled (final : System) : Bool :=
    decide (final.server.readyState 0 = .OPEN ∧ final.server.readyState 2 = .OPEN ∧
      final.server.pairPartner 0 = some 2 ∧ final.server.pairPartner 2 = some 0 ∧
      (roleMessages (final.downlink 0)).length = 0 ∧
      (roleMessages (final.downlink 2)).length = 0)
  obtain ⟨final, outputs, run, checked⟩ :
      ∃ final outputs,
        ObservedRun (fun _ => "mac#001") Machine.free repairedRun outputs final ∧
        settled final = true :=
    Machine.run_of_exec_any (fun (final : System) _ => settled final) (by decide)
  obtain ⟨leftOpen, rightOpen, forward, backward, leftHandled, rightHandled⟩ :=
    of_decide_eq_true checked
  exact ⟨outputs, final, run, pair_has_one_offerer run leftOpen rightOpen forward backward
    (List.eq_nil_of_length_eq_zero leftHandled)
    (List.eq_nil_of_length_eq_zero rightHandled)⟩

end WebrtcFileSender.Net
