import WebrtcFileSender.Session.Arrival
import WebrtcFileSender.Session.ControlMessages

/-!
Contract: success reported by the sender means that the file has arrived, in
every run of a session under the condition of this file.

Owns: the condition on the actions, the invariant of a whole session, the
theorem, and a run in which the sender reports success before the receiver has
the file.
-/

namespace WebrtcFileSender

/-- The loop whose next statement finds that all bytes are sent. -/
def RTCClient.completing (client : RTCClient) : Option SendingLoop :=
  match client.fileQueue with
  | [] => none
  | loop :: _ =>
      if loop.point = .completeTest ∧ client.sendTotalBytes ≤ client.sendBytesSent
      then some loop else none

namespace Session

open RTCClient

/-- The condition on an action: a send begins only in a quiet session, and the
loop takes its success branch only after the receiver's `ft_done` for its
transfer has been delivered. -/
def Acknowledged (past : List Event × Session) : Action → Prop
  | .take side (.runFile _) =>
      ∀ loop ∈ (past.2 side).completing,
        .delivered side ⟨.ftDone, some loop.transfer⟩ ∈ past.1
  | action => Serial past action

instance (past : List Event × Session) :
    (action : Action) → Decidable (Acknowledged past action)
  | .take side (.runFile _) =>
      inferInstanceAs (Decidable (∀ loop ∈ (past.2 side).completing,
        .delivered side ⟨.ftDone, some loop.transfer⟩ ∈ past.1))
  | .take side (.sendFileAtURL fileURL) =>
      inferInstanceAs (Decidable (Serial past (.take side (.sendFileAtURL fileURL))))
  | .take _ .cancelFileTransfer | .take _ (.acceptIncomingFileToURL _)
  | .take _ (.rejectIncomingFileWithReason _) | .take _ (.receive _ _) | .take _ .transmit
  | .take _ .runMain | .take _ (.iceConnectionState _) | .take _ (.dataChannelState _)
  | .deliver _ _ => .isTrue trivial

/-- When the next action reports a success for a transfer that `side` sends, the
peer has written all announced bytes, and they are those of the source file. -/
def SuccessMeansArrival (past : List Event × Session) : Action → Prop
  | .take side .runMain =>
      ∀ request rest, (past.2 side).mainQueue = .cleanup none request :: rest →
      ∀ transfer, transfer.sender = side.clientId →
      request.transfer = some transfer ∨
        (past.2 side).sendHandle.map ReadHandle.transfer = some transfer →
      (∃ bytes announced, .began side transfer bytes announced ∈ past.1) ∧
      ∀ bytes announced, .began side transfer bytes announced ∈ past.1 →
        announced = bytes.length ∧
        ∃ path, .opened side.peer (some transfer) path ∈ past.1 ∧
          (past.2 side.peer).disk path = bytes
  | _ => True

/-- The path that an event records as opened. -/
def openedPath : Event → Option String
  | .opened _ _ path => some path
  | _ => none

/-! ## The invariant of a session -/

/-- Every recorded transfer began in the past, and the current one is on its way
as it should be. -/
structure ArrivalInvariant (history : List Event) (session : Session) : Prop where
  identity : ∀ side, (session side).clientId = side.clientId
  began : ∀ side transfer bytes announced,
    .began side transfer bytes announced ∈ history → transfer.seq < (session side).begun
  delivered : ∀ side transfer, .delivered side ⟨.ftDone, some transfer⟩ ∈ history →
    ∀ owner : Side, transfer.sender = owner.clientId →
      transfer.seq < (session owner).begun
  current : ∃ current, (∀ side, (session side).BelongsTo current) ∧
    (∀ transfer ∈ current, ∀ owner : Side, transfer.sender = owner.clientId →
      transfer.seq < (session owner).begun) ∧
    (current = none ∨ ∃ side transfer source path, current = some transfer ∧
      Arriving history side transfer source path (session side) (session side.peer))

namespace ArrivalInvariant

variable {history fresh : List Event} {session : Session}
variable {side : Side} {next : RTCClient} {input : Input} {calls : List DelegateCall}

theorem initial (helloName : Side → String) :
    ArrivalInvariant [] (Session.initial helloName) where
  identity := by
    intro side
    rfl
  began := by simp
  delivered := by simp
  current := ⟨none, fun side => .initial side.clientId (helloName side), by simp, .inl rfl⟩

/-- A successful report finds the file at its destination. -/
theorem success_means_arrival
    (invariant : ArrivalInvariant history session) (action : Action) :
    SuccessMeansArrival (history, session) action := by
  obtain ⟨current, belongs, -, transferring⟩ := invariant.current
  match action with
  | .take side .runMain =>
      intro request rest queue transfer owned reports
      dsimp only at queue reports ⊢
      have pending : .cleanup none request ∈ (session side).mainQueue := by
        rw [queue]
        exact List.mem_cons_self
      -- The transfer reported is the current one.
      have isCurrent : some transfer = current := by
        rcases reports with requested | sending
        · have tagged := (belongs side).cleanups none request pending
          rw [requested] at tagged
          exact tagged.resolve_left (by simp)
        · obtain ⟨handle, holds, rfl⟩ := Option.map_eq_some_iff.mp sending
          exact (belongs side).sending handle holds
      rcases transferring with nothing | ⟨sender, given, source, path, isGiven, arriving⟩
      · rw [nothing] at isCurrent
        contradiction
      · obtain rfl : transfer = given := Option.some.inj (isCurrent.trans isGiven)
        obtain rfl : sender = side :=
          Side.clientId_injective (arriving.owner.symm.trans owned)
        refine ⟨⟨source, source.length, arriving.began⟩, ?_⟩
        intro bytes announced began
        obtain ⟨rfl, rfl⟩ := arriving.only bytes announced began
        obtain ⟨destination, isOpen, whole, -⟩ :=
          arriving.sound (.inr (.inr (.inr ⟨request, pending⟩)))
        exact ⟨rfl, destination, arriving.opened destination isOpen, whole⟩
  | .take _ (.sendFileAtURL _) | .take _ .cancelFileTransfer
  | .take _ (.acceptIncomingFileToURL _) | .take _ (.rejectIncomingFileWithReason _)
  | .take _ (.receive _ _) | .take _ .transmit | .take _ (.runFile _)
  | .take _ (.iceConnectionState _) | .take _ (.dataChannelState _) | .deliver _ _ => trivial

/-- The records after one end took an input. -/
theorem records_taken
    (invariant : ArrivalInvariant history session)
    (effect : RTCClient.Effect (session side) input next calls) :
    (∀ owner, (Function.update session side next owner).clientId = owner.clientId) ∧
    (∀ owner, (session owner).begun ≤ (Function.update session side next owner).begun) ∧
    ∀ owner transfer bytes announced, .began owner transfer bytes announced ∈
        history ++ events side (session side) next calls →
      transfer.seq < (Function.update session side next owner).begun := by
  obtain ⟨sameId, later⟩ := identity_of_effect effect
  have grown : ∀ owner, (session owner).begun ≤ (Function.update session side next owner).begun :=
    forall_update (P := fun owner client => (session owner).begun ≤ client.begun) later
      (Nat.le_refl _)
  refine ⟨?_, grown, ?_⟩
  · exact forall_update (P := fun owner client => client.clientId = owner.clientId)
      (sameId.trans (invariant.identity side)) (invariant.identity side.peer)
  · intro owner transfer bytes announced member
    rcases List.mem_append.mp member with old | new
    · exact Nat.lt_of_lt_of_le (invariant.began owner transfer bytes announced old) (grown owner)
    · rcases mem_events new with ⟨_, same⟩ | ⟨handle, before, after, same⟩ | ⟨_, -, -, same⟩
      · contradiction
      · obtain ⟨rfl, rfl, -, -⟩ := Event.began.inj same
        obtain ⟨-, -, -, isNew, counted, -⟩ := sendHandle_began effect before after
        rw [isNew, Function.update_self, counted]
        exact Nat.lt_succ_self _
      · contradiction

/-- In a quiet session there is no sign of a success. -/
theorem not_successSigns_of_quiet {sender receiver begun : RTCClient}
    (senderQuiet : sender.quiet = true)
    (receiverQuiet : receiver.quiet = true)
    (sameLoops : begun.fileQueue = sender.fileQueue)
    (sameBlocks : begun.mainQueue = sender.mainQueue) :
    ¬ SuccessSigns begun receiver := by
  obtain ⟨-, -, -, settled, noLoop, -⟩ := quiet_spec senderQuiet
  obtain ⟨-, -, -, -, -, greetings⟩ := quiet_spec receiverQuiet
  intro signs
  rcases signs with ⟨tag, inFlight⟩ | ⟨loop, member, -⟩ | ⟨request, pending⟩
  · have greeting := greetings _ inFlight
    contradiction
  · rw [sameLoops, noLoop] at member
    contradiction
  · rw [sameBlocks] at pending
    exact not_mem_of_noCleanupPending settled none request pending

/-- A new send in a quiet session. -/
theorem begin
    (invariant : ArrivalInvariant history session)
    (isQuiet : quiet session = true)
    {fileURL : FileURL}
    (succeeds : (session side).sendSucceeds fileURL = true)
    (effect : RTCClient.Effect (session side) (.sendFileAtURL fileURL) next calls) :
    ∃ source, Arriving (history ++ events side (session side) next calls) side
      ⟨(session side).clientId, (session side).begun⟩ source none next
      (session side.peer) := by
  have senderQuiet := quiet_side isQuiet side
  have receiverQuiet := quiet_side isQuiet side.peer
  obtain ⟨notSending, -⟩ := quiet_spec senderQuiet
  obtain ⟨file, isOpen, sized, opened, rfl⟩ := beginSending_of_succeeds succeeds effect
  have result := (session side).beginSending_eq fileURL file
  have sending : ((session side).beginSending fileURL file).sendHandle =
      some ⟨⟨(session side).clientId, (session side).begun⟩, file, 0⟩ := by rw [result]
  have total : ((session side).beginSending fileURL file).sendTotalBytes =
      file.bytes.length := by
    rw [result]
    exact fileURL.announced_eq opened sized
  refine ⟨file.bytes, invariant.identity side,
    .begin senderQuiet receiverQuiet isOpen sized opened, ?_, ?_, by simp, ?_⟩
  · apply List.mem_append_right
    rw [← total]
    exact began_mem_events notSending sending
  · intro bytes announced member
    rcases List.mem_append.mp member with old | new
    · have earlier := invariant.began _ _ _ _ old
      exact absurd earlier (Nat.lt_irrefl _)
    · rcases mem_events new with ⟨_, same⟩ | ⟨handle, -, after, same⟩ | ⟨_, -, -, same⟩
      · contradiction
      · obtain ⟨-, -, rfl, rfl⟩ := Event.began.inj same
        obtain rfl := Option.some.inj (sending.symm.trans after)
        exact ⟨rfl, total⟩
      · contradiction
  · intro signs
    rcases signs with delivered | signs
    · rcases List.mem_append.mp delivered with old | new
      · have earlier := invariant.delivered _ _ old side (invariant.identity side)
        exact absurd earlier (Nat.lt_irrefl _)
      · exact absurd new delivered_not_mem_events
    · exact absurd signs (not_successSigns_of_quiet senderQuiet receiverQuiet
        (by rw [result]) (by rw [result]))

/-- Without a new send nothing is recorded as begun. -/
theorem not_began_of_effect
    (notBegun : ∀ fileURL, input = .sendFileAtURL fileURL →
      (session side).sendSucceeds fileURL = false)
    (effect : RTCClient.Effect (session side) input next calls) :
    ∀ owner transfer bytes announced, .began owner transfer bytes announced ∉
      events side (session side) next calls := by
  intro owner transfer bytes announced member
  rcases mem_events member with ⟨_, same⟩ | ⟨handle, before, after, same⟩ | ⟨_, -, -, same⟩
  · contradiction
  · obtain ⟨fileURL, isSend, succeeds, -⟩ := sendHandle_began effect before after
    rw [notBegun fileURL isSend] at succeeds
    contradiction
  · contradiction

/-- The current transfer while one end takes an input that begins nothing. -/
theorem arriving_taken
    {sender : Side} {transfer : TransferId} {source : Bytes} {path : Option String}
    (arriving : Arriving history sender transfer source path (session sender)
      (session sender.peer))
    (belongs : ∀ side, (session side).BelongsTo (some transfer))
    (allowed : Acknowledged (history, session) (.take side input))
    (possible : Possible (session side) input)
    (notBegun : ∀ fileURL, input = .sendFileAtURL fileURL →
      (session side).sendSucceeds fileURL = false)
    (effect : RTCClient.Effect (session side) input next calls) :
    ∃ path, Arriving (history ++ events side (session side) next calls) sender transfer
      source path (Function.update session side next sender)
      (Function.update session side next sender.peer) := by
  have noBegan := not_began_of_effect notBegun effect
  have noDelivery : ∀ owner packet, .delivered owner packet ∉
      events side (session side) next calls := fun _ _ => delivered_not_mem_events
  rcases sender.eq_or_eq_peer side with rfl | rfl
  · rw [Function.update_self, Function.update_of_ne side.peer_ne]
    refine ⟨path, arriving.sender_taken possible notBegun ?_ noBegan noDelivery effect⟩
    rintro given loop rest rfl queue atTest complete
    have completes : loop ∈ (session side).completing := by
      rw [completing, queue]
      simp [atTest, complete]
    have ownLoop := arriving.flow.senderRole.loops loop (by simp [queue])
    have delivered := allowed loop completes
    rw [ownLoop] at delivered
    exact delivered
  · rw [Function.update_self, Function.update_of_ne sender.peer_ne.symm]
    exact arriving.receiver_taken possible notBegun (belongs sender.peer).offered noBegan
      noDelivery (fun handle before after => opened_mem_events before after) effect

/-- The current transfer while a packet is delivered. -/
theorem arriving_delivered
    {sender : Side} {transfer : TransferId} {source : Bytes} {path : Option String}
    (arriving : Arriving history sender transfer source path (session sender)
      (session sender.peer))
    {packet : Packet} {rest : List Packet} {outcome : WriteOutcome}
    (queue : (session side.peer).outgoing = packet :: rest)
    (effect : RTCClient.Effect (session side) (.receive packet outcome) next []) :
    Arriving (history ++ .delivered side packet :: events side (session side) next []) sender
      transfer source path
      (Function.update (Function.update session side.peer
        { session side.peer with outgoing := rest }) side next sender)
      (Function.update (Function.update session side.peer
        { session side.peer with outgoing := rest }) side next sender.peer) := by
  have noBegan : ∀ owner given bytes announced, .began owner given bytes announced ∉
      Event.delivered side packet :: events side (session side) next [] := by
    intro owner given bytes announced member
    rcases List.mem_cons.mp member with same | inEvents
    · contradiction
    · exact not_began_of_effect (by simp) effect owner given bytes announced inEvents
  rcases sender.eq_or_eq_peer side with rfl | rfl
  · rw [Function.update_self, Function.update_of_ne side.peer_ne, Function.update_self]
    refine arriving.sender_receives queue noBegan ?_ effect
    intro given member
    rcases List.mem_cons.mp member with same | inEvents
    · exact (Event.delivered.inj same).2
    · exact absurd inEvents delivered_not_mem_events
  · rw [Side.peer_peer] at queue ⊢
    rw [Function.update_of_ne sender.peer_ne.symm, Function.update_self, Function.update_self]
    refine arriving.receiver_receives queue noBegan ?_ effect
    intro given member
    rcases List.mem_cons.mp member with same | inEvents
    · exact sender.peer_ne (Event.delivered.inj same).1.symm
    · exact delivered_not_mem_events inEvents

theorem step_taken
    (invariant : ArrivalInvariant history session)
    (allowed : Acknowledged (history, session) (.take side input))
    (possible : Possible (session side) input)
    (effect : RTCClient.Effect (session side) input next calls) :
    ArrivalInvariant (history ++ events side (session side) next calls)
      (Function.update session side next) := by
  obtain ⟨identity, grown, began⟩ := invariant.records_taken effect
  obtain ⟨current, belongs, known, transferring⟩ := invariant.current
  have stillKnown : ∀ {transfer : TransferId} {owner : Side},
      transfer.seq < (session owner).begun →
      transfer.seq < (Function.update session side next owner).begun :=
    fun {transfer owner} earlier => Nat.lt_of_lt_of_le earlier (grown owner)
  refine ⟨identity, began, ?_, ?_⟩
  · intro receiver transfer member owner owned
    rcases List.mem_append.mp member with old | new
    · exact stillKnown (invariant.delivered receiver transfer old owner owned)
    · exact absurd new delivered_not_mem_events
  · by_cases begins : ∃ fileURL, input = .sendFileAtURL fileURL ∧
        (session side).sendSucceeds fileURL = true
    · obtain ⟨fileURL, rfl, succeeds⟩ := begins
      have isQuiet : quiet session = true := allowed succeeds
      obtain ⟨source, arriving⟩ := invariant.begin isQuiet succeeds effect
      have fresh := began side _ _ _ arriving.began
      obtain ⟨file, -, -, -, rfl⟩ := beginSending_of_succeeds succeeds effect
      refine ⟨_, belongs_begun belongs isQuiet fileURL file, ?_,
        .inr ⟨side, _, source, none, rfl, ?_⟩⟩
      · intro transfer same owner owned
        obtain rfl := Option.some.inj same
        obtain rfl : side = owner :=
          Side.clientId_injective ((invariant.identity side).symm.trans owned)
        exact fresh
      · rw [Function.update_self, Function.update_of_ne side.peer_ne]
        exact arriving
    · have notBegun : ∀ fileURL, input = .sendFileAtURL fileURL →
          (session side).sendSucceeds fileURL = false := by
        intro fileURL same
        exact Bool.eq_false_iff.mpr fun succeeds => begins ⟨fileURL, same, succeeds⟩
      refine ⟨current, belongs_taken belongs possible notBegun effect, ?_, ?_⟩
      · intro transfer same owner owned
        exact stillKnown (known transfer same owner owned)
      · rcases transferring with nothing | ⟨sender, transfer, source, path, rfl, arriving⟩
        · exact .inl nothing
        · obtain ⟨after, stillArriving⟩ :=
            arriving_taken arriving belongs allowed possible notBegun effect
          exact .inr ⟨sender, transfer, source, after, rfl, stillArriving⟩

theorem step_delivered
    (invariant : ArrivalInvariant history session)
    {packet : Packet} {rest : List Packet} {outcome : WriteOutcome}
    (queue : (session side.peer).outgoing = packet :: rest)
    (effect : RTCClient.Effect (session side) (.receive packet outcome) next []) :
    ArrivalInvariant
      (history ++ .delivered side packet :: events side (session side) next [])
      (Function.update (Function.update session side.peer
        { session side.peer with outgoing := rest }) side next) := by
  obtain ⟨sameId, later⟩ := identity_of_effect effect
  obtain ⟨current, belongs, known, transferring⟩ := invariant.current
  have grown : ∀ owner, (session owner).begun ≤
      (Function.update (Function.update session side.peer
        { session side.peer with outgoing := rest }) side next owner).begun :=
    forall_update₂ (P := fun owner client => (session owner).begun ≤ client.begun) later
      (Nat.le_refl _)
  have stillKnown : ∀ {transfer : TransferId} {owner : Side},
      transfer.seq < (session owner).begun →
      transfer.seq < (Function.update (Function.update session side.peer
        { session side.peer with outgoing := rest }) side next owner).begun :=
    fun {transfer owner} earlier => Nat.lt_of_lt_of_le earlier (grown owner)
  refine ⟨?_, ?_, ?_, current, belongs_delivered belongs queue effect, ?_, ?_⟩
  · exact forall_update₂ (P := fun owner client => client.clientId = owner.clientId)
      (sameId.trans (invariant.identity side)) (invariant.identity side.peer)
  · intro owner transfer bytes announced member
    rcases List.mem_append.mp member with old | new
    · exact stillKnown (invariant.began owner transfer bytes announced old)
    · rcases List.mem_cons.mp new with same | inEvents
      · contradiction
      · exact absurd inEvents
          (not_began_of_effect (by simp) effect owner transfer bytes announced)
  · intro receiver transfer member owner owned
    rcases List.mem_append.mp member with old | new
    · exact stillKnown (invariant.delivered receiver transfer old owner owned)
    · rcases List.mem_cons.mp new with same | inEvents
      · obtain ⟨-, rfl⟩ := Event.delivered.inj same
        have tagged : some transfer = current :=
          (belongs side.peer).packets ⟨.ftDone, some transfer⟩ (by simp [queue])
        exact stillKnown (known transfer tagged.symm owner owned)
      · exact absurd inEvents delivered_not_mem_events
  · intro transfer same owner owned
    exact stillKnown (known transfer same owner owned)
  · rcases transferring with nothing | ⟨sender, transfer, source, path, rfl, arriving⟩
    · exact .inl nothing
    · exact .inr ⟨sender, transfer, source, path, rfl,
        arriving_delivered arriving queue effect⟩

theorem of_run
    {helloName : Side → String} {actions : List Action} {outputs : List Event}
    {final : List Event × Session}
    (run : SessionRun helloName Acknowledged actions outputs final) :
    ArrivalInvariant final.1 final.2 := by
  have holds := run.history_invariant ArrivalInvariant (initial helloName)
    (fun {history state input next fresh} invariant allowed stepped => by
      cases effect_of_step stepped with
      | taken side input following calls possible effect =>
          exact invariant.step_taken allowed possible effect
      | delivered side outcome packet rest following queue isOpen effect =>
          exact invariant.step_delivered queue effect)
  rw [holds.1]
  exact holds.2

end ArrivalInvariant

/-- **Sender success means the file arrived.** Take any run of two clients, with
rejects, cancels, write errors and a channel that closes at any moment, in which
a send begins only in a quiet session and the loop takes its success branch only
after the receiver's `ft_done` has been delivered. Whenever the next action
reports a success for a transfer to its sender, the receiver has written all
announced bytes and they equal the source. -/
theorem sender_success_means_arrival
    {helloName : Side → String} {actions : List Action} {outputs : List Event}
    {past : List Event × Session}
    (run : SessionRun helloName Acknowledged actions outputs past) (action : Action) :
    SuccessMeansArrival past action :=
  (ArrivalInvariant.of_run run).success_means_arrival action

/-- The accept arrives and the loop hands the whole file to the channel. -/
def handedOver : List Action :=
  acceptedOnce ++ .deliver .A .written ::
    List.replicate 8 (.take .A (.runFile ⟨0, 2, false, true⟩))

/-- The receiver writes the chunk and its `ft_done` arrives before the loop goes
on; the main queue comes to the cleanup that reports success. -/
def acknowledgedFirst : List Action :=
  handedOver ++
    [.deliver .B .written, .deliver .A .written, .take .A .runMain, .take .A .runMain]

theorem sender_success_means_arrival_acknowledged :
    ∃ outputs past,
      SessionRun (fun _ => "mac#001") Acknowledged acknowledgedFirst outputs past ∧
      (past.2 .A).mainQueue = [.cleanup none ⟨some ⟨0, 0⟩, true, 1⟩] ∧
      SuccessMeansArrival past (.take .A .runMain) := by
  obtain ⟨past, outputs, run, checked⟩ :
      ∃ past outputs,
        SessionRun (fun _ => "mac#001") Acknowledged acknowledgedFirst outputs past ∧
        decide ((past.2 .A).mainQueue = [.cleanup none ⟨some ⟨0, 0⟩, true, 1⟩]) = true :=
    Machine.run_of_exec_any (fun (past : List Event × Session) _ =>
      decide ((past.2 .A).mainQueue = [.cleanup none ⟨some ⟨0, 0⟩, true, 1⟩]))
      (by decide)
  exact ⟨outputs, past, run, of_decide_eq_true checked,
    sender_success_means_arrival run _⟩

/-- The loop does not wait: it ends, and the main queue comes to the cleanup that
reports success while the chunk is still on its way. -/
def reportedFirst : List Action :=
  handedOver ++ List.replicate 8 (.take .A (.runFile ⟨0, 2, false, true⟩)) ++
    List.replicate 3 (.take .A .runMain)

/-- Success is about to be reported for a file of which the receiver has
nothing. -/
theorem sender_success_before_arrival :
    ∃ outputs past,
      SessionRun (fun _ => "mac#001") Machine.free reportedFirst outputs past ∧
      ¬ SuccessMeansArrival past (.take .A .runMain) := by
  obtain ⟨past, outputs, run, checked⟩ :
      ∃ past outputs,
        SessionRun (fun _ => "mac#001") Machine.free reportedFirst outputs past ∧
        decide ((past.2 .A).mainQueue = [.cleanup none ⟨some ⟨0, 0⟩, false, 1⟩] ∧
          .began .A ⟨0, 0⟩ [1, 2] 2 ∈ past.1 ∧
          ∀ event ∈ past.1, ∀ path ∈ openedPath event, (past.2 .B).disk path = []) = true :=
    Machine.run_of_exec_any (fun (past : List Event × Session) _ =>
      decide ((past.2 .A).mainQueue = [.cleanup none ⟨some ⟨0, 0⟩, false, 1⟩] ∧
        .began .A ⟨0, 0⟩ [1, 2] 2 ∈ past.1 ∧
        ∀ event ∈ past.1, ∀ path ∈ openedPath event, (past.2 .B).disk path = []))
      (by decide)
  obtain ⟨queue, began, nothing⟩ := of_decide_eq_true checked
  refine ⟨outputs, past, run, ?_⟩
  intro arrives
  obtain ⟨-, arrived⟩ := arrives _ _ queue ⟨0, 0⟩ rfl (.inl rfl)
  obtain ⟨-, path, opened, whole⟩ := arrived [1, 2] 2 began
  have empty : (past.2 Side.A.peer).disk path = [] := nothing _ opened path rfl
  rw [empty] at whole
  contradiction

end Session

end WebrtcFileSender
