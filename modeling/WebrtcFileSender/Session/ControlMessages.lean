import WebrtcFileSender.Session.Serial

/-!
Contract: a control message acts only on the transfer it was sent for.

Owns: what it means for the next action of a session, the condition under which
one transfer follows the other and nothing is rejected or cancelled that is not
there, the theorem for sessions that meet it, and runs in which a late `ft_accept`
starts the wrong transfer and a stray `ft_reject` ends one.
-/

namespace WebrtcFileSender

namespace RTCClient

/-- Everything held, and the pending offer, is of `transfer`; nothing is held of no
transfer. -/
structure HoldsOnly (client : RTCClient) (transfer : Option TransferId) : Prop where
  sending : ∀ handle ∈ client.sendHandle, some handle.transfer = transfer
  receiving : ∀ handle ∈ client.recvHandle,
    handle.transfer = transfer ∧ handle.transfer.isSome = true
  offered : client.incomingFileName.isSome = true →
    client.incomingTransfer = transfer ∧ client.incomingTransfer.isSome = true

/-- There is a file being sent or received, or an offer, that `cancelFileTransfer`
is about. -/
def isEngaged (client : RTCClient) : Bool :=
  client.sendHandle.isSome || client.recvHandle.isSome || client.incomingFileName.isSome

/-- Every packet under way, and every cleanup the peer has asked for, is of `current`.
Where that is no transfer, nothing is offered. -/
structure Assigned (client : RTCClient) (current : Option TransferId) : Prop where
  packets : ∀ packet ∈ client.outgoing,
    packet.isHello = true ∨ packet.transfer = current
  cleanups : ∀ error request, .cleanup error request ∈ client.mainQueue →
    request.byPeer = true → request.transfer = current
  notReceiving : current = none → client.recvHandle = none
  notOffered : current = none → client.incomingFileName = none
  noOffer : current = none → ∀ name size chunk,
    ⟨.ftOffer name size chunk, none⟩ ∉ client.outgoing

variable {client next : RTCClient} {input : Input} {calls : List DelegateCall}
variable {current : Option TransferId}

theorem BelongsTo.holdsOnly
    (belongs : client.BelongsTo current) (assigned : client.Assigned current) :
    client.HoldsOnly current := by
  cases current with
  | none =>
      have notReceiving := assigned.notReceiving rfl
      have notOffered := assigned.notOffered rfl
      exact ⟨belongs.sending, by simp [notReceiving], by simp [notOffered]⟩
  | some transfer =>
      constructor
      case sending => exact belongs.sending
      case receiving =>
        intro handle receiving
        have same := belongs.receiving handle receiving
        exact ⟨same, by rw [same]; rfl⟩
      case offered =>
        intro pending
        have same := belongs.offered pending
        exact ⟨same, by rw [same]; rfl⟩

theorem BelongsTo.currentTransfer_of_engaged
    (belongs : client.BelongsTo current)
    (engaged : client.isEngaged = true ∨ current = none) :
    client.currentTransfer = current := by
  rcases belongs.currentTransfer with unheld | same
  · rcases engaged with engaged | isNone
    · unfold RTCClient.currentTransfer at unheld ⊢
      cases sending : client.sendHandle with
      | some handle => exact belongs.sending handle sending
      | none =>
          cases receiving : client.recvHandle with
          | some handle => exact belongs.receiving handle receiving
          | none =>
              apply belongs.offered
              simpa [isEngaged, sending, receiving] using engaged
    · rw [unheld, isNone]
  · exact same

theorem BelongsTo.incomingTransfer_of_offered
    (belongs : client.BelongsTo current)
    (pending : client.incomingFileName.isSome = true ∨ current = none) :
    client.incomingTransfer = current := by
  rcases pending with pending | isNone
  · exact belongs.offered pending
  · rcases belongs.incomingTransfer with unheld | same
    · rw [unheld, isNone]
    · exact same

namespace Assigned

theorem initial (clientId : Nat) (helloName : String) :
    (RTCClient.initial clientId helloName).Assigned none where
  packets := by simp [RTCClient.initial]
  cleanups := by simp [RTCClient.initial]
  notReceiving := by simp [RTCClient.initial]
  notOffered := by simp [RTCClient.initial]
  noOffer := by simp [RTCClient.initial]

/-- A quiet client has nothing that could be of another transfer. -/
theorem of_quiet (isQuiet : client.quiet = true) (other : Option TransferId) :
    client.Assigned other := by
  obtain ⟨-, notReceiving, notOffered, settled, -, greetings⟩ := quiet_spec isQuiet
  constructor
  case packets =>
    intro packet member
    exact .inl (greetings packet member)
  case cleanups =>
    intro error request member
    exact absurd member (not_mem_of_noCleanupPending settled error request)
  case notReceiving => exact fun _ => notReceiving
  case notOffered => exact fun _ => notOffered
  case noOffer =>
    intro _ name size chunk member
    have greets := greetings _ member
    contradiction

/-- What an input emits is of `current`. -/
theorem emits
    (belongs : client.BelongsTo current)
    (received : ∀ packet outcome, input = .receive packet outcome →
      packet.isHello = true ∨ packet.transfer = current)
    (notBegun : ∀ fileURL, input = .sendFileAtURL fileURL →
      client.sendSucceeds fileURL = false)
    (engaged : input = .cancelFileTransfer → client.isEngaged = true ∨ current = none)
    (pending : ∀ reason, input = .rejectIncomingFileWithReason reason →
      client.incomingFileName.isSome = true ∨ current = none)
    {packet : Packet} (emits : Emits client input packet) :
    packet.isHello = true ∨ packet.transfer = current := by
  cases emits with
  | hello => exact .inl rfl
  | offer fileURL name size succeeds =>
      have fails := notBegun fileURL rfl
      rw [succeeds] at fails
      contradiction
  | cancel => exact .inr (belongs.currentTransfer_of_engaged (engaged rfl))
  | reject reason => exact .inr (belongs.incomingTransfer_of_offered (pending reason rfl))
  | accept destination accepts | unopened destination accepts =>
      simp only [canAccept, Bool.and_eq_true] at accepts
      exact .inr (belongs.offered accepts.1.1)
  | busy name size chunk transfer outcome =>
      have tagged := received ⟨.ftOffer name size chunk, transfer⟩ outcome rfl
      exact .inr (tagged.resolve_left (by simp [Packet.isHello]))
  | received data transfer handle receiving =>
      exact .inr (belongs.receiving handle receiving)
  | chunk given loop rest chunk retries queue atPoint =>
      have holds := (belongs.loops loop (by simp [queue])).2
      refine .inr (holds chunk ?_)
      rw [atPoint]
      rfl
  | done given loop rest queue => exact .inr (belongs.loops loop (by simp [queue])).1

/-- Without a current transfer no offer is there to be accepted. -/
theorem unheld_of_effect
    (assigned : client.Assigned none)
    (notOffer : ∀ name size chunk transfer outcome,
      input ≠ .receive ⟨.ftOffer name size chunk, transfer⟩ outcome)
    (effect : Effect client input next calls) :
    next.recvHandle = none ∧ next.incomingFileName = none := by
  have notReceiving := assigned.notReceiving rfl
  have notOffered := assigned.notOffered rfl
  cases effect with
  | accepted destination accepts | unopened destination error accepts =>
      simp [canAccept, notOffered] at accepts
  | offered name size chunk transfer outcome | busy name size chunk transfer outcome =>
      exact absurd rfl (notOffer name size chunk transfer outcome)
  | writeFailed data transfer reason handle receiving
  | stored data transfer handle receiving | completed data transfer handle receiving =>
      rw [notReceiving] at receiving
      contradiction
  | began =>
      rw [beginSending_eq]
      exact ⟨notReceiving, notOffered⟩
  | cancelled =>
      rw [cancelFileTransfer_eq]
      exact ⟨notReceiving, notOffered⟩
  | rejected =>
      rw [rejectIncomingFileWithReason_eq]
      exact ⟨notReceiving, notOffered⟩
  | cleaned => exact ⟨rfl, rfl⟩
  | looped given loop =>
      obtain ⟨handle, sent, packets, blocks, result, -⟩ :=
        client.loopStatement_change loop.transfer given loop.point
      rw [result]
      exact ⟨notReceiving, notOffered⟩
  | channelChanged state =>
      obtain ⟨outgoing, result⟩ := client.dataChannelDidChangeState_eq state
      rw [result]
      exact ⟨notReceiving, notOffered⟩
  | greeted | started | ended | transmitted | reported | iceLost | iceIdle | iceChanged
  | nothing => exact ⟨notReceiving, notOffered⟩

theorem effect
    (belongs : client.BelongsTo current)
    (assigned : client.Assigned current)
    (received : ∀ packet outcome, input = .receive packet outcome →
      packet.isHello = true ∨ packet.transfer = current)
    (notOffer : current = none → ∀ name size chunk transfer outcome,
      input ≠ .receive ⟨.ftOffer name size chunk, transfer⟩ outcome)
    (notBegun : ∀ fileURL, input = .sendFileAtURL fileURL →
      client.sendSucceeds fileURL = false)
    (engaged : input = .cancelFileTransfer → client.isEngaged = true ∨ current = none)
    (pending : ∀ reason, input = .rejectIncomingFileWithReason reason →
      client.incomingFileName.isSome = true ∨ current = none)
    (effect : Effect client input next calls) :
    next.Assigned current := by
  constructor
  case packets =>
    intro packet member
    rcases mem_outgoing_of_effect effect member with old | emitted
    · exact assigned.packets packet old
    · exact emits belongs received notBegun engaged pending emitted
  case cleanups =>
    intro error request member byPeer
    rcases mem_mainQueue_of_effect effect member with old | requests
    · exact assigned.cleanups error request old byPeer
    · cases requests with
      | ended message transfer outcome error ends =>
          have tagged := received ⟨message, transfer⟩ outcome rfl
          apply tagged.resolve_left
          cases message with
          | hello => contradiction
          | ftOffer | ftAccept | ftReject | ftCancel | ftDone | binary =>
              simp [Packet.isHello]
      | cancel | reject | unopened | writeFailed | received | iceLost | finish => contradiction
  case notReceiving =>
    rintro rfl
    exact (assigned.unheld_of_effect (notOffer rfl) effect).1
  case notOffered =>
    rintro rfl
    exact (assigned.unheld_of_effect (notOffer rfl) effect).2
  case noOffer =>
    rintro rfl name size chunk member
    rcases mem_outgoing_of_effect effect member with old | emitted
    · exact assigned.noOffer rfl name size chunk old
    · cases emitted

end Assigned

end RTCClient

namespace Session

/-- What the next action does on behalf of a control message stays with the transfer
for which the peer emitted that message, if there is one. An `ft_accept` starts the
loop of that transfer only; `ft_reject`, `ft_cancel` and `ft_done` change nothing when
they arrive, and the cleanup each requests closes, clears and reports that transfer
only. A chunk is sent only when the peer has accepted its very offer. -/
def ActsOnOwnTransfer (past : List Event × Session) : Action → Prop
  | .deliver side _ =>
      ∀ emittedFor rest,
        (past.2 side.peer).outgoing = ⟨.ftAccept, emittedFor⟩ :: rest →
        ∀ handle ∈ (past.2 side).sendHandle, some handle.transfer = emittedFor
  | .take side .runMain =>
      ∀ error emittedFor stamp rest,
        (past.2 side).mainQueue = .cleanup error ⟨emittedFor, true, stamp⟩ :: rest →
        (past.2 side).HoldsOnly emittedFor
  | .take side (.runFile _) =>
      ∀ loop rest chunk retries,
        (past.2 side).fileQueue = loop :: rest → loop.point = .retrySend chunk retries →
        Accepted past.1 side.peer (some chunk.transfer)
  | _ => True

/-- The condition on an action: a send begins only in a quiet session, and a cancel or
a reject has something to cancel or to reject, or meets a quiet session. -/
def SerialEngaged (past : List Event × Session) : Action → Prop
  | .take side .cancelFileTransfer =>
      (past.2 side).isEngaged = true ∨ quiet past.2 = true
  | .take side (.rejectIncomingFileWithReason _) =>
      (past.2 side).incomingFileName.isSome = true ∨ quiet past.2 = true
  | action => Serial past action

instance (past : List Event × Session) :
    (action : Action) → Decidable (SerialEngaged past action)
  | .take side .cancelFileTransfer =>
      inferInstanceAs (Decidable ((past.2 side).isEngaged = true ∨ quiet past.2 = true))
  | .take side (.rejectIncomingFileWithReason _) =>
      inferInstanceAs (Decidable
        ((past.2 side).incomingFileName.isSome = true ∨ quiet past.2 = true))
  | .take side (.sendFileAtURL fileURL) =>
      inferInstanceAs (Decidable (Serial past (.take side (.sendFileAtURL fileURL))))
  | .take _ (.acceptIncomingFileToURL _) | .take _ (.receive _ _) | .take _ .transmit
  | .take _ .runMain | .take _ (.runFile _) | .take _ (.iceConnectionState _)
  | .take _ (.dataChannelState _) | .deliver _ _ => .isTrue trivial

theorem SerialEngaged.serial {past : List Event × Session} {action : Action}
    (engaged : SerialEngaged past action) : Serial past action := by
  match action with
  | .take _ (.sendFileAtURL _) => exact engaged
  | .take _ .cancelFileTransfer | .take _ (.rejectIncomingFileWithReason _)
  | .take _ (.acceptIncomingFileToURL _) | .take _ (.receive _ _) | .take _ .transmit
  | .take _ .runMain | .take _ (.runFile _) | .take _ (.iceConnectionState _)
  | .take _ (.dataChannelState _) | .deliver _ _ => trivial

/-- One transfer, or none, that all of the session belongs to and every message in it
was emitted for. -/
def OfOneTransfer (session : Session) : Prop :=
  ∃ current, ∀ side,
    (session side).BelongsTo current ∧ (session side).Assigned current

namespace OfOneTransfer

variable {history : List Event} {session following : Session} {action : Action}
variable {fresh : List Event}

theorem initial (helloName : Side → String) :
    OfOneTransfer (Session.initial helloName) :=
  ⟨none, fun side => ⟨.initial side.clientId (helloName side),
    .initial side.clientId (helloName side)⟩⟩

/-- In a quiet session the transfer may be chosen anew; a cancel or a reject with
nothing behind it is then of none. -/
theorem chosen {side : Side} {input : RTCClient.Input}
    (ofOne : OfOneTransfer session)
    (allowed : SerialEngaged (history, session) (.take side input)) :
    ∃ current,
      (∀ other, (session other).BelongsTo current ∧ (session other).Assigned current) ∧
      (input = .cancelFileTransfer →
        (session side).isEngaged = true ∨ current = none) ∧
      (∀ reason, input = .rejectIncomingFileWithReason reason →
        (session side).incomingFileName.isSome = true ∨ current = none) := by
  obtain ⟨current, held⟩ := ofOne
  by_cases isQuiet : quiet session = true
  · refine ⟨none, ?_, fun _ => .inr rfl, fun _ _ => .inr rfl⟩
    intro other
    have quietSide := quiet_side isQuiet other
    exact ⟨(held other).1.of_quiet quietSide none, .of_quiet quietSide none⟩
  · refine ⟨current, held, ?_, ?_⟩
    · rintro rfl
      exact .inl (allowed.resolve_right isQuiet)
    · rintro reason rfl
      exact .inl (allowed.resolve_right isQuiet)

/-- A send that begins in a quiet session gives the session to its transfer. -/
theorem begun {side : Side}
    (ofOne : OfOneTransfer session) (isQuiet : quiet session = true)
    (fileURL : FileURL) (file : File) :
    OfOneTransfer
      (Function.update session side ((session side).beginSending fileURL file)) := by
  obtain ⟨current, held⟩ := ofOne
  refine ⟨some ⟨(session side).clientId, (session side).begun⟩, fun other =>
    ⟨belongs_begun (fun other => (held other).1) isQuiet fileURL file other, ?_⟩⟩
  revert other
  have ofTransfer := RTCClient.Assigned.of_quiet (quiet_side isQuiet side)
    (some ⟨(session side).clientId, (session side).begun⟩)
  apply forall_update (P := fun _ (client : RTCClient) => client.Assigned _)
  · rw [RTCClient.beginSending_eq]
    constructor
    case packets =>
      intro packet member
      rcases RTCClient.queued_cases _ _ with appended | unchanged
      · rw [appended] at member
        rcases List.mem_append.mp member with old | new
        · exact ofTransfer.packets packet old
        · rw [List.mem_singleton.mp new]
          exact .inr rfl
      · rw [unchanged] at member
        exact ofTransfer.packets packet member
    case cleanups => exact ofTransfer.cleanups
    case notReceiving | notOffered | noOffer => exact fun isNone => by contradiction
  · exact .of_quiet (quiet_side isQuiet side.peer) _

theorem step
    (ofOne : OfOneTransfer session)
    (allowed : SerialEngaged (history, session) action)
    (effect : Effect session action following fresh) :
    OfOneTransfer following := by
  cases effect with
  | taken side input next calls possible effect =>
      by_cases begins : ∃ fileURL, input = .sendFileAtURL fileURL ∧
          (session side).sendSucceeds fileURL = true
      · obtain ⟨fileURL, rfl, succeeds⟩ := begins
        obtain ⟨file, -, -, -, rfl⟩ := RTCClient.beginSending_of_succeeds succeeds effect
        exact ofOne.begun (allowed succeeds) fileURL file
      · have notBegun : ∀ fileURL, input = .sendFileAtURL fileURL →
            (session side).sendSucceeds fileURL = false := by
          intro fileURL same
          exact Bool.eq_false_iff.mpr fun succeeds => begins ⟨fileURL, same, succeeds⟩
        obtain ⟨current, held, engaged, pending⟩ := ofOne.chosen allowed
        have belongs := belongs_taken (fun other => (held other).1) possible notBegun effect
        refine ⟨current, fun other => ⟨belongs other, ?_⟩⟩
        revert other
        apply forall_update (P := fun _ (client : RTCClient) => client.Assigned current)
          ?_ (held side.peer).2
        refine (held side).2.effect (held side).1 ?_ ?_ notBegun engaged pending effect
        · rintro packet outcome rfl
          exact absurd possible id
        · rintro - name size chunk transfer outcome rfl
          exact absurd possible id
  | delivered side outcome packet rest next queue isOpen effect =>
      obtain ⟨current, held⟩ := ofOne
      have inFlight : packet ∈ (session side.peer).outgoing := by
        rw [queue]
        exact List.mem_cons_self
      have tagged := (held side.peer).2.packets packet inFlight
      have belongs := belongs_delivered (fun other => (held other).1) queue effect
      refine ⟨current, fun other => ⟨belongs other, ?_⟩⟩
      revert other
      apply forall_update₂ (P := fun _ (client : RTCClient) => client.Assigned current)
      · refine (held side).2.effect (held side).1 ?_ ?_ (by simp) (by simp) (by simp) effect
        · intro other result same
          obtain ⟨rfl, rfl⟩ := RTCClient.Input.receive.inj same
          exact tagged
        · rintro rfl name size chunk transfer result same
          obtain ⟨rfl, rfl⟩ := RTCClient.Input.receive.inj same
          have unlabelled : transfer = none :=
            tagged.resolve_left (by simp [Packet.isHello])
          rw [unlabelled] at inFlight
          exact (held side.peer).2.noOffer rfl name size chunk inFlight
      · obtain ⟨packets, cleanups, notReceiving, notOffered, noOffer⟩ := (held side.peer).2
        rw [queue] at packets noOffer
        exact ⟨fun other member => packets other (List.mem_cons_of_mem _ member), cleanups,
          notReceiving, notOffered, fun isNone name size chunk member =>
            noOffer isNone name size chunk (List.mem_cons_of_mem _ member)⟩

theorem of_run
    {helloName : Side → String} {actions : List Action} {outputs : List Event}
    {final : List Event × Session}
    (run : SessionRun helloName SerialEngaged actions outputs final) :
    OfOneTransfer final.2 := by
  have holds := run.history_invariant (fun _ session => OfOneTransfer session)
    (initial helloName)
    (fun ofOne allowed stepped => ofOne.step allowed (effect_of_step stepped))
  exact holds.2

end OfOneTransfer

theorem acts_on_own_transfer
    {history : List Event} {session : Session}
    (serial : SerialInvariant history session) (ofOne : OfOneTransfer session)
    (action : Action) :
    ActsOnOwnTransfer (history, session) action := by
  obtain ⟨current, held⟩ := ofOne
  match action with
  | .deliver side outcome =>
      intro emittedFor rest queue handle sending
      dsimp only at queue
      have tagged := (held side.peer).2.packets ⟨.ftAccept, emittedFor⟩ (by simp [queue])
      have ofCurrent : emittedFor = current :=
        tagged.resolve_left (by simp [Packet.isHello])
      exact ((held side).1.sending handle sending).trans ofCurrent.symm
  | .take side .runMain =>
      intro error emittedFor stamp rest queue
      dsimp only at queue
      have ofCurrent : emittedFor = current :=
        (held side).2.cleanups error ⟨emittedFor, true, stamp⟩ (by simp [queue]) rfl
      rw [ofCurrent]
      exact (held side).1.holdsOnly (held side).2
  | .take side (.runFile _) =>
      intro loop rest chunk retries queue atPoint
      have member : loop ∈ (session side).fileQueue := by
        rw [queue]
        exact List.mem_cons_self
      obtain ⟨loopTagged, chunkTagged⟩ := (held side).1.loops loop member
      have same : some chunk.transfer = some loop.transfer := by
        rw [loopTagged]
        apply chunkTagged
        rw [atPoint]
        rfl
      rw [same]
      exact serial.loops side loop member
  | .take _ (.sendFileAtURL _) | .take _ .cancelFileTransfer
  | .take _ (.acceptIncomingFileToURL _) | .take _ (.rejectIncomingFileWithReason _)
  | .take _ (.receive _ _) | .take _ .transmit | .take _ (.iceConnectionState _)
  | .take _ (.dataChannelState _) => trivial

/-- **Control messages act on their own transfer.** Take any run of two clients,
with any number of transfers in either direction, in which a send begins only when
the session is quiet, and a client rejects or cancels only what is there or while the
session is quiet. In every state it reaches, whatever happens next stays with the
transfer it was meant for. -/
theorem control_messages_act_on_own_transfer
    {helloName : Side → String} {actions : List Action} {outputs : List Event}
    {past : List Event × Session}
    (run : SessionRun helloName SerialEngaged actions outputs past) (action : Action) :
    ActsOnOwnTransfer past action :=
  acts_on_own_transfer (.of_run (run.mono fun _ _ allowed => allowed.serial))
    (.of_run run) action

/-- Both ends open the channel and greet each other. -/
def greeted : List Action :=
  [.take .A (.dataChannelState .Open), .take .B (.dataChannelState .Open),
    .deliver .A .written, .deliver .B .written]

/-- The offer reaches the peer, who accepts it. -/
def acceptedOnce : List Action :=
  greeted ++
    [.take .A (.sendFileAtURL (.ofFile "notes.txt" ⟨[1, 2], File.bounded_notes⟩)),
      .deliver .B .written,
      .take .B (.acceptIncomingFileToURL ⟨"/Downloads/notes.txt", none⟩)]

theorem control_messages_act_on_own_transfer_accepted :
    ∃ outputs past,
      SessionRun (fun _ => "mac#001") SerialEngaged acceptedOnce outputs past ∧
      (past.2 .B).outgoing = [⟨.ftAccept, some ⟨0, 0⟩⟩] ∧
      ActsOnOwnTransfer past (.deliver .A .written) := by
  obtain ⟨past, outputs, run, checked⟩ :
      ∃ past outputs,
        SessionRun (fun _ => "mac#001") SerialEngaged acceptedOnce outputs past ∧
        decide ((past.2 .B).outgoing = [⟨.ftAccept, some ⟨0, 0⟩⟩]) = true :=
    Machine.run_of_exec_any (fun (past : List Event × Session) _ =>
      decide ((past.2 .B).outgoing = [⟨.ftAccept, some ⟨0, 0⟩⟩]))
      (by decide)
  exact ⟨outputs, past, run, of_decide_eq_true checked,
    control_messages_act_on_own_transfer run _⟩

/-- The accept is still on its way when the sender cancels, and a second send
begins as soon as the cleanup has run. -/
def cancelledBeforeAccept : List Action :=
  acceptedOnce ++
    [.take .A .cancelFileTransfer,
      .take .A .runMain, .take .A .runMain, .take .A .runMain,
      .take .A (.sendFileAtURL (.ofFile "secret.txt" ⟨[7], File.bounded_secret⟩))]

/-- The first transfer is over at both ends and a second send has begun, when the peer
closes the panel of the first. -/
def rejectedLate : List Action :=
  greeted ++
    [.take .A (.sendFileAtURL (.ofFile "notes.txt" ⟨[1, 2], File.bounded_notes⟩)),
      .deliver .B .written, .take .A .cancelFileTransfer, .deliver .B .written,
      .take .A .runMain, .take .A .runMain, .take .A .runMain,
      .take .B .runMain, .take .B .runMain, .take .B .runMain, .take .B .runMain,
      .take .A (.sendFileAtURL (.ofFile "secret.txt" ⟨[7], File.bounded_secret⟩)),
      .take .B (.rejectIncomingFileWithReason "User cancelled save dialog"),
      .deliver .A .written]

/-- The `ft_accept` emitted for the first transfer is about to start the second,
whose offer the peer has not even seen. An `ft_reject` that is emitted for nothing is
about to end a transfer, although each send has begun in a quiet session. -/
theorem control_message_acts_on_other_transfer :
    (∃ outputs past,
      SessionRun (fun _ => "mac#001") Machine.free cancelledBeforeAccept outputs past ∧
      ¬ ActsOnOwnTransfer past (.deliver .A .written)) ∧
    ∃ outputs past,
      SessionRun (fun _ => "mac#001") Serial rejectedLate outputs past ∧
      ¬ ActsOnOwnTransfer past (.take .A .runMain) := by
  constructor
  · obtain ⟨past, outputs, run, checked⟩ :
        ∃ past outputs,
          SessionRun (fun _ => "mac#001") Machine.free cancelledBeforeAccept outputs past ∧
          decide ((past.2 .B).outgoing = [⟨.ftAccept, some ⟨0, 0⟩⟩] ∧
            (past.2 .A).sendHandle.map ReadHandle.transfer = some ⟨0, 1⟩) = true :=
      Machine.run_of_exec_any (fun (past : List Event × Session) _ =>
        decide ((past.2 .B).outgoing = [⟨.ftAccept, some ⟨0, 0⟩⟩] ∧
          (past.2 .A).sendHandle.map ReadHandle.transfer = some ⟨0, 1⟩))
        (by decide)
    obtain ⟨queue, sending⟩ := of_decide_eq_true checked
    obtain ⟨handle, holds, sameTransfer⟩ := Option.map_eq_some_iff.mp sending
    refine ⟨outputs, past, run, ?_⟩
    intro acts
    have same := acts (some ⟨0, 0⟩) [] queue handle holds
    rw [sameTransfer] at same
    contradiction
  · obtain ⟨past, outputs, run, checked⟩ :
        ∃ past outputs,
          SessionRun (fun _ => "mac#001") Serial rejectedLate outputs past ∧
          decide ((past.2 .A).mainQueue =
              [.cleanup (some (rtcError 13 "User cancelled save dialog")) ⟨none, true, 2⟩] ∧
            (past.2 .A).sendHandle.map ReadHandle.transfer = some ⟨0, 1⟩) = true :=
      Machine.run_of_exec_any (fun (past : List Event × Session) _ =>
        decide ((past.2 .A).mainQueue =
            [.cleanup (some (rtcError 13 "User cancelled save dialog")) ⟨none, true, 2⟩] ∧
          (past.2 .A).sendHandle.map ReadHandle.transfer = some ⟨0, 1⟩))
        (by decide)
    obtain ⟨queue, sending⟩ := of_decide_eq_true checked
    obtain ⟨handle, holds, -⟩ := Option.map_eq_some_iff.mp sending
    refine ⟨outputs, past, run, ?_⟩
    intro acts
    have same := (acts _ none 2 [] queue).sending handle holds
    contradiction

end Session

end WebrtcFileSender
