import WebrtcFileSender.Session.System

/-!
Contract: one transfer at a time.

Control messages carry no transfer identifier. Between two clients they can
only be told apart by time: a send that begins while anything of an earlier
transfer is still around meets the messages and cleanups of that transfer.

Owns: the quiet states of a session, the condition that a send begins only in a
quiet state, and the invariant that under it everything around belongs to one
transfer; from it, that control messages act only on the transfer they were sent
for and chunks are sent only for an accepted offer.
-/

namespace WebrtcFileSender

/-- The packet was emitted for `current`. Only a reject or a cancel may be
emitted by a client that has nothing to reject or to cancel. -/
def Packet.BelongsTo (current : Option TransferId) (packet : Packet) : Prop :=
  match packet.message with
  | .hello _ _ _ => True
  | .ftReject _ | .ftCancel => packet.transfer = none ∨ packet.transfer = current
  | .ftOffer _ _ _ | .ftAccept | .ftDone | .binary _ => packet.transfer = current

/-- The packet is not about a transfer. -/
def Packet.isHello (packet : Packet) : Bool :=
  match packet.message with
  | .hello _ _ _ => true
  | _ => false

theorem Packet.exists_of_isHello {packet : Packet} (greets : packet.isHello = true) :
    ∃ name ip role transfer, packet = ⟨.hello name ip role, transfer⟩ := by
  obtain ⟨message, transfer⟩ := packet
  cases message with
  | hello name ip role => exact ⟨name, ip, role, transfer, rfl⟩
  | ftOffer | ftAccept | ftReject | ftCancel | ftDone | binary => contradiction

theorem Packet.belongsTo_of_isHello {packet : Packet} (greets : packet.isHello = true)
    (current : Option TransferId) : packet.BelongsTo current := by
  obtain ⟨name, ip, role, transfer, rfl⟩ := Packet.exists_of_isHello greets
  trivial

namespace RTCClient

/-- Nothing is held, deferred or under way. -/
def quiet (client : RTCClient) : Bool :=
  client.sendHandle.isNone && client.recvHandle.isNone && client.incomingFileName.isNone &&
    client.noCleanupPending && client.fileQueue.isEmpty && client.outgoing.all Packet.isHello

theorem quiet_spec {client : RTCClient} (isQuiet : client.quiet = true) :
    client.sendHandle = none ∧ client.recvHandle = none ∧ client.incomingFileName = none ∧
      client.noCleanupPending = true ∧ client.fileQueue = [] ∧
      ∀ packet ∈ client.outgoing, packet.isHello = true := by
  simp only [quiet, Bool.and_eq_true, Option.isNone_iff_eq_none, List.isEmpty_iff,
    List.all_eq_true] at isQuiet
  obtain ⟨⟨⟨⟨⟨notSending, notReceiving⟩, notOffered⟩, settled⟩, noLoop⟩, greetings⟩ := isQuiet
  exact ⟨notSending, notReceiving, notOffered, settled, noLoop, greetings⟩

/-- Whatever the client holds, has queued or has under way is of `current`. -/
structure BelongsTo (client : RTCClient) (current : Option TransferId) : Prop where
  sending : ∀ handle ∈ client.sendHandle, some handle.transfer = current
  receiving : ∀ handle ∈ client.recvHandle, handle.transfer = current
  offered : client.incomingFileName.isSome = true → client.incomingTransfer = current
  notOffered : client.incomingFileName = none → client.incomingTransfer = none
  packets : ∀ packet ∈ client.outgoing, packet.BelongsTo current
  cleanups : ∀ error request, .cleanup error request ∈ client.mainQueue →
    request.transfer = none ∨ request.transfer = current
  loops : ∀ loop ∈ client.fileQueue, some loop.transfer = current ∧
    ∀ chunk ∈ loop.point.chunk?, some chunk.transfer = current

variable {client next : RTCClient} {input : Input} {calls : List DelegateCall}
variable {current : Option TransferId}

namespace BelongsTo

theorem initial (clientId : Nat) (helloName : String) :
    (RTCClient.initial clientId helloName).BelongsTo none where
  sending := by simp [RTCClient.initial]
  receiving := by simp [RTCClient.initial]
  offered := by simp [RTCClient.initial]
  notOffered := by simp [RTCClient.initial]
  packets := by simp [RTCClient.initial]
  cleanups := by simp [RTCClient.initial]
  loops := by simp [RTCClient.initial]

/-- A quiet client belongs to any transfer. -/
theorem of_quiet
    (belongs : client.BelongsTo current)
    (isQuiet : client.quiet = true) (other : Option TransferId) :
    client.BelongsTo other := by
  obtain ⟨notSending, notReceiving, notOffered, settled, noLoop, greetings⟩ :=
    quiet_spec isQuiet
  refine ⟨by simp [notSending], by simp [notReceiving], by simp [notOffered],
    belongs.notOffered, ?_, ?_, by simp [noLoop]⟩
  · intro packet member
    exact Packet.belongsTo_of_isHello (greetings packet member) other
  · intro error request member
    exact absurd member (not_mem_of_noCleanupPending settled error request)

theorem incomingTransfer
    (belongs : client.BelongsTo current) :
    client.incomingTransfer = none ∨ client.incomingTransfer = current := by
  cases named : client.incomingFileName with
  | none => exact .inl (belongs.notOffered named)
  | some name => exact .inr (belongs.offered (by simp [named]))

theorem currentTransfer
    (belongs : client.BelongsTo current) :
    client.currentTransfer = none ∨ client.currentTransfer = current := by
  unfold RTCClient.currentTransfer
  cases sending : client.sendHandle with
  | some handle => exact .inr (belongs.sending handle sending)
  | none =>
      cases receiving : client.recvHandle with
      | some handle => exact .inr (belongs.receiving handle receiving)
      | none => exact belongs.incomingTransfer

theorem emits
    (belongs : client.BelongsTo current)
    (received : ∀ packet outcome, input = .receive packet outcome → packet.BelongsTo current)
    (notBegun : ∀ fileURL, input = .sendFileAtURL fileURL →
      client.sendSucceeds fileURL = false)
    {packet : Packet} (emits : Emits client input packet) :
    packet.BelongsTo current := by
  cases emits with
  | offer fileURL name size succeeds =>
      have fails := notBegun fileURL rfl
      rw [succeeds] at fails
      contradiction
  | cancel => exact belongs.currentTransfer
  | reject | unopened => exact belongs.incomingTransfer
  | accept destination accepts =>
      simp only [canAccept, Bool.and_eq_true] at accepts
      exact belongs.offered accepts.1.1
  | busy name size chunk transfer outcome =>
      exact .inr (received ⟨.ftOffer name size chunk, transfer⟩ outcome rfl)
  | received data transfer handle receiving => exact belongs.receiving handle receiving
  | chunk given loop rest chunk retries queue atPoint =>
      have holds := (belongs.loops loop (by simp [queue])).2
      apply holds
      rw [atPoint]
      rfl
  | done given loop rest queue => exact (belongs.loops loop (by simp [queue])).1
  | hello => trivial

theorem requests
    (belongs : client.BelongsTo current)
    (received : ∀ packet outcome, input = .receive packet outcome → packet.BelongsTo current)
    {error : Option NSError} {request : CleanupRequest}
    (requests : Requests client input error request) :
    request.transfer = none ∨ request.transfer = current := by
  cases requests with
  | cancel | iceLost => exact belongs.currentTransfer
  | reject | unopened => exact belongs.incomingTransfer
  | ended message transfer outcome error ends =>
      have tagged := received ⟨message, transfer⟩ outcome rfl
      cases message with
      | ftReject | ftCancel => exact tagged
      | ftDone => exact .inr tagged
      | hello | ftOffer | ftAccept | binary => contradiction
  | writeFailed data transfer reason handle receiving =>
      exact .inr (belongs.receiving handle receiving)
  | received data transfer handle receiving => exact .inr (belongs.receiving handle receiving)
  | finish given loop rest error queue =>
      exact .inr (belongs.loops loop (by simp [queue])).1

/-- The queued loops after an input: those before, one started for the handle
that is open, and the one that advanced. -/
theorem loops_of_effect
    (belongs : client.BelongsTo current)
    (effect : Effect client input next calls) :
    ∀ loop ∈ next.fileQueue, some loop.transfer = current ∧
      ∀ chunk ∈ loop.point.chunk?, some chunk.transfer = current := by
  rcases fileQueue_of_effect effect with
    same | ⟨handle, transfer, outcome, sending, -, started⟩ |
    ⟨given, head, rest, -, queue, advanced⟩
  · rw [same]
    exact belongs.loops
  · intro loop member
    rw [started] at member
    rcases List.mem_append.mp member with old | new
    · exact belongs.loops loop old
    · obtain rfl := List.mem_singleton.mp new
      exact ⟨belongs.sending handle sending, by simp [LoopPoint.chunk?]⟩
  · intro loop member
    rw [advanced] at member
    rcases mem_advanceQueue member with inRest | ⟨following, continues, rfl⟩
    · exact belongs.loops loop (by simp [queue, inRest])
    · have headHolds := belongs.loops head (by simp [queue])
      refine ⟨headHolds.1, ?_⟩
      intro chunk holds
      rcases client.loopStatement_chunk continues holds with
        before | ⟨-, handle, sending, same⟩
      · exact headHolds.2 chunk before
      · rw [same]
        exact belongs.sending handle sending

/-- Every input but a send that succeeds leaves everything with `current`, if a
packet it receives is of `current`. -/
theorem effect
    (belongs : client.BelongsTo current)
    (received : ∀ packet outcome, input = .receive packet outcome → packet.BelongsTo current)
    (notBegun : ∀ fileURL, input = .sendFileAtURL fileURL →
      client.sendSucceeds fileURL = false)
    (effect : Effect client input next calls) :
    next.BelongsTo current := by
  have packets : ∀ packet ∈ next.outgoing, packet.BelongsTo current := by
    intro packet member
    rcases mem_outgoing_of_effect effect member with old | emitted
    · exact belongs.packets packet old
    · exact belongs.emits received notBegun emitted
  have cleanups : ∀ error request, .cleanup error request ∈ next.mainQueue →
      request.transfer = none ∨ request.transfer = current := by
    intro error request member
    rcases mem_mainQueue_of_effect effect member with old | requested
    · exact belongs.cleanups error request old
    · exact belongs.requests received requested
  have loops := belongs.loops_of_effect effect
  have keep : next.sendHandle = client.sendHandle → next.recvHandle = client.recvHandle →
      next.incomingFileName = client.incomingFileName →
      next.incomingTransfer = client.incomingTransfer → next.BelongsTo current := by
    intro sameSend sameReceive sameName sameIncoming
    refine ⟨?_, ?_, ?_, ?_, packets, cleanups, loops⟩
    · rw [sameSend]
      exact belongs.sending
    · rw [sameReceive]
      exact belongs.receiving
    · rw [sameName, sameIncoming]
      exact belongs.offered
    · rw [sameName, sameIncoming]
      exact belongs.notOffered
  cases effect with
  | began fileURL file isOpen notSending notReceiving sized opened =>
      have succeeds := sendSucceeds_of_idle isOpen notSending notReceiving sized opened
      rw [notBegun fileURL rfl] at succeeds
      contradiction
  | cancelled =>
      have result := client.cancelFileTransfer_eq
      exact keep (by rw [result]) (by rw [result]) (by rw [result]) (by rw [result])
  | rejected reason =>
      have result := client.rejectIncomingFileWithReason_eq reason
      exact keep (by rw [result]) (by rw [result]) (by rw [result]) (by rw [result])
  | accepted destination accepts =>
      refine ⟨belongs.sending, ?_, belongs.offered, belongs.notOffered, packets, cleanups,
        loops⟩
      intro handle same
      obtain rfl := Option.some.inj same
      simp only [canAccept, Bool.and_eq_true] at accepts
      exact belongs.offered accepts.1.1
  | offered name size chunk transfer outcome =>
      have tagged := received ⟨.ftOffer name size chunk, transfer⟩ outcome rfl
      exact ⟨belongs.sending, belongs.receiving, fun _ => tagged, by simp, packets, cleanups,
        loops⟩
  | cleaned =>
      exact ⟨by simp [resetTransfer], by simp [resetTransfer], by simp [resetTransfer],
        by simp [resetTransfer], packets, cleanups, loops⟩
  | looped given loop rest queue =>
      obtain ⟨handle, sent, sentPackets, blocks, result, change⟩ :=
        client.loopStatement_change loop.transfer given loop.point
      refine ⟨?_, ?_, ?_, ?_, packets, cleanups, loops⟩
      · rw [result]
        intro new isNew
        obtain ⟨old, isOld, sameTransfer, -⟩ := change.handle_before isNew
        rw [← sameTransfer]
        exact belongs.sending old isOld
      · rw [result]
        exact belongs.receiving
      · rw [result]
        exact belongs.offered
      · rw [result]
        exact belongs.notOffered
  | channelChanged state =>
      obtain ⟨outgoing, result⟩ := client.dataChannelDidChangeState_eq state
      exact keep (by rw [result]) (by rw [result]) (by rw [result]) (by rw [result])
  | unopened | greeted | busy | started | ended | writeFailed | stored | completed
  | transmitted | reported | iceLost | iceIdle | iceChanged | nothing =>
      exact keep rfl rfl rfl rfl

/-- A send that begins at a quiet client. -/
theorem begin
    (belongs : client.BelongsTo current)
    (isQuiet : client.quiet = true)
    (fileURL : FileURL) (file : File) :
    (client.beginSending fileURL file).BelongsTo
      (some ⟨client.clientId, client.begun⟩) := by
  have held := belongs.of_quiet isQuiet (some ⟨client.clientId, client.begun⟩)
  rw [beginSending_eq]
  refine ⟨?_, held.receiving, held.offered, held.notOffered, ?_, held.cleanups, held.loops⟩
  · intro handle same
    obtain rfl := Option.some.inj same
    rfl
  · intro packet member
    rcases client.queued_cases ⟨.ftOffer (fileURL.lastPathComponent.getD "file")
        (u64 fileURL.fileSize) chunkSize, some ⟨client.clientId, client.begun⟩⟩ with
      appended | unchanged
    · rw [appended] at member
      rcases List.mem_append.mp member with old | new
      · exact held.packets packet old
      · rw [List.mem_singleton.mp new]
        rfl
    · rw [unchanged] at member
      exact held.packets packet member

end BelongsTo

end RTCClient

namespace Session

/-- Both clients are quiet. -/
def quiet (session : Session) : Bool :=
  (session .A).quiet && (session .B).quiet

/-- The condition on an action: a send begins only in a quiet session. -/
def Serial (past : List Event × Session) : Action → Prop
  | .take side (.sendFileAtURL fileURL) =>
      (past.2 side).sendSucceeds fileURL = true → quiet past.2 = true
  | _ => True

instance (past : List Event × Session) : (action : Action) → Decidable (Serial past action)
  | .take side (.sendFileAtURL fileURL) =>
      inferInstanceAs (Decidable
        ((past.2 side).sendSucceeds fileURL = true → quiet past.2 = true))
  | .take _ .cancelFileTransfer | .take _ (.acceptIncomingFileToURL _)
  | .take _ (.rejectIncomingFileWithReason _) | .take _ (.receive _ _) | .take _ .transmit
  | .take _ .runMain | .take _ (.runFile _) | .take _ (.iceConnectionState _)
  | .take _ (.dataChannelState _) | .deliver _ _ => .isTrue trivial

theorem quiet_side {session : Session} (isQuiet : quiet session = true) (side : Side) :
    (session side).quiet = true := by
  simp only [quiet, Bool.and_eq_true] at isQuiet
  cases side with
  | A => exact isQuiet.1
  | B => exact isQuiet.2

/-! ## Both ends belong to one transfer -/

section Belongs

variable {session : Session} {side : Side} {next : RTCClient} {current : Option TransferId}
variable {input : RTCClient.Input} {calls : List DelegateCall}

theorem belongs_taken
    (belongs : ∀ side, (session side).BelongsTo current)
    (possible : Possible (session side) input)
    (notBegun : ∀ fileURL, input = .sendFileAtURL fileURL →
      (session side).sendSucceeds fileURL = false)
    (effect : RTCClient.Effect (session side) input next calls) :
    ∀ other, (Function.update session side next other).BelongsTo current := by
  apply forall_update (P := fun _ client => client.BelongsTo current) ?_ (belongs side.peer)
  refine (belongs side).effect ?_ notBegun effect
  rintro packet outcome rfl
  exact absurd possible id

theorem belongs_begun
    (belongs : ∀ side, (session side).BelongsTo current)
    (isQuiet : quiet session = true) (fileURL : FileURL) (file : File) :
    ∀ other, (Function.update session side ((session side).beginSending fileURL file)
      other).BelongsTo (some ⟨(session side).clientId, (session side).begun⟩) := by
  apply forall_update (P := fun _ client => client.BelongsTo _)
  · exact (belongs side).begin (quiet_side isQuiet side) fileURL file
  · exact (belongs side.peer).of_quiet (quiet_side isQuiet side.peer) _

theorem belongs_delivered
    (belongs : ∀ side, (session side).BelongsTo current)
    {packet : Packet} {rest : List Packet} {outcome : RTCClient.WriteOutcome}
    (queue : (session side.peer).outgoing = packet :: rest)
    (effect : RTCClient.Effect (session side) (.receive packet outcome) next []) :
    ∀ other, (Function.update (Function.update session side.peer
      { session side.peer with outgoing := rest }) side next other).BelongsTo current := by
  have packets : ∀ other ∈ packet :: rest, other.BelongsTo current := by
    rw [← queue]
    exact (belongs side.peer).packets
  apply forall_update₂ (P := fun _ client => client.BelongsTo current)
  · refine (belongs side).effect ?_ (by simp) effect
    intro other result same
    obtain ⟨rfl, rfl⟩ := RTCClient.Input.receive.inj same
    exact packets packet List.mem_cons_self
  · obtain ⟨sending, receiving, offered, notOffered, -, cleanups, loops⟩ := belongs side.peer
    exact ⟨sending, receiving, offered, notOffered,
      fun other member => packets other (List.mem_cons_of_mem _ member), cleanups, loops⟩

end Belongs

/-- The client at `side` has sent an `ft_accept` for `transfer`. -/
def Accepted (history : List Event) (side : Side) (transfer : Option TransferId) : Prop :=
  .observed side (.sent ⟨.ftAccept, transfer⟩) ∈ history

/-- Everything around belongs to one transfer, and an accept on its way, like a
loop that runs, comes from an accept that the peer has sent. -/
structure SerialInvariant (history : List Event) (session : Session) : Prop where
  belongs : ∃ current, ∀ side, (session side).BelongsTo current
  accepts : ∀ side transfer, ⟨.ftAccept, transfer⟩ ∈ (session side).outgoing →
    Accepted history side transfer
  loops : ∀ side, ∀ loop ∈ (session side).fileQueue,
    Accepted history side.peer (some loop.transfer)

namespace SerialInvariant

variable {history : List Event} {session following : Session} {action : Action}
variable {fresh : List Event}

theorem initial (helloName : Side → String) :
    SerialInvariant [] (Session.initial helloName) where
  belongs := ⟨none, fun side => .initial side.clientId (helloName side)⟩
  accepts := by simp [Session.initial, RTCClient.initial]
  loops := by simp [Session.initial, RTCClient.initial]

/-- What one end puts into its channel and its file queue is accounted for. -/
theorem accounted
    (invariant : SerialInvariant history session)
    {side : Side} {input : RTCClient.Input} {next : RTCClient} {calls : List DelegateCall}
    {grown : List Event}
    (recorded : ∀ event ∈ history, event ∈ grown)
    (observed : ∀ observation ∈ (session side).observe next calls,
      .observed side observation ∈ grown)
    (accepted : ∀ transfer outcome, input = .receive ⟨.ftAccept, transfer⟩ outcome →
      ∀ handle ∈ (session side).sendHandle,
        Accepted history side.peer (some handle.transfer))
    (effect : RTCClient.Effect (session side) input next calls) :
    (∀ transfer, ⟨.ftAccept, transfer⟩ ∈ next.outgoing → Accepted grown side transfer) ∧
    (∀ loop ∈ next.fileQueue, Accepted grown side.peer (some loop.transfer)) := by
  constructor
  · intro transfer member
    rcases RTCClient.sent_of_mem_outgoing effect member with old | sent
    · exact recorded _ (invariant.accepts side transfer old)
    · exact observed _ sent
  · intro loop member
    rcases RTCClient.loop_before effect member with
      ⟨old, inQueue, same⟩ | ⟨handle, transfer, outcome, sending, rfl, received⟩
    · rw [← same]
      exact recorded _ (invariant.loops side old inQueue)
    · exact recorded _ (accepted transfer outcome received handle sending)

theorem step
    (invariant : SerialInvariant history session)
    (serial : Serial (history, session) action)
    (effect : Effect session action following fresh) :
    SerialInvariant (history ++ fresh) following := by
  obtain ⟨current, belongs⟩ := invariant.belongs
  have recorded : ∀ event ∈ history, event ∈ history ++ fresh := fun event member =>
    List.mem_append_left _ member
  cases effect with
  | taken side input next calls possible effect =>
      have accounted := invariant.accounted recorded
        (fun observation member => List.mem_append_right _ (mem_events_of_observed member))
        (by rintro transfer outcome rfl; exact absurd possible id) effect
      refine ⟨?_, ?_, ?_⟩
      · by_cases begins : ∃ fileURL, input = .sendFileAtURL fileURL ∧
            (session side).sendSucceeds fileURL = true
        · obtain ⟨fileURL, rfl, succeeds⟩ := begins
          obtain ⟨file, -, -, -, rfl⟩ := RTCClient.beginSending_of_succeeds succeeds effect
          exact ⟨_, belongs_begun belongs (serial succeeds) fileURL file⟩
        · refine ⟨current, belongs_taken belongs possible ?_ effect⟩
          intro fileURL same
          exact Bool.eq_false_iff.mpr fun succeeds => begins ⟨fileURL, same, succeeds⟩
      · apply forall_update (P := fun side (client : RTCClient) => ∀ transfer,
          ⟨.ftAccept, transfer⟩ ∈ client.outgoing → Accepted _ side transfer) accounted.1
        intro transfer member
        exact recorded _ (invariant.accepts side.peer transfer member)
      · apply forall_update (P := fun side (client : RTCClient) => ∀ loop ∈ client.fileQueue,
          Accepted _ side.peer (some loop.transfer)) accounted.2
        intro loop member
        exact recorded _ (invariant.loops side.peer loop member)
  | delivered side outcome packet rest next queue isOpen effect =>
      have inFlight : packet ∈ (session side.peer).outgoing := by
        rw [queue]
        exact List.mem_cons_self
      have tagged := (belongs side.peer).packets packet inFlight
      have stillInFlight : ∀ other ∈ rest, other ∈ (session side.peer).outgoing := by
        intro other member
        rw [queue]
        exact List.mem_cons_of_mem _ member
      have accounted := invariant.accounted recorded
        (fun observation member => List.mem_append_right _
          (List.mem_cons_of_mem _ (mem_events_of_observed member))) ?_ effect
      · refine ⟨⟨current, belongs_delivered belongs queue effect⟩, ?_, ?_⟩
        · apply forall_update₂ (P := fun side (client : RTCClient) => ∀ transfer,
            ⟨.ftAccept, transfer⟩ ∈ client.outgoing → Accepted _ side transfer) accounted.1
          intro transfer member
          exact recorded _ (invariant.accepts side.peer transfer (stillInFlight _ member))
        · apply forall_update₂ (P := fun side (client : RTCClient) => ∀ loop ∈ client.fileQueue,
            Accepted _ side.peer (some loop.transfer)) accounted.2
          intro loop member
          exact recorded _ (invariant.loops side.peer loop member)
      · intro transfer result same handle sending
        obtain ⟨rfl, rfl⟩ := RTCClient.Input.receive.inj same
        have ofCurrent : transfer = some handle.transfer :=
          tagged.trans ((belongs side).sending handle sending).symm
        rw [← ofCurrent]
        exact invariant.accepts side.peer transfer inFlight

theorem of_run
    {helloName : Side → String} {actions : List Action} {outputs : List Event}
    {final : List Event × Session}
    (run : SessionRun helloName Serial actions outputs final) :
    SerialInvariant final.1 final.2 := by
  have holds := run.history_invariant SerialInvariant (initial helloName)
    (fun invariant serial stepped => invariant.step serial (effect_of_step stepped))
  rw [holds.1]
  exact holds.2

end SerialInvariant

end Session

end WebrtcFileSender
