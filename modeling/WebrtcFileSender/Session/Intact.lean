import WebrtcFileSender.Session.Regular

/-!
Contract: the invariant of a transfer that nothing disturbs.

From the accept on, what the receiver has written followed by what is on its way
is the whole file, and whoever has been told of an end has been told so after the
last byte.

Owns: the invariant and the proof that what a client does by itself keeps it.
-/

namespace WebrtcFileSender

/-- Behind an `ft_done` no byte follows. -/
def Packet.Ordered (packets : List Packet) : Prop :=
  packets.Pairwise fun earlier later => earlier.message = .ftDone → later.payload = []

namespace RTCClient

variable {client next : RTCClient} {input : Input} {calls : List DelegateCall}

/-- An input that emits `ft_done` emits no bytes. -/
theorem payload_of_emits_done {tag : Option TransferId} {later : Packet}
    (done : Emits client input ⟨.ftDone, tag⟩)
    (emits : Emits client input later) :
    later.payload = [] := by
  rcases ftDone_cases done with
    ⟨data, given, handle, rfl, -⟩ | ⟨given, loop, rest, rfl, queue, atPoint, -⟩
  · cases emits with
    | received => rfl
  · cases emits with
    | done => rfl
    | chunk _ other others chunk retries inQueue atSend =>
        obtain rfl := (List.cons.inj (queue.symm.trans inQueue)).1
        rw [atPoint] at atSend
        contradiction

/-- The order is kept by an input at a client that has sent no `ft_done` yet, and
by one that emits no bytes. -/
theorem ordered_of_effect
    (ordered : Packet.Ordered client.outgoing)
    (harmless : client.Clear ∨
      ∀ packet, Emits client input packet → packet.payload = [])
    (effect : Effect client input next calls) :
    Packet.Ordered next.outgoing := by
  rcases outgoing_of_effect effect with ⟨gone, queue, -⟩ | ⟨dropped, -⟩ |
    ⟨packets, grown, emitted⟩
  · rw [queue] at ordered
    exact (List.pairwise_cons.mp ordered).2
  · rw [dropped]
    exact List.Pairwise.nil
  · rw [grown]
    apply List.pairwise_append.mpr
    refine ⟨ordered, ?_, ?_⟩
    · apply List.pairwise_of_forall_mem_list
      rintro ⟨message, tag⟩ isEarlier later isLater isDone
      obtain rfl : message = .ftDone := isDone
      exact payload_of_emits_done (emitted _ isEarlier) (emitted later isLater)
    · rintro ⟨message, tag⟩ isEarlier later isLater isDone
      obtain rfl : message = .ftDone := isDone
      rcases harmless with clear | noBytes
      · exact absurd isEarlier (clear.noDone tag)
      · exact noBytes later (emitted later isLater)

/-- A loop that closes emits no more bytes. -/
theorem Active.harmless {source : Bytes} (active : client.Active source) :
    client.Clear ∨ ∀ packet, Emits client input packet → packet.payload = [] := by
  cases active with
  | reading loop handle reading clear => exact .inl clear
  | closing loop closing =>
      right
      intro packet emits
      cases emits with
      | chunk given head rest chunk retries queue atPoint =>
          obtain rfl := (List.cons.inj (closing.queue.symm.trans queue)).1
          have closes := closing.closes
          rw [atPoint] at closes
          exact closes.elim
      | offer | cancel | reject | accept | unopened | busy | received | done | hello => rfl
  | ended ended =>
      right
      intro packet emits
      cases emits with
      | chunk given head rest chunk retries queue =>
          rw [ended.noLoop] at queue
          contradiction
      | offer | cancel | reject | accept | unopened | busy | received | done | hello => rfl

end RTCClient

namespace Session

open RTCClient

/-! ## The invariant -/

/-- What the receiver knows after the destination at `path` is open. -/
structure Receiving (receiver : RTCClient) (source : Bytes) (path : String) : Prop where
  counted : receiver.recvHandle.isSome = true →
    receiver.recvBytesReceived = (receiver.disk path).length
  pending : receiver.recvHandle.isSome = true → receiver.disk path = source →
    ∃ request, .cleanup none request ∈ receiver.mainQueue
  released : receiver.recvHandle = none → receiver.disk path = source ∧
    receiver.recvTotalBytes = 0 ∧ receiver.recvBytesReceived = 0
  cleanups : ∀ error request, .cleanup error request ∈ receiver.mainQueue →
    receiver.disk path = source
  done : ∀ tag, ⟨.ftDone, tag⟩ ∈ receiver.outgoing → receiver.disk path = source

/-- The stages of an undisturbed transfer. From the accept on, what is written
followed by what is on its way is the whole file. -/
inductive Stage (sender receiver : RTCClient) (source : Bytes) : Option String → Prop
  | offered
      (waiting : sender.Waiting source)
      (clear : sender.Clear)
      (receiverClear : receiver.Clear) :
      Stage sender receiver source none
  | accepted (path : String)
      (whole : receiver.disk path ++ ahead sender receiver = source)
      (receiving : Receiving receiver source path)
      (pending : receiver.acceptPending = true)
      (waiting : sender.Waiting source)
      (clear : sender.Clear) :
      Stage sender receiver source (some path)
  | running (path : String)
      (whole : receiver.disk path ++ ahead sender receiver = source)
      (receiving : Receiving receiver source path)
      (notPending : receiver.acceptPending = false)
      (active : sender.Active source) :
      Stage sender receiver source (some path)

/-- An undisturbed transfer between two clients. -/
structure Intact (sender receiver : RTCClient) (transfer : TransferId) (source : Bytes)
    (path : Option String) : Prop where
  flow : Flow sender receiver transfer source path
  senderRegular : sender.Regular
  receiverRegular : receiver.Regular
  notCancelled : sender.transferCancelled = false
  senderCounters : sender.recvTotalBytes = 0 ∧ sender.recvBytesReceived = 0
  receiverCounters : receiver.sendTotalBytes = 0 ∧ receiver.sendBytesSent = 0
  ordered : Packet.Ordered sender.outgoing
  stage : Stage sender receiver source path

variable {sender receiver next : RTCClient} {input : Input} {calls : List DelegateCall}
variable {source : Bytes} {transfer : TransferId} {path : Option String}

/-- A destination that holds the whole file leaves nothing on its way. -/
theorem ahead_of_complete {destination : String}
    (whole : receiver.disk destination ++ ahead sender receiver = source)
    (complete : receiver.disk destination = source) :
    ahead sender receiver = [] := by
  rw [complete] at whole
  exact List.append_right_eq_self.mp whole

/-- A waiting sender has the whole file ahead. -/
theorem not_complete_of_waiting {destination : String}
    (whole : receiver.disk destination ++ ahead sender receiver = source)
    (nonempty : source ≠ [])
    (isOpen : sender.isDataChannelOpen = true)
    (pending : receiver.acceptPending = true)
    (waiting : sender.Waiting source)
    (role : SenderRole sender transfer source) :
    receiver.disk destination ≠ source := by
  intro complete
  have nothing := ahead_of_complete whole complete
  rw [ahead, pending, outlook, isOpen, Bool.or_true] at nothing
  simp only [if_true, List.append_eq_nil_iff] at nothing
  rw [waiting.unread role] at nothing
  exact nonempty nothing.2

/-! ## The sender takes an input -/

/-- The loops of the sender come to no error. -/
theorem Stage.finishes
    (stage : Stage sender receiver source path) :
    ∀ loop ∈ sender.fileQueue, ∀ error, loop.point = .finish error → error = none := by
  have waits : sender.Waiting source →
      ∀ loop ∈ sender.fileQueue, ∀ error, loop.point = .finish error → error = none := by
    intro waiting loop member
    rw [waiting.noLoop] at member
    contradiction
  cases stage with
  | offered waiting => exact waits waiting
  | accepted destination whole receiving pending waiting => exact waits waiting
  | running destination whole receiving notPending active =>
      intro loop member error atPoint
      cases active with
      | reading head handle reading =>
          rw [reading.queue, List.mem_singleton] at member
          have reads := reading.reads
          rw [← member, atPoint] at reads
          exact reads.elim
      | closing head closing =>
          rw [closing.queue, List.mem_singleton] at member
          have closes := closing.closes
          rw [← member, atPoint] at closes
          exact closes
      | ended ended =>
          rw [ended.noLoop] at member
          contradiction

/-- A waiting sender goes on waiting until it receives the accept. -/
theorem waiting_of_regular
    (waiting : sender.Waiting source)
    (clear : sender.Clear)
    (role : SenderRole sender transfer source)
    (effect : RegularEffect sender input next) :
    next.Waiting source ∧ next.Clear ∧
      ∀ pending, next.outlook pending = sender.outlook pending := by
  cases effect with
  | nothing => exact ⟨waiting, clear, fun _ => rfl⟩
  | reported block rest queue reports =>
      exact ⟨⟨waiting.noLoop, waiting.sending, waiting.total, waiting.sent⟩,
        clear.of_taken queue, fun _ => rfl⟩
  | cleaned error request rest queue =>
      have noCleanup := clear.noCleanup error request
      rw [queue] at noCleanup
      exact absurd List.mem_cons_self noCleanup
  | looped given loop rest queue =>
      rw [waiting.noLoop] at queue
      contradiction
  | accepted destination accepts =>
      rw [role.not_canAccept] at accepts
      contradiction

/-- An active sender stays active and loses nothing. -/
theorem active_of_regular
    (active : sender.Active source)
    (regular : sender.Regular)
    (notCancelled : sender.transferCancelled = false)
    (small : source.length < 2 ^ 63)
    (role : SenderRole sender transfer source)
    (undisturbed : ∀ given, input = .runFile given →
      ∀ loop ∈ sender.fileQueue.head?, loop.point.Undisturbed given)
    (effect : RegularEffect sender input next) :
    next.Active source ∧ next.outlook false = sender.outlook false := by
  cases effect with
  | nothing => exact ⟨active, rfl⟩
  | reported block rest queue reports => exact ⟨active.reported queue reports, rfl⟩
  | cleaned error request rest queue =>
      obtain ⟨stillActive, spent⟩ := active.cleaned queue
      refine ⟨stillActive, ?_⟩
      have after : { sender with mainQueue := rest }.resetTransfer.outlook false =
          sender.flight := outlook_of_spent regular.isOpen ⟨spent.1, rfl⟩
      rw [after, outlook_of_spent regular.isOpen spent]
  | looped given loop rest queue =>
      have calm := undisturbed given rfl loop (by rw [queue]; rfl)
      exact active.looped role small regular.isOpen notCancelled queue calm
        (.looped given loop rest queue)
  | accepted destination accepts =>
      rw [role.not_canAccept] at accepts
      contradiction

theorem Stage.harmless
    (stage : Stage sender receiver source path) :
    sender.Clear ∨ ∀ packet, Emits sender input packet → packet.payload = [] := by
  cases stage with
  | offered waiting clear => exact .inl clear
  | accepted destination whole receiving pending waiting clear => exact .inl clear
  | running destination whole receiving notPending active => exact active.harmless

/-- The inputs that a client may take by itself in an undisturbed transfer. -/
def Allowed (client : RTCClient) : RTCClient.Input → Prop
  | .acceptIncomingFileToURL destination => destination.openError = none
  | .runMain => True
  | .runFile given => ∀ loop ∈ client.fileQueue.head?, loop.point.Undisturbed given
  | .iceConnectionState newState => newState.isLost = false
  | .sendFileAtURL _ | .cancelFileTransfer | .rejectIncomingFileWithReason _
  | .receive _ _ | .transmit | .dataChannelState _ => False

theorem Allowed.regularInput {client : RTCClient}
    (allowed : Allowed client input)
    (finishes : ∀ loop ∈ client.fileQueue, ∀ error,
      loop.point = .finish error → error = none) :
    client.RegularInput input := by
  cases input with
  | acceptIncomingFileToURL | runMain | iceConnectionState => exact allowed
  | runFile => exact finishes
  | sendFileAtURL | cancelFileTransfer | rejectIncomingFileWithReason | receive | transmit
  | dataChannelState => exact allowed.elim

theorem Allowed.not_received {client : RTCClient}
    (allowed : Allowed client input) (packet : Packet) (outcome : WriteOutcome) :
    input ≠ .receive packet outcome := by
  rintro rfl
  exact allowed

theorem Allowed.not_begun {client : RTCClient}
    (allowed : Allowed client input) (fileURL : FileURL)
    (isSend : input = .sendFileAtURL fileURL) :
    client.sendSucceeds fileURL = false := by
  rw [isSend] at allowed
  exact allowed.elim

namespace Intact

theorem sender_taken
    (intact : Intact sender receiver transfer source path)
    (possible : Possible sender input)
    (allowed : Allowed sender input)
    (effect : RTCClient.Effect sender input next calls) :
    Intact next receiver transfer source path := by
  have role := intact.flow.senderRole
  have regularInput := allowed.regularInput intact.stage.finishes
  have frame := sender_frame role regularInput
    (fun packet outcome same => absurd same (allowed.not_received packet outcome)) effect
  have regularEffect :=
    intact.senderRegular.taken regularInput allowed.not_received effect
  have undisturbed : ∀ given, input = .runFile given →
      ∀ loop ∈ sender.fileQueue.head?, loop.point.Undisturbed given := by
    rintro given rfl
    exact allowed
  have stage : Stage next receiver source path := by
    cases intact.stage with
    | offered waiting clear receiverClear =>
        obtain ⟨stillWaiting, stillClear, -⟩ :=
          waiting_of_regular waiting clear role regularEffect
        exact .offered stillWaiting stillClear receiverClear
    | accepted destination whole receiving pending waiting clear =>
        obtain ⟨stillWaiting, stillClear, sameOutlook⟩ :=
          waiting_of_regular waiting clear role regularEffect
        refine .accepted destination ?_ receiving pending stillWaiting stillClear
        rw [ahead, sameOutlook]
        exact whole
    | running destination whole receiving notPending active =>
        obtain ⟨stillActive, sameOutlook⟩ := active_of_regular active intact.senderRegular
          intact.notCancelled intact.flow.bounded role undisturbed regularEffect
        refine .running destination ?_ receiving notPending stillActive
        rw [ahead, notPending] at whole ⊢
        rw [sameOutlook]
        exact whole
  exact {
    flow := intact.flow.sender_taken possible allowed.not_begun effect
    senderRegular := intact.senderRegular.effect regularInput effect
    receiverRegular := intact.receiverRegular
    notCancelled := frame.1.trans intact.notCancelled
    senderCounters := frame.2 intact.senderCounters
    receiverCounters := intact.receiverCounters
    ordered := ordered_of_effect intact.ordered intact.stage.harmless effect
    stage := stage }

end Intact

/-! ## The receiver takes an input -/

theorem Receiving.reported {destination : String}
    (receiving : Receiving receiver source destination)
    {block : MainBlock} {rest : List MainBlock}
    (queue : receiver.mainQueue = block :: rest)
    (reports : block.Reports) :
    Receiving { receiver with mainQueue := rest } source destination := by
  refine ⟨receiving.counted, ?_, receiving.released, ?_, receiving.done⟩
  · intro isReceiving complete
    obtain ⟨request, pending⟩ := receiving.pending isReceiving complete
    rw [queue] at pending
    rcases List.mem_cons.mp pending with rfl | inRest
    · exact absurd reports id
    · exact ⟨request, inRest⟩
  · intro error request member
    apply receiving.cleanups error request
    rw [queue]
    exact List.mem_cons_of_mem _ member

theorem Receiving.cleaned {destination : String}
    (receiving : Receiving receiver source destination)
    {error : Option NSError} {request : CleanupRequest} {rest : List MainBlock}
    (queue : receiver.mainQueue = .cleanup error request :: rest) :
    Receiving { receiver with mainQueue := rest }.resetTransfer source destination := by
  have complete : receiver.disk destination = source :=
    receiving.cleanups error request (by simp [queue])
  have released : { receiver with mainQueue := rest }.resetTransfer.recvHandle = none := rfl
  refine ⟨?_, ?_, fun _ => ⟨complete, rfl, rfl⟩, fun _ _ _ => complete,
    fun _ _ => complete⟩
  · intro isReceiving
    rw [released] at isReceiving
    contradiction
  · intro isReceiving
    rw [released] at isReceiving
    contradiction

/-- The destination is opened: nothing is written and the whole file is ahead. -/
theorem Stage.opened
    (waiting : sender.Waiting source)
    (clear : sender.Clear)
    (receiverClear : receiver.Clear)
    (flow : Flow sender receiver transfer source none)
    (senderOpen : sender.isDataChannelOpen = true)
    (receiverOpen : receiver.isDataChannelOpen = true)
    (destination : Destination) :
    Stage sender
      { receiver with
        disk := Function.update receiver.disk destination.path []
        recvHandle := some
          ⟨destination.path, receiver.incomingTransfer, receiver.incomingBirth⟩
        recvBytesReceived := 0
        outgoing := receiver.queued ⟨.ftAccept, receiver.incomingTransfer⟩ }
      source (some destination.path) := by
  have unopened : Unopened sender receiver := flow.phase
  have queued := queued_of_isOpen receiverOpen ⟨.ftAccept, receiver.incomingTransfer⟩
  have pending : acceptPending
      { receiver with
        disk := Function.update receiver.disk destination.path []
        recvHandle := some
          ⟨destination.path, receiver.incomingTransfer, receiver.incomingBirth⟩
        recvBytesReceived := 0
        outgoing := receiver.queued ⟨.ftAccept, receiver.incomingTransfer⟩ } = true := by
    rw [acceptPending, count, queued, List.countP_append]
    simp [Message.isAccept]
  have noFlight : sender.flight = [] := List.flatMap_eq_nil_iff.mpr unopened.noBytes
  have noHand : sender.hand = [] := by
    rw [hand, unopened.noLoop]
    rfl
  refine .accepted destination.path ?_ ?_ pending waiting clear
  · rw [ahead, pending, outlook, senderOpen, noFlight, noHand, Bool.or_true,
      waiting.unread flow.senderRole]
    simp
  · have empty : Function.update receiver.disk destination.path [] destination.path = [] :=
      Function.update_self ..
    refine ⟨?_, ?_, ?_, ?_, ?_⟩
    · intro _
      dsimp only
      rw [empty]
      rfl
    · intro _ complete
      dsimp only at complete
      rw [empty] at complete
      exact absurd complete.symm flow.nonempty
    · intro released
      contradiction
    · intro error request member
      exact absurd member (receiverClear.noCleanup error request)
    · intro tag member
      dsimp only at member
      rw [queued] at member
      rcases List.mem_append.mp member with old | new
      · exact absurd old (receiverClear.noDone tag)
      · simp at new

namespace Intact

/-- The receiver takes an input: the destination stays as it is, or the offer is
accepted. -/
theorem receiver_taken
    (intact : Intact sender receiver transfer source path)
    (possible : Possible receiver input)
    (allowed : Allowed receiver input)
    (effect : RTCClient.Effect receiver input next calls) :
    (Intact sender next transfer source path ∧
      (next.recvHandle = receiver.recvHandle ∨ next.recvHandle = none)) ∨
    ∃ handle, path = none ∧ next.recvHandle = some handle ∧
      Intact sender next transfer source (some handle.path) := by
  have role := intact.flow.receiverRole
  have regularInput : receiver.RegularInput input := by
    apply allowed.regularInput
    intro loop member
    rw [role.noLoop] at member
    contradiction
  have regularEffect :=
    intact.receiverRegular.taken regularInput allowed.not_received effect
  have build : ∀ {reached : Option String}, Flow sender next transfer source reached →
      Stage sender next source reached → Intact sender next transfer source reached := by
    intro reached flow stage
    exact {
      flow := flow
      senderRegular := intact.senderRegular
      receiverRegular := intact.receiverRegular.effect regularInput effect
      notCancelled := intact.notCancelled
      senderCounters := intact.senderCounters
      receiverCounters := receiver_frame role regularInput effect intact.receiverCounters
      ordered := intact.ordered
      stage := stage }
  have flows := intact.flow.receiver_taken possible allowed.not_begun effect
  have kept : (next.recvHandle = receiver.recvHandle ∨ next.recvHandle = none) →
      Flow sender next transfer source path := by
    intro notOpened
    rcases flows with ⟨flow, -⟩ | ⟨opened, -, -, notReceiving, -, isReceiving⟩
    · exact flow
    · rw [isReceiving, notReceiving] at notOpened
      simp at notOpened
  cases regularEffect with
  | nothing => exact .inl ⟨intact, .inl rfl⟩
  | reported block rest queue reports =>
      refine .inl ⟨build (kept (.inl rfl)) ?_, .inl rfl⟩
      cases intact.stage with
      | offered waiting clear receiverClear =>
          exact .offered waiting clear (receiverClear.of_taken queue)
      | accepted destination whole receiving pending waiting clear =>
          exact .accepted destination whole (receiving.reported queue reports) pending waiting
            clear
      | running destination whole receiving notPending active =>
          exact .running destination whole (receiving.reported queue reports) notPending active
  | cleaned error request rest queue =>
      refine .inl ⟨build (kept (.inr rfl)) ?_, .inr rfl⟩
      cases intact.stage with
      | offered waiting clear receiverClear =>
          exact absurd (by simp [queue]) (receiverClear.noCleanup error request)
      | accepted destination whole receiving pending waiting clear =>
          exact .accepted destination whole (receiving.cleaned queue) pending waiting clear
      | running destination whole receiving notPending active =>
          exact .running destination whole (receiving.cleaned queue) notPending active
  | looped given loop rest queue =>
      rw [role.noLoop] at queue
      contradiction
  | accepted destination accepts =>
      right
      rcases flows with ⟨-, notAccepted⟩ | ⟨opened, flow, rfl, -, -, isReceiving⟩
      · exact absurd allowed (notAccepted destination rfl accepts)
      · obtain rfl : destination.path = opened :=
          congrArg WriteHandle.path (Option.some.inj isReceiving)
        refine ⟨_, rfl, rfl, build flow ?_⟩
        cases intact.stage with
        | offered waiting clear receiverClear =>
            exact Stage.opened waiting clear receiverClear intact.flow
              intact.senderRegular.isOpen intact.receiverRegular.isOpen destination

end Intact

end Session

end WebrtcFileSender
