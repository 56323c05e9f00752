import WebrtcFileSender.Session.Integrity

/-!
Contract: when the sender reports success, the file has arrived.

The receiver acknowledges a complete file with `ft_done`. The sender does not
wait for it: its loop reports success when the last chunk is handed to the
channel, and when a cleanup has zeroed its counters.

Owns: the signs of a success between two clients, the condition that the loop
takes its success branch only after the acknowledgement, the theorem that under
it success means arrival, and a run in which it does not.
-/

namespace WebrtcFileSender

namespace Session

open RTCClient

/-- Something under way, other than a delivered acknowledgement, will make the
sender report success. -/
def SuccessSigns (sender receiver : RTCClient) : Prop :=
  (∃ transfer, ⟨.ftDone, transfer⟩ ∈ receiver.outgoing) ∨
  (∃ loop ∈ sender.fileQueue, loop.point = .sendDone ∨ loop.point = .finish none) ∨
  ∃ request, .cleanup none request ∈ sender.mainQueue

/-- The destination is open or was, and holds the whole source. -/
def Complete (receiver : RTCClient) (source : Bytes) (path : Option String) : Prop :=
  ∃ destination, path = some destination ∧ receiver.disk destination = source ∧
    (receiver.recvHandle.isSome = true → source.length ≤ receiver.recvBytesReceived)

variable {sender receiver next : RTCClient} {input : Input} {calls : List DelegateCall}
variable {source : Bytes} {transfer : TransferId} {path : Option String}
variable {acknowledged : Prop}

/-- Whatever the sender does, a sign of success was there before or the receiver
has acknowledged, provided that the loop waits for the acknowledgement. -/
theorem SuccessSigns.of_sender
    {left : RTCClient}
    (role : SenderRole sender transfer source)
    (fewer : ∀ packet ∈ left.outgoing, packet ∈ receiver.outgoing)
    (received : ∀ packet outcome, input = .receive packet outcome →
      packet ∈ receiver.outgoing)
    (waits : ∀ given loop rest, input = .runFile given → sender.fileQueue = loop :: rest →
      loop.point = .completeTest → sender.sendTotalBytes ≤ sender.sendBytesSent →
      acknowledged)
    (effect : RTCClient.Effect sender input next calls)
    (signs : SuccessSigns next left) :
    acknowledged ∨ SuccessSigns sender receiver := by
  rcases signs with ⟨tag, inFlight⟩ | ⟨loop, member, atEnd⟩ | ⟨request, pending⟩
  · exact .inr (.inl ⟨tag, fewer _ inFlight⟩)
  · rcases fileQueue_of_effect effect with
      same | ⟨handle, tag, outcome, -, -, started⟩ | ⟨given, head, rest, isRun, queue, advanced⟩
    · rw [same] at member
      exact .inr (.inr (.inl ⟨loop, member, atEnd⟩))
    · rw [started] at member
      rcases List.mem_append.mp member with old | new
      · exact .inr (.inr (.inl ⟨loop, old, atEnd⟩))
      · rw [List.mem_singleton.mp new] at atEnd
        simp at atEnd
    · rw [advanced] at member
      rcases mem_advanceQueue member with inRest | ⟨following, continues, rfl⟩
      · exact .inr (.inr (.inl ⟨loop, by simp [queue, inRest], atEnd⟩))
      · rcases loopStatement_ends continues atEnd with ⟨atTest, complete⟩ | atDone
        · exact .inl (waits given head rest isRun queue atTest complete)
        · exact .inr (.inr (.inl ⟨head, by simp [queue], .inl atDone⟩))
  · rcases mem_mainQueue_of_effect effect pending with old | requested
    · exact .inr (.inr (.inr ⟨request, old⟩))
    · cases requested with
      | ended message tag outcome error ends =>
          cases message with
          | ftDone => exact .inr (.inl ⟨tag, received _ outcome rfl⟩)
          | ftReject | ftCancel => simp [endingError] at ends
          | hello | ftOffer | ftAccept | binary => contradiction
      | received data tag handle receiving =>
          rw [role.notReceiving] at receiving
          contradiction
      | finish given loop rest error queue atPoint =>
          exact .inr (.inr (.inl ⟨loop, by simp [queue], .inr atPoint⟩))

/-- What the receiver does by itself adds no sign of success. -/
theorem SuccessSigns.of_receiver
    (role : ReceiverRole receiver source)
    (notReceived : ∀ packet outcome, input ≠ .receive packet outcome)
    (effect : RTCClient.Effect receiver input next calls)
    (signs : SuccessSigns sender next) :
    SuccessSigns sender receiver := by
  rcases signs with ⟨tag, inFlight⟩ | others
  · rcases mem_outgoing_of_effect effect inFlight with old | emitted
    · exact .inl ⟨tag, old⟩
    · rcases ftDone_cases emitted with
        ⟨data, given, handle, isReceive, -⟩ | ⟨given, loop, rest, -, queue, -⟩
      · exact absurd isReceive (notReceived _ _)
      · rw [role.noLoop] at queue
        contradiction
  · exact .inr others

theorem Complete.of_receiver
    (complete : Complete receiver source path)
    (notReceived : ∀ packet outcome, input ≠ .receive packet outcome)
    (notAccepted : ∀ destination, input = .acceptIncomingFileToURL destination →
      receiver.canAccept = true → destination.openError ≠ none)
    (effect : RTCClient.Effect receiver input next calls) :
    Complete next source path := by
  obtain ⟨destination, isOpen, whole, counted⟩ := complete
  obtain ⟨sameDisk, reception⟩ := reception_of_effect notReceived notAccepted effect
  refine ⟨destination, isOpen, by rw [sameDisk]; exact whole, ?_⟩
  rcases reception with ⟨sameReceive, -, sameBytes⟩ | ⟨closed, -⟩
  · rw [sameReceive, sameBytes]
    exact counted
  · simp [closed]

/-- The receiver sends `ft_done` when its counter has reached the size. -/
theorem done_of_receive {packet : Packet} {outcome : WriteOutcome} {tag : Option TransferId}
    (effect : RTCClient.Effect receiver (.receive packet outcome) next [])
    (inFlight : ⟨.ftDone, tag⟩ ∈ next.outgoing) :
    ⟨.ftDone, tag⟩ ∈ receiver.outgoing ∨
      ∃ handle, receiver.recvHandle = some handle ∧ next.recvHandle = some handle ∧
        receiver.recvTotalBytes ≤ next.recvBytesReceived := by
  cases effect with
  | completed data given handle receiving sized complete =>
      exact .inr ⟨handle, receiving, receiving, complete⟩
  | busy name size chunk given =>
      rcases receiver.queued_cases ⟨.ftReject "busy", given⟩ with appended | unchanged
      · dsimp only at inFlight
        rw [appended] at inFlight
        left
        simpa using inFlight
      · dsimp only at inFlight
        rw [unchanged] at inFlight
        exact .inl inFlight
  | greeted | offered | started | ended | writeFailed | stored | nothing => exact .inl inFlight

/-- A complete file stays as it is: nothing more can arrive for it. -/
theorem Complete.of_receive
    (complete : Complete receiver source path)
    (flow : Flow sender receiver transfer source path)
    {packet : Packet} {rest : List Packet} {outcome : WriteOutcome}
    (queue : sender.outgoing = packet :: rest)
    (effect : RTCClient.Effect receiver (.receive packet outcome) next []) :
    Complete next source path := by
  obtain ⟨destination, rfl, whole, counted⟩ := complete
  have opened : Opened sender receiver source destination := flow.phase
  refine ⟨destination, rfl, ?_⟩
  cases receiving : receiver.recvHandle with
  | none =>
      obtain ⟨notReceiving, sameDisk, -⟩ := idle_of_receive receiving effect
      rw [sameDisk]
      exact ⟨whole, by simp [notReceiving]⟩
  | some handle =>
      have notOffer : packet.message.isOffer = false := by
        have offers := count_delivered queue Message.isOffer
        have noOffer := opened.noOffer
        cases isOffer : packet.message.isOffer with
        | false => rfl
        | true =>
            rw [isOffer] at offers
            simp only [if_true] at offers
            omega
      have isOpen : sender.isDataChannelOpen = true := flow.senderRole.isOpen_of_queue queue
      obtain ⟨samePath, conserved⟩ := opened.content handle receiving
      have enough := counted (by simp [receiving])
      have nothingLeft := (conserved.complete enough).2
      rw [ahead, outlook_delivered isOpen queue] at nothingLeft
      have noPayload := (List.append_eq_nil_iff.mp nothingLeft).1
      obtain ⟨-, -, reception⟩ := reception_of_receive notOffer receiving effect
      rcases reception with ⟨appended, added⟩ | ⟨sameDisk, sameBytes⟩
      · have small := conserved.count_le
        have bounded := flow.bounded
        have noOverflow : u64 receiver.recvBytesReceived = receiver.recvBytesReceived :=
          Nat.mod_eq_of_lt (by omega)
        rw [noPayload, List.append_nil, samePath] at appended
        rw [noPayload, List.length_nil, Nat.add_zero, noOverflow] at added
        rw [appended, added, Function.update_self]
        exact ⟨whole, fun _ => enough⟩
      · rw [sameDisk, sameBytes]
        exact ⟨whole, fun _ => enough⟩

/-- A delivery to the receiver: if there is a sign of success afterwards, the
file is complete. -/
theorem SuccessSigns.of_receive
    (flow : Flow sender receiver transfer source path)
    (sound : acknowledged ∨ SuccessSigns sender receiver → Complete receiver source path)
    {packet : Packet} {rest : List Packet} {outcome : WriteOutcome}
    (queue : sender.outgoing = packet :: rest)
    (effect : RTCClient.Effect receiver (.receive packet outcome) next [])
    (signs : acknowledged ∨ SuccessSigns { sender with outgoing := rest } next) :
    Complete next source path := by
  have kept : acknowledged ∨ SuccessSigns sender receiver → Complete next source path :=
    fun before => (sound before).of_receive flow queue effect
  rcases signs with isAcknowledged | ⟨tag, inFlight⟩ | others
  · exact kept (.inl isAcknowledged)
  · rcases done_of_receive effect inFlight with old | ⟨handle, receiving, after, reached⟩
    · exact kept (.inr (.inl ⟨tag, old⟩))
    · have phase := (flow.receiver_receives queue effect).phase
      have total := flow.receiverRole.sized (flow.receiverRole.named (by simp [receiving]))
      cases path with
      | none =>
          have notReceiving := Unopened.notReceiving flow.phase
          rw [receiving] at notReceiving
          contradiction
      | some destination =>
          obtain ⟨-, conserved⟩ := Opened.content phase handle after
          rw [total] at reached
          exact ⟨destination, rfl, (conserved.complete reached).1, fun _ => reached⟩
  · exact kept (.inr (.inr others))

/-! ## One transfer in a session -/

/-- The transfer that `side` sends, with the record of it in the history. -/
structure Arriving (history : List Event) (side : Side) (transfer : TransferId)
    (source : Bytes) (path : Option String) (sender receiver : RTCClient) : Prop where
  owner : transfer.sender = side.clientId
  flow : Flow sender receiver transfer source path
  began : .began side transfer source source.length ∈ history
  only : ∀ bytes announced, .began side transfer bytes announced ∈ history →
    bytes = source ∧ announced = source.length
  opened : ∀ destination, path = some destination →
    .opened side.peer (some transfer) destination ∈ history
  sound : .delivered side ⟨.ftDone, some transfer⟩ ∈ history ∨ SuccessSigns sender receiver →
    Complete receiver source path

namespace Arriving

variable {history fresh : List Event} {side : Side}

/-- The history grows by events that begin nothing. -/
theorem record
    (arriving : Arriving history side transfer source path sender receiver)
    (noBegan : ∀ owner given bytes announced, .began owner given bytes announced ∉ fresh) :
    .began side transfer source source.length ∈ history ++ fresh ∧
    (∀ bytes announced, .began side transfer bytes announced ∈ history ++ fresh →
      bytes = source ∧ announced = source.length) ∧
    ∀ destination, path = some destination →
      .opened side.peer (some transfer) destination ∈ history ++ fresh := by
  refine ⟨List.mem_append_left _ arriving.began, ?_, ?_⟩
  · intro bytes announced member
    rcases List.mem_append.mp member with old | new
    · exact arriving.only bytes announced old
    · exact absurd new (noBegan side transfer bytes announced)
  · intro destination isOpen
    exact List.mem_append_left _ (arriving.opened destination isOpen)

theorem sender_taken
    (arriving : Arriving history side transfer source path sender receiver)
    (possible : Possible sender input)
    (notBegun : ∀ fileURL, input = .sendFileAtURL fileURL →
      sender.sendSucceeds fileURL = false)
    (waits : ∀ given loop rest, input = .runFile given → sender.fileQueue = loop :: rest →
      loop.point = .completeTest → sender.sendTotalBytes ≤ sender.sendBytesSent →
      .delivered side ⟨.ftDone, some transfer⟩ ∈ history)
    (noBegan : ∀ owner given bytes announced, .began owner given bytes announced ∉ fresh)
    (noDelivery : ∀ owner packet, .delivered owner packet ∉ fresh)
    (effect : RTCClient.Effect sender input next calls) :
    Arriving (history ++ fresh) side transfer source path next receiver := by
  obtain ⟨began, only, opened⟩ := arriving.record noBegan
  have notReceived : ∀ packet outcome, input = .receive packet outcome →
      packet ∈ receiver.outgoing := by
    rintro packet outcome rfl
    exact absurd possible id
  refine ⟨arriving.owner, arriving.flow.sender_taken possible notBegun effect, began, only,
    opened, ?_⟩
  intro signs
  apply arriving.sound
  rcases signs with delivered | signs
  · rcases List.mem_append.mp delivered with old | new
    · exact .inl old
    · exact absurd new (noDelivery side _)
  · exact signs.of_sender arriving.flow.senderRole (fun _ member => member) notReceived waits
      effect

theorem receiver_taken
    (arriving : Arriving history side transfer source path sender receiver)
    (possible : Possible receiver input)
    (notBegun : ∀ fileURL, input = .sendFileAtURL fileURL →
      receiver.sendSucceeds fileURL = false)
    (offered : receiver.incomingFileName.isSome = true →
      receiver.incomingTransfer = some transfer)
    (noBegan : ∀ owner given bytes announced, .began owner given bytes announced ∉ fresh)
    (noDelivery : ∀ owner packet, .delivered owner packet ∉ fresh)
    (recorded : ∀ handle, receiver.recvHandle = none → next.recvHandle = some handle →
      .opened side.peer handle.transfer handle.path ∈ fresh)
    (effect : RTCClient.Effect receiver input next calls) :
    ∃ path, Arriving (history ++ fresh) side transfer source path sender next := by
  obtain ⟨began, only, opened⟩ := arriving.record noBegan
  have notReceived : ∀ packet outcome, input ≠ .receive packet outcome := by
    rintro packet outcome rfl
    exact possible
  have signsBefore : .delivered side ⟨.ftDone, some transfer⟩ ∈ history ++ fresh ∨
      SuccessSigns sender next →
      .delivered side ⟨.ftDone, some transfer⟩ ∈ history ∨ SuccessSigns sender receiver := by
    intro signs
    rcases signs with delivered | signs
    · rcases List.mem_append.mp delivered with old | new
      · exact .inl old
      · exact absurd new (noDelivery side _)
    · exact .inr (signs.of_receiver arriving.flow.receiverRole notReceived effect)
  rcases arriving.flow.receiver_taken possible notBegun effect with
    ⟨flow, notAccepted⟩ | ⟨destination, flow, unopened, notReceiving, named, receiving⟩
  · exact ⟨path, arriving.owner, flow, began, only, opened, fun signs =>
      (arriving.sound (signsBefore signs)).of_receiver notReceived notAccepted effect⟩
  · refine ⟨some destination, arriving.owner, flow, began, only, ?_, ?_⟩
    · intro given same
      obtain rfl := Option.some.inj same
      have event := recorded _ notReceiving receiving
      rw [offered named] at event
      exact List.mem_append_right _ event
    · intro signs
      obtain ⟨given, isOpen, -⟩ := arriving.sound (signsBefore signs)
      rw [unopened] at isOpen
      contradiction

theorem sender_receives
    (arriving : Arriving history side transfer source path sender receiver)
    {packet : Packet} {rest : List Packet} {outcome : WriteOutcome}
    (queue : receiver.outgoing = packet :: rest)
    (noBegan : ∀ owner given bytes announced, .began owner given bytes announced ∉ fresh)
    (noDelivery : ∀ given, .delivered side given ∈ fresh → given = packet)
    (effect : RTCClient.Effect sender (.receive packet outcome) next []) :
    Arriving (history ++ fresh) side transfer source path next
      { receiver with outgoing := rest } := by
  obtain ⟨began, only, opened⟩ := arriving.record noBegan
  have inFlight : packet ∈ receiver.outgoing := by
    rw [queue]
    exact List.mem_cons_self
  refine ⟨arriving.owner, arriving.flow.sender_receives queue effect, began, only, opened, ?_⟩
  intro signs
  apply arriving.sound
  rcases signs with delivered | signs
  · rcases List.mem_append.mp delivered with old | new
    · exact .inl old
    · right; left
      refine ⟨some transfer, ?_⟩
      rw [noDelivery _ new]
      exact inFlight
  · refine signs.of_sender arriving.flow.senderRole ?_ ?_ (by simp) effect
    · intro other member
      rw [queue]
      exact List.mem_cons_of_mem _ member
    · intro given result same
      obtain ⟨rfl, rfl⟩ := Input.receive.inj same
      exact inFlight

theorem receiver_receives
    (arriving : Arriving history side transfer source path sender receiver)
    {packet : Packet} {rest : List Packet} {outcome : WriteOutcome}
    (queue : sender.outgoing = packet :: rest)
    (noBegan : ∀ owner given bytes announced, .began owner given bytes announced ∉ fresh)
    (noDelivery : ∀ given, .delivered side given ∉ fresh)
    (effect : RTCClient.Effect receiver (.receive packet outcome) next []) :
    Arriving (history ++ fresh) side transfer source path
      { sender with outgoing := rest } next := by
  obtain ⟨began, only, opened⟩ := arriving.record noBegan
  refine ⟨arriving.owner, arriving.flow.receiver_receives queue effect, began, only, opened, ?_⟩
  intro signs
  refine SuccessSigns.of_receive arriving.flow arriving.sound queue effect ?_
  rcases signs with delivered | signs
  · rcases List.mem_append.mp delivered with old | new
    · exact .inl old
    · exact absurd new (noDelivery _)
  · exact .inr signs

end Arriving

end Session

end WebrtcFileSender
