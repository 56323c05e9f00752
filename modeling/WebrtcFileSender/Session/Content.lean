import WebrtcFileSender.Session.Integrity

/-!
Contract: what the destination of a running transfer holds.

The invariant of the transfer keeps count of the bytes. This one keeps their order,
also when writes fail: a failing write loses its chunk, and the cleanup that it asks
for may run after further chunks have been written.

Owns: the order of the bytes that are written and ahead, and its preservation by every
action of the two ends.
-/

namespace WebrtcFileSender

namespace Session

open RTCClient

/-- The file that is being received holds bytes of the source in order, and only
bytes that come later in the source are still ahead. -/
def Content (lossless : Prop) (sender receiver : RTCClient) (source : Bytes) : Prop :=
  ∀ handle ∈ receiver.recvHandle,
    Pipeline.Ordered lossless source (receiver.disk handle.path) (ahead sender receiver)

/-- Before the accept at most the whole file is ahead. -/
theorem Unopened.ahead_initial {sender receiver : RTCClient} {transfer : TransferId}
    {source : Bytes}
    (unopened : Unopened sender receiver)
    (role : SenderRole sender transfer source) (after : RTCClient) :
    ahead sender after <+: source := by
  have noFlight : sender.flight = [] := List.flatMap_eq_nil_iff.mpr unopened.noBytes
  have noHand : sender.hand = [] := by
    rw [hand, unopened.noLoop]
    rfl
  have whole : sender.unread <+: source := by
    unfold unread
    cases sending : sender.sendHandle with
    | none => exact List.nil_prefix
    | some handle =>
        simp only [unopened.atStart handle sending, List.drop_zero,
          (role.handle handle sending).2, List.prefix_rfl]
  rw [ahead, outlook, noFlight, noHand, List.nil_append, List.nil_append]
  split
  · split
    · exact whole
    · exact List.nil_prefix
  · exact List.nil_prefix

namespace Content

variable {lossless : Prop} {sender receiver next : RTCClient}
variable {transfer : TransferId} {source : Bytes} {path : Option String}
variable {input : Input} {calls : List DelegateCall}

theorem sender_taken
    (content : Content lossless sender receiver source)
    (flow : Flow sender receiver transfer source path)
    (possible : Possible sender input)
    (notBegun : ∀ fileURL, input = .sendFileAtURL fileURL →
      sender.sendSucceeds fileURL = false)
    (effect : RTCClient.Effect sender input next calls) :
    Content lossless next receiver source := by
  intro handle receiving
  refine (content handle receiving).truncate (flow.senderRole.outlook ?_ notBegun ?_ ?_ ?_ effect)
  · rintro packet outcome rfl
    exact absurd possible id
  · rintro state rfl
    exact possible
  · rintro rfl
    exact possible
  · intro pending
    cases path with
    | none => exact Unopened.noLoop flow.phase
    | some destination => exact Opened.pending flow.phase pending

/-- An input that opens no destination. -/
theorem receiver_effect
    (content : Content lossless sender receiver source)
    (notReceived : ∀ packet outcome, input ≠ .receive packet outcome)
    (notAccepted : ∀ destination, input = .acceptIncomingFileToURL destination →
      receiver.canAccept = true → destination.openError ≠ none)
    (effect : RTCClient.Effect receiver input next calls) :
    Content lossless sender next source := by
  have notEmitted : ∀ packet, Emits receiver input packet →
      packet.message.isAccept = false := by
    intro packet emits
    cases emits with
    | accept destination accepts opens =>
        exact absurd opens (notAccepted destination rfl accepts)
    | offer | cancel | reject | unopened | busy | received | chunk | done | hello => rfl
  obtain ⟨sameDisk, reception⟩ := reception_of_effect notReceived notAccepted effect
  intro handle receiving
  rcases reception with ⟨same, -, -⟩ | ⟨closed, -⟩
  · rw [same] at receiving
    rw [sameDisk]
    exact (content handle receiving).truncate
      (ahead_mono sender (count_of_effect notEmitted effect))
  · rw [closed] at receiving
    contradiction

/-- The destination is opened, and the whole file is ahead. -/
theorem receiver_accepts
    (flow : Flow sender receiver transfer source none) (destination : Destination) :
    Content lossless sender
      { receiver with
        disk := Function.update receiver.disk destination.path []
        recvHandle := some
          ⟨destination.path, receiver.incomingTransfer, receiver.incomingBirth⟩
        recvBytesReceived := 0
        outgoing := receiver.queued ⟨.ftAccept, receiver.incomingTransfer⟩ } source := by
  intro handle receiving
  obtain rfl := Option.some.inj receiving
  simp only [Function.update_self]
  exact .start (Unopened.ahead_initial flow.phase flow.senderRole _)

/-- The receiver acts by itself. -/
theorem receiver_taken
    (content : Content lossless sender receiver source)
    (flow : Flow sender receiver transfer source path)
    (possible : Possible receiver input)
    (effect : RTCClient.Effect receiver input next calls) :
    Content lossless sender next source := by
  have notReceived : ∀ packet outcome, input ≠ .receive packet outcome := by
    rintro packet outcome rfl
    exact possible
  by_cases accepted : ∃ destination, input = .acceptIncomingFileToURL destination ∧
      receiver.canAccept = true ∧ destination.openError = none
  · obtain ⟨destination, rfl, accepts, opens⟩ := accepted
    cases effect with
    | accepted =>
        cases path with
        | none => exact receiver_accepts flow destination
        | some opened =>
            simp only [canAccept, Bool.and_eq_true, Option.isNone_iff_eq_none] at accepts
            have engaged := Opened.engaged flow.phase accepts.1.1
            rw [accepts.2] at engaged
            contradiction
    | unopened given error _ fails =>
        rw [opens] at fails
        contradiction
    | nothing _ _ _ notAccepted =>
        rw [notAccepted destination rfl] at accepts
        contradiction
  · refine content.receiver_effect notReceived ?_ effect
    exact fun destination same accepts opens => accepted ⟨destination, same, accepts, opens⟩

/-- The accept starts the loop, and what it stood for is ahead as before. -/
theorem ahead_accepted
    (flow : Flow sender receiver transfer source path)
    {packet : Packet} {rest : List Packet} {outcome : WriteOutcome}
    (queue : receiver.outgoing = packet :: rest)
    (isAccept : packet.message = .ftAccept)
    (counted : receiver.count Message.isAccept =
      { receiver with outgoing := rest }.count Message.isAccept + 1)
    (effect : RTCClient.Effect sender (.receive packet outcome) next []) :
    ahead next { receiver with outgoing := rest } <+: ahead sender receiver := by
  cases path with
  | none =>
      have noAccept := Unopened.noAccept flow.phase
      omega
  | some destination =>
      have opened : Opened sender receiver source destination := flow.phase
      have wasPending : receiver.acceptPending = true := by
        simp only [acceptPending, decide_eq_true_eq]
        omega
      have notPending : acceptPending { receiver with outgoing := rest } = false := by
        have atMostOne := opened.oneAccept
        simp only [acceptPending, decide_eq_false_iff_not]
        omega
      have same : next.outlook false = sender.outlook true := by
        obtain ⟨message, tag⟩ := packet
        obtain rfl : message = .ftAccept := isAccept
        cases effect with
        | started handle => exact outlook_started (opened.pending wasPending)
        | ended _ _ _ _ ends => contradiction
        | nothing _ _ notReceived =>
            rcases notReceived _ _ rfl with ⟨-, notSending⟩ | ⟨data, isBinary, -⟩
            · exact (outlook_of_not_sending notSending).symm
            · contradiction
      simp only [ahead, notPending, same, wasPending, List.prefix_rfl]

/-- A packet of the receiver reaches the sender. -/
theorem sender_receives
    (content : Content lossless sender receiver source)
    (flow : Flow sender receiver transfer source path)
    {packet : Packet} {rest : List Packet} {outcome : WriteOutcome}
    (queue : receiver.outgoing = packet :: rest)
    (effect : RTCClient.Effect sender (.receive packet outcome) next []) :
    Content lossless next { receiver with outgoing := rest } source := by
  have counted := count_delivered queue Message.isAccept
  have nearer : ahead next { receiver with outgoing := rest } <+: ahead sender receiver := by
    by_cases isAccept : packet.message = .ftAccept
    · rw [isAccept] at counted
      simp only [Message.isAccept, if_true] at counted
      exact ahead_accepted flow queue isAccept counted effect
    · have notAccept : packet.message.isAccept = false := by
        cases kind : packet.message with
        | ftAccept => exact absurd kind isAccept
        | hello | ftOffer | ftReject | ftCancel | ftDone | binary => rfl
      rw [notAccept] at counted
      have samePending : acceptPending { receiver with outgoing := rest } =
          receiver.acceptPending := by
        simp only [acceptPending, counted]
        rfl
      rw [ahead, samePending]
      refine flow.senderRole.outlook ?_ (by simp) (by simp) (by simp) ?_ effect
      · intro given result same
        obtain ⟨rfl, rfl⟩ := Input.receive.inj same
        exact ⟨flow.receiverRole.packets packet (by simp [queue]), isAccept⟩
      · intro pending
        cases path with
        | none => exact Unopened.noLoop flow.phase
        | some destination => exact Opened.pending flow.phase pending
  exact fun handle receiving => (content handle receiving).truncate nearer

/-- A delivery to a client that receives a file: its payload is appended, or there is
none, or the write has failed. -/
theorem written_or_lost
    {packet : Packet} {outcome : WriteOutcome} {handle : WriteHandle}
    (receiving : receiver.recvHandle = some handle)
    (sized : receiver.recvTotalBytes ≠ 0)
    (effect : RTCClient.Effect receiver (.receive packet outcome) next []) :
    next.recvHandle = some handle ∧
    (next.disk = Function.update receiver.disk handle.path
        (receiver.disk handle.path ++ packet.payload) ∨
      (next.disk = receiver.disk ∧
        (packet.payload = [] ∨ ∃ reason, outcome = .raised reason))) := by
  cases effect with
  | greeted | busy | started => exact ⟨receiving, .inr ⟨rfl, .inl rfl⟩⟩
  | ended message tag outcome error ends =>
      refine ⟨receiving, .inr ⟨rfl, .inl ?_⟩⟩
      cases message with
      | ftReject | ftCancel | ftDone => rfl
      | hello | ftOffer | ftAccept | binary => contradiction
  | offered name size chunk tag outcome notSending notReceiving =>
      rw [notReceiving] at receiving
      contradiction
  | writeFailed data tag reason => exact ⟨receiving, .inr ⟨rfl, .inr ⟨reason, rfl⟩⟩⟩
  | stored data tag given isReceiving | completed data tag given isReceiving =>
      obtain rfl := Option.some.inj (receiving.symm.trans isReceiving)
      exact ⟨receiving, .inl rfl⟩
  | nothing _ _ notReceived =>
      rcases notReceived _ _ rfl with ⟨isAccept, -⟩ | ⟨data, -, idle | unsized⟩
      · refine ⟨receiving, .inr ⟨rfl, .inl ?_⟩⟩
        rw [Packet.payload, isAccept]
      · rw [receiving] at idle
        contradiction
      · exact absurd unsized sized

/-- A packet of the sender reaches the receiver. -/
theorem receiver_receives
    (content : Content lossless sender receiver source)
    (flow : Flow sender receiver transfer source path)
    {packet : Packet} {rest : List Packet} {outcome : WriteOutcome}
    (queue : sender.outgoing = packet :: rest)
    (writes : lossless → outcome = .written)
    (effect : RTCClient.Effect receiver (.receive packet outcome) next []) :
    Content lossless { sender with outgoing := rest } next source := by
  intro handle receivingAfter
  cases receiving : receiver.recvHandle with
  | none =>
      rw [(idle_of_receive receiving effect).1] at receivingAfter
      contradiction
  | some old =>
      have role := flow.receiverRole
      have sized : receiver.recvTotalBytes ≠ 0 := by
        rw [role.sized (role.named (by simp [receiving]))]
        exact fun empty => flow.nonempty (List.length_eq_zero_iff.mp empty)
      obtain ⟨sameHandle, written⟩ := written_or_lost receiving sized effect
      obtain rfl : old = handle := Option.some.inj (sameHandle.symm.trans receivingAfter)
      have before := content old receiving
      rw [ahead, outlook_delivered (flow.senderRole.isOpen_of_queue queue) queue] at before
      refine Pipeline.Ordered.truncate ?_
        (ahead_mono _ (count_of_effect not_accept_of_receive effect))
      rcases written with appended | ⟨sameDisk, nothing | ⟨reason, fails⟩⟩
      · rw [appended, Function.update_self]
        exact before.take
      · rw [sameDisk]
        exact before.lose (.inr nothing)
      · rw [sameDisk]
        refine before.lose (.inl fun keeps => ?_)
        rw [writes keeps] at fails
        contradiction

end Content

end Session

end WebrtcFileSender
