import WebrtcFileSender.Library.Pipeline
import WebrtcFileSender.Session.Outlook

/-!
Contract: the bytes of one transfer arrive in order or not at all.

A transfer goes through two phases: before its destination is opened nothing of
the file has left the sender; afterwards the destination is conserved. It is an
initial part of the source as long as nothing is lost, and once a write has
failed its counter can no longer reach the announced size.

Owns: the two phases and the proof that every action of either client keeps
them, whatever is cancelled, rejected, closed or lost.
-/

namespace WebrtcFileSender

namespace Session

open RTCClient

/-- The bytes that can still reach the receiver, in order. -/
def ahead (sender receiver : RTCClient) : Bytes :=
  sender.outlook receiver.acceptPending

/-- The offer may be on its way, pending or gone; nothing has been accepted. -/
structure Unopened (sender receiver : RTCClient) : Prop where
  notReceiving : receiver.recvHandle = none
  noAccept : receiver.count Message.isAccept = 0
  noLoop : sender.fileQueue = []
  noBytes : ∀ packet ∈ sender.outgoing, packet.payload = []
  atStart : ∀ handle ∈ sender.sendHandle, handle.offset = 0
  oneOffer : sender.count Message.isOffer ≤ 1
  offered : receiver.incomingFileName.isSome = true → sender.count Message.isOffer = 0

/-- The offer was accepted once, into the file at `path`. -/
structure Opened (sender receiver : RTCClient) (source : Bytes) (path : String) : Prop where
  noOffer : sender.count Message.isOffer = 0
  engaged : receiver.incomingFileName.isSome = true → receiver.recvHandle.isSome = true
  oneAccept : receiver.count Message.isAccept ≤ 1
  pending : receiver.acceptPending = true → sender.fileQueue = []
  content : ∀ handle ∈ receiver.recvHandle, handle.path = path ∧
    Pipeline.Conserved source (receiver.disk path) (ahead sender receiver)
      receiver.recvBytesReceived

def Phase (sender receiver : RTCClient) (source : Bytes) : Option String → Prop
  | none => Unopened sender receiver
  | some path => Opened sender receiver source path

/-- One transfer between two clients, with the path of its destination once that
is open. -/
structure Flow (sender receiver : RTCClient) (transfer : TransferId) (source : Bytes)
    (path : Option String) : Prop where
  nonempty : source ≠ []
  bounded : source.length < 2 ^ 63
  senderRole : SenderRole sender transfer source
  receiverRole : ReceiverRole receiver source
  phase : Phase sender receiver source path

variable {sender receiver next : RTCClient} {input : Input} {calls : List DelegateCall}
variable {source : Bytes} {transfer : TransferId} {path : Option String}

/-! ## The sender acts -/

theorem noLoop_of_effect
    (noLoop : sender.fileQueue = [])
    (received : ∀ packet outcome, input = .receive packet outcome →
      packet.message ≠ .ftAccept)
    (effect : RTCClient.Effect sender input next calls) :
    next.fileQueue = [] := by
  apply List.eq_nil_iff_forall_not_mem.mpr
  intro loop member
  rcases loop_before effect member with
    ⟨old, inQueue, -⟩ | ⟨handle, tag, outcome, -, -, isAccept⟩
  · rw [noLoop] at inQueue
    contradiction
  · exact received _ _ isAccept rfl

theorem noBytes_of_effect
    (noLoop : sender.fileQueue = [])
    (noBytes : ∀ packet ∈ sender.outgoing, packet.payload = [])
    (effect : RTCClient.Effect sender input next calls) :
    ∀ packet ∈ next.outgoing, packet.payload = [] := by
  intro packet member
  rcases mem_outgoing_of_effect effect member with old | emitted
  · exact noBytes packet old
  · cases emitted with
    | chunk given loop rest chunk retries queue =>
        rw [noLoop] at queue
        contradiction
    | offer | cancel | reject | accept | unopened | busy | received | done | hello => rfl

/-- Without a loop and without a new send the handle stays or is closed. -/
theorem sendHandle_of_effect
    (noLoop : sender.fileQueue = [])
    (notBegun : ∀ fileURL, input = .sendFileAtURL fileURL →
      sender.sendSucceeds fileURL = false)
    (effect : RTCClient.Effect sender input next calls) :
    next.sendHandle = sender.sendHandle ∨ next.sendHandle = none := by
  cases effect with
  | began fileURL file isOpen notSending notReceiving sized opened =>
      have succeeds := sendSucceeds_of_idle isOpen notSending notReceiving sized opened
      rw [notBegun fileURL rfl] at succeeds
      contradiction
  | cancelled =>
      rw [cancelFileTransfer_eq]
      exact .inl rfl
  | rejected =>
      rw [rejectIncomingFileWithReason_eq]
      exact .inl rfl
  | cleaned => exact .inr rfl
  | looped given loop rest queue =>
      rw [noLoop] at queue
      contradiction
  | channelChanged state =>
      obtain ⟨outgoing, result⟩ := sender.dataChannelDidChangeState_eq state
      rw [result]
      exact .inl rfl
  | accepted | unopened | greeted | busy | offered | started | ended | writeFailed | stored
  | completed | transmitted | reported | iceLost | iceIdle | iceChanged | nothing =>
      exact .inl rfl

theorem not_offer_of_emits
    (notBegun : ∀ fileURL, input = .sendFileAtURL fileURL →
      sender.sendSucceeds fileURL = false)
    (packet : Packet) (emits : Emits sender input packet) :
    packet.message.isOffer = false := by
  cases emits with
  | offer fileURL name size succeeds =>
      rw [notBegun fileURL rfl] at succeeds
      contradiction
  | cancel | reject | accept | unopened | busy | received | chunk | done | hello => rfl

namespace Phase

/-- The sender takes an input, or receives anything but an accept. -/
theorem sender_effect
    (phase : Phase sender receiver source path)
    (role : SenderRole sender transfer source)
    (received : ∀ packet outcome, input = .receive packet outcome →
      packet.FromReceiver ∧ packet.message ≠ .ftAccept)
    (notBegun : ∀ fileURL, input = .sendFileAtURL fileURL →
      sender.sendSucceeds fileURL = false)
    (forward : ∀ state, input = .dataChannelState state →
      RTCDataChannelState.Follows sender.readyState state)
    (notTransmitted : input ≠ .transmit)
    (effect : RTCClient.Effect sender input next calls) :
    Phase next receiver source path := by
  have notAccept : ∀ packet outcome, input = .receive packet outcome →
      packet.message ≠ .ftAccept :=
    fun packet outcome same => (received packet outcome same).2
  have fewerOffers : next.count Message.isOffer ≤ sender.count Message.isOffer :=
    count_of_effect (not_offer_of_emits notBegun) effect
  cases path with
  | none =>
      have unopened : Unopened sender receiver := phase
      refine ⟨unopened.notReceiving, unopened.noAccept,
        noLoop_of_effect unopened.noLoop notAccept effect,
        noBytes_of_effect unopened.noLoop unopened.noBytes effect, ?_, ?_, ?_⟩
      · intro handle sending
        rcases sendHandle_of_effect unopened.noLoop notBegun effect with same | closed
        · rw [same] at sending
          exact unopened.atStart handle sending
        · rw [closed] at sending
          contradiction
      · exact Nat.le_trans fewerOffers unopened.oneOffer
      · intro named
        have gone := unopened.offered named
        omega
  | some path =>
      have opened : Opened sender receiver source path := phase
      refine ⟨?_, opened.engaged, opened.oneAccept, ?_, ?_⟩
      · have gone := opened.noOffer
        omega
      · intro pending
        exact noLoop_of_effect (opened.pending pending) notAccept effect
      · intro handle receiving
        obtain ⟨samePath, conserved⟩ := opened.content handle receiving
        exact ⟨samePath, conserved.truncate
          (role.outlook received notBegun forward notTransmitted opened.pending effect)⟩

end Phase

/-! ## The receiver acts -/

theorem ahead_mono (sender : RTCClient) {receiver next : RTCClient}
    (fewer : next.count Message.isAccept ≤ receiver.count Message.isAccept) :
    ahead sender next <+: ahead sender receiver := by
  unfold ahead
  cases stillPending : next.acceptPending with
  | true =>
      have pending : receiver.acceptPending = true := by
        simp only [acceptPending, decide_eq_true_eq] at stillPending ⊢
        omega
      simp only [pending, List.prefix_rfl]
  | false =>
      cases receiver.acceptPending with
      | true => exact sender.outlook_mono
      | false => exact List.prefix_rfl

/-- An input that neither receives nor opens a destination keeps what is being
received, or a cleanup has closed it. -/
theorem reception_of_effect
    (notReceived : ∀ packet outcome, input ≠ .receive packet outcome)
    (notAccepted : ∀ destination, input = .acceptIncomingFileToURL destination →
      receiver.canAccept = true → destination.openError ≠ none)
    (effect : RTCClient.Effect receiver input next calls) :
    next.disk = receiver.disk ∧
    ((next.recvHandle = receiver.recvHandle ∧
        next.incomingFileName = receiver.incomingFileName ∧
        next.recvBytesReceived = receiver.recvBytesReceived) ∨
      (next.recvHandle = none ∧ next.incomingFileName = none)) := by
  cases effect with
  | began =>
      rw [beginSending_eq]
      exact ⟨rfl, .inl ⟨rfl, rfl, rfl⟩⟩
  | cancelled =>
      rw [cancelFileTransfer_eq]
      exact ⟨rfl, .inl ⟨rfl, rfl, rfl⟩⟩
  | rejected =>
      rw [rejectIncomingFileWithReason_eq]
      exact ⟨rfl, .inl ⟨rfl, rfl, rfl⟩⟩
  | accepted destination accepts opens =>
      exact absurd opens (notAccepted destination rfl accepts)
  | greeted | busy | offered | started | ended | writeFailed | stored | completed =>
      exact absurd rfl (notReceived _ _)
  | cleaned => exact ⟨rfl, .inr ⟨rfl, rfl⟩⟩
  | looped given loop rest queue =>
      obtain ⟨handle, sent, packets, blocks, result, -⟩ :=
        receiver.loopStatement_change loop.transfer given loop.point
      rw [result]
      exact ⟨rfl, .inl ⟨rfl, rfl, rfl⟩⟩
  | channelChanged state =>
      obtain ⟨outgoing, result⟩ := receiver.dataChannelDidChangeState_eq state
      rw [result]
      exact ⟨rfl, .inl ⟨rfl, rfl, rfl⟩⟩
  | unopened | transmitted | reported | iceLost | iceIdle | iceChanged | nothing =>
      exact ⟨rfl, .inl ⟨rfl, rfl, rfl⟩⟩

namespace Phase

/-- The receiver takes an input that opens no destination. -/
theorem receiver_effect
    (phase : Phase sender receiver source path)
    (notReceived : ∀ packet outcome, input ≠ .receive packet outcome)
    (notAccepted : ∀ destination, input = .acceptIncomingFileToURL destination →
      receiver.canAccept = true → destination.openError ≠ none)
    (effect : RTCClient.Effect receiver input next calls) :
    Phase sender next source path := by
  have notEmitted : ∀ packet, Emits receiver input packet →
      packet.message.isAccept = false := by
    intro packet emits
    cases emits with
    | accept destination accepts opens =>
        exact absurd opens (notAccepted destination rfl accepts)
    | offer | cancel | reject | unopened | busy | received | chunk | done | hello => rfl
  have fewer : next.count Message.isAccept ≤ receiver.count Message.isAccept :=
    count_of_effect notEmitted effect
  obtain ⟨sameDisk, reception⟩ := reception_of_effect notReceived notAccepted effect
  cases path with
  | none =>
      have unopened : Unopened sender receiver := phase
      refine ⟨?_, ?_, unopened.noLoop, unopened.noBytes, unopened.atStart, unopened.oneOffer,
        ?_⟩
      · rcases reception with ⟨same, -⟩ | ⟨closed, -⟩
        · rw [same]
          exact unopened.notReceiving
        · exact closed
      · have noAccept := unopened.noAccept
        omega
      · intro named
        rcases reception with ⟨-, same, -⟩ | ⟨-, cleared⟩
        · rw [same] at named
          exact unopened.offered named
        · rw [cleared] at named
          contradiction
  | some path =>
      have opened : Opened sender receiver source path := phase
      refine ⟨opened.noOffer, ?_, Nat.le_trans fewer opened.oneAccept, ?_, ?_⟩
      · rcases reception with ⟨sameReceive, sameName, -⟩ | ⟨-, cleared⟩
        · rw [sameReceive, sameName]
          exact opened.engaged
        · intro named
          rw [cleared] at named
          contradiction
      · intro stillPending
        apply opened.pending
        simp only [acceptPending, decide_eq_true_eq] at stillPending ⊢
        omega
      · intro handle receiving
        rcases reception with ⟨sameReceive, -, sameBytes⟩ | ⟨closed, -⟩
        · rw [sameReceive] at receiving
          obtain ⟨samePath, conserved⟩ := opened.content handle receiving
          rw [sameDisk, sameBytes]
          exact ⟨samePath, conserved.truncate (ahead_mono sender fewer)⟩
        · rw [closed] at receiving
          contradiction

/-- The receiver opens the destination. -/
theorem receiver_accepts
    (unopened : Unopened sender receiver)
    (senderRole : SenderRole sender transfer source)
    (destination : Destination)
    (accepts : receiver.canAccept = true) :
    Opened sender
      { receiver with
        disk := Function.update receiver.disk destination.path []
        recvHandle := some
          ⟨destination.path, receiver.incomingTransfer, receiver.incomingBirth⟩
        recvBytesReceived := 0
        outgoing := receiver.queued ⟨.ftAccept, receiver.incomingTransfer⟩ }
      source destination.path := by
  simp only [canAccept, Bool.and_eq_true] at accepts
  have noAccept : receiver.outgoing.countP (fun packet => packet.message.isAccept) = 0 :=
    unopened.noAccept
  refine ⟨unopened.offered accepts.1.1, fun _ => rfl, ?_, fun _ => unopened.noLoop, ?_⟩
  · rcases receiver.queued_cases ⟨.ftAccept, receiver.incomingTransfer⟩ with
      appended | unchanged
    · rw [count, appended, List.countP_append, noAccept]
      exact Nat.le_refl 1
    · rw [count, unchanged, noAccept]
      exact Nat.zero_le 1
  · intro handle same
    obtain rfl := Option.some.inj same
    refine ⟨rfl, ?_⟩
    simp only [Function.update_self]
    -- Nothing has left the sender yet, so what is ahead is what the handle holds.
    have noFlight : sender.flight = [] := List.flatMap_eq_nil_iff.mpr unopened.noBytes
    have noHand : sender.hand = [] := by rw [hand, unopened.noLoop]; rfl
    have whole : sender.unread <+: source := by
      unfold unread
      cases sending : sender.sendHandle with
      | none => exact List.nil_prefix
      | some handle =>
          simp only [unopened.atStart handle sending, List.drop_zero]
          simp only [(senderRole.handle handle sending).2, List.prefix_rfl]
    apply Pipeline.Conserved.start
    rw [ahead, outlook, noFlight, noHand]
    split
    · simp only [List.nil_append]
      split
      · exact whole
      · exact List.nil_prefix
    · exact List.nil_prefix

end Phase

/-! ## Deliveries -/

theorem count_delivered {packet : Packet} {rest : List Packet} {client : RTCClient}
    (queue : client.outgoing = packet :: rest) (kind : Message → Bool) :
    client.count kind =
      { client with outgoing := rest }.count kind + (if kind packet.message then 1 else 0) := by
  rw [count, queue, List.countP_cons]
  rfl

/-- The accept is delivered to the sender, and the bytes that it stood for are now
those of the loop. -/
theorem Opened.sender_accepted {path : String}
    (opened : Opened sender receiver source path)
    {tag : Option TransferId} {rest : List Packet} {outcome : WriteOutcome}
    (queue : receiver.outgoing = ⟨.ftAccept, tag⟩ :: rest)
    (effect : RTCClient.Effect sender (.receive ⟨.ftAccept, tag⟩ outcome) next []) :
    Opened next { receiver with outgoing := rest } source path := by
  have counted := count_delivered queue Message.isAccept
  simp only [Message.isAccept, if_true] at counted
  have wasPending : receiver.acceptPending = true := by
    simp only [acceptPending, decide_eq_true_eq]
    omega
  have noneLeft : { receiver with outgoing := rest }.count Message.isAccept = 0 := by
    have atMostOne := opened.oneAccept
    omega
  have notPending : acceptPending { receiver with outgoing := rest } = false := by
    rw [acceptPending, noneLeft]
    rfl
  have same : next.outlook false = sender.outlook true ∧ next.outgoing = sender.outgoing := by
    cases effect with
    | started handle => exact ⟨outlook_started (opened.pending wasPending), rfl⟩
    | ended _ _ _ _ ends => contradiction
    | nothing _ _ notReceived =>
        rcases notReceived _ _ rfl with ⟨-, notSending⟩ | ⟨data, isBinary, -⟩
        · exact ⟨(outlook_of_not_sending notSending).symm, rfl⟩
        · contradiction
  refine ⟨?_, opened.engaged, ?_, ?_, ?_⟩
  · rw [count, same.2]
    exact opened.noOffer
  · rw [noneLeft]
    exact Nat.zero_le 1
  · rw [notPending]
    intro isPending
    contradiction
  · intro handle receiving
    obtain ⟨samePath, conserved⟩ := opened.content handle receiving
    rw [ahead, wasPending] at conserved
    rw [ahead, notPending, same.1]
    exact ⟨samePath, conserved⟩

/-- Any other packet of the receiver leaves the channel. -/
theorem Phase.receiver_delivered
    (phase : Phase sender receiver source path)
    {packet : Packet} {rest : List Packet}
    (queue : receiver.outgoing = packet :: rest)
    (other : packet.message ≠ .ftAccept) :
    Phase sender { receiver with outgoing := rest } source path := by
  have counted := count_delivered queue Message.isAccept
  have notAccept : packet.message.isAccept = false := by
    cases kind : packet.message with
    | ftAccept => exact absurd kind other
    | hello | ftOffer | ftReject | ftCancel | ftDone | binary => rfl
  rw [notAccept] at counted
  have sameCount : { receiver with outgoing := rest }.count Message.isAccept =
      receiver.count Message.isAccept := counted.symm
  have samePending : acceptPending { receiver with outgoing := rest } =
      receiver.acceptPending := by
    rw [acceptPending, sameCount, acceptPending]
  cases path with
  | none =>
      have unopened : Unopened sender receiver := phase
      exact ⟨unopened.notReceiving, sameCount.trans unopened.noAccept, unopened.noLoop,
        unopened.noBytes, unopened.atStart, unopened.oneOffer, unopened.offered⟩
  | some path =>
      have opened : Opened sender receiver source path := phase
      refine ⟨opened.noOffer, opened.engaged, ?_, ?_, ?_⟩
      · rw [sameCount]
        exact opened.oneAccept
      · rw [samePending]
        exact opened.pending
      · rw [ahead, samePending]
        exact opened.content

/-- A packet of the receiver is delivered to the sender. -/
theorem Phase.sender_receives
    (phase : Phase sender receiver source path)
    (senderRole : SenderRole sender transfer source)
    (receiverRole : ReceiverRole receiver source)
    {packet : Packet} {rest : List Packet} {outcome : WriteOutcome}
    (queue : receiver.outgoing = packet :: rest)
    (effect : RTCClient.Effect sender (.receive packet outcome) next []) :
    Phase next { receiver with outgoing := rest } source path := by
  by_cases isAccept : packet.message = .ftAccept
  · obtain ⟨message, tag⟩ := packet
    obtain rfl : message = .ftAccept := isAccept
    cases path with
    | none =>
        have unopened : Unopened sender receiver := phase
        have noAccept := unopened.noAccept
        have counted := count_delivered queue Message.isAccept
        simp only [Message.isAccept, if_true] at counted
        omega
    | some path =>
        have opened : Opened sender receiver source path := phase
        exact opened.sender_accepted queue effect
  · have fromReceiver : packet.FromReceiver := by
      apply receiverRole.packets
      rw [queue]
      exact List.mem_cons_self
    have delivered := phase.receiver_delivered queue isAccept
    refine delivered.sender_effect senderRole ?_ (by simp) (by simp) (by simp) effect
    intro given result same
    obtain ⟨rfl, rfl⟩ := Input.receive.inj same
    exact ⟨fromReceiver, isAccept⟩

theorem not_accept_of_receive {packet : Packet} {outcome : WriteOutcome}
    (emitted : Packet) (emits : Emits receiver (.receive packet outcome) emitted) :
    emitted.message.isAccept = false := by
  cases emits with
  | busy | received => rfl

/-- What a delivery does to a reception of the announced size: a chunk is
appended and counted, or it is lost, or the packet does not touch it. -/
theorem reception_of_receive
    {packet : Packet} {outcome : WriteOutcome} {handle : WriteHandle}
    (notOffer : packet.message.isOffer = false)
    (receiving : receiver.recvHandle = some handle)
    (effect : RTCClient.Effect receiver (.receive packet outcome) next []) :
    next.recvHandle = some handle ∧ next.incomingFileName = receiver.incomingFileName ∧
    ((next.disk = Function.update receiver.disk handle.path
          (receiver.disk handle.path ++ packet.payload) ∧
        next.recvBytesReceived = u64 (receiver.recvBytesReceived + packet.payload.length)) ∨
      (next.disk = receiver.disk ∧
        next.recvBytesReceived = receiver.recvBytesReceived)) := by
  cases effect with
  | greeted | busy | ended | started | writeFailed | nothing =>
      exact ⟨receiving, rfl, .inr ⟨rfl, rfl⟩⟩
  | offered => contradiction
  | stored data tag given isReceiving =>
      obtain rfl := Option.some.inj (receiving.symm.trans isReceiving)
      exact ⟨receiving, rfl, .inl ⟨rfl, rfl⟩⟩
  | completed data tag given isReceiving =>
      obtain rfl := Option.some.inj (receiving.symm.trans isReceiving)
      exact ⟨receiving, rfl, .inl ⟨rfl, rfl⟩⟩

/-- Without a reception, only an offer that becomes pending changes anything. -/
theorem idle_of_receive
    {packet : Packet} {outcome : WriteOutcome}
    (notReceiving : receiver.recvHandle = none)
    (effect : RTCClient.Effect receiver (.receive packet outcome) next []) :
    next.recvHandle = none ∧ next.disk = receiver.disk ∧
      (next.incomingFileName = receiver.incomingFileName ∨
        packet.message.isOffer = true) := by
  cases effect with
  | greeted | busy | ended | started | nothing => exact ⟨notReceiving, rfl, .inl rfl⟩
  | offered => exact ⟨notReceiving, rfl, .inr rfl⟩
  | writeFailed data tag reason handle receiving
  | stored data tag handle receiving
  | completed data tag handle receiving =>
      rw [notReceiving] at receiving
      contradiction

/-- Before the accept nothing of the sender but its offer counts. -/
theorem Unopened.receiver_receives
    (unopened : Unopened sender receiver)
    {packet : Packet} {rest : List Packet} {outcome : WriteOutcome}
    (queue : sender.outgoing = packet :: rest)
    (effect : RTCClient.Effect receiver (.receive packet outcome) next []) :
    Unopened { sender with outgoing := rest } next := by
  have offers := count_delivered queue Message.isOffer
  have oneOffer := unopened.oneOffer
  obtain ⟨notReceiving, -, named⟩ := idle_of_receive unopened.notReceiving effect
  refine ⟨notReceiving, ?_, unopened.noLoop, ?_, unopened.atStart, ?_, ?_⟩
  · have fewer : next.count Message.isAccept ≤ receiver.count Message.isAccept :=
      count_of_effect not_accept_of_receive effect
    have noAccept := unopened.noAccept
    omega
  · intro other member
    apply unopened.noBytes
    rw [queue]
    exact List.mem_cons_of_mem _ member
  · omega
  · intro isNamed
    rcases named with same | isOffer
    · rw [same] at isNamed
      have noOffer := unopened.offered isNamed
      omega
    · rw [isOffer] at offers
      simp only [if_true] at offers
      omega

/-- After the accept the next bytes of the file move to the destination, or they
are lost together with all that follow. -/
theorem Opened.receiver_receives {path : String}
    (opened : Opened sender receiver source path)
    (bounded : source.length < 2 ^ 63)
    (isOpen : sender.isDataChannelOpen = true)
    {packet : Packet} {rest : List Packet} {outcome : WriteOutcome}
    (queue : sender.outgoing = packet :: rest)
    (effect : RTCClient.Effect receiver (.receive packet outcome) next []) :
    Opened { sender with outgoing := rest } next source path := by
  have offers := count_delivered queue Message.isOffer
  have fewer : next.count Message.isAccept ≤ receiver.count Message.isAccept :=
    count_of_effect not_accept_of_receive effect
  have noOffer := opened.noOffer
  have notOffer : packet.message.isOffer = false := by
    cases isOffer : packet.message.isOffer with
    | false => rfl
    | true =>
        rw [isOffer] at offers
        simp only [if_true] at offers
        omega
  refine ⟨by omega, ?_, Nat.le_trans fewer opened.oneAccept, ?_, ?_⟩
  · intro named
    cases receiving : receiver.recvHandle with
    | some handle =>
        rw [(reception_of_receive notOffer receiving effect).1]
        rfl
    | none =>
        obtain ⟨-, -, same | isOffer⟩ := idle_of_receive receiving effect
        · rw [same] at named
          have engaged := opened.engaged named
          rw [receiving] at engaged
          contradiction
        · rw [notOffer] at isOffer
          contradiction
  · intro stillPending
    apply opened.pending
    simp only [acceptPending, decide_eq_true_eq] at stillPending ⊢
    omega
  · intro handle receivingAfter
    cases receiving : receiver.recvHandle with
    | none =>
        rw [(idle_of_receive receiving effect).1] at receivingAfter
        contradiction
    | some old =>
        obtain ⟨sameHandle, -, reception⟩ := reception_of_receive notOffer receiving effect
        obtain rfl : old = handle := Option.some.inj (sameHandle.symm.trans receivingAfter)
        obtain ⟨samePath, conserved⟩ := opened.content old receiving
        rw [ahead, outlook_delivered isOpen queue] at conserved
        have shorter : ahead { sender with outgoing := rest } next <+:
            { sender with outgoing := rest }.outlook receiver.acceptPending :=
          ahead_mono _ fewer
        refine ⟨samePath, Pipeline.Conserved.truncate ?_ shorter⟩
        rcases reception with ⟨appended, counted⟩ | ⟨sameDisk, sameBytes⟩
        · have small := conserved.count_le
          rw [List.length_append] at small
          have noOverflow :
              u64 (receiver.recvBytesReceived + packet.payload.length) =
                receiver.recvBytesReceived + packet.payload.length :=
            Nat.mod_eq_of_lt (by omega)
          rw [appended, counted, samePath, Function.update_self, noOverflow]
          exact conserved.take
        · rw [sameDisk, sameBytes]
          exact conserved.lose

/-- A packet of the sender is delivered to the receiver. -/
theorem Phase.receiver_receives
    (phase : Phase sender receiver source path)
    (bounded : source.length < 2 ^ 63)
    (senderRole : SenderRole sender transfer source)
    {packet : Packet} {rest : List Packet} {outcome : WriteOutcome}
    (queue : sender.outgoing = packet :: rest)
    (effect : RTCClient.Effect receiver (.receive packet outcome) next []) :
    Phase { sender with outgoing := rest } next source path := by
  cases path with
  | none =>
      have unopened : Unopened sender receiver := phase
      exact unopened.receiver_receives queue effect
  | some path =>
      have opened : Opened sender receiver source path := phase
      exact opened.receiver_receives bounded (senderRole.isOpen_of_queue queue) queue effect

/-! ## The flow of one transfer -/

namespace Flow

/-- The sender takes an input other than a new send. -/
theorem sender_taken
    (flow : Flow sender receiver transfer source path)
    (possible : Possible sender input)
    (notBegun : ∀ fileURL, input = .sendFileAtURL fileURL →
      sender.sendSucceeds fileURL = false)
    (effect : RTCClient.Effect sender input next calls) :
    Flow next receiver transfer source path := by
  have notReceived : ∀ packet outcome, input ≠ .receive packet outcome := by
    rintro packet outcome rfl
    exact possible
  have notTransmitted : input ≠ .transmit := by
    rintro rfl
    exact possible
  have forward : ∀ state, input = .dataChannelState state →
      RTCDataChannelState.Follows sender.readyState state := by
    rintro state rfl
    exact possible
  refine ⟨flow.nonempty, flow.bounded, ?_, flow.receiverRole, ?_⟩
  · exact flow.senderRole.effect
      (fun packet outcome same => absurd same (notReceived packet outcome)) notBegun forward
      effect
  · exact flow.phase.sender_effect flow.senderRole
      (fun packet outcome same => absurd same (notReceived packet outcome)) notBegun forward
      notTransmitted effect

/-- The receiver takes an input other than a new send: the phase stays, or the
pending offer is accepted. -/
theorem receiver_taken
    (flow : Flow sender receiver transfer source path)
    (possible : Possible receiver input)
    (notBegun : ∀ fileURL, input = .sendFileAtURL fileURL →
      receiver.sendSucceeds fileURL = false)
    (effect : RTCClient.Effect receiver input next calls) :
    (Flow sender next transfer source path ∧
      ∀ destination, input = .acceptIncomingFileToURL destination →
        receiver.canAccept = true → destination.openError ≠ none) ∨
    ∃ opened, Flow sender next transfer source (some opened) ∧ path = none ∧
      receiver.recvHandle = none ∧ receiver.incomingFileName.isSome = true ∧
      next.recvHandle =
        some ⟨opened, receiver.incomingTransfer, receiver.incomingBirth⟩ := by
  have notReceived : ∀ packet outcome, input ≠ .receive packet outcome := by
    rintro packet outcome rfl
    exact possible
  have role : ReceiverRole next source := flow.receiverRole.effect
    (fun packet outcome same => absurd same (notReceived packet outcome)) notBegun effect
  by_cases accepted : ∃ destination, input = .acceptIncomingFileToURL destination ∧
      receiver.canAccept = true ∧ destination.openError = none
  · obtain ⟨destination, rfl, accepts, opens⟩ := accepted
    have guards := accepts
    simp only [canAccept, Bool.and_eq_true, Option.isNone_iff_eq_none] at guards
    cases effect with
    | accepted =>
        cases path with
        | none =>
            right
            have opened :=
              Phase.receiver_accepts flow.phase flow.senderRole destination accepts
            exact ⟨destination.path,
              ⟨flow.nonempty, flow.bounded, flow.senderRole, role, opened⟩, rfl, guards.2,
              guards.1.1, rfl⟩
        | some path =>
            have engaged := Opened.engaged flow.phase guards.1.1
            rw [guards.2] at engaged
            contradiction
    | unopened given error _ fails =>
        rw [opens] at fails
        contradiction
    | nothing _ _ _ notAccepted =>
        rw [notAccepted destination rfl] at accepts
        contradiction
  · left
    have notAccepted : ∀ destination, input = .acceptIncomingFileToURL destination →
        receiver.canAccept = true → destination.openError ≠ none :=
      fun destination same accepts opens => accepted ⟨destination, same, accepts, opens⟩
    exact ⟨⟨flow.nonempty, flow.bounded, flow.senderRole, role,
      flow.phase.receiver_effect notReceived notAccepted effect⟩, notAccepted⟩

theorem sender_receives
    (flow : Flow sender receiver transfer source path)
    {packet : Packet} {rest : List Packet} {outcome : WriteOutcome}
    (queue : receiver.outgoing = packet :: rest)
    (effect : RTCClient.Effect sender (.receive packet outcome) next []) :
    Flow next { receiver with outgoing := rest } transfer source path := by
  have fromReceiver : packet.FromReceiver := by
    apply flow.receiverRole.packets
    rw [queue]
    exact List.mem_cons_self
  have noLoop : packet.message = .ftAccept → sender.fileQueue = [] := by
    intro isAccept
    have counted := count_delivered queue Message.isAccept
    rw [isAccept] at counted
    simp only [Message.isAccept, if_true] at counted
    cases path with
    | none => exact Unopened.noLoop flow.phase
    | some path =>
        apply Opened.pending flow.phase
        simp only [acceptPending, decide_eq_true_eq]
        omega
  refine ⟨flow.nonempty, flow.bounded, ?_, ?_, ?_⟩
  · refine flow.senderRole.effect ?_ (by simp) (by simp) effect
    intro given result same
    obtain ⟨rfl, rfl⟩ := Input.receive.inj same
    exact ⟨fromReceiver, noLoop⟩
  · obtain ⟨notSending, emptyQueue, packets, sized, named⟩ := flow.receiverRole
    refine ⟨notSending, emptyQueue, ?_, sized, named⟩
    intro other member
    apply packets
    rw [queue]
    exact List.mem_cons_of_mem _ member
  · exact flow.phase.sender_receives flow.senderRole flow.receiverRole queue effect

theorem receiver_receives
    (flow : Flow sender receiver transfer source path)
    {packet : Packet} {rest : List Packet} {outcome : WriteOutcome}
    (queue : sender.outgoing = packet :: rest)
    (effect : RTCClient.Effect receiver (.receive packet outcome) next []) :
    Flow { sender with outgoing := rest } next transfer source path := by
  have packets : ∀ other ∈ packet :: rest, other.FromSender source := by
    rw [← queue]
    exact flow.senderRole.packets
  refine ⟨flow.nonempty, flow.bounded, ?_, ?_, ?_⟩
  · have role := flow.senderRole
    refine ⟨role.notReceiving, role.notOffered, role.wasOpen, ?_, role.handle,
      fun other member => packets other (List.mem_cons_of_mem _ member), role.loops,
      role.oneLoop⟩
    intro closed
    have empty := role.closed closed
    rw [queue] at empty
    contradiction
  · refine flow.receiverRole.effect ?_ (by simp) effect
    intro given result same
    obtain ⟨rfl, rfl⟩ := Input.receive.inj same
    exact packets packet List.mem_cons_self
  · exact flow.phase.receiver_receives flow.bounded flow.senderRole queue effect

theorem count_of_greetings {client : RTCClient} {kind : Message → Bool}
    (greetings : ∀ packet ∈ client.outgoing, packet.isHello = true)
    (notHello : ∀ name ip role, kind (.hello name ip role) = false) :
    client.count kind = 0 := by
  apply List.countP_eq_zero.mpr
  intro packet member
  obtain ⟨name, ip, role, tag, rfl⟩ := Packet.exists_of_isHello (greetings packet member)
  rw [notHello]
  exact Bool.false_ne_true

/-- The client that begins to send a file. -/
theorem senderRole_of_begin
    (senderQuiet : sender.quiet = true)
    {fileURL : FileURL} {file : File}
    (isOpen : sender.isDataChannelOpen = true)
    (announced : u64 fileURL.fileSize = file.bytes.length) :
    SenderRole (sender.beginSending fileURL file) ⟨sender.clientId, sender.begun⟩
      file.bytes := by
  obtain ⟨-, notReceiving, notOffered, -, noLoop, greetings⟩ := quiet_spec senderQuiet
  rw [beginSending_eq, queued_of_isOpen isOpen]
  refine ⟨notReceiving, notOffered, ?_, ?_, ?_, ?_, ?_, ?_⟩
  · exact ⟨.Open, by simpa [isDataChannelOpen] using isOpen, Nat.le_refl 1⟩
  · intro closed
    have stillOpen : sender.isDataChannelOpen = false := closed
    rw [isOpen] at stillOpen
    contradiction
  · intro handle same
    obtain rfl := Option.some.inj same
    exact ⟨rfl, rfl⟩
  · intro packet member
    rcases List.mem_append.mp member with old | new
    · obtain ⟨name, ip, role, tag, rfl⟩ := Packet.exists_of_isHello (greetings packet old)
      trivial
    · obtain rfl := List.mem_singleton.mp new
      have reduced : u64 (u64 fileURL.fileSize) = u64 fileURL.fileSize := Nat.mod_mod _ _
      exact reduced.trans announced
  · simp [noLoop]
  · simp [noLoop]

/-- Its peer. -/
theorem receiverRole_of_quiet (receiverQuiet : receiver.quiet = true) :
    ReceiverRole receiver source := by
  obtain ⟨notSending, notReceiving, notOffered, -, noLoop, greetings⟩ :=
    quiet_spec receiverQuiet
  refine ⟨notSending, noLoop, ?_, by simp [notOffered], by simp [notReceiving]⟩
  intro packet member
  obtain ⟨name, ip, role, tag, rfl⟩ := Packet.exists_of_isHello (greetings packet member)
  trivial

/-- The offer is the only thing under way. -/
theorem unopened_of_begin
    (senderQuiet : sender.quiet = true)
    (receiverQuiet : receiver.quiet = true)
    {fileURL : FileURL} {file : File}
    (isOpen : sender.isDataChannelOpen = true) :
    Unopened (sender.beginSending fileURL file) receiver := by
  obtain ⟨-, -, -, -, noLoop, greetings⟩ := quiet_spec senderQuiet
  obtain ⟨-, notReceiving, notOffered, -, -, peerGreetings⟩ := quiet_spec receiverQuiet
  rw [beginSending_eq, queued_of_isOpen isOpen]
  refine ⟨notReceiving, count_of_greetings peerGreetings (by intros; rfl), noLoop, ?_, ?_, ?_,
    by simp [notOffered]⟩
  · intro packet member
    rcases List.mem_append.mp member with old | new
    · obtain ⟨name, ip, role, tag, rfl⟩ := Packet.exists_of_isHello (greetings packet old)
      rfl
    · obtain rfl := List.mem_singleton.mp new
      rfl
  · intro handle same
    obtain rfl := Option.some.inj same
    rfl
  · have noOffer : sender.outgoing.countP (fun packet => packet.message.isOffer) = 0 :=
      count_of_greetings greetings (by intros; rfl)
    rw [count, List.countP_append, noOffer]
    exact Nat.le_refl 1

/-- A send that begins in a quiet session. -/
theorem begin
    (senderQuiet : sender.quiet = true)
    (receiverQuiet : receiver.quiet = true)
    {fileURL : FileURL} {file : File}
    (isOpen : sender.isDataChannelOpen = true)
    (sized : u64 fileURL.fileSize ≠ 0)
    (opened : fileURL.handle = .ok file) :
    Flow (sender.beginSending fileURL file) receiver ⟨sender.clientId, sender.begun⟩
      file.bytes none := by
  have announced := fileURL.announced_eq opened sized
  refine ⟨?_, file.bounded, senderRole_of_begin senderQuiet isOpen announced,
    receiverRole_of_quiet receiverQuiet, unopened_of_begin senderQuiet receiverQuiet isOpen⟩
  intro empty
  rw [announced, empty] at sized
  exact sized rfl

end Flow

end Session

end WebrtcFileSender
