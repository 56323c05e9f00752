import WebrtcFileSender.Session.Intact

/-!
Contract: a transfer that nothing disturbs delivers the file.

Both clients end such a transfer twice, by their own completion and by the
peer's `ft_done`, and a cleanup may run between two statements of the loop.

Owns: that a delivery keeps the invariant, the undisturbed runs of a session, and
what the invariant says of their quiescent states.
-/

namespace WebrtcFileSender

namespace RTCClient

/-- No handle is open and every counter is zero. -/
structure Released (client : RTCClient) : Prop where
  notSending : client.sendHandle = none
  notReceiving : client.recvHandle = none
  sendTotalBytes : client.sendTotalBytes = 0
  sendBytesSent : client.sendBytesSent = 0
  recvTotalBytes : client.recvTotalBytes = 0
  recvBytesReceived : client.recvBytesReceived = 0

/-- Nothing is under way and nothing is left to run. -/
structure Quiescent (client : RTCClient) : Prop where
  outgoing : client.outgoing = []
  fileQueue : client.fileQueue = []
  mainQueue : client.mainQueue = []

/-- A client that has an open channel and is engaged in nothing. -/
structure Idle (client : RTCClient) : Prop extends Released client, Quiescent client where
  isOpen : client.isDataChannelOpen = true
  notOffered : client.incomingFileName = none

theorem Idle.quiet {client : RTCClient} (idle : client.Idle) : client.quiet = true := by
  simp [RTCClient.quiet, idle.notSending, idle.notReceiving, idle.notOffered, idle.fileQueue,
    idle.outgoing, noCleanupPending, idle.mainQueue]

theorem Idle.regular {client : RTCClient} (idle : client.Idle) : client.Regular := by
  refine ⟨idle.isOpen, ?_, ?_⟩
  · simp [idle.outgoing]
  · simp [idle.mainQueue]

theorem Idle.clear {client : RTCClient} (idle : client.Idle) : client.Clear := by
  refine ⟨?_, ?_⟩
  · simp [idle.mainQueue]
  · simp [idle.outgoing]

end RTCClient

namespace Session

open RTCClient

variable {sender receiver next : RTCClient} {input : Input} {calls : List DelegateCall}
variable {source : Bytes} {transfer : TransferId} {path : Option String}

/-! ## The sender receives -/

theorem Receiving.delivered {destination : String}
    (receiving : Receiving receiver source destination)
    {packet : Packet} {rest : List Packet}
    (queue : receiver.outgoing = packet :: rest) :
    Receiving { receiver with outgoing := rest } source destination := by
  refine ⟨receiving.counted, receiving.pending, receiving.released, receiving.cleanups, ?_⟩
  intro tag member
  apply receiving.done tag
  rw [queue]
  exact List.mem_cons_of_mem _ member

theorem acceptPending_delivered {packet : Packet} {rest : List Packet}
    (queue : receiver.outgoing = packet :: rest)
    (notAccept : packet.message.isAccept = false) :
    acceptPending { receiver with outgoing := rest } = receiver.acceptPending := by
  have counted := count_delivered queue Message.isAccept
  rw [notAccept] at counted
  rw [acceptPending, acceptPending, counted]
  rfl

theorem Regular.delivered {client : RTCClient} (regular : client.Regular)
    {packet : Packet} {rest : List Packet}
    (queue : client.outgoing = packet :: rest) :
    packet.message.Regular ∧ { client with outgoing := rest }.Regular := by
  have packets := regular.packets
  rw [queue] at packets
  exact ⟨packets packet List.mem_cons_self, regular.isOpen,
    fun other member => packets other (List.mem_cons_of_mem _ member), regular.blocks⟩

/-- The greeting of the peer is reported and touches no transfer. -/
theorem Stage.sender_greeted
    (stage : Stage sender receiver source path)
    {packet : Packet} {rest : List Packet}
    (queue : receiver.outgoing = packet :: rest)
    (notAccept : packet.message.isAccept = false)
    (name ip role : String) :
    Stage (sender.receiveHello name ip role) { receiver with outgoing := rest } source path := by
  have samePending := acceptPending_delivered queue notAccept
  have cleanups : ∀ error request,
      .cleanup error request ∈ (sender.receiveHello name ip role).mainQueue ↔
        .cleanup error request ∈ sender.mainQueue := by
    intro error request
    simp [receiveHello, dispatchMain]
  have greetedClear : sender.Clear → (sender.receiveHello name ip role).Clear := by
    intro clear
    exact ⟨fun error request member =>
      clear.noCleanup error request ((cleanups error request).mp member), clear.noDone⟩
  cases stage with
  | offered waiting clear receiverClear =>
      refine .offered ⟨waiting.noLoop, waiting.sending, waiting.total, waiting.sent⟩
        (greetedClear clear) ⟨receiverClear.noCleanup, ?_⟩
      intro tag member
      apply receiverClear.noDone tag
      rw [queue]
      exact List.mem_cons_of_mem _ member
  | accepted destination whole receiving pending waiting clear =>
      refine .accepted destination ?_ (receiving.delivered queue) (samePending.trans pending)
        ⟨waiting.noLoop, waiting.sending, waiting.total, waiting.sent⟩ (greetedClear clear)
      rw [ahead, samePending]
      exact whole
  | running destination whole receiving notPending active =>
      refine .running destination ?_ (receiving.delivered queue)
        (samePending.trans notPending)
        (active.frame rfl rfl rfl rfl cleanups (fun _ => id))
      rw [ahead, samePending]
      exact whole

/-- The accept starts the loop; what was ahead stays ahead. -/
theorem Stage.started
    (stage : Stage sender receiver source path)
    (flow : Flow sender receiver transfer source path)
    {tag : Option TransferId} {rest : List Packet}
    (queue : receiver.outgoing = ⟨.ftAccept, tag⟩ :: rest)
    (effect : RTCClient.Effect sender (.receive ⟨.ftAccept, tag⟩ .written) next []) :
    Stage next { receiver with outgoing := rest } source path := by
  have counted := count_delivered queue Message.isAccept
  simp only [Message.isAccept, if_true] at counted
  have wasPending : receiver.acceptPending = true := by
    simp only [acceptPending, decide_eq_true_eq]
    omega
  cases stage with
  | offered waiting clear receiverClear =>
      have noAccept := Unopened.noAccept flow.phase
      omega
  | running destination whole receiving notPending active =>
      rw [wasPending] at notPending
      contradiction
  | accepted destination whole receiving pending waiting clear =>
      have oneAccept := Opened.oneAccept flow.phase
      have notPending : acceptPending { receiver with outgoing := rest } = false := by
        simp only [acceptPending, decide_eq_false_iff_not]
        omega
      cases effect with
      | started handle _ _ sending =>
          refine .running destination ?_ (receiving.delivered queue) notPending
            (waiting.started flow.nonempty clear handle.transfer)
          rw [ahead, notPending, outlook_started waiting.noLoop]
          rw [ahead, wasPending] at whole
          exact whole
      | ended _ _ _ _ ends => contradiction
      | nothing _ _ notReceived =>
          obtain ⟨handle, sending, -⟩ := waiting.sending
          rcases notReceived _ _ rfl with ⟨-, notSending⟩ | ⟨data, isBinary, -⟩
          · rw [sending] at notSending
            contradiction
          · contradiction

/-- The receiver's `ft_done` arrives when everything has left the sender. -/
theorem Stage.acknowledged
    (stage : Stage sender receiver source path)
    (flow : Flow sender receiver transfer source path)
    (isOpen : sender.isDataChannelOpen = true)
    {tag : Option TransferId} {rest : List Packet}
    (queue : receiver.outgoing = ⟨.ftDone, tag⟩ :: rest) :
    Stage (sender.cleanupTransferWithError none tag true)
      { receiver with outgoing := rest } source path := by
  have inFlight : ⟨.ftDone, tag⟩ ∈ receiver.outgoing := by
    rw [queue]
    exact List.mem_cons_self
  cases stage with
  | offered waiting clear receiverClear =>
      exact absurd inFlight (receiverClear.noDone tag)
  | accepted destination whole receiving pending waiting clear =>
      exact absurd (receiving.done tag inFlight)
        (not_complete_of_waiting whole flow.nonempty isOpen pending waiting flow.senderRole)
  | running destination whole receiving notPending active =>
      have samePending := acceptPending_delivered queue rfl
      have nothing := ahead_of_complete whole (receiving.done tag inFlight)
      rw [ahead, notPending] at nothing
      have spent := active.spent_of_outlook isOpen nothing
      refine .running destination ?_ (receiving.delivered queue)
        (samePending.trans notPending) (active.acknowledged flow.senderRole spent tag)
      rw [ahead, samePending]
      exact whole

namespace Intact

theorem sender_receives
    (intact : Intact sender receiver transfer source path)
    {packet : Packet} {rest : List Packet}
    (queue : receiver.outgoing = packet :: rest)
    (effect : RTCClient.Effect sender (.receive packet .written) next []) :
    Intact next { receiver with outgoing := rest } transfer source path := by
  obtain ⟨regularPacket, receiverRegular⟩ := Regular.delivered intact.receiverRegular queue
  have fromReceiver : packet.FromReceiver := by
    apply intact.flow.receiverRole.packets
    rw [queue]
    exact List.mem_cons_self
  have regularInput : sender.RegularInput (.receive packet .written) := by
    refine ⟨regularPacket, rfl, ?_⟩
    intro isOffer
    obtain ⟨message, tag⟩ := packet
    cases message with
    | ftOffer => exact fromReceiver.elim
    | hello | ftAccept | ftReject | ftCancel | ftDone | binary => contradiction
  have frame := sender_frame intact.flow.senderRole regularInput
    (by
      intro given outcome same
      obtain ⟨rfl, -⟩ := Input.receive.inj same
      exact fromReceiver)
    effect
  have stage : Stage next { receiver with outgoing := rest } source path := by
    obtain ⟨message, tag⟩ := packet
    cases message with
    | hello name ip role =>
        obtain rfl := next_of_hello effect
        exact intact.stage.sender_greeted queue rfl name ip role
    | ftAccept => exact intact.stage.started intact.flow queue effect
    | ftDone =>
        obtain rfl := next_of_ftDone effect
        exact intact.stage.acknowledged intact.flow intact.senderRegular.isOpen queue
    | ftReject | ftCancel => exact regularPacket.elim
    | ftOffer | binary => exact fromReceiver.elim
  exact {
    flow := intact.flow.sender_receives queue effect
    senderRegular := intact.senderRegular.effect regularInput effect
    receiverRegular := receiverRegular
    notCancelled := frame.1.trans intact.notCancelled
    senderCounters := frame.2 intact.senderCounters
    receiverCounters := intact.receiverCounters
    ordered := ordered_of_effect intact.ordered intact.stage.harmless effect
    stage := stage }

end Intact

/-! ## The receiver receives -/

theorem Stage.whole {destination : String}
    (stage : Stage sender receiver source (some destination)) :
    receiver.disk destination ++ ahead sender receiver = source := by
  cases stage with
  | accepted _ whole => exact whole
  | running _ whole => exact whole

theorem Stage.receiving {destination : String}
    (stage : Stage sender receiver source (some destination)) :
    Receiving receiver source destination := by
  cases stage with
  | accepted _ _ receiving => exact receiving
  | running _ _ receiving => exact receiving

theorem Clear.delivered {client : RTCClient} (clear : client.Clear)
    {packet : Packet} {rest : List Packet}
    (queue : client.outgoing = packet :: rest) :
    { client with outgoing := rest }.Clear := by
  refine ⟨clear.noCleanup, ?_⟩
  intro tag member
  apply clear.noDone tag
  rw [queue]
  exact List.mem_cons_of_mem _ member

/-- A packet of the sender is delivered: what remains to be shown is about the
receiver. -/
theorem Stage.receiver_received {destination : String}
    (stage : Stage sender receiver source (some destination))
    {packet : Packet} {rest : List Packet}
    (queue : sender.outgoing = packet :: rest)
    (samePending : next.acceptPending = receiver.acceptPending)
    (whole : next.disk destination ++ ahead { sender with outgoing := rest } next = source)
    (receiving : Receiving next source destination) :
    Stage { sender with outgoing := rest } next source (some destination) := by
  cases stage with
  | accepted _ _ _ pending waiting clear =>
      exact .accepted destination whole receiving (samePending.trans pending)
        ⟨waiting.noLoop, waiting.sending, waiting.total, waiting.sent⟩
        (Clear.delivered clear queue)
  | running _ _ _ notPending active =>
      refine .running destination whole receiving (samePending.trans notPending)
        (active.frame rfl rfl rfl rfl (fun _ _ => Iff.rfl) ?_)
      intro tag member
      rw [queue]
      exact List.mem_cons_of_mem _ member

/-- Receiving puts no accept on its way. -/
theorem acceptPending_of_receive {packet : Packet} {outcome : WriteOutcome}
    (effect : RTCClient.Effect receiver (.receive packet outcome) next []) :
    next.acceptPending = receiver.acceptPending := by
  have queued : ∀ emitted : Packet, emitted.message.isAccept = false →
      (receiver.queued emitted).countP (fun packet => packet.message.isAccept) =
        receiver.count Message.isAccept := by
    intro emitted notAccept
    rcases receiver.queued_cases emitted with appended | unchanged
    · rw [appended, List.countP_append]
      simp [notAccept, count]
    · rw [unchanged]
      rfl
  cases effect with
  | busy name size chunk tag =>
      rw [acceptPending, acceptPending, count, queued _ rfl]
  | completed data tag handle =>
      rw [acceptPending, acceptPending, count, queued _ rfl]
  | greeted | offered | started | ended | writeFailed | stored | nothing => rfl

/-- What is ahead after a delivery: the rest behind the packet's bytes. -/
theorem ahead_delivered {packet : Packet} {rest : List Packet}
    (isOpen : sender.isDataChannelOpen = true)
    (queue : sender.outgoing = packet :: rest)
    (samePending : next.acceptPending = receiver.acceptPending) :
    ahead sender receiver =
      packet.payload ++ ahead { sender with outgoing := rest } next := by
  rw [ahead, outlook_delivered isOpen queue, ahead, samePending]

/-- A chunk is appended to the destination. -/
theorem Receiving.chunk {destination : String}
    (receiving : Receiving receiver source destination)
    (isReceiving : receiver.recvHandle.isSome = true)
    (small : source.length < 2 ^ 63)
    {data remaining : Bytes}
    (whole : receiver.disk destination ++ (data ++ remaining) = source) :
    u64 (receiver.recvBytesReceived + data.length) =
        (receiver.disk destination ++ data).length ∧
      (receiver.disk destination ++ data).length ≤ source.length ∧
      ((receiver.disk destination ++ data).length = source.length →
        receiver.disk destination ++ data = source) ∧
      (receiver.disk destination = source → receiver.disk destination ++ data = source) := by
  rw [← List.append_assoc] at whole
  have lengths := congrArg List.length whole
  simp only [List.length_append] at lengths
  have counted := receiving.counted isReceiving
  refine ⟨?_, ?_, ?_, ?_⟩
  · rw [List.length_append, counted]
    exact Nat.mod_eq_of_lt (by omega)
  · rw [List.length_append]
    omega
  · intro reached
    have nothing : remaining = [] := by
      rw [List.length_append] at reached
      exact List.length_eq_zero_iff.mp (by omega)
    rw [nothing, List.append_nil] at whole
    exact whole
  · intro complete
    have sameLength := congrArg List.length complete
    have nothing : data = [] := List.length_eq_zero_iff.mp (by omega)
    rw [nothing, List.append_nil]
    exact complete

/-- An open destination is the one of the transfer, and it is as large as the
source. -/
theorem Flow.destination_of_receiving {destination : String}
    (flow : Flow sender receiver transfer source (some destination))
    {handle : WriteHandle} (isReceiving : receiver.recvHandle = some handle) :
    handle.path = destination ∧ receiver.recvTotalBytes = source.length := by
  have opened : Opened sender receiver source destination := flow.phase
  have named := flow.receiverRole.named (by simp [isReceiving])
  exact ⟨(opened.content handle isReceiving).1, flow.receiverRole.sized named⟩

/-- A chunk leaves the destination a beginning of the source, and the last chunk
requests the cleanup. -/
theorem Receiving.binary {destination : String}
    (receiving : Receiving receiver source destination)
    (flow : Flow sender receiver transfer source (some destination))
    {data remaining : Bytes} {tag : Option TransferId}
    (whole : receiver.disk destination ++ (data ++ remaining) = source)
    (effect : RTCClient.Effect receiver (.receive ⟨.binary data, tag⟩ .written) next []) :
    Receiving next source destination := by
  cases effect with
  | stored _ _ handle isReceiving sized more =>
      obtain ⟨rfl, total⟩ := flow.destination_of_receiving isReceiving
      obtain ⟨counted, fits, reached, kept⟩ :=
        receiving.chunk (by simp [isReceiving]) flow.bounded whole
      refine ⟨?_, ?_, ?_, ?_, ?_⟩
      · intro _
        dsimp only
        rw [Function.update_self]
        exact counted
      · intro _ complete
        dsimp only at complete
        rw [Function.update_self] at complete
        rw [counted, complete, total] at more
        exact absurd more (Nat.lt_irrefl _)
      · intro released
        dsimp only at released
        rw [isReceiving] at released
        contradiction
      · intro error request member
        dsimp only at member ⊢
        rw [Function.update_self]
        apply kept
        apply receiving.cleanups error request
        simpa using member
      · intro done member
        dsimp only
        rw [Function.update_self]
        exact kept (receiving.done done member)
  | completed _ _ handle isReceiving sized complete =>
      obtain ⟨rfl, total⟩ := flow.destination_of_receiving isReceiving
      obtain ⟨counted, fits, reached, kept⟩ :=
        receiving.chunk (by simp [isReceiving]) flow.bounded whole
      have finished : receiver.disk handle.path ++ data = source := by
        apply reached
        rw [counted, total] at complete
        omega
      have onDisk : Function.update receiver.disk handle.path
          (receiver.disk handle.path ++ data) handle.path = source := by
        rw [Function.update_self]
        exact finished
      refine ⟨?_, ?_, ?_, fun _ _ _ => onDisk, fun _ _ => onDisk⟩
      · intro _
        dsimp only
        rw [Function.update_self]
        exact counted
      · intro _ _
        refine ⟨⟨handle.transfer, false, receiver.begun⟩, ?_⟩
        simp
      · intro released
        dsimp only at released
        rw [isReceiving] at released
        contradiction
  | ended _ _ _ _ ends => contradiction
  | nothing => exact receiving

/-- A chunk arrives at an open destination. -/
theorem Stage.receiver_binary {destination : String}
    (stage : Stage sender receiver source (some destination))
    (flow : Flow sender receiver transfer source (some destination))
    (isOpen : sender.isDataChannelOpen = true)
    {data : Bytes} {tag : Option TransferId} {rest : List Packet}
    (queue : sender.outgoing = ⟨.binary data, tag⟩ :: rest)
    (effect : RTCClient.Effect receiver (.receive ⟨.binary data, tag⟩ .written) next []) :
    Stage { sender with outgoing := rest } next source (some destination) := by
  have samePending := acceptPending_of_receive effect
  have receiving := stage.receiving
  have whole : receiver.disk destination ++
      (data ++ ahead { sender with outgoing := rest } next) = source := by
    have before := stage.whole
    rw [ahead_delivered isOpen queue samePending] at before
    exact before
  refine stage.receiver_received queue samePending ?_ (receiving.binary flow whole effect)
  cases effect with
  | stored _ _ handle isReceiving | completed _ _ handle isReceiving =>
      obtain ⟨rfl, -⟩ := flow.destination_of_receiving isReceiving
      dsimp only
      rw [Function.update_self, List.append_assoc]
      exact whole
  | ended _ _ _ _ ends => contradiction
  | nothing _ _ notReceived =>
      have notReceiving : receiver.recvHandle = none := by
        rcases notReceived _ _ rfl with ⟨isAccept, -⟩ | ⟨other, -, notReceiving | unsized⟩
        · contradiction
        · exact notReceiving
        · cases isReceiving : receiver.recvHandle with
          | none => rfl
          | some handle =>
              rw [(flow.destination_of_receiving isReceiving).2] at unsized
              exact absurd (List.length_eq_zero_iff.mp unsized) flow.nonempty
      -- The file was complete, so the chunk that is dropped is empty.
      obtain ⟨complete, -⟩ := receiving.released notReceiving
      rw [complete] at whole
      have empty := List.append_eq_nil_iff.mp (List.append_right_eq_self.mp whole)
      rw [complete, empty.2, List.append_nil]

/-- The sender's `ft_done` arrives behind all its bytes. -/
theorem Stage.receiver_done {destination : String}
    (stage : Stage sender receiver source (some destination))
    (ordered : Packet.Ordered sender.outgoing)
    (isOpen : sender.isDataChannelOpen = true)
    {tag : Option TransferId} {rest : List Packet}
    (queue : sender.outgoing = ⟨.ftDone, tag⟩ :: rest) :
    Stage { sender with outgoing := rest } (receiver.cleanupTransferWithError none tag true)
      source (some destination) := by
  have inFlight : ⟨.ftDone, tag⟩ ∈ sender.outgoing := by
    rw [queue]
    exact List.mem_cons_self
  have spent : sender.hand = [] ∧ sender.unread = [] := by
    cases stage with
    | accepted _ _ _ _ _ clear => exact absurd inFlight (clear.noDone tag)
    | running _ _ _ _ active =>
        rcases active.clear_or_spent with clear | spent
        · exact absurd inFlight (clear.noDone tag)
        · exact spent
  have nothing : ahead { sender with outgoing := rest } receiver = [] := by
    rw [queue] at ordered
    have behind := (List.pairwise_cons.mp ordered).1
    have onlyFlight : outlook { sender with outgoing := rest } receiver.acceptPending =
        flight { sender with outgoing := rest } := outlook_of_spent isOpen spent
    rw [ahead, onlyFlight]
    apply List.flatMap_eq_nil_iff.mpr
    intro packet member
    exact behind packet member rfl
  have whole := stage.whole
  rw [ahead_delivered isOpen queue rfl, nothing] at whole
  have complete : receiver.disk destination = source := by
    simpa [Packet.payload] using whole
  have receiving := stage.receiving
  refine stage.receiver_received queue rfl ?_ ?_
  · have same : ahead { sender with outgoing := rest }
        (receiver.cleanupTransferWithError none tag true) = [] := nothing
    rw [same, List.append_nil]
    exact complete
  · refine ⟨receiving.counted, ?_, receiving.released, fun _ _ _ => complete,
      fun _ _ => complete⟩
    intro _ _
    refine ⟨⟨tag, true, receiver.begun⟩, ?_⟩
    rw [cleanupTransferWithError_eq]
    exact List.mem_append_right _ List.mem_cons_self

theorem Stage.receiver_greeted {destination : String}
    (stage : Stage sender receiver source (some destination))
    (isOpen : sender.isDataChannelOpen = true)
    {packet : Packet} {rest : List Packet}
    (queue : sender.outgoing = packet :: rest)
    (noBytes : packet.payload = [])
    (name ip role : String) :
    Stage { sender with outgoing := rest } (receiver.receiveHello name ip role) source
      (some destination) := by
  have receiving := stage.receiving
  have whole := stage.whole
  rw [ahead_delivered isOpen queue rfl, noBytes, List.nil_append] at whole
  have cleanups : ∀ error request,
      .cleanup error request ∈ (receiver.receiveHello name ip role).mainQueue ↔
        .cleanup error request ∈ receiver.mainQueue := by
    intro error request
    simp [receiveHello, dispatchMain]
  refine stage.receiver_received queue rfl whole ?_
  refine ⟨receiving.counted, ?_, receiving.released, ?_, receiving.done⟩
  · intro isReceiving complete
    obtain ⟨request, pending⟩ := receiving.pending isReceiving complete
    exact ⟨request, (cleanups none request).mpr pending⟩
  · intro error request member
    exact receiving.cleanups error request ((cleanups error request).mp member)

namespace Intact

/-- Before the accept, a packet of the sender is its greeting or its offer. -/
theorem receiver_offered
    (intact : Intact sender receiver transfer source none)
    {packet : Packet} {rest : List Packet}
    (queue : sender.outgoing = packet :: rest)
    (regularInput : receiver.RegularInput (.receive packet .written))
    (effect : RTCClient.Effect receiver (.receive packet .written) next []) :
    Stage { sender with outgoing := rest } next source none := by
  have unopened : Unopened sender receiver := intact.flow.phase
  cases intact.stage with
  | offered waiting clear receiverClear =>
      have stillClear : next.Clear := by
        apply receiverClear.of_effect _ _ effect
        · intro error request requested
          cases requested with
          | ended message tag outcome given ends =>
              cases message with
              | ftDone => exact clear.noDone tag (by simp [queue])
              | ftReject | ftCancel => exact regularInput.1
              | hello | ftOffer | ftAccept | binary => contradiction
          | received data tag handle receiving =>
              rw [unopened.notReceiving] at receiving
              contradiction
        · intro tag emitted
          cases emitted with
          | received data given handle receiving =>
              rw [unopened.notReceiving] at receiving
              contradiction
      exact .offered ⟨waiting.noLoop, waiting.sending, waiting.total, waiting.sent⟩
        (Clear.delivered clear queue) stillClear

theorem receiver_receives
    (intact : Intact sender receiver transfer source path)
    {packet : Packet} {rest : List Packet}
    (queue : sender.outgoing = packet :: rest)
    (effect : RTCClient.Effect receiver (.receive packet .written) next []) :
    Intact { sender with outgoing := rest } next transfer source path := by
  obtain ⟨regularPacket, senderRegular⟩ := Regular.delivered intact.senderRegular queue
  have isOpen := intact.senderRegular.isOpen
  have fromSender : packet.FromSender source := by
    apply intact.flow.senderRole.packets
    rw [queue]
    exact List.mem_cons_self
  have notOffer : ∀ destination, path = some destination →
      packet.message.isOffer = false := by
    rintro destination rfl
    have noOffer := Opened.noOffer intact.flow.phase
    have offers := count_delivered queue Message.isOffer
    cases isOffer : packet.message.isOffer with
    | false => rfl
    | true =>
        rw [isOffer] at offers
        simp only [if_true] at offers
        omega
  have regularInput : receiver.RegularInput (.receive packet .written) := by
    refine ⟨regularPacket, rfl, ?_⟩
    intro isOffer
    cases path with
    | none => exact ⟨intact.flow.receiverRole.notSending, Unopened.notReceiving intact.flow.phase⟩
    | some destination =>
        rw [notOffer destination rfl] at isOffer
        contradiction
  have stage : Stage { sender with outgoing := rest } next source path := by
    cases path with
    | none => exact intact.receiver_offered queue regularInput effect
    | some destination =>
        obtain ⟨message, tag⟩ := packet
        cases message with
        | hello name ip role =>
            obtain rfl := next_of_hello effect
            exact intact.stage.receiver_greeted isOpen queue rfl name ip role
        | ftDone =>
            obtain rfl := next_of_ftDone effect
            exact intact.stage.receiver_done intact.ordered isOpen queue
        | binary data => exact intact.stage.receiver_binary intact.flow isOpen queue effect
        | ftOffer =>
            have isOffer := notOffer destination rfl
            contradiction
        | ftReject | ftCancel => exact regularPacket.elim
        | ftAccept => exact fromSender.elim
  have ordered : Packet.Ordered rest := by
    have before := intact.ordered
    rw [queue] at before
    exact (List.pairwise_cons.mp before).2
  exact {
    flow := intact.flow.receiver_receives queue effect
    senderRegular := senderRegular
    receiverRegular := intact.receiverRegular.effect regularInput effect
    notCancelled := intact.notCancelled
    senderCounters := intact.senderCounters
    receiverCounters := receiver_frame intact.flow.receiverRole regularInput effect
      intact.receiverCounters
    ordered := ordered
    stage := stage }

end Intact

/-! ## Runs -/

/-- A file is offered between two idle clients. -/
theorem Intact.begin
    (senderIdle : sender.Idle)
    (receiverIdle : receiver.Idle)
    {fileURL : FileURL} {file : File}
    (sized : u64 fileURL.fileSize ≠ 0)
    (readable : fileURL.handle = .ok file) :
    Intact (sender.beginSending fileURL file) receiver ⟨sender.clientId, sender.begun⟩
      file.bytes none := by
  have flow := Flow.begin senderIdle.quiet receiverIdle.quiet senderIdle.isOpen sized readable
  have announced := fileURL.announced_eq readable sized
  rw [beginSending_eq, RTCClient.queued, senderIdle.isOpen, senderIdle.outgoing] at flow ⊢
  have clear := senderIdle.clear
  refine ⟨flow, ⟨senderIdle.isOpen, ?_, senderIdle.regular.blocks⟩, receiverIdle.regular, rfl,
    ⟨senderIdle.recvTotalBytes, senderIdle.recvBytesReceived⟩,
    ⟨receiverIdle.sendTotalBytes, receiverIdle.sendBytesSent⟩, ?_, ?_⟩
  · simp [Message.Regular]
  · exact List.pairwise_singleton _ _
  · refine .offered ⟨senderIdle.fileQueue, ⟨_, rfl, rfl⟩, announced, rfl⟩
      ⟨clear.noCleanup, ?_⟩ receiverIdle.clear
    simp

/-- The actions of an undisturbed transfer: the loop and the main queues run, an
offer is accepted, and packets are delivered and written. -/
def Undisturbed (session : Session) : Action → Prop
  | .take side input => Allowed (session side) input
  | .deliver _ outcome => outcome = .written

instance (client : RTCClient) : (input : RTCClient.Input) → Decidable (Allowed client input)
  | .acceptIncomingFileToURL destination =>
      decidable_of_iff (destination.openError.isNone = true) Option.isNone_iff_eq_none
  | .runMain => .isTrue trivial
  | .runFile given =>
      inferInstanceAs
        (Decidable (∀ loop ∈ client.fileQueue.head?, loop.point.Undisturbed given))
  | .iceConnectionState newState => inferInstanceAs (Decidable (newState.isLost = false))
  | .sendFileAtURL _ | .cancelFileTransfer | .rejectIncomingFileWithReason _
  | .receive _ _ | .transmit | .dataChannelState _ => .isFalse id

instance (session : Session) : (action : Action) → Decidable (Undisturbed session action)
  | .take side input => inferInstanceAs (Decidable (Allowed (session side) input))
  | .deliver _ outcome => inferInstanceAs (Decidable (outcome = .written))

theorem observed_of_mem_events {owner side : Side} {client next : RTCClient}
    {calls : List DelegateCall} {observation : Observation}
    (member : .observed owner observation ∈ events side client next calls) :
    observation ∈ client.observe next calls := by
  rcases List.mem_append.mp member with seen | opening
  · rcases List.mem_append.mp seen with observed | beginning
    · obtain ⟨given, inObserved, same⟩ := List.mem_map.mp observed
      obtain ⟨-, rfl⟩ := Event.observed.inj same
      exact inObserved
    · unfold beginnings at beginning
      split at beginning
      all_goals simp at beginning
  · unfold openings at opening
    split at opening
    all_goals simp at opening

/-- The transfer from `A` to `B` with the record of its run. -/
structure Undisturbed.Holds (transfer : TransferId) (source : Bytes) (path : Option String)
    (history : List Event) (session : Session) : Prop where
  intact : Intact (session .A) (session .B) transfer source path
  opened : ∀ tag destination, .opened .B tag destination ∈ history →
    path = some destination
  finished : ∀ side error request ended,
    .observed side (.delegate (.fileTransferDidFinish error request ended)) ∈ history →
      error = none

namespace Undisturbed.Holds

variable {history : List Event} {session : Session}

/-- The history grows by events of an end that report no error and open no
destination of `B`. -/
theorem record {following : Session} {fresh : List Event} {reached : Option String}
    (holds : Holds transfer source path history session)
    (intact : Intact (following .A) (following .B) transfer source reached)
    (kept : ∀ destination, path = some destination → reached = some destination)
    (opened : ∀ tag destination, .opened .B tag destination ∈ fresh →
      reached = some destination)
    (finished : ∀ side error request ended,
      .observed side (.delegate (.fileTransferDidFinish error request ended)) ∈ fresh →
        error = none) :
    Holds transfer source reached (history ++ fresh) following := by
  refine ⟨intact, ?_, ?_⟩
  · intro tag destination member
    rcases List.mem_append.mp member with old | new
    · exact kept destination (holds.opened tag destination old)
    · exact opened tag destination new
  · intro side error request ended member
    rcases List.mem_append.mp member with old | new
    · exact holds.finished side error request ended old
    · exact finished side error request ended new

/-- A client reports the errors of its pending cleanups only. -/
theorem finish_regular {client : RTCClient} {side owner : Side}
    (regular : client.Regular)
    (effect : RTCClient.Effect client input next calls)
    {error : Option NSError} {request : CleanupRequest} {ended : Option TransferId}
    (member : .observed owner (.delegate (.fileTransferDidFinish error request ended)) ∈
      events side client next calls) :
    error = none := by
  obtain ⟨rest, -, queue, -⟩ := cleanup_of_finish effect (observed_of_mem_events member)
  exact regular.blocks (.cleanup error request) (by simp [queue])

theorem opening_of_mem {client : RTCClient} {side owner : Side}
    {tag : Option TransferId} {destination : String}
    (member : .opened owner tag destination ∈ events side client next calls) :
    owner = side ∧ client.recvHandle = none ∧
      ∃ handle, next.recvHandle = some handle ∧ handle.path = destination := by
  rcases mem_events member with ⟨_, same⟩ | ⟨_, -, -, same⟩ | ⟨handle, before, after, same⟩
  · contradiction
  · contradiction
  · obtain ⟨rfl, -, rfl⟩ := Event.opened.inj same
    exact ⟨rfl, before, handle, after, rfl⟩

theorem step_taken
    (holds : Holds transfer source path history session)
    {side : Side}
    (possible : Possible (session side) input)
    (allowed : Allowed (session side) input)
    (effect : RTCClient.Effect (session side) input next calls) :
    ∃ reached, Holds transfer source reached
      (history ++ events side (session side) next calls)
      (Function.update session side next) := by
  cases side with
  | A =>
      have intact := holds.intact.sender_taken possible allowed effect
      refine ⟨path, holds.record ?_ (fun _ same => same) ?_ ?_⟩
      · rw [Function.update_self, Function.update_of_ne (by decide)]
        exact intact
      · intro tag destination member
        obtain ⟨isSender, -⟩ := opening_of_mem member
        contradiction
      · intro owner error request ended member
        exact finish_regular holds.intact.senderRegular effect member
  | B =>
      have finished : ∀ owner error request ended,
          .observed owner (.delegate (.fileTransferDidFinish error request ended)) ∈
            events .B (session .B) next calls → error = none :=
        fun owner error request ended member =>
          finish_regular holds.intact.receiverRegular effect member
      have ends : ∀ {reached}, Intact (session .A) next transfer source reached →
          Intact (Function.update session .B next .A) (Function.update session .B next .B)
            transfer source reached := by
        intro reached intact
        rw [Function.update_self, Function.update_of_ne (by decide)]
        exact intact
      rcases holds.intact.receiver_taken possible allowed effect with
        ⟨intact, notOpened⟩ | ⟨handle, unopened, receiving, intact⟩
      · refine ⟨path, holds.record (ends intact) (fun _ same => same) ?_ finished⟩
        intro tag destination member
        obtain ⟨-, notReceiving, handle, receiving, -⟩ := opening_of_mem member
        rw [receiving, notReceiving] at notOpened
        simp at notOpened
      · refine ⟨some handle.path, holds.record (ends intact) ?_ ?_ finished⟩
        · intro destination isOpen
          rw [unopened] at isOpen
          contradiction
        · intro tag destination member
          obtain ⟨-, -, given, isGiven, rfl⟩ := opening_of_mem member
          rw [Option.some.inj (receiving.symm.trans isGiven)]

theorem step_delivered
    (holds : Holds transfer source path history session)
    {side : Side} {packet : Packet} {rest : List Packet}
    (queue : (session side.peer).outgoing = packet :: rest)
    (effect : RTCClient.Effect (session side) (.receive packet .written) next []) :
    Holds transfer source path
      (history ++ (.delivered side packet :: events side (session side) next []))
      (Function.update
        (Function.update session side.peer
          { session side.peer with outgoing := rest }) side next) := by
  have regular : (session side).Regular := by
    cases side with
    | A => exact holds.intact.senderRegular
    | B => exact holds.intact.receiverRegular
  refine holds.record ?_ (fun _ same => same) ?_ ?_
  · cases side with
    | A =>
        rw [Function.update_self, Function.update_of_ne (by decide)]
        exact holds.intact.sender_receives queue effect
    | B =>
        rw [Function.update_self, Function.update_of_ne (by decide)]
        exact holds.intact.receiver_receives queue effect
  · intro tag destination member
    rcases List.mem_cons.mp member with same | inEvents
    · contradiction
    · obtain ⟨-, notReceiving, handle, receiving, -⟩ := opening_of_mem inEvents
      rw [(idle_of_receive notReceiving effect).1] at receiving
      contradiction
  · intro owner error request ended member
    rcases List.mem_cons.mp member with same | inEvents
    · contradiction
    · exact finish_regular regular effect inEvents

/-- **Every undisturbed run keeps the transfer intact.** -/
theorem of_run {start final : Session} {actions : List Action} {history : List Event}
    (intact : Intact (start .A) (start .B) transfer source none)
    (run : Machine.Run Session.step Undisturbed start actions history final) :
    ∃ path, Holds transfer source path history final := by
  apply run.invariant (fun history session => ∃ path, Holds transfer source path history session)
  · exact ⟨none, intact, by simp, by simp⟩
  · intro history session action following fresh holds allowed stepped
    obtain ⟨path, holds⟩ := holds
    cases effect_of_step stepped with
    | taken side input next calls possible effect =>
        exact holds.step_taken possible allowed effect
    | delivered side outcome packet rest next queue isOpen effect =>
        obtain rfl : outcome = .written := allowed
        exact ⟨path, holds.step_delivered queue effect⟩

end Undisturbed.Holds

/-- In a quiescent state after the accept the file is complete and both clients
are free again. -/
theorem Intact.quiescent {destination : String}
    (intact : Intact sender receiver transfer source (some destination))
    (senderQuiescent : sender.Quiescent)
    (receiverQuiescent : receiver.Quiescent) :
    receiver.disk destination = source ∧ sender.Released ∧ receiver.Released := by
  have notPending : receiver.acceptPending = false := by
    simp [acceptPending, count, receiverQuiescent.outgoing]
  cases intact.stage with
  | accepted _ _ _ pending =>
      rw [notPending] at pending
      contradiction
  | running _ whole receiving _ active =>
      have complete : receiver.disk destination = source := by
        have nothing : ahead sender receiver = [] := by
          rw [ahead, notPending, outlook, flight, hand, reads, senderQuiescent.outgoing,
            senderQuiescent.fileQueue]
          simp
        rw [nothing, List.append_nil] at whole
        exact whole
      refine ⟨complete, ?_, ?_⟩
      · cases active with
        | reading loop handle reading =>
            have queue := reading.queue
            rw [senderQuiescent.fileQueue] at queue
            contradiction
        | closing loop closing =>
            have queue := closing.queue
            rw [senderQuiescent.fileQueue] at queue
            contradiction
        | ended ended =>
            rcases ended.settled with ⟨request, pending⟩ | ⟨notSending, noTotal, noneSent⟩
            · rw [senderQuiescent.mainQueue] at pending
              contradiction
            · exact ⟨notSending, intact.flow.senderRole.notReceiving, noTotal, noneSent,
                intact.senderCounters.1, intact.senderCounters.2⟩
      · have notReceiving : receiver.recvHandle = none := by
          cases isReceiving : receiver.recvHandle with
          | none => rfl
          | some handle =>
              obtain ⟨request, pending⟩ := receiving.pending (by simp [isReceiving]) complete
              rw [receiverQuiescent.mainQueue] at pending
              contradiction
        obtain ⟨-, noTotal, noneReceived⟩ := receiving.released notReceiving
        exact ⟨intact.flow.receiverRole.notSending, notReceiving, intact.receiverCounters.1,
          intact.receiverCounters.2, noTotal, noneReceived⟩

/-- A nonempty file that is readable is offered between two idle clients. -/
theorem Intact.of_sent
    {start middle : Session} {fileURL : FileURL} {file : File} {began : List Event}
    (idle : ∀ side, (start side).Idle)
    (readable : fileURL.handle = .ok file)
    (nonempty : file.bytes ≠ [])
    (sized : fileURL.fileSize = file.bytes.length)
    (sent : start.step (.take .A (.sendFileAtURL fileURL)) = some (middle, began)) :
    middle = Function.update start .A ((start .A).beginSending fileURL file) ∧
      Intact (middle .A) (middle .B) ⟨(start .A).clientId, (start .A).begun⟩
        file.bytes none := by
  have positive : u64 fileURL.fileSize ≠ 0 := by
    have bounded := file.bounded
    have length : 0 < file.bytes.length := List.length_pos_iff.mpr nonempty
    have small : u64 fileURL.fileSize = fileURL.fileSize := Nat.mod_eq_of_lt (by omega)
    omega
  have begun : middle = Function.update start .A ((start .A).beginSending fileURL file) := by
    have result : (start .A).sendFileAtURL fileURL =
        .ok ((start .A).beginSending fileURL file) := by
      simp [sendFileAtURL, sendFileCheck, (idle .A).isOpen, (idle .A).notSending,
        (idle .A).notReceiving, positive, readable]
    simp only [step, Possible, if_true, act, result, Option.map_some, Option.some.injEq,
      Prod.mk.injEq] at sent
    exact sent.1.symm
  refine ⟨begun, ?_⟩
  rw [begun, Function.update_self, Function.update_of_ne (by decide)]
  exact Intact.begin (idle .A) (idle .B) positive readable

/-- **An undisturbed transfer delivers the file.** Two idle clients are joined by
an open channel and `A` sends a nonempty file. Whatever the chunks, the retries
within their bound, and the order in which the loop, the callbacks and both main
queues run: when `B` has opened a destination, no call or loss of the connection
intervenes, every write succeeds and nothing is left to run, the destination
holds the bytes of the file, both clients have closed their handles and zeroed
their counters, and no finish was reported with an error. -/
theorem undisturbed_transfer_arrives
    {start middle final : Session} {fileURL : FileURL} {file : File}
    {began history : List Event} {actions : List Action}
    (idle : ∀ side, (start side).Idle)
    (readable : fileURL.handle = .ok file)
    (nonempty : file.bytes ≠ [])
    (sized : fileURL.fileSize = file.bytes.length)
    (sent : start.step (.take .A (.sendFileAtURL fileURL)) = some (middle, began))
    (run : Machine.Run Session.step Undisturbed middle actions history final)
    {tag : Option TransferId} {destination : String}
    (accepted : .opened .B tag destination ∈ history)
    (quiescent : ∀ side, (final side).Quiescent) :
    (final .B).disk destination = file.bytes ∧
      (∀ side, (final side).Released) ∧
      ∀ side error request ended,
        .observed side (.delegate (.fileTransferDidFinish error request ended)) ∈ history →
          error = none := by
  obtain ⟨-, intact⟩ := Intact.of_sent idle readable nonempty sized sent
  obtain ⟨path, holds⟩ := Undisturbed.Holds.of_run intact run
  obtain rfl := holds.opened tag destination accepted
  obtain ⟨complete, senderReleased, receiverReleased⟩ :=
    holds.intact.quiescent (quiescent .A) (quiescent .B)
  refine ⟨complete, ?_, holds.finished⟩
  intro side
  cases side with
  | A => exact senderReleased
  | B => exact receiverReleased

/-- Two clients whose channel is open. -/
def joined : Session :=
  fun side => { RTCClient.initial side.clientId "mac#001" with readyState := some .Open }

/-- The receiver's `ft_done` overtakes the loop: the cleanup resets the counters
right after the chunk has been handed over. -/
def overtaken : List Action :=
  [.deliver .B .written,
    .take .B (.acceptIncomingFileToURL ⟨"Downloads/notes.txt", none⟩),
    .deliver .A .written] ++
  List.replicate 8 (.take .A (.runFile ⟨0, 2, false, true⟩)) ++
  [.deliver .B .written, .deliver .A .written, .take .A .runMain] ++
  List.replicate 8 (.take .A (.runFile ⟨0, 2, false, true⟩)) ++
  [.deliver .B .written, .take .A .runMain, .take .A .runMain] ++
  List.replicate 4 (.take .B .runMain)

/-- The file that `joined` clients transfer. -/
def notes : File := ⟨[1, 2], File.bounded_notes⟩

theorem joined_idle (side : Side) : (joined side).Idle := by
  cases side <;> exact ⟨⟨rfl, rfl, rfl, rfl, rfl, rfl⟩, ⟨rfl, rfl, rfl⟩, rfl, rfl⟩

/-- After `A` has offered the file. -/
def offeredNotes : Session :=
  Function.update joined .A ((joined .A).beginSending (.ofFile "notes.txt" notes) notes)

theorem joined_sends :
    joined.step (.take .A (.sendFileAtURL (.ofFile "notes.txt" notes))) =
      some (offeredNotes, events .A (joined .A) (offeredNotes .A) []) :=
  rfl

theorem overtaken_run :
    ∃ final history, Machine.Run Session.step Undisturbed offeredNotes overtaken history final ∧
      .opened .B (some ⟨0, 0⟩) "Downloads/notes.txt" ∈ history ∧
      ∀ side, (final side).Quiescent := by
  obtain ⟨final, history, run, checked⟩ :
      ∃ final history,
        Machine.Run Session.step Undisturbed offeredNotes overtaken history final ∧
        decide (.opened .B (some ⟨0, 0⟩) "Downloads/notes.txt" ∈ history ∧
          ∀ side ∈ [Side.A, Side.B], (final side).outgoing = [] ∧
            (final side).fileQueue = [] ∧ (final side).mainQueue = []) = true :=
    Machine.run_of_exec_any (fun (final : Session) (history : List Event) =>
      decide (.opened .B (some ⟨0, 0⟩) "Downloads/notes.txt" ∈ history ∧
        ∀ side ∈ [Side.A, Side.B], (final side).outgoing = [] ∧
          (final side).fileQueue = [] ∧ (final side).mainQueue = []))
      (by decide)
  obtain ⟨accepted, quiet⟩ := of_decide_eq_true checked
  refine ⟨final, history, run, accepted, ?_⟩
  intro side
  obtain ⟨outgoing, fileQueue, mainQueue⟩ := quiet side (by cases side <;> decide)
  exact ⟨outgoing, fileQueue, mainQueue⟩

theorem undisturbed_transfer_arrives_overtaken :
    ∃ middle began history final,
      joined.step (.take .A (.sendFileAtURL (.ofFile "notes.txt" notes))) =
        some (middle, began) ∧
      Machine.Run Session.step Undisturbed middle overtaken history final ∧
      (final .B).disk "Downloads/notes.txt" = [1, 2] ∧
      (∀ side, (final side).Released) ∧
      ∀ side error request ended,
        .observed side (.delegate (.fileTransferDidFinish error request ended)) ∈ history →
          error = none := by
  obtain ⟨final, history, run, accepted, quiescent⟩ := overtaken_run
  have nonempty : notes.bytes ≠ [] := by decide
  refine ⟨_, _, history, final, joined_sends, run, ?_⟩
  exact undisturbed_transfer_arrives joined_idle rfl nonempty rfl joined_sends run accepted
    quiescent

end Session

end WebrtcFileSender
