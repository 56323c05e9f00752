import WebrtcFileSender.Client.Effect

/-!
Contract: what an observer can conclude from one observation of a client.

Owns: the packets an input may hand to the channel and the cleanups it may
request, with the transfer each is for, and the input behind a reported finish.
-/

namespace WebrtcFileSender

namespace RTCClient

/-- The packets that an input may hand to the channel. -/
inductive Emits (client : RTCClient) : Input → Packet → Prop
  | offer (fileURL : FileURL) (name : String) (size : Nat)
      (succeeds : client.sendSucceeds fileURL = true) :
      Emits client (.sendFileAtURL fileURL)
        ⟨.ftOffer name size chunkSize, some ⟨client.clientId, client.begun⟩⟩
  | cancel :
      Emits client .cancelFileTransfer ⟨.ftCancel, client.currentTransfer⟩
  | reject (reason : String) :
      Emits client (.rejectIncomingFileWithReason reason)
        ⟨.ftReject reason, client.incomingTransfer⟩
  | accept (destination : Destination)
      (accepts : client.canAccept = true)
      (opens : destination.openError = none) :
      Emits client (.acceptIncomingFileToURL destination)
        ⟨.ftAccept, client.incomingTransfer⟩
  | unopened (destination : Destination)
      (accepts : client.canAccept = true)
      (fails : destination.openError.isSome = true) :
      Emits client (.acceptIncomingFileToURL destination)
        ⟨.ftReject "Unable to open destination", client.incomingTransfer⟩
  | busy (name : String) (size chunk : Nat) (transfer : Option TransferId)
      (outcome : WriteOutcome)
      (engaged : client.sendHandle.isSome ∨ client.recvHandle.isSome) :
      Emits client (.receive ⟨.ftOffer name size chunk, transfer⟩ outcome)
        ⟨.ftReject "busy", transfer⟩
  | received (data : Bytes) (transfer : Option TransferId) (handle : WriteHandle)
      (receiving : client.recvHandle = some handle)
      (complete : client.recvTotalBytes ≤ u64 (client.recvBytesReceived + data.length)) :
      Emits client (.receive ⟨.binary data, transfer⟩ .written) ⟨.ftDone, handle.transfer⟩
  | chunk (input : LoopInput) (loop : SendingLoop) (rest : List SendingLoop)
      (chunk : Chunk) (retries : Nat)
      (queue : client.fileQueue = loop :: rest)
      (atPoint : loop.point = .retrySend chunk retries) :
      Emits client (.runFile input) ⟨.binary chunk.data, some chunk.transfer⟩
  | done (input : LoopInput) (loop : SendingLoop) (rest : List SendingLoop)
      (queue : client.fileQueue = loop :: rest)
      (atPoint : loop.point = .sendDone) :
      Emits client (.runFile input) ⟨.ftDone, some loop.transfer⟩
  | hello (state : RTCDataChannelState) (name ip role : String) :
      Emits client (.dataChannelState state) ⟨.hello name ip role, none⟩

variable {client next : RTCClient} {input : Input} {calls : List DelegateCall}

theorem queued_of_isOpen (isOpen : client.isDataChannelOpen = true) (packet : Packet) :
    client.queued packet = client.outgoing ++ [packet] := by
  rw [queued, isOpen]
  rfl

theorem queued_cases (client : RTCClient) (packet : Packet) :
    client.queued packet = client.outgoing ++ [packet] ∨
      client.queued packet = client.outgoing := by
  unfold queued
  split
  · exact .inl rfl
  · exact .inr rfl

/-- `outgoing` after an input: a packet has gone, or the channel is no longer open
and all are dropped, or further packets, all of them emitted by this input, stand
behind the old ones. -/
theorem outgoing_of_effect (effect : Effect client input next calls) :
    (∃ packet, client.outgoing = packet :: next.outgoing ∧ input = .transmit) ∨
      (next.outgoing = [] ∧ ∃ state, input = .dataChannelState state ∧ state ≠ .Open) ∨
      ∃ packets, next.outgoing = client.outgoing ++ packets ∧
        ∀ packet ∈ packets, Emits client input packet := by
  have same : client.outgoing = client.outgoing ++ [] ∧
      ∀ packet ∈ ([] : List Packet), Emits client input packet := by simp
  have added : ∀ {packet}, Emits client input packet →
      ∃ packets, client.queued packet = client.outgoing ++ packets ∧
        ∀ other ∈ packets, Emits client input other := by
    intro packet emits
    rcases client.queued_cases packet with appended | unchanged
    · refine ⟨[packet], appended, ?_⟩
      intro other member
      rw [List.mem_singleton.mp member]
      exact emits
    · exact ⟨[], by simp [unchanged], by simp⟩
  cases effect with
  | began fileURL file isOpen notSending notReceiving sized opened =>
      have succeeds := sendSucceeds_of_idle isOpen notSending notReceiving sized opened
      rw [beginSending_eq]
      exact .inr (.inr (added (.offer fileURL _ _ succeeds)))
  | cancelled =>
      rw [cancelFileTransfer_eq]
      exact .inr (.inr (added .cancel))
  | rejected reason =>
      rw [rejectIncomingFileWithReason_eq]
      exact .inr (.inr (added (.reject reason)))
  | accepted destination accepts opens =>
      exact .inr (.inr (added (.accept destination accepts opens)))
  | unopened destination error accepts fails =>
      exact .inr (.inr (added (.unopened destination accepts (by rw [fails]; rfl))))
  | busy name size chunk transfer outcome engaged =>
      exact .inr (.inr (added (.busy name size chunk transfer outcome engaged)))
  | completed data transfer handle receiving sized complete =>
      exact .inr (.inr (added (.received data transfer handle receiving complete)))
  | transmitted packet rest queue => exact .inl ⟨packet, queue, rfl⟩
  | looped given loop rest queue =>
      obtain ⟨handle, sent, packets, blocks, result, change⟩ :=
        client.loopStatement_change loop.transfer given loop.point
      rw [result]
      refine .inr (.inr ⟨packets, rfl, ?_⟩)
      intro packet member
      rcases change.sends packet member with ⟨chunk, retries, atPoint, rfl⟩ | ⟨atPoint, rfl⟩
      · exact .chunk given loop rest chunk retries queue atPoint
      · exact .done given loop rest queue atPoint
  | channelChanged state =>
      rcases client.dataChannelDidChangeState_cases state with
        ⟨name, ip, role, -, result⟩ | ⟨notOpen, result⟩
      · rw [result]
        refine .inr (.inr ⟨[⟨.hello name ip role, none⟩], rfl, ?_⟩)
        intro packet member
        rw [List.mem_singleton.mp member]
        exact .hello state name ip role
      · rw [result]
        exact .inr (.inl ⟨rfl, state, rfl, notOpen⟩)
  | greeted | offered | started | ended | writeFailed | stored | reported | iceLost | iceIdle
  | cleaned | iceChanged | nothing => exact .inr (.inr ⟨[], same⟩)

theorem mem_outgoing_of_effect (effect : Effect client input next calls)
    {packet : Packet} (member : packet ∈ next.outgoing) :
    packet ∈ client.outgoing ∨ Emits client input packet := by
  rcases outgoing_of_effect effect with ⟨gone, queue, -⟩ | ⟨dropped, -⟩ | ⟨packets, grown, emitted⟩
  · rw [queue]
    exact .inl (List.mem_cons_of_mem _ member)
  · rw [dropped] at member
    contradiction
  · rw [grown] at member
    exact (List.mem_append.mp member).imp_right (emitted packet)

/-- A packet that stands in `outgoing` after an input was there before, or the
observer sees it leaving. -/
theorem sent_of_mem_outgoing (effect : Effect client input next calls)
    {packet : Packet} (member : packet ∈ next.outgoing) :
    packet ∈ client.outgoing ∨ .sent packet ∈ client.observe next calls := by
  rcases outgoing_of_effect effect with ⟨gone, queue, -⟩ | ⟨dropped, -⟩ | ⟨packets, grown, -⟩
  · rw [queue]
    exact .inl (List.mem_cons_of_mem _ member)
  · rw [dropped] at member
    contradiction
  · rw [grown] at member
    refine (List.mem_append.mp member).imp_right ?_
    intro isFresh
    simp only [observe, grown, List.drop_left]
    exact List.mem_append_left _ (List.mem_map_of_mem isFresh)

/-- Every packet an observer sees leaving was emitted by the input. -/
theorem emits_of_sent (effect : Effect client input next calls)
    {packet : Packet} (sent : .sent packet ∈ client.observe next calls) :
    Emits client input packet := by
  have fresh : packet ∈ next.outgoing.drop client.outgoing.length := by
    simpa [observe, -List.map_drop] using sent
  rcases outgoing_of_effect effect with ⟨gone, queue, -⟩ | ⟨dropped, -⟩ | ⟨packets, grown, emitted⟩
  · rw [queue, List.drop_eq_nil_of_le (by simp)] at fresh
    contradiction
  · rw [dropped, List.drop_nil] at fresh
    contradiction
  · rw [grown, List.drop_left] at fresh
    exact emitted packet fresh

/-- `ft_done` is sent for the file just received, or by a loop that has sent all
it means to send. -/
theorem ftDone_cases {tag : Option TransferId} (emits : Emits client input ⟨.ftDone, tag⟩) :
    (∃ data transfer handle, input = .receive ⟨.binary data, transfer⟩ .written ∧
      client.recvHandle = some handle ∧
      client.recvTotalBytes ≤ u64 (client.recvBytesReceived + data.length) ∧
      tag = handle.transfer) ∨
    ∃ given loop rest, input = .runFile given ∧ client.fileQueue = loop :: rest ∧
      loop.point = .sendDone ∧ tag = some loop.transfer := by
  cases emits with
  | received data transfer handle receiving complete =>
      exact .inl ⟨data, transfer, handle, rfl, receiving, complete, rfl⟩
  | done given loop rest queue atPoint => exact .inr ⟨given, loop, rest, rfl, queue, atPoint, rfl⟩

/-- A finish is reported exactly when the main queue runs a cleanup; nothing
else is observed of that input. -/
theorem cleanup_of_finish (effect : Effect client input next calls)
    {error : Option NSError} {request : CleanupRequest} {ended : Option TransferId}
    (reported : .delegate (.fileTransferDidFinish error request ended) ∈
      client.observe next calls) :
    ∃ rest, input = .runMain ∧ client.mainQueue = .cleanup error request :: rest ∧
      ended = client.sendHandle.map ReadHandle.transfer ∧
      next = { client with mainQueue := rest }.resetTransfer ∧
      client.observe next calls =
        [.delegate (.fileTransferDidFinish error request ended)] := by
  have called : .fileTransferDidFinish error request ended ∈ calls := by
    simpa [observe, -List.map_drop] using reported
  cases effect with
  | cleaned given asked rest queue =>
      obtain ⟨rfl, rfl, rfl⟩ := DelegateCall.fileTransferDidFinish.inj
        (List.mem_singleton.mp called)
      exact ⟨rest, rfl, queue, rfl, rfl, by simp [observe, resetTransfer]⟩
  | reported block rest call queue reports notFinish =>
      exact absurd (List.mem_singleton.mp called).symm (notFinish _ _ _)
  | iceLost | iceIdle => simp at called
  | began | cancelled | rejected | accepted | unopened | greeted | busy | offered | started
  | ended | writeFailed | stored | completed | transmitted | looped | iceChanged
  | channelChanged | nothing => simp at called

/-! ## Cleanups -/

/-- The cleanups that an input may request. -/
inductive Requests (client : RTCClient) : Input → Option NSError → CleanupRequest → Prop
  | cancel :
      Requests client .cancelFileTransfer (some (rtcError 10 "Cancelled"))
        ⟨client.currentTransfer, false, client.begun⟩
  | reject (reason : String) :
      Requests client (.rejectIncomingFileWithReason reason) (some (rtcError 12 reason))
        ⟨client.incomingTransfer, false, client.begun⟩
  | unopened (destination : Destination) (error : NSError) :
      Requests client (.acceptIncomingFileToURL destination) (some error)
        ⟨client.incomingTransfer, false, client.begun⟩
  | ended (message : Message) (transfer : Option TransferId) (outcome : WriteOutcome)
      (error : Option NSError) (ends : endingError message = some error) :
      Requests client (.receive ⟨message, transfer⟩ outcome) error
        ⟨transfer, true, client.begun⟩
  | writeFailed (data : Bytes) (transfer : Option TransferId) (reason : Option String)
      (handle : WriteHandle)
      (receiving : client.recvHandle = some handle) :
      Requests client (.receive ⟨.binary data, transfer⟩ (.raised reason))
        (some (rtcError 20 (reason.getD "Write failed")))
        ⟨handle.transfer, false, client.begun⟩
  | received (data : Bytes) (transfer : Option TransferId) (handle : WriteHandle)
      (receiving : client.recvHandle = some handle)
      (complete : client.recvTotalBytes ≤ u64 (client.recvBytesReceived + data.length)) :
      Requests client (.receive ⟨.binary data, transfer⟩ .written) none
        ⟨handle.transfer, false, client.begun⟩
  | iceLost (rest : List MainBlock)
      (queue : client.mainQueue = .iceConnectionLost :: rest) :
      Requests client .runMain (some (rtcError 40 "连接已断开"))
        ⟨client.currentTransfer, false, client.begun⟩
  | finish (input : LoopInput) (loop : SendingLoop) (rest : List SendingLoop)
      (error : Option NSError)
      (queue : client.fileQueue = loop :: rest)
      (atPoint : loop.point = .finish error) :
      Requests client (.runFile input) error ⟨some loop.transfer, false, client.begun⟩

/-- Every cleanup pending after an input was pending before or is requested by
it. -/
theorem mem_mainQueue_of_effect (effect : Effect client input next calls)
    {error : Option NSError} {request : CleanupRequest}
    (member : .cleanup error request ∈ next.mainQueue) :
    .cleanup error request ∈ client.mainQueue ∨ Requests client input error request := by
  have single : ∀ {given : Option NSError} {asked : CleanupRequest},
      Requests client input given asked →
      .cleanup error request ∈ client.mainQueue ++ [.cleanup given asked] →
      .cleanup error request ∈ client.mainQueue ∨ Requests client input error request := by
    intro given asked requests inQueue
    refine (List.mem_append.mp inQueue).imp_right ?_
    intro fresh
    obtain ⟨rfl, rfl⟩ := MainBlock.cleanup.inj (List.mem_singleton.mp fresh)
    exact requests
  cases effect with
  | began =>
      rw [beginSending_eq] at member
      exact .inl member
  | cancelled =>
      rw [cancelFileTransfer_eq] at member
      exact single .cancel member
  | rejected reason =>
      rw [rejectIncomingFileWithReason_eq] at member
      exact single (.reject reason) member
  | accepted | busy | started | transmitted | nothing => exact .inl member
  | unopened destination =>
      refine (List.mem_append.mp member).imp_right ?_
      intro fresh
      simp only [List.mem_cons, MainBlock.cleanup.injEq, List.not_mem_nil, or_false] at fresh
      rcases fresh with ⟨rfl, rfl⟩ | ⟨rfl, rfl⟩
      · exact .unopened destination _
      · exact .unopened destination _
  | greeted | offered | stored | iceChanged =>
      refine .inl ((List.mem_append.mp member).resolve_right ?_)
      simp
  | ended message transfer outcome given ends =>
      exact single (.ended message transfer outcome given ends) member
  | writeFailed data transfer reason handle receiving =>
      exact single (.writeFailed data transfer reason handle receiving) member
  | completed data transfer handle receiving sized complete =>
      refine (List.mem_append.mp member).imp_right ?_
      intro fresh
      simp only [List.mem_cons, reduceCtorEq, MainBlock.cleanup.injEq, List.not_mem_nil,
        or_false, false_or] at fresh
      obtain ⟨rfl, rfl⟩ := fresh
      exact .received data transfer handle receiving complete
  | reported block rest call queue | iceIdle rest queue | cleaned given asked rest queue =>
      rw [queue]
      exact .inl (List.mem_cons_of_mem _ member)
  | iceLost rest queue =>
      rcases List.mem_append.mp member with old | fresh
      · rw [queue]
        exact .inl (List.mem_cons_of_mem _ old)
      · obtain ⟨rfl, rfl⟩ := MainBlock.cleanup.inj (List.mem_singleton.mp fresh)
        exact .inr (.iceLost rest queue)
  | looped given loop rest queue =>
      obtain ⟨handle, sent, packets, blocks, result, change⟩ :=
        client.loopStatement_change loop.transfer given loop.point
      rw [result] at member
      refine (List.mem_append.mp member).imp_right ?_
      intro fresh
      rcases change.dispatches _ fresh with ⟨progress, same⟩ | ⟨reported, atPoint, same⟩
      · contradiction
      · obtain ⟨rfl, rfl⟩ := MainBlock.cleanup.inj same
        exact .finish given loop rest error queue atPoint
  | channelChanged state =>
      have reports : ∀ shown, .cleanup error request ∈
          client.mainQueue ++ [.dataChannelStateDidChange shown] →
          .cleanup error request ∈ client.mainQueue := by
        intro shown inQueue
        refine (List.mem_append.mp inQueue).resolve_right ?_
        simp
      obtain ⟨outgoing, result⟩ := client.dataChannelDidChangeState_eq state
      rw [result] at member
      exact .inl (reports _ member)

/-- Only its own callback changes the state of the channel. -/
theorem readyState_of_effect
    (notChannel : ∀ state, input ≠ .dataChannelState state)
    (effect : Effect client input next calls) :
    next.readyState = client.readyState := by
  cases effect with
  | began => rw [beginSending_eq]
  | cancelled => rw [cancelFileTransfer_eq]
  | rejected => rw [rejectIncomingFileWithReason_eq]
  | looped given loop rest queue =>
      obtain ⟨handle, sent, packets, blocks, result, -⟩ :=
        client.loopStatement_change loop.transfer given loop.point
      rw [result]
  | channelChanged state => exact absurd rfl (notChannel state)
  | accepted | unopened | greeted | busy | offered | started | ended | writeFailed | stored
  | completed | transmitted | reported | iceLost | iceIdle | cleaned | iceChanged | nothing =>
      rfl

/-! ## Loops and sends -/

/-- The file queue after an input: as before, with a loop started by an
`ft_accept` behind it, or with the loop at its head one statement further. -/
theorem fileQueue_of_effect (effect : Effect client input next calls) :
    next.fileQueue = client.fileQueue ∨
    (∃ handle transfer outcome, client.sendHandle = some handle ∧
      input = .receive ⟨.ftAccept, transfer⟩ outcome ∧
      next.fileQueue = client.fileQueue ++ [⟨handle.transfer, .entry⟩]) ∨
    ∃ given loop rest, input = .runFile given ∧ client.fileQueue = loop :: rest ∧
      next.fileQueue = advanceQueue loop rest
        (client.loopStatement loop.transfer given loop.point).2 := by
  cases effect with
  | began =>
      rw [beginSending_eq]
      exact .inl rfl
  | cancelled =>
      rw [cancelFileTransfer_eq]
      exact .inl rfl
  | rejected =>
      rw [rejectIncomingFileWithReason_eq]
      exact .inl rfl
  | started handle transfer outcome sending =>
      exact .inr (.inl ⟨handle, transfer, outcome, sending, rfl, rfl⟩)
  | looped given loop rest queue => exact .inr (.inr ⟨given, loop, rest, rfl, queue, rfl⟩)
  | channelChanged state =>
      obtain ⟨outgoing, result⟩ := client.dataChannelDidChangeState_eq state
      rw [result]
      exact .inl rfl
  | accepted | unopened | greeted | busy | offered | ended | writeFailed | stored | completed
  | transmitted | reported | iceLost | iceIdle | cleaned | iceChanged | nothing =>
      exact .inl rfl

theorem fileQueue_of_statement {given : LoopInput}
    (effect : Effect client (.runFile given) next calls) :
    ∃ loop rest, client.fileQueue = loop :: rest ∧
      next.fileQueue = advanceQueue loop rest
        (client.loopStatement loop.transfer given loop.point).2 := by
  cases effect with
  | looped _ loop rest queue => exact ⟨loop, rest, queue, rfl⟩
  | nothing _ _ _ _ notQueued => exact absurd rfl (notQueued.2.2 given)

theorem mem_advanceQueue {loop other : SendingLoop} {rest : List SendingLoop}
    {point : Option LoopPoint} (member : other ∈ advanceQueue loop rest point) :
    other ∈ rest ∨ ∃ following, point = some following ∧
      other = { loop with point := following } := by
  cases point with
  | none => exact .inl member
  | some following =>
      rcases List.mem_cons.mp member with isHead | inRest
      · exact .inr ⟨following, rfl, isHead⟩
      · exact .inl inRest

/-- A loop queued after an input was queued before, or an `ft_accept` has just
started it for the handle that is open. -/
theorem loop_before (effect : Effect client input next calls)
    {loop : SendingLoop} (member : loop ∈ next.fileQueue) :
    (∃ old ∈ client.fileQueue, old.transfer = loop.transfer) ∨
      ∃ handle transfer outcome, client.sendHandle = some handle ∧
        loop = ⟨handle.transfer, .entry⟩ ∧
        input = .receive ⟨.ftAccept, transfer⟩ outcome := by
  rcases fileQueue_of_effect effect with
    same | ⟨handle, transfer, outcome, sending, received, started⟩ |
    ⟨given, head, rest, -, queue, advanced⟩
  · rw [same] at member
    exact .inl ⟨loop, member, rfl⟩
  · rw [started] at member
    rcases List.mem_append.mp member with old | new
    · exact .inl ⟨loop, old, rfl⟩
    · exact .inr ⟨handle, transfer, outcome, sending, List.mem_singleton.mp new, received⟩
  · rw [advanced] at member
    rw [queue]
    rcases mem_advanceQueue member with inRest | ⟨following, -, rfl⟩
    · exact .inl ⟨loop, List.mem_cons_of_mem _ inRest, rfl⟩
    · exact .inl ⟨head, List.mem_cons_self, rfl⟩

/-- A loop that waits behind another has not begun. -/
def LoopsWait (client : RTCClient) : Prop :=
  ∀ loop ∈ client.fileQueue.tail, loop.point = .entry

/-- The file queue is serial: only an `ft_accept` adds a loop, and only the head runs. -/
theorem LoopsWait.of_effect (wait : client.LoopsWait)
    (effect : Effect client input next calls) : next.LoopsWait := by
  intro loop member
  rcases fileQueue_of_effect effect with
    same | ⟨handle, tag, outcome, -, -, started⟩ | ⟨given, head, rest, -, queue, advanced⟩
  · rw [same] at member
    exact wait loop member
  · rw [started] at member
    cases queue : client.fileQueue with
    | nil =>
        rw [queue] at member
        contradiction
    | cons head rest =>
        rw [queue, List.cons_append, List.tail_cons] at member
        rcases List.mem_append.mp member with old | new
        · exact wait loop (by rwa [queue, List.tail_cons])
        · rw [List.mem_singleton.mp new]
  · rw [advanced] at member
    apply wait loop
    rw [queue, List.tail_cons]
    unfold advanceQueue at member
    split at member
    · exact List.mem_of_mem_tail member
    · exact member

/-- A loop comes to report completion only through its test of the counters. -/
theorem loopStatement_ends {transfer : TransferId} {given : LoopInput}
    {point following : LoopPoint}
    (continues : (client.loopStatement transfer given point).2 = some following)
    (ends : following = .sendDone ∨ following = .finish none) :
    (point = .completeTest ∧ client.sendTotalBytes ≤ client.sendBytesSent) ∨
      point = .sendDone := by
  cases point with
  | completeTest =>
      simp only [loopStatement] at continues
      split at continues
      case isTrue complete => exact .inl ⟨rfl, complete⟩
      case isFalse =>
        rw [← Option.some.inj continues] at ends
        simp at ends
  | sendDone => exact .inr rfl
  | entry | whileTest | waitTest | waitBody | openTest | read | retryTest | retryOpenTest
  | retrySend | okTest | addBytes | reportProgress | cancelledTest | finish =>
      simp only [loopStatement] at continues
      repeat' split at continues
      all_goals
        first
          | contradiction
          | rw [← Option.some.inj continues] at ends; simp at ends

theorem beginSending_of_succeeds {fileURL : FileURL}
    (succeeds : client.sendSucceeds fileURL = true)
    (effect : Effect client (.sendFileAtURL fileURL) next calls) :
    ∃ file, client.isDataChannelOpen = true ∧ u64 fileURL.fileSize ≠ 0 ∧
      fileURL.handle = .ok file ∧ next = client.beginSending fileURL file := by
  cases effect with
  | began _ file isOpen _ _ sized opened => exact ⟨file, isOpen, sized, opened, rfl⟩
  | nothing _ notSent =>
      obtain ⟨error, fails⟩ := notSent fileURL rfl
      simp [sendSucceeds, fails] at succeeds

/-- A send handle that was not there before comes from a send that succeeded. -/
theorem sendHandle_began (effect : Effect client input next calls)
    {handle : ReadHandle}
    (before : client.sendHandle = none) (after : next.sendHandle = some handle) :
    ∃ fileURL, input = .sendFileAtURL fileURL ∧ client.sendSucceeds fileURL = true ∧
      handle.transfer = ⟨client.clientId, client.begun⟩ ∧ next.begun = client.begun + 1 ∧
      next.sendTotalBytes = handle.file.bytes.length := by
  have closed : next.sendHandle = client.sendHandle → False := by
    intro same
    rw [same, before] at after
    contradiction
  cases effect with
  | began fileURL file isOpen notSending notReceiving sized opened =>
      have succeeds := sendSucceeds_of_idle isOpen notSending notReceiving sized opened
      rw [beginSending_eq] at after ⊢
      obtain rfl := Option.some.inj after
      exact ⟨fileURL, rfl, succeeds, rfl, rfl, fileURL.announced_eq opened sized⟩
  | cancelled => exact absurd (by rw [cancelFileTransfer_eq]) closed
  | rejected => exact absurd (by rw [rejectIncomingFileWithReason_eq]) closed
  | cleaned => contradiction
  | looped given loop rest queue =>
      obtain ⟨moved, sent, packets, blocks, result, change⟩ :=
        client.loopStatement_change loop.transfer given loop.point
      rw [result] at after
      obtain ⟨old, sending, -, -⟩ := change.handle_before after
      rw [before] at sending
      contradiction
  | channelChanged state =>
      obtain ⟨outgoing, result⟩ := client.dataChannelDidChangeState_eq state
      exact absurd (by rw [result]) closed
  | accepted | unopened | greeted | busy | offered | started | ended | writeFailed | stored
  | completed | transmitted | reported | iceLost | iceIdle | iceChanged | nothing =>
      exact absurd rfl closed

/-- The ghost number of a client stays, and what has begun only grows. -/
theorem identity_of_effect (effect : Effect client input next calls) :
    next.clientId = client.clientId ∧ client.begun ≤ next.begun := by
  cases effect with
  | began =>
      rw [beginSending_eq]
      exact ⟨rfl, Nat.le_succ _⟩
  | cancelled =>
      rw [cancelFileTransfer_eq]
      exact ⟨rfl, Nat.le_refl _⟩
  | rejected =>
      rw [rejectIncomingFileWithReason_eq]
      exact ⟨rfl, Nat.le_refl _⟩
  | offered => exact ⟨rfl, Nat.le_succ _⟩
  | looped given loop rest queue =>
      obtain ⟨moved, sent, packets, blocks, result, change⟩ :=
        client.loopStatement_change loop.transfer given loop.point
      rw [result]
      exact ⟨rfl, Nat.le_refl _⟩
  | channelChanged state =>
      obtain ⟨outgoing, result⟩ := client.dataChannelDidChangeState_eq state
      rw [result]
      exact ⟨rfl, Nat.le_refl _⟩
  | accepted | unopened | greeted | busy | started | ended | writeFailed | stored | completed
  | transmitted | reported | iceLost | iceIdle | cleaned | iceChanged | nothing =>
      exact ⟨rfl, Nat.le_refl _⟩

end RTCClient

end WebrtcFileSender
