import WebrtcFileSender.Client.Step

/-!
Contract: the operations of `RTCClient` as record updates.

Owns: one equation per operation that says which properties it changes and to
what, and the inversion of one loop statement and of one machine step. Proofs
about a client rewrite with these equations and do not unfold the methods.
-/

namespace WebrtcFileSender

/-- The chunk a loop has read and not yet counted. -/
def LoopPoint.chunk? : LoopPoint → Option Chunk
  | .retryTest chunk _ | .retryOpenTest chunk _ | .retrySend chunk _ | .okTest chunk _
  | .addBytes chunk => some chunk
  | _ => none

/-- The chunk that the loop has read and will still send. -/
def LoopPoint.unsent : LoopPoint → Bytes
  | .retryTest chunk _ | .retryOpenTest chunk _ | .retrySend chunk _
  | .okTest chunk false => chunk.data
  | _ => []

/-- The loop will do nothing but report its end. -/
def LoopPoint.finishing : LoopPoint → Bool
  | .finish _ => true
  | _ => false

/-- A block that only reports to the delegate. -/
def MainBlock.Reports : MainBlock → Prop
  | .iceConnectionLost | .cleanup _ _ => False
  | _ => True

def MainBlock.isCleanup : MainBlock → Bool
  | .cleanup _ _ => true
  | .dataChannelStateDidChange _ | .iceConnectionLost | .didReceivePeerName _ _ _
  | .didUpdateOnlinePeers _ | .fileReceiveOffered | .fileReceiveProgress _
  | .fileSendProgress _ => false

namespace RTCClient

/-- The bytes that the handle has not handed over. -/
def unread (client : RTCClient) : Bytes :=
  match client.sendHandle with
  | none => []
  | some handle => handle.file.bytes.drop handle.offset

variable (client : RTCClient)

/-! ## Sending and dispatching -/

/-- `outgoing` after `sendData:`. -/
def queued (packet : Packet) : List Packet :=
  if client.isDataChannelOpen then client.outgoing ++ [packet] else client.outgoing

theorem sendData_eq (packet : Packet) :
    client.sendData packet = { client with outgoing := client.queued packet } := by
  unfold sendData queued
  split <;> rfl

theorem sendControlJSON_eq (message : Message) (transfer : Option TransferId) :
    client.sendControlJSON message transfer =
      { client with outgoing := client.queued ⟨message, transfer⟩ } :=
  client.sendData_eq _

theorem cleanupTransferWithError_eq (error : Option NSError) (transfer : Option TransferId)
    (byPeer : Bool) :
    client.cleanupTransferWithError error transfer byPeer =
      { client with
        mainQueue := client.mainQueue ++
          [.cleanup error ⟨transfer, byPeer, client.begun⟩] } :=
  rfl

/-! ## User calls -/

theorem beginSending_eq (fileURL : FileURL) (file : File) :
    client.beginSending fileURL file =
      { client with
        transferCancelled := false
        sendHandle := some ⟨⟨client.clientId, client.begun⟩, file, 0⟩
        sendTotalBytes := u64 fileURL.fileSize
        sendBytesSent := 0
        begun := client.begun + 1
        outgoing := client.queued
          ⟨.ftOffer (fileURL.lastPathComponent.getD "file") (u64 fileURL.fileSize) chunkSize,
            some ⟨client.clientId, client.begun⟩⟩ } := by
  unfold beginSending
  dsimp only
  rw [sendControlJSON_eq]
  rfl

theorem cancelFileTransfer_eq :
    client.cancelFileTransfer =
      { client with
        transferCancelled := true
        outgoing := client.queued ⟨.ftCancel, client.currentTransfer⟩
        mainQueue := client.mainQueue ++
          [.cleanup (some (rtcError 10 "Cancelled"))
            ⟨client.currentTransfer, false, client.begun⟩] } := by
  unfold cancelFileTransfer
  dsimp only
  rw [sendControlJSON_eq]
  rfl

theorem rejectIncomingFileWithReason_eq (reason : String) :
    client.rejectIncomingFileWithReason reason =
      { client with
        outgoing := client.queued ⟨.ftReject reason, client.incomingTransfer⟩
        mainQueue := client.mainQueue ++
          [.cleanup (some (rtcError 12 reason))
            ⟨client.incomingTransfer, false, client.begun⟩] } := by
  unfold rejectIncomingFileWithReason
  dsimp only
  rw [sendControlJSON_eq]
  rfl

/-- The three ways an accept can go: a guard stops it, the destination does not
open, or the file is opened and `ft_accept` is sent. -/
theorem acceptIncomingFileToURL_cases (destination : Destination) :
    (client.canAccept = false ∧ client.acceptIncomingFileToURL destination = client) ∨
    (∃ error, client.canAccept = true ∧ destination.openError = some error ∧
      client.acceptIncomingFileToURL destination =
        { client with
          outgoing := client.queued
            ⟨.ftReject "Unable to open destination", client.incomingTransfer⟩
          mainQueue := client.mainQueue ++
            [.cleanup (some (rtcError 12 "Unable to open destination"))
                ⟨client.incomingTransfer, false, client.begun⟩,
              .cleanup (some (error.getD (rtcError 11 "Unable to open destination")))
                ⟨client.incomingTransfer, false, client.begun⟩] }) ∨
    (client.canAccept = true ∧ destination.openError = none ∧
      client.acceptIncomingFileToURL destination =
        { client with
          disk := Function.update client.disk destination.path []
          recvHandle := some
            ⟨destination.path, client.incomingTransfer, client.incomingBirth⟩
          recvBytesReceived := 0
          outgoing := client.queued ⟨.ftAccept, client.incomingTransfer⟩ }) := by
  unfold acceptIncomingFileToURL
  cases accepts : client.canAccept with
  | false => simp
  | true =>
      cases opens : destination.openError with
      | none =>
          simp only [Bool.true_eq_false, false_and, reduceCtorEq, and_false, exists_false,
            true_and, false_or, if_true]
          rw [sendControlJSON_eq]
          rfl
      | some error =>
          refine .inr (.inl ⟨error, rfl, rfl, ?_⟩)
          simp only [if_true]
          rw [rejectIncomingFileWithReason_eq, cleanupTransferWithError_eq]
          simp

/-! ## Callbacks -/

/-- An offer is refused as busy while a handle is open, else it becomes the
pending offer, also when another one was pending. -/
theorem receiveOffer_cases (name : String) (size : Nat) (transfer : Option TransferId) :
    ((client.sendHandle.isSome ∨ client.recvHandle.isSome) ∧
      client.receiveOffer name size transfer =
        { client with outgoing := client.queued ⟨.ftReject "busy", transfer⟩ }) ∨
    (client.sendHandle = none ∧ client.recvHandle = none ∧
      client.receiveOffer name size transfer =
        { client with
          incomingFileName := some name
          recvTotalBytes := u64 size
          recvBytesReceived := 0
          incomingTransfer := transfer
          incomingBirth := client.begun
          begun := client.begun + 1
          mainQueue := client.mainQueue ++ [.fileReceiveOffered] }) := by
  unfold receiveOffer
  split
  case isTrue busy =>
    exact .inl ⟨busy, client.sendControlJSON_eq _ _⟩
  case isFalse idle =>
    simp only [not_or, Bool.not_eq_true, Option.isSome_eq_false_iff,
      Option.isNone_iff_eq_none] at idle
    exact .inr ⟨idle.1, idle.2, rfl⟩

/-- A binary message is dropped, fails to be written, or is appended; the last
case ends the reception when the announced size is reached. -/
theorem receiveBinary_cases (data : Bytes) (outcome : WriteOutcome) :
    ((client.recvHandle = none ∨ client.recvTotalBytes = 0) ∧
      client.receiveBinary data outcome = client) ∨
    (∃ handle reason, client.recvHandle = some handle ∧ client.recvTotalBytes ≠ 0 ∧
      outcome = .raised reason ∧
      client.receiveBinary data outcome =
        { client with
          mainQueue := client.mainQueue ++
            [.cleanup (some (rtcError 20 (reason.getD "Write failed")))
              ⟨handle.transfer, false, client.begun⟩] }) ∨
    (∃ handle, client.recvHandle = some handle ∧ client.recvTotalBytes ≠ 0 ∧
      outcome = .written ∧
      u64 (client.recvBytesReceived + data.length) < client.recvTotalBytes ∧
      client.receiveBinary data outcome =
        { client with
          disk := Function.update client.disk handle.path
            (client.disk handle.path ++ data)
          recvBytesReceived := u64 (client.recvBytesReceived + data.length)
          mainQueue := client.mainQueue ++
            [.fileReceiveProgress
              ⟨u64 (client.recvBytesReceived + data.length), client.recvTotalBytes⟩] }) ∨
    (∃ handle, client.recvHandle = some handle ∧ client.recvTotalBytes ≠ 0 ∧
      outcome = .written ∧
      client.recvTotalBytes ≤ u64 (client.recvBytesReceived + data.length) ∧
      client.receiveBinary data outcome =
        { client with
          disk := Function.update client.disk handle.path
            (client.disk handle.path ++ data)
          recvBytesReceived := u64 (client.recvBytesReceived + data.length)
          outgoing := client.queued ⟨.ftDone, handle.transfer⟩
          mainQueue := client.mainQueue ++
            [.fileReceiveProgress
                ⟨u64 (client.recvBytesReceived + data.length), client.recvTotalBytes⟩,
              .cleanup none ⟨handle.transfer, false, client.begun⟩] }) := by
  unfold receiveBinary
  cases receiving : client.recvHandle with
  | none => simp
  | some handle =>
      by_cases unsized : client.recvTotalBytes = 0
      · simp [unsized]
      · right
        cases outcome with
        | raised reason =>
            refine .inl ⟨handle, reason, rfl, unsized, rfl, ?_⟩
            simp only [unsized, if_false]
            rw [cleanupTransferWithError_eq, receiving]
        | written =>
            right
            by_cases complete :
                client.recvTotalBytes ≤ u64 (client.recvBytesReceived + data.length)
            · refine .inr ⟨handle, rfl, unsized, rfl, complete, ?_⟩
              simp only [unsized, if_false, dispatchMain, complete, if_true]
              rw [sendControlJSON_eq, cleanupTransferWithError_eq]
              simp [queued, isDataChannelOpen]
            · refine .inl ⟨handle, rfl, unsized, rfl, Nat.lt_of_not_le complete, ?_⟩
              simp only [unsized, if_false, dispatchMain, complete]

/-- An opened channel takes the greeting; any other change of state has dropped
what was queued. -/
theorem dataChannelDidChangeState_cases (state : RTCDataChannelState) :
    (∃ name ip role, state = .Open ∧
      client.dataChannelDidChangeState state =
        { client with
          readyState := some .Open
          outgoing := client.outgoing ++ [⟨.hello name ip role, none⟩]
          mainQueue := client.mainQueue ++ [.dataChannelStateDidChange .Open] }) ∨
    (state ≠ .Open ∧
      client.dataChannelDidChangeState state =
        { client with
          readyState := some state
          outgoing := []
          mainQueue := client.mainQueue ++ [.dataChannelStateDidChange state] }) := by
  by_cases isOpen : state = .Open
  · subst isOpen
    exact .inl ⟨_, _, _, rfl, rfl⟩
  · refine .inr ⟨isOpen, ?_⟩
    simp only [dataChannelDidChangeState, isOpen, if_false, dispatchMain]

/-- Any change of the channel's state touches only the state, the packets under way
and the main queue. -/
theorem dataChannelDidChangeState_eq (state : RTCDataChannelState) :
    ∃ outgoing, client.dataChannelDidChangeState state =
      { client with
        readyState := some state
        outgoing := outgoing
        mainQueue := client.mainQueue ++ [.dataChannelStateDidChange state] } := by
  rcases client.dataChannelDidChangeState_cases state with
    ⟨name, ip, role, rfl, result⟩ | ⟨-, result⟩
  · exact ⟨_, result⟩
  · exact ⟨_, result⟩

/-! ## The sending loop -/

/-- What one loop statement may do: move the offset of the send handle, set the
sent counter, hand one packet to the channel, dispatch one block. It neither
opens nor closes the handle. -/
structure LoopChange (transfer : TransferId) (point : LoopPoint)
    (handle : Option ReadHandle) (packets : List Packet) (blocks : List MainBlock) :
    Prop where
  sameTransfer :
    handle.map ReadHandle.transfer = client.sendHandle.map ReadHandle.transfer
  sameFile : handle.map ReadHandle.file = client.sendHandle.map ReadHandle.file
  sends : ∀ packet ∈ packets,
    (∃ chunk retries, point = .retrySend chunk retries ∧
      packet = ⟨.binary chunk.data, some chunk.transfer⟩) ∨
    (point = .sendDone ∧ packet = ⟨.ftDone, some transfer⟩)
  dispatches : ∀ block ∈ blocks,
    (∃ progress, block = .fileSendProgress progress) ∨
    ∃ error, point = .finish error ∧
      block = .cleanup error ⟨some transfer, false, client.begun⟩
  closed : client.isDataChannelOpen = false → packets = []

/-- The handle after a statement is the one before, at another offset. -/
theorem LoopChange.handle_before {client : RTCClient} {transfer : TransferId}
    {point : LoopPoint}
    {handle : Option ReadHandle} {packets : List Packet} {blocks : List MainBlock}
    (change : client.LoopChange transfer point handle packets blocks)
    {new : ReadHandle} (isNew : new ∈ handle) :
    ∃ old, client.sendHandle = some old ∧ old.transfer = new.transfer ∧
      old.file = new.file := by
  have sameTransfer := change.sameTransfer
  have sameFile := change.sameFile
  rw [show handle = some new from isNew] at sameTransfer sameFile
  obtain ⟨old, sending, same⟩ := Option.map_eq_some_iff.mp sameTransfer.symm
  rw [sending] at sameFile
  exact ⟨old, sending, same, (Option.some.inj sameFile).symm⟩

private theorem loopChange_none (transfer : TransferId) (point : LoopPoint) :
    client.LoopChange transfer point client.sendHandle [] [] :=
  ⟨rfl, rfl, by simp, by simp, fun _ => rfl⟩

private theorem queued_append (packet : Packet) :
    ∃ packets, client.queued packet = client.outgoing ++ packets ∧
      (∀ other ∈ packets, other = packet) ∧
      (client.isDataChannelOpen = false → packets = []) := by
  unfold queued
  split
  case isTrue isOpen => exact ⟨[packet], rfl, by simp, by simp [isOpen]⟩
  case isFalse => exact ⟨[], by simp, by simp, fun _ => rfl⟩

theorem readChunk_spec {input : LoopInput} {handle : ReadHandle} {chunk : Chunk}
    (result : client.readChunk input = some (handle, chunk)) :
    ∃ old, client.sendHandle = some old ∧ chunk.transfer = old.transfer ∧
      chunk.data ≠ [] ∧
      chunk.data = (old.file.bytes.drop old.offset).take (min input.readLength chunkSize) ∧
      handle = { old with offset := old.offset + chunk.data.length } := by
  unfold readChunk at result
  split at result
  case h_1 => contradiction
  case h_2 old reading =>
    split at result
    case isTrue => contradiction
    case isFalse =>
      dsimp only at result
      split at result
      case isTrue => contradiction
      case isFalse nonempty =>
        obtain ⟨rfl, rfl⟩ := Prod.mk.inj (Option.some.inj result)
        exact ⟨old, reading, rfl, fun empty => nonempty (congrArg List.length empty), rfl, rfl⟩

theorem loopStatement_change (transfer : TransferId) (input : LoopInput)
    (point : LoopPoint) :
    ∃ handle sent packets blocks,
      (client.loopStatement transfer input point).1 =
        { client with
          sendHandle := handle
          sendBytesSent := sent
          outgoing := client.outgoing ++ packets
          mainQueue := client.mainQueue ++ blocks } ∧
      client.LoopChange transfer point handle packets blocks := by
  have unchanged : ∃ handle sent packets blocks,
      client =
        { client with
          sendHandle := handle
          sendBytesSent := sent
          outgoing := client.outgoing ++ packets
          mainQueue := client.mainQueue ++ blocks } ∧
      client.LoopChange transfer point handle packets blocks :=
    ⟨client.sendHandle, client.sendBytesSent, [], [], by simp,
      client.loopChange_none transfer point⟩
  cases point with
  | entry | whileTest | waitTest | waitBody | openTest | retryTest | retryOpenTest | okTest
  | cancelledTest | completeTest => exact unchanged
  | read =>
      simp only [loopStatement]
      split
      case h_1 => exact unchanged
      case h_2 handle chunk result =>
        obtain ⟨old, reading, -, -, -, rfl⟩ := client.readChunk_spec result
        refine ⟨some { old with offset := old.offset + chunk.data.length },
          client.sendBytesSent, [], [], by simp, ?_, ?_, by simp, by simp, fun _ => rfl⟩
        · rw [reading]
          rfl
        · rw [reading]
          rfl
  | retrySend chunk retries =>
      simp only [loopStatement]
      split
      case isTrue =>
        obtain ⟨packets, result, same, closed⟩ :=
          client.queued_append ⟨.binary chunk.data, some chunk.transfer⟩
        rw [sendData_eq, result]
        refine ⟨client.sendHandle, client.sendBytesSent, packets, [], by simp, rfl, rfl, ?_,
          by simp, closed⟩
        intro packet member
        exact .inl ⟨chunk, retries, rfl, same packet member⟩
      case isFalse => exact unchanged
  | addBytes chunk =>
      exact ⟨client.sendHandle, u64 (client.sendBytesSent + chunk.data.length), [], [],
        by simp [loopStatement], client.loopChange_none transfer _⟩
  | reportProgress =>
      refine ⟨client.sendHandle, client.sendBytesSent, [],
        [.fileSendProgress ⟨client.sendBytesSent, client.sendTotalBytes⟩],
        by simp only [loopStatement, dispatchMain, List.append_nil], rfl, rfl, by simp, ?_,
        fun _ => rfl⟩
      intro block member
      exact .inl ⟨_, List.mem_singleton.mp member⟩
  | sendDone =>
      simp only [loopStatement]
      obtain ⟨packets, result, same, closed⟩ :=
        client.queued_append ⟨.ftDone, some transfer⟩
      rw [sendControlJSON_eq, result]
      refine ⟨client.sendHandle, client.sendBytesSent, packets, [], by simp, rfl, rfl, ?_,
        by simp, closed⟩
      intro packet member
      exact .inr ⟨rfl, same packet member⟩
  | finish error =>
      refine ⟨client.sendHandle, client.sendBytesSent, [],
        [.cleanup error ⟨some transfer, false, client.begun⟩],
        by simp only [loopStatement, cleanupTransferWithError_eq, List.append_nil], rfl, rfl,
        by simp, ?_, fun _ => rfl⟩
      intro block member
      exact .inr ⟨error, rfl, List.mem_singleton.mp member⟩

/-- The blocks that one loop statement queues. -/
def loopBlocks (transfer : TransferId) : LoopPoint → List MainBlock
  | .reportProgress => [.fileSendProgress ⟨client.sendBytesSent, client.sendTotalBytes⟩]
  | .finish error => [.cleanup error ⟨some transfer, false, client.begun⟩]
  | _ => []

theorem mainQueue_of_loopStatement (transfer : TransferId) (given : LoopInput)
    (point : LoopPoint) :
    (client.loopStatement transfer given point).1.mainQueue =
      client.mainQueue ++ client.loopBlocks transfer point := by
  cases point with
  | reportProgress | finish => rfl
  | read =>
      simp only [loopStatement, loopBlocks, List.append_nil]
      split <;> rfl
  | retrySend chunk retries =>
      simp only [loopStatement, loopBlocks, List.append_nil, sendData_eq]
      split <;> rfl
  | sendDone =>
      simp only [loopStatement, loopBlocks, List.append_nil, sendControlJSON_eq]
  | entry | whileTest | waitTest | waitBody | openTest | retryTest | retryOpenTest | okTest
  | addBytes | cancelledTest | completeTest =>
      simp only [loopStatement, loopBlocks, List.append_nil]

/-- A loop keeps the chunk it holds, or has just read one from the handle. -/
theorem loopStatement_chunk {transfer : TransferId} {input : LoopInput}
    {point following : LoopPoint} {chunk : Chunk}
    (continues : (client.loopStatement transfer input point).2 = some following)
    (holds : following.chunk? = some chunk) :
    point.chunk? = some chunk ∨
      (point = .read ∧ ∃ handle, client.sendHandle = some handle ∧
        chunk.transfer = handle.transfer) := by
  cases point with
  | read =>
      simp only [loopStatement] at continues
      split at continues
      case h_1 =>
        obtain rfl := Option.some.inj continues
        contradiction
      case h_2 handle given result =>
        obtain rfl := Option.some.inj continues
        obtain rfl := Option.some.inj holds
        obtain ⟨old, reading, same, -⟩ := client.readChunk_spec result
        exact .inr ⟨rfl, old, reading, same⟩
  | entry | whileTest | waitTest | waitBody | openTest | addBytes | reportProgress
  | cancelledTest | completeTest | sendDone | finish =>
      simp only [loopStatement] at continues
      repeat' split at continues
      all_goals
        first
          | contradiction
          | obtain rfl := Option.some.inj continues; contradiction
  | retryTest | retryOpenTest | retrySend | okTest =>
      left
      simp only [loopStatement] at continues
      repeat' split at continues
      all_goals
        obtain rfl := Option.some.inj continues
        first
          | exact holds
          | contradiction

/-- The file queue after a statement of the loop at its head. -/
def advanceQueue (loop : SendingLoop) (rest : List SendingLoop) :
    Option LoopPoint → List SendingLoop
  | none => rest
  | some point => { loop with point := point } :: rest

variable {client}

theorem runLoop_cases {input : LoopInput} {next : RTCClient}
    (ran : client.runLoop input = some next) :
    ∃ loop rest, client.fileQueue = loop :: rest ∧
      next =
        { (client.loopStatement loop.transfer input loop.point).1 with
          fileQueue := advanceQueue loop rest
            (client.loopStatement loop.transfer input loop.point).2 } := by
  unfold runLoop at ran
  cases queue : client.fileQueue with
  | nil => simp [queue] at ran
  | cons loop rest =>
      refine ⟨loop, rest, rfl, ?_⟩
      simp only [queue] at ran
      cases following : (client.loopStatement loop.transfer input loop.point).2 with
      | none =>
          simp only [following, Option.some.injEq] at ran
          exact ran.symm
      | some point =>
          simp only [following, Option.some.injEq] at ran
          exact ran.symm

/-! ## One input -/

/-- A control message with which the peer ends a transfer, and the error it
reports. -/
def endingError : Message → Option (Option NSError)
  | .ftReject reason => some (some (rtcError 13 reason))
  | .ftCancel => some (some (rtcError 13 "Cancelled/Rejected"))
  | .ftDone => some none
  | _ => none

/-- The effects of one input. -/
inductive Effect (client : RTCClient) : Input → RTCClient → List DelegateCall → Prop
  | began (fileURL : FileURL) (file : File)
      (isOpen : client.isDataChannelOpen = true)
      (notSending : client.sendHandle = none)
      (notReceiving : client.recvHandle = none)
      (sized : u64 fileURL.fileSize ≠ 0)
      (opened : fileURL.handle = .ok file) :
      Effect client (.sendFileAtURL fileURL) (client.beginSending fileURL file) []
  | cancelled :
      Effect client .cancelFileTransfer client.cancelFileTransfer []
  | rejected (reason : String) :
      Effect client (.rejectIncomingFileWithReason reason)
        (client.rejectIncomingFileWithReason reason) []
  | accepted (destination : Destination)
      (accepts : client.canAccept = true)
      (opens : destination.openError = none) :
      Effect client (.acceptIncomingFileToURL destination)
        { client with
          disk := Function.update client.disk destination.path []
          recvHandle := some
            ⟨destination.path, client.incomingTransfer, client.incomingBirth⟩
          recvBytesReceived := 0
          outgoing := client.queued ⟨.ftAccept, client.incomingTransfer⟩ } []
  | unopened (destination : Destination) (error : Option NSError)
      (accepts : client.canAccept = true)
      (fails : destination.openError = some error) :
      Effect client (.acceptIncomingFileToURL destination)
        { client with
          outgoing := client.queued
            ⟨.ftReject "Unable to open destination", client.incomingTransfer⟩
          mainQueue := client.mainQueue ++
            [.cleanup (some (rtcError 12 "Unable to open destination"))
                ⟨client.incomingTransfer, false, client.begun⟩,
              .cleanup (some (error.getD (rtcError 11 "Unable to open destination")))
                ⟨client.incomingTransfer, false, client.begun⟩] } []
  | greeted (name ip role : String) (transfer : Option TransferId) (outcome : WriteOutcome) :
      Effect client (.receive ⟨.hello name ip role, transfer⟩ outcome)
        (client.receiveHello name ip role) []
  | busy (name : String) (size chunk : Nat) (transfer : Option TransferId)
      (outcome : WriteOutcome)
      (engaged : client.sendHandle.isSome ∨ client.recvHandle.isSome) :
      Effect client (.receive ⟨.ftOffer name size chunk, transfer⟩ outcome)
        { client with outgoing := client.queued ⟨.ftReject "busy", transfer⟩ } []
  | offered (name : String) (size chunk : Nat) (transfer : Option TransferId)
      (outcome : WriteOutcome)
      (notSending : client.sendHandle = none)
      (notReceiving : client.recvHandle = none) :
      Effect client (.receive ⟨.ftOffer name size chunk, transfer⟩ outcome)
        { client with
          incomingFileName := some name
          recvTotalBytes := u64 size
          recvBytesReceived := 0
          incomingTransfer := transfer
          incomingBirth := client.begun
          begun := client.begun + 1
          mainQueue := client.mainQueue ++ [.fileReceiveOffered] } []
  | started (handle : ReadHandle) (transfer : Option TransferId) (outcome : WriteOutcome)
      (sending : client.sendHandle = some handle) :
      Effect client (.receive ⟨.ftAccept, transfer⟩ outcome)
        (client.startSendingLoop handle.transfer) []
  | ended (message : Message) (transfer : Option TransferId) (outcome : WriteOutcome)
      (error : Option NSError)
      (ends : endingError message = some error) :
      Effect client (.receive ⟨message, transfer⟩ outcome)
        (client.cleanupTransferWithError error transfer true) []
  | writeFailed (data : Bytes) (transfer : Option TransferId) (reason : Option String)
      (handle : WriteHandle)
      (receiving : client.recvHandle = some handle)
      (sized : client.recvTotalBytes ≠ 0) :
      Effect client (.receive ⟨.binary data, transfer⟩ (.raised reason))
        (client.cleanupTransferWithError
          (some (rtcError 20 (reason.getD "Write failed"))) handle.transfer false) []
  | stored (data : Bytes) (transfer : Option TransferId) (handle : WriteHandle)
      (receiving : client.recvHandle = some handle)
      (sized : client.recvTotalBytes ≠ 0)
      (more : u64 (client.recvBytesReceived + data.length) < client.recvTotalBytes) :
      Effect client (.receive ⟨.binary data, transfer⟩ .written)
        { client with
          disk := Function.update client.disk handle.path
            (client.disk handle.path ++ data)
          recvBytesReceived := u64 (client.recvBytesReceived + data.length)
          mainQueue := client.mainQueue ++
            [.fileReceiveProgress
              ⟨u64 (client.recvBytesReceived + data.length), client.recvTotalBytes⟩] } []
  | completed (data : Bytes) (transfer : Option TransferId) (handle : WriteHandle)
      (receiving : client.recvHandle = some handle)
      (sized : client.recvTotalBytes ≠ 0)
      (complete : client.recvTotalBytes ≤ u64 (client.recvBytesReceived + data.length)) :
      Effect client (.receive ⟨.binary data, transfer⟩ .written)
        { client with
          disk := Function.update client.disk handle.path
            (client.disk handle.path ++ data)
          recvBytesReceived := u64 (client.recvBytesReceived + data.length)
          outgoing := client.queued ⟨.ftDone, handle.transfer⟩
          mainQueue := client.mainQueue ++
            [.fileReceiveProgress
                ⟨u64 (client.recvBytesReceived + data.length), client.recvTotalBytes⟩,
              .cleanup none ⟨handle.transfer, false, client.begun⟩] } []
  | transmitted (packet : Packet) (rest : List Packet)
      (queue : client.outgoing = packet :: rest) :
      Effect client .transmit { client with outgoing := rest } []
  | reported (block : MainBlock) (rest : List MainBlock) (call : DelegateCall)
      (queue : client.mainQueue = block :: rest)
      (reports : block.Reports)
      (notFinish : ∀ error request ended,
        call ≠ .fileTransferDidFinish error request ended) :
      Effect client .runMain { client with mainQueue := rest } [call]
  | iceLost (rest : List MainBlock)
      (queue : client.mainQueue = .iceConnectionLost :: rest)
      (engaged : client.sendHandle.isSome ∨ client.recvHandle.isSome) :
      Effect client .runMain
        { client with
          mainQueue := rest ++
            [.cleanup (some (rtcError 40 "连接已断开"))
              ⟨client.currentTransfer, false, client.begun⟩] }
        [.dataChannelStateDidChange .Closed]
  | iceIdle (rest : List MainBlock)
      (queue : client.mainQueue = .iceConnectionLost :: rest)
      (notSending : client.sendHandle = none)
      (notReceiving : client.recvHandle = none) :
      Effect client .runMain { client with mainQueue := rest }
        [.dataChannelStateDidChange .Closed]
  | cleaned (error : Option NSError) (request : CleanupRequest) (rest : List MainBlock)
      (queue : client.mainQueue = .cleanup error request :: rest) :
      Effect client .runMain { client with mainQueue := rest }.resetTransfer
        [.fileTransferDidFinish error request (client.sendHandle.map ReadHandle.transfer)]
  | looped (input : LoopInput) (loop : SendingLoop) (rest : List SendingLoop)
      (queue : client.fileQueue = loop :: rest) :
      Effect client (.runFile input)
        { (client.loopStatement loop.transfer input loop.point).1 with
          fileQueue := advanceQueue loop rest
            (client.loopStatement loop.transfer input loop.point).2 } []
  | iceChanged (newState : RTCIceConnectionState) (lost : newState.isLost = true) :
      Effect client (.iceConnectionState newState)
        { client with mainQueue := client.mainQueue ++ [.iceConnectionLost] } []
  | channelChanged (state : RTCDataChannelState) :
      Effect client (.dataChannelState state) (client.dataChannelDidChangeState state) []
  | nothing (input : Input)
      (notSent : ∀ fileURL, input = .sendFileAtURL fileURL →
        ∃ error, client.sendFileAtURL fileURL = .error error)
      (notReceived : ∀ packet outcome, input = .receive packet outcome →
        (packet.message = .ftAccept ∧ client.sendHandle = none) ∨
          ∃ data, packet.message = .binary data ∧
            (client.recvHandle = none ∨ client.recvTotalBytes = 0))
      (notAccepted : ∀ destination, input = .acceptIncomingFileToURL destination →
        client.canAccept = false)
      (notQueued : input ≠ .transmit ∧ input ≠ .runMain ∧ (∀ given, input ≠ .runFile given)) :
      Effect client input client []

/-- A hello is never dropped. -/
theorem next_of_hello {name ip role : String} {tag : Option TransferId}
    {outcome : WriteOutcome} {next : RTCClient} {calls : List DelegateCall}
    (effect : Effect client (.receive ⟨.hello name ip role, tag⟩ outcome) next calls) :
    next = client.receiveHello name ip role := by
  cases effect with
  | greeted => rfl
  | ended _ _ _ _ ends => contradiction
  | nothing _ _ notReceived =>
      rcases notReceived _ _ rfl with ⟨isAccept, -⟩ | ⟨data, isBinary, -⟩
      · contradiction
      · contradiction

/-- Nor is an `ft_done`, whatever the state of the transfer. -/
theorem next_of_ftDone {tag : Option TransferId} {outcome : WriteOutcome}
    {next : RTCClient} {calls : List DelegateCall}
    (effect : Effect client (.receive ⟨.ftDone, tag⟩ outcome) next calls) :
    next = client.cleanupTransferWithError none tag true := by
  cases effect with
  | ended _ _ _ error ends =>
      obtain rfl : none = error := Option.some.inj ends
      rfl
  | nothing _ _ notReceived =>
      rcases notReceived _ _ rfl with ⟨isAccept, -⟩ | ⟨data, isBinary, -⟩
      · contradiction
      · contradiction

theorem sendFileAtURL_ok {fileURL : FileURL} {next : RTCClient}
    (sent : client.sendFileAtURL fileURL = .ok next) :
    ∃ file, client.isDataChannelOpen = true ∧ client.sendHandle = none ∧
      client.recvHandle = none ∧ u64 fileURL.fileSize ≠ 0 ∧ fileURL.handle = .ok file ∧
      next = client.beginSending fileURL file := by
  unfold sendFileAtURL sendFileCheck at sent
  split at sent
  case h_1 => contradiction
  case h_2 file checked =>
    split at checked
    case isTrue => contradiction
    case isFalse isOpen =>
      split at checked
      case isTrue => contradiction
      case isFalse idle =>
        split at checked
        case isTrue => contradiction
        case isFalse sized =>
          simp only [not_or, Bool.not_eq_true, Option.isSome_eq_false_iff,
            Option.isNone_iff_eq_none] at idle
          simp only [Bool.not_eq_false] at isOpen
          cases sent
          exact ⟨file, isOpen, idle.1, idle.2, sized, checked, rfl⟩

theorem sendSucceeds_of_idle {fileURL : FileURL} {file : File}
    (isOpen : client.isDataChannelOpen = true)
    (notSending : client.sendHandle = none)
    (notReceiving : client.recvHandle = none)
    (sized : u64 fileURL.fileSize ≠ 0)
    (opened : fileURL.handle = .ok file) :
    client.sendSucceeds fileURL = true := by
  simp [sendSucceeds, sendFileAtURL, sendFileCheck, isOpen, notSending, notReceiving, sized,
    opened]

private theorem receive_effect (packet : Packet) (outcome : WriteOutcome) :
    Effect client (.receive packet outcome) (client.didReceiveMessage packet outcome) [] := by
  obtain ⟨message, transfer⟩ := packet
  have dropped : (message = .ftAccept ∧ client.sendHandle = none ∨
      ∃ data, message = .binary data ∧
        (client.recvHandle = none ∨ client.recvTotalBytes = 0)) →
      Effect client (.receive ⟨message, transfer⟩ outcome) client [] := by
    intro reason
    refine .nothing _ (by simp) ?_ (by simp) (by simp)
    intro other result same
    obtain ⟨rfl, rfl⟩ := Input.receive.inj same
    exact reason
  cases message with
  | hello name ip role => exact .greeted name ip role transfer outcome
  | ftOffer name size chunk =>
      rcases client.receiveOffer_cases name size transfer with
        ⟨engaged, result⟩ | ⟨notSending, notReceiving, result⟩
      · simp only [didReceiveMessage, result]
        exact .busy name size chunk transfer outcome engaged
      · simp only [didReceiveMessage, result]
        exact .offered name size chunk transfer outcome notSending notReceiving
  | ftAccept =>
      cases sending : client.sendHandle with
      | none =>
          simp only [didReceiveMessage, receiveAccept, sending]
          exact dropped (.inl ⟨rfl, sending⟩)
      | some handle =>
          simp only [didReceiveMessage, receiveAccept, sending]
          exact .started handle transfer outcome sending
  | ftReject reason => exact .ended (.ftReject reason) transfer outcome _ rfl
  | ftCancel => exact .ended .ftCancel transfer outcome _ rfl
  | ftDone => exact .ended .ftDone transfer outcome _ rfl
  | binary data =>
      rcases client.receiveBinary_cases data outcome with
        ⟨reason, result⟩ | ⟨handle, reason, receiving, sized, rfl, result⟩ |
        ⟨handle, receiving, sized, rfl, more, result⟩ |
        ⟨handle, receiving, sized, rfl, complete, result⟩
      · simp only [didReceiveMessage, result]
        exact dropped (.inr ⟨data, rfl, reason⟩)
      · simp only [didReceiveMessage, result]
        exact .writeFailed data transfer reason handle receiving sized
      · simp only [didReceiveMessage, result]
        exact .stored data transfer handle receiving sized more
      · simp only [didReceiveMessage, result]
        exact .completed data transfer handle receiving sized complete

private theorem block_effect {block : MainBlock} {rest : List MainBlock}
    (queue : client.mainQueue = block :: rest) :
    Effect client .runMain ({ client with mainQueue := rest }.runBlock block).1
      ({ client with mainQueue := rest }.runBlock block).2 := by
  cases block with
  | iceConnectionLost =>
      by_cases engaged : client.sendHandle.isSome ∨ client.recvHandle.isSome
      · simp only [runBlock, engaged, if_true]
        exact .iceLost rest queue engaged
      · simp only [runBlock, engaged, if_false]
        simp only [not_or, Bool.not_eq_true, Option.isSome_eq_false_iff,
          Option.isNone_iff_eq_none] at engaged
        exact .iceIdle rest queue engaged.1 engaged.2
  | cleanup error request => exact .cleaned error request rest queue
  | dataChannelStateDidChange | didReceivePeerName | didUpdateOnlinePeers
  | fileReceiveOffered | fileReceiveProgress | fileSendProgress =>
      exact .reported _ rest _ queue trivial (by simp)

/-- Every input has one of the effects. -/
theorem effect_of_act {input : Input} {next : RTCClient} {calls : List DelegateCall}
    (acted : client.act input = some (next, calls)) :
    Effect client input next calls := by
  cases input with
  | sendFileAtURL fileURL =>
      cases result : client.sendFileAtURL fileURL with
      | error error =>
          simp only [act, result, Option.some.injEq, Prod.mk.injEq] at acted
          obtain ⟨rfl, rfl⟩ := acted
          refine .nothing _ ?_ (by simp) (by simp) (by simp)
          intro other same
          obtain rfl := Input.sendFileAtURL.inj same
          exact ⟨error, result⟩
      | ok sent =>
          simp only [act, result, Option.some.injEq, Prod.mk.injEq] at acted
          obtain ⟨rfl, rfl⟩ := acted
          obtain ⟨file, isOpen, notSending, notReceiving, sized, opened, rfl⟩ :=
            sendFileAtURL_ok result
          exact .began fileURL file isOpen notSending notReceiving sized opened
  | cancelFileTransfer =>
      simp only [act, Option.some.injEq, Prod.mk.injEq] at acted
      obtain ⟨rfl, rfl⟩ := acted
      exact .cancelled
  | acceptIncomingFileToURL destination =>
      simp only [act, Option.some.injEq, Prod.mk.injEq] at acted
      obtain ⟨rfl, rfl⟩ := acted
      rcases client.acceptIncomingFileToURL_cases destination with
        ⟨refuses, result⟩ | ⟨error, accepts, fails, result⟩ | ⟨accepts, opens, result⟩
      · rw [result]
        refine .nothing _ (by simp) (by simp) ?_ (by simp)
        intro other same
        exact refuses
      · rw [result]
        exact .unopened destination error accepts fails
      · rw [result]
        exact .accepted destination accepts opens
  | rejectIncomingFileWithReason reason =>
      simp only [act, Option.some.injEq, Prod.mk.injEq] at acted
      obtain ⟨rfl, rfl⟩ := acted
      exact .rejected reason
  | receive packet outcome =>
      simp only [act, Option.some.injEq, Prod.mk.injEq] at acted
      obtain ⟨rfl, rfl⟩ := acted
      exact receive_effect packet outcome
  | transmit =>
      cases queue : client.outgoing with
      | nil => simp [act, queue] at acted
      | cons packet rest =>
          simp only [act, queue, Option.some.injEq, Prod.mk.injEq] at acted
          obtain ⟨rfl, rfl⟩ := acted
          exact .transmitted packet rest queue
  | runMain =>
      cases queue : client.mainQueue with
      | nil => simp [act, queue] at acted
      | cons block rest =>
          simp only [act, queue, Option.some.injEq] at acted
          have effect := block_effect queue
          rw [acted] at effect
          exact effect
  | runFile input =>
      simp only [act, Option.map_eq_some_iff, Prod.mk.injEq] at acted
      obtain ⟨ran, result, rfl, rfl⟩ := acted
      obtain ⟨loop, rest, queue, rfl⟩ := runLoop_cases result
      exact .looped input loop rest queue
  | iceConnectionState newState =>
      simp only [act, Option.some.injEq, Prod.mk.injEq] at acted
      obtain ⟨rfl, rfl⟩ := acted
      cases newState with
      | Disconnected | Failed | Closed => exact .iceChanged _ rfl
      | New | Checking | Connected | Completed =>
          exact .nothing _ (by simp) (by simp) (by simp) (by simp)
  | dataChannelState state =>
      simp only [act, Option.some.injEq, Prod.mk.injEq] at acted
      obtain ⟨rfl, rfl⟩ := acted
      exact .channelChanged state

theorem act_of_step {input : Input} {next : RTCClient} {observations : List Observation}
    (stepped : client.step input = some (next, observations)) :
    ∃ calls, client.act input = some (next, calls) ∧
      observations = client.observe next calls := by
  simp only [step, Option.map_eq_some_iff, Prod.mk.injEq, Prod.exists] at stepped
  obtain ⟨same, calls, acted, rfl, rfl⟩ := stepped
  exact ⟨calls, acted, rfl⟩

end RTCClient

end WebrtcFileSender
