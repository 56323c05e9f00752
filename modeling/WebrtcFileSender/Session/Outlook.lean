import WebrtcFileSender.Library.Pipeline
import WebrtcFileSender.Session.Serial

/-!
Contract: the bytes that may still leave the sender of a transfer.

From the source file to the peer the bytes of a transfer pass the open handle,
the hand of the sending loop and the channel. Closing the channel, closing the
handle and ending the loop cut the way off.

Owns: the bytes on that way, in order; the roles of the two clients in a
transfer; and that whatever the sender does, no more can leave it than before.
-/

namespace WebrtcFileSender

def Message.isAccept : Message → Bool
  | .ftAccept => true
  | _ => false

def Message.isOffer : Message → Bool
  | .ftOffer _ _ _ => true
  | _ => false

def Packet.payload (packet : Packet) : Bytes :=
  match packet.message with
  | .binary data => data
  | _ => []

/-- The packets a sender has under way: it accepts nothing, and its offer
announces the size of the source. -/
def Packet.FromSender (source : Bytes) (packet : Packet) : Prop :=
  match packet.message with
  | .ftAccept => False
  | .ftOffer _ size _ => u64 size = source.length
  | _ => True

/-- The packets a receiver has under way: it offers nothing and sends no bytes. -/
def Packet.FromReceiver (packet : Packet) : Prop :=
  match packet.message with
  | .ftOffer _ _ _ | .binary _ => False
  | _ => True

namespace RTCClient

def flight (client : RTCClient) : Bytes :=
  client.outgoing.flatMap Packet.payload

def hand (client : RTCClient) : Bytes :=
  client.fileQueue.flatMap fun loop => loop.point.unsent

/-- A loop is queued or running that may still read. -/
def reads (client : RTCClient) : Bool :=
  client.fileQueue.any fun loop => !loop.point.finishing

/-- How many packets of a kind are on their way. -/
def count (client : RTCClient) (kind : Message → Bool) : Nat :=
  client.outgoing.countP fun packet => kind packet.message

def acceptPending (client : RTCClient) : Bool :=
  decide (0 < client.count Message.isAccept)

/-- The bytes that may still leave this client, in order; `pending` says that an
`ft_accept` is on its way to it. -/
def outlook (client : RTCClient) (pending : Bool) : Bytes :=
  if client.isDataChannelOpen then
    client.flight ++ client.hand ++ (if client.reads || pending then client.unread else [])
  else []

variable {client next : RTCClient} {input : Input} {calls : List DelegateCall}
variable {source : Bytes} {transfer : TransferId} {pending : Bool}

theorem isDataChannelOpen_congr (same : next.readyState = client.readyState) :
    next.isDataChannelOpen = client.isDataChannelOpen := by
  rw [isDataChannelOpen, isDataChannelOpen, same]

theorem flight_queued {packet : Packet} (control : packet.payload = []) :
    (client.queued packet).flatMap Packet.payload = client.flight := by
  rcases client.queued_cases packet with appended | unchanged
  · rw [appended]
    simp [flight, control]
  · rw [unchanged]
    rfl

/-- An input that emits nothing of a kind does not put more of it on the way. -/
theorem count_of_effect {kind : Message → Bool}
    (notEmitted : ∀ packet, Emits client input packet → kind packet.message = false)
    (effect : Effect client input next calls) :
    next.count kind ≤ client.count kind := by
  unfold count
  rcases outgoing_of_effect effect with ⟨gone, queue, -⟩ | ⟨dropped, -⟩ |
    ⟨packets, grown, emitted⟩
  · rw [queue, List.countP_cons]
    omega
  · rw [dropped]
    exact Nat.zero_le _
  · have none : packets.countP (fun packet => kind packet.message) = 0 := by
      apply List.countP_eq_zero.mpr
      intro packet member
      rw [notEmitted packet (emitted packet member)]
      exact Bool.false_ne_true
    rw [grown, List.countP_append, none]
    exact Nat.le_refl _

/-! ## The sender -/

structure SenderRole (client : RTCClient) (transfer : TransferId) (source : Bytes) : Prop where
  notReceiving : client.recvHandle = none
  notOffered : client.incomingFileName = none
  wasOpen : ∃ state, client.readyState = some state ∧ 1 ≤ state.rank
  closed : client.isDataChannelOpen = false → client.outgoing = []
  handle : ∀ handle ∈ client.sendHandle,
    handle.transfer = transfer ∧ handle.file.bytes = source
  packets : ∀ packet ∈ client.outgoing, packet.FromSender source
  loops : ∀ loop ∈ client.fileQueue, loop.transfer = transfer
  oneLoop : client.fileQueue.length ≤ 1

/-- What a sender receives: nothing of the sender's own, and an accept only
before its loop has started. -/
def SenderReceives (client : RTCClient) (packet : Packet) : Prop :=
  packet.FromReceiver ∧ (packet.message = .ftAccept → client.fileQueue = [])

namespace SenderRole

theorem isOpen_of_queue (role : SenderRole client transfer source)
    {packet : Packet} {rest : List Packet} (queue : client.outgoing = packet :: rest) :
    client.isDataChannelOpen = true := by
  cases isOpen : client.isDataChannelOpen with
  | true => rfl
  | false =>
      rw [role.closed isOpen] at queue
      contradiction

theorem not_canAccept (role : SenderRole client transfer source) :
    client.canAccept = false := by
  simp [canAccept, role.notOffered]

/-- The loop at the head of the queue is the only one. -/
theorem alone (role : SenderRole client transfer source)
    {loop : SendingLoop} {rest : List SendingLoop} (queue : client.fileQueue = loop :: rest) :
    rest = [] := by
  have short := role.oneLoop
  rw [queue, List.length_cons] at short
  exact List.length_eq_zero_iff.mp (by omega)

/-- Wherever the loop stands after a statement, it is still the only one. -/
theorem advanced (role : SenderRole client transfer source)
    {loop : SendingLoop} {rest : List SendingLoop} (queue : client.fileQueue = loop :: rest)
    (point : Option LoopPoint) :
    (∀ other ∈ advanceQueue loop rest point, other.transfer = transfer) ∧
      (advanceQueue loop rest point).length ≤ 1 := by
  have ownLoop : loop.transfer = transfer := role.loops loop (by simp [queue])
  rw [role.alone queue]
  cases point with
  | none => simp [advanceQueue]
  | some point => simp [advanceQueue, ownLoop]

theorem emits
    (role : SenderRole client transfer source)
    (notBegun : ∀ fileURL, input = .sendFileAtURL fileURL →
      client.sendSucceeds fileURL = false)
    {packet : Packet} (emits : Emits client input packet) :
    packet.FromSender source := by
  cases emits with
  | offer fileURL name size succeeds =>
      rw [notBegun fileURL rfl] at succeeds
      contradiction
  | accept destination accepts =>
      rw [role.not_canAccept] at accepts
      contradiction
  | cancel | reject | unopened | busy | received | chunk | done | hello => trivial

/-- A closed channel takes nothing. -/
theorem closed_of_effect
    (role : SenderRole client transfer source)
    (effect : Effect client input next calls) :
    next.isDataChannelOpen = false → next.outgoing = [] := by
  have queued : ∀ packet, client.isDataChannelOpen = false → client.queued packet = [] := by
    intro packet closed
    simp only [RTCClient.queued, closed, Bool.false_eq_true, if_false]
    exact role.closed closed
  cases effect with
  | began =>
      rw [beginSending_eq]
      exact queued _
  | cancelled =>
      rw [cancelFileTransfer_eq]
      exact queued _
  | rejected =>
      rw [rejectIncomingFileWithReason_eq]
      exact queued _
  | accepted | unopened | busy | completed => exact queued _
  | transmitted packet rest queue =>
      intro closed
      have empty := role.closed closed
      rw [queue] at empty
      contradiction
  | looped given loop rest queue =>
      obtain ⟨handle, sent, packets, blocks, result, change⟩ :=
        client.loopStatement_change loop.transfer given loop.point
      rw [result]
      intro closed
      have empty := role.closed closed
      have nothing := change.closed closed
      simp [empty, nothing]
  | channelChanged state =>
      rcases client.dataChannelDidChangeState_cases state with
        ⟨name, ip, role, -, result⟩ | ⟨-, result⟩
      · rw [result]
        intro closed
        contradiction
      · rw [result]
        exact fun _ => rfl
  | greeted | offered | started | ended | writeFailed | stored | reported | iceLost | iceIdle
  | cleaned | iceChanged | nothing => exact role.closed

/-- A channel that has been open does not open again. -/
theorem not_reopened
    (role : SenderRole client transfer source) {state : RTCDataChannelState}
    (follows : RTCDataChannelState.Follows client.readyState state) :
    state ≠ .Open ∧ 1 ≤ state.rank := by
  obtain ⟨before, isBefore, wasOpen⟩ := role.wasOpen
  have later := follows before isBefore
  constructor
  · intro isOpen
    rw [isOpen] at later
    have tooEarly : before.rank < 1 := later
    omega
  · omega

theorem effect
    (role : SenderRole client transfer source)
    (received : ∀ packet outcome, input = .receive packet outcome →
      client.SenderReceives packet)
    (notBegun : ∀ fileURL, input = .sendFileAtURL fileURL →
      client.sendSucceeds fileURL = false)
    (forward : ∀ state, input = .dataChannelState state →
      RTCDataChannelState.Follows client.readyState state)
    (effect : Effect client input next calls) :
    SenderRole next transfer source := by
  have closed := role.closed_of_effect effect
  have packets : ∀ packet ∈ next.outgoing, packet.FromSender source := by
    intro packet member
    rcases mem_outgoing_of_effect effect member with old | emitted
    · exact role.packets packet old
    · exact role.emits notBegun emitted
  have keep : next.recvHandle = client.recvHandle →
      next.incomingFileName = client.incomingFileName →
      next.readyState = client.readyState → next.sendHandle = client.sendHandle →
      next.fileQueue = client.fileQueue → SenderRole next transfer source := by
    intro sameReceive sameName sameState sameSend sameLoops
    refine ⟨?_, ?_, ?_, closed, ?_, packets, ?_, ?_⟩
    · rw [sameReceive]
      exact role.notReceiving
    · rw [sameName]
      exact role.notOffered
    · rw [sameState]
      exact role.wasOpen
    · rw [sameSend]
      exact role.handle
    · rw [sameLoops]
      exact role.loops
    · rw [sameLoops]
      exact role.oneLoop
  cases effect with
  | began fileURL file isOpen notSending notReceiving sized opened =>
      have succeeds := sendSucceeds_of_idle isOpen notSending notReceiving sized opened
      rw [notBegun fileURL rfl] at succeeds
      contradiction
  | cancelled =>
      have result := client.cancelFileTransfer_eq
      exact keep (by rw [result]) (by rw [result]) (by rw [result]) (by rw [result])
        (by rw [result])
  | rejected reason =>
      have result := client.rejectIncomingFileWithReason_eq reason
      exact keep (by rw [result]) (by rw [result]) (by rw [result]) (by rw [result])
        (by rw [result])
  | accepted destination accepts =>
      rw [role.not_canAccept] at accepts
      contradiction
  | offered name size chunk given outcome =>
      exact absurd (received _ outcome rfl).1 id
  | started handle given outcome sending =>
      have noLoop := (received _ outcome rfl).2 rfl
      refine ⟨role.notReceiving, role.notOffered, role.wasOpen, closed, role.handle, packets,
        ?_, ?_⟩
      · intro loop member
        simp only [startSendingLoop, noLoop, List.nil_append, List.mem_singleton] at member
        rw [member]
        exact (role.handle handle sending).1
      · simp [startSendingLoop, noLoop]
  | cleaned =>
      exact ⟨rfl, rfl, role.wasOpen, closed, by simp [resetTransfer], packets, role.loops,
        role.oneLoop⟩
  | looped given loop rest queue =>
      obtain ⟨handle, sent, sentPackets, blocks, result, change⟩ :=
        client.loopStatement_change loop.transfer given loop.point
      obtain ⟨loops, oneLoop⟩ := role.advanced queue
        (client.loopStatement loop.transfer given loop.point).2
      refine ⟨?_, ?_, ?_, closed, ?_, packets, loops, oneLoop⟩
      · rw [result]
        exact role.notReceiving
      · rw [result]
        exact role.notOffered
      · rw [result]
        exact role.wasOpen
      · rw [result]
        intro new isNew
        obtain ⟨old, isOld, sameTransfer, sameFile⟩ := change.handle_before isNew
        rw [← sameTransfer, ← sameFile]
        exact role.handle old isOld
  | channelChanged state =>
      obtain ⟨notOpen, ranked⟩ := role.not_reopened (forward state rfl)
      rcases client.dataChannelDidChangeState_cases state with
        ⟨name, ip, greeting, isOpen, result⟩ | ⟨-, result⟩
      · exact absurd isOpen notOpen
      · refine ⟨?_, ?_, ?_, closed, ?_, packets, ?_, ?_⟩
        · rw [result]
          exact role.notReceiving
        · rw [result]
          exact role.notOffered
        · rw [result]
          exact ⟨state, rfl, ranked⟩
        · rw [result]
          exact role.handle
        · rw [result]
          exact role.loops
        · rw [result]
          exact role.oneLoop
  | unopened | greeted | busy | ended | writeFailed | stored | completed | transmitted
  | reported | iceLost | iceIdle | iceChanged | nothing => exact keep rfl rfl rfl rfl rfl

end SenderRole

/-! ## The receiver -/

structure ReceiverRole (client : RTCClient) (source : Bytes) : Prop where
  notSending : client.sendHandle = none
  noLoop : client.fileQueue = []
  packets : ∀ packet ∈ client.outgoing, packet.FromReceiver
  sized : client.incomingFileName.isSome = true → client.recvTotalBytes = source.length
  named : client.recvHandle.isSome = true → client.incomingFileName.isSome = true

namespace ReceiverRole

theorem emits
    (role : ReceiverRole client source)
    (notBegun : ∀ fileURL, input = .sendFileAtURL fileURL →
      client.sendSucceeds fileURL = false)
    {packet : Packet} (emits : Emits client input packet) :
    packet.FromReceiver := by
  cases emits with
  | offer fileURL name size succeeds =>
      rw [notBegun fileURL rfl] at succeeds
      contradiction
  | chunk given loop rest chunk retries queue =>
      rw [role.noLoop] at queue
      contradiction
  | cancel | reject | accept | unopened | busy | received | done | hello => trivial

theorem effect
    (role : ReceiverRole client source)
    (received : ∀ packet outcome, input = .receive packet outcome →
      packet.FromSender source)
    (notBegun : ∀ fileURL, input = .sendFileAtURL fileURL →
      client.sendSucceeds fileURL = false)
    (effect : Effect client input next calls) :
    ReceiverRole next source := by
  have packets : ∀ packet ∈ next.outgoing, packet.FromReceiver := by
    intro packet member
    rcases mem_outgoing_of_effect effect member with old | emitted
    · exact role.packets packet old
    · exact role.emits notBegun emitted
  have keep : next.sendHandle = client.sendHandle → next.fileQueue = client.fileQueue →
      next.incomingFileName = client.incomingFileName →
      next.recvTotalBytes = client.recvTotalBytes → next.recvHandle = client.recvHandle →
      ReceiverRole next source := by
    intro sameSend sameLoops sameName sameTotal sameReceive
    refine ⟨?_, ?_, packets, ?_, ?_⟩
    · rw [sameSend]
      exact role.notSending
    · rw [sameLoops]
      exact role.noLoop
    · rw [sameName, sameTotal]
      exact role.sized
    · rw [sameName, sameReceive]
      exact role.named
  cases effect with
  | began fileURL file isOpen notSending notReceiving sized opened =>
      have succeeds := sendSucceeds_of_idle isOpen notSending notReceiving sized opened
      rw [notBegun fileURL rfl] at succeeds
      contradiction
  | cancelled =>
      have result := client.cancelFileTransfer_eq
      exact keep (by rw [result]) (by rw [result]) (by rw [result]) (by rw [result])
        (by rw [result])
  | rejected reason =>
      have result := client.rejectIncomingFileWithReason_eq reason
      exact keep (by rw [result]) (by rw [result]) (by rw [result]) (by rw [result])
        (by rw [result])
  | accepted destination accepts =>
      simp only [canAccept, Bool.and_eq_true] at accepts
      exact ⟨role.notSending, role.noLoop, packets, role.sized, fun _ => accepts.1.1⟩
  | offered name size chunk given outcome =>
      have announced : u64 size = source.length := received _ outcome rfl
      exact ⟨role.notSending, role.noLoop, packets, fun _ => announced, fun _ => rfl⟩
  | started handle given outcome sending =>
      rw [role.notSending] at sending
      contradiction
  | cleaned =>
      exact ⟨rfl, role.noLoop, packets, by simp [resetTransfer], by simp [resetTransfer]⟩
  | looped given loop rest queue =>
      rw [role.noLoop] at queue
      contradiction
  | channelChanged state =>
      obtain ⟨outgoing, result⟩ := client.dataChannelDidChangeState_eq state
      exact keep (by rw [result]) (by rw [result]) (by rw [result]) (by rw [result])
        (by rw [result])
  | unopened | greeted | busy | ended | writeFailed | stored | completed | transmitted
  | reported | iceLost | iceIdle | iceChanged | nothing => exact keep rfl rfl rfl rfl rfl

end ReceiverRole

/-! ## What may still leave the sender -/

theorem outlook_congr
    (sameState : next.readyState = client.readyState)
    (sameFlight : next.flight = client.flight)
    (sameLoops : next.fileQueue = client.fileQueue)
    (sameSend : next.sendHandle = client.sendHandle) :
    next.outlook pending = client.outlook pending := by
  have sameUnread : next.unread = client.unread := by rw [unread, sameSend, unread]
  have sameHand : next.hand = client.hand := by rw [hand, sameLoops, hand]
  have sameReads : next.reads = client.reads := by rw [reads, sameLoops, reads]
  rw [outlook, isDataChannelOpen_congr sameState, sameFlight, sameHand, sameReads, sameUnread,
    outlook]

/-- The outlook of an open sender whose one loop stands at a point, or has
returned. -/
def outlookAt (client : RTCClient) : Option LoopPoint → Bytes
  | none => client.flight
  | some point =>
      client.flight ++ point.unsent ++ (if point.finishing then [] else client.unread)

theorem outlook_eq_outlookAt (client : RTCClient) (loop : SendingLoop)
    {point : Option LoopPoint}
    (isOpen : client.isDataChannelOpen = true)
    (queue : client.fileQueue = advanceQueue loop [] point) :
    client.outlook false = client.outlookAt point := by
  cases point with
  | none => simp [outlook, isOpen, hand, reads, queue, advanceQueue, outlookAt]
  | some point =>
      simp only [outlook, isOpen, hand, reads, queue, advanceQueue, outlookAt, if_true,
        List.flatMap_cons, List.flatMap_nil, List.append_nil, List.any_cons, List.any_nil,
        Bool.or_false]
      cases point.finishing with
      | true => rfl
      | false => rfl

theorem loopStatement_isDataChannelOpen (client : RTCClient) (transfer : TransferId)
    (given : LoopInput) (point : LoopPoint) :
    (client.loopStatement transfer given point).1.isDataChannelOpen =
      client.isDataChannelOpen := by
  obtain ⟨handle, sent, packets, blocks, result, -⟩ :=
    client.loopStatement_change transfer given point
  rw [result]
  rfl

/-- The outlook after a statement of the one loop. -/
theorem outlook_looped (client : RTCClient) (loop : SendingLoop)
    (isOpen : client.isDataChannelOpen = true) (given : LoopInput) :
    outlook
        { (client.loopStatement loop.transfer given loop.point).1 with
          fileQueue := advanceQueue loop []
            (client.loopStatement loop.transfer given loop.point).2 } false =
      (client.loopStatement loop.transfer given loop.point).1.outlookAt
        (client.loopStatement loop.transfer given loop.point).2 := by
  have stillOpen :=
    (client.loopStatement_isDataChannelOpen loop.transfer given loop.point).trans isOpen
  have after := outlook_eq_outlookAt
    { (client.loopStatement loop.transfer given loop.point).1 with
      fileQueue := advanceQueue loop []
        (client.loopStatement loop.transfer given loop.point).2 }
    loop stillOpen rfl
  rw [after]
  cases (client.loopStatement loop.transfer given loop.point).2 with
  | none => rfl
  | some point => rfl

/-- A statement moves bytes forward, or it cuts the way off behind the channel
because the loop returns or will do so. -/
theorem loopStatement_outlook_cases (client : RTCClient) (transfer : TransferId)
    (isOpen : client.isDataChannelOpen = true) (given : LoopInput) (point : LoopPoint) :
    (client.loopStatement transfer given point).1.outlookAt
        (client.loopStatement transfer given point).2 = client.outlookAt (some point) ∨
    ((client.loopStatement transfer given point).1.outlookAt
        (client.loopStatement transfer given point).2 = client.flight ∧
      ((client.loopStatement transfer given point).2 = none ∨
        ∃ error, (client.loopStatement transfer given point).2 = some (.finish error))) := by
  have move : ∀ following : LoopPoint, following.unsent = point.unsent →
      following.finishing = point.finishing →
      client.outlookAt (some following) = client.outlookAt (some point) := by
    intro following sameUnsent sameFinishing
    rw [outlookAt, outlookAt, sameUnsent, sameFinishing]
  have stop : ∀ error : Option NSError,
      client.outlookAt (some (.finish error)) = client.flight := by
    intro error
    simp [outlookAt, LoopPoint.unsent, LoopPoint.finishing]
  cases point with
  | entry =>
      simp only [loopStatement]
      split
      · exact .inr ⟨rfl, .inl rfl⟩
      · exact .inl (move .whileTest rfl rfl)
  | whileTest =>
      simp only [loopStatement]
      split
      · exact .inl (move (.waitTest 0) rfl rfl)
      · exact .inl (move .cancelledTest rfl rfl)
  | waitTest iters =>
      simp only [loopStatement]
      split
      · exact .inl (move (.waitBody iters) rfl rfl)
      · exact .inl (move .openTest rfl rfl)
  | waitBody iters =>
      simp only [loopStatement]
      split
      · exact .inl (move .openTest rfl rfl)
      · exact .inl (move (.waitTest (iters + 1)) rfl rfl)
  | openTest =>
      simp only [loopStatement, isOpen, if_true]
      exact .inl (move .read rfl rfl)
  | read =>
      simp only [loopStatement]
      split
      case h_1 => exact .inl (move .cancelledTest rfl rfl)
      case h_2 handle chunk result =>
        obtain ⟨old, reading, -, -, data, rfl⟩ := client.readChunk_spec result
        -- What the chunk takes from the handle stands in the hand afterwards.
        have initial : chunk.data <+: old.file.bytes.drop old.offset := by
          rw [data]
          exact List.take_prefix _ _
        have advanced : chunk.data ++ old.file.bytes.drop (old.offset + chunk.data.length) =
            old.file.bytes.drop old.offset := by
          rw [← List.drop_drop]
          exact List.prefix_iff_eq_append.mp initial
        left
        simp only [outlookAt, LoopPoint.unsent, LoopPoint.finishing, unread, reading, flight,
          Bool.false_eq_true, if_false, List.append_nil, List.append_assoc, advanced]
  | retryTest chunk retries =>
      simp only [loopStatement]
      split
      · exact .inl (move (.retryOpenTest chunk retries) rfl rfl)
      · exact .inl (move (.okTest chunk false) rfl rfl)
  | retryOpenTest chunk retries =>
      simp only [loopStatement]
      split
      · exact .inl (move (.retrySend chunk retries) rfl rfl)
      · exact .inl (move (.okTest chunk false) rfl rfl)
  | retrySend chunk retries =>
      simp only [loopStatement]
      split
      · left
        simp only [outlookAt, sendData, isOpen, if_true, flight, LoopPoint.unsent,
          LoopPoint.finishing, unread, List.flatMap_append, List.flatMap_cons,
          List.flatMap_nil, Packet.payload, List.append_nil]
        rfl
      · exact .inl (move (.retryTest chunk (retries + 1)) rfl rfl)
  | okTest chunk ok =>
      cases ok with
      | true => exact .inl (move (.addBytes chunk) rfl rfl)
      | false => exact .inr ⟨stop _, .inr ⟨_, rfl⟩⟩
  | addBytes chunk => exact .inl (move .reportProgress rfl rfl)
  | reportProgress => exact .inl (move .whileTest rfl rfl)
  | cancelledTest =>
      simp only [loopStatement]
      split
      · exact .inr ⟨rfl, .inl rfl⟩
      · exact .inl (move .completeTest rfl rfl)
  | completeTest =>
      simp only [loopStatement]
      split
      · exact .inl (move .sendDone rfl rfl)
      · exact .inr ⟨stop _, .inr ⟨_, rfl⟩⟩
  | sendDone =>
      have sameFlight : (client.queued ⟨.ftDone, some transfer⟩).flatMap Packet.payload =
          client.flight := flight_queued rfl
      simp only [loopStatement, sendControlJSON_eq]
      refine .inr ⟨?_, .inr ⟨none, rfl⟩⟩
      simp only [outlookAt, flight, sameFlight, LoopPoint.unsent, LoopPoint.finishing,
        if_true, List.append_nil]
  | finish error => exact .inr ⟨rfl, .inl rfl⟩

theorem loopStatement_outlook (client : RTCClient) (transfer : TransferId)
    (isOpen : client.isDataChannelOpen = true) (given : LoopInput) (point : LoopPoint) :
    (client.loopStatement transfer given point).1.outlookAt
        (client.loopStatement transfer given point).2 <+:
      client.outlookAt (some point) := by
  rcases client.loopStatement_outlook_cases transfer isOpen given point with
    same | ⟨cut, -⟩
  · simp only [same, List.prefix_rfl]
  · rw [cut, outlookAt, List.append_assoc]
    exact List.prefix_append _ _

/-- Whatever a sender does but start its loop, no more can leave it than
before. -/
theorem SenderRole.outlook
    (role : SenderRole client transfer source)
    (received : ∀ packet outcome, input = .receive packet outcome →
      packet.FromReceiver ∧ packet.message ≠ .ftAccept)
    (notBegun : ∀ fileURL, input = .sendFileAtURL fileURL →
      client.sendSucceeds fileURL = false)
    (forward : ∀ state, input = .dataChannelState state →
      RTCDataChannelState.Follows client.readyState state)
    (notTransmitted : input ≠ .transmit)
    (idle : pending = true → client.fileQueue = [])
    (effect : Effect client input next calls) :
    next.outlook pending <+: client.outlook pending := by
  have keep : next.readyState = client.readyState → next.flight = client.flight →
      next.fileQueue = client.fileQueue → next.sendHandle = client.sendHandle →
      next.outlook pending <+: client.outlook pending := by
    intro sameState sameFlight sameLoops sameSend
    simp only [outlook_congr sameState sameFlight sameLoops sameSend, List.prefix_rfl]
  cases effect with
  | began fileURL file isOpen notSending notReceiving sized opened =>
      have succeeds := sendSucceeds_of_idle isOpen notSending notReceiving sized opened
      rw [notBegun fileURL rfl] at succeeds
      contradiction
  | cancelled =>
      have result := client.cancelFileTransfer_eq
      have sameFlight : client.cancelFileTransfer.flight = client.flight := by
        rw [flight, result]
        exact flight_queued rfl
      exact keep (by rw [result]) sameFlight (by rw [result]) (by rw [result])
  | rejected reason =>
      have result := client.rejectIncomingFileWithReason_eq reason
      have sameFlight :
          (client.rejectIncomingFileWithReason reason).flight = client.flight := by
        rw [flight, result]
        exact flight_queued rfl
      exact keep (by rw [result]) sameFlight (by rw [result]) (by rw [result])
  | accepted | unopened | busy | completed => exact keep rfl (flight_queued rfl) rfl rfl
  | started handle given outcome => exact absurd rfl (received _ outcome rfl).2
  | transmitted => exact absurd rfl notTransmitted
  | cleaned error request rest queue =>
      have noUnread : { client with mainQueue := rest }.resetTransfer.outlook pending =
          if client.isDataChannelOpen then client.flight ++ client.hand else [] := by
        have nothing : { client with mainQueue := rest }.resetTransfer.unread = [] := rfl
        rw [RTCClient.outlook, nothing, ite_self, List.append_nil]
        rfl
      rw [noUnread, RTCClient.outlook]
      cases client.isDataChannelOpen with
      | false => exact List.prefix_rfl
      | true => exact List.prefix_append _ _
  | looped given loop rest queue =>
      have notPending : pending = false := by
        cases pending with
        | false => rfl
        | true =>
            rw [idle rfl] at queue
            contradiction
      have alone := role.alone queue
      subst alone
      rw [notPending]
      cases isOpen : client.isDataChannelOpen with
      | false =>
          have closed :=
            (client.loopStatement_isDataChannelOpen loop.transfer given loop.point).trans isOpen
          have nothing : RTCClient.outlook
              { (client.loopStatement loop.transfer given loop.point).1 with
                fileQueue := advanceQueue loop []
                  (client.loopStatement loop.transfer given loop.point).2 } false = [] := by
            rw [RTCClient.outlook]
            exact if_neg (by rw [Bool.not_eq_true]; exact closed)
          rw [nothing]
          exact List.nil_prefix
      | true =>
          have before : client.outlook false = client.outlookAt (some loop.point) :=
            client.outlook_eq_outlookAt loop isOpen queue
          rw [before, client.outlook_looped loop isOpen given]
          exact client.loopStatement_outlook loop.transfer isOpen given loop.point
  | channelChanged state =>
      obtain ⟨notOpen, -⟩ := role.not_reopened (forward state rfl)
      rcases client.dataChannelDidChangeState_cases state with
        ⟨name, ip, greeting, isOpen, -⟩ | ⟨-, result⟩
      · exact absurd isOpen notOpen
      · rw [result]
        have closed : isDataChannelOpen { client with
            readyState := some state
            outgoing := []
            mainQueue := client.mainQueue ++ [.dataChannelStateDidChange state] } = false := by
          simp [isDataChannelOpen, notOpen]
        rw [RTCClient.outlook, closed]
        exact List.nil_prefix
  | greeted | offered | ended | writeFailed | stored | reported | iceLost | iceIdle
  | iceChanged | nothing => exact keep rfl rfl rfl rfl

/-- More may come when an accept is on its way. -/
theorem outlook_mono (client : RTCClient) :
    client.outlook false <+: client.outlook true := by
  unfold outlook
  cases client.isDataChannelOpen with
  | false => exact List.prefix_rfl
  | true =>
      cases client.reads with
      | false =>
          simp only [if_true, Bool.or_false, Bool.or_true, Bool.false_eq_true, if_false,
            List.append_nil]
          exact List.prefix_append _ _
      | true => exact List.prefix_rfl

/-- An accept that arrives starts the loop; the bytes are the same. -/
theorem outlook_started (noLoop : client.fileQueue = []) :
    (client.startSendingLoop transfer).outlook false = client.outlook true := by
  have started : (client.startSendingLoop transfer).fileQueue = [⟨transfer, .entry⟩] := by
    rw [startSendingLoop, noLoop]
    rfl
  have noHand : (client.startSendingLoop transfer).hand = client.hand := by
    rw [hand, hand, started, noLoop]
    rfl
  have nowReads : (client.startSendingLoop transfer).reads = true := by
    rw [reads, started]
    rfl
  rw [outlook, outlook, noHand, nowReads, Bool.or_true]
  rfl

/-- Without a handle there is nothing an accept could start. -/
theorem outlook_of_not_sending (notSending : client.sendHandle = none) :
    client.outlook true = client.outlook false := by
  have nothing : client.unread = [] := by rw [unread, notSending]
  rw [outlook, outlook, nothing, ite_self, ite_self]

/-- The packet that arrives first carries the first bytes. -/
theorem outlook_delivered {packet : Packet} {rest : List Packet}
    (isOpen : client.isDataChannelOpen = true)
    (queue : client.outgoing = packet :: rest) :
    client.outlook pending =
      packet.payload ++ { client with outgoing := rest }.outlook pending := by
  have split : client.flight = packet.payload ++ { client with outgoing := rest }.flight := by
    rw [flight, queue]
    rfl
  have stillOpen : { client with outgoing := rest }.isDataChannelOpen = true := isOpen
  rw [outlook, outlook, isOpen, stillOpen, split]
  simp only [if_true, List.append_assoc]
  rfl

end RTCClient

end WebrtcFileSender
