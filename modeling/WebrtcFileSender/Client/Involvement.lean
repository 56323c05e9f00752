import WebrtcFileSender.Client.Emission

/-!
Contract: the ways in which a client is involved in one transfer.

Owns: the handle, offer, queued cleanup, queued loop and packets under way that
belong to a transfer, what one input does to each of them, and the fact that a
client mentions only transfers it has mentioned before, has just received or has
just begun.

Packets under way leave from the front of `outgoing` by a delivery, which is an
action of the session. Here `outgoing` only grows: the lemmas are about inputs
other than `transmit` and about channels that do not close.
-/

namespace WebrtcFileSender

/-- An offer of the transfer. -/
def Packet.Offers (packet : Packet) (transfer : TransferId) : Prop :=
  ∃ name size chunk, packet = ⟨.ftOffer name size chunk, some transfer⟩

/-- A control message that ends the transfer. -/
def Packet.Ends (packet : Packet) (transfer : TransferId) : Prop :=
  ∃ error, RTCClient.endingError packet.message = some error ∧
    packet.transfer = some transfer

/-- A cleanup requested on behalf of the transfer. -/
def MainBlock.Clears (transfer : TransferId) : MainBlock → Prop
  | .cleanup _ request => request.transfer = some transfer
  | _ => False

instance (transfer : TransferId) :
    (block : MainBlock) → Decidable (block.Clears transfer)
  | .cleanup _ request =>
      inferInstanceAs (Decidable (request.transfer = some transfer))
  | .dataChannelStateDidChange _ | .iceConnectionLost | .didReceivePeerName _ _ _
  | .didUpdateOnlinePeers _ | .fileReceiveOffered | .fileReceiveProgress _
  | .fileSendProgress _ => .isFalse id

theorem MainBlock.Clears.cleanup {transfer : TransferId} {block : MainBlock}
    (clears : block.Clears transfer) :
    ∃ error request, block = .cleanup error request ∧
      request.transfer = some transfer := by
  cases block with
  | cleanup error request => exact ⟨error, request, rfl, clears⟩
  | dataChannelStateDidChange | iceConnectionLost | didReceivePeerName | didUpdateOnlinePeers
  | fileReceiveOffered | fileReceiveProgress | fileSendProgress => contradiction

theorem MainBlock.not_cleanup_of_reports (block : MainBlock) (reports : block.Reports)
    (error : Option NSError) (request : CleanupRequest) :
    block ≠ .cleanup error request := by
  rintro rfl
  exact reports

theorem Packet.Ends.not_offers {packet : Packet} {transfer other : TransferId}
    (ends : packet.Ends transfer) : ¬ packet.Offers other := by
  rintro ⟨name, size, chunk, rfl⟩
  obtain ⟨error, same, -⟩ := ends
  contradiction

namespace RTCClient

section Involvement

variable (client : RTCClient) (transfer : TransferId)

def Sends : Prop :=
  client.sendHandle.map ReadHandle.transfer = some transfer

instance : Decidable (client.Sends transfer) :=
  inferInstanceAs (Decidable (client.sendHandle.map ReadHandle.transfer = some transfer))

def Receives : Prop :=
  ∃ handle, client.recvHandle = some handle ∧ handle.transfer = some transfer

/-- The pending offer is one of the transfer; it stays pending while the file is
received. -/
def Pending : Prop :=
  client.incomingTransfer = some transfer

/-- A cleanup for the transfer waits on the main queue. -/
def Clearing : Prop :=
  ∃ block ∈ client.mainQueue, block.Clears transfer

instance : Decidable (client.Clearing transfer) :=
  inferInstanceAs (Decidable (∃ block ∈ client.mainQueue, block.Clears transfer))

/-- A loop of the transfer is queued or running. -/
def Looping : Prop :=
  ∃ loop ∈ client.fileQueue, loop.transfer = transfer

/-- A loop of the transfer has sent `ft_done` and is about to request a cleanup. -/
def Finishing : Prop :=
  ⟨transfer, .finish none⟩ ∈ client.fileQueue

/-- An offer of the transfer is under way. -/
def Offering : Prop :=
  ∃ packet ∈ client.outgoing, packet.Offers transfer

/-- A message that ends the transfer is under way. -/
def Ending : Prop :=
  ∃ packet ∈ client.outgoing, packet.Ends transfer

def Accepting : Prop :=
  ⟨.ftAccept, some transfer⟩ ∈ client.outgoing

end Involvement

variable {client next : RTCClient} {input : Input} {calls : List DelegateCall}
  {transfer : TransferId}

theorem sends_of_sendHandle {handle : ReadHandle} (sending : client.sendHandle = some handle) :
    client.Sends handle.transfer := by
  rw [Sends, sending]
  rfl

theorem Sends.handle (sends : client.Sends transfer) :
    ∃ handle, client.sendHandle = some handle ∧ handle.transfer = transfer :=
  Option.map_eq_some_iff.mp sends

theorem clearing_of_mem {error : Option NSError} {request : CleanupRequest}
    (member : .cleanup error request ∈ client.mainQueue)
    (same : request.transfer = some transfer) :
    client.Clearing transfer :=
  ⟨_, member, same⟩

/-- The transfer a client is engaged in is the one it sends, else the one it
receives, else the one it was offered. -/
theorem currentTransfer_cases (current : client.currentTransfer = some transfer) :
    client.Sends transfer ∨ client.Receives transfer ∨
      (client.sendHandle = none ∧ client.recvHandle = none ∧ client.Pending transfer) := by
  unfold currentTransfer at current
  split at current
  case h_1 handle sending => exact .inl (by rw [Sends, sending]; exact current)
  case h_2 handle notSending receiving => exact .inr (.inl ⟨handle, receiving, current⟩)
  case h_3 notSending notReceiving =>
    exact .inr (.inr ⟨notSending, notReceiving, current⟩)

theorem Sends.current (sends : client.Sends transfer) :
    client.currentTransfer = some transfer := by
  obtain ⟨handle, sending, rfl⟩ := sends.handle
  simp [currentTransfer, sending]

/-! ## What is held -/

/-- The properties that say what a client holds. -/
structure Holdings where
  isOpen : Bool
  cancelled : Bool
  sending : Option TransferId
  receiving : Option (Option TransferId)
  pending : Option TransferId
  named : Bool

def holdings (client : RTCClient) : Holdings where
  isOpen := client.isDataChannelOpen
  cancelled := client.transferCancelled
  sending := client.sendHandle.map ReadHandle.transfer
  receiving := client.recvHandle.map WriteHandle.transfer
  pending := client.incomingTransfer
  named := client.incomingFileName.isSome

/-- The input runs a cleanup. -/
def Cleans (client : RTCClient) (input : Input) : Prop :=
  input = .runMain ∧ ∃ error request rest, client.mainQueue = .cleanup error request :: rest

/-- The input begins a send. -/
def Begins (client : RTCClient) (input : Input) : Prop :=
  ∃ fileURL, input = .sendFileAtURL fileURL ∧ client.sendSucceeds fileURL = true

/-- What an input may do to the holdings. -/
inductive Rehold (client : RTCClient) : Input → Holdings → Prop
  | kept (input : Input)
      (notCleaned : ¬ client.Cleans input) : Rehold client input client.holdings
  | began (fileURL : FileURL)
      (succeeds : client.sendSucceeds fileURL = true)
      (isOpen : client.isDataChannelOpen = true)
      (notSending : client.sendHandle = none) :
      Rehold client (.sendFileAtURL fileURL)
        { client.holdings with
          cancelled := false
          sending := some ⟨client.clientId, client.begun⟩ }
  | cancelled :
      Rehold client .cancelFileTransfer { client.holdings with cancelled := true }
  | accepted (destination : Destination)
      (pending : client.incomingFileName.isSome = true) :
      Rehold client (.acceptIncomingFileToURL destination)
        { client.holdings with receiving := some client.incomingTransfer }
  | offered (name : String) (size chunk : Nat) (transfer : Option TransferId)
      (outcome : WriteOutcome)
      (notSending : client.sendHandle = none)
      (notReceiving : client.recvHandle = none) :
      Rehold client (.receive ⟨.ftOffer name size chunk, transfer⟩ outcome)
        { client.holdings with pending := transfer, named := true }
  | cleaned
      (cleans : client.Cleans .runMain) :
      Rehold client .runMain
        { client.holdings with
          sending := none, receiving := none, pending := none, named := false }
  | channelChanged (state : RTCDataChannelState) :
      Rehold client (.dataChannelState state)
        { client.holdings with isOpen := state == .Open }

theorem not_cleans_of_ne (notMain : input ≠ .runMain) : ¬ client.Cleans input :=
  fun cleans => notMain cleans.1

theorem not_cleans_of_queue {block : MainBlock} {rest : List MainBlock}
    (queue : client.mainQueue = block :: rest)
    (notCleanup : ∀ error request, block ≠ .cleanup error request) :
    ¬ client.Cleans input := by
  rintro ⟨-, error, request, others, head⟩
  rw [queue] at head
  exact notCleanup error request (List.cons.inj head).1

theorem rehold_of_effect (effect : Effect client input next calls) :
    Rehold client input next.holdings := by
  cases effect with
  | began fileURL file isOpen notSending notReceiving sized opened =>
      have succeeds := sendSucceeds_of_idle isOpen notSending notReceiving sized opened
      rw [beginSending_eq]
      exact .began fileURL succeeds isOpen notSending
  | cancelled =>
      rw [cancelFileTransfer_eq]
      exact .cancelled
  | rejected =>
      rw [rejectIncomingFileWithReason_eq]
      exact .kept _ (not_cleans_of_ne (by simp))
  | accepted destination accepts =>
      simp only [canAccept, Bool.and_eq_true] at accepts
      exact .accepted destination accepts.1.1
  | offered name size chunk transfer outcome notSending notReceiving =>
      exact .offered name size chunk transfer outcome notSending notReceiving
  | cleaned error request rest queue => exact .cleaned ⟨rfl, error, request, rest, queue⟩
  | reported block rest call queue reports =>
      exact .kept _ (not_cleans_of_queue queue (block.not_cleanup_of_reports reports))
  | iceLost rest queue => exact .kept _ (not_cleans_of_queue queue (by simp))
  | iceIdle rest queue => exact .kept _ (not_cleans_of_queue queue (by simp))
  | looped given loop rest queue =>
      obtain ⟨handle, sent, packets, blocks, result, change⟩ :=
        client.loopStatement_change loop.transfer given loop.point
      rw [result]
      simp only [holdings, change.sameTransfer]
      exact .kept _ (not_cleans_of_ne (by simp))
  | channelChanged state =>
      rcases client.dataChannelDidChangeState_cases state with
        ⟨name, ip, role, rfl, result⟩ | ⟨notOpen, result⟩
      · rw [result]
        exact .channelChanged .Open
      · rw [result]
        exact .channelChanged state
  | nothing _ _ _ _ notQueued => exact .kept _ (not_cleans_of_ne notQueued.2.1)
  | unopened | greeted | busy | started | ended | writeFailed | stored | completed
  | transmitted | iceChanged =>
      exact .kept _ (not_cleans_of_ne (by simp))

theorem sends_before (effect : Effect client input next calls)
    (sends : next.Sends transfer) :
    client.Sends transfer ∨
      (transfer = ⟨client.clientId, client.begun⟩ ∧ client.Begins input) := by
  have rehold := rehold_of_effect effect
  have after : next.holdings.sending = some transfer := sends
  generalize next.holdings = held at rehold after
  cases rehold with
  | began fileURL succeeds =>
      exact .inr ⟨(Option.some.inj after).symm, fileURL, rfl, succeeds⟩
  | cleaned => contradiction
  | kept | cancelled | accepted | offered | channelChanged => exact .inl after

/-- A send handle stays until a cleanup runs. -/
theorem sends_kept (effect : Effect client input next calls)
    (sends : client.Sends transfer) :
    next.Sends transfer ∨ client.Cleans input := by
  have rehold := rehold_of_effect effect
  show next.holdings.sending = some transfer ∨ client.Cleans input
  generalize next.holdings = held at rehold ⊢
  cases rehold with
  | began fileURL succeeds isOpen notSending =>
      rw [Sends, notSending] at sends
      contradiction
  | cleaned cleans => exact .inr cleans
  | kept | cancelled | accepted | offered | channelChanged => exact .inl sends

/-- A pending offer was pending before or has just arrived. -/
theorem pending_before (effect : Effect client input next calls)
    (pending : next.Pending transfer) :
    client.Pending transfer ∨ ∃ packet outcome, input = .receive packet outcome ∧
      packet.Offers transfer ∧ client.sendHandle = none ∧ client.recvHandle = none := by
  have rehold := rehold_of_effect effect
  have after : next.holdings.pending = some transfer := pending
  generalize next.holdings = held at rehold after
  cases rehold with
  | offered name size chunk tag outcome notSending notReceiving =>
      rw [show tag = some transfer from after]
      exact .inr ⟨_, outcome, rfl, ⟨name, size, chunk, rfl⟩, notSending, notReceiving⟩
  | cleaned => contradiction
  | kept | began | cancelled | accepted | channelChanged => exact .inl after

/-- A pending offer stays until another one arrives or a cleanup runs. -/
theorem pending_kept (effect : Effect client input next calls)
    (pending : client.Pending transfer) :
    next.Pending transfer ∨ client.Cleans input ∨
      ∃ name size chunk tag outcome,
        input = .receive ⟨.ftOffer name size chunk, tag⟩ outcome := by
  have rehold := rehold_of_effect effect
  show next.holdings.pending = some transfer ∨ _
  generalize next.holdings = held at rehold ⊢
  cases rehold with
  | offered name size chunk tag outcome =>
      exact .inr (.inr ⟨name, size, chunk, tag, outcome, rfl⟩)
  | cleaned cleans => exact .inr (.inl cleans)
  | kept | began | cancelled | accepted | channelChanged => exact .inl pending

/-- A cleanup leaves nothing. -/
theorem Cleans.released (cleans : client.Cleans input)
    (effect : Effect client input next calls) :
    next.sendHandle = none ∧ next.recvHandle = none ∧ next.incomingTransfer = none := by
  obtain ⟨rfl, error, request, rest, queue⟩ := cleans
  cases effect with
  | cleaned => exact ⟨rfl, rfl, rfl⟩
  | reported block others call otherQueue reports =>
      rw [queue] at otherQueue
      obtain ⟨rfl, -⟩ := List.cons.inj otherQueue
      contradiction
  | iceLost others otherQueue | iceIdle others otherQueue =>
      rw [queue] at otherQueue
      exact absurd (List.cons.inj otherQueue).1 (by simp)
  | nothing _ _ _ _ notQueued => exact absurd rfl notQueued.2.1

/-- A cleanup waits until one runs. -/
theorem clearing_kept (effect : Effect client input next calls)
    (clearing : client.Clearing transfer) :
    next.Clearing transfer ∨ client.Cleans input := by
  obtain ⟨block, member, clears⟩ := clearing
  have grown : ∀ {blocks}, next.mainQueue = client.mainQueue ++ blocks →
      next.Clearing transfer ∨ client.Cleans input := by
    intro blocks appended
    exact .inl ⟨block, by rw [appended]; exact List.mem_append_left _ member, clears⟩
  have popped : ∀ {head rest blocks}, client.mainQueue = head :: rest →
      (∀ error request, head ≠ .cleanup error request) →
      next.mainQueue = rest ++ blocks →
      next.Clearing transfer ∨ client.Cleans input := by
    intro head rest blocks queue notCleanup after
    obtain ⟨error, request, rfl, -⟩ := clears.cleanup
    rw [queue] at member
    rcases List.mem_cons.mp member with isHead | inRest
    · exact absurd isHead.symm (notCleanup error request)
    · exact .inl ⟨_, by rw [after]; exact List.mem_append_left _ inRest, clears⟩
  cases effect with
  | began => exact grown (by rw [beginSending_eq, List.append_nil])
  | cancelled => exact grown (by rw [cancelFileTransfer_eq])
  | rejected => exact grown (by rw [rejectIncomingFileWithReason_eq])
  | cleaned error request rest queue => exact .inr ⟨rfl, error, request, rest, queue⟩
  | reported head rest call queue reports =>
      exact popped queue (head.not_cleanup_of_reports reports) (List.append_nil rest).symm
  | iceLost rest queue => exact popped queue (by simp) rfl
  | iceIdle rest queue => exact popped queue (by simp) (List.append_nil rest).symm
  | looped given loop rest queue =>
      obtain ⟨moved, sent, packets, blocks, result, -⟩ :=
        client.loopStatement_change loop.transfer given loop.point
      exact grown (by rw [result])
  | channelChanged state =>
      obtain ⟨outgoing, result⟩ := client.dataChannelDidChangeState_eq state
      exact grown (by rw [result])
  | unopened | greeted | offered | ended | writeFailed | stored | completed | iceChanged =>
      exact grown rfl
  | accepted | busy | started | transmitted | nothing =>
      exact grown (List.append_nil client.mainQueue).symm

/-! ## What is said about the end of a transfer -/

/-- Why an input sends a message that ends a transfer or requests a cleanup:
`Notice client input told cleared` gives the transfer the message is for and the
one the cleanup is for. -/
inductive Notice (client : RTCClient) :
    Input → Option TransferId → Option TransferId → Prop
  | silent (input : Input) : Notice client input none none
  | cancel : Notice client .cancelFileTransfer client.currentTransfer client.currentTransfer
  | reject (reason : String) :
      Notice client (.rejectIncomingFileWithReason reason)
        client.incomingTransfer client.incomingTransfer
  | unopened (destination : Destination) :
      Notice client (.acceptIncomingFileToURL destination)
        client.incomingTransfer client.incomingTransfer
  | complete (packet : Packet) (outcome : WriteOutcome) (handle : WriteHandle)
      (receiving : client.recvHandle = some handle) :
      Notice client (.receive packet outcome) handle.transfer handle.transfer
  | busy (name : String) (size chunk : Nat) (transfer : Option TransferId)
      (outcome : WriteOutcome)
      (engaged : client.sendHandle.isSome ∨ client.recvHandle.isSome) :
      Notice client (.receive ⟨.ftOffer name size chunk, transfer⟩ outcome) transfer none
  | ended (packet : Packet) (outcome : WriteOutcome) (error : Option NSError)
      (ends : endingError packet.message = some error) :
      Notice client (.receive packet outcome) none packet.transfer
  | writeFailed (packet : Packet) (outcome : WriteOutcome) (handle : WriteHandle)
      (receiving : client.recvHandle = some handle) :
      Notice client (.receive packet outcome) none handle.transfer
  | iceLost (rest : List MainBlock)
      (queue : client.mainQueue = .iceConnectionLost :: rest)
      (engaged : client.sendHandle.isSome ∨ client.recvHandle.isSome) :
      Notice client .runMain none client.currentTransfer
  | done (given : LoopInput) (loop : SendingLoop) (rest : List SendingLoop)
      (queue : client.fileQueue = loop :: rest)
      (atPoint : loop.point = .sendDone) :
      Notice client (.runFile given) (some loop.transfer) none
  | finish (given : LoopInput) (loop : SendingLoop) (rest : List SendingLoop)
      (error : Option NSError)
      (queue : client.fileQueue = loop :: rest)
      (atPoint : loop.point = .finish error) :
      Notice client (.runFile given) none (some loop.transfer)

/-- What a notice does to the two queues. An open channel takes the message. -/
structure Notified (client next : RTCClient) (told cleared : Option TransferId) : Prop where
  ending : ∀ transfer, next.Ending transfer ↔
    client.Ending transfer ∨ (client.isDataChannelOpen = true ∧ told = some transfer)
  clearing : ∀ transfer, next.Clearing transfer →
    client.Clearing transfer ∨ cleared = some transfer
  requested : ∀ transfer, cleared = some transfer → next.Clearing transfer

theorem ending_queued {packet : Packet} {error : Option NSError}
    (ends : endingError packet.message = some error)
    (outgoing : next.outgoing = client.queued packet) (transfer : TransferId) :
    next.Ending transfer ↔
      client.Ending transfer ∨
        (client.isDataChannelOpen = true ∧ packet.transfer = some transfer) := by
  have own : packet.Ends transfer ↔ packet.transfer = some transfer :=
    ⟨fun holds => holds.choose_spec.2, fun same => ⟨error, ends, same⟩⟩
  rw [Ending, outgoing, queued]
  split
  case isTrue isOpen =>
    simp only [List.mem_append, List.mem_singleton, or_and_right, exists_or, exists_eq_left, own,
      isOpen, true_and]
    rfl
  case isFalse closed =>
    simp only [closed, Bool.false_eq_true, false_and, or_false]
    rfl

/-- Packets that end nothing leave `Ending` as it is. -/
theorem ending_appended (packets : List Packet) {told : Option TransferId}
    (grown : next.outgoing = client.outgoing ++ packets)
    (others : ∀ packet ∈ packets, endingError packet.message = none)
    (untold : told = none) (transfer : TransferId) :
    next.Ending transfer ↔
      client.Ending transfer ∨
        (client.isDataChannelOpen = true ∧ told = some transfer) := by
  simp only [untold, reduceCtorEq, and_false, or_false]
  constructor
  · rintro ⟨packet, member, error, ends, same⟩
    rw [grown] at member
    rcases List.mem_append.mp member with old | new
    · exact ⟨packet, old, error, ends, same⟩
    · rw [others packet new] at ends
      contradiction
  · rintro ⟨packet, member, ends⟩
    refine ⟨packet, ?_, ends⟩
    rw [grown]
    exact List.mem_append_left _ member

theorem clearing_appended {blocks : List MainBlock} {cleared : Option TransferId}
    (grown : next.mainQueue = client.mainQueue ++ blocks)
    (own : ∀ block ∈ blocks, ∀ transfer, block.Clears transfer → cleared = some transfer)
    (transfer : TransferId) (clearing : next.Clearing transfer) :
    client.Clearing transfer ∨ cleared = some transfer := by
  obtain ⟨block, member, clears⟩ := clearing
  rw [grown] at member
  rcases List.mem_append.mp member with old | new
  · exact .inl ⟨block, old, clears⟩
  · exact .inr (own block new transfer clears)

/-- An input that sends no ending message and requests no cleanup. -/
theorem Notified.silent (packets : List Packet) (blocks : List MainBlock)
    (outgoing : next.outgoing = client.outgoing ++ packets)
    (others : ∀ packet ∈ packets, endingError packet.message = none)
    (main : next.mainQueue ⊆ client.mainQueue ++ blocks)
    (reports : ∀ block ∈ blocks, ∀ transfer, ¬ block.Clears transfer) :
    Notified client next none none where
  ending := ending_appended packets outgoing others rfl
  clearing := by
    rintro transfer ⟨block, member, clears⟩
    rcases List.mem_append.mp (main member) with old | new
    · exact .inl ⟨block, old, clears⟩
    · exact absurd clears (reports block new transfer)
  requested := by simp

/-- An input that says so to the peer when it requests a cleanup. -/
theorem Notified.both {message : Message} {told : Option TransferId}
    {error : Option NSError} {blocks : List MainBlock}
    (ends : endingError message = some error)
    (outgoing : next.outgoing = client.queued ⟨message, told⟩)
    (main : next.mainQueue = client.mainQueue ++ blocks)
    (own : ∀ block ∈ blocks, ∀ transfer, block.Clears transfer → told = some transfer)
    (requested : ∃ block ∈ blocks, ∀ transfer, told = some transfer → block.Clears transfer) :
    Notified client next told told where
  ending := ending_queued ends outgoing
  clearing := clearing_appended main own
  requested := by
    intro transfer same
    obtain ⟨block, member, clears⟩ := requested
    refine ⟨block, ?_, clears transfer same⟩
    rw [main]
    exact List.mem_append_right _ member

/-- An input that only sends the message. -/
theorem Notified.tells {message : Message} {told : Option TransferId}
    {error : Option NSError}
    (ends : endingError message = some error)
    (outgoing : next.outgoing = client.queued ⟨message, told⟩)
    (main : next.mainQueue = client.mainQueue) :
    Notified client next told none where
  ending := ending_queued ends outgoing
  clearing := by
    rintro transfer ⟨block, member, clears⟩
    rw [main] at member
    exact .inl ⟨block, member, clears⟩
  requested := by simp

/-- An input that requests a cleanup and says nothing. -/
theorem Notified.requests {old : List MainBlock} {error : Option NSError}
    {cleared : Option TransferId} {byPeer : Bool} {stamp : Nat}
    (shrunk : old ⊆ client.mainQueue)
    (outgoing : next.outgoing = client.outgoing)
    (main : next.mainQueue = old ++ [.cleanup error ⟨cleared, byPeer, stamp⟩]) :
    Notified client next none cleared where
  ending := ending_appended [] (by rw [outgoing, List.append_nil]) (by simp) rfl
  clearing := by
    rintro transfer ⟨block, member, clears⟩
    rw [main] at member
    rcases List.mem_append.mp member with inOld | isNew
    · exact .inl ⟨block, shrunk inOld, clears⟩
    · rw [List.mem_singleton.mp isNew] at clears
      exact .inr clears
  requested := by
    intro transfer same
    have member : .cleanup error ⟨cleared, byPeer, stamp⟩ ∈ next.mainQueue := by
      rw [main]
      exact List.mem_append_right _ (List.mem_singleton_self _)
    exact clearing_of_mem member same

/-- A statement of the loop tells the receiver of the end, or requests a cleanup,
or does neither. -/
theorem notice_of_looped (given : LoopInput) {loop : SendingLoop} {rest : List SendingLoop}
    (queue : client.fileQueue = loop :: rest) :
    ∃ told cleared, Notice client (.runFile given) told cleared ∧
      Notified client
        { (client.loopStatement loop.transfer given loop.point).1 with
          fileQueue := advanceQueue loop rest
            (client.loopStatement loop.transfer given loop.point).2 } told cleared := by
  by_cases isDone : loop.point = .sendDone
  · simp only [isDone, loopStatement, sendControlJSON_eq]
    exact ⟨_, _, .done given loop rest queue isDone, .tells rfl rfl rfl⟩
  · by_cases isFinish : ∃ error, loop.point = .finish error
    · obtain ⟨error, atPoint⟩ := isFinish
      simp only [atPoint, loopStatement]
      exact ⟨_, _, .finish given loop rest error queue atPoint,
        .requests (List.Subset.refl client.mainQueue) (by rfl) (by rfl)⟩
    · obtain ⟨handle, sent, packets, blocks, result, change⟩ :=
        client.loopStatement_change loop.transfer given loop.point
      rw [result]
      refine ⟨none, none, .silent _,
        .silent packets blocks rfl ?_ (List.Subset.refl _) ?_⟩
      · intro packet member
        rcases change.sends packet member with ⟨chunk, retries, -, rfl⟩ | ⟨atDone, -⟩
        · rfl
        · exact absurd atDone isDone
      · intro block member
        rcases change.dispatches block member with ⟨progress, rfl⟩ | ⟨error, atPoint, -⟩
        · exact fun _ => id
        · exact absurd ⟨error, atPoint⟩ isFinish

/-- Every input on an open channel sends the ending messages and requests the
cleanups of one notice. -/
theorem notice_of_effect (effect : Effect client input next calls)
    (notTransmitted : input ≠ .transmit)
    (keepsPackets : ∀ state, input = .dataChannelState state →
      state = .Open ∨ client.outgoing = []) :
    ∃ told cleared, Notice client input told cleared ∧
      Notified client next told cleared := by
  have silent : ∀ (packets : List Packet) (blocks : List MainBlock),
      next.outgoing = client.outgoing ++ packets →
      (∀ packet ∈ packets, endingError packet.message = none) →
      next.mainQueue ⊆ client.mainQueue ++ blocks →
      (∀ block ∈ blocks, ∀ transfer, ¬ block.Clears transfer) →
      ∃ told cleared, Notice client input told cleared ∧
        Notified client next told cleared :=
    fun packets blocks outgoing others main reports =>
      ⟨none, none, .silent _, .silent packets blocks outgoing others main reports⟩
  have queues : ∀ (message : Message) (transfer : Option TransferId),
      endingError message = none →
      ∃ packets, client.queued ⟨message, transfer⟩ = client.outgoing ++ packets ∧
        ∀ other ∈ packets, endingError other.message = none := by
    intro message transfer others
    rcases client.queued_cases ⟨message, transfer⟩ with appended | unchanged
    · exact ⟨[⟨message, transfer⟩], appended, by simpa using others⟩
    · exact ⟨[], by simpa using unchanged, by simp⟩
  cases effect with
  | began fileURL file =>
      rw [beginSending_eq] at silent ⊢
      obtain ⟨packets, grown, others⟩ := queues (.ftOffer _ _ _) _ rfl
      exact silent packets [] grown others (List.subset_append_left _ _) (by simp)
  | cancelled =>
      rw [cancelFileTransfer_eq]
      exact ⟨_, _, .cancel, .both rfl rfl rfl (by simp [MainBlock.Clears])
        (by simp [MainBlock.Clears])⟩
  | rejected reason =>
      rw [rejectIncomingFileWithReason_eq]
      exact ⟨_, _, .reject reason, .both rfl rfl rfl (by simp [MainBlock.Clears])
        (by simp [MainBlock.Clears])⟩
  | unopened destination =>
      exact ⟨_, _, .unopened destination, .both rfl rfl rfl (by simp [MainBlock.Clears])
        (by simp [MainBlock.Clears])⟩
  | completed data transfer handle receiving =>
      exact ⟨_, _, .complete _ _ handle receiving, .both rfl rfl rfl
        (by simp [MainBlock.Clears]) (by simp [MainBlock.Clears])⟩
  | accepted =>
      obtain ⟨packets, grown, others⟩ := queues .ftAccept _ rfl
      exact silent packets [] grown others (List.subset_append_left _ _) (by simp)
  | busy name size chunk transfer outcome engaged =>
      exact ⟨_, _, .busy name size chunk transfer outcome engaged, .tells rfl rfl rfl⟩
  | ended message transfer outcome error ends =>
      exact ⟨_, _, .ended _ outcome error ends,
        .requests (List.Subset.refl client.mainQueue) (by rfl) (by rfl)⟩
  | writeFailed data transfer reason handle receiving =>
      exact ⟨_, _, .writeFailed _ _ handle receiving,
        .requests (List.Subset.refl client.mainQueue) (by rfl) (by rfl)⟩
  | iceLost rest queue engaged =>
      have shrunk : rest ⊆ client.mainQueue := by
        rw [queue]
        exact List.subset_cons_self _ _
      exact ⟨_, _, .iceLost rest queue engaged, .requests shrunk (by rfl) (by rfl)⟩
  | transmitted => exact absurd rfl notTransmitted
  | reported block rest call queue | iceIdle rest queue | cleaned error request rest queue =>
      refine silent [] [] (List.append_nil _).symm (by simp) ?_ (by simp)
      rw [queue, List.append_nil]
      exact List.subset_cons_self _ _
  | looped given loop rest queue => exact notice_of_looped given queue
  | channelChanged state =>
      rcases client.dataChannelDidChangeState_cases state with
        ⟨name, ip, role, -, result⟩ | ⟨notOpen, result⟩
      · rw [result] at silent ⊢
        exact silent [⟨.hello name ip role, none⟩] _ rfl (by simp [endingError])
          (List.Subset.refl _) (by simp [MainBlock.Clears])
      · have empty := (keepsPackets state rfl).resolve_left notOpen
        rw [result] at silent ⊢
        exact silent [] _ (by rw [empty]; rfl) (by simp)
          (List.Subset.refl _) (by simp [MainBlock.Clears])
  | greeted | offered | stored | iceChanged =>
      exact silent [] _ (List.append_nil _).symm (by simp) (List.Subset.refl _)
        (by simp [MainBlock.Clears])
  | started | nothing =>
      exact silent [] [] (List.append_nil _).symm (by simp) (List.subset_append_left _ _)
        (by simp)

/-! ## Packets under way and loops -/

theorem mem_outgoing_kept (effect : Effect client input next calls)
    (notTransmitted : input ≠ .transmit)
    (keepsPackets : ∀ state, input = .dataChannelState state →
      state = .Open ∨ client.outgoing = [])
    {packet : Packet} (member : packet ∈ client.outgoing) :
    packet ∈ next.outgoing := by
  rcases outgoing_of_effect effect with
    ⟨gone, -, transmitted⟩ | ⟨-, state, changed, notOpen⟩ | ⟨packets, grown, -⟩
  · exact absurd transmitted notTransmitted
  · rw [(keepsPackets state changed).resolve_left notOpen] at member
    contradiction
  · rw [grown]
    exact List.mem_append_left _ member

theorem offering_before (effect : Effect client input next calls)
    (offering : next.Offering transfer) :
    client.Offering transfer ∨
      (transfer = ⟨client.clientId, client.begun⟩ ∧ client.Begins input) := by
  obtain ⟨packet, member, name, size, chunk, rfl⟩ := offering
  rcases mem_outgoing_of_effect effect member with old | emits
  · exact .inl ⟨_, old, name, size, chunk, rfl⟩
  · cases emits with
    | offer fileURL _ _ succeeds => exact .inr ⟨rfl, fileURL, rfl, succeeds⟩

theorem Begins.outgoing (begins : client.Begins input)
    (effect : Effect client input next calls) :
    ∃ name size, next.outgoing = client.outgoing ++
      [⟨.ftOffer name size chunkSize, some ⟨client.clientId, client.begun⟩⟩] := by
  obtain ⟨fileURL, rfl, succeeds⟩ := begins
  obtain ⟨file, isOpen, -, -, rfl⟩ := beginSending_of_succeeds succeeds effect
  rw [beginSending_eq]
  exact ⟨_, _, queued_of_isOpen isOpen _⟩

theorem Begins.offering (begins : client.Begins input)
    (effect : Effect client input next calls) :
    next.Offering ⟨client.clientId, client.begun⟩ := by
  obtain ⟨name, size, grown⟩ := begins.outgoing effect
  refine ⟨⟨.ftOffer name size chunkSize, some ⟨client.clientId, client.begun⟩⟩, ?_,
    name, size, chunkSize, rfl⟩
  rw [grown]
  exact List.mem_append_right _ (List.mem_singleton_self _)

theorem Begins.sends (begins : client.Begins input)
    (effect : Effect client input next calls) :
    next.Sends ⟨client.clientId, client.begun⟩ := by
  obtain ⟨fileURL, rfl, succeeds⟩ := begins
  obtain ⟨file, -, -, -, rfl⟩ := beginSending_of_succeeds succeeds effect
  rw [beginSending_eq]
  rfl

theorem Begins.begun (begins : client.Begins input)
    (effect : Effect client input next calls) :
    next.begun = client.begun + 1 := by
  obtain ⟨fileURL, rfl, succeeds⟩ := begins
  obtain ⟨file, -, -, -, rfl⟩ := beginSending_of_succeeds succeeds effect
  rw [beginSending_eq]

theorem Begins.not_sends (begins : client.Begins input) : ¬ client.Sends transfer := by
  obtain ⟨fileURL, rfl, succeeds⟩ := begins
  unfold sendSucceeds at succeeds
  split at succeeds
  case h_1 sent result =>
    obtain ⟨file, -, notSending, -⟩ := sendFileAtURL_ok result
    simp [Sends, notSending]
  case h_2 => contradiction

/-- A loop returns when nothing is being sent, when the transfer is cancelled, or
from its request for a cleanup. -/
theorem loopStatement_returns {given : LoopInput} {point : LoopPoint}
    (returns : (client.loopStatement transfer given point).2 = none) :
    client.sendHandle = none ∨ client.transferCancelled = true ∨
      ∃ error, point = .finish error := by
  cases point with
  | entry =>
      simp only [loopStatement] at returns
      split at returns
      case isTrue notSending => exact .inl (Option.isNone_iff_eq_none.mp notSending)
      case isFalse => contradiction
  | cancelledTest =>
      simp only [loopStatement] at returns
      split at returns
      case isTrue cancelled => exact .inr (.inl cancelled)
      case isFalse => contradiction
  | finish error => exact .inr (.inr ⟨error, rfl⟩)
  | whileTest | waitTest | waitBody | openTest | read | retryTest | retryOpenTest | retrySend
  | okTest | addBytes | reportProgress | completeTest | sendDone =>
      simp only [loopStatement] at returns
      repeat' split at returns
      all_goals contradiction

theorem looping_kept (effect : Effect client input next calls)
    (looping : client.Looping transfer) :
    next.Looping transfer ∨ next.Clearing transfer ∨ client.sendHandle = none ∨
      client.transferCancelled = true := by
  obtain ⟨loop, member, rfl⟩ := looping
  rcases fileQueue_of_effect effect with
    same | ⟨handle, tag, outcome, -, -, started⟩ | ⟨given, head, rest, rfl, queue, advanced⟩
  · exact .inl ⟨loop, by rw [same]; exact member, rfl⟩
  · exact .inl ⟨loop, by rw [started]; exact List.mem_append_left _ member, rfl⟩
  · rw [queue] at member
    cases following : (client.loopStatement head.transfer given head.point).2 with
    | some point =>
        rw [following] at advanced
        rcases List.mem_cons.mp member with rfl | inRest
        · refine .inl ⟨{ loop with point := point }, ?_, rfl⟩
          rw [advanced]
          exact List.mem_cons_self
        · exact .inl ⟨loop, by rw [advanced]; exact List.mem_cons_of_mem _ inRest, rfl⟩
    | none =>
        rw [following] at advanced
        rcases List.mem_cons.mp member with rfl | inRest
        · rcases loopStatement_returns following with notSending | cancelled | ⟨error, atPoint⟩
          · exact .inr (.inr (.inl notSending))
          · exact .inr (.inr (.inr cancelled))
          · refine .inr (.inl ?_)
            cases effect with
            | looped _ other others otherQueue =>
                rw [queue] at otherQueue
                obtain ⟨rfl, rfl⟩ := List.cons.inj otherQueue
                simp only [atPoint, loopStatement]
                exact ⟨_, List.mem_append_right _ (List.mem_singleton_self _), rfl⟩
            | nothing _ _ _ _ notQueued => exact absurd rfl (notQueued.2.2 given)
        · exact .inl ⟨loop, by rw [advanced]; exact inRest, rfl⟩

/-- A loop that comes to finish without an error has just sent `ft_done`. -/
theorem finishing_before (effect : Effect client input next calls)
    (isOpen : client.isDataChannelOpen = true)
    (finishing : next.Finishing transfer) :
    client.Finishing transfer ∨ next.Ending transfer := by
  rcases fileQueue_of_effect effect with
    same | ⟨handle, tag, outcome, -, -, started⟩ | ⟨given, head, rest, rfl, queue, advanced⟩
  · rw [Finishing, same] at finishing
    exact .inl finishing
  · rw [Finishing, started] at finishing
    exact .inl ((List.mem_append.mp finishing).resolve_right (by simp))
  · rw [Finishing, advanced] at finishing
    rcases mem_advanceQueue finishing with inRest | ⟨following, continues, same⟩
    · exact .inl (by rw [Finishing, queue]; exact List.mem_cons_of_mem _ inRest)
    · obtain ⟨rfl, rfl⟩ := SendingLoop.mk.inj same
      rcases loopStatement_ends continues (.inr rfl) with ⟨atTest, complete⟩ | atDone
      · simp [atTest, loopStatement, complete] at continues
      · refine .inr ?_
        cases effect with
        | looped _ other others otherQueue =>
            rw [queue] at otherQueue
            obtain ⟨rfl, rfl⟩ := List.cons.inj otherQueue
            simp only [atDone, loopStatement, sendControlJSON_eq]
            exact (ending_queued rfl rfl _).mpr (.inr ⟨isOpen, rfl⟩)
        | nothing _ _ _ _ notQueued => exact absurd rfl (notQueued.2.2 given)

/-- A file that was not being received before has just been accepted. -/
theorem receives_before (effect : Effect client input next calls)
    (receives : next.Receives transfer) :
    client.Receives transfer ∨ (client.Pending transfer ∧
      (client.isDataChannelOpen = true → next.Accepting transfer)) := by
  obtain ⟨handle, receiving, same⟩ := receives
  have kept : next.recvHandle = client.recvHandle →
      client.Receives transfer ∨ (client.Pending transfer ∧
        (client.isDataChannelOpen = true → next.Accepting transfer)) :=
    fun unchanged => .inl ⟨handle, by rw [← unchanged]; exact receiving, same⟩
  cases effect with
  | accepted destination =>
      obtain rfl := Option.some.inj receiving
      refine .inr ⟨same, ?_⟩
      intro isOpen
      simp only [Accepting, queued, isOpen, if_true]
      rw [show client.incomingTransfer = some transfer from same]
      exact List.mem_append_right _ (List.mem_singleton_self _)
  | began => exact kept (by rw [beginSending_eq])
  | cancelled => exact kept (by rw [cancelFileTransfer_eq])
  | rejected => exact kept (by rw [rejectIncomingFileWithReason_eq])
  | cleaned => contradiction
  | looped given loop rest queue =>
      obtain ⟨moved, sent, packets, blocks, result, -⟩ :=
        client.loopStatement_change loop.transfer given loop.point
      exact kept (by rw [result])
  | channelChanged state =>
      obtain ⟨outgoing, result⟩ := client.dataChannelDidChangeState_eq state
      exact kept (by rw [result])
  | unopened | greeted | busy | offered | started | ended | writeFailed | stored | completed
  | transmitted | reported | iceLost | iceIdle | iceChanged | nothing => exact kept rfl

/-- A client that counts as cancelled was so before, or it has just requested a
cleanup for the transfer it is engaged in. -/
theorem cancelled_before (effect : Effect client input next calls)
    (cancelled : next.transferCancelled = true) :
    client.transferCancelled = true ∨
      (client.currentTransfer = some transfer → next.Clearing transfer) := by
  cases effect with
  | began =>
      rw [beginSending_eq] at cancelled
      contradiction
  | cancelled =>
      rw [cancelFileTransfer_eq]
      refine .inr ?_
      intro current
      exact ⟨_, List.mem_append_right _ (List.mem_singleton_self _), current⟩
  | rejected =>
      rw [rejectIncomingFileWithReason_eq] at cancelled
      exact .inl cancelled
  | looped given loop rest queue =>
      obtain ⟨moved, sent, packets, blocks, result, -⟩ :=
        client.loopStatement_change loop.transfer given loop.point
      rw [result] at cancelled
      exact .inl cancelled
  | channelChanged state =>
      obtain ⟨outgoing, result⟩ := client.dataChannelDidChangeState_eq state
      rw [result] at cancelled
      exact .inl cancelled
  | accepted | unopened | greeted | busy | offered | started | ended | writeFailed | stored
  | completed | transmitted | reported | iceLost | iceIdle | cleaned | iceChanged | nothing =>
      exact .inl cancelled

/-- A channel that is not open takes no packet. -/
theorem outgoing_of_closed (effect : Effect client input next calls)
    (closed : client.isDataChannelOpen = false)
    (stillClosed : next.isDataChannelOpen = false)
    (empty : client.outgoing = []) :
    next.outgoing = [] := by
  have untaken : ∀ packet, client.queued packet = [] := by
    intro packet
    simp [queued, closed, empty]
  cases effect with
  | began fileURL file isOpen =>
      rw [closed] at isOpen
      contradiction
  | cancelled =>
      rw [cancelFileTransfer_eq]
      exact untaken _
  | rejected =>
      rw [rejectIncomingFileWithReason_eq]
      exact untaken _
  | accepted | unopened | busy | completed => exact untaken _
  | transmitted packet rest queue =>
      rw [empty] at queue
      contradiction
  | looped given loop rest queue =>
      obtain ⟨moved, sent, packets, blocks, result, change⟩ :=
        client.loopStatement_change loop.transfer given loop.point
      rw [result]
      simp [empty, change.closed closed]
  | channelChanged state =>
      rcases client.dataChannelDidChangeState_cases state with
        ⟨name, ip, role, -, result⟩ | ⟨-, result⟩
      · rw [result] at stillClosed
        contradiction
      · rw [result]
  | greeted | offered | started | ended | writeFailed | stored | reported | iceLost | iceIdle
  | cleaned | iceChanged | nothing => exact empty

/-! ## A packet arrives -/

theorem clearing_of_ends {packet : Packet} {outcome : WriteOutcome}
    (effect : Effect client (.receive packet outcome) next calls)
    (ends : packet.Ends transfer) :
    next.Clearing transfer := by
  obtain ⟨error, isEnding, same⟩ := ends
  cases effect with
  | ended message tag _ given given_ends =>
      exact ⟨_, List.mem_append_right _ (List.mem_singleton_self _), same⟩
  | nothing _ _ notReceived =>
      rcases notReceived packet outcome rfl with ⟨accept, -⟩ | ⟨data, binary, -⟩
      · rw [accept] at isEnding
        contradiction
      · rw [binary] at isEnding
        contradiction
  | greeted | busy | offered | started | writeFailed | stored | completed => contradiction

theorem looping_of_accept {tag : Option TransferId} {outcome : WriteOutcome}
    (effect : Effect client (.receive ⟨.ftAccept, tag⟩ outcome) next calls)
    (sends : client.Sends transfer) :
    next.Looping transfer := by
  obtain ⟨handle, sending, rfl⟩ := sends.handle
  cases effect with
  | started other _ _ otherSending =>
      rw [sending] at otherSending
      obtain rfl := Option.some.inj otherSending
      exact ⟨_, List.mem_append_right _ (List.mem_singleton_self _), rfl⟩
  | ended message _ _ error ends => contradiction
  | nothing _ _ notReceived =>
      rcases notReceived _ outcome rfl with ⟨-, notSending⟩ | ⟨data, binary, -⟩
      · rw [sending] at notSending
        contradiction
      · contradiction

/-- An offer that arrives is refused or becomes the pending one. -/
theorem pending_of_offers {packet : Packet} {outcome : WriteOutcome}
    (effect : Effect client (.receive packet outcome) next calls)
    (isOpen : client.isDataChannelOpen = true)
    (offers : packet.Offers transfer) :
    next.Ending transfer ∨ next.Pending transfer := by
  obtain ⟨name, size, chunk, rfl⟩ := offers
  cases effect with
  | busy => exact .inl ((ending_queued rfl rfl _).mpr (.inr ⟨isOpen, rfl⟩))
  | offered => exact .inr rfl
  | ended message _ _ error ends => contradiction
  | nothing _ _ notReceived =>
      rcases notReceived _ outcome rfl with ⟨accept, -⟩ | ⟨data, binary, -⟩
      · contradiction
      · contradiction

/-! ## Transfers a client mentions -/

/-- Every place of a client in which a transfer stands. -/
inductive Mentions (client : RTCClient) (transfer : TransferId) : Prop
  | sending (sends : client.Sends transfer)
  | receiving (receives : client.Receives transfer)
  | pending (pending : client.Pending transfer)
  | clearing (clearing : client.Clearing transfer)
  | packet (packet : Packet) (member : packet ∈ client.outgoing)
      (same : packet.transfer = some transfer)
  | loop (loop : SendingLoop) (member : loop ∈ client.fileQueue)
      (same : loop.transfer = transfer)
  | chunk (loop : SendingLoop) (member : loop ∈ client.fileQueue) (chunk : Chunk)
      (holds : loop.point.chunk? = some chunk) (same : chunk.transfer = transfer)

theorem not_mentions_initial (clientId : Nat) (helloName : String) (transfer : TransferId) :
    ¬ (RTCClient.initial clientId helloName).Mentions transfer := by
  intro mentions
  cases mentions with
  | receiving receives =>
      obtain ⟨handle, receiving, -⟩ := receives
      contradiction
  | clearing clearing =>
      obtain ⟨block, member, -⟩ := clearing
      contradiction
  | sending | pending | packet | loop | chunk => contradiction

/-- A client whose packets arrive mentions nothing new. -/
theorem Mentions.of_delivered {rest : List Packet} (kept : rest ⊆ client.outgoing)
    (mentions : Mentions { client with outgoing := rest } transfer) :
    client.Mentions transfer := by
  cases mentions with
  | sending sends => exact .sending sends
  | receiving receives => exact .receiving receives
  | pending pending => exact .pending pending
  | clearing clearing => exact .clearing clearing
  | packet packet member same => exact .packet packet (kept member) same
  | loop loop member same => exact .loop loop member same
  | chunk loop member chunk holds same => exact .chunk loop member chunk holds same

/-- The input receives a packet of the transfer. -/
def Input.Carries (input : Input) (transfer : TransferId) : Prop :=
  ∃ packet outcome, input = .receive packet outcome ∧ packet.transfer = some transfer

theorem mentions_current (current : client.currentTransfer = some transfer) :
    client.Mentions transfer := by
  rcases currentTransfer_cases current with sends | receives | ⟨-, -, pending⟩
  · exact .sending sends
  · exact .receiving receives
  · exact .pending pending

theorem mentions_of_emits {packet : Packet} (emits : Emits client input packet)
    (same : packet.transfer = some transfer) :
    client.Mentions transfer ∨ input.Carries transfer ∨
      (transfer = ⟨client.clientId, client.begun⟩ ∧ client.Begins input) := by
  cases emits with
  | offer fileURL name size succeeds =>
      exact .inr (.inr ⟨(Option.some.inj same).symm, fileURL, rfl, succeeds⟩)
  | cancel => exact .inl (mentions_current same)
  | reject | accept | unopened => exact .inl (.pending same)
  | busy name size chunk tag outcome => exact .inr (.inl ⟨_, outcome, rfl, same⟩)
  | received data tag handle receiving => exact .inl (.receiving ⟨handle, receiving, same⟩)
  | chunk given loop rest chunk retries queue atPoint =>
      refine .inl (.chunk loop ?_ chunk ?_ (Option.some.inj same))
      · rw [queue]
        exact List.mem_cons_self
      · rw [atPoint]
        rfl
  | done given loop rest queue =>
      refine .inl (.loop loop ?_ (Option.some.inj same))
      rw [queue]
      exact List.mem_cons_self
  | hello => contradiction

theorem mentions_of_requests {error : Option NSError} {request : CleanupRequest}
    (requests : Requests client input error request)
    (same : request.transfer = some transfer) :
    client.Mentions transfer ∨ input.Carries transfer := by
  cases requests with
  | cancel | iceLost => exact .inl (mentions_current same)
  | reject | unopened => exact .inl (.pending same)
  | writeFailed data tag reason handle receiving | received data tag handle receiving =>
      exact .inl (.receiving ⟨handle, receiving, same⟩)
  | ended message tag outcome => exact .inr ⟨_, outcome, rfl, same⟩
  | finish given loop rest error queue =>
      refine .inl (.loop loop ?_ (Option.some.inj same))
      rw [queue]
      exact List.mem_cons_self

/-- A transfer that a client mentions after an input it has mentioned before, has
just received, or has just begun. -/
theorem mentions_before (effect : Effect client input next calls)
    (mentions : next.Mentions transfer) :
    client.Mentions transfer ∨ input.Carries transfer ∨
      (transfer = ⟨client.clientId, client.begun⟩ ∧ client.Begins input) := by
  cases mentions with
  | sending sends =>
      rcases sends_before effect sends with before | began
      · exact .inl (.sending before)
      · exact .inr (.inr began)
  | receiving receives =>
      rcases receives_before effect receives with before | ⟨pending, -⟩
      · exact .inl (.receiving before)
      · exact .inl (.pending pending)
  | pending pending =>
      rcases pending_before effect pending with
        before | ⟨packet, outcome, received, ⟨name, size, chunk, rfl⟩, -⟩
      · exact .inl (.pending before)
      · exact .inr (.inl ⟨_, outcome, received, rfl⟩)
  | clearing clearing =>
      obtain ⟨block, member, clears⟩ := clearing
      obtain ⟨error, request, rfl, same⟩ := clears.cleanup
      rcases mem_mainQueue_of_effect effect member with old | requests
      · exact .inl (.clearing ⟨_, old, same⟩)
      · exact (mentions_of_requests requests same).imp_right .inl
  | packet packet member same =>
      rcases mem_outgoing_of_effect effect member with old | emits
      · exact .inl (.packet packet old same)
      · exact mentions_of_emits emits same
  | loop loop member same =>
      rcases loop_before effect member with
        ⟨old, inQueue, sameTransfer⟩ | ⟨handle, tag, outcome, sending, rfl, -⟩
      · exact .inl (.loop old inQueue (sameTransfer.trans same))
      · rw [← same]
        exact .inl (.sending (sends_of_sendHandle sending))
  | chunk loop member chunk holds same =>
      rcases fileQueue_of_effect effect with
        unchanged | ⟨handle, tag, outcome, -, -, started⟩ |
        ⟨given, head, rest, -, queue, advanced⟩
      · rw [unchanged] at member
        exact .inl (.chunk loop member chunk holds same)
      · rw [started] at member
        rcases List.mem_append.mp member with old | new
        · exact .inl (.chunk loop old chunk holds same)
        · rw [List.mem_singleton.mp new] at holds
          contradiction
      · rw [advanced] at member
        rcases mem_advanceQueue member with inRest | ⟨following, continues, rfl⟩
        · refine .inl (.chunk loop ?_ chunk holds same)
          rw [queue]
          exact List.mem_cons_of_mem _ inRest
        · rcases client.loopStatement_chunk continues holds with
            before | ⟨-, handle, sending, sameTransfer⟩
          · refine .inl (.chunk head ?_ chunk before same)
            rw [queue]
            exact List.mem_cons_self
          · rw [← same, sameTransfer]
            exact .inl (.sending (sends_of_sendHandle sending))

end RTCClient

end WebrtcFileSender
