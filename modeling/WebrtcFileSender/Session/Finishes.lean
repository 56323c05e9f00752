import WebrtcFileSender.Session.Undisturbed

/-!
Contract: how often an undisturbed transfer is reported as finished.

Each side has two triggers, its own completion and the peer's `ft_done`, and both
queue a cleanup that tells the delegate.

Owns: the number of finish notifications of a side, the account of those that are
still to come, and its balance: at each side delivered, queued, under way and
expected notifications are two.
-/

namespace WebrtcFileSender

def Message.isDone : Message → Bool
  | .ftDone => true
  | _ => false

def DelegateCall.isFinish : DelegateCall → Bool
  | .fileTransferDidFinish _ _ _ => true
  | _ => false

/-- The delegate of `side` hears of a finish. -/
def Session.Event.isFinishOf (side : Side) : Session.Event → Bool
  | .observed owner (.delegate call) => decide (owner = side) && call.isFinish
  | _ => false

namespace RTCClient

variable {client next : RTCClient} {input : Input} {calls : List DelegateCall}
  {source : Bytes} {loop : SendingLoop} {given : LoopInput}

/-- The cleanups that wait on the main queue. -/
def cleanups (client : RTCClient) : Nat :=
  client.mainQueue.countP MainBlock.isCleanup

/-- The `ft_done`s under way. -/
def dones (client : RTCClient) : Nat :=
  client.count Message.isDone

/-- An input requests `requested` cleanups and emits `told` of `ft_done`; a finish is
reported when a cleanup leaves the queue. -/
structure Tally (client next : RTCClient) (calls : List DelegateCall)
    (requested told : Nat) : Prop where
  cleanups : calls.countP DelegateCall.isFinish + next.cleanups = client.cleanups + requested
  dones : next.dones = client.dones + told

theorem dones_of_queued {packet : Packet} (notDone : packet.message.isDone = false) :
    (client.queued packet).countP (fun packet => packet.message.isDone) = client.dones := by
  rcases client.queued_cases packet with appended | unchanged
  · rw [appended, List.countP_append]
    simp [notDone, dones, count]
  · rw [unchanged]
    rfl

/-- A block of the main queue: a cleanup that leaves it is a finish that is reported. -/
theorem tally_of_runMain (regular : client.Regular)
    (effect : Effect client .runMain next calls) :
    Tally client next calls 0 0 := by
  cases effect with
  | reported block rest call queue reports notFinish =>
      have notCleanup : block.isCleanup = false := by
        cases block with
        | cleanup => contradiction
        | dataChannelStateDidChange | iceConnectionLost | didReceivePeerName
        | didUpdateOnlinePeers | fileReceiveOffered | fileReceiveProgress
        | fileSendProgress => rfl
      have silent : call.isFinish = false := by
        cases call with
        | fileTransferDidFinish error request ended =>
            exact absurd rfl (notFinish error request ended)
        | dataChannelStateDidChange | didReceivePeerName | didUpdateOnlinePeers
        | fileReceiveOffered | fileReceiveProgress | fileSendProgress => rfl
      refine ⟨?_, rfl⟩
      simp [cleanups, queue, notCleanup, silent]
  | cleaned error request rest queue =>
      refine ⟨?_, rfl⟩
      show 1 + rest.countP MainBlock.isCleanup = client.mainQueue.countP MainBlock.isCleanup
      rw [queue, List.countP_cons_of_pos rfl, Nat.add_comm]
  | iceLost rest queue | iceIdle rest queue =>
      have noLoss := regular.blocks .iceConnectionLost (by simp [queue])
      exact noLoss.elim
  | nothing _ _ _ _ notQueued => exact absurd rfl notQueued.2.1

/-- A statement of the loop requests a cleanup when it is the last one, and tells the
peer right before. -/
theorem tally_of_loop (isOpen : client.isDataChannelOpen = true) (transfer : TransferId)
    (queue : List SendingLoop) (point : LoopPoint) :
    Tally client
      { (client.loopStatement transfer given point).1 with fileQueue := queue } []
      (if point.finishing then 1 else 0) (if point = .sendDone then 1 else 0) := by
  have grown := client.mainQueue_of_loopStatement transfer given point
  constructor
  · show 0 + (client.loopStatement transfer given point).1.mainQueue.countP _ = _
    rw [grown, List.countP_append, Nat.zero_add]
    cases point with
    | finish error => simp [cleanups, loopBlocks, LoopPoint.finishing, MainBlock.isCleanup]
    | reportProgress => simp [cleanups, loopBlocks, LoopPoint.finishing, MainBlock.isCleanup]
    | entry | whileTest | waitTest | waitBody | openTest | read | retryTest | retryOpenTest
    | retrySend | okTest | addBytes | cancelledTest | completeTest | sendDone =>
        simp [cleanups, loopBlocks, LoopPoint.finishing]
  · show (client.loopStatement transfer given point).1.outgoing.countP _ = _
    cases point with
    | sendDone =>
        simp only [loopStatement, sendControlJSON_eq, queued_of_isOpen isOpen,
          List.countP_append, if_true]
        rfl
    | retrySend chunk retries =>
        simp only [loopStatement, sendData_eq]
        split
        · exact dones_of_queued rfl
        · rfl
    | read =>
        simp only [loopStatement]
        split <;> rfl
    | entry | whileTest | waitTest | waitBody | openTest | retryTest | retryOpenTest | okTest
    | addBytes | reportProgress | cancelledTest | completeTest | finish => rfl

/-- What follows a statement of an undisturbed loop: the loop returns after its last
statement, which follows `ft_done`. -/
inductive Continues (point : LoopPoint) : Option LoopPoint → Prop
  | returned (finishing : point.finishing = true) : Continues point none
  | told (isDone : point = .sendDone) (error : Option NSError) :
      Continues point (some (.finish error))
  | went (following : LoopPoint) (notFinishing : point.finishing = false)
      (notDone : point ≠ .sendDone) (goesOn : following.finishing = false) :
      Continues point (some following)

theorem Reading.continues {handle : ReadHandle}
    (reading : client.Reading source loop handle)
    (sourceFile : handle.file.bytes = source)
    (small : source.length < 2 ^ 63)
    (isOpen : client.isDataChannelOpen = true)
    (notCancelled : client.transferCancelled = false)
    (undisturbed : loop.point.Undisturbed given) :
    Continues loop.point (client.loopStatement loop.transfer given loop.point).2 := by
  obtain ⟨following, continues, goesOn, -⟩ :=
    reading.statement sourceFile small isOpen notCancelled undisturbed
  rw [continues]
  have reads := reading.reads
  refine .went following ?_ ?_ goesOn
  · cases atPoint : loop.point with
    | finish =>
        rw [atPoint] at reads
        exact reads.elim
    | entry | whileTest | waitTest | waitBody | openTest | read | retryTest | retryOpenTest
    | retrySend | okTest | addBytes | reportProgress | cancelledTest | completeTest
    | sendDone => rfl
  · intro isDone
    rw [isDone] at reads
    exact reads

theorem Closing.continues
    (closing : client.Closing source loop)
    (notCancelled : client.transferCancelled = false) :
    Continues loop.point (client.loopStatement loop.transfer given loop.point).2 := by
  have closes := closing.closes
  have enough := closing.enough
  cases atPoint : loop.point with
  | finish => exact .returned rfl
  | sendDone => exact .told rfl none
  | whileTest =>
      simp only [loopStatement]
      split
      · exact .went _ rfl (by simp) rfl
      · exact .went _ rfl (by simp) rfl
  | okTest chunk ok =>
      rw [atPoint] at closes
      obtain rfl : ok = true := closes
      exact .went _ rfl (by simp) rfl
  | addBytes | reportProgress => exact .went _ rfl (by simp) rfl
  | cancelledTest =>
      simp only [loopStatement, notCancelled, Bool.false_eq_true, if_false]
      exact .went _ rfl (by simp) rfl
  | completeTest =>
      rw [atPoint] at enough
      have complete : client.sendTotalBytes ≤ client.sendBytesSent := enough
      simp only [loopStatement, complete, if_true]
      exact .went _ rfl (by simp) rfl
  | entry | waitTest | waitBody | openTest | read | retryTest | retryOpenTest | retrySend =>
      rw [atPoint] at closes
      contradiction

/-- A loop that has not yet told the peer. -/
def untold (client : RTCClient) : Nat :=
  client.fileQueue.countP fun loop => !loop.point.finishing

/-- Every statement of an undisturbed loop pays what it was expected to. -/
theorem Active.pays {transfer : TransferId} {rest : List SendingLoop}
    (active : client.Active source)
    (role : SenderRole client transfer source)
    (small : source.length < 2 ^ 63)
    (isOpen : client.isDataChannelOpen = true)
    (notCancelled : client.transferCancelled = false)
    (queue : client.fileQueue = loop :: rest)
    (undisturbed : loop.point.Undisturbed given) :
    (advanceQueue loop rest (client.loopStatement loop.transfer given loop.point).2).length +
        (if loop.point.finishing then 1 else 0) = client.fileQueue.length ∧
      (advanceQueue loop rest
          (client.loopStatement loop.transfer given loop.point).2).countP
            (fun loop => !loop.point.finishing) +
        (if loop.point = .sendDone then 1 else 0) = client.untold := by
  have continues : Continues loop.point
      (client.loopStatement loop.transfer given loop.point).2 := by
    cases active with
    | reading head handle reading clear =>
        obtain rfl : head = loop := (List.cons.inj (reading.queue.symm.trans queue)).1
        have sourceFile := (role.handle handle reading.sending).2
        exact reading.continues sourceFile small isOpen notCancelled undisturbed
    | closing head closing =>
        obtain rfl : head = loop := (List.cons.inj (closing.queue.symm.trans queue)).1
        exact closing.continues notCancelled
    | ended ended =>
        rw [ended.noLoop] at queue
        contradiction
  rw [untold, queue]
  generalize (client.loopStatement loop.transfer given loop.point).2 = following at continues ⊢
  cases continues with
  | returned finishing =>
      have notDone : loop.point ≠ .sendDone := by
        intro isDone
        rw [isDone] at finishing
        contradiction
      simp [advanceQueue, finishing, notDone]
  | told isDone error => simp [advanceQueue, isDone, LoopPoint.finishing]
  | went following notFinishing notDone goesOn =>
      simp [advanceQueue, notFinishing, notDone, goesOn]

end RTCClient

namespace Session

open RTCClient

variable {sender receiver next : RTCClient} {input : Input} {calls : List DelegateCall}
  {source : Bytes} {transfer : TransferId} {path : Option String}
  {history : List Event} {session : Session}

/-- The finish notifications that the delegate of `side` has heard. -/
def finishes (side : Side) (history : List Event) : Nat :=
  history.countP (Event.isFinishOf side)

theorem finishes_append (side : Side) (history fresh : List Event) :
    finishes side (history ++ fresh) = finishes side history + finishes side fresh :=
  List.countP_append

/-- Only the calls of an end on its own delegate count. -/
theorem finishes_events (side owner : Side) (client next : RTCClient)
    (calls : List DelegateCall) :
    finishes side (events owner client next calls) =
      if owner = side then calls.countP DelegateCall.isFinish else 0 := by
  have noBeginning : (beginnings owner client next).countP (Event.isFinishOf side) = 0 := by
    unfold beginnings
    split <;> rfl
  have noOpening : (openings owner client next).countP (Event.isFinishOf side) = 0 := by
    unfold openings
    split <;> rfl
  have observed : ((client.observe next calls).map (Event.observed owner)).countP
      (Event.isFinishOf side) =
        calls.countP fun call => decide (owner = side) && call.isFinish := by
    rw [observe, List.map_append, List.countP_append, List.map_map, List.map_map,
      List.countP_map, List.countP_map]
    have noPacket : (next.outgoing.drop client.outgoing.length).countP
        (Event.isFinishOf side ∘ Event.observed owner ∘ Observation.sent) = 0 :=
      List.countP_eq_zero.mpr fun packet _ => Bool.false_ne_true
    rw [noPacket, Nat.zero_add]
    rfl
  rw [finishes, events, List.countP_append, List.countP_append, observed, noBeginning,
    noOpening]
  by_cases same : owner = side
  · simp [same]
  · simp [same]

/-- The accept has not reached the sender. -/
def unstarted (receiver : RTCClient) (path : Option String) : Bool :=
  path.isNone || receiver.acceptPending

/-- The sender's loop is expected to end. -/
def loopAhead (sender receiver : RTCClient) (path : Option String) : Nat :=
  if unstarted receiver path then 1 else sender.fileQueue.length

/-- The sender's loop is expected to tell the receiver. -/
def doneAhead (sender receiver : RTCClient) (path : Option String) : Nat :=
  if unstarted receiver path then 1 else sender.untold

/-- The receiver is expected to complete the file. -/
def completionAhead (receiver : RTCClient) (source : Bytes) : Option String → Nat
  | none => 1
  | some path => if receiver.disk path = source then 0 else 1

/-- At each side the finish notifications that were delivered, that are queued, that the
peer's `ft_done` under way will cause, and that are expected, are two. -/
structure Balanced (sender receiver : RTCClient) (source : Bytes) (path : Option String)
    (history : List Event) : Prop where
  atSender : finishes .A history + sender.cleanups + receiver.dones +
    completionAhead receiver source path + loopAhead sender receiver path = 2
  atReceiver : finishes .B history + receiver.cleanups + sender.dones +
    completionAhead receiver source path + doneAhead sender receiver path = 2
  chunks : ∀ data tag, ⟨.binary data, tag⟩ ∈ sender.outgoing → data ≠ []

namespace Balanced

/-! ## The sender takes an input -/

theorem sender_acted (balanced : Balanced sender receiver source path history)
    {requested told : Nat} (tally : Tally sender next calls requested told)
    (loops : loopAhead next receiver path + requested = loopAhead sender receiver path)
    (dones : doneAhead next receiver path + told = doneAhead sender receiver path)
    (chunks : ∀ data tag, ⟨.binary data, tag⟩ ∈ next.outgoing → data ≠ []) :
    Balanced next receiver source path (history ++ events .A sender next calls) := by
  have cleanupsPaid := tally.cleanups
  have donesPaid := tally.dones
  have atSender := balanced.atSender
  have atReceiver := balanced.atReceiver
  refine ⟨?_, ?_, chunks⟩
  · rw [finishes_append, finishes_events, if_pos rfl]
    omega
  · rw [finishes_append, finishes_events, if_neg (by decide)]
    omega

/-- A loop hands over the chunks it has read, which are not empty. -/
theorem chunks_looped (balanced : Balanced sender receiver source path history)
    (active : sender.Active source) {given : LoopInput}
    (effect : RTCClient.Effect sender (.runFile given) next calls) :
    ∀ data tag, ⟨.binary data, tag⟩ ∈ next.outgoing → data ≠ [] := by
  intro data tag member
  rcases mem_outgoing_of_effect effect member with old | emitted
  · exact balanced.chunks data tag old
  · cases emitted with
    | chunk _ loop rest chunk retries queue atSend =>
        cases active with
        | reading head handle reading clear =>
            obtain rfl : head = loop := (List.cons.inj (reading.queue.symm.trans queue)).1
            have reads := reading.reads
            rw [atSend] at reads
            exact reads.1
        | closing head closing =>
            obtain rfl : head = loop := (List.cons.inj (closing.queue.symm.trans queue)).1
            have closes := closing.closes
            rw [atSend] at closes
            exact closes.elim
        | ended ended =>
            rw [ended.noLoop] at queue
            contradiction

/-- The loop runs only after the accept has arrived. -/
theorem active_of_loop (intact : Intact sender receiver transfer source path)
    {loop : SendingLoop} {rest : List SendingLoop}
    (queue : sender.fileQueue = loop :: rest) :
    sender.Active source ∧ unstarted receiver path = false := by
  have notWaiting : ¬ sender.Waiting source := by
    intro waiting
    rw [waiting.noLoop] at queue
    contradiction
  cases intact.stage with
  | offered waiting => exact absurd waiting notWaiting
  | accepted destination whole receiving pending waiting => exact absurd waiting notWaiting
  | running destination whole receiving notPending active =>
      exact ⟨active, by simp [unstarted, notPending]⟩

theorem sender_taken (balanced : Balanced sender receiver source path history)
    (intact : Intact sender receiver transfer source path)
    (allowed : Allowed sender input)
    (effect : RTCClient.Effect sender input next calls) :
    Balanced next receiver source path (history ++ events .A sender next calls) := by
  have role := intact.flow.senderRole
  by_cases isMain : input = .runMain
  · subst isMain
    have tally := tally_of_runMain intact.senderRegular effect
    have sameLoops : next.fileQueue = sender.fileQueue := by
      rcases fileQueue_of_effect effect with same | ⟨_, _, _, -, isReceive, -⟩ | ⟨_, _, _, isRun, -⟩
      · exact same
      · contradiction
      · contradiction
    have sameChunks : ∀ data tag, ⟨.binary data, tag⟩ ∈ next.outgoing → data ≠ [] := by
      intro data tag member
      rcases mem_outgoing_of_effect effect member with old | emitted
      · exact balanced.chunks data tag old
      · contradiction
    exact balanced.sender_acted tally (by rw [loopAhead, sameLoops, loopAhead, Nat.add_zero])
      (by rw [doneAhead, untold, sameLoops, doneAhead, untold, Nat.add_zero]) sameChunks
  · cases effect with
    | looped given loop rest queue =>
        obtain ⟨active, started⟩ := active_of_loop intact queue
        have calm : loop.point.Undisturbed given := allowed loop (by rw [queue]; rfl)
        have paid := active.pays role intact.flow.bounded intact.senderRegular.isOpen
          intact.notCancelled queue calm
        refine balanced.sender_acted
          (tally_of_loop intact.senderRegular.isOpen loop.transfer _ loop.point) ?_ ?_
          (balanced.chunks_looped active (.looped given loop rest queue))
        · rw [loopAhead, loopAhead, started]
          exact paid.1
        · rw [doneAhead, doneAhead, started]
          exact paid.2
    | accepted destination accepts | unopened destination error accepts =>
        rw [role.not_canAccept] at accepts
        contradiction
    | nothing =>
        exact balanced.sender_acted (⟨Nat.zero_add _, rfl⟩ : Tally sender sender [] 0 0) rfl rfl
          balanced.chunks
    | iceChanged newState lost =>
        have kept : newState.isLost = false := allowed
        rw [kept] at lost
        contradiction
    | reported | iceLost | iceIdle | cleaned => exact absurd rfl isMain
    | began | cancelled | rejected | greeted | busy | offered | started | ended | writeFailed
    | stored | completed | transmitted | channelChanged => exact allowed.elim

/-! ## The sender receives -/

theorem dones_delivered {client : RTCClient} {packet : Packet} {rest : List Packet}
    (queue : client.outgoing = packet :: rest) :
    client.dones = { client with outgoing := rest }.dones +
      (if packet.message.isDone then 1 else 0) :=
  count_delivered queue Message.isDone

/-- No delegate hears of a finish when a packet is delivered. -/
theorem finishes_delivered (side owner : Side) (packet : Packet) (client next : RTCClient) :
    finishes side (.delivered owner packet :: events owner client next []) = 0 := by
  rw [finishes, List.countP_cons_of_neg Bool.false_ne_true]
  show finishes side (events owner client next []) = 0
  rw [finishes_events]
  split <;> rfl

/-- A packet of the receiver reaches the sender: an `ft_done` requests a cleanup, and
nothing is told. -/
theorem sender_informed (balanced : Balanced sender receiver source path history)
    {packet : Packet} {rest : List Packet}
    (queue : receiver.outgoing = packet :: rest)
    (tally : Tally sender next [] (if packet.message.isDone then 1 else 0) 0)
    (sameChunks : next.outgoing = sender.outgoing)
    (loops : loopAhead next { receiver with outgoing := rest } path =
      loopAhead sender receiver path)
    (dones : doneAhead next { receiver with outgoing := rest } path =
      doneAhead sender receiver path) :
    Balanced next { receiver with outgoing := rest } source path
      (history ++ (.delivered .A packet :: events .A sender next [])) := by
  have cleanupsPaid := tally.cleanups
  have donesPaid := tally.dones
  have delivered := dones_delivered queue
  have atSender := balanced.atSender
  have atReceiver := balanced.atReceiver
  have sameCompletion : completionAhead { receiver with outgoing := rest } source path =
      completionAhead receiver source path := by
    cases path <;> rfl
  have sameCleanups : { receiver with outgoing := rest }.cleanups = receiver.cleanups := rfl
  refine ⟨?_, ?_, ?_⟩
  · rw [finishes_append, finishes_delivered, sameCompletion, loops]
    rw [List.countP_nil, Nat.zero_add] at cleanupsPaid
    omega
  · rw [finishes_append, finishes_delivered, sameCompletion, sameCleanups, dones]
    omega
  · rw [sameChunks]
    exact balanced.chunks

/-- Nothing but the accept changes what is expected of the loop. -/
theorem ahead_of_packet (path : Option String) {packet : Packet} {rest : List Packet}
    (queue : receiver.outgoing = packet :: rest)
    (notAccept : packet.message.isAccept = false)
    (sameLoops : next.fileQueue = sender.fileQueue) :
    loopAhead next { receiver with outgoing := rest } path = loopAhead sender receiver path ∧
      doneAhead next { receiver with outgoing := rest } path =
        doneAhead sender receiver path := by
  have same : unstarted { receiver with outgoing := rest } path = unstarted receiver path := by
    rw [unstarted, unstarted, acceptPending_delivered queue notAccept]
  constructor
  · rw [loopAhead, loopAhead, same, sameLoops]
  · rw [doneAhead, doneAhead, same, untold, untold, sameLoops]

/-- The accept starts the loop that was expected. -/
theorem started (balanced : Balanced sender receiver source path history)
    (intact : Intact sender receiver transfer source path)
    {tag : Option TransferId} {rest : List Packet}
    (queue : receiver.outgoing = ⟨.ftAccept, tag⟩ :: rest)
    (effect : RTCClient.Effect sender (.receive ⟨.ftAccept, tag⟩ .written) next []) :
    Balanced next { receiver with outgoing := rest } source path
      (history ++ (.delivered .A ⟨.ftAccept, tag⟩ :: events .A sender next [])) := by
  have stage := intact.stage.started intact.flow queue effect
  have counted := count_delivered queue Message.isAccept
  simp only [Message.isAccept, if_true] at counted
  have wasPending : receiver.acceptPending = true := by
    simp only [acceptPending, decide_eq_true_eq]
    omega
  have expected : unstarted receiver path = true := by
    rw [unstarted, wasPending, Bool.or_true]
  cases effect with
  | nothing _ _ notReceived =>
      have notWaiting : sender.sendHandle ≠ none := by
        cases intact.stage with
        | offered waiting | accepted _ _ _ _ waiting =>
            obtain ⟨handle, sending, -⟩ := waiting.sending
            rw [sending]
            exact Option.some_ne_none handle
        | running destination whole receiving notPending =>
            rw [wasPending] at notPending
            contradiction
      rcases notReceived _ _ rfl with ⟨-, notSending⟩ | ⟨data, isBinary, -⟩
      · exact absurd notSending notWaiting
      · contradiction
  | ended _ _ _ _ ends => contradiction
  | started handle _ _ sending =>
      cases stage with
      | running destination whole receiving notPending active =>
          have noLoop : sender.fileQueue = [] := by
            cases intact.stage with
            | accepted _ _ _ _ waiting => exact waiting.noLoop
            | running _ _ _ notPending =>
                rw [wasPending] at notPending
                contradiction
          have begins : unstarted { receiver with outgoing := rest } (some destination) =
              false := by
            rw [unstarted, notPending]
            rfl
          have tally : Tally sender (sender.startSendingLoop handle.transfer) [] 0 0 :=
            ⟨Nat.zero_add _, rfl⟩
          apply balanced.sender_informed queue tally rfl
          · rw [loopAhead, loopAhead, begins, expected]
            simp [startSendingLoop, noLoop]
          · rw [doneAhead, doneAhead, begins, expected]
            simp [untold, startSendingLoop, noLoop, LoopPoint.finishing]
      | offered waiting =>
          have running := waiting.noLoop
          simp [startSendingLoop] at running
      | accepted destination whole receiving pending waiting =>
          have running := waiting.noLoop
          simp [startSendingLoop] at running

theorem sender_receives (balanced : Balanced sender receiver source path history)
    (intact : Intact sender receiver transfer source path)
    {packet : Packet} {rest : List Packet}
    (queue : receiver.outgoing = packet :: rest)
    (effect : RTCClient.Effect sender (.receive packet .written) next []) :
    Balanced next { receiver with outgoing := rest } source path
      (history ++ (.delivered .A packet :: events .A sender next [])) := by
  have fromReceiver : packet.FromReceiver := by
    apply intact.flow.receiverRole.packets
    rw [queue]
    exact List.mem_cons_self
  obtain ⟨regularPacket, -⟩ := Regular.delivered intact.receiverRegular queue
  obtain ⟨message, tag⟩ := packet
  cases message with
  | ftAccept => exact balanced.started intact queue effect
  | hello name ip role =>
      obtain rfl := next_of_hello effect
      obtain ⟨loops, dones⟩ := ahead_of_packet path queue rfl
        (rfl : (sender.receiveHello name ip role).fileQueue = sender.fileQueue)
      refine balanced.sender_informed queue ⟨?_, rfl⟩ rfl loops dones
      simp [cleanups, receiveHello, dispatchMain, MainBlock.isCleanup, Message.isDone]
  | ftDone =>
      obtain rfl := next_of_ftDone effect
      obtain ⟨loops, dones⟩ := ahead_of_packet path queue rfl
        (rfl : (sender.cleanupTransferWithError none tag true).fileQueue = sender.fileQueue)
      refine balanced.sender_informed queue ⟨?_, rfl⟩ rfl loops dones
      simp [cleanups, cleanupTransferWithError_eq, MainBlock.isCleanup, Message.isDone]
  | ftReject | ftCancel => exact regularPacket.elim
  | ftOffer | binary => exact fromReceiver.elim

/-! ## The receiver takes an input -/

theorem receiver_acted (balanced : Balanced sender receiver source path history)
    {reached : Option String} (tally : Tally receiver next calls 0 0)
    (completion : completionAhead next source reached = completionAhead receiver source path)
    (pending : unstarted next reached = unstarted receiver path) :
    Balanced sender next source reached (history ++ events .B receiver next calls) := by
  have cleanupsPaid := tally.cleanups
  have donesPaid := tally.dones
  have atSender := balanced.atSender
  have atReceiver := balanced.atReceiver
  have sameLoop : loopAhead sender next reached = loopAhead sender receiver path := by
    rw [loopAhead, loopAhead, pending]
  have sameDone : doneAhead sender next reached = doneAhead sender receiver path := by
    rw [doneAhead, doneAhead, pending]
  refine ⟨?_, ?_, balanced.chunks⟩
  · rw [finishes_append, finishes_events, if_neg (by decide), completion, sameLoop]
    omega
  · rw [finishes_append, finishes_events, if_pos rfl, completion, sameDone]
    omega

theorem completionAhead_congr (path : Option String) (sameDisk : next.disk = receiver.disk) :
    completionAhead next source path = completionAhead receiver source path := by
  cases path with
  | none => rfl
  | some destination => rw [completionAhead, completionAhead, sameDisk]

/-- An input that opens no destination leaves the path as it is. -/
theorem intact_kept
    (intact : Intact sender receiver transfer source path)
    (possible : Possible receiver input)
    (allowed : Allowed receiver input)
    (effect : RTCClient.Effect receiver input next calls)
    (kept : next.recvHandle = receiver.recvHandle ∨ next.recvHandle = none) :
    Intact sender next transfer source path := by
  rcases intact.receiver_taken possible allowed effect with
    ⟨same, -⟩ | ⟨handle, rfl, receiving, -⟩
  · exact same
  · have notReceiving := Unopened.notReceiving intact.flow.phase
    rw [receiving, notReceiving] at kept
    simp at kept

theorem receiver_taken (balanced : Balanced sender receiver source path history)
    (intact : Intact sender receiver transfer source path)
    (possible : Possible receiver input)
    (allowed : Allowed receiver input)
    (effect : RTCClient.Effect receiver input next calls) :
    ∃ reached, Intact sender next transfer source reached ∧
      Balanced sender next source reached (history ++ events .B receiver next calls) := by
  cases effect with
  | accepted destination accepts opens =>
      have notReceiving : receiver.recvHandle = none := by
        simp only [canAccept, Bool.and_eq_true, Option.isNone_iff_eq_none] at accepts
        exact accepts.2
      rcases intact.receiver_taken possible allowed (.accepted destination accepts opens) with
        ⟨-, same | released⟩ | ⟨handle, rfl, isReceiving, after⟩
      · dsimp only at same
        rw [notReceiving] at same
        contradiction
      · contradiction
      · obtain rfl := Option.some.inj isReceiving
        refine ⟨_, after, balanced.receiver_acted ⟨Nat.zero_add _, ?_⟩ ?_ ?_⟩
        · exact dones_of_queued rfl
        · -- The destination is empty, and the file is not.
          have incomplete : Function.update receiver.disk destination.path []
              destination.path ≠ source := by
            rw [Function.update_self]
            exact intact.flow.nonempty.symm
          exact if_neg incomplete
        · have queued := queued_of_isOpen intact.receiverRegular.isOpen
            ⟨.ftAccept, receiver.incomingTransfer⟩
          simp [unstarted, acceptPending, count, queued, Message.isAccept]
  | reported block rest call queue reports notFinish =>
      have effect : RTCClient.Effect receiver .runMain
          { receiver with mainQueue := rest } [call] :=
        .reported block rest call queue reports notFinish
      exact ⟨path, intact_kept intact possible allowed effect (.inl rfl),
        balanced.receiver_acted (tally_of_runMain intact.receiverRegular effect)
          (completionAhead_congr path rfl) rfl⟩
  | cleaned error request rest queue =>
      have effect : RTCClient.Effect receiver .runMain
          { receiver with mainQueue := rest }.resetTransfer _ :=
        .cleaned error request rest queue
      exact ⟨path, intact_kept intact possible allowed effect (.inr rfl),
        balanced.receiver_acted (tally_of_runMain intact.receiverRegular effect)
          (completionAhead_congr path rfl) rfl⟩
  | nothing =>
      exact ⟨path, intact, balanced.receiver_acted ⟨Nat.zero_add _, rfl⟩ rfl rfl⟩
  | looped given loop rest queue =>
      rw [intact.flow.receiverRole.noLoop] at queue
      contradiction
  | unopened destination error accepts fails =>
      have opens : destination.openError = none := allowed
      rw [opens] at fails
      contradiction
  | iceLost rest queue | iceIdle rest queue =>
      have noLoss := intact.receiverRegular.blocks .iceConnectionLost (by simp [queue])
      exact noLoss.elim
  | iceChanged newState lost =>
      have kept : newState.isLost = false := allowed
      rw [kept] at lost
      contradiction
  | began | cancelled | rejected | greeted | busy | offered | started | ended | writeFailed
  | stored | completed | transmitted | channelChanged => exact allowed.elim

/-! ## The receiver receives -/

/-- A packet of the sender reaches the receiver. A completion that is expected pays the
cleanup it requests and the `ft_done` it sends; an `ft_done` under way pays a cleanup. -/
theorem receiver_informed (balanced : Balanced sender receiver source path history)
    (requested told : Nat) {packet : Packet} {rest : List Packet}
    (queue : sender.outgoing = packet :: rest)
    (tally : Tally receiver next [] requested told)
    (samePending : next.acceptPending = receiver.acceptPending)
    (completes : completionAhead next source path + told =
      completionAhead receiver source path)
    (informed : requested = told + if packet.message.isDone then 1 else 0) :
    Balanced { sender with outgoing := rest } next source path
      (history ++ (.delivered .B packet :: events .B receiver next [])) := by
  have cleanupsPaid := tally.cleanups
  have donesPaid := tally.dones
  have delivered := dones_delivered queue
  have atSender := balanced.atSender
  have atReceiver := balanced.atReceiver
  have same : unstarted next path = unstarted receiver path := by
    rw [unstarted, unstarted, samePending]
  have sameLoop : loopAhead { sender with outgoing := rest } next path =
      loopAhead sender receiver path := by
    rw [loopAhead, loopAhead, same]
  have sameDone : doneAhead { sender with outgoing := rest } next path =
      doneAhead sender receiver path := by
    rw [doneAhead, doneAhead, same]
    rfl
  have sameCleanups : { sender with outgoing := rest }.cleanups = sender.cleanups := rfl
  rw [List.countP_nil, Nat.zero_add] at cleanupsPaid
  refine ⟨?_, ?_, ?_⟩
  · rw [finishes_append, finishes_delivered, sameLoop, sameCleanups]
    omega
  · rw [finishes_append, finishes_delivered, sameDone]
    omega
  · intro data tag member
    apply balanced.chunks data tag
    rw [queue]
    exact List.mem_cons_of_mem _ member

/-- A chunk leaves the destination a beginning of the source, of the size that is
counted. -/
theorem written (intact : Intact sender receiver transfer source path)
    {data : Bytes} {tag : Option TransferId} {rest : List Packet}
    (queue : sender.outgoing = ⟨.binary data, tag⟩ :: rest)
    (samePending : next.acceptPending = receiver.acceptPending)
    {handle : WriteHandle} (isReceiving : receiver.recvHandle = some handle) :
    path = some handle.path ∧ receiver.recvTotalBytes = source.length ∧
      u64 (receiver.recvBytesReceived + data.length) =
        (receiver.disk handle.path ++ data).length ∧
      (receiver.disk handle.path ++ data).length ≤ source.length ∧
      ((receiver.disk handle.path ++ data).length = source.length →
        receiver.disk handle.path ++ data = source) := by
  cases path with
  | none =>
      rw [Unopened.notReceiving intact.flow.phase] at isReceiving
      contradiction
  | some destination =>
      obtain ⟨rfl, total⟩ := intact.flow.destination_of_receiving isReceiving
      have whole : receiver.disk handle.path ++
          (data ++ ahead { sender with outgoing := rest } next) = source := by
        have before := intact.stage.whole
        rw [ahead_delivered intact.senderRegular.isOpen queue samePending] at before
        exact before
      obtain ⟨counted, fits, reached, -⟩ :=
        intact.stage.receiving.chunk (by simp [isReceiving]) intact.flow.bounded whole
      exact ⟨rfl, total, counted, fits, reached⟩

theorem receiver_receives (balanced : Balanced sender receiver source path history)
    (intact : Intact sender receiver transfer source path)
    {packet : Packet} {rest : List Packet}
    (queue : sender.outgoing = packet :: rest)
    (effect : RTCClient.Effect receiver (.receive packet .written) next []) :
    Balanced { sender with outgoing := rest } next source path
      (history ++ (.delivered .B packet :: events .B receiver next [])) := by
  have samePending := acceptPending_of_receive effect
  obtain ⟨regularPacket, -⟩ := Regular.delivered intact.senderRegular queue
  have first : packet ∈ sender.outgoing := by
    rw [queue]
    exact List.mem_cons_self
  have fromSender := intact.flow.senderRole.packets packet first
  cases effect with
  | greeted name ip role =>
      refine balanced.receiver_informed 0 0 queue ⟨?_, rfl⟩ samePending
        (completionAhead_congr path rfl) rfl
      simp [cleanups, receiveHello, dispatchMain, MainBlock.isCleanup]
  | busy name size chunk =>
      exact balanced.receiver_informed 0 0 queue ⟨Nat.zero_add _, dones_of_queued rfl⟩
        samePending (completionAhead_congr path rfl) rfl
  | offered name size chunk =>
      refine balanced.receiver_informed 0 0 queue ⟨?_, rfl⟩ samePending
        (completionAhead_congr path rfl) rfl
      simp [cleanups, MainBlock.isCleanup]
  | started => exact fromSender.elim
  | ended message tag _ error ends =>
      have isDone : message.isDone = true := by
        cases message with
        | ftDone => rfl
        | ftReject | ftCancel => exact regularPacket.elim
        | hello | ftOffer | ftAccept | binary => contradiction
      refine balanced.receiver_informed 1 0 queue ⟨?_, rfl⟩ samePending
        (completionAhead_congr path rfl) ?_
      · simp [cleanups, cleanupTransferWithError_eq, MainBlock.isCleanup]
      · simp [isDone]
  | stored data tag handle isReceiving sized more =>
      obtain ⟨rfl, total, counted, fits, -⟩ := written intact queue samePending isReceiving
      have shorter : (receiver.disk handle.path ++ data).length < source.length := by
        rw [← counted, ← total]
        exact more
      have incomplete : receiver.disk handle.path ≠ source := by
        rintro complete
        rw [complete, List.length_append] at shorter
        omega
      have stillIncomplete : Function.update receiver.disk handle.path
          (receiver.disk handle.path ++ data) handle.path ≠ source := by
        rw [Function.update_self]
        intro complete
        rw [complete] at shorter
        exact Nat.lt_irrefl _ shorter
      refine balanced.receiver_informed 0 0 queue ⟨?_, rfl⟩ samePending ?_ rfl
      · simp [cleanups, MainBlock.isCleanup]
      · rw [completionAhead, completionAhead, if_neg stillIncomplete, if_neg incomplete]
  | completed data tag handle isReceiving sized enough =>
      obtain ⟨rfl, total, counted, fits, reached⟩ :=
        written intact queue samePending isReceiving
      have complete : Function.update receiver.disk handle.path
          (receiver.disk handle.path ++ data) handle.path = source := by
        rw [Function.update_self]
        apply reached
        omega
      -- The chunk is not empty, so the file was not complete before it.
      have incomplete : receiver.disk handle.path ≠ source := by
        intro wasComplete
        have nonempty : 0 < data.length :=
          List.length_pos_iff.mpr (balanced.chunks data tag first)
        rw [wasComplete, List.length_append] at fits
        omega
      refine balanced.receiver_informed 1 1 queue ⟨?_, ?_⟩ samePending ?_ rfl
      · simp [cleanups, MainBlock.isCleanup]
      · have queued := queued_of_isOpen intact.receiverRegular.isOpen
          ⟨.ftDone, handle.transfer⟩
        simp [dones, count, queued, Message.isDone]
      · rw [completionAhead, completionAhead, if_pos complete, if_neg incomplete]
  | nothing _ _ notReceived =>
      have notDone : packet.message.isDone = false := by
        rcases notReceived _ _ rfl with ⟨isAccept, -⟩ | ⟨data, isBinary, -⟩
        · rw [isAccept]
          rfl
        · rw [isBinary]
          rfl
      exact balanced.receiver_informed 0 0 queue ⟨Nat.zero_add _, rfl⟩ samePending rfl
        (by simp [notDone])

/-! ## Whole runs -/

/-- After the offer each side expects two notifications. -/
theorem begin
    (senderIdle : sender.Idle) (receiverIdle : receiver.Idle)
    (fileURL : FileURL) (file : File) :
    Balanced (sender.beginSending fileURL file) receiver source none [] := by
  have offered : (sender.beginSending fileURL file).outgoing =
      [⟨.ftOffer (fileURL.lastPathComponent.getD "file") (u64 fileURL.fileSize) chunkSize,
        some ⟨sender.clientId, sender.begun⟩⟩] := by
    rw [beginSending_eq]
    dsimp only
    rw [queued_of_isOpen senderIdle.isOpen, senderIdle.outgoing, List.nil_append]
  have sameMain : (sender.beginSending fileURL file).mainQueue = [] := by
    rw [beginSending_eq]
    exact senderIdle.mainQueue
  refine ⟨?_, ?_, ?_⟩
  · simp [finishes, cleanups, sameMain, dones, count, receiverIdle.outgoing, completionAhead,
      loopAhead, unstarted]
  · simp [finishes, cleanups, receiverIdle.mainQueue, dones, count, offered, Message.isDone,
      completionAhead, doneAhead, unstarted]
  · intro data tag member
    rw [offered] at member
    simp at member

/-- **Every undisturbed run keeps the balance.** -/
theorem of_run {start final : Session} {actions : List Action}
    (intact : Intact (start .A) (start .B) transfer source none)
    (balanced : Balanced (start .A) (start .B) source none [])
    (run : Machine.Run Session.step Undisturbed start actions history final) :
    ∃ path, Intact (final .A) (final .B) transfer source path ∧
      Balanced (final .A) (final .B) source path history := by
  apply run.invariant fun history session =>
    ∃ path, Intact (session .A) (session .B) transfer source path ∧
      Balanced (session .A) (session .B) source path history
  · exact ⟨none, intact, balanced⟩
  · intro history session action following fresh holds allowed stepped
    obtain ⟨path, intact, balanced⟩ := holds
    cases effect_of_step stepped with
    | taken side input next calls possible effect =>
        cases side with
        | A =>
            rw [Function.update_self, Function.update_of_ne (by decide)]
            exact ⟨path, intact.sender_taken possible allowed effect,
              balanced.sender_taken intact allowed effect⟩
        | B =>
            rw [Function.update_self, Function.update_of_ne (by decide)]
            exact balanced.receiver_taken intact possible allowed effect
    | delivered side outcome packet rest next queue isOpen effect =>
        obtain rfl : outcome = .written := allowed
        cases side with
        | A =>
            rw [Function.update_self, Function.update_of_ne (by decide)]
            exact ⟨path, intact.sender_receives queue effect,
              balanced.sender_receives intact queue effect⟩
        | B =>
            rw [Function.update_self, Function.update_of_ne (by decide)]
            exact ⟨path, intact.receiver_receives queue effect,
              balanced.receiver_receives intact queue effect⟩

/-- When nothing is left to run, everything expected has been delivered. -/
theorem quiescent {destination : String}
    (balanced : Balanced sender receiver source (some destination) history)
    (complete : receiver.disk destination = source)
    (senderQuiescent : sender.Quiescent) (receiverQuiescent : receiver.Quiescent) :
    ∀ side, finishes side history = 2 := by
  have atSender := balanced.atSender
  have atReceiver := balanced.atReceiver
  simp only [cleanups, dones, count, unstarted, acceptPending, completionAhead, complete,
    loopAhead, doneAhead, untold, senderQuiescent.mainQueue, senderQuiescent.outgoing,
    senderQuiescent.fileQueue, receiverQuiescent.mainQueue, receiverQuiescent.outgoing,
    List.countP_nil, List.length_nil, Nat.lt_irrefl, decide_false, Option.isNone_some,
    Bool.or_self, Bool.false_eq_true, if_false, if_true, Nat.add_zero] at atSender atReceiver
  intro side
  cases side with
  | A => exact atSender
  | B => exact atReceiver

end Balanced

/-- **An undisturbed transfer finishes twice at each side.** Two idle clients are joined by
an open channel and `A` sends a nonempty file. Whatever the chunks, the retries within
their bound, and the order in which the loop, the callbacks and both main queues run: when
`B` has opened a destination, nothing disturbs the transfer and nothing is left to run,
each delegate has heard of exactly two finishes, so in no such run of exactly one. -/
theorem undisturbed_transfer_finishes_twice
    {start middle final : Session} {fileURL : FileURL} {file : File}
    {began history : List Event} {actions : List Action}
    (idle : ∀ side, (start side).Idle)
    (readable : fileURL.handle = .ok file)
    (nonempty : file.bytes ≠ [])
    (sized : fileURL.fileSize = file.bytes.length)
    (sent : start.step (.take .A (.sendFileAtURL fileURL)) = some (middle, began))
    (run : Machine.Run Session.step Undisturbed middle actions history final)
    {tag : Option TransferId} {destination : String}
    (accepted : .opened .B tag destination ∈ history)
    (quiescent : ∀ side, (final side).Quiescent) :
    (∀ side, finishes side history = 2) ∧ ¬ ∀ side, finishes side history = 1 := by
  obtain ⟨begun, offered⟩ := Intact.of_sent idle readable nonempty sized sent
  have balanced : Balanced (middle .A) (middle .B) file.bytes none [] := by
    rw [begun, Function.update_self, Function.update_of_ne (by decide)]
    exact Balanced.begin (idle .A) (idle .B) fileURL file
  obtain ⟨path, intact, balanced⟩ := Balanced.of_run offered balanced run
  have twice : ∀ side, finishes side history = 2 := by
    cases path with
    | none =>
        -- The sender would still wait, but its transfer was accepted and is over.
        obtain ⟨opened, holds⟩ := Undisturbed.Holds.of_run offered run
        obtain rfl := holds.opened tag destination accepted
        obtain ⟨-, released, -⟩ := holds.intact.quiescent (quiescent .A) (quiescent .B)
        cases intact.stage with
        | offered waiting =>
            obtain ⟨handle, sending, -⟩ := waiting.sending
            rw [released.notSending] at sending
            contradiction
    | some destination =>
        obtain ⟨complete, -⟩ := intact.quiescent (quiescent .A) (quiescent .B)
        exact balanced.quiescent complete (quiescent .A) (quiescent .B)
  refine ⟨twice, ?_⟩
  intro once
  have both := (twice .A).symm.trans (once .A)
  contradiction

/-- The run in which the receiver's `ft_done` overtakes the loop. -/
theorem undisturbed_transfer_finishes_twice_overtaken :
    ∃ middle began history final,
      joined.step (.take .A (.sendFileAtURL (.ofFile "notes.txt" notes))) =
        some (middle, began) ∧
      Machine.Run Session.step Undisturbed middle overtaken history final ∧
      ∀ side, finishes side history = 2 := by
  obtain ⟨final, history, run, accepted, quiescent⟩ := overtaken_run
  have nonempty : notes.bytes ≠ [] := by decide
  have twice := undisturbed_transfer_finishes_twice joined_idle rfl nonempty rfl joined_sends run
    accepted quiescent
  exact ⟨_, _, history, final, joined_sends, run, twice.1⟩

/-- Each delegate hears of two finishes of one undisturbed transfer. -/
theorem undisturbed_transfer_finishes_again :
    ∃ middle began history final,
      joined.step (.take .A (.sendFileAtURL (.ofFile "notes.txt" notes))) =
        some (middle, began) ∧
      Machine.Run Session.step Undisturbed middle overtaken history final ∧
      (∀ side, (final side).Quiescent) ∧
      ¬ ∀ side, finishes side history = 1 := by
  obtain ⟨final, history, run, checked⟩ :
      ∃ final history,
        Machine.Run Session.step Undisturbed offeredNotes overtaken history final ∧
        decide (finishes .A history = 2 ∧ finishes .B history = 2 ∧
          ∀ side ∈ [Side.A, Side.B], (final side).outgoing = [] ∧
            (final side).fileQueue = [] ∧ (final side).mainQueue = []) = true :=
    Machine.run_of_exec_any (fun (final : Session) (history : List Event) =>
      decide (finishes .A history = 2 ∧ finishes .B history = 2 ∧
        ∀ side ∈ [Side.A, Side.B], (final side).outgoing = [] ∧
          (final side).fileQueue = [] ∧ (final side).mainQueue = []))
      (by decide)
  obtain ⟨twice, -, quiet⟩ := of_decide_eq_true checked
  refine ⟨_, _, history, final, joined_sends, run, ?_, ?_⟩
  · intro side
    obtain ⟨outgoing, fileQueue, mainQueue⟩ := quiet side (by cases side <;> decide)
    exact ⟨outgoing, fileQueue, mainQueue⟩
  · intro once
    have both := twice.symm.trans (once .A)
    contradiction

end Session

end WebrtcFileSender
