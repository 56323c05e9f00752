import WebrtcFileSender.Client.LoopRun
import WebrtcFileSender.Library.Weight
import WebrtcFileSender.Session.Undisturbed

/-!
Contract: a session that is left to itself comes to rest.

Deliveries, blocks of the main queue and loop statements bring forth each other: a chunk
that arrives queues its progress and, when it is the last, an `ft_done`, which requests
a cleanup at the other end; an `ft_accept` starts a loop that sends chunks.

Owns: the work that a session has before it, which every such step lowers whatever the
channel and the file systems answer; that a session without such a step is at rest; and
that an undisturbed transfer is carried through to its end.

The calls of the user and the changes of the connection are not steps of the session by
itself. Both main queues, both file queues and the network run whenever they can.
-/

namespace WebrtcFileSender

/-! ## Work -/

/-- A block may bring forth one other: a lost connection requests a cleanup. -/
def MainBlock.work : MainBlock → Nat
  | .iceConnectionLost => 2
  | .dataChannelStateDidChange _ | .didReceivePeerName _ _ _ | .didUpdateOnlinePeers _
  | .fileReceiveOffered | .fileReceiveProgress _ | .fileSendProgress _ | .cleanup _ _ => 1

/-- What the delivery of a message may bring forth. An `ft_accept` starts a loop, a
chunk may complete the file. -/
def Message.work : Message → Nat
  | .hello _ _ _ | .ftReject _ | .ftCancel | .ftDone => 2
  | .ftOffer _ _ _ => 3
  | .binary _ => 5
  | .ftAccept => 2864

def Packet.work (packet : Packet) : Nat :=
  packet.message.work

def SendingLoop.rank (loop : SendingLoop) : Nat :=
  LoopRun.rank loop.point

open Weight

namespace RTCClient

/-- The work before a client. One statement of a loop brings forth at most a packet or a
block, which weigh less than the statement. -/
def work (client : RTCClient) : Nat :=
  total MainBlock.work client.mainQueue + total Packet.work client.outgoing +
    7 * (1000 * client.unread.length + total SendingLoop.rank client.fileQueue)

theorem work_pos (block : MainBlock) : 0 < block.work := by
  cases block <;> simp [MainBlock.work]

variable {client next : RTCClient} {calls : List DelegateCall}

/-- A closed channel takes no packet. -/
theorem work_queued (client : RTCClient) (packet : Packet) :
    total Packet.work (client.queued packet) ≤
      total Packet.work client.outgoing + packet.message.work := by
  unfold queued
  split
  · simp [Packet.work]
  · exact Nat.le_add_right _ _

/-! ## The main queue -/

theorem work_runMain (effect : Effect client .runMain next calls) : next.work < client.work := by
  cases effect with
  | reported block rest call queue =>
      have positive := work_pos block
      simp only [work, queue, total_cons, unread]
      omega
  | iceLost rest queue =>
      simp only [work, queue, total_cons, total_append, total_nil,
        MainBlock.work, unread]
      omega
  | iceIdle rest queue =>
      simp only [work, queue, total_cons, MainBlock.work, unread]
      omega
  | cleaned error request rest queue =>
      simp only [work, queue, total_cons, MainBlock.work, unread, resetTransfer,
        List.length_nil]
      omega
  | nothing _ _ _ _ notQueued => exact absurd rfl notQueued.2.1

/-! ## The file queue -/

/-- A statement lowers what the loop has left, also when the block returns. -/
theorem rank_loopStatement (client : RTCClient) (transfer : TransferId) (given : LoopInput)
    (point : LoopPoint) :
    1000 * (client.loopStatement transfer given point).1.unread.length +
        ((client.loopStatement transfer given point).2.map LoopRun.rank).getD 0 <
      1000 * client.unread.length + LoopRun.rank point := by
  have lower := LoopRun.measure_loopStatement client transfer given point
  cases continues : (client.loopStatement transfer given point).2 with
  | some following =>
      rw [continues] at lower
      exact lower
  | none =>
      -- The block returns from three of its statements, none of which reads.
      have sameUnread : (client.loopStatement transfer given point).1.unread = client.unread := by
        cases point with
        | entry | cancelledTest | finish => rfl
        | whileTest | waitTest | waitBody | openTest | read | retryTest | retryOpenTest
        | retrySend | okTest | addBytes | reportProgress | completeTest | sendDone =>
            simp only [loopStatement] at continues
            repeat' split at continues
            all_goals contradiction
      have positive : 0 < LoopRun.rank point := by
        cases point <;> simp only [LoopRun.rank] <;> omega
      rw [sameUnread]
      simpa using positive

theorem work_loopBlocks (client : RTCClient) (transfer : TransferId) (point : LoopPoint) :
    total MainBlock.work (client.loopBlocks transfer point) ≤ 1 := by
  cases point <;> simp [loopBlocks, MainBlock.work]

theorem work_outgoing_loopStatement (client : RTCClient) (transfer : TransferId)
    (given : LoopInput) (point : LoopPoint) :
    total Packet.work (client.loopStatement transfer given point).1.outgoing ≤
      total Packet.work client.outgoing + 5 := by
  cases point with
  | read =>
      simp only [loopStatement]
      split <;> simp
  | retrySend chunk retries =>
      have bounded := client.work_queued ⟨.binary chunk.data, some chunk.transfer⟩
      simp only [loopStatement]
      split
      · rw [sendData_eq]
        exact bounded
      · simp
  | sendDone =>
      have bounded := client.work_queued ⟨.ftDone, some transfer⟩
      simp only [loopStatement, sendControlJSON_eq]
      exact Nat.le_trans bounded (Nat.add_le_add_left (show 2 ≤ 5 by decide) _)
  | entry | whileTest | waitTest | waitBody | openTest | retryTest | retryOpenTest | okTest
  | addBytes | reportProgress | cancelledTest | completeTest | finish =>
      exact Nat.le_add_right _ _

theorem rank_advanceQueue (loop : SendingLoop) (rest : List SendingLoop)
    (following : Option LoopPoint) :
    total SendingLoop.rank (advanceQueue loop rest following) =
      (following.map LoopRun.rank).getD 0 + total SendingLoop.rank rest := by
  cases following <;> simp [advanceQueue, SendingLoop.rank]

theorem work_runFile {given : LoopInput} (effect : Effect client (.runFile given) next calls) :
    next.work < client.work := by
  cases effect with
  | looped _ loop rest queue =>
      have ranked := client.rank_loopStatement loop.transfer given loop.point
      have blocks := client.work_loopBlocks loop.transfer loop.point
      have packets := client.work_outgoing_loopStatement loop.transfer given loop.point
      simp only [work, queue, total_cons, rank_advanceQueue, SendingLoop.rank,
        mainQueue_of_loopStatement, total_append]
      simp only [unread] at ranked ⊢
      omega
  | nothing _ _ _ _ notQueued => exact absurd rfl (notQueued.2.2 given)

/-! ## A delivery -/

theorem work_receive {packet : Packet} {outcome : WriteOutcome}
    (effect : Effect client (.receive packet outcome) next calls) :
    next.work < client.work + packet.message.work := by
  cases effect with
  | greeted =>
      simp only [work, receiveHello, dispatchMain, total_append, total_cons,
        total_nil, MainBlock.work, Message.work, unread]
      omega
  | busy name size chunk transfer =>
      have queued := client.work_queued ⟨.ftReject "busy", transfer⟩
      simp only [Message.work] at queued
      simp only [work, Message.work, unread]
      omega
  | offered =>
      simp only [work, total_append, total_cons, total_nil, MainBlock.work,
        Message.work, unread]
      omega
  | started handle =>
      have entry : LoopRun.rank .entry = 409 := rfl
      simp only [work, startSendingLoop, total_append, total_cons, total_nil,
        SendingLoop.rank, entry, Message.work, unread]
      omega
  | ended message transfer _ error ends =>
      have weight : message.work = 2 := by
        cases message with
        | ftReject | ftCancel | ftDone => rfl
        | hello | ftOffer | ftAccept | binary => contradiction
      simp only [work, cleanupTransferWithError_eq, total_append, total_cons,
        total_nil, MainBlock.work, weight, unread]
      omega
  | writeFailed =>
      simp only [work, cleanupTransferWithError_eq, total_append, total_cons,
        total_nil, MainBlock.work, Message.work, unread]
      omega
  | stored =>
      simp only [work, total_append, total_cons, total_nil, MainBlock.work,
        Message.work, unread]
      omega
  | completed data transfer handle =>
      have queued := client.work_queued ⟨.ftDone, handle.transfer⟩
      simp only [Message.work] at queued
      simp only [work, total_append, total_cons, total_nil, MainBlock.work,
        Message.work, unread]
      omega
  | nothing =>
      have positive : 0 < packet.message.work := by
        cases packet.message <;> simp [Message.work]
      omega

end RTCClient
namespace Session

open RTCClient

variable {session following start final : Session} {action : Action}
  {actions : List Action} {fresh history : List Event}

/-! ## The session by itself -/

/-- A packet is delivered, or a main queue or a file queue runs. -/
def Internal (_ : Session) : Action → Prop
  | .deliver _ _ | .take _ .runMain | .take _ (.runFile _) => True
  | .take _ (.sendFileAtURL _) | .take _ .cancelFileTransfer
  | .take _ (.acceptIncomingFileToURL _) | .take _ (.rejectIncomingFileWithReason _)
  | .take _ (.receive _ _) | .take _ .transmit | .take _ (.iceConnectionState _)
  | .take _ (.dataChannelState _) => False

def work (session : Session) : Nat :=
  (session .A).work + (session .B).work

theorem work_update (session : Session) (side : Side) (next : RTCClient) :
    work (Function.update session side next) + (session side).work =
      session.work + next.work := by
  cases side with
  | A =>
      rw [work, work, Function.update_self, Function.update_of_ne (by decide)]
      omega
  | B =>
      rw [work, work, Function.update_self, Function.update_of_ne (by decide)]
      omega

theorem work_lowers (internal : Internal session action)
    (stepped : session.step action = some (following, fresh)) :
    following.work < session.work := by
  cases effect_of_step stepped with
  | taken side input next calls possible effect =>
      have accounts := work_update session side next
      cases input with
      | runMain =>
          have lower := work_runMain effect
          omega
      | runFile given =>
          have lower := work_runFile effect
          omega
      | sendFileAtURL | cancelFileTransfer | acceptIncomingFileToURL
      | rejectIncomingFileWithReason | receive | transmit | iceConnectionState
      | dataChannelState => exact internal.elim
  | delivered side outcome packet rest next queue isOpen effect =>
      have atPeer := work_update session side.peer { session side.peer with outgoing := rest }
      have atSide := work_update
        (Function.update session side.peer { session side.peer with outgoing := rest }) side next
      rw [Function.update_of_ne side.peer_ne.symm] at atSide
      have lower := work_receive effect
      have sent : (session side.peer).work =
          RTCClient.work { session side.peer with outgoing := rest } + packet.message.work := by
        simp only [RTCClient.work, queue, total_cons, Packet.work, unread]
        omega
      omega

/-- Nothing is left to run, and nothing is under way to an open end. -/
structure Settled (session : Session) : Prop where
  mainQueue : ∀ side, (session side).mainQueue = []
  fileQueue : ∀ side, (session side).fileQueue = []
  outgoing : ∀ side, (session side).isDataChannelOpen = true →
    (session side.peer).outgoing = []

/-! ## What is possible -/

theorem step_runMain {side : Side} {block : MainBlock} {rest : List MainBlock}
    (queue : (session side).mainQueue = block :: rest) :
    (session.step (.take side .runMain)).isSome = true := by
  simp [step, Possible, act, queue]

theorem step_runFile {side : Side} {loop : SendingLoop} {rest : List SendingLoop}
    (queue : (session side).fileQueue = loop :: rest) (given : LoopInput) :
    (session.step (.take side (.runFile given))).isSome = true := by
  have ran : ((session side).runLoop given).isSome = true := by
    simp only [runLoop, queue]
    split <;> rfl
  simpa [step, Possible, act] using ran

theorem step_deliver {side : Side} {packet : Packet} {rest : List Packet}
    (queue : (session side.peer).outgoing = packet :: rest)
    (isOpen : (session side).isDataChannelOpen = true) (outcome : WriteOutcome) :
    (session.step (.deliver side outcome)).isSome = true := by
  simp [step, queue, isOpen]

/-- What the environment answers to a loop that it does not disturb. -/
def promptly : LoopInput where
  bufferedAmount := 0
  readLength := chunkSize
  readError := false
  sendOk := true

theorem undisturbed_promptly (point : LoopPoint) : point.Undisturbed promptly := by
  cases point with
  | read => exact ⟨rfl, by decide⟩
  | retrySend => exact fun _ => rfl
  | entry | whileTest | waitTest | waitBody | openTest | retryTest | retryOpenTest | okTest
  | addBytes | reportProgress | cancelledTest | completeTest | sendDone | finish => trivial

/-- A session that is not at rest has a step by itself, and one that disturbs no
transfer. -/
theorem exists_step_of_not_settled (restless : ¬ Settled session) :
    ∃ action, Internal session action ∧ Undisturbed session action ∧
      (session.step action).isSome = true := by
  by_contra stuck
  push Not at stuck
  apply restless
  constructor
  case mainQueue =>
    intro side
    cases queue : (session side).mainQueue with
    | nil => rfl
    | cons block rest => exact absurd (step_runMain queue) (stuck _ trivial trivial)
  case fileQueue =>
    intro side
    cases queue : (session side).fileQueue with
    | nil => rfl
    | cons loop rest =>
        have allowed : Undisturbed session (.take side (.runFile promptly)) :=
          fun loop _ => undisturbed_promptly loop.point
        exact absurd (step_runFile queue promptly) (stuck _ trivial allowed)
  case outgoing =>
    intro side isOpen
    cases queue : (session side.peer).outgoing with
    | nil => rfl
    | cons packet rest =>
        exact absurd (step_deliver queue isOpen .written) (stuck _ trivial rfl)

theorem Settled.stuck (rests : Settled session) (internal : Internal session action) :
    session.step action = none := by
  cases action with
  | take side input =>
      cases input with
      | runMain => simp [step, Possible, act, rests.mainQueue side]
      | runFile given => simp [step, Possible, act, runLoop, rests.fileQueue side]
      | sendFileAtURL | cancelFileTransfer | acceptIncomingFileToURL
      | rejectIncomingFileWithReason | receive | transmit | iceConnectionState
      | dataChannelState => exact internal.elim
  | deliver side outcome =>
      cases queue : (session side.peer).outgoing with
      | nil => simp [step, queue]
      | cons packet rest =>
          have closed : (session side).isDataChannelOpen = false := by
            by_contra isOpen
            rw [Bool.not_eq_false] at isOpen
            rw [rests.outgoing side isOpen] at queue
            contradiction
          simp [step, queue, closed]

/-- **A session that is left to itself comes to rest.** From every state, whatever the
channel and the file systems answer and in whatever order things run: no more steps are
possible than the work of the state, and no step is possible exactly when the session is
at rest. -/
theorem session_comes_to_rest
    (run : Machine.Run Session.step Internal start actions history final) :
    actions.length ≤ start.work ∧
      ((∀ action, Internal final action → final.step action = none) ↔ Settled final) ∧
      ∃ later more rested,
        Machine.Run Session.step Internal final later more rested ∧ Settled rested := by
  have rests : ∀ session : Session,
      (∀ action, Internal session action → session.step action = none) ↔ Settled session := by
    intro session
    constructor
    · intro stuck
      by_contra restless
      obtain ⟨action, internal, -, enabled⟩ := exists_step_of_not_settled restless
      rw [stuck action internal] at enabled
      contradiction
    · intro rests action
      exact rests.stuck
  refine ⟨?_, rests final, ?_⟩
  · have bounded := run.length_le work work_lowers
    omega
  · obtain ⟨later, more, rested, onward, stuck⟩ :=
      Machine.Run.exists_stuck work work_lowers final
    exact ⟨later, more, rested, onward, (rests rested).mp stuck⟩

/-- The offer of `offeredNotes` is delivered; the session can be run to its rest. -/
theorem session_comes_to_rest_offered :
    ∃ history final,
      Machine.Run Session.step Internal offeredNotes [.deliver .B .written] history final ∧
        1 ≤ offeredNotes.work ∧
        ∃ later more rested,
          Machine.Run Session.step Internal final later more rested ∧ Settled rested := by
  have run : Machine.Run Session.step Internal offeredNotes [.deliver .B .written] _ _ :=
    .single trivial rfl
  obtain ⟨bounded, -, rests⟩ := session_comes_to_rest run
  exact ⟨_, _, run, bounded, rests⟩

/-! ## An undisturbed transfer -/

/-- The session by itself, undisturbed. -/
def Driven (session : Session) (action : Action) : Prop :=
  Internal session action ∧ Undisturbed session action

theorem Driven.stuck_iff :
    (∀ action, Driven session action → session.step action = none) ↔ Settled session := by
  constructor
  · intro stuck
    by_contra restless
    obtain ⟨action, internal, undisturbed, enabled⟩ := exists_step_of_not_settled restless
    rw [stuck action ⟨internal, undisturbed⟩] at enabled
    contradiction
  · intro rests action driven
    exact rests.stuck driven.1

/-- At rest between open ends, both clients are quiescent. -/
theorem Settled.quiescent (rests : Settled session)
    (isOpen : ∀ side, (session side).isDataChannelOpen = true) (side : Side) :
    (session side).Quiescent := by
  refine ⟨?_, rests.fileQueue side, rests.mainQueue side⟩
  have received := rests.outgoing side.peer (isOpen side.peer)
  rwa [side.peer_peer] at received

/-- **An undisturbed transfer is carried through.** `A` has sent a nonempty file between
idle clients and `B` has opened a destination. Whatever runs next and in whatever order,
as long as it disturbs nothing: only so many steps are possible, and when none is left
the destination holds the file and both clients are free again. -/
theorem undisturbed_transfer_completes
    {middle : Session} {fileURL : FileURL} {file : File} {began later : List Event}
    {steps : List Action} {reached : Session}
    (idle : ∀ side, (start side).Idle)
    (readable : fileURL.handle = .ok file)
    (nonempty : file.bytes ≠ [])
    (sized : fileURL.fileSize = file.bytes.length)
    (sent : start.step (.take .A (.sendFileAtURL fileURL)) = some (middle, began))
    (run : Machine.Run Session.step Undisturbed middle actions history final)
    {tag : Option TransferId} {destination : String}
    (accepted : .opened .B tag destination ∈ history)
    (onward : Machine.Run Session.step Driven final steps later reached) :
    steps.length ≤ final.work ∧
      ((∀ action, Driven reached action → reached.step action = none) →
        (reached .B).disk destination = file.bytes ∧ ∀ side, (reached side).Released) ∧
      ∃ others more rested,
        Machine.Run Session.step Driven reached others more rested ∧
          (rested .B).disk destination = file.bytes ∧ ∀ side, (rested side).Released := by
  have lowers : ∀ {session action following fresh}, Driven session action →
      session.step action = some (following, fresh) → work following < work session :=
    fun driven stepped => work_lowers driven.1 stepped
  -- Wherever an undisturbed run comes to rest, the transfer is complete.
  have complete : ∀ {others more rested},
      Machine.Run Session.step Driven final others more rested →
      (∀ action, Driven rested action → rested.step action = none) →
      (rested .B).disk destination = file.bytes ∧ ∀ side, (rested side).Released := by
    intro others more rested continued stuck
    obtain ⟨-, intact⟩ := Intact.of_sent idle readable nonempty sized sent
    have whole := run.trans (continued.mono fun _ _ driven => driven.2)
    obtain ⟨path, holds⟩ := Undisturbed.Holds.of_run intact whole
    obtain rfl := holds.opened tag destination (List.mem_append_left _ accepted)
    have isOpen : ∀ side, (rested side).isDataChannelOpen = true := by
      intro side
      cases side with
      | A => exact holds.intact.senderRegular.isOpen
      | B => exact holds.intact.receiverRegular.isOpen
    have quiescent := (Driven.stuck_iff.mp stuck).quiescent isOpen
    obtain ⟨arrived, senderReleased, receiverReleased⟩ :=
      holds.intact.quiescent (quiescent .A) (quiescent .B)
    refine ⟨arrived, ?_⟩
    intro side
    cases side with
    | A => exact senderReleased
    | B => exact receiverReleased
  refine ⟨?_, complete onward, ?_⟩
  · have bounded := onward.length_le work lowers
    omega
  · obtain ⟨others, more, rested, continued, stuck⟩ :=
      Machine.Run.exists_stuck work lowers reached
    exact ⟨others, more, rested, continued, complete (onward.trans continued) stuck⟩

/-- `B` is offered the file and opens a destination for it. -/
def accepting : List Action :=
  [.deliver .B .written, .take .B (.acceptIncomingFileToURL ⟨"Downloads/notes.txt", none⟩)]

theorem undisturbed_transfer_completes_notes :
    ∃ history final others more rested,
      Machine.Run Session.step Undisturbed offeredNotes accepting history final ∧
        Machine.Run Session.step Driven final others more rested ∧
        (rested .B).disk "Downloads/notes.txt" = [1, 2] ∧
        ∀ side, (rested side).Released := by
  obtain ⟨final, history, run, checked⟩ :
      ∃ final history,
        Machine.Run Session.step Undisturbed offeredNotes accepting history final ∧
        decide (.opened .B (some ⟨0, 0⟩) "Downloads/notes.txt" ∈ history) = true :=
    Machine.run_of_exec_any (fun (_ : Session) (history : List Event) =>
      decide (.opened .B (some ⟨0, 0⟩) "Downloads/notes.txt" ∈ history)) (by decide)
  have nonempty : notes.bytes ≠ [] := by decide
  obtain ⟨-, -, others, more, rested, continued, arrived, released⟩ :=
    undisturbed_transfer_completes joined_idle rfl nonempty rfl joined_sends run
      (of_decide_eq_true checked) .nil
  exact ⟨history, final, others, more, rested, run, continued, arrived, released⟩

end Session

end WebrtcFileSender
