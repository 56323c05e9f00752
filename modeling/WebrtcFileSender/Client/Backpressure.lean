import WebrtcFileSender.Client.Cancellation

/-!
Contract: how much of a file the channel has to hold for the sending loop.

The loop waits while more than the high watermark is buffered, but at most 200 times, and
not once the transfer is cancelled. The flag is cleared by the next send, also for a loop
that has left the wait because of it.

Owns: the file bytes that the channel holds, the two ways in which a chunk is handed over
above the watermark, and the bound on the buffer over whole runs.

Of `bufferedAmount` only this is used: it counts the file bytes that the channel holds,
whatever it counts beside them.
-/

namespace WebrtcFileSender

open RTCClient Weight

def Packet.fileBytes (packet : Packet) : Nat :=
  match packet.message with
  | .binary data => data.length
  | .hello _ _ _ | .ftOffer _ _ _ | .ftAccept | .ftReject _ | .ftCancel | .ftDone => 0

/-- The loop has left the wait and has not handed over its chunk. -/
def LoopPoint.passedWait : LoopPoint → Bool
  | .openTest | .read | .retryTest _ _ | .retryOpenTest _ _ | .retrySend _ _ => true
  | .entry | .whileTest | .waitTest _ | .waitBody _ | .okTest _ _ | .addBytes _
  | .reportProgress | .cancelledTest | .completeTest | .sendDone | .finish _ => false

/-- `waitedOut`: the loop goes on with the buffer above the high watermark because it has
waited 200 times. `resumed`: a send begins while a loop is still queued. -/
inductive Overrun where
  | waitedOut
  | resumed
deriving DecidableEq, Repr

namespace RTCClient

def bufferedFileBytes (client : RTCClient) : Nat :=
  total Packet.fileBytes client.outgoing

/-- The loop reads the amount that the channel holds. -/
def ReadsBuffer (client : RTCClient) : Input → Prop
  | .runFile given => client.bufferedFileBytes ≤ given.bufferedAmount
  | _ => True

instance (client : RTCClient) : (input : Input) → Decidable (client.ReadsBuffer input)
  | .runFile _ => inferInstanceAs (Decidable (_ ≤ _))
  | .sendFileAtURL _ | .cancelFileTransfer | .acceptIncomingFileToURL _
  | .rejectIncomingFileWithReason _ | .receive _ _ | .transmit | .runMain
  | .iceConnectionState _ | .dataChannelState _ => .isTrue trivial

def overrunsAt (client : RTCClient) (given : LoopInput) : LoopPoint → List Overrun
  | .waitTest iters =>
      if client.transferCancelled = false ∧ client.isDataChannelOpen ∧
          kBufferedAmountHighWatermark < given.bufferedAmount ∧ maxBackpressureWaits ≤ iters
      then [.waitedOut] else []
  | _ => []

def overruns (client : RTCClient) : Input → List Overrun
  | .runFile given =>
      match client.fileQueue with
      | [] => []
      | loop :: _ => client.overrunsAt given loop.point
  | .sendFileAtURL fileURL =>
      if client.sendSucceeds fileURL = true ∧ client.fileQueue ≠ [] then [.resumed] else []
  | _ => []

def metered (client : RTCClient) (input : Input) : Option (RTCClient × List Overrun) :=
  (client.act input).map fun (next, _) => (next, client.overruns input)

/-- A loop that has left the wait has room for its chunk, or will look at the flag, which
is set. -/
def Room (client : RTCClient) (count : Nat) (point : LoopPoint) : Prop :=
  point.passedWait = true →
    client.bufferedFileBytes ≤ kBufferedAmountHighWatermark + chunkSize * count ∨
      (client.transferCancelled = true ∧ point.committed = false)

variable {client next : RTCClient} {input : Input} {calls : List DelegateCall}

/-! ## The buffer -/

theorem fileBytes_queued (client : RTCClient) (packet : Packet) :
    total Packet.fileBytes (client.queued packet) ≤
      client.bufferedFileBytes + packet.fileBytes := by
  unfold bufferedFileBytes
  rcases client.queued_cases packet with added | same
  · rw [added]
    simp
  · rw [same]
    exact Nat.le_add_right _ _

/-- Only a statement of a loop adds file bytes. -/
theorem bufferedFileBytes_le (notStatement : ∀ given, input ≠ .runFile given)
    (effect : Effect client input next calls) :
    next.bufferedFileBytes ≤ client.bufferedFileBytes := by
  unfold bufferedFileBytes
  rcases outgoing_of_effect effect with
    ⟨packet, gone, -⟩ | ⟨dropped, -⟩ | ⟨packets, grown, emitted⟩
  · rw [gone, total_cons]
    exact Nat.le_add_left _ _
  · rw [dropped]
    exact Nat.zero_le _
  · have control : total Packet.fileBytes packets = 0 := by
      apply total_eq_zero
      intro packet member
      cases emitted packet member with
      | chunk given => exact absurd rfl (notStatement given)
      | _ => rfl
    rw [grown, total_append, control, Nat.add_zero]

/-- A channel that is not open holds nothing. -/
theorem dropped_of_effect
    (dropped : client.isDataChannelOpen = false → client.bufferedFileBytes = 0)
    (effect : Effect client input next calls) (notOpen : next.isDataChannelOpen = false) :
    next.bufferedFileBytes = 0 := by
  by_cases isStatement : ∃ given, input = .runFile given
  · obtain ⟨given, rfl⟩ := isStatement
    have same := readyState_of_effect (by simp) effect
    have wasClosed : client.isDataChannelOpen = false := by
      rw [isDataChannelOpen, ← same]
      exact notOpen
    cases effect with
    | nothing => exact dropped wasClosed
    | looped _ loop rest queue =>
        obtain ⟨handle, sent, packets, blocks, result, change⟩ :=
          client.loopStatement_change loop.transfer given loop.point
        rw [result, change.closed wasClosed]
        simpa [bufferedFileBytes] using dropped wasClosed
  · have lower := bufferedFileBytes_le (fun given isRun => isStatement ⟨given, isRun⟩) effect
    by_cases isCallback : ∃ state, input = .dataChannelState state
    · obtain ⟨state, rfl⟩ := isCallback
      cases effect with
      | nothing => exact dropped notOpen
      | channelChanged =>
          rcases client.dataChannelDidChangeState_cases state with
            ⟨name, ip, role, -, result⟩ | ⟨-, result⟩
          · rw [result] at notOpen
            contradiction
          · rw [result]
            rfl
    · have same := readyState_of_effect (fun state isState => isCallback ⟨state, isState⟩) effect
      have wasClosed : client.isDataChannelOpen = false := by
        rw [isDataChannelOpen, ← same]
        exact notOpen
      rw [dropped wasClosed] at lower
      exact Nat.le_zero.mp lower

/-! ## One statement -/

/-- A chunk has at most the size that was asked for. -/
theorem chunk_bounded {transfer : TransferId} {given : LoopInput} {point following : LoopPoint}
    (bounded : ∀ chunk, point.chunk? = some chunk → chunk.data.length ≤ chunkSize)
    (continues : (client.loopStatement transfer given point).2 = some following) :
    ∀ chunk, following.chunk? = some chunk → chunk.data.length ≤ chunkSize := by
  intro chunk holds
  rcases client.loopStatement_chunk continues holds with held | ⟨rfl, -⟩
  · exact bounded chunk held
  · simp only [loopStatement] at continues
    split at continues
    case h_1 =>
      obtain rfl := Option.some.inj continues
      contradiction
    case h_2 handle fresh result =>
      obtain rfl := Option.some.inj continues
      obtain rfl := Option.some.inj holds
      obtain ⟨old, -, -, -, isData, -⟩ := client.readChunk_spec result
      rw [isData, List.length_take]
      omega

theorem room_of_waiting {count : Nat} {point : LoopPoint} (waiting : point.passedWait = false) :
    client.Room count point := by
  intro passed
  rw [waiting] at passed
  contradiction

theorem room_of_le {count : Nat}
    (le : client.bufferedFileBytes ≤ kBufferedAmountHighWatermark + chunkSize * count)
    (point : LoopPoint) : client.Room count point :=
  fun _ => .inl le

section Statement

variable {count : Nat} {transfer : TransferId} {given : LoopInput} {point : LoopPoint}

/-- What a statement makes of the buffer, and of the room at the statement after it. -/
def RoomAfter (client : RTCClient) (count : Nat) (transfer : TransferId) (given : LoopInput)
    (point : LoopPoint) : Prop :=
  (client.loopStatement transfer given point).1.bufferedFileBytes ≤
      kBufferedAmountHighWatermark +
        chunkSize * (count + (client.overrunsAt given point).length + 1) ∧
    ∀ following, (client.loopStatement transfer given point).2 = some following →
      (client.loopStatement transfer given point).1.Room
        (count + (client.overrunsAt given point).length) following

variable
  (bound : client.bufferedFileBytes ≤
    kBufferedAmountHighWatermark + chunkSize * (count + 1))

include bound

/-- The wait is left with room for a chunk, or by the flag, or as an overrun. -/
theorem roomAfter_waitTest {iters : Nat}
    (reads : client.bufferedFileBytes ≤ given.bufferedAmount)
    (dropped : client.isDataChannelOpen = false → client.bufferedFileBytes = 0) :
    client.RoomAfter count transfer given (.waitTest iters) := by
  have more : chunkSize * (count + 1 + 1) = chunkSize * (count + 1) + chunkSize :=
    Nat.mul_succ _ _
  unfold RoomAfter
  by_cases waits : client.transferCancelled = false ∧ client.isDataChannelOpen ∧
      kBufferedAmountHighWatermark < given.bufferedAmount ∧ iters < maxBackpressureWaits
  · have within : ¬ maxBackpressureWaits ≤ iters := Nat.not_le.mpr waits.2.2.2
    simp only [loopStatement, overrunsAt, if_pos waits, within, and_false, if_false]
    refine ⟨bound, ?_⟩
    intro following continues
    obtain rfl := Option.some.inj continues
    exact room_of_waiting rfl
  · simp only [loopStatement, overrunsAt, if_neg waits]
    split
    case isTrue =>
      refine ⟨by rw [List.length_singleton]; omega, fun following _ => ?_⟩
      exact room_of_le bound following
    case isFalse notOut =>
      refine ⟨bound, ?_⟩
      intro following continues
      obtain rfl := Option.some.inj continues
      -- The wait is left for one of the three other reasons.
      cases cancelled : client.transferCancelled with
      | true => exact fun _ => .inr ⟨cancelled, rfl⟩
      | false =>
          apply room_of_le
          cases isOpen : client.isDataChannelOpen with
          | false =>
              rw [dropped isOpen]
              exact Nat.zero_le _
          | true =>
              have low : ¬ kBufferedAmountHighWatermark < given.bufferedAmount := by
                intro high
                rcases Nat.lt_or_ge iters maxBackpressureWaits with below | reached
                · exact waits ⟨cancelled, isOpen, high, below⟩
                · exact notOut ⟨cancelled, isOpen, high, reached⟩
              omega

theorem roomAfter_waitBody {iters : Nat}
    (reads : client.bufferedFileBytes ≤ given.bufferedAmount) :
    client.RoomAfter count transfer given (.waitBody iters) := by
  refine ⟨bound, ?_⟩
  intro following continues
  simp only [loopStatement] at continues ⊢
  split at continues
  case isTrue low =>
    apply room_of_le
    have ordered : kBufferedAmountLowWatermark ≤ kBufferedAmountHighWatermark := by decide
    omega
  case isFalse =>
    obtain rfl := Option.some.inj continues
    exact room_of_waiting rfl

theorem roomAfter_read (room : client.Room count .read) :
    client.RoomAfter count transfer given .read := by
  simp only [RoomAfter, loopStatement]
  split
  case h_1 =>
    refine ⟨bound, ?_⟩
    intro following continues
    obtain rfl := Option.some.inj continues
    exact room_of_waiting rfl
  case h_2 handle chunk result =>
    refine ⟨bound, ?_⟩
    intro following continues
    obtain rfl := Option.some.inj continues
    exact room

/-- The flag is looked at before a chunk is sent. -/
theorem roomAfter_retryTest {chunk : Chunk} {retries : Nat}
    (room : client.Room count (.retryTest chunk retries)) :
    client.RoomAfter count transfer given (.retryTest chunk retries) := by
  refine ⟨bound, ?_⟩
  intro following continues
  simp only [loopStatement] at continues
  split at continues
  case isTrue further =>
    apply room_of_le
    rcases room rfl with le | ⟨cancelled, -⟩
    · exact le
    · rw [further.2] at cancelled
      contradiction
  case isFalse =>
    obtain rfl := Option.some.inj continues
    exact room_of_waiting rfl

/-- A chunk that is sent takes the room there is. -/
theorem roomAfter_retrySend {chunk : Chunk} {retries : Nat}
    (fits : chunk.data.length ≤ chunkSize)
    (room : client.Room count (.retrySend chunk retries)) :
    client.RoomAfter count transfer given (.retrySend chunk retries) := by
  have more : chunkSize * (count + 1) = chunkSize * count + chunkSize := Nat.mul_succ _ _
  rcases room rfl with le | ⟨-, uncommitted⟩
  · simp only [RoomAfter, loopStatement]
    split
    case isTrue =>
      have queued := client.fileBytes_queued ⟨.binary chunk.data, some chunk.transfer⟩
      rw [sendData_eq]
      simp only [Packet.fileBytes] at queued
      refine ⟨Nat.le_trans queued (show _ ≤ _ + chunkSize * (count + 1) by omega), ?_⟩
      intro following continues
      obtain rfl := Option.some.inj continues
      exact room_of_waiting rfl
    case isFalse => exact ⟨bound, fun following _ => room_of_le le following⟩
  · contradiction

theorem room_of_statement
    (reads : client.bufferedFileBytes ≤ given.bufferedAmount)
    (dropped : client.isDataChannelOpen = false → client.bufferedFileBytes = 0)
    (bounded : ∀ chunk, point.chunk? = some chunk → chunk.data.length ≤ chunkSize)
    (room : client.Room count point) :
    client.RoomAfter count transfer given point := by
  cases point with
  | waitTest => exact roomAfter_waitTest bound reads dropped
  | waitBody => exact roomAfter_waitBody bound reads
  | read => exact roomAfter_read bound room
  | retryTest => exact roomAfter_retryTest bound room
  | retrySend chunk => exact roomAfter_retrySend bound (bounded chunk rfl) room
  | retryOpenTest chunk retries =>
      refine ⟨bound, ?_⟩
      intro following continues
      rcases room rfl with le | ⟨-, uncommitted⟩
      · exact room_of_le le following
      · contradiction
  | openTest =>
      refine ⟨bound, ?_⟩
      intro following continues
      simp only [loopStatement] at continues
      split at continues
      case isTrue =>
        obtain rfl := Option.some.inj continues
        exact room
      case isFalse =>
        obtain rfl := Option.some.inj continues
        exact room_of_waiting rfl
  | entry | whileTest | cancelledTest | completeTest =>
      refine ⟨bound, ?_⟩
      intro following continues
      simp only [loopStatement] at continues
      repeat' split at continues
      all_goals
        first
          | contradiction
          | obtain rfl := Option.some.inj continues; exact room_of_waiting rfl
  | okTest chunk ok =>
      refine ⟨bound, ?_⟩
      intro following continues
      cases ok with
      | true =>
          obtain rfl := Option.some.inj continues
          exact room_of_waiting rfl
      | false =>
          obtain rfl := Option.some.inj continues
          exact room_of_waiting rfl
  | addBytes | reportProgress =>
      refine ⟨bound, ?_⟩
      intro following continues
      obtain rfl := Option.some.inj continues
      exact room_of_waiting rfl
  | sendDone =>
      have queued := client.fileBytes_queued ⟨.ftDone, some transfer⟩
      simp only [RoomAfter, loopStatement, sendControlJSON_eq]
      refine ⟨Nat.le_trans queued bound, ?_⟩
      intro following continues
      obtain rfl := Option.some.inj continues
      exact room_of_waiting rfl
  | finish => exact ⟨bound, by simp [loopStatement]⟩

end Statement

/-! ## One input -/

/-- The invariant of a run in which so many chunks may have been handed over above the
watermark. -/
structure Metered (count : Nat) (client : RTCClient) : Prop where
  wait : client.LoopsWait
  dropped : client.isDataChannelOpen = false → client.bufferedFileBytes = 0
  bounded : ∀ loop ∈ client.fileQueue, ∀ chunk, loop.point.chunk? = some chunk →
    chunk.data.length ≤ chunkSize
  room : ∀ loop ∈ client.fileQueue, client.Room count loop.point
  bound : client.bufferedFileBytes ≤ kBufferedAmountHighWatermark + chunkSize * (count + 1)

namespace Metered

variable {count : Nat}

theorem initial (clientId : Nat) (helloName : String) :
    Metered 0 (RTCClient.initial clientId helloName) := by
  constructor <;> simp [RTCClient.initial, LoopsWait, bufferedFileBytes]

/-- The room is kept, or a send has begun behind the back of a loop. -/
theorem room_of_effect (metered : Metered count client)
    (notStatement : ∀ given, input ≠ .runFile given)
    (effect : Effect client input next calls) {loop : SendingLoop}
    (member : loop ∈ client.fileQueue) :
    next.Room (count + (client.overruns input).length) loop.point := by
  have lower := bufferedFileBytes_le notStatement effect
  by_cases noNewSend : client.NoNewSend input
  · intro passed
    rcases metered.room loop member passed with le | ⟨cancelled, uncommitted⟩
    · left
      have more : chunkSize * count ≤ chunkSize * (count + (client.overruns input).length) :=
        Nat.mul_le_mul_left _ (Nat.le_add_right _ _)
      omega
    · exact .inr ⟨cancelled_of_effect cancelled noNewSend effect, uncommitted⟩
  · cases input with
    | sendFileAtURL fileURL =>
        have succeeds : client.sendSucceeds fileURL = true := by
          simpa [NoNewSend] using noNewSend
        have resumed : client.overruns (.sendFileAtURL fileURL) = [.resumed] :=
          if_pos ⟨succeeds, List.ne_nil_of_mem member⟩
        rw [resumed]
        exact room_of_le (Nat.le_trans lower metered.bound) _
    | cancelFileTransfer | acceptIncomingFileToURL | rejectIncomingFileWithReason | receive
    | transmit | runMain | runFile | iceConnectionState | dataChannelState =>
        exact absurd trivial noNewSend

theorem of_effect (metered : Metered count client) (reads : client.ReadsBuffer input)
    (effect : Effect client input next calls) :
    Metered (count + (client.overruns input).length) next := by
  have wait := metered.wait.of_effect effect
  have dropped := fun notOpen => dropped_of_effect metered.dropped effect notOpen
  by_cases isStatement : ∃ given, input = .runFile given
  · obtain ⟨given, rfl⟩ := isStatement
    cases effect with
    | nothing _ _ _ _ notQueued => exact absurd rfl (notQueued.2.2 given)
    | looped _ loop rest queue =>
        have isHead : loop ∈ client.fileQueue := by
          rw [queue]
          exact List.mem_cons_self
        have sameOverruns : client.overruns (.runFile given) =
            client.overrunsAt given loop.point := by
          simp only [overruns, queue]
        have after : client.RoomAfter count loop.transfer given loop.point :=
          room_of_statement metered.bound reads metered.dropped (metered.bounded loop isHead)
            (metered.room loop isHead)
        obtain ⟨bound, room⟩ := after
        rw [sameOverruns]
        refine ⟨wait, dropped, ?_, ?_, bound⟩
        · intro other member
          rcases mem_advanceQueue member with inRest | ⟨following, continues, rfl⟩
          · apply metered.bounded other
            rw [queue]
            exact List.mem_cons_of_mem _ inRest
          · exact chunk_bounded (metered.bounded loop isHead) continues
        · intro other member
          rcases mem_advanceQueue member with inRest | ⟨following, continues, rfl⟩
          · have atEntry : other.point = .entry := metered.wait other (by rwa [queue])
            rw [atEntry]
            exact room_of_waiting rfl
          · exact room following continues
  · have notStatement : ∀ given, input ≠ .runFile given :=
      fun given isRun => isStatement ⟨given, isRun⟩
    have lower := bufferedFileBytes_le notStatement effect
    have more : chunkSize * (count + 1) ≤
        chunkSize * (count + (client.overruns input).length + 1) :=
      Nat.mul_le_mul_left _ (by omega)
    have bound := metered.bound
    have queued : ∀ loop ∈ next.fileQueue, loop ∈ client.fileQueue ∨ loop.point = .entry := by
      intro loop member
      rcases fileQueue_of_effect effect with
        same | ⟨handle, tag, outcome, -, -, started⟩ | ⟨given, -, -, isRun, -⟩
      · exact .inl (same ▸ member)
      · rw [started] at member
        refine (List.mem_append.mp member).imp_right ?_
        intro new
        rw [List.mem_singleton.mp new]
      · exact absurd isRun (notStatement given)
    refine ⟨wait, dropped, ?_, ?_, by omega⟩
    · intro loop member chunk holds
      rcases queued loop member with old | atEntry
      · exact metered.bounded loop old chunk holds
      · rw [atEntry] at holds
        contradiction
    · intro loop member
      rcases queued loop member with old | atEntry
      · exact metered.room_of_effect notStatement effect old
      · rw [atEntry]
        exact room_of_waiting rfl

end Metered

end RTCClient

/-! ## Whole runs -/

/-- **The channel never has to hold much of a file.** In every run of a client whose loop
reads the amount that the channel holds, whatever the user and the peer do and however
loops, transmissions and callbacks are interleaved: the file bytes that wait in the channel
are at most the high watermark and one chunk, and one chunk more for each time that a loop
has waited 200 times in vain or that a send has begun while a loop was still queued. -/
theorem send_buffer_bounded {clientId : Nat} {helloName : String} {inputs : List Input}
    {overruns : List Overrun} {client : RTCClient}
    (run : Machine.Run RTCClient.metered ReadsBuffer (RTCClient.initial clientId helloName)
      inputs overruns client) :
    client.bufferedFileBytes ≤
      kBufferedAmountHighWatermark + chunkSize * (overruns.length + 1) := by
  have metered : Metered overruns.length client := by
    refine run.invariant (fun history state => Metered history.length state)
      (.initial clientId helloName) ?_
    intro history state input next fresh metered reads stepped
    simp only [RTCClient.metered, Option.map_eq_some_iff, Prod.mk.injEq, Prod.exists] at stepped
    obtain ⟨following, calls, acted, rfl, rfl⟩ := stepped
    rw [List.length_append]
    exact metered.of_effect reads (effect_of_act acted)
  exact metered.bound

/-- A cancelled loop is past its wait when a second file is sent, and goes on. -/
def resumedInputs : List Input :=
  [.dataChannelState .Open, .sendFileAtURL (.ofFile "notes.txt" ⟨[1, 2], File.bounded_notes⟩),
    .receive ⟨.ftAccept, none⟩ .written, .runFile ⟨0, 1, false, true⟩,
    .runFile ⟨0, 1, false, true⟩, .cancelFileTransfer,
    .runFile ⟨kBufferedAmountHighWatermark + 1, 1, false, true⟩, .runMain, .runMain,
    .sendFileAtURL (.ofFile "secret.txt" ⟨[7], File.bounded_secret⟩)] ++
    List.replicate 5 (.runFile ⟨0, 1, false, true⟩)

theorem send_buffer_bounded_resumed :
    ∃ overruns client, Machine.Run RTCClient.metered ReadsBuffer
        (RTCClient.initial 0 "mac#001") resumedInputs overruns client ∧
      overruns = [.resumed] ∧ client.bufferedFileBytes = 1 ∧
      client.bufferedFileBytes ≤ kBufferedAmountHighWatermark + chunkSize * 2 := by
  obtain ⟨client, overruns, run, checked⟩ :
      ∃ client overruns, Machine.Run RTCClient.metered ReadsBuffer
          (RTCClient.initial 0 "mac#001") resumedInputs overruns client ∧
        decide (overruns = [.resumed] ∧ client.bufferedFileBytes = 1) = true :=
    Machine.run_of_exec_any (fun (client : RTCClient) (overruns : List Overrun) =>
      decide (overruns = [.resumed] ∧ client.bufferedFileBytes = 1)) (by decide)
  obtain ⟨resumed, buffered⟩ := of_decide_eq_true checked
  refine ⟨overruns, client, run, resumed, buffered, ?_⟩
  have bounded := send_buffer_bounded run
  rwa [resumed] at bounded

end WebrtcFileSender
