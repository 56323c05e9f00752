import WebrtcFileSender.Client.Emission
import WebrtcFileSender.Library.Weight

/-!
Contract: what `cancelFileTransfer` stops, and how soon.

The cancel sets `transferCancelled` and only requests a cleanup. A running loop reads the
flag at four of its statements; a chunk that has passed the last of them is still sent,
and a loop that is past its test behind `while` runs to its end.

Owns: the statements that a loop has left once the flag is set, the chunk that it still
sends, and the bound on both for a whole run.

A `sendFileAtURL:error:` that succeeds clears the flag, also for loops of the transfer
before; the bound is on what happens until then.
-/

namespace WebrtcFileSender

open RTCClient Weight

/-! ## What a loop has left -/

/-- The statements that a loop makes at most, once the flag is set, until its block
returns. -/
def LoopPoint.windDown : LoopPoint → Nat
  | .finish _ | .cancelledTest => 1
  | .okTest _ false | .sendDone | .whileTest => 2
  | .entry | .retryTest _ _ | .reportProgress | .completeTest => 3
  | .read | .addBytes _ => 4
  | .openTest | .okTest _ true => 5
  | .waitTest _ | .retrySend _ _ => 6
  | .waitBody _ | .retryOpenTest _ _ => 7

/-- The loop holds a chunk that it sends without another look at the flag. -/
def LoopPoint.committed : LoopPoint → Bool
  | .retryOpenTest _ _ | .retrySend _ _ => true
  | .entry | .whileTest | .waitTest _ | .waitBody _ | .openTest | .read | .retryTest _ _
  | .okTest _ _ | .addBytes _ | .reportProgress | .cancelledTest | .completeTest | .sendDone
  | .finish _ => false

theorem LoopPoint.windDown_le (point : LoopPoint) : point.windDown ≤ 7 := by
  unfold windDown
  split <;> omega

namespace RTCClient

def Observation.isChunk : Observation → Bool
  | .sent ⟨.binary _, _⟩ => true
  | .sent _ | .delegate _ => false

def Input.isStatement : Input → Bool
  | .runFile _ => true
  | _ => false

def Input.isAccept : Input → Bool
  | .receive ⟨.ftAccept, _⟩ _ => true
  | _ => false

/-- No further file is sent. -/
def NoNewSend (client : RTCClient) : Input → Prop
  | .sendFileAtURL fileURL => client.sendSucceeds fileURL = false
  | _ => True

instance (client : RTCClient) : (input : Input) → Decidable (client.NoNewSend input)
  | .sendFileAtURL _ => inferInstanceAs (Decidable (_ = false))
  | .cancelFileTransfer | .acceptIncomingFileToURL _ | .rejectIncomingFileWithReason _
  | .receive _ _ | .transmit | .runMain | .runFile _ | .iceConnectionState _
  | .dataChannelState _ => .isTrue trivial

/-- The statements that all loops have left. -/
def windingDown (client : RTCClient) : Nat :=
  total (fun loop => loop.point.windDown) client.fileQueue

def committedChunks (client : RTCClient) : Nat :=
  client.fileQueue.countP fun loop => loop.point.committed

variable {client next : RTCClient} {input : Input} {calls : List DelegateCall}

/-! ## One statement -/

theorem windDown_loopStatement (cancelled : client.transferCancelled = true)
    (transfer : TransferId) (given : LoopInput) (point : LoopPoint) :
    ((client.loopStatement transfer given point).2.map LoopPoint.windDown).getD 0 <
      point.windDown := by
  cases point with
  | entry | whileTest | waitTest | waitBody | openTest | retryTest | retryOpenTest | retrySend
  | cancelledTest | completeTest =>
      simp only [loopStatement, cancelled, Bool.true_eq_false, false_and, and_false, if_false,
        if_true]
      repeat' split
      all_goals
        simp [LoopPoint.windDown]
  | read =>
      simp only [loopStatement]
      split <;> simp [LoopPoint.windDown]
  | okTest chunk ok =>
      cases ok <;> simp [loopStatement, LoopPoint.windDown]
  | addBytes | reportProgress | sendDone | finish => simp [loopStatement, LoopPoint.windDown]

/-- Once the flag is set, a loop gets no further than a chunk it was going to send. -/
theorem committed_loopStatement (cancelled : client.transferCancelled = true)
    {transfer : TransferId} {given : LoopInput} {point following : LoopPoint}
    (continues : (client.loopStatement transfer given point).2 = some following)
    (committed : following.committed = true) :
    ∃ chunk retries, point = .retryOpenTest chunk retries := by
  cases point with
  | retryOpenTest chunk retries => exact ⟨chunk, retries, rfl⟩
  | retryTest =>
      simp only [loopStatement, cancelled, Bool.true_eq_false, and_false, if_false] at continues
      obtain rfl := Option.some.inj continues
      contradiction
  | entry | whileTest | waitTest | waitBody | openTest | read | retrySend | okTest | addBytes
  | reportProgress | cancelledTest | completeTest | sendDone | finish =>
      simp only [loopStatement] at continues
      repeat' split at continues
      all_goals
        first
          | contradiction
          | obtain rfl := Option.some.inj continues; contradiction

/-! ## What one input does -/

/-- Only a successful send clears the flag. -/
theorem cancelled_of_effect (cancelled : client.transferCancelled = true)
    (noNewSend : client.NoNewSend input) (effect : Effect client input next calls) :
    next.transferCancelled = true := by
  cases effect with
  | began fileURL file isOpen notSending notReceiving sized opened =>
      have succeeds := sendSucceeds_of_idle isOpen notSending notReceiving sized opened
      have fails : client.sendSucceeds fileURL = false := noNewSend
      rw [succeeds] at fails
      contradiction
  | cancelled => rw [cancelFileTransfer_eq]
  | rejected => rwa [rejectIncomingFileWithReason_eq]
  | looped given loop rest queue =>
      obtain ⟨handle, sent, packets, blocks, result, -⟩ :=
        client.loopStatement_change loop.transfer given loop.point
      rwa [result]
  | channelChanged state =>
      obtain ⟨outgoing, result⟩ := client.dataChannelDidChangeState_eq state
      rwa [result]
  | accepted | unopened | greeted | busy | offered | started | ended | writeFailed | stored
  | completed | transmitted | reported | iceLost | iceIdle | cleaned | iceChanged | nothing =>
      exact cancelled

/-- A chunk is only handed over by a loop that is about to send it. -/
theorem statement_of_chunk (effect : Effect client input next calls)
    {observation : Observation} (seen : observation ∈ client.observe next calls)
    (isChunk : observation.isChunk = true) :
    ∃ given loop rest chunk retries, input = .runFile given ∧
      client.fileQueue = loop :: rest ∧ loop.point = .retrySend chunk retries := by
  cases observation with
  | delegate => contradiction
  | sent packet =>
      obtain ⟨message, tag⟩ := packet
      cases message with
      | binary data =>
          have emits := emits_of_sent effect seen
          cases emits with
          | chunk given loop rest chunk retries queue atPoint =>
              exact ⟨given, loop, rest, chunk, retries, rfl, queue, atPoint⟩
      | hello | ftOffer | ftAccept | ftReject | ftCancel | ftDone => contradiction

/-- One statement hands over one packet at most. -/
theorem observed_statement {given : LoopInput}
    (effect : Effect client (.runFile given) next calls) :
    (client.observe next calls).length ≤ 1 := by
  have atMost : ∀ packet, ((client.queued packet).drop client.outgoing.length).length ≤ 1 := by
    intro packet
    rcases client.queued_cases packet with added | same
    · simp [added]
    · simp [same]
  cases effect with
  | nothing _ _ _ _ notQueued => exact absurd rfl (notQueued.2.2 given)
  | looped _ loop rest queue =>
      simp only [observe, List.map_nil, List.append_nil, List.length_map]
      cases loop.point with
      | retrySend chunk retries =>
          simp only [loopStatement]
          split
          · rw [sendData_eq]
            exact atMost _
          · simp
      | sendDone =>
          simp only [loopStatement, sendControlJSON_eq]
          exact atMost _
      | read =>
          simp only [loopStatement]
          split <;> simp
      | entry | whileTest | waitTest | waitBody | openTest | retryTest | retryOpenTest | okTest
      | addBytes | reportProgress | cancelledTest | completeTest | finish =>
          simp [loopStatement, dispatchMain, cleanupTransferWithError_eq]

theorem countP_advanceQueue_le (test : SendingLoop → Bool) (loop : SendingLoop)
    (rest : List SendingLoop) (following : Option LoopPoint) :
    (advanceQueue loop rest following).countP test ≤ rest.countP test + 1 := by
  cases following with
  | none => exact Nat.le_succ _
  | some point =>
      rw [advanceQueue, List.countP_cons]
      split <;> omega

/-- The loop at the head after a statement holds a chunk that it sends only if it was
about to test the channel for it. -/
theorem committedChunks_advanceQueue (cancelled : client.transferCancelled = true)
    (given : LoopInput) (loop : SendingLoop) (rest : List SendingLoop)
    (elsewhere : ∀ chunk retries, loop.point ≠ .retryOpenTest chunk retries) :
    (advanceQueue loop rest (client.loopStatement loop.transfer given loop.point).2).countP
        (fun loop => loop.point.committed) =
      rest.countP fun loop => loop.point.committed := by
  cases continues : (client.loopStatement loop.transfer given loop.point).2 with
  | none => rfl
  | some following =>
      rw [advanceQueue, List.countP_cons_of_neg]
      intro committed
      obtain ⟨chunk, retries, atPoint⟩ := committed_loopStatement cancelled continues committed
      exact elsewhere chunk retries atPoint

/-- A chunk that is sent was committed, and none becomes so. -/
theorem chunks_of_effect (cancelled : client.transferCancelled = true)
    (effect : Effect client input next calls) :
    (client.observe next calls).countP Observation.isChunk + next.committedChunks ≤
      client.committedChunks := by
  have quiet : (∀ given loop rest chunk retries, input = .runFile given →
      client.fileQueue = loop :: rest → loop.point ≠ .retrySend chunk retries) →
      (client.observe next calls).countP Observation.isChunk = 0 := by
    intro notSending
    rw [List.countP_eq_zero]
    intro observation seen isChunk
    obtain ⟨given, loop, rest, chunk, retries, isStatement, queue, atPoint⟩ :=
      statement_of_chunk effect seen isChunk
    exact notSending given loop rest chunk retries isStatement queue atPoint
  by_cases isStatement : ∃ given, input = .runFile given
  · obtain ⟨given, rfl⟩ := isStatement
    obtain ⟨loop, rest, queue, advanced⟩ := fileQueue_of_statement effect
    have before : client.committedChunks =
        (rest.countP fun loop => loop.point.committed) +
          if loop.point.committed then 1 else 0 := by
      rw [committedChunks, queue, List.countP_cons]
    have silent : (∀ chunk retries, loop.point ≠ .retrySend chunk retries) →
        (client.observe next calls).countP Observation.isChunk = 0 := by
      intro notSending
      apply quiet
      intro _ head others chunk retries _ isQueue
      rw [queue] at isQueue
      obtain ⟨rfl, -⟩ := List.cons.inj isQueue
      exact notSending chunk retries
    have after := committedChunks_advanceQueue cancelled given loop rest
    rw [← advanced] at after
    rw [before]
    cases atPoint : loop.point with
    | retrySend chunk retries =>
        -- The chunk is sent, or the test of the flag is next: either way it is let go.
        rw [committedChunks, after (by simp [atPoint])]
        have atMost : (client.observe next calls).countP Observation.isChunk ≤ 1 :=
          List.countP_le_length.trans (observed_statement effect)
        rw [LoopPoint.committed, if_pos rfl]
        omega
    | retryOpenTest chunk retries =>
        rw [silent (by simp [atPoint]), committedChunks, advanced, LoopPoint.committed, if_pos rfl,
          Nat.zero_add]
        exact countP_advanceQueue_le _ loop rest _
    | entry | whileTest | waitTest | waitBody | openTest | read | retryTest | okTest
    | addBytes | reportProgress | cancelledTest | completeTest | sendDone | finish =>
        rw [silent (by simp [atPoint]), committedChunks, after (by simp [atPoint]), Nat.zero_add]
        exact Nat.le_add_right _ _
  · rcases fileQueue_of_effect effect with
      same | ⟨handle, tag, outcome, -, -, started⟩ | ⟨given, -, -, isRun, -⟩
    · rw [quiet (fun given _ _ _ _ isRun => absurd ⟨given, isRun⟩ isStatement), committedChunks,
        same]
      exact Nat.le_of_eq (Nat.zero_add _)
    · rw [quiet (fun given _ _ _ _ isRun => absurd ⟨given, isRun⟩ isStatement), committedChunks,
        started]
      simp [committedChunks, LoopPoint.committed]
    · exact absurd ⟨given, isRun⟩ isStatement

/-- A statement lowers what the loops have left; an `ft_accept` adds one loop. -/
theorem windingDown_of_effect (cancelled : client.transferCancelled = true)
    (effect : Effect client input next calls) :
    (if input.isStatement then 1 else 0) + next.windingDown ≤
      client.windingDown + if input.isAccept then 3 else 0 := by
  by_cases isStatement : ∃ given, input = .runFile given
  · obtain ⟨given, rfl⟩ := isStatement
    obtain ⟨loop, rest, queue, advanced⟩ := fileQueue_of_statement effect
    have lower := windDown_loopStatement cancelled loop.transfer given loop.point
    rw [windingDown, windingDown, queue, advanced, total_cons]
    cases continues : (client.loopStatement loop.transfer given loop.point).2 with
    | none =>
        rw [continues] at lower
        simp only [advanceQueue, Input.isStatement, Input.isAccept, Option.map_none,
          Option.getD_none, if_true, Bool.false_eq_true, if_false] at lower ⊢
        omega
    | some following =>
        rw [continues] at lower
        simp only [advanceQueue, Input.isStatement, Input.isAccept, Option.map_some,
          Option.getD_some, total_cons, if_true, Bool.false_eq_true, if_false] at lower ⊢
        omega
  · have uncharged : input.isStatement = false := by
      cases input with
      | runFile given => exact absurd ⟨given, rfl⟩ isStatement
      | sendFileAtURL | cancelFileTransfer | acceptIncomingFileToURL
      | rejectIncomingFileWithReason | receive | transmit | runMain | iceConnectionState
      | dataChannelState => rfl
    rw [uncharged, if_neg Bool.false_ne_true, windingDown, windingDown]
    rcases fileQueue_of_effect effect with
      same | ⟨handle, tag, outcome, -, rfl, started⟩ | ⟨given, -, -, isRun, -⟩
    · rw [same]
      omega
    · rw [started, total_append]
      simp [Input.isAccept, LoopPoint.windDown]
    · exact absurd ⟨given, isRun⟩ isStatement

end RTCClient

/-! ## Whole runs -/

theorem loopsWait_of_run {clientId : Nat} {helloName : String} {inputs : List Input}
    {observed : List Observation} {client : RTCClient}
    (run : ClientRun clientId helloName Machine.free inputs observed client) :
    client.LoopsWait := by
  apply run.state_invariant LoopsWait
  · simp [LoopsWait, RTCClient.initial]
  · intro state input next fresh wait _ stepped
    obtain ⟨calls, acted, -⟩ := act_of_step stepped
    exact wait.of_effect (effect_of_act acted)

/-- Only the loop at the head has begun. -/
theorem left_of_loopsWait {client : RTCClient} (wait : client.LoopsWait) :
    client.windingDown ≤ 4 + 3 * client.fileQueue.length ∧ client.committedChunks ≤ 1 := by
  unfold windingDown committedChunks
  cases queue : client.fileQueue with
  | nil => simp
  | cons loop rest =>
      have atEntry : ∀ other ∈ rest, other.point = .entry := by
        intro other member
        exact wait other (by rwa [queue])
      have waiting : total (fun loop => loop.point.windDown) rest = 3 * rest.length := by
        apply total_eq_mul
        intro other member
        rw [atEntry other member]
        rfl
      have none : (rest.countP fun loop => loop.point.committed) = 0 := by
        rw [List.countP_eq_zero]
        intro other member
        rw [atEntry other member]
        simp [LoopPoint.committed]
      have atMost := loop.point.windDown_le
      rw [total_cons, waiting, List.countP_cons, none, List.length_cons]
      refine ⟨by omega, ?_⟩
      split <;> omega

/-- **Cancelling stops the sending.** In every run of a client that continues after
`cancelFileTransfer` without a further successful send, whatever the peer and the user do
and however loops, callbacks and blocks of the main queue are interleaved: at most one more
chunk is handed to the channel, and the loops that are queued, or that an `ft_accept` still
starts, make a bounded number of statements. -/
theorem cancel_stops_sending {clientId : Nat} {helloName : String} {past inputs : List Input}
    {seen observed : List Observation} {client final : RTCClient}
    (reached : ClientRun clientId helloName Machine.free past seen client)
    (run : Machine.Run RTCClient.step NoNewSend client.cancelFileTransfer inputs observed
      final) :
    observed.countP Observation.isChunk ≤ 1 ∧
      inputs.countP Input.isStatement ≤
        4 + 3 * (client.fileQueue.length + inputs.countP Input.isAccept) := by
  have sameQueue : client.cancelFileTransfer.fileQueue = client.fileQueue := by
    rw [cancelFileTransfer_eq]
  have wait : client.cancelFileTransfer.LoopsWait := by
    unfold LoopsWait
    rw [sameQueue]
    exact loopsWait_of_run reached
  obtain ⟨left, committed⟩ := left_of_loopsWait wait
  obtain ⟨-, cancelledRun⟩ := run.within (fun state => state.transferCancelled = true)
    (by rw [cancelFileTransfer_eq]) fun cancelled noNewSend stepped => by
      obtain ⟨calls, acted, -⟩ := act_of_step stepped
      exact cancelled_of_effect cancelled noNewSend (effect_of_act acted)
  constructor
  · have chunks : observed.countP Observation.isChunk + final.committedChunks ≤
        client.cancelFileTransfer.committedChunks := by
      refine cancelledRun.invariant (fun history state =>
        history.countP Observation.isChunk + state.committedChunks ≤
          client.cancelFileTransfer.committedChunks) (by simp) ?_
      intro history state input next fresh bounded allowed stepped
      obtain ⟨calls, acted, rfl⟩ := act_of_step stepped
      have lower := chunks_of_effect allowed.1 (effect_of_act acted)
      rw [List.countP_append]
      omega
    omega
  · have paid := cancelledRun.charged_le Input.isStatement Input.isAccept 3 windingDown
      fun allowed stepped => by
        obtain ⟨calls, acted, -⟩ := act_of_step stepped
        exact windingDown_of_effect allowed.1 (effect_of_act acted)
    rw [sameQueue] at left
    omega

/-- A loop that has made its last test of the flag for a chunk. -/
def committedInputs : List Input :=
  [.dataChannelState .Open, .sendFileAtURL (.ofFile "notes.txt" ⟨[1, 2], File.bounded_notes⟩),
    .receive ⟨.ftAccept, none⟩ .written] ++ List.replicate 7 (.runFile ⟨0, 1, false, true⟩)

def lastStatements : List Input :=
  List.replicate 6 (.runFile ⟨0, 1, false, true⟩)

/-- The chunk is sent after the cancel, and then the loop returns. -/
theorem cancel_stops_sending_committed :
    ∃ seen observed client final,
      ClientRun 0 "mac#001" Machine.free committedInputs seen client ∧
        Machine.Run RTCClient.step NoNewSend client.cancelFileTransfer lastStatements observed
          final ∧
        observed.countP Observation.isChunk = 1 ∧
        lastStatements.countP Input.isStatement ≤ 4 + 3 * (client.fileQueue.length + 0) := by
  obtain ⟨client, seen, reached, checked⟩ :
      ∃ client seen, ClientRun 0 "mac#001" Machine.free committedInputs seen client ∧
        (Machine.exec RTCClient.step NoNewSend client.cancelFileTransfer lastStatements).any
          (fun result => result.2.countP Observation.isChunk == 1) = true :=
    Machine.run_of_exec_any (fun (client : RTCClient) (_ : List Observation) =>
      (Machine.exec RTCClient.step NoNewSend client.cancelFileTransfer lastStatements).any
        fun result => result.2.countP Observation.isChunk == 1) (by decide)
  obtain ⟨final, observed, run, sent⟩ := Machine.run_of_exec_any
    (fun (_ : RTCClient) (observed : List Observation) =>
      observed.countP Observation.isChunk == 1) checked
  exact ⟨seen, observed, client, final, reached, run, of_decide_eq_true sent,
    (cancel_stops_sending reached run).2⟩

end WebrtcFileSender
