import WebrtcFileSender.Client.Effect

/-!
Contract: one run of the block that `startSendingLoop` dispatches, by itself.

The loop reads its environment anew in every statement: the cancel flag, the state
and the buffered amount of the channel, the outcome of a read and of a send. No
cleanup comes between, so nothing else changes what the loop works on.

Owns: the loop as a machine over these readings, what it does that can be seen
from outside, the agreement of that with the channel and the main queue, its
termination on every stream of readings, the part of the file it sends, and when
its backpressure wait has the hysteresis that the two watermarks stand for.
-/

namespace WebrtcFileSender

/-- What one statement of the loop may read of its environment. -/
structure LoopReading where
  transferCancelled : Bool
  readyState : Option RTCDataChannelState
  given : LoopInput
deriving DecidableEq, Repr

/-- The channel is open, as the loop reads it. -/
def LoopReading.isOpen (reading : LoopReading) : Bool :=
  reading.readyState == some .Open

/-- What a statement of the loop does. `leftWait` marks that the wait loop is left
after it has been entered, with the waits so far and what the statement read. -/
inductive LoopEvent where
  | leftWait (backpressureWaitIters : Nat) (reading : LoopReading)
  | queued (data : Bytes)
  | noHandle
  | cancelled
  | done
  | cleanup (error : Option NSError)
deriving DecidableEq, Repr

/-- The error of a cleanup that waits on the main queue. -/
def MainBlock.cleanupError? : MainBlock → Option (Option NSError)
  | .cleanup error _ => some error
  | _ => none

namespace LoopEvent

/-- The end of a run: a silent return, `ft_done`, or the request of a cleanup. -/
def isEnd : LoopEvent → Bool
  | .leftWait _ _ | .queued _ => false
  | .noHandle | .cancelled | .done | .cleanup _ => true

def data : LoopEvent → Bytes
  | .queued data => data
  | _ => []

/-- The message that a channel takes in an event. -/
def message? (isOpen : Bool) : LoopEvent → Option Message
  | .queued data => some (.binary data)
  | .done => if isOpen then some .ftDone else none
  | .leftWait _ _ | .noHandle | .cancelled | .cleanup _ => none

/-- The error of the cleanup that an event requests. -/
def cleanupError? : LoopEvent → Option (Option NSError)
  | .cleanup error => some error
  | _ => none

/-- The bytes for which `sendData:` returned `YES`, in order. -/
def queuedBytes (events : List LoopEvent) : Bytes :=
  events.flatMap data

/-- How a run has ended. -/
def endings (events : List LoopEvent) : List LoopEvent :=
  events.filter isEnd

end LoopEvent

/-- A run of the loop: the client, and the statement that comes next. -/
structure LoopRun where
  client : RTCClient
  point : Option LoopPoint

namespace LoopRun

open RTCClient

/-- The loop sees the flag and the channel as they are now. -/
def seen (client : RTCClient) (reading : LoopReading) : RTCClient :=
  { client with
    transferCancelled := reading.transferCancelled
    readyState := reading.readyState }

/-- The events of one statement of a client that has seen the reading: which way it
branched is read off the statement that follows it. -/
def events (client : RTCClient) (transfer : TransferId) (reading : LoopReading)
    (point : LoopPoint) : List LoopEvent :=
  let following := (client.loopStatement transfer reading.given point).2
  match point with
  | .entry => if following = none then [.noHandle] else []
  | .waitTest iters =>
      if 0 < iters ∧ following = some .openTest then [.leftWait iters reading] else []
  | .waitBody iters =>
      if following = some .openTest then [.leftWait (iters + 1) reading] else []
  | .retrySend chunk _ =>
      if following = some (.okTest chunk true) then [.queued chunk.data] else []
  | .cancelledTest => if following = none then [.cancelled] else []
  | .sendDone => [.done]
  | .finish error => [.cleanup error]
  | .whileTest | .openTest | .read | .retryTest _ _ | .retryOpenTest _ _ | .okTest _ _
  | .addBytes _ | .reportProgress | .completeTest => []

/-- One statement; there is none after the return. -/
def step (transfer : TransferId) (run : LoopRun) (reading : LoopReading) :
    Option (LoopRun × List LoopEvent) :=
  run.point.map fun point =>
    let client := seen run.client reading
    let (next, following) := client.loopStatement transfer reading.given point
    (⟨next, following⟩, events client transfer reading point)

/-- The block as it is dispatched. -/
def start (client : RTCClient) : LoopRun where
  client := client
  point := some .entry

end LoopRun

/-- Runs of the loop that is started for a transfer. -/
abbrev SendingLoopRun (transfer : TransferId) (client : RTCClient)
    (guard : LoopRun → LoopReading → Prop) :=
  Machine.Run (LoopRun.step transfer) guard (LoopRun.start client)

namespace LoopRun

open RTCClient LoopEvent

variable {transfer : TransferId} {run next : LoopRun} {reading : LoopReading}
variable {emitted : List LoopEvent}

theorem step_spec (stepped : run.step transfer reading = some (next, emitted)) :
    ∃ point, run.point = some point ∧
      next.client = ((seen run.client reading).loopStatement transfer reading.given point).1 ∧
      next.point = ((seen run.client reading).loopStatement transfer reading.given point).2 ∧
      emitted = events (seen run.client reading) transfer reading point := by
  simp only [step, Option.map_eq_some_iff, Prod.mk.injEq] at stepped
  obtain ⟨point, atPoint, rfl, rfl⟩ := stepped
  exact ⟨point, atPoint, rfl, rfl, rfl⟩

/-! ## Which way a statement branches -/

/-- The test of the wait loop goes past the loop as soon as one part of its guard
fails. -/
theorem passed_waitTest_iff (client : RTCClient) (transfer : TransferId)
    (given : LoopInput) (iters : Nat) :
    (client.loopStatement transfer given (.waitTest iters)).2 = some .openTest ↔
      ¬ (client.transferCancelled = false ∧ client.isDataChannelOpen ∧
        kBufferedAmountHighWatermark < given.bufferedAmount ∧
        iters < maxBackpressureWaits) := by
  simp only [loopStatement]
  split
  case isTrue enters => simp [enters]
  case isFalse passes => exact iff_of_true rfl passes

/-- The body of the wait loop breaks out of it at the low watermark. -/
theorem passed_waitBody_iff (client : RTCClient) (transfer : TransferId)
    (given : LoopInput) (iters : Nat) :
    (client.loopStatement transfer given (.waitBody iters)).2 = some .openTest ↔
      given.bufferedAmount ≤ kBufferedAmountLowWatermark := by
  simp only [loopStatement]
  split
  case isTrue low => exact iff_of_true rfl low
  case isFalse notLow => simp [notLow]

theorem queued_retrySend_iff (client : RTCClient) (transfer : TransferId)
    (given : LoopInput) (chunk : Chunk) (retries : Nat) :
    (client.loopStatement transfer given (.retrySend chunk retries)).2 =
        some (.okTest chunk true) ↔
      given.sendOk ∧ client.isDataChannelOpen := by
  simp only [loopStatement]
  split
  case isTrue taken => exact iff_of_true rfl taken
  case isFalse refused => simp [refused]

/-- The packets that a statement makes the channel take are the chunk that it
queues, and `ft_done` when the channel is open. -/
theorem outgoing_loopStatement (client : RTCClient) (transfer : TransferId)
    (reading : LoopReading) (point : LoopPoint) :
    ((client.loopStatement transfer reading.given point).1.outgoing.map Packet.message) =
      client.outgoing.map Packet.message ++
        (events client transfer reading point).filterMap
          (LoopEvent.message? client.isDataChannelOpen) := by
  cases point with
  | entry =>
      simp only [loopStatement, events]
      split <;> simp [LoopEvent.message?]
  | waitTest iters =>
      simp only [loopStatement, events]
      split <;> simp [LoopEvent.message?]
  | waitBody iters =>
      simp only [loopStatement, events]
      split <;> simp [LoopEvent.message?]
  | cancelledTest =>
      simp only [loopStatement, events]
      split <;> simp [LoopEvent.message?]
  | whileTest | openTest | retryTest | retryOpenTest | okTest | completeTest | addBytes =>
      simp [loopStatement, events]
  | reportProgress => simp [loopStatement, events, dispatchMain]
  | read =>
      simp only [loopStatement, events]
      split <;> simp
  | retrySend chunk retries =>
      simp only [loopStatement, events]
      split
      case isTrue taken => simp [sendData, taken.2, LoopEvent.message?]
      case isFalse => simp
  | sendDone =>
      simp only [loopStatement, events, sendControlJSON, sendData]
      split
      case isTrue isOpen => simp [LoopEvent.message?, isOpen]
      case isFalse notOpen => simp [LoopEvent.message?, notOpen]
  | finish error =>
      simp [loopStatement, events, cleanupTransferWithError_eq, LoopEvent.message?]

/-- The cleanups that a statement dispatches are those of its events. -/
theorem cleanups_loopStatement (client : RTCClient) (transfer : TransferId)
    (reading : LoopReading) (point : LoopPoint) :
    ((client.loopStatement transfer reading.given point).1.mainQueue.filterMap
        MainBlock.cleanupError?) =
      client.mainQueue.filterMap MainBlock.cleanupError? ++
        (events client transfer reading point).filterMap LoopEvent.cleanupError? := by
  cases point with
  | entry | waitTest | waitBody | cancelledTest =>
      simp only [loopStatement, events]
      split <;> simp [LoopEvent.cleanupError?]
  | retrySend chunk retries =>
      simp only [loopStatement, events]
      split <;> simp [sendData_eq, LoopEvent.cleanupError?]
  | read =>
      simp only [loopStatement, events]
      split <;> simp
  | whileTest | openTest | retryTest | retryOpenTest | okTest | completeTest | addBytes =>
      simp [loopStatement, events]
  | reportProgress => simp [loopStatement, events, dispatchMain, MainBlock.cleanupError?]
  | sendDone => simp [loopStatement, events, sendControlJSON_eq, LoopEvent.cleanupError?]
  | finish error =>
      simp [loopStatement, events, cleanupTransferWithError_eq, LoopEvent.cleanupError?,
        MainBlock.cleanupError?]

/-! ## Termination -/

/-- How many statements may follow in the current round of the loop. -/
def rank : LoopPoint → Nat
  | .finish _ => 1
  | .sendDone => 2
  | .completeTest => 3
  | .cancelledTest => 4
  | .read => 5
  | .openTest => 6
  | .waitTest iters => 7 + 2 * (maxBackpressureWaits - iters)
  | .waitBody iters => 8 + 2 * (maxBackpressureWaits - 1 - iters)
  | .whileTest => 408
  | .entry => 409
  | .reportProgress => 409
  | .addBytes _ => 410
  | .okTest _ _ => 411
  | .retryTest _ retries => 412 + 3 * (maxSendRetries - retries)
  | .retryOpenTest _ retries => 414 + 3 * (maxSendRetries - 1 - retries)
  | .retrySend _ retries => 413 + 3 * (maxSendRetries - 1 - retries)

/-- What is left to read, and the rank of the next statement. A round that reads
nothing is the last. -/
def measure (run : LoopRun) : Nat :=
  match run.point with
  | none => 0
  | some point => 1000 * run.client.unread.length + rank point

theorem unread_readChunk {client : RTCClient} {input : LoopInput} {handle : ReadHandle}
    {chunk : Chunk} (result : client.readChunk input = some (handle, chunk)) :
    client.unread = chunk.data ++ unread { client with sendHandle := some handle } := by
  obtain ⟨old, reading, -, -, content, rfl⟩ := client.readChunk_spec result
  have taken : chunk.data = (old.file.bytes.drop old.offset).take chunk.data.length := by
    rw [content, List.length_take, List.take_eq_take_min, List.length_drop]
  simp only [unread, reading, ← List.drop_drop]
  conv_lhs => rw [← List.take_append_drop chunk.data.length (old.file.bytes.drop old.offset)]
  rw [← taken]

theorem measure_loopStatement (client : RTCClient) (transfer : TransferId)
    (input : LoopInput) (point : LoopPoint) :
    measure ⟨(client.loopStatement transfer input point).1,
        (client.loopStatement transfer input point).2⟩ <
      measure ⟨client, some point⟩ := by
  cases point with
  | read =>
      simp only [loopStatement]
      split
      case h_1 => simp [measure, rank]
      case h_2 handle chunk result =>
        obtain ⟨-, -, -, nonempty, -⟩ := client.readChunk_spec result
        have positive : 0 < chunk.data.length := List.length_pos_iff.mpr nonempty
        simp only [measure, rank, maxSendRetries, unread_readChunk result,
          List.length_append]
        omega
  | entry | whileTest | openTest | cancelledTest | completeTest =>
      simp only [loopStatement]
      split <;> simp [measure, rank, maxBackpressureWaits]
  | waitTest iters =>
      simp only [loopStatement]
      split
      case isTrue waits =>
        simp only [measure, rank]
        omega
      case isFalse =>
        simp only [measure, rank]
        omega
  | waitBody iters =>
      simp only [loopStatement]
      split <;> simp only [measure, rank] <;> omega
  | retryTest chunk retries =>
      simp only [loopStatement]
      split
      case isTrue retry =>
        simp only [measure, rank]
        omega
      case isFalse =>
        simp only [measure, rank]
        omega
  | retryOpenTest chunk retries =>
      simp only [loopStatement]
      split <;> simp only [measure, rank] <;> omega
  | retrySend chunk retries =>
      simp only [loopStatement]
      split
      case isTrue =>
        simp only [measure, rank, sendData_eq, unread]
        omega
      case isFalse =>
        simp only [measure, rank]
        omega
  | okTest chunk ok =>
      simp only [loopStatement]
      split <;> simp [measure, rank]
  | addBytes | reportProgress | sendDone =>
      simp [loopStatement, measure, rank, unread, dispatchMain, sendControlJSON_eq]
  | finish error =>
      simp [loopStatement, measure, rank]

/-- The length of a chunk that was queued and is not yet in `sendBytesSent`. -/
def uncounted : LoopPoint → Nat
  | .okTest chunk true | .addBytes chunk => chunk.data.length
  | _ => 0

/-- Only `sendData:` queues bytes, and then a whole chunk. -/
theorem queuedBytes_events (client : RTCClient) (transfer : TransferId)
    (reading : LoopReading) (point : LoopPoint) :
    queuedBytes (events client transfer reading point) =
      match point with
      | .retrySend chunk _ =>
          if reading.given.sendOk ∧ client.isDataChannelOpen then chunk.data else []
      | _ => [] := by
  cases point with
  | entry | waitTest | waitBody | cancelledTest =>
      simp only [events]
      split <;> simp [queuedBytes, LoopEvent.data]
  | retrySend chunk retries =>
      simp only [events, queued_retrySend_iff]
      split <;> simp [queuedBytes, LoopEvent.data]
  | whileTest | openTest | read | retryTest | retryOpenTest | okTest | addBytes
  | reportProgress | completeTest | sendDone | finish =>
      simp [events, queuedBytes, LoopEvent.data]

/-- Until the loop finishes, a statement takes the bytes it queues from those the
loop has in hand and those it has not read. -/
theorem conserves_loopStatement (client : RTCClient) (transfer : TransferId)
    (reading : LoopReading) {point following : LoopPoint}
    (continues : (client.loopStatement transfer reading.given point).2 = some following)
    (goesOn : following.finishing = false) :
    queuedBytes (events client transfer reading point) ++ following.unsent ++
        (client.loopStatement transfer reading.given point).1.unread =
      point.unsent ++ client.unread := by
  rw [queuedBytes_events]
  cases point with
  | read =>
      simp only [loopStatement] at continues ⊢
      split at continues
      case h_1 =>
        obtain rfl := Option.some.inj continues
        simp [LoopPoint.unsent]
      case h_2 handle chunk result =>
        obtain rfl := Option.some.inj continues
        rw [unread_readChunk result]
        simp [LoopPoint.unsent]
  | retrySend chunk retries =>
      simp only [loopStatement] at continues ⊢
      split at continues
      case isTrue taken =>
        obtain rfl := Option.some.inj continues
        simp [taken, LoopPoint.unsent, sendData_eq, unread]
      case isFalse refused =>
        obtain rfl := Option.some.inj continues
        simp [refused, LoopPoint.unsent]
  | entry | whileTest | waitTest | waitBody | openTest | retryTest | retryOpenTest
  | cancelledTest | completeTest =>
      simp only [loopStatement] at continues ⊢
      grind [LoopPoint.unsent, LoopPoint.finishing]
  | okTest chunk ok =>
      cases ok with
      | true =>
          obtain rfl := Option.some.inj continues
          simp [loopStatement, LoopPoint.unsent]
      | false =>
          obtain rfl := Option.some.inj continues
          simp [LoopPoint.finishing] at goesOn
  | addBytes | reportProgress =>
      obtain rfl := Option.some.inj continues
      rfl
  | sendDone =>
      obtain rfl := Option.some.inj continues
      simp [LoopPoint.finishing] at goesOn
  | finish => simp [loopStatement] at continues

/-- A statement queues nothing but what the loop has in hand. -/
theorem queuedBytes_prefix (client : RTCClient) (transfer : TransferId)
    (reading : LoopReading) (point : LoopPoint) :
    queuedBytes (events client transfer reading point) <+: point.unsent := by
  rw [queuedBytes_events]
  cases point with
  | retrySend chunk retries =>
      dsimp only
      split
      case isTrue => exact List.prefix_rfl
      case isFalse => exact List.nil_prefix
  | _ => exact List.nil_prefix

/-- What a statement queues is counted, at once or by the statements that follow. -/
theorem counts_loopStatement (client : RTCClient) (transfer : TransferId)
    (reading : LoopReading) (point : LoopPoint)
    (bounded : client.sendBytesSent + uncounted point < 2 ^ 64) :
    (client.loopStatement transfer reading.given point).1.sendBytesSent +
        (client.loopStatement transfer reading.given point).2.elim 0 uncounted =
      client.sendBytesSent + uncounted point +
        (queuedBytes (events client transfer reading point)).length := by
  rw [queuedBytes_events]
  cases point with
  | entry | whileTest | waitTest | waitBody | openTest | read | retryTest | retryOpenTest
  | cancelledTest | completeTest =>
      simp only [loopStatement]
      split <;> simp [uncounted]
  | retrySend chunk retries =>
      simp only [loopStatement]
      split
      case isTrue => simp [sendData_eq, uncounted]
      case isFalse => simp [uncounted]
  | okTest chunk ok => cases ok <;> simp [loopStatement, uncounted]
  | addBytes chunk =>
      have exact : u64 (client.sendBytesSent + chunk.data.length) =
          client.sendBytesSent + chunk.data.length := Nat.mod_eq_of_lt bounded
      simp [loopStatement, uncounted, exact]
  | reportProgress => simp [loopStatement, uncounted, dispatchMain]
  | sendDone => simp [loopStatement, uncounted, sendControlJSON_eq]
  | finish => simp [loopStatement, uncounted, cleanupTransferWithError_eq]

/-! ## The end of a run -/

/-- The errors with which the loop gives up. -/
def closingErrors : List NSError :=
  [sendFailed, sendEndedEarly, closedDuringSend]

/-- The endings so far, by the statement that comes next. -/
def Concluded (client : RTCClient) (ends : List LoopEvent) : Option LoopPoint → Prop
  | some .sendDone => ends = [] ∧ client.sendTotalBytes ≤ client.sendBytesSent
  | some (.finish none) => ends = [.done] ∧ client.sendTotalBytes ≤ client.sendBytesSent
  | some (.finish (some error)) => ends = [] ∧ error ∈ closingErrors
  | some _ => ends = []
  | none =>
      ends = [.cancelled] ∨
      (∃ error ∈ closingErrors, ends = [.cleanup (some error)]) ∨
      (ends = [.done, .cleanup none] ∧ client.sendTotalBytes ≤ client.sendBytesSent)

theorem concluded_loopStatement (client : RTCClient) (transfer : TransferId)
    (reading : LoopReading) (point : LoopPoint) {ends : List LoopEvent}
    (sending : client.sendHandle.isSome)
    (concluded : Concluded client ends (some point)) :
    Concluded (client.loopStatement transfer reading.given point).1
      (ends ++ endings (events client transfer reading point))
      (client.loopStatement transfer reading.given point).2 := by
  cases point with
  | entry =>
      obtain ⟨handle, isHandle⟩ := Option.isSome_iff_exists.mp sending
      simpa [loopStatement, events, isHandle, endings, Concluded] using concluded
  | whileTest | retryTest | retryOpenTest =>
      simp only [loopStatement]
      split <;> simpa [events, endings, Concluded] using concluded
  | waitTest iters =>
      have silent : endings (events client transfer reading (.waitTest iters)) = [] := by
        simp only [events]
        split <;> simp [endings, LoopEvent.isEnd]
      rw [silent, List.append_nil]
      simp only [loopStatement]
      split <;> exact concluded
  | waitBody iters =>
      have silent : endings (events client transfer reading (.waitBody iters)) = [] := by
        simp only [events]
        split <;> simp [endings, LoopEvent.isEnd]
      rw [silent, List.append_nil]
      simp only [loopStatement]
      split <;> exact concluded
  | openTest =>
      simp only [loopStatement]
      split
      case isTrue => simpa [events, endings, Concluded] using concluded
      case isFalse => simpa [events, endings, Concluded, closingErrors] using concluded
  | read =>
      simp only [loopStatement]
      split <;> simpa [events, endings, Concluded] using concluded
  | retrySend chunk retries =>
      simp only [loopStatement, events]
      split <;> simpa [endings, LoopEvent.isEnd, Concluded] using concluded
  | okTest chunk ok =>
      cases ok with
      | true => simpa [loopStatement, events, endings, Concluded] using concluded
      | false => simpa [loopStatement, events, endings, Concluded, closingErrors] using concluded
  | addBytes | reportProgress =>
      simpa [loopStatement, events, endings, Concluded] using concluded
  | cancelledTest =>
      have unended : ends = [] := concluded
      simp only [loopStatement, events, unended]
      split
      case isTrue => exact .inl rfl
      case isFalse => rfl
  | completeTest =>
      have unended : ends = [] := concluded
      simp only [loopStatement, events, unended]
      split
      case isTrue complete => exact ⟨rfl, complete⟩
      case isFalse => exact ⟨rfl, by simp [closingErrors]⟩
  | sendDone =>
      obtain ⟨unended, complete⟩ := concluded
      rw [unended]
      refine ⟨rfl, ?_⟩
      simp only [loopStatement, sendControlJSON_eq]
      exact complete
  | finish error =>
      cases error with
      | none =>
          obtain ⟨done, complete⟩ := concluded
          rw [done]
          exact .inr (.inr ⟨rfl, complete⟩)
      | some error =>
          obtain ⟨unended, isClosing⟩ := concluded
          rw [unended]
          exact .inr (.inl ⟨error, isClosing, rfl⟩)

/-! ## The run -/

/-- What holds between a source file and the loop that sends it. -/
structure Sends (source : Bytes) (total : Nat) (history : List LoopEvent) (run : LoopRun) :
    Prop where
  sending : run.client.sendHandle.isSome
  sameTotal : run.client.sendTotalBytes = total
  begins : queuedBytes history <+: source
  conserves : ∀ point, run.point = some point → point.finishing = false →
    queuedBytes history ++ point.unsent ++ run.client.unread = source
  counts : run.client.sendBytesSent + run.point.elim 0 uncounted = (queuedBytes history).length
  concluded : Concluded run.client (endings history) run.point

/-- What is queued and what is in hand begin the source. -/
theorem Sends.hand_prefix {source : Bytes} {total : Nat} {history : List LoopEvent}
    {point : LoopPoint}
    (sends : Sends source total history run)
    (atPoint : run.point = some point) :
    queuedBytes history ++ point.unsent <+: source := by
  cases unfinished : point.finishing with
  | true =>
      obtain ⟨error, rfl⟩ : ∃ error, point = .finish error := by
        cases point <;> simp [LoopPoint.finishing] at unfinished ⊢
      simpa [LoopPoint.unsent] using sends.begins
  | false =>
      rw [← sends.conserves point atPoint unfinished]
      exact List.prefix_append _ _

theorem Sends.step {source : Bytes} {total : Nat} {history : List LoopEvent}
    (bounded : source.length < 2 ^ 63)
    (sends : Sends source total history run)
    (stepped : run.step transfer reading = some (next, emitted)) :
    Sends source total (history ++ emitted) next := by
  obtain ⟨point, atPoint, sameClient, samePoint, rfl⟩ := step_spec stepped
  obtain ⟨handle, sent, packets, blocks, result, change⟩ :=
    (seen run.client reading).loopStatement_change transfer reading.given point
  have splits : queuedBytes (history ++ events (seen run.client reading) transfer reading point) =
      queuedBytes history ++ queuedBytes (events (seen run.client reading) transfer reading point) :=
    List.flatMap_append
  have hand := sends.hand_prefix atPoint
  have fromHand := queuedBytes_prefix (seen run.client reading) transfer reading point
  have counts := sends.counts
  rw [atPoint, Option.elim_some] at counts
  constructor
  case sending =>
    have sameTransfer := congrArg Option.isSome change.sameTransfer
    rw [Option.isSome_map, Option.isSome_map] at sameTransfer
    rw [sameClient, result]
    exact sameTransfer.trans sends.sending
  case sameTotal =>
    rw [sameClient, result]
    exact sends.sameTotal
  case begins =>
    rw [splits]
    exact ((List.prefix_append_right_inj _).mpr fromHand).trans hand
  case conserves =>
    intro following atFollowing goesOn
    have unfinished : point.finishing = false := by
      cases point with
      | finish => simp [samePoint, loopStatement] at atFollowing
      | _ => rfl
    have conserved := conserves_loopStatement (seen run.client reading) transfer reading
      (samePoint.symm.trans atFollowing) goesOn
    rw [splits, sameClient, List.append_assoc, List.append_assoc,
      ← List.append_assoc (queuedBytes (events _ _ _ _)), conserved, ← List.append_assoc]
    exact sends.conserves point atPoint unfinished
  case counts =>
    have fits : run.client.sendBytesSent + uncounted point < 2 ^ 64 := by
      have shorter := sends.begins.length_le
      omega
    rw [splits, List.length_append, sameClient, samePoint]
    rw [← counts]
    exact counts_loopStatement (seen run.client reading) transfer reading point fits
  case concluded =>
    have concluded := sends.concluded
    rw [atPoint] at concluded
    rw [sameClient, samePoint, endings, List.filter_append]
    exact concluded_loopStatement (seen run.client reading) transfer reading point sends.sending
      concluded

/-- A client whose loop is about to send two bytes. -/
def aboutToSend : RTCClient :=
  { initial 0 "alice#001" with readyState := some .Open }.beginSending
    (.ofFile "notes.txt" ⟨[1, 2], File.bounded_notes⟩) ⟨[1, 2], File.bounded_notes⟩

/-- The wait loop is left for one of its four reasons: a fill level at the low
watermark, a cancelled transfer, a channel that is not open, or the last wait. -/
def Hysteretic : LoopEvent → Prop
  | .leftWait backpressureWaitIters reading =>
      reading.given.bufferedAmount ≤ kBufferedAmountLowWatermark ∨
        reading.transferCancelled = true ∨ reading.isOpen = false ∨
        maxBackpressureWaits ≤ backpressureWaitIters
  | _ => True

instance : (event : LoopEvent) → Decidable (Hysteretic event)
  | .leftWait _ _ => inferInstanceAs (Decidable (_ ∨ _ ∨ _ ∨ _))
  | .queued _ | .noHandle | .cancelled | .done | .cleanup _ => .isTrue trivial

/-- No test of the wait loop after its first reads a fill level between the
watermarks, unless it stops for another reason. -/
def SteadyWait (run : LoopRun) (reading : LoopReading) : Prop :=
  ∀ iters, run.point = some (.waitTest iters) → 0 < iters →
    iters < maxBackpressureWaits → reading.transferCancelled = false →
    reading.isOpen = true → kBufferedAmountLowWatermark < reading.given.bufferedAmount →
    kBufferedAmountHighWatermark < reading.given.bufferedAmount

/-- Only the repeated test can leave the wait loop above the low watermark, and it
does so exactly when it reads a level that is not high any more. -/
theorem hysteretic_iff_steadyWait
    (stepped : run.step transfer reading = some (next, emitted)) :
    SteadyWait run reading ↔ ∀ event ∈ emitted, Hysteretic event := by
  obtain ⟨point, atPoint, -, -, rfl⟩ := step_spec stepped
  have sameOpen : (seen run.client reading).isDataChannelOpen = reading.isOpen := rfl
  have sameCancelled : (seen run.client reading).transferCancelled =
      reading.transferCancelled := rfl
  cases point with
  | waitTest iters =>
      simp only [SteadyWait, atPoint, Option.some.injEq, LoopPoint.waitTest.injEq,
        forall_eq', events, passed_waitTest_iff, sameOpen, sameCancelled]
      split
      case isTrue left =>
        obtain ⟨entered, leaves⟩ := left
        simp only [List.mem_singleton, forall_eq, Hysteretic]
        grind
      case isFalse stays =>
        simp only [List.not_mem_nil, false_implies, implies_true, iff_true]
        grind
  | waitBody iters =>
      simp only [SteadyWait, atPoint, events, passed_waitBody_iff]
      split
      case isTrue low => simp [Hysteretic, low]
      case isFalse => simp
  | entry | retrySend | cancelledTest =>
      simp only [SteadyWait, atPoint, events]
      split <;> simp [Hysteretic]
  | whileTest | openTest | read | retryTest | retryOpenTest | okTest | addBytes
  | reportProgress | completeTest | sendDone | finish =>
      simp [SteadyWait, atPoint, events, Hysteretic]

/-- Once entered, the wait loop is left only for its reasons, exactly in the runs in
which no repeated test reads a level between the watermarks. -/
theorem backpressure_hysteresis_iff {client : RTCClient} {readings : List LoopReading}
    {emitted : List LoopEvent} {final : LoopRun}
    (run : SendingLoopRun transfer client Machine.free readings emitted final) :
    (∀ event ∈ emitted, Hysteretic event) ↔
      SendingLoopRun transfer client SteadyWait readings emitted final :=
  run.good_iff_guarded (fun _ => True) Hysteretic trivial (fun _ _ => trivial)
    fun _ stepped => hysteretic_iff_steadyWait stepped

/-- An open channel that holds so much. -/
def filledWith (bufferedAmount : Nat) : LoopReading :=
  ⟨false, some .Open, ⟨bufferedAmount, chunkSize, false, true⟩⟩

/-- The channel stays above the high watermark in two tests and has drained to the
low one when the loop wakes up again. -/
def steadyReadings : List LoopReading :=
  [filledWith 0, filledWith 0, filledWith (700 * 1024), filledWith (600 * 1024),
    filledWith (600 * 1024), filledWith (128 * 1024)]

theorem backpressure_hysteresis_iff_steady :
    ∃ events final,
      SendingLoopRun ⟨0, 0⟩ aboutToSend SteadyWait steadyReadings events final ∧
        events = [.leftWait 2 (filledWith (128 * 1024))] ∧
        ∀ event ∈ events, Hysteretic event := by
  obtain ⟨final, events, run, left⟩ :
      ∃ final events,
        SendingLoopRun ⟨0, 0⟩ aboutToSend Machine.free steadyReadings events final ∧
          decide (events = [.leftWait 2 (filledWith (128 * 1024))]) = true :=
    Machine.run_of_exec_any (fun (_ : LoopRun) (events : List LoopEvent) =>
      decide (events = [.leftWait 2 (filledWith (128 * 1024))])) (by decide)
  have left : events = [.leftWait 2 (filledWith (128 * 1024))] := of_decide_eq_true left
  have hysteretic : ∀ event ∈ events, Hysteretic event := by
    rw [left]
    decide
  exact ⟨events, final, (backpressure_hysteresis_iff run).mp hysteretic, left, hysteretic⟩

/-- The channel drains to 600 KiB while the loop sleeps, and to 300 KiB before it
tests again. -/
def drainingReadings : List LoopReading :=
  [filledWith 0, filledWith 0, filledWith (700 * 1024), filledWith (600 * 1024),
    filledWith (300 * 1024)]

/-- The wait loop is left at 300 KiB, on an open channel and after one wait. -/
theorem backpressure_left_between_watermarks :
    ∃ events final,
      SendingLoopRun ⟨0, 0⟩ aboutToSend Machine.free drainingReadings events final ∧
        ¬ ∀ event ∈ events, Hysteretic event := by
  obtain ⟨final, events, run, left⟩ :
      ∃ final events,
        SendingLoopRun ⟨0, 0⟩ aboutToSend Machine.free drainingReadings events final ∧
          decide (¬ ∀ event ∈ events, Hysteretic event) = true :=
    Machine.run_of_exec_any (fun (_ : LoopRun) (events : List LoopEvent) =>
      decide ¬ ∀ event ∈ events, Hysteretic event) (by decide)
  exact ⟨events, final, run, of_decide_eq_true left⟩

end LoopRun

end WebrtcFileSender
