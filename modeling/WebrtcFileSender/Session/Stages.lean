import WebrtcFileSender.Session.Outlook

/-!
Contract: how far a sender has come whose transfer nothing disturbs.

Owns: the stages of such a sender. It waits for the accept, its loop reads, its
loop has handed over the last chunk and closes, the loop has returned. A cleanup
may run while the loop closes and reset the counters under it; the stage is
stated so that this does not matter.
-/

namespace WebrtcFileSender

namespace LoopPoint

/-- How many bytes the loop has read and not yet counted. -/
def held (point : LoopPoint) : Nat :=
  match point.chunk? with
  | none => 0
  | some chunk => chunk.data.length

/-- A loop that may still read, with `left` bytes of the file behind the handle. -/
def Reads (left : Nat) : LoopPoint → Prop
  | .whileTest | .addBytes _ | .reportProgress => True
  | .entry | .waitTest _ | .waitBody _ | .openTest | .read => 0 < left
  | .retryTest chunk retries | .retryOpenTest chunk retries | .retrySend chunk retries =>
      chunk.data ≠ [] ∧ retries < RTCClient.maxSendRetries
  | .okTest _ ok => ok = true
  | .cancelledTest | .completeTest | .sendDone | .finish _ => False

/-- A loop that has handed its last chunk to the channel. -/
def Closes : LoopPoint → Prop
  | .okTest _ ok => ok = true
  | .addBytes _ | .reportProgress | .whileTest | .cancelledTest | .completeTest
  | .sendDone => True
  | .finish error => error = none
  | _ => False

/-- The environment disturbs no statement: a read hands over at least one byte,
and the channel takes a chunk within the retries. -/
def Undisturbed (given : LoopInput) : LoopPoint → Prop
  | .read => given.readError = false ∧ 0 < given.readLength
  | .retrySend _ retries => retries + 1 = RTCClient.maxSendRetries → given.sendOk = true
  | _ => True

instance (given : LoopInput) : (point : LoopPoint) → Decidable (point.Undisturbed given)
  | .read => inferInstanceAs (Decidable (given.readError = false ∧ 0 < given.readLength))
  | .retrySend _ retries =>
      inferInstanceAs
        (Decidable (retries + 1 = RTCClient.maxSendRetries → given.sendOk = true))
  | .entry | .whileTest | .waitTest _ | .waitBody _ | .openTest | .retryTest _ _
  | .retryOpenTest _ _ | .okTest _ _ | .addBytes _ | .reportProgress | .cancelledTest
  | .completeTest | .sendDone | .finish _ => .isTrue trivial

theorem unsent_of_closes {point : LoopPoint} (closes : point.Closes) : point.unsent = [] := by
  cases point with
  | okTest chunk ok =>
      obtain rfl : ok = true := closes
      rfl
  | addBytes | reportProgress | whileTest | cancelledTest | completeTest | sendDone
  | finish => rfl
  | entry | waitTest | waitBody | openTest | read | retryTest | retryOpenTest | retrySend =>
      contradiction

end LoopPoint

namespace RTCClient

variable {client next : RTCClient} {source : Bytes} {loop : SendingLoop}
variable {handle : ReadHandle} {given : LoopInput}

/-- The offer has been made and no accept has arrived. -/
structure Waiting (client : RTCClient) (source : Bytes) : Prop where
  noLoop : client.fileQueue = []
  sending : ∃ handle, client.sendHandle = some handle ∧ handle.offset = 0
  total : client.sendTotalBytes = source.length
  sent : client.sendBytesSent = 0

/-- What was read is counted or held, and there may be more to read. -/
structure Reading (client : RTCClient) (source : Bytes) (loop : SendingLoop)
    (handle : ReadHandle) : Prop where
  queue : client.fileQueue = [loop]
  sending : client.sendHandle = some handle
  total : client.sendTotalBytes = source.length
  offset : handle.offset ≤ source.length
  counted : client.sendBytesSent + loop.point.held = handle.offset
  reads : loop.point.Reads (source.length - handle.offset)

/-- All was read and handed over. The counters are those of the whole file, or a
cleanup has reset them; either way the loop finds that it has sent enough. -/
structure Closing (client : RTCClient) (source : Bytes) (loop : SendingLoop) : Prop where
  queue : client.fileQueue = [loop]
  noUnread : client.unread = []
  closes : loop.point.Closes
  enough : client.sendTotalBytes ≤ client.sendBytesSent + loop.point.held
  bounded : client.sendBytesSent + loop.point.held ≤ source.length

/-- The loop has returned, and its cleanup is pending or has run. -/
structure Ended (client : RTCClient) : Prop where
  noLoop : client.fileQueue = []
  noUnread : client.unread = []
  settled : (∃ request, .cleanup none request ∈ client.mainQueue) ∨
    (client.sendHandle = none ∧ client.sendTotalBytes = 0 ∧ client.sendBytesSent = 0)

/-- Nothing tells of an end yet. -/
structure Clear (client : RTCClient) : Prop where
  noCleanup : ∀ error request, .cleanup error request ∉ client.mainQueue
  noDone : ∀ tag, ⟨.ftDone, tag⟩ ∉ client.outgoing

/-- The sender after the accept has arrived. -/
inductive Active (client : RTCClient) (source : Bytes) : Prop
  | reading (loop : SendingLoop) (handle : ReadHandle)
      (reading : client.Reading source loop handle)
      (clear : client.Clear)
  | closing (loop : SendingLoop)
      (closing : client.Closing source loop)
  | ended (ended : client.Ended)

/-! ## One statement of the loop -/

/-- A read that nothing disturbs and that is not at the end of the file hands
over a chunk. -/
theorem readChunk_of_behind
    (sending : client.sendHandle = some handle)
    (sourceFile : handle.file.bytes = source)
    (behind : 0 < source.length - handle.offset)
    (noError : given.readError = false)
    (available : 0 < given.readLength) :
    ∃ chunk, client.readChunk given =
        some ({ handle with offset := handle.offset + chunk.data.length }, chunk) ∧
      chunk.data ≠ [] ∧ handle.offset + chunk.data.length ≤ source.length := by
  have positive : 0 < min given.readLength chunkSize := Nat.lt_min.mpr ⟨available, by decide⟩
  cases result : client.readChunk given with
  | none =>
      simp only [readChunk, sending, noError, Bool.false_eq_true, if_false, sourceFile,
        List.length_take, List.length_drop] at result
      split at result
      case isTrue empty => omega
      case isFalse => contradiction
  | some read =>
      obtain ⟨moved, chunk⟩ := read
      obtain ⟨old, isOld, -, nonempty, data, rfl⟩ := client.readChunk_spec result
      obtain rfl : handle = old := Option.some.inj (sending.symm.trans isOld)
      have fits : chunk.data.length ≤ source.length - handle.offset := by
        rw [data, sourceFile, List.length_take, List.length_drop]
        exact Nat.min_le_right _ _
      exact ⟨chunk, rfl, nonempty, by omega⟩

/-- A statement of a loop that reads leads to another one, or the file is read
and handed over. -/
theorem Reading.statement
    (reading : client.Reading source loop handle)
    (sourceFile : handle.file.bytes = source)
    (small : source.length < 2 ^ 63)
    (isOpen : client.isDataChannelOpen = true)
    (notCancelled : client.transferCancelled = false)
    (undisturbed : loop.point.Undisturbed given) :
    ∃ point, (client.loopStatement loop.transfer given loop.point).2 = some point ∧
      point.finishing = false ∧
      ((∃ moved, Reading
          { (client.loopStatement loop.transfer given loop.point).1 with
            fileQueue := [⟨loop.transfer, point⟩] } source ⟨loop.transfer, point⟩ moved) ∨
        Closing
          { (client.loopStatement loop.transfer given loop.point).1 with
            fileQueue := [⟨loop.transfer, point⟩] } source ⟨loop.transfer, point⟩) := by
  obtain ⟨transfer, point⟩ := loop
  obtain ⟨queue, sending, total, offset, counted, reads⟩ := reading
  dsimp only at counted reads undisturbed ⊢
  have keep : ∀ following : LoopPoint, following.held = point.held →
      following.Reads (source.length - handle.offset) →
      Reading { client with fileQueue := [⟨transfer, following⟩] } source
        ⟨transfer, following⟩ handle := by
    intro following sameHeld stillReads
    refine ⟨rfl, sending, total, offset, ?_, stillReads⟩
    rw [sameHeld]
    exact counted
  cases point with
  | entry =>
      have notNone : client.sendHandle.isNone = false := by rw [sending]; rfl
      simp only [loopStatement, notNone, Bool.false_eq_true, if_false]
      exact ⟨.whileTest, rfl, rfl, .inl ⟨handle, keep .whileTest rfl trivial⟩⟩
  | whileTest =>
      have allCounted : client.sendBytesSent = handle.offset := counted
      simp only [loopStatement]
      split
      case isTrue more =>
        have behind : 0 < source.length - handle.offset := by
          have uncounted := more.2
          omega
        exact ⟨.waitTest 0, rfl, rfl, .inl ⟨handle, keep (.waitTest 0) rfl behind⟩⟩
      case isFalse enough =>
        -- Everything is counted, so the handle stands at the end of the file.
        have complete : client.sendTotalBytes ≤ client.sendBytesSent :=
          Nat.le_of_not_lt fun more => enough ⟨notCancelled, more⟩
        have noUnread : client.unread = [] := by
          rw [unread, sending]
          apply List.drop_eq_nil_of_le
          rw [sourceFile]
          omega
        refine ⟨.cancelledTest, rfl, rfl, .inr ⟨rfl, noUnread, trivial, ?_, ?_⟩⟩
        · exact complete
        · exact Nat.le_trans (Nat.le_of_eq allCounted) offset
  | waitTest iters =>
      simp only [loopStatement]
      split
      · exact ⟨.waitBody iters, rfl, rfl, .inl ⟨handle, keep (.waitBody iters) rfl reads⟩⟩
      · exact ⟨.openTest, rfl, rfl, .inl ⟨handle, keep .openTest rfl reads⟩⟩
  | waitBody iters =>
      simp only [loopStatement]
      split
      · exact ⟨.openTest, rfl, rfl, .inl ⟨handle, keep .openTest rfl reads⟩⟩
      · exact ⟨.waitTest (iters + 1), rfl, rfl,
          .inl ⟨handle, keep (.waitTest (iters + 1)) rfl reads⟩⟩
  | openTest =>
      simp only [loopStatement, isOpen, if_true]
      exact ⟨.read, rfl, rfl, .inl ⟨handle, keep .read rfl reads⟩⟩
  | read =>
      have allCounted : client.sendBytesSent = handle.offset := counted
      obtain ⟨chunk, result, nonempty, fits⟩ :=
        readChunk_of_behind sending sourceFile reads undisturbed.1 undisturbed.2
      simp only [loopStatement, result]
      refine ⟨.retryTest chunk 0, rfl, rfl, .inl ⟨_, rfl, rfl, total, fits, ?_, nonempty, ?_⟩⟩
      · dsimp only [LoopPoint.held, LoopPoint.chunk?]
        rw [allCounted]
      · decide
  | retryTest chunk retries =>
      simp only [loopStatement]
      split
      case isTrue =>
        exact ⟨.retryOpenTest chunk retries, rfl, rfl,
          .inl ⟨handle, keep (.retryOpenTest chunk retries) rfl reads⟩⟩
      case isFalse refused => exact absurd ⟨reads.2, notCancelled⟩ refused
  | retryOpenTest chunk retries =>
      simp only [loopStatement, isOpen, if_true]
      exact ⟨.retrySend chunk retries, rfl, rfl,
        .inl ⟨handle, keep (.retrySend chunk retries) rfl reads⟩⟩
  | retrySend chunk retries =>
      simp only [loopStatement]
      split
      case isTrue =>
        rw [sendData_eq]
        exact ⟨.okTest chunk true, rfl, rfl,
          .inl ⟨handle, rfl, sending, total, offset, counted, rfl⟩⟩
      case isFalse refused =>
        have again : retries + 1 < maxSendRetries := by
          have within := reads.2
          have notLast : retries + 1 ≠ maxSendRetries :=
            fun last => refused ⟨undisturbed last, isOpen⟩
          omega
        exact ⟨.retryTest chunk (retries + 1), rfl, rfl,
          .inl ⟨handle, keep (.retryTest chunk (retries + 1)) rfl ⟨reads.1, again⟩⟩⟩
  | okTest chunk ok =>
      obtain rfl : ok = true := reads
      exact ⟨.addBytes chunk, rfl, rfl, .inl ⟨handle, keep (.addBytes chunk) rfl trivial⟩⟩
  | addBytes chunk =>
      have added : client.sendBytesSent + chunk.data.length = handle.offset := counted
      have noOverflow : u64 (client.sendBytesSent + chunk.data.length) = handle.offset := by
        rw [added]
        exact Nat.mod_eq_of_lt (by omega)
      exact ⟨.reportProgress, rfl, rfl,
        .inl ⟨handle, rfl, sending, total, offset, noOverflow, trivial⟩⟩
  | reportProgress =>
      exact ⟨.whileTest, rfl, rfl,
        .inl ⟨handle, rfl, sending, total, offset, counted, trivial⟩⟩
  | cancelledTest | completeTest | sendDone | finish => contradiction

/-- A statement of a loop that closes leads to another one, or the loop returns
and leaves a cleanup without an error. -/
theorem Closing.statement
    (closing : client.Closing source loop)
    (small : source.length < 2 ^ 63)
    (notCancelled : client.transferCancelled = false) :
    (∃ point, (client.loopStatement loop.transfer given loop.point).2 = some point ∧
      Closing
        { (client.loopStatement loop.transfer given loop.point).1 with
          fileQueue := [⟨loop.transfer, point⟩] } source ⟨loop.transfer, point⟩) ∨
    ((client.loopStatement loop.transfer given loop.point).2 = none ∧
      Ended
        { (client.loopStatement loop.transfer given loop.point).1 with fileQueue := [] }) := by
  obtain ⟨transfer, point⟩ := loop
  obtain ⟨queue, noUnread, closes, enough, bounded⟩ := closing
  dsimp only at closes enough bounded ⊢
  have keep : ∀ following : LoopPoint, following.held = point.held → following.Closes →
      Closing { client with fileQueue := [⟨transfer, following⟩] } source
        ⟨transfer, following⟩ := by
    intro following sameHeld stillCloses
    refine ⟨rfl, noUnread, stillCloses, ?_, ?_⟩
    · rw [sameHeld]
      exact enough
    · rw [sameHeld]
      exact bounded
  cases point with
  | whileTest =>
      have notLess : ¬ client.sendBytesSent < client.sendTotalBytes := Nat.not_lt.mpr enough
      simp only [loopStatement, notLess, and_false, if_false]
      exact .inl ⟨.cancelledTest, rfl, keep .cancelledTest rfl trivial⟩
  | okTest chunk ok =>
      obtain rfl : ok = true := closes
      exact .inl ⟨.addBytes chunk, rfl, keep (.addBytes chunk) rfl trivial⟩
  | addBytes chunk =>
      have added : client.sendBytesSent + chunk.data.length ≤ source.length := bounded
      have noOverflow : u64 (client.sendBytesSent + chunk.data.length) =
          client.sendBytesSent + chunk.data.length := Nat.mod_eq_of_lt (by omega)
      refine .inl ⟨.reportProgress, rfl, rfl, noUnread, trivial, ?_, ?_⟩
      · dsimp only [loopStatement]
        rw [noOverflow]
        exact enough
      · dsimp only [loopStatement]
        rw [noOverflow]
        exact bounded
  | reportProgress =>
      exact .inl ⟨.whileTest, rfl, rfl, noUnread, trivial, enough, bounded⟩
  | cancelledTest =>
      simp only [loopStatement]
      split
      case isTrue cancelled =>
        rw [notCancelled] at cancelled
        contradiction
      case isFalse => exact .inl ⟨.completeTest, rfl, keep .completeTest rfl trivial⟩
  | completeTest =>
      have complete : client.sendTotalBytes ≤ client.sendBytesSent := enough
      simp only [loopStatement, complete, if_true]
      exact .inl ⟨.sendDone, rfl, keep .sendDone rfl trivial⟩
  | sendDone =>
      simp only [loopStatement, sendControlJSON_eq]
      exact .inl ⟨.finish none, rfl, rfl, noUnread, rfl, enough, bounded⟩
  | finish error =>
      obtain rfl : error = none := closes
      refine .inr ⟨rfl, rfl, noUnread, .inl ⟨⟨some transfer, false, client.begun⟩, ?_⟩⟩
      simp [loopStatement, cleanupTransferWithError_eq]
  | entry | waitTest | waitBody | openTest | read | retryTest | retryOpenTest | retrySend =>
      contradiction

/-- A loop that reads, with nothing in hand and nothing left to read, closes. -/
theorem Reading.closing
    (reading : client.Reading source loop handle)
    (sourceFile : handle.file.bytes = source)
    (noHand : loop.point.unsent = [])
    (noUnread : client.unread = []) :
    client.Closing source loop := by
  obtain ⟨transfer, point⟩ := loop
  obtain ⟨queue, sending, total, offset, counted, reads⟩ := reading
  have atEnd : source.length - handle.offset = 0 := by
    rw [unread, sending] at noUnread
    have empty := congrArg List.length noUnread
    simp only [List.length_drop, sourceFile, List.length_nil] at empty
    exact empty
  rw [atEnd] at reads
  refine ⟨queue, noUnread, ?_, ?_, ?_⟩
  · cases point with
    | okTest chunk ok => exact reads
    | whileTest | addBytes | reportProgress => trivial
    | retryTest chunk | retryOpenTest chunk | retrySend chunk => exact absurd noHand reads.1
    | entry | waitTest | waitBody | openTest | read => exact absurd reads (Nat.lt_irrefl 0)
    | cancelledTest | completeTest | sendDone | finish => contradiction
  · rw [counted, total]
    omega
  · rw [counted]
    exact offset

/-! ## The loop goes on -/

variable {transfer : TransferId} {input : Input} {calls : List DelegateCall}

theorem Closing.spent (closing : client.Closing source loop) :
    client.hand = [] ∧ client.unread = [] := by
  refine ⟨?_, closing.noUnread⟩
  rw [hand, closing.queue]
  simp only [List.flatMap_cons, List.flatMap_nil, List.append_nil]
  exact LoopPoint.unsent_of_closes closing.closes

theorem Ended.spent (ended : client.Ended) : client.hand = [] ∧ client.unread = [] := by
  refine ⟨?_, ended.noUnread⟩
  rw [hand, ended.noLoop]
  rfl

/-- As long as anything is left to send, nothing tells of an end. -/
theorem Active.clear_or_spent (active : client.Active source) :
    client.Clear ∨ (client.hand = [] ∧ client.unread = []) := by
  cases active with
  | reading loop handle reading clear => exact .inl clear
  | closing loop closing => exact .inr closing.spent
  | ended ended => exact .inr ended.spent

theorem outlook_of_spent {pending : Bool}
    (isOpen : client.isDataChannelOpen = true)
    (spent : client.hand = [] ∧ client.unread = []) :
    client.outlook pending = client.flight := by
  rw [outlook, isOpen, spent.1, spent.2]
  simp

/-- A sender with nothing ahead of it is spent. -/
theorem Active.spent_of_outlook
    (active : client.Active source)
    (isOpen : client.isDataChannelOpen = true)
    (nothing : client.outlook false = []) :
    client.hand = [] ∧ client.unread = [] := by
  cases active with
  | reading loop handle reading clear =>
      have notFinishing : loop.point.finishing = false := by
        have reads := reading.reads
        cases atPoint : loop.point with
        | finish error =>
            rw [atPoint] at reads
            exact reads.elim
        | entry | whileTest | waitTest | waitBody | openTest | read | retryTest
        | retryOpenTest | retrySend | okTest | addBytes | reportProgress | cancelledTest
        | completeTest | sendDone => rfl
      have stillReads : client.reads = true := by
        simp [reads, reading.queue, notFinishing]
      rw [outlook, isOpen, stillReads] at nothing
      simp only [if_true, Bool.true_or, List.append_eq_nil_iff] at nothing
      exact ⟨nothing.1.2, nothing.2⟩
  | closing loop closing => exact closing.spent
  | ended ended => exact ended.spent

theorem Clear.of_effect
    (clear : client.Clear)
    (notRequested : ∀ error request, ¬ Requests client input error request)
    (notEmitted : ∀ tag, ¬ Emits client input ⟨.ftDone, tag⟩)
    (effect : Effect client input next calls) :
    next.Clear := by
  refine ⟨?_, ?_⟩
  · intro error request member
    rcases mem_mainQueue_of_effect effect member with old | requested
    · exact clear.noCleanup error request old
    · exact notRequested error request requested
  · intro tag member
    rcases mem_outgoing_of_effect effect member with old | emitted
    · exact clear.noDone tag old
    · exact notEmitted tag emitted

theorem Clear.of_taken (clear : client.Clear)
    {block : MainBlock} {rest : List MainBlock}
    (queue : client.mainQueue = block :: rest) :
    { client with mainQueue := rest }.Clear := by
  refine ⟨?_, clear.noDone⟩
  intro error request member
  apply clear.noCleanup error request
  rw [queue]
  exact List.mem_cons_of_mem _ member

/-- A loop that reads requests no cleanup in its next statement. -/
theorem Reading.requests_nothing
    (reading : client.Reading source loop handle)
    (error : Option NSError) (request : CleanupRequest) :
    ¬ Requests client (.runFile given) error request := by
  intro requested
  cases requested with
  | finish given loop rest error inQueue atPoint =>
      obtain rfl := (List.cons.inj (reading.queue.symm.trans inQueue)).1
      have reads := reading.reads
      rw [atPoint] at reads
      exact reads

/-- Nor does it tell the receiver of the end. -/
theorem Reading.emits_no_done
    (reading : client.Reading source loop handle)
    (tag : Option TransferId) :
    ¬ Emits client (.runFile given) ⟨.ftDone, tag⟩ := by
  intro emitted
  cases emitted with
  | done given loop rest inQueue atPoint =>
      obtain rfl := (List.cons.inj (reading.queue.symm.trans inQueue)).1
      have reads := reading.reads
      rw [atPoint] at reads
      exact reads

/-- A statement of an undisturbed loop keeps the sender active and loses
nothing. -/
theorem Active.looped
    (active : client.Active source)
    (role : SenderRole client transfer source)
    (small : source.length < 2 ^ 63)
    (isOpen : client.isDataChannelOpen = true)
    (notCancelled : client.transferCancelled = false)
    {rest : List SendingLoop}
    (queue : client.fileQueue = loop :: rest)
    (undisturbed : loop.point.Undisturbed given)
    (effect : Effect client (.runFile given)
      { (client.loopStatement loop.transfer given loop.point).1 with
        fileQueue := advanceQueue loop rest
          (client.loopStatement loop.transfer given loop.point).2 } []) :
    Active
      { (client.loopStatement loop.transfer given loop.point).1 with
        fileQueue := advanceQueue loop rest
          (client.loopStatement loop.transfer given loop.point).2 } source ∧
    RTCClient.outlook
      { (client.loopStatement loop.transfer given loop.point).1 with
        fileQueue := advanceQueue loop rest
          (client.loopStatement loop.transfer given loop.point).2 } false =
      client.outlook false := by
  have alone := role.alone queue
  subst alone
  have before : client.outlook false = client.outlookAt (some loop.point) :=
    client.outlook_eq_outlookAt loop isOpen queue
  rw [before, client.outlook_looped loop isOpen given]
  have outlooks := client.loopStatement_outlook_cases loop.transfer isOpen given loop.point
  cases active with
  | reading head handle reading clear =>
      obtain rfl : head = loop := by
        have sameQueue := reading.queue.symm.trans queue
        exact (List.cons.inj sameQueue).1
      have sourceFile := (role.handle handle reading.sending).2
      obtain ⟨point, continues, notFinishing, stage⟩ :=
        reading.statement sourceFile small isOpen notCancelled undisturbed
      have stillClear := clear.of_effect reading.requests_nothing reading.emits_no_done effect
      constructor
      · rw [continues] at stillClear ⊢
        rcases stage with ⟨moved, reads⟩ | closes
        · exact .reading _ moved reads stillClear
        · exact .closing _ closes
      · rcases outlooks with conserved | ⟨-, returned | ⟨error, finishing⟩⟩
        · exact conserved
        · rw [continues] at returned
          contradiction
        · obtain rfl := Option.some.inj (continues.symm.trans finishing)
          contradiction
  | closing head closing =>
      obtain rfl : head = loop := (List.cons.inj (closing.queue.symm.trans queue)).1
      constructor
      · rcases closing.statement small notCancelled with
          ⟨point, continues, closes⟩ | ⟨returned, ended⟩
        · rw [continues]
          exact .closing _ closes
        · rw [returned]
          exact .ended ended
      · rcases outlooks with conserved | ⟨cut, -⟩
        · exact conserved
        · rw [cut, outlookAt, LoopPoint.unsent_of_closes closing.closes, closing.noUnread,
            ite_self, List.append_nil, List.append_nil]
  | ended ended =>
      rw [ended.noLoop] at queue
      contradiction

/-! ## Other effects -/

/-- The stage depends on the loop, the handle, the counters, the pending cleanups
and the `ft_done`s under way. -/
theorem Active.frame
    (active : client.Active source)
    (sameLoops : next.fileQueue = client.fileQueue)
    (sameSend : next.sendHandle = client.sendHandle)
    (sameTotal : next.sendTotalBytes = client.sendTotalBytes)
    (sameSent : next.sendBytesSent = client.sendBytesSent)
    (cleanups : ∀ error request, .cleanup error request ∈ next.mainQueue ↔
      .cleanup error request ∈ client.mainQueue)
    (dones : ∀ tag, ⟨.ftDone, tag⟩ ∈ next.outgoing → ⟨.ftDone, tag⟩ ∈ client.outgoing) :
    next.Active source := by
  have sameUnread : next.unread = client.unread := by rw [unread, sameSend, unread]
  cases active with
  | reading loop handle reading clear =>
      refine .reading loop handle
        ⟨sameLoops.trans reading.queue, sameSend.trans reading.sending,
          sameTotal.trans reading.total, reading.offset, ?_, reading.reads⟩ ⟨?_, ?_⟩
      · rw [sameSent]
        exact reading.counted
      · intro error request member
        exact clear.noCleanup error request ((cleanups error request).mp member)
      · intro tag member
        exact clear.noDone tag (dones tag member)
  | closing loop closing =>
      refine .closing loop ⟨sameLoops.trans closing.queue, sameUnread.trans closing.noUnread,
        closing.closes, ?_, ?_⟩
      · rw [sameTotal, sameSent]
        exact closing.enough
      · rw [sameSent]
        exact closing.bounded
  | ended ended =>
      refine .ended ⟨sameLoops.trans ended.noLoop, sameUnread.trans ended.noUnread, ?_⟩
      rcases ended.settled with ⟨request, pending⟩ | ⟨released, noTotal, noneSent⟩
      · exact .inl ⟨request, (cleanups none request).mpr pending⟩
      · exact .inr ⟨sameSend.trans released, sameTotal.trans noTotal,
          sameSent.trans noneSent⟩

/-- A report to the delegate touches nothing. -/
theorem Active.reported
    (active : client.Active source)
    {block : MainBlock} {rest : List MainBlock}
    (queue : client.mainQueue = block :: rest)
    (reports : block.Reports) :
    { client with mainQueue := rest }.Active source := by
  refine active.frame rfl rfl rfl rfl ?_ (fun _ => id)
  intro error request
  rw [queue, List.mem_cons]
  constructor
  · exact .inr
  · rintro (rfl | inRest)
    · exact absurd reports id
    · exact inRest

/-- A cleanup that runs while the loop closes leaves it closing. -/
theorem Active.cleaned
    (active : client.Active source)
    {error : Option NSError} {request : CleanupRequest} {rest : List MainBlock}
    (queue : client.mainQueue = .cleanup error request :: rest) :
    { client with mainQueue := rest }.resetTransfer.Active source ∧
      client.hand = [] ∧ client.unread = [] := by
  cases active with
  | reading loop handle reading clear =>
      have noCleanup := clear.noCleanup error request
      rw [queue] at noCleanup
      exact absurd List.mem_cons_self noCleanup
  | closing loop closing =>
      refine ⟨.closing loop ⟨closing.queue, rfl, closing.closes, Nat.zero_le _, ?_⟩,
        closing.spent⟩
      have bounded := closing.bounded
      have fromZero : { client with mainQueue := rest }.resetTransfer.sendBytesSent = 0 := rfl
      omega
  | ended ended =>
      exact ⟨.ended ⟨ended.noLoop, rfl, .inr ⟨rfl, rfl, rfl⟩⟩, ended.spent⟩

/-- The receiver's `ft_done` arrives after the last chunk has left. -/
theorem Active.acknowledged
    (active : client.Active source)
    (role : SenderRole client transfer source)
    (spent : client.hand = [] ∧ client.unread = [])
    (tag : Option TransferId) :
    (client.cleanupTransferWithError none tag true).Active source := by
  cases active with
  | reading loop handle reading clear =>
      have noHand : loop.point.unsent = [] := by
        have empty := spent.1
        rw [hand, reading.queue] at empty
        simpa using empty
      have closing := reading.closing (role.handle handle reading.sending).2 noHand spent.2
      exact .closing loop
        ⟨closing.queue, closing.noUnread, closing.closes, closing.enough, closing.bounded⟩
  | closing loop closing =>
      exact .closing loop
        ⟨closing.queue, closing.noUnread, closing.closes, closing.enough, closing.bounded⟩
  | ended ended =>
      refine .ended ⟨ended.noLoop, ended.noUnread, .inl ⟨⟨tag, true, client.begun⟩, ?_⟩⟩
      rw [cleanupTransferWithError_eq]
      exact List.mem_append_right _ List.mem_cons_self

/-- The accept starts the loop at the beginning of the file. -/
theorem Waiting.started
    (waiting : client.Waiting source)
    (nonempty : source ≠ [])
    (clear : client.Clear)
    (transfer : TransferId) :
    (client.startSendingLoop transfer).Active source := by
  obtain ⟨handle, sending, atStart⟩ := waiting.sending
  have positive : 0 < source.length := List.length_pos_iff.mpr nonempty
  refine .reading ⟨transfer, .entry⟩ handle ⟨?_, sending, waiting.total, ?_, ?_, ?_⟩
    ⟨clear.noCleanup, clear.noDone⟩
  · rw [startSendingLoop, waiting.noLoop]
    rfl
  · omega
  · rw [atStart]
    exact waiting.sent
  · rw [atStart]
    exact positive

/-- What waits to be read is the whole file. -/
theorem Waiting.unread
    (waiting : client.Waiting source)
    (role : SenderRole client transfer source) :
    client.unread = source := by
  obtain ⟨handle, sending, atStart⟩ := waiting.sending
  rw [RTCClient.unread, sending]
  simp only [atStart, List.drop_zero]
  exact (role.handle handle sending).2

end RTCClient

end WebrtcFileSender
