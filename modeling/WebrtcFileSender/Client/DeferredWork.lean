import WebrtcFileSender.Client.Effect

/-!
Contract: deferred work and the transfer it was meant for.

`cleanupTransferWithError:` runs later on the main queue and clears whatever is
current by then; `startSendingLoop` runs later on the file queue and reads
whatever handle is current by then. A transfer or offer that begins in between
is hit by work that was requested for an earlier one.

Owns: what it means that a queued block or a loop statement stays with its own
transfer, the condition on the two inputs that begin something new, the
invariant under that condition, and runs that break it.
-/

namespace WebrtcFileSender

namespace RTCClient

/-- Every offer or transfer the client holds had begun before `stamp`. -/
def BegunBefore (client : RTCClient) (stamp : Nat) : Prop :=
  (∀ handle ∈ client.sendHandle, handle.transfer.seq < stamp) ∧
  (∀ handle ∈ client.recvHandle, handle.birth < stamp) ∧
  (client.incomingFileName.isSome = true → client.incomingBirth < stamp)

/-- The deferred work an input performs stays with its own transfer. A cleanup
clears only what had begun when it was requested. A loop statement reads from,
and sends chunks or `ft_done` for, no transfer later than its own. -/
def StaysWithOwnTransfer (client : RTCClient) : Input → Prop
  | .runMain =>
      ∀ error request rest, client.mainQueue = .cleanup error request :: rest →
        client.BegunBefore request.stamp
  | .runFile _ =>
      ∀ loop rest, client.fileQueue = loop :: rest →
        (loop.point = .read ∨ loop.point = .sendDone →
          ∀ handle ∈ client.sendHandle, handle.transfer.seq ≤ loop.transfer.seq) ∧
        (∀ chunk retries, loop.point = .retrySend chunk retries →
          chunk.transfer.seq ≤ loop.transfer.seq)
  | _ => True

/-- No cleanup is waiting on the main queue. -/
def noCleanupPending (client : RTCClient) : Bool :=
  client.mainQueue.all fun
    | .cleanup _ _ => false
    | _ => true

/-- The condition on an input: a send begins only when no cleanup is pending and
no loop is queued or running, and an offer becomes the pending offer only when
no cleanup is pending. -/
def BeginsSettled (client : RTCClient) : Input → Prop
  | .sendFileAtURL fileURL =>
      client.sendSucceeds fileURL = true →
        client.noCleanupPending = true ∧ client.fileQueue = []
  | .receive ⟨.ftOffer _ _ _, _⟩ _ =>
      client.sendHandle.isNone = true → client.recvHandle.isNone = true →
        client.noCleanupPending = true
  | _ => True

instance (client : RTCClient) : (input : Input) → Decidable (client.BeginsSettled input)
  | .sendFileAtURL fileURL =>
      inferInstanceAs (Decidable (client.sendSucceeds fileURL = true →
        client.noCleanupPending = true ∧ client.fileQueue = []))
  | .receive ⟨.ftOffer _ _ _, _⟩ _ =>
      inferInstanceAs (Decidable (client.sendHandle.isNone = true →
        client.recvHandle.isNone = true → client.noCleanupPending = true))
  | .receive ⟨.hello _ _ _, _⟩ _ | .receive ⟨.ftAccept, _⟩ _ | .receive ⟨.ftReject _, _⟩ _
  | .receive ⟨.ftCancel, _⟩ _ | .receive ⟨.ftDone, _⟩ _ | .receive ⟨.binary _, _⟩ _
  | .cancelFileTransfer | .acceptIncomingFileToURL _ | .rejectIncomingFileWithReason _
  | .transmit | .runMain | .runFile _ | .iceConnectionState _ | .dataChannelState _ =>
      .isTrue trivial

variable {client next : RTCClient}

theorem not_mem_of_noCleanupPending (settled : client.noCleanupPending = true)
    (error : Option NSError) (request : CleanupRequest) :
    .cleanup error request ∉ client.mainQueue := by
  intro member
  have passes := List.all_eq_true.mp settled _ member
  contradiction

/-! ## The invariant -/

/-- Everything held began earlier, every pending cleanup was requested after
everything held began, and no queued loop is older than the open send handle or
holds a later chunk. -/
structure DeferredInvariant (client : RTCClient) : Prop where
  begunBefore : client.BegunBefore client.begun
  cleanups : ∀ error request, .cleanup error request ∈ client.mainQueue →
    client.BegunBefore request.stamp
  loops : ∀ loop ∈ client.fileQueue,
    (∀ handle ∈ client.sendHandle, handle.transfer.seq ≤ loop.transfer.seq) ∧
    (∀ chunk ∈ loop.point.chunk?, chunk.transfer.seq ≤ loop.transfer.seq)

namespace DeferredInvariant

theorem initial (clientId : Nat) (helloName : String) :
    DeferredInvariant (RTCClient.initial clientId helloName) where
  begunBefore := by simp [BegunBefore, RTCClient.initial]
  cleanups := by simp [RTCClient.initial]
  loops := by simp [RTCClient.initial]

/-- A step that keeps what is held and requests further cleanups now, if any,
keeps the invariant. -/
theorem keep
    (invariant : DeferredInvariant client)
    (sameSend : next.sendHandle = client.sendHandle)
    (sameReceive : next.recvHandle = client.recvHandle)
    (sameIncoming : next.incomingFileName = client.incomingFileName)
    (sameBirth : next.incomingBirth = client.incomingBirth)
    (sameBegun : next.begun = client.begun)
    (sameLoops : next.fileQueue = client.fileQueue)
    (queue : ∀ error request, .cleanup error request ∈ next.mainQueue →
      .cleanup error request ∈ client.mainQueue ∨ request.stamp = client.begun) :
    DeferredInvariant next := by
  have sameHeld : ∀ stamp, next.BegunBefore stamp ↔ client.BegunBefore stamp := by
    intro stamp
    unfold BegunBefore
    rw [sameSend, sameReceive, sameIncoming, sameBirth]
  constructor
  · rw [sameHeld, sameBegun]
    exact invariant.begunBefore
  · intro error request member
    rw [sameHeld]
    rcases queue error request member with old | now
    · exact invariant.cleanups error request old
    · rw [now]
      exact invariant.begunBefore
  · intro loop member
    rw [sameLoops] at member
    rw [sameSend]
    exact invariant.loops loop member

/-- A main queue that grew by blocks requested now. -/
private theorem mem_appended {blocks : List MainBlock} {stamp : Nat}
    (requested : ∀ error request, .cleanup error request ∈ blocks → request.stamp = stamp)
    (queue : List MainBlock) (error : Option NSError) (request : CleanupRequest)
    (member : .cleanup error request ∈ queue ++ blocks) :
    .cleanup error request ∈ queue ∨ request.stamp = stamp :=
  (List.mem_append.mp member).imp_right (requested error request)

/-- A send that begins with nothing deferred. -/
theorem begin
    (invariant : DeferredInvariant client)
    (noCleanup : client.noCleanupPending = true)
    (noLoop : client.fileQueue = [])
    (cancelled : Bool) (file : File) (total sent : Nat) (outgoing : List Packet) :
    DeferredInvariant
      { client with
        transferCancelled := cancelled
        sendHandle := some ⟨⟨client.clientId, client.begun⟩, file, 0⟩
        sendTotalBytes := total
        sendBytesSent := sent
        begun := client.begun + 1
        outgoing := outgoing } := by
  refine ⟨?_, ?_, ?_⟩
  · obtain ⟨-, receiving, incoming⟩ := invariant.begunBefore
    refine ⟨?_, ?_, ?_⟩
    · intro handle same
      obtain rfl := Option.some.inj same
      exact Nat.lt_succ_self client.begun
    · intro handle same
      exact Nat.lt_succ_of_lt (receiving handle same)
    · intro pending
      exact Nat.lt_succ_of_lt (incoming pending)
  · intro error request member
    exact absurd member (not_mem_of_noCleanupPending noCleanup error request)
  · intro loop member
    have inEmpty : loop ∈ client.fileQueue := member
    rw [noLoop] at inEmpty
    contradiction

theorem accept
    (invariant : DeferredInvariant client)
    (accepts : client.canAccept = true)
    (path : String) (outgoing : List Packet) (disk : String → Bytes) :
    DeferredInvariant
      { client with
        disk := disk
        recvHandle := some ⟨path, client.incomingTransfer, client.incomingBirth⟩
        recvBytesReceived := 0
        outgoing := outgoing } := by
  have pending : client.incomingFileName.isSome = true := by
    simp only [canAccept, Bool.and_eq_true] at accepts
    exact accepts.1.1
  have held : ∀ {stamp}, client.BegunBefore stamp →
      BegunBefore
        { client with
          disk := disk
          recvHandle := some ⟨path, client.incomingTransfer, client.incomingBirth⟩
          recvBytesReceived := 0
          outgoing := outgoing } stamp := by
    intro stamp before
    refine ⟨before.1, ?_, before.2.2⟩
    intro handle same
    obtain rfl := Option.some.inj same
    exact before.2.2 pending
  exact ⟨held invariant.begunBefore,
    fun error request member => held (invariant.cleanups error request member),
    invariant.loops⟩

theorem loop
    (invariant : DeferredInvariant client)
    {input : LoopInput} {loop : SendingLoop} {rest : List SendingLoop}
    (queue : client.fileQueue = loop :: rest) :
    DeferredInvariant
      { (client.loopStatement loop.transfer input loop.point).1 with
        fileQueue := advanceQueue loop rest
          (client.loopStatement loop.transfer input loop.point).2 } := by
  have headHolds := invariant.loops loop (by simp [queue])
  have restHolds : ∀ other ∈ rest, _ := fun other member =>
    invariant.loops other (by simp [queue, member])
  -- The point after the statement holds no later chunk either.
  have chunkHolds : ∀ point, (client.loopStatement loop.transfer input loop.point).2 =
      some point → ∀ chunk ∈ point.chunk?, chunk.transfer.seq ≤ loop.transfer.seq := by
    intro point continues chunk holds
    rcases client.loopStatement_chunk continues holds with
      before | ⟨-, handle, sending, same⟩
    · exact headHolds.2 chunk before
    · rw [same]
      exact headHolds.1 handle sending
  obtain ⟨handle, sent, packets, blocks, result, change⟩ :=
    client.loopStatement_change loop.transfer input loop.point
  have sameSeq : ∀ {bound}, (∀ old ∈ client.sendHandle, old.transfer.seq < bound) →
      ∀ new ∈ handle, new.transfer.seq < bound := by
    intro bound below new isNew
    obtain ⟨old, isOld, sameTransfer, -⟩ := change.handle_before isNew
    rw [← sameTransfer]
    exact below old isOld
  have heldBefore : ∀ {stamp}, client.BegunBefore stamp →
      BegunBefore
        { client with
          sendHandle := handle
          sendBytesSent := sent
          outgoing := client.outgoing ++ packets
          mainQueue := client.mainQueue ++ blocks
          fileQueue := advanceQueue loop rest
            (client.loopStatement loop.transfer input loop.point).2 } stamp :=
    fun before => ⟨sameSeq before.1, before.2.1, before.2.2⟩
  rw [result]
  refine ⟨heldBefore invariant.begunBefore, ?_, ?_⟩
  · intro error request member
    rcases List.mem_append.mp member with old | new
    · exact heldBefore (invariant.cleanups error request old)
    · rcases change.dispatches _ new with ⟨progress, same⟩ | ⟨given, -, same⟩
      · cases same
      · obtain ⟨-, rfl⟩ := MainBlock.cleanup.inj same
        exact heldBefore invariant.begunBefore
  · intro other member
    have handleHolds : ∀ {bound}, (∀ old ∈ client.sendHandle, old.transfer.seq ≤ bound) →
        ∀ new ∈ handle, new.transfer.seq ≤ bound := by
      intro bound below new isNew
      exact Nat.le_of_lt_succ
        (sameSeq (fun old isOld => Nat.lt_succ_of_le (below old isOld)) new isNew)
    dsimp only at member ⊢
    cases following : (client.loopStatement loop.transfer input loop.point).2 with
    | none =>
        rw [following] at member
        obtain ⟨handleBound, chunkBound⟩ := restHolds other member
        exact ⟨handleHolds handleBound, chunkBound⟩
    | some point =>
        rw [following] at member
        rcases List.mem_cons.mp member with rfl | inRest
        · exact ⟨handleHolds headHolds.1, chunkHolds point following⟩
        · obtain ⟨handleBound, chunkBound⟩ := restHolds other inRest
          exact ⟨handleHolds handleBound, chunkBound⟩

/-- Every settled input keeps the invariant. -/
theorem act
    (invariant : DeferredInvariant client)
    {input : Input} {calls : List DelegateCall}
    (settled : client.BeginsSettled input)
    (acted : client.act input = some (next, calls)) :
    DeferredInvariant next := by
  cases effect_of_act acted with
  | began fileURL file isOpen notSending notReceiving sized opened =>
      have succeeds : client.sendSucceeds fileURL = true :=
        sendSucceeds_of_idle isOpen notSending notReceiving sized opened
      obtain ⟨noCleanup, noLoop⟩ := settled succeeds
      rw [beginSending_eq]
      exact invariant.begin noCleanup noLoop _ _ _ _ _
  | cancelled =>
      rw [cancelFileTransfer_eq]
      exact invariant.keep rfl rfl rfl rfl rfl rfl (mem_appended (by simp) _)
  | rejected =>
      rw [rejectIncomingFileWithReason_eq]
      exact invariant.keep rfl rfl rfl rfl rfl rfl (mem_appended (by simp) _)
  | accepted destination accepts => exact invariant.accept accepts _ _ _
  | unopened =>
      refine invariant.keep rfl rfl rfl rfl rfl rfl (mem_appended ?_ _)
      intro error request member
      simp only [List.mem_cons, MainBlock.cleanup.injEq, List.not_mem_nil, or_false] at member
      rcases member with ⟨-, rfl⟩ | ⟨-, rfl⟩
      · rfl
      · rfl
  | greeted => exact invariant.keep rfl rfl rfl rfl rfl rfl (mem_appended (by simp) _)
  | busy => exact invariant.keep rfl rfl rfl rfl rfl rfl (fun _ _ => .inl)
  | offered name size chunk transfer outcome notSending notReceiving =>
      have noCleanup := settled (by simp [notSending]) (by simp [notReceiving])
      refine ⟨?_, ?_, ?_⟩
      · simp [BegunBefore, notSending, notReceiving]
      · intro error request member
        have old : .cleanup error request ∈ client.mainQueue := by simpa using member
        exact absurd old (not_mem_of_noCleanupPending noCleanup error request)
      · exact invariant.loops
  | started handle transfer outcome sending =>
      refine ⟨invariant.begunBefore, invariant.cleanups, ?_⟩
      intro loop member
      rcases List.mem_append.mp member with old | new
      · exact invariant.loops loop old
      · obtain rfl := List.mem_singleton.mp new
        simp [startSendingLoop, sending, LoopPoint.chunk?]
  | ended | writeFailed | stored | completed | iceChanged =>
      exact invariant.keep rfl rfl rfl rfl rfl rfl (mem_appended (by simp) _)
  | transmitted => exact invariant.keep rfl rfl rfl rfl rfl rfl (fun _ _ => .inl)
  | reported block rest call queue | iceIdle rest queue =>
      refine invariant.keep rfl rfl rfl rfl rfl rfl ?_
      intro error request member
      rw [queue]
      exact .inl (List.mem_cons_of_mem _ member)
  | iceLost rest queue =>
      refine invariant.keep rfl rfl rfl rfl rfl rfl ?_
      intro error request member
      rw [queue]
      exact (mem_appended (by simp) _ error request member).imp_left (List.mem_cons_of_mem _)
  | cleaned error request rest queue =>
      refine ⟨by simp [BegunBefore, resetTransfer], by simp [BegunBefore, resetTransfer], ?_⟩
      intro loop member
      exact ⟨by simp [resetTransfer], (invariant.loops loop member).2⟩
  | looped given loop rest queue => exact invariant.loop queue
  | channelChanged state =>
      obtain ⟨outgoing, result⟩ := client.dataChannelDidChangeState_eq state
      rw [result]
      exact invariant.keep rfl rfl rfl rfl rfl rfl (mem_appended (by simp) _)
  | nothing => exact invariant

theorem of_run
    {clientId : Nat} {helloName : String}
    {inputs : List Input} {observations : List Observation}
    (run : ClientRun clientId helloName BeginsSettled inputs observations client) :
    DeferredInvariant client := by
  apply run.state_invariant DeferredInvariant (initial clientId helloName)
  intro state input following fresh invariant settled stepped
  obtain ⟨calls, acted, -⟩ := act_of_step stepped
  exact invariant.act settled acted

theorem stays_with_own_transfer
    (invariant : DeferredInvariant client) (input : Input) :
    client.StaysWithOwnTransfer input := by
  cases input with
  | runMain =>
      intro error request rest queue
      apply invariant.cleanups error request
      rw [queue]
      exact List.mem_cons_self
  | runFile given =>
      intro loop rest queue
      have member : loop ∈ client.fileQueue := by
        rw [queue]
        exact List.mem_cons_self
      obtain ⟨handleBound, chunkBound⟩ := invariant.loops loop member
      refine ⟨fun _ => handleBound, ?_⟩
      intro chunk retries atSend
      apply chunkBound
      rw [atSend]
      rfl
  | sendFileAtURL | cancelFileTransfer | acceptIncomingFileToURL
  | rejectIncomingFileWithReason | receive | transmit | iceConnectionState
  | dataChannelState => trivial

end DeferredInvariant

end RTCClient

open RTCClient

/-- **Deferred work stays with its own transfer.** Take any run in which a send
begins only when no cleanup is pending and no loop is queued or running, and an
offer becomes the pending offer only when no cleanup is pending. In every state
it reaches, whatever runs next on either queue stays with its own transfer. -/
theorem deferred_work_stays_with_own_transfer
    {clientId : Nat} {helloName : String} {client : RTCClient}
    {inputs : List Input} {observations : List Observation}
    (run : ClientRun clientId helloName BeginsSettled inputs observations client)
    (input : Input) :
    client.StaysWithOwnTransfer input :=
  (DeferredInvariant.of_run run).stays_with_own_transfer input

/-- A settled run: an offer is declined, the cleanup runs, and only then does
the next offer arrive; its cleanup is at the head of the main queue. -/
def settledInputs : List Input :=
  [.dataChannelState .Open,
    .receive ⟨.ftOffer "photo.jpg" 3 chunkSize, some ⟨1, 0⟩⟩ .written,
    .rejectIncomingFileWithReason "User rejected",
    .runMain, .runMain, .runMain,
    .receive ⟨.ftOffer "song.mp3" 5 chunkSize, some ⟨1, 1⟩⟩ .written,
    .rejectIncomingFileWithReason "User rejected",
    .runMain]

theorem deferred_work_stays_with_own_transfer_settled :
    ∃ observations client,
      ClientRun 0 "mac#001" BeginsSettled settledInputs observations client ∧
        client.StaysWithOwnTransfer .runMain := by
  obtain ⟨client, observations, run, -⟩ :
      ∃ client observations,
        ClientRun 0 "mac#001" BeginsSettled settledInputs observations client ∧
          client.incomingFileName.isSome = true :=
    Machine.run_of_exec_any (fun (client : RTCClient) _ => client.incomingFileName.isSome)
      (by decide)
  exact ⟨observations, client, run, deferred_work_stays_with_own_transfer run .runMain⟩

/-- An offer is declined, and the next offer arrives before the cleanup of the
declined one has run. -/
def declinedThenOffered : List Input :=
  [.dataChannelState .Open,
    .receive ⟨.ftOffer "photo.jpg" 3 chunkSize, some ⟨1, 0⟩⟩ .written,
    .rejectIncomingFileWithReason "User rejected",
    .receive ⟨.ftOffer "song.mp3" 5 chunkSize, some ⟨1, 1⟩⟩ .written,
    .runMain, .runMain]

/-- The loop is about to read when its transfer is cancelled; the cleanup runs
and a new send begins, which resets `transferCancelled`. -/
def cancelledThenSent : List Input :=
  [.dataChannelState .Open,
    .sendFileAtURL (.ofFile "notes.txt" ⟨[1, 2], File.bounded_notes⟩),
    .receive ⟨.ftAccept, some ⟨0, 0⟩⟩ .written,
    .runFile ⟨0, 0, false, true⟩, .runFile ⟨0, 0, false, true⟩,
    .runFile ⟨0, 0, false, true⟩, .runFile ⟨0, 0, false, true⟩,
    .cancelFileTransfer, .runMain, .runMain,
    .sendFileAtURL (.ofFile "secret.txt" ⟨[7], File.bounded_secret⟩)]

/-- The cleanup of the declined offer is about to clear the new offer, and the
loop of the cancelled transfer is about to read the file of the new one. -/
theorem deferred_work_hits_later_transfer :
    (∃ observations client,
      ClientRun 0 "mac#001" Machine.free declinedThenOffered observations client ∧
        ¬ client.StaysWithOwnTransfer .runMain) ∧
    (∃ observations client,
      ClientRun 0 "mac#001" Machine.free cancelledThenSent observations client ∧
        ¬ client.StaysWithOwnTransfer (.runFile ⟨0, 1, false, true⟩)) := by
  constructor
  · obtain ⟨client, observations, run, checked⟩ :
        ∃ client observations,
          ClientRun 0 "mac#001" Machine.free declinedThenOffered observations client ∧
            decide (client.mainQueue =
                [.cleanup (some (rtcError 12 "User rejected")) ⟨some ⟨1, 0⟩, false, 1⟩,
                  .fileReceiveOffered] ∧
              client.incomingFileName = some "song.mp3" ∧ client.incomingBirth = 1) = true :=
      Machine.run_of_exec_any (fun (client : RTCClient) _ =>
        decide (client.mainQueue =
            [.cleanup (some (rtcError 12 "User rejected")) ⟨some ⟨1, 0⟩, false, 1⟩,
              .fileReceiveOffered] ∧
          client.incomingFileName = some "song.mp3" ∧ client.incomingBirth = 1))
        (by decide)
    obtain ⟨queue, incoming, birth⟩ := of_decide_eq_true checked
    refine ⟨observations, client, run, ?_⟩
    intro stays
    have before := (stays _ _ _ queue).2.2 (by simp [incoming])
    rw [birth] at before
    exact Nat.lt_irrefl 1 before
  · obtain ⟨client, observations, run, checked⟩ :
        ∃ client observations,
          ClientRun 0 "mac#001" Machine.free cancelledThenSent observations client ∧
            decide (client.fileQueue = [⟨⟨0, 0⟩, .read⟩] ∧
              client.sendHandle.map ReadHandle.transfer = some ⟨0, 1⟩) = true :=
      Machine.run_of_exec_any (fun (client : RTCClient) _ =>
        decide (client.fileQueue = [⟨⟨0, 0⟩, .read⟩] ∧
          client.sendHandle.map ReadHandle.transfer = some ⟨0, 1⟩))
        (by decide)
    obtain ⟨queue, sending⟩ := of_decide_eq_true checked
    obtain ⟨handle, holds, sameTransfer⟩ := Option.map_eq_some_iff.mp sending
    refine ⟨observations, client, run, ?_⟩
    intro stays
    have bound := (stays _ _ queue).1 (.inl rfl) handle holds
    rw [sameTransfer] at bound
    contradiction

end WebrtcFileSender
