import Mathlib.Data.List.Pairwise
import WebrtcFileSender.Client.DeferredWork
import WebrtcFileSender.Client.Emission
import WebrtcFileSender.Client.Identity

/-!
Contract: a failed send does not turn into a success.

An error ends a send when its cleanup runs on the main queue. The cleanup zeroes
the counters, but a loop that is still running goes on: `0 >= 0` then reads as
completion. Only `cancelFileTransfer` sets the flag that stops the loop, and a
peer's late `ft_done` is not compared with anything.

Owns: failure and success of a transfer as observations, the condition on the
inputs of a run, the invariant under that condition, and a run that breaks it.
-/

namespace WebrtcFileSender

/-- The loop can no longer report completion: it has not tested its handle yet,
it is about to report an error, or the stop flag is set and it has not passed
its test of the flag. -/
def LoopPoint.Stopped (cancelled : Bool) : LoopPoint → Prop
  | .entry | .finish (some _) => True
  | .completeTest | .sendDone | .finish none => False
  | _ => cancelled = true

instance (cancelled : Bool) : (point : LoopPoint) → Decidable (point.Stopped cancelled)
  | .entry | .finish (some _) => .isTrue trivial
  | .completeTest | .sendDone | .finish none => .isFalse id
  | .whileTest | .waitTest _ | .waitBody _ | .openTest | .read | .retryTest _ _
  | .retryOpenTest _ _ | .retrySend _ _ | .okTest _ _ | .addBytes _ | .reportProgress
  | .cancelledTest => inferInstanceAs (Decidable (cancelled = true))

/-- A cleanup that will report a success of `transfer`. -/
def MainBlock.SucceedsFor (transfer : TransferId) : MainBlock → Prop
  | .cleanup none request => request.transfer = some transfer
  | _ => False

instance (transfer : TransferId) :
    (block : MainBlock) → Decidable (block.SucceedsFor transfer)
  | .cleanup none request => inferInstanceAs (Decidable (request.transfer = some transfer))
  | .cleanup (some _) _ | .dataChannelStateDidChange _ | .iceConnectionLost
  | .didReceivePeerName _ _ _ | .didUpdateOnlinePeers _ | .fileReceiveOffered
  | .fileReceiveProgress _ | .fileSendProgress _ => .isFalse id

namespace RTCClient

/-- The delegate is told of an error while `transfer` is being sent: this ends
the transfer. -/
def Observation.FailureOf (transfer : TransferId) : Observation → Prop
  | .delegate (.fileTransferDidFinish (some _) _ ended) => ended = some transfer
  | _ => False

instance (transfer : TransferId) :
    (observation : Observation) → Decidable (observation.FailureOf transfer)
  | .delegate (.fileTransferDidFinish (some _) _ ended) =>
      inferInstanceAs (Decidable (ended = some transfer))
  | .delegate (.fileTransferDidFinish none _ _) | .sent _
  | .delegate (.dataChannelStateDidChange _) | .delegate (.didReceivePeerName _ _ _)
  | .delegate (.didUpdateOnlinePeers _) | .delegate (.fileReceiveOffered _ _)
  | .delegate (.fileReceiveProgress _ _ _) | .delegate (.fileSendProgress _ _ _) =>
      .isFalse id

/-- The delegate is told of a success of `transfer`, or `ft_done` is sent for
it. -/
def Observation.SuccessOf (transfer : TransferId) : Observation → Prop
  | .delegate (.fileTransferDidFinish none request _) => request.transfer = some transfer
  | .sent ⟨.ftDone, tag⟩ => tag = some transfer
  | _ => False

/-- No success of a transfer is observed after its failure. -/
def FailureIsFinal (observations : List Observation) : Prop :=
  observations.Pairwise fun earlier later =>
    ∀ transfer, earlier.FailureOf transfer → ¬ later.SuccessOf transfer

/-! ## The condition -/

/-- The next block of the main queue is a cleanup with an error. -/
def failureNext (client : RTCClient) : Bool :=
  match client.mainQueue with
  | .cleanup (some _) _ :: _ => true
  | _ => false

/-- Nothing that could still report a success of `transfer` is under way: no
such cleanup is pending and every loop of the transfer is stopped. -/
def EndsCleanly (client : RTCClient) (transfer : TransferId) : Prop :=
  (∀ block ∈ client.mainQueue, ¬ block.SucceedsFor transfer) ∧
  ∀ loop ∈ client.fileQueue, loop.transfer = transfer →
    loop.point.Stopped client.transferCancelled

instance (client : RTCClient) (transfer : TransferId) :
    Decidable (client.EndsCleanly transfer) := by
  unfold EndsCleanly
  infer_instance

/-- The condition on an input, given the observations so far. A cleanup with an
error ends a send only when nothing that could report its success is under way; a
send begins only when no loop is queued or running; no `ft_done` arrives for a
transfer that has failed. Offers of the peer are transfers of the peer. A packet is
for the transfer it was emitted for; an `ft_done` that was emitted for none, as no
client of this kind does, passes. -/
def FailsCleanly (past : List Observation × RTCClient) : Input → Prop
  | .runMain =>
      past.2.failureNext = true →
        ∀ handle ∈ past.2.sendHandle, past.2.EndsCleanly handle.transfer
  | .sendFileAtURL fileURL =>
      past.2.sendSucceeds fileURL = true → past.2.fileQueue.isEmpty = true
  | .receive ⟨.ftDone, transfer⟩ _ =>
      ∀ ended ∈ transfer, ∀ observation ∈ past.1, ¬ observation.FailureOf ended
  | .receive ⟨.ftOffer _ _ _, transfer⟩ _ =>
      ∀ offered ∈ transfer, offered.sender ≠ past.2.clientId
  | _ => True

instance (past : List Observation × RTCClient) :
    (input : Input) → Decidable (FailsCleanly past input)
  | .runMain =>
      inferInstanceAs (Decidable (past.2.failureNext = true →
        ∀ handle ∈ past.2.sendHandle, past.2.EndsCleanly handle.transfer))
  | .sendFileAtURL fileURL =>
      inferInstanceAs (Decidable
        (past.2.sendSucceeds fileURL = true → past.2.fileQueue.isEmpty = true))
  | .receive ⟨.ftDone, transfer⟩ _ =>
      inferInstanceAs (Decidable
        (∀ ended ∈ transfer, ∀ observation ∈ past.1, ¬ observation.FailureOf ended))
  | .receive ⟨.ftOffer _ _ _, transfer⟩ _ =>
      inferInstanceAs (Decidable (∀ offered ∈ transfer, offered.sender ≠ past.2.clientId))
  | .receive ⟨.hello _ _ _, _⟩ _ | .receive ⟨.ftAccept, _⟩ _ | .receive ⟨.ftReject _, _⟩ _
  | .receive ⟨.ftCancel, _⟩ _ | .receive ⟨.binary _, _⟩ _ | .cancelFileTransfer
  | .acceptIncomingFileToURL _ | .rejectIncomingFileWithReason _ | .transmit | .runFile _
  | .iceConnectionState _ | .dataChannelState _ => .isTrue trivial

variable {client next : RTCClient} {input : Input} {calls : List DelegateCall}

/-! ## A failed transfer -/

/-- Nothing is left that could report a success of `transfer`. -/
structure FailedTransfer (client : RTCClient) (transfer : TransferId) : Prop where
  own : transfer.sender = client.clientId
  past : transfer.seq < client.begun
  notSending : ∀ handle ∈ client.sendHandle, handle.transfer ≠ transfer
  noSuccess : ∀ block ∈ client.mainQueue, ¬ block.SucceedsFor transfer
  stopped : ∀ loop ∈ client.fileQueue, loop.transfer = transfer →
    client.sendHandle = none ∧ loop.point.Stopped client.transferCancelled

variable {transfer : TransferId}

theorem stopped_of_cancelled {point : LoopPoint} {cancelled : Bool}
    (stopped : point.Stopped cancelled) : point.Stopped true := by
  cases point with
  | finish error =>
      cases error with
      | none => exact stopped
      | some error => trivial
  | entry | completeTest | sendDone => exact stopped
  | whileTest | waitTest | waitBody | openTest | read | retryTest | retryOpenTest | retrySend
  | okTest | addBytes | reportProgress | cancelledTest => rfl

/-- Without a send handle, a stopped loop stays stopped. -/
theorem loopStatement_stopped {given : LoopInput} {point following : LoopPoint}
    (notSending : client.sendHandle = none)
    (stopped : point.Stopped client.transferCancelled)
    (continues : (client.loopStatement transfer given point).2 = some following) :
    following.Stopped client.transferCancelled := by
  cases point with
  | entry => simp [loopStatement, notSending] at continues
  | completeTest | sendDone => exact absurd stopped id
  | finish error => simp [loopStatement] at continues
  | read =>
      simp only [loopStatement, readChunk, notSending, Option.some.injEq] at continues
      rw [← continues]
      exact stopped
  | whileTest | waitTest | waitBody | openTest | retryTest | retryOpenTest | retrySend
  | okTest | addBytes | reportProgress | cancelledTest =>
      have isCancelled : client.transferCancelled = true := stopped
      simp only [loopStatement, isCancelled] at continues ⊢
      repeat' split at continues
      all_goals
        first
          | contradiction
          | obtain rfl := Option.some.inj continues; trivial

namespace FailedTransfer

/-- What may change around a failed transfer: other blocks are queued. -/
theorem keep
    (failed : FailedTransfer client transfer)
    (sameId : next.clientId = client.clientId)
    (later : client.begun ≤ next.begun)
    (sameSend : next.sendHandle = client.sendHandle)
    (sameLoops : next.fileQueue = client.fileQueue)
    (sameCancelled : next.transferCancelled = client.transferCancelled)
    (blocks : ∀ block ∈ next.mainQueue,
      block ∈ client.mainQueue ∨ ¬ block.SucceedsFor transfer) :
    FailedTransfer next transfer where
  own := by
    rw [sameId]
    exact failed.own
  past := Nat.lt_of_lt_of_le failed.past later
  notSending := by
    rw [sameSend]
    exact failed.notSending
  noSuccess := by
    intro block member
    rcases blocks block member with old | other
    · exact failed.noSuccess block old
    · exact other
  stopped := by
    rw [sameSend, sameLoops, sameCancelled]
    exact failed.stopped

private theorem mem_queued {blocks : List MainBlock}
    (harmless : ∀ block ∈ blocks, ¬ block.SucceedsFor transfer)
    (queue : List MainBlock) (block : MainBlock) (member : block ∈ queue ++ blocks) :
    block ∈ queue ∨ ¬ block.SucceedsFor transfer :=
  (List.mem_append.mp member).imp_right (harmless block)

theorem loop
    (failed : FailedTransfer client transfer)
    {given : LoopInput} {loop : SendingLoop} {rest : List SendingLoop}
    (queue : client.fileQueue = loop :: rest) :
    FailedTransfer
      { (client.loopStatement loop.transfer given loop.point).1 with
        fileQueue := advanceQueue loop rest
          (client.loopStatement loop.transfer given loop.point).2 } transfer := by
  have headStopped := failed.stopped loop (by simp [queue])
  have restStopped : ∀ other ∈ rest, _ := fun other member =>
    failed.stopped other (by simp [queue, member])
  obtain ⟨handle, sent, packets, blocks, result, change⟩ :=
    client.loopStatement_change loop.transfer given loop.point
  have stillNone : client.sendHandle = none → handle = none := by
    intro notSending
    have same := change.sameTransfer
    rw [notSending] at same
    exact Option.map_eq_none_iff.mp same
  rw [result]
  refine ⟨failed.own, failed.past, ?_, ?_, ?_⟩
  · intro new isNew
    obtain ⟨old, isOld, sameTransfer, -⟩ := change.handle_before isNew
    rw [← sameTransfer]
    exact failed.notSending old isOld
  · intro block member
    rcases List.mem_append.mp member with old | new
    · exact failed.noSuccess block old
    · rcases change.dispatches block new with ⟨progress, rfl⟩ | ⟨error, atFinish, rfl⟩
      · exact id
      · cases error with
        | some error => exact id
        | none =>
            intro succeeds
            have sameTransfer : loop.transfer = transfer := Option.some.inj succeeds
            have stopped := (headStopped sameTransfer).2
            rw [atFinish] at stopped
            exact stopped
  · intro other member sameTransfer
    cases following : (client.loopStatement loop.transfer given loop.point).2 with
    | none =>
        rw [following] at member
        obtain ⟨notSending, stopped⟩ := restStopped other member sameTransfer
        exact ⟨stillNone notSending, stopped⟩
    | some point =>
        rw [following] at member
        rcases List.mem_cons.mp member with rfl | inRest
        · obtain ⟨notSending, stopped⟩ := headStopped sameTransfer
          have stillStopped : point.Stopped client.transferCancelled :=
            loopStatement_stopped notSending stopped following
          exact ⟨stillNone notSending, stillStopped⟩
        · obtain ⟨notSending, stopped⟩ := restStopped other inRest sameTransfer
          exact ⟨stillNone notSending, stopped⟩

/-- Every input but a late `ft_done` and a send over a running loop leaves a
failed transfer failed. -/
theorem effect
    (failed : FailedTransfer client transfer)
    (identities : OwnIdentities client)
    (notDone : ∀ outcome, input ≠ .receive ⟨.ftDone, some transfer⟩ outcome)
    (noLoop : ∀ fileURL, input = .sendFileAtURL fileURL →
      client.sendSucceeds fileURL = true → client.fileQueue = [])
    (effect : Effect client input next calls) :
    FailedTransfer next transfer := by
  have sameBegun : client.begun ≤ client.begun := Nat.le_refl _
  cases effect with
  | began fileURL file isOpen notSending notReceiving sized opened =>
      have succeeds : client.sendSucceeds fileURL = true :=
        sendSucceeds_of_idle isOpen notSending notReceiving sized opened
      have empty := noLoop fileURL rfl succeeds
      rw [beginSending_eq]
      refine ⟨failed.own, Nat.lt_succ_of_lt failed.past, ?_, failed.noSuccess, ?_⟩
      · intro handle same
        obtain rfl := Option.some.inj same
        intro sameTransfer
        have past := failed.past
        rw [← sameTransfer] at past
        exact Nat.lt_irrefl _ past
      · intro loop member
        have inEmpty : loop ∈ client.fileQueue := member
        rw [empty] at inEmpty
        contradiction
  | cancelled =>
      rw [cancelFileTransfer_eq]
      refine ⟨failed.own, failed.past, failed.notSending, ?_, ?_⟩
      · intro block member
        rcases mem_queued (by simp [MainBlock.SucceedsFor]) _ block
          member with old | other
        · exact failed.noSuccess block old
        · exact other
      · intro loop member sameTransfer
        obtain ⟨notSending, stopped⟩ := failed.stopped loop member sameTransfer
        exact ⟨notSending, stopped_of_cancelled stopped⟩
  | rejected =>
      rw [rejectIncomingFileWithReason_eq]
      exact failed.keep rfl sameBegun rfl rfl rfl
        (mem_queued (by simp [MainBlock.SucceedsFor]) _)
  | accepted | busy | transmitted =>
      exact failed.keep rfl sameBegun rfl rfl rfl (fun _ => .inl)
  | offered =>
      exact failed.keep rfl (Nat.le_succ _) rfl rfl rfl
        (mem_queued (by simp [MainBlock.SucceedsFor]) _)
  | unopened | greeted | writeFailed | stored | iceChanged =>
      exact failed.keep rfl sameBegun rfl rfl rfl
        (mem_queued (by simp [MainBlock.SucceedsFor]) _)
  | started handle tag outcome sending =>
      refine ⟨failed.own, failed.past, failed.notSending, failed.noSuccess, ?_⟩
      intro loop member sameTransfer
      rcases List.mem_append.mp member with old | new
      · exact failed.stopped loop old sameTransfer
      · obtain rfl := List.mem_singleton.mp new
        exact absurd sameTransfer (failed.notSending handle sending)
  | ended message tag outcome error ends =>
      refine failed.keep rfl sameBegun rfl rfl rfl (mem_queued ?_ _)
      intro block member
      obtain rfl := List.mem_singleton.mp member
      cases message with
      | ftDone =>
          obtain rfl := Option.some.inj ends
          intro succeeds
          have sameTag : tag = some transfer := succeeds
          exact notDone outcome (by rw [sameTag])
      | ftReject | ftCancel =>
          obtain rfl := Option.some.inj ends
          exact id
      | hello | ftOffer | ftAccept | binary => contradiction
  | completed data tag handle receiving =>
      refine failed.keep rfl sameBegun rfl rfl rfl (mem_queued ?_ _)
      intro block member
      simp only [List.mem_cons, List.not_mem_nil, or_false] at member
      rcases member with rfl | rfl
      · exact id
      · intro succeeds
        exact identities.receiving handle receiving transfer succeeds failed.own
  | reported block rest call queue | iceIdle rest queue =>
      refine failed.keep rfl sameBegun rfl rfl rfl ?_
      intro other member
      rw [queue]
      exact .inl (List.mem_cons_of_mem _ member)
  | iceLost rest queue =>
      refine failed.keep rfl sameBegun rfl rfl rfl ?_
      intro other member
      rw [queue]
      exact (mem_queued (by simp [MainBlock.SucceedsFor]) _ other member).imp_left
        (List.mem_cons_of_mem _)
  | cleaned error request rest queue =>
      refine ⟨failed.own, failed.past, by simp [resetTransfer], ?_, ?_⟩
      · intro block member
        apply failed.noSuccess
        rw [queue]
        exact List.mem_cons_of_mem _ member
      · intro loop member sameTransfer
        exact ⟨rfl, (failed.stopped loop member sameTransfer).2⟩
  | looped given loop rest queue => exact failed.loop queue
  | channelChanged state =>
      obtain ⟨outgoing, result⟩ := client.dataChannelDidChangeState_eq state
      rw [result]
      exact failed.keep rfl sameBegun rfl rfl rfl
        (mem_queued (by simp [MainBlock.SucceedsFor]) _)
  | nothing => exact failed

/-- No observation of any input is a success of a failed transfer. -/
theorem not_success
    (failed : FailedTransfer client transfer)
    (identities : OwnIdentities client)
    (effect : Effect client input next calls)
    {observation : Observation} (observed : observation ∈ client.observe next calls) :
    ¬ observation.SuccessOf transfer := by
  intro success
  match observation, success with
  | .delegate (.fileTransferDidFinish none request ended), success =>
      obtain ⟨rest, -, queue, -⟩ := cleanup_of_finish effect observed
      have member : .cleanup none request ∈ client.mainQueue := by
        rw [queue]
        exact List.mem_cons_self
      exact failed.noSuccess _ member success
  | .sent ⟨.ftDone, tag⟩, success =>
      have sameTag : tag = some transfer := success
      rcases ftDone_cases (emits_of_sent effect observed) with
        ⟨data, given, handle, -, receiving, -, received⟩ |
        ⟨given, loop, rest, -, queue, atPoint, sent⟩
      · rw [sameTag] at received
        exact identities.receiving handle receiving transfer received.symm failed.own
      · rw [sameTag] at sent
        have member : loop ∈ client.fileQueue := by
          rw [queue]
          exact List.mem_cons_self
        have stopped := (failed.stopped loop member (Option.some.inj sent).symm).2
        rw [atPoint] at stopped
        exact stopped

/-- A send that an error ends cleanly has failed. -/
theorem of_cleanup
    (identities : OwnIdentities client)
    {error : NSError} {request : CleanupRequest} {rest : List MainBlock}
    {handle : ReadHandle}
    (queue : client.mainQueue = .cleanup (some error) request :: rest)
    (sending : client.sendHandle = some handle)
    (clean : client.EndsCleanly handle.transfer) :
    FailedTransfer { client with mainQueue := rest }.resetTransfer handle.transfer := by
  obtain ⟨own, past⟩ := identities.sending handle sending
  refine ⟨own, past, by simp [resetTransfer], ?_, ?_⟩
  · intro block member
    apply clean.1
    rw [queue]
    exact List.mem_cons_of_mem _ member
  · intro loop member sameTransfer
    exact ⟨rfl, clean.2 loop member sameTransfer⟩

end FailedTransfer

/-! ## Runs -/

/-- Whatever has failed stays failed, and no success followed so far. -/
structure FailureInvariant (history : List Observation) (client : RTCClient) : Prop where
  identities : OwnIdentities client
  failed : ∀ observation ∈ history, ∀ transfer, observation.FailureOf transfer →
    FailedTransfer client transfer
  final : FailureIsFinal history

/-- The input behind a failure. -/
theorem cleanup_of_failure
    (effect : Effect client input next calls)
    {observation : Observation} (observed : observation ∈ client.observe next calls)
    (failure : observation.FailureOf transfer) :
    ∃ error request rest handle, input = .runMain ∧
      client.mainQueue = .cleanup (some error) request :: rest ∧
      client.sendHandle = some handle ∧ handle.transfer = transfer ∧
      next = { client with mainQueue := rest }.resetTransfer ∧
      client.observe next calls = [observation] := by
  match observation, failure with
  | .delegate (.fileTransferDidFinish (some error) request ended), failure =>
      obtain ⟨rest, isMain, queue, sameEnded, result, alone⟩ :=
        cleanup_of_finish effect observed
      have endedThis : ended = some transfer := failure
      rw [endedThis] at sameEnded
      obtain ⟨handle, sending, sameTransfer⟩ := Option.map_eq_some_iff.mp sameEnded.symm
      exact ⟨error, request, rest, handle, isMain, queue, sending, sameTransfer, result, alone⟩

namespace FailureInvariant

theorem step
    {history : List Observation}
    (invariant : FailureInvariant history client)
    (clean : FailsCleanly (history, client) input)
    (effect : Effect client input next calls) :
    FailureInvariant (history ++ client.observe next calls) next := by
  obtain ⟨identities, failed, final⟩ := invariant
  have foreign : ∀ name size chunk transfer outcome,
      input = .receive ⟨.ftOffer name size chunk, transfer⟩ outcome →
      ∀ offered ∈ transfer, offered.sender ≠ client.clientId := by
    rintro name size chunk transfer outcome rfl
    exact clean
  have noLoop : ∀ fileURL, input = .sendFileAtURL fileURL →
      client.sendSucceeds fileURL = true → client.fileQueue = [] := by
    rintro fileURL rfl succeeds
    exact List.isEmpty_iff.mp (clean succeeds)
  refine ⟨identities.effect foreign effect, ?_, ?_⟩
  · intro observation member transfer failure
    rcases List.mem_append.mp member with old | fresh
    · refine (failed observation old transfer failure).effect identities ?_ noLoop effect
      rintro outcome rfl
      exact clean transfer rfl observation old failure
    · obtain ⟨error, request, rest, handle, rfl, queue, sending, rfl, rfl, -⟩ :=
        cleanup_of_failure effect fresh failure
      have next : client.failureNext = true := by rw [failureNext, queue]
      exact .of_cleanup identities queue sending (clean next handle sending)
  · refine List.pairwise_append.mpr ⟨final, ?_, ?_⟩
    · by_cases fails : ∃ observation ∈ client.observe next calls, ∃ transfer,
          observation.FailureOf transfer
      · obtain ⟨observation, observed, transfer, failure⟩ := fails
        obtain ⟨error, request, rest, handle, -, -, -, -, -, alone⟩ :=
          cleanup_of_failure effect observed failure
        rw [alone]
        exact List.pairwise_singleton _ _
      · apply List.pairwise_of_forall_mem_list
        intro earlier observed later _ transfer failure
        exact absurd ⟨earlier, observed, transfer, failure⟩ fails
    · intro earlier old later fresh transfer failure
      exact (failed earlier old transfer failure).not_success identities effect fresh

end FailureInvariant

end RTCClient

open RTCClient

/-- **Failure is final.** Take any run in which an error ends a send only when
no pending cleanup and no loop could still report its success, a send begins
only when no loop is queued or running, and no `ft_done` arrives for a transfer
that has failed. Once a transfer has failed, no later finish without error and
no later `ft_done` is for that transfer. -/
theorem failure_is_final_of_fails_cleanly
    {clientId : Nat} {helloName : String} {final : List Observation × RTCClient}
    {inputs : List Input} {observations : List Observation}
    (run : Machine.Run (Machine.recorded RTCClient.step) FailsCleanly
      ([], RTCClient.initial clientId helloName) inputs observations final) :
    FailureIsFinal observations := by
  have invariant := run.history_invariant FailureInvariant
    ⟨.initial clientId helloName, by simp, List.Pairwise.nil⟩
    (fun {history state input next fresh} invariant clean stepped => by
      obtain ⟨calls, acted, rfl⟩ := act_of_step stepped
      exact invariant.step clean (effect_of_act acted))
  exact invariant.2.final

/-- The user cancels while the loop is about to read: the cleanup ends the
transfer, and the loop returns at its test of the flag. -/
def cancelledInputs : List Input :=
  [.dataChannelState .Open,
    .sendFileAtURL (.ofFile "notes.txt" ⟨[1, 2], File.bounded_notes⟩),
    .receive ⟨.ftAccept, some ⟨0, 0⟩⟩ .written,
    .runFile ⟨0, 0, false, true⟩, .runFile ⟨0, 0, false, true⟩,
    .cancelFileTransfer, .runMain, .runMain,
    .runFile ⟨0, 0, false, true⟩, .runFile ⟨0, 0, false, true⟩,
    .runFile ⟨0, 0, false, true⟩, .runFile ⟨0, 0, false, true⟩]

theorem failure_is_final_of_fails_cleanly_cancelled :
    ∃ observations final,
      Machine.Run (Machine.recorded RTCClient.step) FailsCleanly
        ([], RTCClient.initial 0 "mac#001") cancelledInputs observations final ∧
      (∃ observation ∈ observations, observation.FailureOf ⟨0, 0⟩) ∧
      FailureIsFinal observations := by
  obtain ⟨final, observations, run, failed⟩ :
      ∃ final observations,
        Machine.Run (Machine.recorded RTCClient.step) FailsCleanly
          ([], RTCClient.initial 0 "mac#001") cancelledInputs observations final ∧
        decide (∃ observation ∈ observations, observation.FailureOf ⟨0, 0⟩) = true :=
    Machine.run_of_exec_any (fun _ observations =>
      decide (∃ observation ∈ observations, Observation.FailureOf ⟨0, 0⟩ observation))
      (by decide)
  exact ⟨observations, final, run, of_decide_eq_true failed,
    failure_is_final_of_fails_cleanly run⟩

/-- The peer cancels while the loop is running; the cleanup zeroes the counters,
and the loop takes zero of zero bytes for completion. -/
def peerCancelledInputs : List Input :=
  [.dataChannelState .Open,
    .sendFileAtURL (.ofFile "notes.txt" ⟨[1, 2], File.bounded_notes⟩),
    .receive ⟨.ftAccept, some ⟨0, 0⟩⟩ .written,
    .runFile ⟨0, 0, false, true⟩,
    .receive ⟨.ftCancel, some ⟨0, 0⟩⟩ .written,
    .runMain, .runMain,
    .runFile ⟨0, 0, false, true⟩, .runFile ⟨0, 0, false, true⟩,
    .runFile ⟨0, 0, false, true⟩, .runFile ⟨0, 0, false, true⟩,
    .runFile ⟨0, 0, false, true⟩, .runMain]

/-- `ft_done` is sent and a finish without error reported after the failure. -/
theorem failure_not_final_peer_cancelled :
    ∃ observations final,
      ClientRun 0 "mac#001" Machine.free peerCancelledInputs observations final ∧
        ¬ FailureIsFinal observations := by
  obtain ⟨final, observations, run, checked⟩ :
      ∃ final observations,
        ClientRun 0 "mac#001" Machine.free peerCancelledInputs observations final ∧
        decide (observations.drop 3 =
          [.delegate (.fileTransferDidFinish (some (rtcError 13 "Cancelled/Rejected"))
              ⟨some ⟨0, 0⟩, true, 1⟩ (some ⟨0, 0⟩)),
            .sent ⟨.ftDone, some ⟨0, 0⟩⟩,
            .delegate (.fileTransferDidFinish none ⟨some ⟨0, 0⟩, false, 1⟩ none)]) = true :=
    Machine.run_of_exec_any (fun _ (observations : List Observation) =>
      decide (observations.drop 3 =
        [.delegate (.fileTransferDidFinish (some (rtcError 13 "Cancelled/Rejected"))
            ⟨some ⟨0, 0⟩, true, 1⟩ (some ⟨0, 0⟩)),
          .sent ⟨.ftDone, some ⟨0, 0⟩⟩,
          .delegate (.fileTransferDidFinish none ⟨some ⟨0, 0⟩, false, 1⟩ none)]))
      (by decide)
  refine ⟨observations, final, run, ?_⟩
  intro isFinal
  have suffix : FailureIsFinal (observations.drop 3) :=
    List.Pairwise.sublist (List.drop_sublist 3 observations) isFinal
  rw [of_decide_eq_true checked] at suffix
  have first := (List.pairwise_cons.mp suffix).1 (.sent ⟨.ftDone, some ⟨0, 0⟩⟩) (by simp)
  exact first ⟨0, 0⟩ rfl rfl

end WebrtcFileSender
