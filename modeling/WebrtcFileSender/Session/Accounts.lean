import WebrtcFileSender.Client.Orderly
import WebrtcFileSender.Session.System

/-!
Contract: what sender and receiver know of one transfer.

A transfer can end in about ten ways. Cancelling, declining and completing say so
to the peer. The error exits of the sending loop and the loss of the connection
do not, and a cleanup takes along whatever else the client holds.

Owns: the condition that excludes the ends of which the peer is not told, the
relation between the sender and the receiver of a transfer under it, and its
preservation by an input and by a delivery at either side.
-/

namespace WebrtcFileSender

namespace RTCClient

/-- Nothing is under way or waiting. -/
def AtRest (client : RTCClient) : Prop :=
  client.outgoing = [] ∧ client.mainQueue = [] ∧ client.fileQueue = []

instance (client : RTCClient) : Decidable client.AtRest :=
  inferInstanceAs (Decidable (_ ∧ _ ∧ _))

/-- The loop at the head of the file queue is about to request a cleanup with an
error. -/
def failing (client : RTCClient) : Option TransferId :=
  match client.fileQueue with
  | ⟨transfer, .finish (some _)⟩ :: _ => some transfer
  | _ => none

/-- A cleanup waits for everything the client holds. -/
def HeldIsCleared (client : RTCClient) : Prop :=
  (∀ handle ∈ client.sendHandle, client.Clearing handle.transfer) ∧
  ∀ transfer ∈ client.incomingTransfer, client.Clearing transfer

instance (client : RTCClient) : Decidable client.HeldIsCleared :=
  inferInstanceAs (Decidable (_ ∧ _))

/-- The condition on the first block of the main queue: the loss of the connection
is handled while a file is sent only when the cleanup of that file is already
waiting, and a cleanup runs only when one waits for everything that is held. -/
def BlockIsTold (client : RTCClient) : List MainBlock → Prop
  | .iceConnectionLost :: _ =>
      ∀ handle ∈ client.sendHandle, client.Clearing handle.transfer
  | .cleanup _ _ :: _ => client.HeldIsCleared
  | _ => True

instance (client : RTCClient) : (queue : List MainBlock) → Decidable (client.BlockIsTold queue)
  | .iceConnectionLost :: _ =>
      inferInstanceAs (Decidable
        (∀ handle ∈ client.sendHandle, client.Clearing handle.transfer))
  | .cleanup _ _ :: _ => inferInstanceAs (Decidable client.HeldIsCleared)
  | [] | .dataChannelStateDidChange _ :: _ | .didReceivePeerName _ _ _ :: _
  | .didUpdateOnlinePeers _ :: _ | .fileReceiveOffered :: _ | .fileReceiveProgress _ :: _
  | .fileSendProgress _ :: _ => .isTrue trivial

/-- The condition on an input: on the first block of the main queue, and that a
sending loop requests a cleanup with an error for the file being sent only when
one is already waiting. -/
def EndsAreTold (client : RTCClient) : Input → Prop
  | .runFile _ =>
      ∀ handle ∈ client.sendHandle, client.failing = some handle.transfer →
        client.Clearing handle.transfer
  | .runMain => client.BlockIsTold client.mainQueue
  | _ => True

instance (client : RTCClient) : (input : Input) → Decidable (client.EndsAreTold input)
  | .runFile _ =>
      inferInstanceAs (Decidable (∀ handle ∈ client.sendHandle,
        client.failing = some handle.transfer → client.Clearing handle.transfer))
  | .runMain => inferInstanceAs (Decidable (client.BlockIsTold client.mainQueue))
  | .sendFileAtURL _ | .cancelFileTransfer | .acceptIncomingFileToURL _
  | .rejectIncomingFileWithReason _ | .receive _ _ | .transmit | .iceConnectionState _
  | .dataChannelState _ => .isTrue trivial

variable {client next : RTCClient} {input : Input} {calls : List DelegateCall}
  {transfer : TransferId}

theorem EndsAreTold.sent (told : client.EndsAreTold input) (cleans : client.Cleans input)
    (sends : client.Sends transfer) : client.Clearing transfer := by
  obtain ⟨rfl, error, request, rest, queue⟩ := cleans
  obtain ⟨handle, sending, rfl⟩ := sends.handle
  simp only [EndsAreTold, queue, BlockIsTold] at told
  exact told.1 handle sending

theorem EndsAreTold.offered (told : client.EndsAreTold input) (cleans : client.Cleans input)
    (pending : client.Pending transfer) : client.Clearing transfer := by
  obtain ⟨rfl, error, request, rest, queue⟩ := cleans
  simp only [EndsAreTold, queue, BlockIsTold] at told
  exact told.2 transfer pending

/-- Where ends are told, a new cleanup for the file being sent comes with a message
to the peer, from a loop that has sent one, or from one that has arrived. -/
theorem EndsAreTold.clearing_own (told : client.EndsAreTold input)
    (orderly : client.Orderly) (expected : client.Expected input)
    (effect : Effect client input next calls)
    (sends : client.Sends transfer)
    (clearing : next.Clearing transfer) :
    client.Clearing transfer ∨ next.Ending transfer ∨ client.Finishing transfer ∨
      ∃ packet outcome, input = .receive packet outcome ∧ packet.Ends transfer := by
  obtain ⟨handle, sending, same⟩ := sends.handle
  rcases orderly.clearing_own expected effect (orderly.sender_of_sends sends) clearing with
    before | ending | received | ⟨given, loop, rest, error, rfl, queue, rfl⟩ |
    ⟨-, rfl, rest, queue⟩
  · exact .inl before
  · exact .inr (.inl ending)
  · exact .inr (.inr (.inr received))
  · cases error with
    | none =>
        refine .inr (.inr (.inl ?_))
        rw [Finishing, queue]
        exact List.mem_cons_self
    | some error =>
        have failing : client.failing = some handle.transfer := by
          rw [same]
          simp [RTCClient.failing, queue]
        rw [← same]
        exact .inl (told handle sending failing)
  · simp only [EndsAreTold, queue, BlockIsTold] at told
    rw [← same]
    exact .inl (told handle sending)

/-- A loop of the file being sent stays until its cleanup is requested. -/
theorem Orderly.looping_or_clearing (orderly : client.Orderly)
    (effect : Effect client input next calls)
    (sends : client.Sends transfer)
    (notCleaned : ¬ client.Cleans input)
    (looping : client.Looping transfer) :
    next.Looping transfer ∨ next.Clearing transfer := by
  rcases looping_kept effect looping with still | clearing | notSending | cancelled
  · exact .inl still
  · exact .inr clearing
  · rw [Sends, notSending] at sends
    contradiction
  · have clearing := orderly.cancelled cancelled transfer sends
    exact .inr ((clearing_kept effect clearing).resolve_right notCleaned)

end RTCClient

namespace Session

open RTCClient

/-- The channel does not close. -/
def StaysOpen (_ : Session) : Action → Prop
  | .take _ (.dataChannelState state) => state = .Connecting ∨ state = .Open
  | _ => True

instance (session : Session) : (action : Action) → Decidable (session.StaysOpen action)
  | .take _ (.dataChannelState state) =>
      inferInstanceAs (Decidable (state = .Connecting ∨ state = .Open))
  | .take _ (.sendFileAtURL _) | .take _ .cancelFileTransfer
  | .take _ (.acceptIncomingFileToURL _) | .take _ (.rejectIncomingFileWithReason _)
  | .take _ (.receive _ _) | .take _ .transmit | .take _ .runMain | .take _ (.runFile _)
  | .take _ (.iceConnectionState _) | .deliver _ _ => .isTrue trivial

/-- The input of an action, if one side takes it by itself, tells its ends. -/
def EndsAreTold (session : Session) : Action → Prop
  | .take side input => (session side).EndsAreTold input
  | .deliver _ _ => True

instance (session : Session) : (action : Action) → Decidable (session.EndsAreTold action)
  | .take side input => inferInstanceAs (Decidable ((session side).EndsAreTold input))
  | .deliver _ _ => .isTrue trivial

/-- The channel does not close, and every end of a transfer is told. -/
def Told (session : Session) (action : Action) : Prop :=
  session.StaysOpen action ∧ session.EndsAreTold action

instance (session : Session) (action : Action) : Decidable (session.Told action) :=
  inferInstanceAs (Decidable (_ ∧ _))

/-- Nothing is under way or waiting on either side. -/
def AtRest (session : Session) : Prop :=
  ∀ side, (session side).AtRest

/-- No transfer is half open: a file is received only while the peer sends it, and
sent only while the peer holds its offer or receives it. -/
def NothingHalfOpen (session : Session) : Prop :=
  ∀ side : Side,
    (∀ handle ∈ (session side).recvHandle,
      ∃ sent ∈ (session side.peer).sendHandle, handle.transfer = some sent.transfer) ∧
    ∀ handle ∈ (session side).sendHandle,
      ((session side.peer).incomingFileName.isSome = true ∧
        (session side.peer).incomingTransfer = some handle.transfer) ∨
      ∃ received ∈ (session side.peer).recvHandle,
        received.transfer = some handle.transfer

/-! ## Sender and receiver -/

section Accounts

variable (sender receiver : RTCClient) (transfer : TransferId)

/-- An offer of the transfer is under way or pending. -/
def Outstanding : Prop :=
  sender.Offering transfer ∨ receiver.Pending transfer

/-- The pending offer is going to be cleared. -/
def Releasing : Prop :=
  receiver.Clearing transfer ∨ sender.Ending transfer

/-- The sender is going to close its handle. -/
def Concluding : Prop :=
  sender.Clearing transfer ∨ receiver.Ending transfer ∨ receiver.Accepting transfer ∨
    sender.Looping transfer

/-- The file is no longer sent, or its handle is about to be closed: a cleanup
waits, the loop has sent `ft_done`, or the receiver is ending the transfer. -/
def IsOver : Prop :=
  sender.Sends transfer →
    sender.Clearing transfer ∨ sender.Finishing transfer ∨ receiver.Ending transfer

end Accounts

/-- What sender and receiver know of a transfer agrees. `ends`: the handle of a
file whose offer is gone, or is going to be cleared, or has been accepted, is
going to be closed. `releases`: an offer that is outstanding for a file whose
sending is over is going to be cleared. -/
structure Agreed (sender receiver : RTCClient) : Prop where
  offered : ∀ transfer, receiver.Pending transfer → transfer.sender = sender.clientId
  known : ∀ transfer, receiver.Mentions transfer → transfer.sender = sender.clientId →
    transfer.seq < sender.begun
  behind : ∀ transfer offered, receiver.Mentions transfer → sender.Offering offered →
    transfer.sender = offered.sender → transfer.seq < offered.seq
  ends : ∀ transfer, sender.Sends transfer →
    (Outstanding sender receiver transfer →
      Releasing sender receiver transfer ∨ receiver.Receives transfer) →
    Concluding sender receiver transfer
  releases : ∀ transfer, transfer.sender = sender.clientId →
    IsOver sender receiver transfer → Outstanding sender receiver transfer →
    Releasing sender receiver transfer

namespace Agreed

variable {sender receiver next : RTCClient} {input : Input} {calls : List DelegateCall}
  {transfer : TransferId}

/-! ### The sender takes an input of its own -/

section SenderActs

variable
  (agreed : Agreed sender receiver)
  (orderly : sender.Orderly)
  (expected : sender.Expected input)
  (told : sender.EndsAreTold input)
  (notReceived : ∀ packet outcome, input ≠ .receive packet outcome)
  (effect : RTCClient.Effect sender input next calls)

include agreed in
/-- The peer has never heard of a transfer that begins now. -/
theorem unknown : ¬ receiver.Mentions ⟨sender.clientId, sender.begun⟩ := by
  intro mentions
  exact Nat.lt_irrefl _ (agreed.known _ mentions rfl)

include orderly effect in
theorem concluding_kept
    (sends : sender.Sends transfer) (notCleaned : ¬ sender.Cleans input)
    (concluding : Concluding sender receiver transfer) :
    Concluding next receiver transfer := by
  rcases concluding with clearing | ending | accepting | looping
  · exact .inl ((clearing_kept effect clearing).resolve_right notCleaned)
  · exact .inr (.inl ending)
  · exact .inr (.inr (.inl accepting))
  · rcases orderly.looping_or_clearing effect sends notCleaned looping with still | clearing
    · exact .inr (.inr (.inr still))
    · exact .inl clearing

include agreed orderly expected effect in
theorem ends_sender_acts
    (sends : next.Sends transfer)
    (settled : Outstanding next receiver transfer →
      Releasing next receiver transfer ∨ receiver.Receives transfer) :
    Concluding next receiver transfer := by
  rcases sends_before effect sends with wasSending | ⟨rfl, begins⟩
  · have notCleaned : ¬ sender.Cleans input := by
      intro cleans
      rw [Sends, (cleans.released effect).1] at sends
      contradiction
    have carry : Concluding sender receiver transfer → Concluding next receiver transfer :=
      concluding_kept orderly effect wasSending notCleaned
    by_cases ending : next.Ending transfer
    · rcases orderly.ending_own expected effect (orderly.sender_of_sends wasSending) ending with
        before | clearing | looping
      · exact carry (agreed.ends transfer wasSending fun _ => .inl (.inr before))
      · exact .inl clearing
      · exact carry (.inr (.inr (.inr looping)))
    · apply carry
      apply agreed.ends transfer wasSending
      intro outstanding
      have still : Outstanding next receiver transfer :=
        outstanding.imp_left (offering_kept effect expected orderly)
      rcases settled still with (clearing | isEnding) | receives
      · exact .inl (.inl clearing)
      · exact absurd isEnding ending
      · exact .inr receives
  · rcases settled (.inl (begins.offering effect)) with (clearing | ending) | receives
    · exact absurd (.clearing clearing) agreed.unknown
    · exact absurd ending (orderly.untouched effect begins).1
    · exact absurd (.receiving receives) agreed.unknown

include orderly expected told notReceived effect in
/-- Unless the peer is told now, a transfer that is over was over before. -/
theorem isOver_sender_acts
    (untold : ¬ next.Ending transfer)
    (isOver : IsOver next receiver transfer) :
    IsOver sender receiver transfer := by
  intro sends
  rcases sends_kept effect sends with stillSends | cleans
  · rcases isOver stillSends with clearing | finishing | ended
    · rcases told.clearing_own orderly expected effect sends clearing with
        before | ending | finishing | ⟨packet, outcome, received, -⟩
      · exact .inl before
      · exact absurd ending untold
      · exact .inr (.inl finishing)
      · exact absurd received (notReceived packet outcome)
    · rcases finishing_before effect (orderly.isOpen_of_sends sends) finishing with
        before | ending
      · exact .inr (.inl before)
      · exact absurd ending untold
    · exact .inr (.inr ended)
  · exact .inl (told.sent cleans sends)

include agreed orderly expected told notReceived effect in
theorem releases_sender_acts
    (own : transfer.sender = sender.clientId)
    (isOver : IsOver next receiver transfer)
    (outstanding : Outstanding next receiver transfer) :
    Releasing next receiver transfer := by
  by_cases begun : transfer = ⟨sender.clientId, sender.begun⟩ ∧ sender.Begins input
  · obtain ⟨rfl, begins⟩ := begun
    obtain ⟨-, unclear, unfinished⟩ := orderly.untouched effect begins
    rcases isOver (begins.sends effect) with clearing | finishing | ⟨packet, member, ends⟩
    · exact absurd clearing unclear
    · exact absurd finishing unfinished
    · exact absurd (.packet packet member ends.choose_spec.2) agreed.unknown
  · by_cases ending : next.Ending transfer
    · exact .inr ending
    · have wasOver := isOver_sender_acts orderly expected told notReceived effect ending isOver
      have wasOutstanding : Outstanding sender receiver transfer :=
        outstanding.imp_left fun offering => (offering_before effect offering).resolve_right begun
      exact (agreed.releases transfer own wasOver wasOutstanding).imp_right
        (ending_kept effect expected orderly)

include agreed orderly expected told notReceived effect in
theorem sender_acts : Agreed next receiver := by
  have sameId := (identity_of_effect effect).1
  constructor
  · rw [sameId]
    exact agreed.offered
  · intro transfer mentions own
    rw [sameId] at own
    exact Nat.lt_of_lt_of_le (agreed.known transfer mentions own) (identity_of_effect effect).2
  · intro transfer offered mentions offering same
    rcases offering_before effect offering with before | ⟨rfl, -⟩
    · exact agreed.behind transfer offered mentions before same
    · exact agreed.known transfer mentions same
  · intro transfer sends settled
    exact agreed.ends_sender_acts orderly expected effect sends settled
  · intro transfer own isOver outstanding
    rw [sameId] at own
    exact agreed.releases_sender_acts orderly expected told notReceived effect own isOver
      outstanding

end SenderActs

/-! ### The receiver takes an input of its own -/

section ReceiverActs

variable
  (agreed : Agreed sender receiver)
  (sending : sender.Orderly)
  (orderly : receiver.Orderly)
  (expected : receiver.Expected input)
  (distinct : sender.clientId ≠ receiver.clientId)
  (told : receiver.EndsAreTold input)
  (notReceived : ∀ packet outcome, input ≠ .receive packet outcome)
  (effect : RTCClient.Effect receiver input next calls)

include notReceived effect in
theorem pending_receiver_acts (pending : next.Pending transfer) :
    receiver.Pending transfer := by
  rcases pending_before effect pending with before | ⟨packet, outcome, received, -⟩
  · exact before
  · exact absurd received (notReceived packet outcome)

include distinct notReceived effect in
theorem mentions_receiver_acts (mentions : next.Mentions transfer)
    (own : transfer.sender = sender.clientId) :
    receiver.Mentions transfer := by
  rcases mentions_before effect mentions with
    before | ⟨packet, outcome, received, -⟩ | ⟨rfl, -⟩
  · exact before
  · exact absurd received (notReceived packet outcome)
  · exact absurd own distinct.symm

include orderly expected notReceived effect in
/-- When the receiver says nothing new, what closes the transfer was there
before. -/
theorem settled_receiver_acts
    (foreign : transfer.sender ≠ receiver.clientId)
    (unended : ¬ next.Ending transfer) (unaccepted : ¬ next.Accepting transfer)
    (settled : Releasing sender next transfer ∨ next.Receives transfer) :
    Releasing sender receiver transfer ∨ receiver.Receives transfer := by
  have closes := orderly.closing_foreign expected effect foreign unended unaccepted
  have before : next.Clearing transfer ∨ next.Receives transfer →
      Releasing sender receiver transfer ∨ receiver.Receives transfer := by
    intro closing
    rcases closes closing with clearing | receives | ⟨packet, outcome, received, -⟩
    · exact .inl (.inl clearing)
    · exact .inr receives
    · exact absurd received (notReceived packet outcome)
  rcases settled with (clearing | ending) | receives
  · exact before (.inl clearing)
  · exact .inl (.inr ending)
  · exact before (.inr receives)

include agreed sending orderly expected distinct told notReceived effect in
theorem ends_receiver_acts
    (sends : sender.Sends transfer)
    (settled : Outstanding sender next transfer →
      Releasing sender next transfer ∨ next.Receives transfer) :
    Concluding sender next transfer := by
  have foreign : transfer.sender ≠ receiver.clientId := by
    rw [sending.sender_of_sends sends]
    exact distinct
  by_cases ending : next.Ending transfer
  · exact .inr (.inl ending)
  by_cases accepting : next.Accepting transfer
  · exact .inr (.inr (.inl accepting))
  have before : Releasing sender next transfer ∨ next.Receives transfer →
      Releasing sender receiver transfer ∨ receiver.Receives transfer :=
    settled_receiver_acts orderly expected notReceived effect foreign ending accepting
  have wasSettled : Outstanding sender receiver transfer →
      Releasing sender receiver transfer ∨ receiver.Receives transfer := by
    rintro (offering | pending)
    · exact before (settled (.inl offering))
    · rcases pending_kept effect pending with
        stillPending | cleans | ⟨_, _, _, _, outcome, received⟩
      · exact before (settled (.inr stillPending))
      · exact .inl (.inl (told.offered cleans pending))
      · exact absurd received (notReceived _ outcome)
  rcases agreed.ends transfer sends wasSettled with clearing | wasEnding | wasAccepting | looping
  · exact .inl clearing
  · exact absurd (ending_kept effect expected orderly wasEnding) ending
  · exact absurd (mem_kept effect expected orderly wasAccepting) accepting
  · exact .inr (.inr (.inr looping))

include agreed orderly expected distinct notReceived effect in
theorem releases_receiver_acts
    (own : transfer.sender = sender.clientId)
    (isOver : IsOver sender next transfer)
    (outstanding : Outstanding sender next transfer) :
    Releasing sender next transfer := by
  have foreign : transfer.sender ≠ receiver.clientId := by
    rw [own]
    exact distinct
  by_cases clearing : next.Clearing transfer
  · exact .inl clearing
  have wasOver : IsOver sender receiver transfer := by
    intro sends
    rcases isOver sends with isClearing | finishing | ending
    · exact .inl isClearing
    · exact .inr (.inl finishing)
    · rcases orderly.ending_foreign expected effect foreign ending with
        before | ⟨isClearing, -⟩ | ⟨packet, outcome, received, -⟩
      · exact .inr (.inr before)
      · exact absurd isClearing clearing
      · exact absurd received (notReceived packet outcome)
  have wasOutstanding : Outstanding sender receiver transfer :=
    outstanding.imp_right (pending_receiver_acts notReceived effect)
  rcases agreed.releases transfer own wasOver wasOutstanding with wasClearing | ending
  · -- The cleanup has just run: nothing is pending, and no offer comes any more.
    have cleans := (clearing_kept effect wasClearing).resolve_left clearing
    rcases outstanding with offering | pending
    · have earlier := agreed.behind transfer transfer (.clearing wasClearing) offering rfl
      exact absurd earlier (Nat.lt_irrefl _)
    · rw [Pending, (cleans.released effect).2.2] at pending
      contradiction
  · exact .inr ending

include agreed sending orderly expected distinct told notReceived effect in
theorem receiver_acts : Agreed sender next := by
  constructor
  · intro transfer pending
    exact agreed.offered transfer (pending_receiver_acts notReceived effect pending)
  · intro transfer mentions own
    exact agreed.known transfer
      (mentions_receiver_acts distinct notReceived effect mentions own) own
  · intro transfer offered mentions offering same
    have own := same.trans (sending.sender_of_offering offering)
    exact agreed.behind transfer offered
      (mentions_receiver_acts distinct notReceived effect mentions own) offering same
  · intro transfer sends settled
    exact agreed.ends_receiver_acts sending orderly expected distinct told notReceived effect
      sends settled
  · intro transfer own isOver outstanding
    exact agreed.releases_receiver_acts orderly expected distinct notReceived effect own isOver
      outstanding

end ReceiverActs

theorem not_cleans_of_receive {packet : Packet} {outcome : WriteOutcome} :
    ¬ sender.Cleans (.receive packet outcome) :=
  not_cleans_of_ne (by simp)

theorem not_begins_of_receive {packet : Packet} {outcome : WriteOutcome} :
    ¬ sender.Begins (.receive packet outcome) := by
  rintro ⟨fileURL, same, -⟩
  contradiction

/-! ### The sender receives a packet of the receiver -/

section SenderReceives

variable {packet : Packet} {rest : List Packet} {outcome : WriteOutcome}
  (agreed : Agreed sender receiver)
  (orderly : sender.Orderly)
  (expected : sender.Expected (.receive packet outcome))
  (queue : receiver.outgoing = packet :: rest)
  (effect : RTCClient.Effect sender (.receive packet outcome) next calls)

include effect in
theorem offering_sender_receives (offering : next.Offering transfer) :
    sender.Offering transfer :=
  (offering_before effect offering).resolve_right fun begun => not_begins_of_receive begun.2

include agreed orderly expected queue effect in
theorem ends_sender_receives
    (sends : next.Sends transfer)
    (settled : Outstanding next { receiver with outgoing := rest } transfer →
      Releasing next { receiver with outgoing := rest } transfer ∨
        Receives { receiver with outgoing := rest } transfer) :
    Concluding next { receiver with outgoing := rest } transfer := by
  have wasSending : sender.Sends transfer :=
    (sends_before effect sends).resolve_right fun begun => not_begins_of_receive begun.2
  by_cases clearing : next.Clearing transfer
  · exact .inl clearing
  by_cases looping : next.Looping transfer
  · exact .inr (.inr (.inr looping))
  have notLooping : ¬ sender.Looping transfer := by
    intro wasLooping
    rcases orderly.looping_or_clearing effect wasSending not_cleans_of_receive wasLooping with
      still | isClearing
    · exact looping still
    · exact clearing isClearing
  have wasSettled : Outstanding sender receiver transfer →
      Releasing sender receiver transfer ∨ receiver.Receives transfer := by
    intro outstanding
    rcases settled (outstanding.imp_left (offering_kept effect expected orderly)) with
      (isClearing | ending) | receives
    · exact .inl (.inl isClearing)
    · rcases orderly.ending_own expected effect (orderly.sender_of_sends wasSending) ending with
        before | isClearing | wasLooping
      · exact .inl (.inr before)
      · exact absurd isClearing clearing
      · exact absurd wasLooping notLooping
    · exact .inr receives
  rcases agreed.ends transfer wasSending wasSettled with
    wasClearing | ⟨other, member, ends⟩ | accepting | wasLooping
  · exact .inl ((clearing_kept effect wasClearing).resolve_right not_cleans_of_receive)
  · rw [queue] at member
    rcases List.mem_cons.mp member with rfl | inRest
    · exact .inl (clearing_of_ends effect ends)
    · exact .inr (.inl ⟨other, inRest, ends⟩)
  · rw [Accepting, queue] at accepting
    rcases List.mem_cons.mp accepting with rfl | inRest
    · exact .inr (.inr (.inr (looping_of_accept effect wasSending)))
    · exact .inr (.inr (.inl inRest))
  · exact absurd wasLooping notLooping

include orderly expected queue effect in
/-- Unless the peer is told now, a transfer that is over was over before the packet
arrived. -/
theorem isOver_sender_receives
    (own : transfer.sender = sender.clientId)
    (untold : ¬ next.Ending transfer)
    (isOver : IsOver next { receiver with outgoing := rest } transfer) :
    IsOver sender receiver transfer := by
  intro sends
  have stillSends := (sends_kept effect sends).resolve_right not_cleans_of_receive
  rcases isOver stillSends with clearing | finishing | ⟨other, member, ends⟩
  · rcases orderly.clearing_own expected effect own clearing with
      before | ending | ⟨other, result, received, ends⟩ |
      ⟨given, loop, others, error, ran, -⟩ | ⟨-, ran, -⟩
    · exact .inl before
    · exact absurd ending untold
    · obtain ⟨rfl, -⟩ := Input.receive.inj received
      refine .inr (.inr ⟨packet, ?_, ends⟩)
      rw [queue]
      exact List.mem_cons_self
    · contradiction
    · contradiction
  · rcases finishing_before effect (orderly.isOpen_of_sends sends) finishing with
      before | ending
    · exact .inr (.inl before)
    · exact absurd ending untold
  · refine .inr (.inr ⟨other, ?_, ends⟩)
    rw [queue]
    exact List.mem_cons_of_mem _ member

include agreed orderly expected queue effect in
theorem sender_receives : Agreed next { receiver with outgoing := rest } := by
  have sameId := (identity_of_effect effect).1
  have shrunk : rest ⊆ receiver.outgoing := by
    rw [queue]
    exact List.subset_cons_self _ _
  constructor
  · rw [sameId]
    exact agreed.offered
  · intro transfer mentions own
    rw [sameId] at own
    exact Nat.lt_of_lt_of_le (agreed.known transfer (mentions.of_delivered shrunk) own)
      (identity_of_effect effect).2
  · intro transfer offered mentions offering same
    exact agreed.behind transfer offered (mentions.of_delivered shrunk)
      (offering_sender_receives effect offering) same
  · intro transfer sends settled
    exact agreed.ends_sender_receives orderly expected queue effect sends settled
  · intro transfer own isOver outstanding
    rw [sameId] at own
    by_cases ending : next.Ending transfer
    · exact .inr ending
    have wasOver := isOver_sender_receives orderly expected queue effect own ending isOver
    have wasOutstanding : Outstanding sender receiver transfer :=
      outstanding.imp_left (offering_sender_receives effect)
    exact (agreed.releases transfer own wasOver wasOutstanding).imp_right
      (ending_kept effect expected orderly)

end SenderReceives

/-! ### The receiver receives a packet of the sender -/

section ReceiverReceives

variable {packet : Packet} {rest : List Packet} {outcome : WriteOutcome}
  (agreed : Agreed sender receiver)
  (sending : sender.Orderly)
  (orderly : receiver.Orderly)
  (expected : receiver.Expected (.receive packet outcome))
  (distinct : sender.clientId ≠ receiver.clientId)
  (queue : sender.outgoing = packet :: rest)
  (effect : RTCClient.Effect receiver (.receive packet outcome) next calls)

include queue in
theorem first_mem : packet ∈ sender.outgoing := by
  rw [queue]
  exact List.mem_cons_self

include queue in
theorem rest_subset : rest ⊆ sender.outgoing := by
  rw [queue]
  exact List.subset_cons_self _ _

include sending queue in
/-- Offers behind the first packet began after whatever it mentions. -/
theorem before_rest {later : Packet} (member : later ∈ rest) : packet.Before later := by
  have ordered := sending.ordered
  rw [queue] at ordered
  exact (List.pairwise_cons.mp ordered).1 later member

include queue effect in
theorem outstanding_of_pending (pending : next.Pending transfer) :
    Outstanding sender receiver transfer := by
  rcases pending_before effect pending with before | ⟨other, result, received, offers, -⟩
  · exact .inr before
  · obtain ⟨rfl, -⟩ := Input.receive.inj received
    exact .inl ⟨packet, first_mem queue, offers⟩

include agreed sending queue in
/-- While a file is sent and its offer is pending, no other offer arrives. -/
theorem not_offered_over {name : String} {size chunk : Nat} {tag : Option TransferId}
    (sends : sender.Sends transfer) (pending : receiver.Pending transfer)
    (isOffer : packet = ⟨.ftOffer name size chunk, tag⟩) : False := by
  subst isOffer
  have isFirst := first_mem queue
  obtain ⟨offered, tagged, own⟩ := sending.offers _ isFirst name size chunk rfl
  have offering : sender.Offering offered :=
    ⟨_, isFirst, name, size, chunk, by rw [← tagged]⟩
  have later := agreed.behind transfer offered (.pending pending) offering
    ((sending.sender_of_sends sends).trans own.symm)
  have earlier := sending.last transfer offered sends offering
  omega

include orderly expected queue effect in
/-- When the receiver says nothing new, what closes the transfer was there before
the packet arrived. -/
theorem settled_receiver_receives
    (foreign : transfer.sender ≠ receiver.clientId)
    (unended : ¬ next.Ending transfer) (unaccepted : ¬ next.Accepting transfer)
    (settled : Releasing { sender with outgoing := rest } next transfer ∨
      next.Receives transfer) :
    Releasing sender receiver transfer ∨ receiver.Receives transfer := by
  have closes := orderly.closing_foreign expected effect foreign unended unaccepted
  have before : next.Clearing transfer ∨ next.Receives transfer →
      Releasing sender receiver transfer ∨ receiver.Receives transfer := by
    intro closing
    rcases closes closing with clearing | receives | ⟨other, result, received, ends⟩
    · exact .inl (.inl clearing)
    · exact .inr receives
    · obtain ⟨rfl, -⟩ := Input.receive.inj received
      exact .inl (.inr ⟨packet, first_mem queue, ends⟩)
  rcases settled with (clearing | ⟨other, member, ends⟩) | receives
  · exact before (.inl clearing)
  · exact .inl (.inr ⟨other, rest_subset queue member, ends⟩)
  · exact before (.inr receives)

include agreed sending orderly expected distinct queue effect in
theorem ends_receiver_receives
    (sends : sender.Sends transfer)
    (settled : Outstanding { sender with outgoing := rest } next transfer →
      Releasing { sender with outgoing := rest } next transfer ∨ next.Receives transfer) :
    Concluding { sender with outgoing := rest } next transfer := by
  have isOpen := expected.delivered packet outcome rfl
  have foreign : transfer.sender ≠ receiver.clientId := by
    rw [sending.sender_of_sends sends]
    exact distinct
  by_cases ending : next.Ending transfer
  · exact .inr (.inl ending)
  by_cases accepting : next.Accepting transfer
  · exact .inr (.inr (.inl accepting))
  have before := settled_receiver_receives orderly expected queue effect foreign ending accepting
  have wasSettled : Outstanding sender receiver transfer →
      Releasing sender receiver transfer ∨ receiver.Receives transfer := by
    rintro (⟨other, member, offers⟩ | pending)
    · rw [queue] at member
      rcases List.mem_cons.mp member with rfl | inRest
      · rcases pending_of_offers effect isOpen offers with isEnding | pending
        · exact absurd isEnding ending
        · exact before (settled (.inr pending))
      · exact before (settled (.inl ⟨other, inRest, offers⟩))
    · rcases pending_kept effect pending with
        stillPending | cleans | ⟨name, size, chunk, tag, result, received⟩
      · exact before (settled (.inr stillPending))
      · exact absurd cleans not_cleans_of_receive
      · obtain ⟨isOffer, -⟩ := Input.receive.inj received
        exact (agreed.not_offered_over sending queue sends pending isOffer).elim
  rcases agreed.ends transfer sends wasSettled with clearing | wasEnding | wasAccepting | looping
  · exact .inl clearing
  · exact absurd (ending_kept effect expected orderly wasEnding) ending
  · exact absurd (mem_kept effect expected orderly wasAccepting) accepting
  · exact .inr (.inr (.inr looping))

include agreed sending queue effect in
/-- An offer that is refused is neither pending nor under way afterwards. -/
theorem not_outstanding_of_refused
    (offers : packet.Offers transfer)
    (engaged : receiver.sendHandle.isSome ∨ receiver.recvHandle.isSome) :
    ¬ Outstanding { sender with outgoing := rest } next transfer := by
  rintro (⟨later, member, laterOffers⟩ | pending)
  · have tagged : packet.transfer = some transfer := by
      obtain ⟨name, size, chunk, rfl⟩ := offers
      rfl
    have earlier := before_rest sending queue member transfer transfer tagged laterOffers rfl
    exact Nat.lt_irrefl _ earlier
  · rcases pending_before effect pending with
      wasPending | ⟨_, _, -, -, notSending, notReceiving⟩
    · have earlier := agreed.behind transfer transfer (.pending wasPending)
        ⟨packet, first_mem queue, offers⟩ rfl
      exact Nat.lt_irrefl _ earlier
    · simp [notSending, notReceiving] at engaged

include agreed sending orderly expected distinct queue effect in
theorem releases_receiver_receives
    (own : transfer.sender = sender.clientId)
    (isOver : IsOver { sender with outgoing := rest } next transfer)
    (outstanding : Outstanding { sender with outgoing := rest } next transfer) :
    Releasing { sender with outgoing := rest } next transfer := by
  have foreign : transfer.sender ≠ receiver.clientId := by
    rw [own]
    exact distinct
  by_cases clearing : next.Clearing transfer
  · exact .inl clearing
  have wasOver : IsOver sender receiver transfer := by
    intro sends
    rcases isOver sends with isClearing | finishing | ending
    · exact .inl isClearing
    · exact .inr (.inl finishing)
    · rcases orderly.ending_foreign expected effect foreign ending with
        before | ⟨isClearing, -⟩ | ⟨other, result, received, offers, engaged⟩
      · exact .inr (.inr before)
      · exact absurd isClearing clearing
      · obtain ⟨rfl, -⟩ := Input.receive.inj received
        exact absurd outstanding
          (agreed.not_outstanding_of_refused sending queue effect offers engaged)
  have wasOutstanding : Outstanding sender receiver transfer := by
    rcases outstanding with ⟨other, member, offers⟩ | pending
    · exact .inl ⟨other, rest_subset queue member, offers⟩
    · exact outstanding_of_pending queue effect pending
  rcases agreed.releases transfer own wasOver wasOutstanding with
    wasClearing | ⟨other, member, ends⟩
  · exact .inl ((clearing_kept effect wasClearing).resolve_right not_cleans_of_receive)
  · rw [queue] at member
    rcases List.mem_cons.mp member with rfl | inRest
    · exact .inl (clearing_of_ends effect ends)
    · exact .inr ⟨other, inRest, ends⟩

include agreed sending orderly expected distinct queue effect in
theorem receiver_receives : Agreed { sender with outgoing := rest } next := by
  have isFirst := first_mem queue
  constructor
  · intro transfer pending
    rcases outstanding_of_pending queue effect pending with offering | before
    · exact sending.sender_of_offering offering
    · exact agreed.offered transfer before
  · intro transfer mentions own
    rcases mentions_before effect mentions with
      before | ⟨other, result, received, tagged⟩ | ⟨rfl, -⟩
    · exact agreed.known transfer before own
    · obtain ⟨rfl, -⟩ := Input.receive.inj received
      exact sending.fresh transfer (.packet packet isFirst tagged) own
    · exact absurd own distinct.symm
  · rintro transfer offered mentions ⟨later, member, offers⟩ same
    rcases mentions_before effect mentions with
      before | ⟨other, result, received, tagged⟩ | ⟨-, begins⟩
    · exact agreed.behind transfer offered before
        ⟨later, rest_subset queue member, offers⟩ same
    · obtain ⟨rfl, -⟩ := Input.receive.inj received
      exact before_rest sending queue member transfer offered tagged offers same
    · exact absurd begins not_begins_of_receive
  · intro transfer sends settled
    exact agreed.ends_receiver_receives sending orderly expected distinct queue effect sends
      settled
  · intro transfer own isOver outstanding
    exact agreed.releases_receiver_receives sending orderly expected distinct queue effect own
      isOver outstanding

end ReceiverReceives

end Agreed

end Session

end WebrtcFileSender
