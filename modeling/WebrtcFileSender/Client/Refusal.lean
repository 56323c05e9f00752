import WebrtcFileSender.Client.Orderly

/-!
Contract: a client whose channel is open and has no room.

`sendData:` returns `NO` while the buffer of the channel is full. `sendControlJSON:`
drops that result, so a control message is lost and nobody learns of it; the sending
loop reads it and tries its chunk again.

Owns: what one input does while the channel takes nothing, the inputs that then lose
no message about a transfer, and what such a loss leaves of an orderly client.
-/

namespace WebrtcFileSender

namespace RTCClient

/-- The sending loop sees the `NO` itself. -/
def Input.refused : Input → Input
  | .runFile given => .runFile { given with sendOk := false }
  | input => input

/-- What was under way before stays so; nothing is put behind it. -/
def withoutSent (client next : RTCClient) : RTCClient :=
  { next with outgoing := next.outgoing.take client.outgoing.length }

/-- What one input does while `sendData:` returns `NO`. No method reads what the
channel holds, so a packet that is not taken changes nothing else. -/
def actRefused (client : RTCClient) (input : Input) :
    Option (RTCClient × List DelegateCall) :=
  (client.act input.refused).map fun (next, calls) => (client.withoutSent next, calls)

/-- The input sends no control message about a transfer: no offer, no reject or cancel
of anything, no accept, no busy, and no `ft_done`. -/
def Silent (client : RTCClient) : Input → Prop
  | .sendFileAtURL fileURL => client.sendSucceeds fileURL = false
  | .cancelFileTransfer => client.currentTransfer = none
  | .rejectIncomingFileWithReason _ => client.incomingTransfer = none
  | .acceptIncomingFileToURL _ => client.canAccept = false
  | .receive ⟨.ftOffer _ _ _, _⟩ _ => client.sendHandle = none ∧ client.recvHandle = none
  | .receive ⟨.binary data, _⟩ .written =>
      client.recvHandle.isSome = true →
        u64 (client.recvBytesReceived + data.length) < client.recvTotalBytes
  | .runFile _ => ∀ loop ∈ client.fileQueue.head?, loop.point ≠ .sendDone
  | _ => True

instance (client : RTCClient) : (input : Input) → Decidable (client.Silent input)
  | .sendFileAtURL fileURL =>
      inferInstanceAs (Decidable (client.sendSucceeds fileURL = false))
  | .cancelFileTransfer => inferInstanceAs (Decidable (client.currentTransfer = none))
  | .rejectIncomingFileWithReason _ =>
      inferInstanceAs (Decidable (client.incomingTransfer = none))
  | .acceptIncomingFileToURL _ => inferInstanceAs (Decidable (client.canAccept = false))
  | .receive ⟨.ftOffer _ _ _, _⟩ _ =>
      inferInstanceAs (Decidable (client.sendHandle = none ∧ client.recvHandle = none))
  | .receive ⟨.binary data, _⟩ .written =>
      inferInstanceAs (Decidable (client.recvHandle.isSome = true →
        u64 (client.recvBytesReceived + data.length) < client.recvTotalBytes))
  | .runFile _ =>
      inferInstanceAs (Decidable (∀ loop ∈ client.fileQueue.head?, loop.point ≠ .sendDone))
  | .receive ⟨.binary _, _⟩ (.raised _) | .receive ⟨.hello _ _ _, _⟩ _
  | .receive ⟨.ftAccept, _⟩ _ | .receive ⟨.ftReject _, _⟩ _ | .receive ⟨.ftCancel, _⟩ _
  | .receive ⟨.ftDone, _⟩ _ | .transmit | .runMain | .iceConnectionState _
  | .dataChannelState _ => .isTrue trivial

variable {client next : RTCClient} {input : Input} {calls : List DelegateCall}
  {transfer : TransferId}

/-- A loop whose chunk is refused sends nothing. -/
theorem outgoing_loopStatement_refused {given : LoopInput} {point : LoopPoint}
    (refused : given.sendOk = false) (notDone : point ≠ .sendDone) :
    (client.loopStatement transfer given point).1.outgoing = client.outgoing := by
  cases point with
  | sendDone => contradiction
  | retrySend chunk retries => simp [loopStatement, refused]
  | read =>
      simp only [loopStatement]
      split <;> rfl
  | finish error =>
      simp only [loopStatement, cleanupTransferWithError_eq]
  | entry | whileTest | waitTest | waitBody | openTest | retryTest | retryOpenTest | okTest
  | addBytes | reportProgress | cancelledTest | completeTest => rfl

/-- Where the input is silent, a packet that is not taken names no transfer. -/
theorem Silent.emits
    (silent : client.Silent input) (notLoop : ∀ given, input ≠ .runFile given)
    {packet : Packet} (emits : Emits client input packet) :
    packet.transfer = none := by
  cases emits with
  | offer fileURL name size succeeds =>
      have fails : client.sendSucceeds fileURL = false := silent
      rw [succeeds] at fails
      contradiction
  | cancel | reject => exact silent
  | accept destination accepts | unopened destination accepts =>
      have fails : client.canAccept = false := silent
      rw [accepts] at fails
      contradiction
  | busy name size chunk tag outcome engaged =>
      obtain ⟨notSending, notReceiving⟩ := silent
      simp [notSending, notReceiving] at engaged
  | received data tag handle receiving complete =>
      have more := silent (by rw [receiving]; rfl)
      omega
  | chunk given | done given => exact absurd rfl (notLoop given)
  | hello => rfl

theorem Silent.unlabelled
    (silent : client.Silent input) (effect : Effect client input.refused next calls)
    {packet : Packet} (lost : packet ∈ next.outgoing.drop client.outgoing.length) :
    packet.transfer = none := by
  by_cases isLoop : ∃ given, input = .runFile given
  · obtain ⟨given, rfl⟩ := isLoop
    cases effect with
    | looped given' loop rest queue =>
        have notDone : loop.point ≠ .sendDone := silent loop (by rw [queue]; rfl)
        have same : (client.loopStatement loop.transfer { given with sendOk := false }
            loop.point).1.outgoing = client.outgoing :=
          outgoing_loopStatement_refused rfl notDone
        dsimp only at lost
        rw [same, List.drop_length] at lost
        contradiction
    | nothing => simp at lost
  · have notLoop : ∀ given, input ≠ .runFile given := fun given same => isLoop ⟨given, same⟩
    have sameInput : input.refused = input := by
      cases input with
      | runFile given => exact absurd rfl (notLoop given)
      | _ => rfl
    rw [sameInput] at effect
    rcases outgoing_of_effect effect with ⟨gone, queue, -⟩ | ⟨dropped, -⟩ | ⟨packets, grown, emitted⟩
    · rw [queue, List.drop_eq_nil_of_le (by simp)] at lost
      contradiction
    · rw [dropped, List.drop_nil] at lost
      contradiction
    · rw [grown, List.drop_left] at lost
      exact silent.emits notLoop (emitted packet lost)

/-! ## What is left -/

/-- A client without some of the packets under way; those that name a transfer stay. -/
structure Drops (client next : RTCClient) : Prop where
  same : next = { client with outgoing := next.outgoing }
  sublist : next.outgoing.Sublist client.outgoing
  kept : ∀ packet ∈ client.outgoing, packet.transfer.isSome = true →
    packet ∈ next.outgoing

theorem Silent.drops
    (silent : client.Silent input) (effect : Effect client input.refused next calls) :
    Drops next (client.withoutSent next) := by
  constructor
  case same => rfl
  case sublist => exact List.take_sublist _ _
  case kept =>
    intro packet member labelled
    rw [← List.take_append_drop client.outgoing.length next.outgoing] at member
    rcases List.mem_append.mp member with stays | lost
    · exact stays
    · rw [silent.unlabelled effect lost] at labelled
      contradiction

namespace Drops

variable (drops : Drops client next)

include drops

theorem holdings : next.holdings = client.holdings := by
  rw [drops.same]
  rfl

theorem offering_iff : next.Offering transfer ↔ client.Offering transfer := by
  constructor
  · rintro ⟨packet, member, offers⟩
    exact ⟨packet, drops.sublist.subset member, offers⟩
  · rintro ⟨packet, member, offers⟩
    refine ⟨packet, drops.kept packet member ?_, offers⟩
    obtain ⟨name, size, chunk, rfl⟩ := offers
    rfl

theorem ending_iff : next.Ending transfer ↔ client.Ending transfer := by
  constructor
  · rintro ⟨packet, member, ends⟩
    exact ⟨packet, drops.sublist.subset member, ends⟩
  · rintro ⟨packet, member, ends⟩
    refine ⟨packet, drops.kept packet member ?_, ends⟩
    obtain ⟨error, -, tagged⟩ := ends
    rw [tagged]
    rfl

theorem accepting_iff : next.Accepting transfer ↔ client.Accepting transfer := by
  constructor
  · intro accepting
    exact drops.sublist.subset accepting
  · intro accepting
    exact drops.kept _ accepting rfl

theorem mentions (mentions : next.Mentions transfer) : client.Mentions transfer := by
  rw [drops.same] at mentions
  exact mentions.of_delivered drops.sublist.subset

/-- A client stays orderly. -/
theorem orderly (orderly : client.Orderly) : next.Orderly := by
  have sameId : next.clientId = client.clientId := by rw [drops.same]
  have sameOpen : next.isDataChannelOpen = client.isDataChannelOpen := by
    rw [drops.same]
    rfl
  have sameQueue : next.fileQueue = client.fileQueue := by rw [drops.same]
  have sameSends : next.Sends = client.Sends := by
    rw [drops.same]
    rfl
  have sameClearing : next.Clearing = client.Clearing := by
    rw [drops.same]
    rfl
  constructor
  case holdings =>
    rw [drops.holdings, sameId]
    exact orderly.holdings
  case closed =>
    intro isClosed
    rw [sameOpen] at isClosed
    obtain ⟨empty, noLoop⟩ := orderly.closed isClosed
    have fewer := drops.sublist
    rw [empty] at fewer
    exact ⟨List.sublist_nil.mp fewer, by rw [sameQueue]; exact noLoop⟩
  case looping =>
    intro transfer looping
    rw [Looping, sameQueue] at looping
    rw [sameId]
    exact orderly.looping transfer looping
  case cancelled =>
    intro cancelled transfer sends
    rw [drops.same] at cancelled
    rw [sameSends] at sends
    rw [sameClearing]
    exact orderly.cancelled cancelled transfer sends
  case offers =>
    intro packet member
    rw [sameId]
    exact orderly.offers packet (drops.sublist.subset member)
  case fresh =>
    intro transfer mentions own
    have sameBegun : next.begun = client.begun := by rw [drops.same]
    rw [sameId] at own
    rw [sameBegun]
    exact orderly.fresh transfer (drops.mentions mentions) own
  case ordered => exact orderly.ordered.sublist drops.sublist
  case last =>
    intro transfer offered sends offering
    rw [sameSends] at sends
    exact orderly.last transfer offered sends (drops.offering_iff.mp offering)

end Drops

end RTCClient

end WebrtcFileSender
