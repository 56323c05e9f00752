import WebrtcFileSender.Session.Integrity
import WebrtcFileSender.Session.Stages

/-!
Contract: a client that nothing disturbs reports no error.

Owns: the inputs of such a client, and that under them its channel stays open,
no reject or cancel is under way, and no pending cleanup carries an error.
-/

namespace WebrtcFileSender

/-- A message that tells of no failure. -/
def Message.Regular : Message → Prop
  | .ftReject _ | .ftCancel => False
  | _ => True

/-- A block that reports no error. -/
def MainBlock.Regular : MainBlock → Prop
  | .iceConnectionLost => False
  | .cleanup error _ => error = none
  | _ => True

namespace RTCClient

/-- An input of an undisturbed transfer: no call but an accept whose destination
opens, no loss of the connection, no failing write, no refused offer, and a loop
that comes to no error. -/
def RegularInput (client : RTCClient) : Input → Prop
  | .acceptIncomingFileToURL destination => destination.openError = none
  | .receive packet outcome => packet.message.Regular ∧ outcome = .written ∧
      (packet.message.isOffer = true → client.sendHandle = none ∧ client.recvHandle = none)
  | .runMain => True
  | .runFile _ => ∀ loop ∈ client.fileQueue, ∀ error, loop.point = .finish error → error = none
  | .iceConnectionState newState => newState.isLost = false
  | .sendFileAtURL _ | .cancelFileTransfer | .rejectIncomingFileWithReason _ | .transmit
  | .dataChannelState _ => False

/-- The channel is open, and neither a packet nor a block tells of a failure. -/
structure Regular (client : RTCClient) : Prop where
  isOpen : client.isDataChannelOpen = true
  packets : ∀ packet ∈ client.outgoing, packet.message.Regular
  blocks : ∀ block ∈ client.mainQueue, block.Regular

variable {client next : RTCClient} {input : Input} {calls : List DelegateCall}

theorem Regular.emits
    (regularInput : client.RegularInput input)
    {packet : Packet} (emits : Emits client input packet) :
    packet.message.Regular := by
  cases emits with
  | accept | received | chunk | done => trivial
  | busy name size chunk transfer outcome engaged =>
      obtain ⟨notSending, notReceiving⟩ := regularInput.2.2 rfl
      simp [notSending, notReceiving] at engaged
  | unopened destination _ fails =>
      have opens : destination.openError = none := regularInput
      rw [opens] at fails
      contradiction
  | offer | cancel | reject | hello => exact regularInput.elim

/-- A regular input keeps a client regular. -/
theorem Regular.effect
    (regular : client.Regular)
    (regularInput : client.RegularInput input)
    (effect : Effect client input next calls) :
    next.Regular := by
  have packets : ∀ packet ∈ next.outgoing, packet.message.Regular := by
    intro packet member
    rcases mem_outgoing_of_effect effect member with old | emitted
    · exact regular.packets packet old
    · exact emits regularInput emitted
  have appended : ∀ fresh : List MainBlock, (∀ block ∈ fresh, block.Regular) →
      ∀ block ∈ client.mainQueue ++ fresh, block.Regular := by
    intro fresh isRegular block member
    rcases List.mem_append.mp member with old | new
    · exact regular.blocks block old
    · exact isRegular block new
  have taken : ∀ {block rest}, client.mainQueue = block :: rest →
      ∀ other ∈ rest, other.Regular := by
    intro block rest queue other member
    apply regular.blocks
    rw [queue]
    exact List.mem_cons_of_mem _ member
  cases effect with
  | accepted | started | nothing => exact ⟨regular.isOpen, packets, regular.blocks⟩
  | greeted name ip role =>
      exact ⟨regular.isOpen, packets,
        appended [.didReceivePeerName name ip role] (by simp [MainBlock.Regular])⟩
  | offered =>
      exact ⟨regular.isOpen, packets,
        appended [.fileReceiveOffered] (by simp [MainBlock.Regular])⟩
  | stored data =>
      exact ⟨regular.isOpen, packets, appended _ (by simp [MainBlock.Regular])⟩
  | completed data =>
      exact ⟨regular.isOpen, packets, appended _ (by simp [MainBlock.Regular])⟩
  | ended message transfer outcome error ends =>
      have noError : error = none := by
        cases message with
        | ftDone => exact (Option.some.inj ends).symm
        | ftReject | ftCancel => exact regularInput.1.elim
        | hello | ftOffer | ftAccept | binary => contradiction
      exact ⟨regular.isOpen, packets,
        appended [.cleanup error ⟨transfer, true, client.begun⟩]
          (by simp [MainBlock.Regular, noError])⟩
  | reported block rest call queue => exact ⟨regular.isOpen, packets, taken queue⟩
  | cleaned error request rest queue => exact ⟨regular.isOpen, packets, taken queue⟩
  | iceLost rest queue | iceIdle rest queue =>
      have noLoss := regular.blocks .iceConnectionLost (by simp [queue])
      exact noLoss.elim
  | looped given loop rest queue =>
      obtain ⟨handle, sent, sentPackets, blocks, result, change⟩ :=
        client.loopStatement_change loop.transfer given loop.point
      rw [result] at packets ⊢
      refine ⟨regular.isOpen, packets, appended blocks ?_⟩
      intro block member
      rcases change.dispatches block member with ⟨progress, rfl⟩ | ⟨error, atPoint, rfl⟩
      · trivial
      · exact regularInput loop (by simp [queue]) error atPoint
  | unopened destination error accepts fails =>
      have opens : destination.openError = none := regularInput
      rw [opens] at fails
      contradiction
  | busy name size chunk transfer outcome engaged =>
      obtain ⟨notSending, notReceiving⟩ := regularInput.2.2 rfl
      simp [notSending, notReceiving] at engaged
  | writeFailed => exact absurd regularInput.2.1 (by simp)
  | iceChanged newState lost =>
      have kept : newState.isLost = false := regularInput
      rw [kept] at lost
      contradiction
  | began | cancelled | rejected | transmitted | channelChanged => exact regularInput.elim

/-- The regular inputs that a client takes by itself: nothing happens, the main
queue reports or cleans up, the loop runs, or an offer is accepted. -/
inductive RegularEffect (client : RTCClient) : Input → RTCClient → Prop
  | nothing (input : Input) : RegularEffect client input client
  | reported (block : MainBlock) (rest : List MainBlock)
      (queue : client.mainQueue = block :: rest)
      (reports : block.Reports) :
      RegularEffect client .runMain { client with mainQueue := rest }
  | cleaned (error : Option NSError) (request : CleanupRequest) (rest : List MainBlock)
      (queue : client.mainQueue = .cleanup error request :: rest) :
      RegularEffect client .runMain { client with mainQueue := rest }.resetTransfer
  | looped (input : LoopInput) (loop : SendingLoop) (rest : List SendingLoop)
      (queue : client.fileQueue = loop :: rest) :
      RegularEffect client (.runFile input)
        { (client.loopStatement loop.transfer input loop.point).1 with
          fileQueue := advanceQueue loop rest
            (client.loopStatement loop.transfer input loop.point).2 }
  | accepted (destination : Destination) (accepts : client.canAccept = true) :
      RegularEffect client (.acceptIncomingFileToURL destination)
        { client with
          disk := Function.update client.disk destination.path []
          recvHandle := some
            ⟨destination.path, client.incomingTransfer, client.incomingBirth⟩
          recvBytesReceived := 0
          outgoing := client.queued ⟨.ftAccept, client.incomingTransfer⟩ }

theorem Regular.taken
    (regular : client.Regular)
    (regularInput : client.RegularInput input)
    (notReceived : ∀ packet outcome, input ≠ .receive packet outcome)
    (effect : Effect client input next calls) :
    RegularEffect client input next := by
  cases effect with
  | accepted destination accepts => exact .accepted destination accepts
  | reported block rest call queue reports => exact .reported block rest queue reports
  | cleaned error request rest queue => exact .cleaned error request rest queue
  | looped given loop rest queue => exact .looped given loop rest queue
  | nothing => exact .nothing input
  | iceLost rest queue | iceIdle rest queue =>
      have noLoss := regular.blocks .iceConnectionLost (by simp [queue])
      exact noLoss.elim
  | unopened destination error accepts fails =>
      have opens : destination.openError = none := regularInput
      rw [opens] at fails
      contradiction
  | iceChanged newState lost =>
      have kept : newState.isLost = false := regularInput
      rw [kept] at lost
      contradiction
  | greeted | busy | offered | started | ended | writeFailed | stored | completed =>
      exact absurd rfl (notReceived _ _)
  | began | cancelled | rejected | transmitted | channelChanged => exact regularInput.elim

/-- What a regular input leaves alone at a sender. -/
theorem sender_frame {source : Bytes} {transfer : TransferId}
    (role : SenderRole client transfer source)
    (regularInput : client.RegularInput input)
    (received : ∀ packet outcome, input = .receive packet outcome → packet.FromReceiver)
    (effect : Effect client input next calls) :
    next.transferCancelled = client.transferCancelled ∧
      (client.recvTotalBytes = 0 ∧ client.recvBytesReceived = 0 →
        next.recvTotalBytes = 0 ∧ next.recvBytesReceived = 0) := by
  cases effect with
  | accepted destination accepts | unopened destination error accepts =>
      rw [role.not_canAccept] at accepts
      contradiction
  | busy name size chunk given outcome | offered name size chunk given outcome =>
      exact absurd (received _ outcome rfl) id
  | stored data given | completed data given | writeFailed data given =>
      exact absurd (received _ _ rfl) id
  | cleaned => exact ⟨rfl, fun _ => ⟨rfl, rfl⟩⟩
  | looped given loop rest queue =>
      obtain ⟨handle, sent, sentPackets, blocks, result, -⟩ :=
        client.loopStatement_change loop.transfer given loop.point
      rw [result]
      exact ⟨rfl, id⟩
  | began | cancelled | rejected | transmitted | channelChanged => exact regularInput.elim
  | greeted | started | ended | reported | iceLost | iceIdle | iceChanged | nothing =>
      exact ⟨rfl, id⟩

/-- What a regular input leaves alone at a receiver. -/
theorem receiver_frame {source : Bytes}
    (role : ReceiverRole client source)
    (regularInput : client.RegularInput input)
    (effect : Effect client input next calls)
    (zero : client.sendTotalBytes = 0 ∧ client.sendBytesSent = 0) :
    next.sendTotalBytes = 0 ∧ next.sendBytesSent = 0 := by
  cases effect with
  | cleaned => exact ⟨rfl, rfl⟩
  | looped given loop rest queue =>
      rw [role.noLoop] at queue
      contradiction
  | began | cancelled | rejected | transmitted | channelChanged => exact regularInput.elim
  | accepted | unopened | greeted | busy | offered | started | ended | writeFailed | stored
  | completed | reported | iceLost | iceIdle | iceChanged | nothing => exact zero

end RTCClient

end WebrtcFileSender
