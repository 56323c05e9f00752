import WebrtcFileSender.Client.Emission

/-!
Contract: what a client gives away and where it writes, whatever its peer does.

The peer may send any messages in any order: accepts for no offer or many, offers that
nobody answers, bytes that nobody asked for.

Owns: a machine that records the user's choices next to the traffic, the bytes of a
transfer that a client can still send, and the run law for both directions.
-/

namespace WebrtcFileSender

open RTCClient

/-! ## Traces -/

/-- The user chose a file for a transfer, or a destination; a binary message came in;
a packet was handed to the channel. -/
inductive Trace where
  | chose (transfer : TransferId) (file : File)
  | opened (path : String)
  | received (data : Bytes)
  | sent (packet : Packet)

namespace RTCClient

/-- What an input gives the client. -/
def taken (client : RTCClient) : Input → List Trace
  | .sendFileAtURL fileURL =>
      match client.sendFileCheck fileURL with
      | .ok file => [.chose ⟨client.clientId, client.begun⟩ file]
      | .error _ => []
  | .acceptIncomingFileToURL destination =>
      if client.canAccept && destination.openError.isNone then [.opened destination.path]
      else []
  | .receive packet _ =>
      match packet.message with
      | .binary data => [.received data]
      | _ => []
  | _ => []

def traced (client : RTCClient) (input : Input) : Option (RTCClient × List Trace) :=
  (client.act input).map fun (next, _) =>
    (next, client.taken input ++ (next.outgoing.drop client.outgoing.length).map .sent)

end RTCClient

/-- Runs of one client with their traces. -/
abbrev TracedRun (clientId : Nat) (helloName : String) :=
  Machine.Run RTCClient.traced Machine.free (RTCClient.initial clientId helloName)

/-! ## Bytes on the channel -/

/-- The bytes of a transfer that a packet carries. -/
def Packet.bytesOf (transfer : TransferId) (packet : Packet) : Bytes :=
  match packet.message with
  | .binary data => if packet.transfer = some transfer then data else []
  | _ => []

def bytesOf (transfer : TransferId) (packets : List Packet) : Bytes :=
  packets.flatMap (Packet.bytesOf transfer)

/-- The bytes of a transfer that were handed to the channel. -/
def sentBytes (transfer : TransferId) (history : List Trace) : Bytes :=
  history.flatMap fun
    | .sent packet => packet.bytesOf transfer
    | _ => []

/-- All that came in. -/
def receivedBytes (history : List Trace) : Bytes :=
  history.flatMap fun
    | .received data => data
    | _ => []

theorem sentBytes_append (transfer : TransferId) (left right : List Trace) :
    sentBytes transfer (left ++ right) = sentBytes transfer left ++ sentBytes transfer right :=
  List.flatMap_append

theorem receivedBytes_append (left right : List Trace) :
    receivedBytes (left ++ right) = receivedBytes left ++ receivedBytes right :=
  List.flatMap_append

theorem sentBytes_sent (transfer : TransferId) (packets : List Packet) :
    sentBytes transfer (packets.map .sent) = bytesOf transfer packets :=
  List.flatMap_map ..

theorem receivedBytes_sent (packets : List Packet) :
    receivedBytes (packets.map .sent) = [] := by
  rw [receivedBytes, List.flatMap_map]
  exact List.flatMap_eq_nil_iff.mpr fun _ _ => rfl

theorem sent_not_mem_taken (client : RTCClient) (input : Input) (packet : Packet) :
    .sent packet ∉ client.taken input := by
  intro member
  cases input with
  | sendFileAtURL fileURL =>
      simp only [taken] at member
      split at member <;> simp at member
  | acceptIncomingFileToURL destination =>
      simp only [taken] at member
      split at member <;> simp at member
  | receive packet outcome =>
      simp only [taken] at member
      split at member <;> simp at member
  | cancelFileTransfer | rejectIncomingFileWithReason | transmit | runMain | runFile
  | iceConnectionState | dataChannelState => contradiction

theorem sentBytes_taken (transfer : TransferId) (client : RTCClient) (input : Input) :
    sentBytes transfer (client.taken input) = [] := by
  apply List.flatMap_eq_nil_iff.mpr
  intro trace member
  cases trace with
  | sent packet => exact absurd member (sent_not_mem_taken client input packet)
  | chose | opened | received => rfl

/-! ## Bytes that can still come -/

/-- The bytes of a transfer that a loop has read and will still send. -/
def LoopPoint.handOf (transfer : TransferId) (point : LoopPoint) : Bytes :=
  match point.chunk? with
  | some chunk => if chunk.transfer = transfer then point.unsent else []
  | none => []

theorem LoopPoint.handOf_eq_nil (transfer : TransferId) {point : LoopPoint}
    (nothing : point.unsent = []) : point.handOf transfer = [] := by
  unfold handOf
  split
  · split
    · exact nothing
    · rfl
  · rfl

namespace RTCClient

/-- The bytes of a transfer that its handle has not handed over. -/
def unreadOf (client : RTCClient) (transfer : TransferId) : Bytes :=
  match client.sendHandle with
  | none => []
  | some handle =>
      if handle.transfer = transfer then handle.file.bytes.drop handle.offset else []

/-- The bytes of a transfer in the loop that runs. -/
def inHand (client : RTCClient) (transfer : TransferId) : Bytes :=
  match client.fileQueue with
  | [] => []
  | loop :: _ => loop.point.handOf transfer

/-- All bytes of a transfer that the client can still send. -/
def toCome (client : RTCClient) (transfer : TransferId) : Bytes :=
  client.inHand transfer ++ client.unreadOf transfer

variable {client next : RTCClient} {input : Input} {calls : List DelegateCall}
  {transfer : TransferId}

theorem bytesOf_queued (client : RTCClient) {packet : Packet}
    (control : packet.bytesOf transfer = []) :
    bytesOf transfer ((client.queued packet).drop client.outgoing.length) = [] := by
  unfold queued
  split
  · simp [bytesOf, control]
  · simp [bytesOf]

/-- What a statement sends of a transfer, and what can come after it, could come before. -/
theorem toCome_loopStatement (client : RTCClient) (loopTransfer transfer : TransferId)
    (given : LoopInput) (point : LoopPoint) :
    (bytesOf transfer ((client.loopStatement loopTransfer given point).1.outgoing.drop
        client.outgoing.length) ++
      (((client.loopStatement loopTransfer given point).2.elim [] (LoopPoint.handOf transfer)) ++
        (client.loopStatement loopTransfer given point).1.unreadOf transfer)).Sublist
      (point.handOf transfer ++ client.unreadOf transfer) := by
  have silent : bytesOf transfer (client.outgoing.drop client.outgoing.length) = [] := by
    simp [bytesOf]
  cases point with
  | entry | whileTest | waitTest | waitBody | openTest | cancelledTest | completeTest =>
      simp only [loopStatement, silent, List.nil_append]
      split <;> exact List.Sublist.refl _
  | read =>
      simp only [loopStatement]
      split
      case h_1 =>
        rw [silent]
        exact List.Sublist.refl _
      case h_2 handle chunk result =>
        obtain ⟨old, reading, sameTransfer, -, isData, rfl⟩ := client.readChunk_spec result
        rw [silent, List.nil_append]
        have initial : chunk.data <+: old.file.bytes.drop old.offset := by
          rw [isData]
          exact List.take_prefix _ _
        have rest : chunk.data ++ old.file.bytes.drop (old.offset + chunk.data.length) =
            old.file.bytes.drop old.offset := by
          rw [← List.drop_drop]
          exact List.prefix_iff_eq_append.mp initial
        simp only [LoopPoint.handOf, LoopPoint.chunk?, LoopPoint.unsent, Option.elim_some, unreadOf,
          reading, sameTransfer, List.nil_append]
        split
        · rw [rest]
        · exact List.Sublist.refl _
  | retryTest chunk retries | retryOpenTest chunk retries =>
      simp only [loopStatement, silent, List.nil_append]
      split <;> exact List.Sublist.refl _
  | retrySend chunk retries =>
      simp only [loopStatement]
      split
      case isTrue sends =>
        have appended : (client.queued ⟨.binary chunk.data, some chunk.transfer⟩).drop
            client.outgoing.length = [⟨.binary chunk.data, some chunk.transfer⟩] := by
          simp [queued, sends.2]
        rw [sendData_eq, appended]
        have sent : bytesOf transfer [⟨.binary chunk.data, some chunk.transfer⟩] =
            (LoopPoint.retrySend chunk retries).handOf transfer := by
          simp [bytesOf, Packet.bytesOf, LoopPoint.handOf, LoopPoint.chunk?, LoopPoint.unsent]
        rw [sent]
        have nothing : (LoopPoint.okTest chunk true).handOf transfer = [] :=
          LoopPoint.handOf_eq_nil transfer rfl
        rw [Option.elim_some, nothing, List.nil_append]
        exact List.Sublist.refl _
      case isFalse =>
        rw [silent]
        exact List.Sublist.refl _
  | okTest chunk ok =>
      simp only [loopStatement, silent, List.nil_append]
      cases ok with
      | true =>
          have nothing : (LoopPoint.addBytes chunk).handOf transfer = [] :=
            LoopPoint.handOf_eq_nil transfer rfl
          rw [if_pos rfl, Option.elim_some, nothing]
          exact List.sublist_append_right _ _
      | false => exact List.sublist_append_right _ _
  | addBytes chunk =>
      simp only [loopStatement, silent, List.nil_append]
      exact List.sublist_append_right _ _
  | reportProgress =>
      simp only [loopStatement, dispatchMain, silent, List.nil_append]
      exact List.Sublist.refl _
  | sendDone =>
      simp only [loopStatement, sendControlJSON_eq]
      rw [bytesOf_queued client rfl]
      exact List.Sublist.refl _
  | finish error =>
      simp only [loopStatement, cleanupTransferWithError_eq, silent, List.nil_append]
      exact List.Sublist.refl _

/-- What an input sends of a transfer, and what can come after it, could come before,
unless it begins the transfer. -/
theorem toCome_of_effect (wait : client.LoopsWait)
    (effect : Effect client input next calls)
    (notBegun : transfer ≠ ⟨client.clientId, client.begun⟩) :
    (bytesOf transfer (next.outgoing.drop client.outgoing.length) ++
      next.toCome transfer).Sublist (client.toCome transfer) := by
  have silent : next.outgoing = client.outgoing → next.toCome transfer = client.toCome transfer →
      (bytesOf transfer (next.outgoing.drop client.outgoing.length) ++
        next.toCome transfer).Sublist (client.toCome transfer) := by
    intro sameOutgoing sameToCome
    rw [sameOutgoing, sameToCome, List.drop_length]
    exact List.Sublist.refl _
  have control : ∀ {packet : Packet}, packet.bytesOf transfer = [] →
      next.outgoing = client.queued packet → next.toCome transfer = client.toCome transfer →
      (bytesOf transfer (next.outgoing.drop client.outgoing.length) ++
        next.toCome transfer).Sublist (client.toCome transfer) := by
    intro packet isControl queued sameToCome
    rw [queued, sameToCome, bytesOf_queued client isControl]
    exact List.Sublist.refl _
  cases effect with
  | began fileURL file isOpen notSending =>
      rw [beginSending_eq] at control ⊢
      refine control rfl rfl ?_
      simp only [toCome, inHand, unreadOf, notSending, Ne.symm notBegun, if_false]
  | cancelled =>
      rw [cancelFileTransfer_eq] at control ⊢
      exact control rfl rfl rfl
  | rejected =>
      rw [rejectIncomingFileWithReason_eq] at control ⊢
      exact control rfl rfl rfl
  | accepted | unopened | busy | completed => exact control rfl rfl rfl
  | started handle =>
      refine silent rfl ?_
      simp only [toCome, inHand, unreadOf, startSendingLoop]
      cases client.fileQueue with
      | nil => rfl
      | cons head rest => rfl
  | cleaned =>
      simp only [resetTransfer, List.drop_length, toCome, inHand, unreadOf]
      exact List.Sublist.append_left (List.nil_sublist _) _
  | looped given loop rest queue =>
      have nextHand : inHand { (client.loopStatement loop.transfer given loop.point).1 with
          fileQueue := advanceQueue loop rest
            (client.loopStatement loop.transfer given loop.point).2 } transfer =
          (client.loopStatement loop.transfer given loop.point).2.elim []
            (LoopPoint.handOf transfer) := by
        simp only [inHand]
        cases (client.loopStatement loop.transfer given loop.point).2 with
        | some point => rfl
        | none =>
            cases rest with
            | nil => rfl
            | cons waiting others =>
                have unbegun := wait waiting (by simp [queue])
                simp only [advanceQueue, unbegun]
                rfl
      have hand : client.inHand transfer = loop.point.handOf transfer := by
        rw [inHand, queue]
      rw [toCome, toCome, nextHand, hand]
      exact client.toCome_loopStatement loop.transfer transfer given loop.point
  | transmitted packet rest queue =>
      have nothing : rest.drop client.outgoing.length = [] := by
        rw [queue]
        exact List.drop_eq_nil_of_le (Nat.le_succ _)
      dsimp only
      rw [nothing]
      exact List.Sublist.refl _
  | channelChanged state =>
      rcases client.dataChannelDidChangeState_cases state with
        ⟨name, ip, role, -, result⟩ | ⟨-, result⟩
      · rw [result]
        dsimp only
        rw [List.drop_left]
        exact List.Sublist.refl _
      · rw [result]
        dsimp only
        rw [List.drop_nil]
        exact List.Sublist.refl _
  | greeted | offered | ended | writeFailed | stored | reported | iceLost | iceIdle
  | iceChanged | nothing => exact silent rfl rfl

/-! ## Where the bytes come from -/

theorem input_of_chose {file : File} (chosen : .chose transfer file ∈ client.taken input) :
    ∃ fileURL, input = .sendFileAtURL fileURL ∧ client.sendFileCheck fileURL = .ok file ∧
      transfer = ⟨client.clientId, client.begun⟩ := by
  cases input with
  | sendFileAtURL fileURL =>
      simp only [taken] at chosen
      split at chosen
      case h_1 opened checked =>
        obtain ⟨rfl, rfl⟩ := Trace.chose.inj (List.mem_singleton.mp chosen)
        exact ⟨fileURL, rfl, checked, rfl⟩
      case h_2 => contradiction
  | acceptIncomingFileToURL destination =>
      simp only [taken] at chosen
      split at chosen
      · simp at chosen
      · contradiction
  | receive packet outcome =>
      simp only [taken] at chosen
      split at chosen
      · simp at chosen
      · contradiction
  | cancelFileTransfer | rejectIncomingFileWithReason | transmit | runMain | runFile
  | iceConnectionState | dataChannelState => contradiction

/-- A file is chosen when its sending begins. -/
theorem began_of_chose {file : File} (acted : client.act input = some (next, calls))
    (chosen : .chose transfer file ∈ client.taken input) :
    transfer = ⟨client.clientId, client.begun⟩ ∧ client.sendHandle = none ∧
      ∃ fileURL, next = client.beginSending fileURL file := by
  obtain ⟨fileURL, rfl, checked, isFresh⟩ := input_of_chose chosen
  have sent : client.sendFileAtURL fileURL = .ok (client.beginSending fileURL file) := by
    simp only [sendFileAtURL, checked]
  obtain ⟨opened, -, notSending, -⟩ := sendFileAtURL_ok sent
  simp only [act, sent, Option.some.injEq, Prod.mk.injEq] at acted
  exact ⟨isFresh, notSending, fileURL, acted.1.symm⟩

/-- The handle after an input is the one before, at another offset, or that of a file that
was just chosen. -/
theorem handle_of_effect (effect : Effect client input next calls) {handle : ReadHandle}
    (sending : handle ∈ next.sendHandle) :
    (∃ old ∈ client.sendHandle, old.transfer = handle.transfer ∧ old.file = handle.file) ∨
      .chose handle.transfer handle.file ∈ client.taken input := by
  cases effect with
  | began fileURL file isOpen notSending notReceiving sized opened =>
      right
      have checked : client.sendFileCheck fileURL = .ok file := by
        simp [sendFileCheck, isOpen, notSending, notReceiving, sized, opened]
      rw [beginSending_eq] at sending
      obtain rfl := Option.some.inj sending
      simp [taken, checked]
  | cancelled =>
      rw [cancelFileTransfer_eq] at sending
      exact .inl ⟨handle, sending, rfl, rfl⟩
  | rejected =>
      rw [rejectIncomingFileWithReason_eq] at sending
      exact .inl ⟨handle, sending, rfl, rfl⟩
  | cleaned => contradiction
  | looped given loop rest queue =>
      obtain ⟨moved, sent, packets, blocks, result, change⟩ :=
        client.loopStatement_change loop.transfer given loop.point
      rw [result] at sending
      exact .inl (change.handle_before sending)
  | channelChanged state =>
      obtain ⟨outgoing, result⟩ := client.dataChannelDidChangeState_eq state
      rw [result] at sending
      exact .inl ⟨handle, sending, rfl, rfl⟩
  | accepted | unopened | greeted | busy | offered | started | ended | writeFailed | stored
  | completed | transmitted | reported | iceLost | iceIdle | iceChanged | nothing =>
      exact .inl ⟨handle, sending, rfl, rfl⟩

/-- The chunk of a loop was in a loop before, or is read from the handle. -/
theorem chunk_of_effect (effect : Effect client input next calls) {loop : SendingLoop}
    {chunk : Chunk} (member : loop ∈ next.fileQueue) (holds : loop.point.chunk? = some chunk) :
    (∃ old ∈ client.fileQueue, old.point.chunk? = some chunk) ∨
      ∃ handle ∈ client.sendHandle, chunk.transfer = handle.transfer := by
  rcases fileQueue_of_effect effect with
    same | ⟨handle, tag, outcome, -, -, started⟩ | ⟨given, head, rest, -, queue, advanced⟩
  · rw [same] at member
    exact .inl ⟨loop, member, holds⟩
  · rw [started] at member
    rcases List.mem_append.mp member with old | new
    · exact .inl ⟨loop, old, holds⟩
    · rw [List.mem_singleton.mp new] at holds
      contradiction
  · rw [advanced] at member
    rcases mem_advanceQueue member with inRest | ⟨following, continues, rfl⟩
    · exact .inl ⟨loop, by simp [queue, inRest], holds⟩
    · rcases loopStatement_chunk client continues holds with kept | ⟨-, handle, sending, same⟩
      · exact .inl ⟨head, by simp [queue], kept⟩
      · exact .inr ⟨handle, sending, same⟩

/-- The disk changes when a destination is opened and when bytes come in for it. -/
theorem disk_of_effect (effect : Effect client input next calls) :
    (next.disk = client.disk ∧ ∀ handle ∈ next.recvHandle, handle ∈ client.recvHandle) ∨
    (∃ path, client.taken input = [.opened path] ∧
      next.disk = Function.update client.disk path [] ∧
      ∀ handle ∈ next.recvHandle, handle.path = path) ∨
    ∃ data handle, client.taken input = [.received data] ∧ client.recvHandle = some handle ∧
      next.recvHandle = some handle ∧
      next.disk = Function.update client.disk handle.path (client.disk handle.path ++ data) := by
  cases effect with
  | began =>
      rw [beginSending_eq]
      exact .inl ⟨rfl, fun _ => id⟩
  | cancelled =>
      rw [cancelFileTransfer_eq]
      exact .inl ⟨rfl, fun _ => id⟩
  | rejected =>
      rw [rejectIncomingFileWithReason_eq]
      exact .inl ⟨rfl, fun _ => id⟩
  | accepted destination accepts opens =>
      refine .inr (.inl ⟨destination.path, by simp [taken, accepts, opens], rfl, ?_⟩)
      intro handle receiving
      rw [← Option.some.inj receiving]
  | stored data tag handle receiving | completed data tag handle receiving =>
      exact .inr (.inr ⟨data, handle, rfl, receiving, receiving, rfl⟩)
  | cleaned =>
      refine .inl ⟨rfl, ?_⟩
      intro handle receiving
      contradiction
  | looped given loop rest queue =>
      obtain ⟨moved, sent, packets, blocks, result, -⟩ :=
        client.loopStatement_change loop.transfer given loop.point
      rw [result]
      exact .inl ⟨rfl, fun _ => id⟩
  | channelChanged state =>
      obtain ⟨outgoing, result⟩ := client.dataChannelDidChangeState_eq state
      rw [result]
      exact .inl ⟨rfl, fun _ => id⟩
  | unopened | greeted | busy | offered | started | ended | writeFailed | transmitted
  | reported | iceLost | iceIdle | iceChanged | nothing => exact .inl ⟨rfl, fun _ => id⟩

end RTCClient

/-! ## The run law -/

/-- Every byte that was sent belongs to a file that the user chose for its transfer, and
every byte on the disk came in for a destination that the user opened. -/
structure Discloses (history : List Trace) (client : RTCClient) : Prop where
  wait : client.LoopsWait
  begun : ∀ transfer file, .chose transfer file ∈ history → transfer.seq < client.begun
  handle : ∀ handle ∈ client.sendHandle, .chose handle.transfer handle.file ∈ history
  hand : ∀ loop ∈ client.fileQueue, ∀ chunk ∈ loop.point.chunk?,
    ∃ file, .chose chunk.transfer file ∈ history
  packets : ∀ data tag, .sent ⟨.binary data, tag⟩ ∈ history →
    ∃ transfer file, tag = some transfer ∧ .chose transfer file ∈ history
  content : ∀ transfer file, .chose transfer file ∈ history →
    (sentBytes transfer history ++ client.toCome transfer).Sublist file.bytes
  receiving : ∀ handle ∈ client.recvHandle, .opened handle.path ∈ history
  opened : ∀ path, client.disk path ≠ [] → .opened path ∈ history
  disk : ∀ path, (client.disk path).Sublist (receivedBytes history)

namespace Discloses

variable {history : List Trace} {client next : RTCClient} {input : Input}
  {calls : List DelegateCall}

theorem initial (clientId : Nat) (helloName : String) :
    Discloses [] (.initial clientId helloName) := by
  constructor <;> simp [RTCClient.initial, LoopsWait]

/-- What one input adds to the history. -/
def fresh (client : RTCClient) (input : Input) (next : RTCClient) : List Trace :=
  client.taken input ++ (next.outgoing.drop client.outgoing.length).map .sent

theorem mem_fresh_of_taken {trace : Trace} (member : trace ∈ client.taken input) :
    trace ∈ history ++ fresh client input next :=
  List.mem_append_right _ (List.mem_append_left _ member)

/-- A choice in the history is an old one or is made now. -/
theorem chose_cases {transfer : TransferId} {file : File}
    (chosen : .chose transfer file ∈ history ++ fresh client input next) :
    .chose transfer file ∈ history ∨ .chose transfer file ∈ client.taken input := by
  rcases List.mem_append.mp chosen with old | new
  · exact .inl old
  · rcases List.mem_append.mp new with now | sent
    · exact .inr now
    · obtain ⟨packet, -, same⟩ := List.mem_map.mp sent
      contradiction

theorem sentBytes_fresh (transfer : TransferId) :
    sentBytes transfer (history ++ fresh client input next) =
      sentBytes transfer history ++
        bytesOf transfer (next.outgoing.drop client.outgoing.length) := by
  rw [fresh, sentBytes_append, sentBytes_append, sentBytes_taken, sentBytes_sent,
    List.nil_append]

theorem receivedBytes_fresh :
    receivedBytes (history ++ fresh client input next) =
      receivedBytes history ++ receivedBytes (client.taken input) := by
  rw [fresh, receivedBytes_append, receivedBytes_append, receivedBytes_sent, List.append_nil]

/-- Nothing was sent of a transfer whose file was not chosen. -/
theorem sentBytes_unchosen (discloses : Discloses history client) {transfer : TransferId}
    (unchosen : ∀ file, .chose transfer file ∉ history) :
    sentBytes transfer history = [] := by
  apply List.flatMap_eq_nil_iff.mpr
  intro trace member
  cases trace with
  | chose | opened | received => rfl
  | sent packet =>
      obtain ⟨message, tag⟩ := packet
      cases message with
      | binary data =>
          obtain ⟨owner, file, rfl, chosen⟩ := discloses.packets data tag member
          have other : owner ≠ transfer := by
            rintro rfl
            exact unchosen file chosen
          simp [Packet.bytesOf, other]
      | hello | ftOffer | ftAccept | ftReject | ftCancel | ftDone => rfl

/-- Nor can anything of it come. -/
theorem inHand_unchosen (discloses : Discloses history client) {transfer : TransferId}
    (unchosen : ∀ file, .chose transfer file ∉ history) :
    client.inHand transfer = [] := by
  unfold inHand
  cases queue : client.fileQueue with
  | nil => rfl
  | cons loop rest =>
      dsimp only
      unfold LoopPoint.handOf
      cases held : loop.point.chunk? with
      | none => rfl
      | some chunk =>
          obtain ⟨file, chosen⟩ := discloses.hand loop (by simp [queue]) chunk held
          have other : chunk.transfer ≠ transfer := by
            rintro rfl
            exact unchosen file chosen
          simp [other]

/-- The content of the files, old and new. -/
theorem content_step (discloses : Discloses history client)
    (acted : client.act input = some (next, calls)) {transfer : TransferId} {file : File}
    (chosen : .chose transfer file ∈ history ++ fresh client input next) :
    (sentBytes transfer (history ++ fresh client input next) ++
      next.toCome transfer).Sublist file.bytes := by
  have effect := effect_of_act acted
  rw [sentBytes_fresh, List.append_assoc]
  rcases chose_cases chosen with old | now
  · have begun := discloses.begun transfer file old
    have notBegun : transfer ≠ ⟨client.clientId, client.begun⟩ := by
      rintro rfl
      exact Nat.lt_irrefl _ begun
    have step := toCome_of_effect discloses.wait effect notBegun
    exact (step.append_left _).trans (discloses.content transfer file old)
  · obtain ⟨rfl, notSending, fileURL, rfl⟩ := began_of_chose acted now
    have unchosen : ∀ other, .chose ⟨client.clientId, client.begun⟩ other ∉ history := by
      intro other chosenBefore
      exact Nat.lt_irrefl _ (discloses.begun _ _ chosenBefore)
    have noHand := discloses.inHand_unchosen unchosen
    rw [discloses.sentBytes_unchosen unchosen, List.nil_append, beginSending_eq,
      bytesOf_queued client rfl, List.nil_append]
    simp only [toCome, inHand] at noHand ⊢
    rw [noHand]
    simp [unreadOf]

theorem disk_step (discloses : Discloses history client)
    (effect : Effect client input next calls) (path : String) :
    (next.disk path ≠ [] → .opened path ∈ history ++ fresh client input next) ∧
      (next.disk path).Sublist (receivedBytes (history ++ fresh client input next)) := by
  have more : (receivedBytes history).Sublist
      (receivedBytes (history ++ fresh client input next)) := by
    rw [receivedBytes_fresh]
    exact List.sublist_append_left _ _
  have kept : next.disk path = client.disk path →
      (next.disk path ≠ [] → .opened path ∈ history ++ fresh client input next) ∧
        (next.disk path).Sublist (receivedBytes (history ++ fresh client input next)) := by
    intro same
    rw [same]
    exact ⟨fun written => List.mem_append_left _ (discloses.opened path written),
      (discloses.disk path).trans more⟩
  rcases disk_of_effect effect with
    ⟨same, -⟩ | ⟨chosen, opens, changed, -⟩ | ⟨data, handle, receives, receiving, -, changed⟩
  · exact kept (by rw [same])
  · by_cases here : path = chosen
    · subst here
      rw [changed, Function.update_self]
      exact ⟨fun written => absurd rfl written, List.nil_sublist _⟩
    · exact kept (by rw [changed, Function.update_of_ne here])
  · by_cases here : path = handle.path
    · subst here
      rw [changed, Function.update_self]
      refine ⟨fun _ => List.mem_append_left _ (discloses.receiving handle receiving), ?_⟩
      have came : receivedBytes (client.taken input) = data := by
        rw [receives]
        exact List.append_nil data
      rw [receivedBytes_fresh, came]
      exact (discloses.disk handle.path).append (List.Sublist.refl data)
    · exact kept (by rw [changed, Function.update_of_ne here])

theorem step (discloses : Discloses history client)
    (acted : client.act input = some (next, calls)) :
    Discloses (history ++ fresh client input next) next := by
  have effect := effect_of_act acted
  have earlier : ∀ {trace}, trace ∈ history → trace ∈ history ++ fresh client input next :=
    fun member => List.mem_append_left _ member
  constructor
  case wait => exact discloses.wait.of_effect effect
  case begun =>
    intro transfer file chosen
    rcases chose_cases chosen with old | now
    · exact Nat.lt_of_lt_of_le (discloses.begun transfer file old) (identity_of_effect effect).2
    · obtain ⟨rfl, -, fileURL, rfl⟩ := began_of_chose acted now
      rw [beginSending_eq]
      exact Nat.lt_succ_self _
  case handle =>
    intro handle sending
    rcases handle_of_effect effect sending with ⟨old, wasSending, sameTransfer, sameFile⟩ | now
    · rw [← sameTransfer, ← sameFile]
      exact earlier (discloses.handle old wasSending)
    · exact mem_fresh_of_taken now
  case hand =>
    intro loop member chunk holds
    rcases chunk_of_effect effect member holds with ⟨old, inQueue, held⟩ | ⟨handle, sending, same⟩
    · obtain ⟨file, chosen⟩ := discloses.hand old inQueue chunk held
      exact ⟨file, earlier chosen⟩
    · rw [same]
      exact ⟨handle.file, earlier (discloses.handle handle sending)⟩
  case packets =>
    intro data tag sent
    rcases List.mem_append.mp sent with old | new
    · obtain ⟨transfer, file, isTag, chosen⟩ := discloses.packets data tag old
      exact ⟨transfer, file, isTag, earlier chosen⟩
    · rcases List.mem_append.mp new with now | handed
      · exact absurd now (sent_not_mem_taken client input _)
      · obtain ⟨packet, inQueue, same⟩ := List.mem_map.mp handed
        obtain rfl := Trace.sent.inj same
        have observed : .sent ⟨.binary data, tag⟩ ∈ client.observe next calls := by
          simp [observe, inQueue, -List.map_drop]
        cases emits_of_sent effect observed with
        | chunk given loop rest chunk retries queue atPoint =>
            obtain ⟨file, chosen⟩ := discloses.hand loop (by simp [queue]) chunk (by
              rw [atPoint]
              rfl)
            exact ⟨chunk.transfer, file, rfl, earlier chosen⟩
  case content => exact fun transfer file => discloses.content_step acted
  case receiving =>
    intro handle receiving
    rcases disk_of_effect effect with
      ⟨-, kept⟩ | ⟨path, opens, -, named⟩ | ⟨data, old, -, wasReceiving, isReceiving, -⟩
    · exact earlier (discloses.receiving handle (kept handle receiving))
    · rw [named handle receiving]
      exact mem_fresh_of_taken (by simp [opens])
    · obtain rfl : old = handle := Option.some.inj (isReceiving.symm.trans receiving)
      exact earlier (discloses.receiving old wasReceiving)
  case opened => exact fun path => (discloses.disk_step effect path).1
  case disk => exact fun path => (discloses.disk_step effect path).2

end Discloses

/-- **A peer gets only what the user gives, and writes only where the user lets it.** In
every run of a client, whatever its peer sends and however loops, cleanups and callbacks
are interleaved: all file bytes that were handed to the channel are those of files that the
user chose to send; for each of them they are the bytes of the file with pieces left out,
in order and none twice; a path that holds anything was opened by the user for an offer, and
holds nothing but bytes that came in, in the order in which they came. -/
theorem peer_is_confined {clientId : Nat} {helloName : String} {inputs : List Input}
    {history : List Trace} {client : RTCClient}
    (run : TracedRun clientId helloName inputs history client) :
    (∀ data tag, .sent ⟨.binary data, tag⟩ ∈ history →
      ∃ transfer file, tag = some transfer ∧ .chose transfer file ∈ history) ∧
    (∀ transfer file, .chose transfer file ∈ history →
      (sentBytes transfer history).Sublist file.bytes) ∧
    ∀ path, (client.disk path ≠ [] → .opened path ∈ history) ∧
      (client.disk path).Sublist (receivedBytes history) := by
  have discloses : Discloses history client := by
    refine run.invariant Discloses (.initial clientId helloName) ?_
    intro past state input next emitted discloses _ stepped
    simp only [traced, Option.map_eq_some_iff, Prod.mk.injEq, Prod.exists] at stepped
    obtain ⟨following, calls, acted, rfl, rfl⟩ := stepped
    exact discloses.step acted
  refine ⟨discloses.packets, ?_, fun path => ⟨discloses.opened path, discloses.disk path⟩⟩
  intro transfer file chosen
  exact (List.sublist_append_left _ _).trans (discloses.content transfer file chosen)

/-- A peer that accepts a file twice. -/
def acceptedTwice : List Input :=
  [.dataChannelState .Open, .sendFileAtURL (.ofFile "notes.txt" ⟨[1, 2], File.bounded_notes⟩),
    .receive ⟨.ftAccept, none⟩ .written, .receive ⟨.ftAccept, none⟩ .written] ++
    List.replicate 32 (.runFile ⟨0, 1, false, true⟩)

theorem peer_is_confined_acceptedTwice :
    ∃ history client, TracedRun 0 "mac#001" acceptedTwice history client ∧
      sentBytes ⟨0, 0⟩ history = [1, 2] ∧
      ∀ file, .chose ⟨0, 0⟩ file ∈ history → List.Sublist [1, 2] file.bytes := by
  obtain ⟨client, history, run, checked⟩ :
      ∃ client history, TracedRun 0 "mac#001" acceptedTwice history client ∧
        decide (sentBytes ⟨0, 0⟩ history = [1, 2]) = true :=
    Machine.run_of_exec_any (fun (_ : RTCClient) (history : List Trace) =>
      decide (sentBytes ⟨0, 0⟩ history = [1, 2])) (by decide)
  have sent := of_decide_eq_true checked
  refine ⟨history, client, run, sent, ?_⟩
  intro file chosen
  have content := (peer_is_confined run).2.1 ⟨0, 0⟩ file chosen
  rwa [sent] at content

end WebrtcFileSender
