import WebrtcFileSender.Client.Effect

/-!
Contract: the size of a received file.

A reception ends in success when enough bytes have come, when the peer says
`ft_done`, or when the client's own sending loop is done. The chunk that
completes it is written unclamped, and chunks are taken until the cleanup runs.

Owns: the client with the size that was announced for its current reception, what
it reports when a reception ends, and the condition under which success means
exactly the announced size.
-/

namespace WebrtcFileSender

open RTCClient

/-- A client, and the size that was announced when it accepted its current
reception. -/
structure Reception where
  client : RTCClient
  announced : Nat

/-- A reception ends: the error its finish notification carries, the bytes that
the destination file holds then, and the size that was announced. -/
structure ReceptionEnd where
  error : Option NSError
  bytes : Nat
  announced : Nat
deriving DecidableEq, Repr

namespace Reception

def initial (clientId : Nat) (helloName : String) : Reception where
  client := .initial clientId helloName
  announced := 0

/-- The size that was announced for the reception that a step opens or keeps. -/
def announcement (reception : Reception) (next : RTCClient) : Nat :=
  if reception.client.recvHandle.isNone ∧ next.recvHandle.isSome then next.recvTotalBytes
  else reception.announced

/-- The finish notifications of a step, when it ends a reception. -/
def ends (reception : Reception) (calls : List DelegateCall) : List ReceptionEnd :=
  match reception.client.recvHandle with
  | none => []
  | some handle =>
      calls.filterMap fun
        | .fileTransferDidFinish error _ _ =>
            some ⟨error, (reception.client.disk handle.path).length, reception.announced⟩
        | _ => none

def step (reception : Reception) (input : Input) : Option (Reception × List ReceptionEnd) :=
  (reception.client.act input).map fun (next, calls) =>
    (⟨next, reception.announcement next⟩, reception.ends calls)

end Reception

/-- Runs of one client, with the ends of its receptions. -/
abbrev ReceptionRun (clientId : Nat) (helloName : String)
    (guard : Reception → Input → Prop) :=
  Machine.Run Reception.step guard (Reception.initial clientId helloName)

namespace RTCClient

/-- All announced bytes have come, if a file is being received. -/
def ReceivedAll (client : RTCClient) : Prop :=
  client.recvHandle.isSome = true → client.recvBytesReceived = client.recvTotalBytes

instance (client : RTCClient) : Decidable client.ReceivedAll :=
  inferInstanceAs (Decidable (_ → _))

/-- A cleanup without an error waits on the main queue. -/
def successPending (client : RTCClient) : Bool :=
  client.mainQueue.any fun
    | .cleanup none _ => true
    | _ => false

/-- The condition on an input: a chunk fits into what is still to come, a success
is requested only when all bytes have come, and no reception begins while one is
pending. -/
def WithinAnnounced (client : RTCClient) : Input → Prop
  | .receive ⟨.binary data, _⟩ .written =>
      client.recvHandle.isSome = true →
        client.recvBytesReceived + data.length ≤ client.recvTotalBytes
  | .receive ⟨.ftDone, _⟩ _ => client.ReceivedAll
  | .acceptIncomingFileToURL destination =>
      client.canAccept = true → destination.openError.isNone = true →
        client.successPending = false
  | .runFile _ =>
      client.fileQueue.head?.any (fun loop => loop.point == .finish none) = true →
        client.ReceivedAll
  | _ => True

instance (client : RTCClient) : (input : Input) → Decidable (client.WithinAnnounced input)
  | .receive ⟨.binary _, _⟩ .written => inferInstanceAs (Decidable (_ → _))
  | .receive ⟨.ftDone, _⟩ _ => inferInstanceAs (Decidable client.ReceivedAll)
  | .acceptIncomingFileToURL _ => inferInstanceAs (Decidable (_ → _ → _))
  | .runFile _ => inferInstanceAs (Decidable (_ → _))
  | .receive ⟨.binary _, _⟩ (.raised _) | .receive ⟨.hello _ _ _, _⟩ _
  | .receive ⟨.ftOffer _ _ _, _⟩ _ | .receive ⟨.ftAccept, _⟩ _ | .receive ⟨.ftReject _, _⟩ _
  | .receive ⟨.ftCancel, _⟩ _ | .sendFileAtURL _ | .cancelFileTransfer
  | .rejectIncomingFileWithReason _ | .transmit | .runMain | .iceConnectionState _
  | .dataChannelState _ => .isTrue trivial

variable {client next : RTCClient} {input : Input} {calls : List DelegateCall}

theorem successPending_iff :
    client.successPending = true ↔ ∃ request, .cleanup none request ∈ client.mainQueue := by
  unfold successPending
  rw [List.any_eq_true]
  constructor
  · rintro ⟨block, member, isSuccess⟩
    split at isSuccess
    case h_1 request => exact ⟨request, member⟩
    case h_2 => contradiction
  · rintro ⟨request, member⟩
    exact ⟨_, member, rfl⟩

end RTCClient

/-! ## The invariant -/

/-- What every allowed input keeps of the reception. -/
structure SizeInvariant (reception : Reception) : Prop where
  bounded : reception.client.recvTotalBytes < 2 ^ 64
  announced : reception.client.recvHandle.isSome = true →
    reception.announced = reception.client.recvTotalBytes
  stored : ∀ handle, reception.client.recvHandle = some handle →
    (reception.client.disk handle.path).length = reception.client.recvBytesReceived ∧
      reception.client.recvBytesReceived ≤ reception.client.recvTotalBytes
  success : ∀ request, .cleanup none request ∈ reception.client.mainQueue →
    reception.client.ReceivedAll

namespace SizeInvariant

variable {reception : Reception} {next : RTCClient} {input : Input}
  {calls : List DelegateCall}

theorem initial (clientId : Nat) (helloName : String) :
    SizeInvariant (.initial clientId helloName) where
  bounded := Nat.two_pow_pos 64
  announced := by intro receiving; contradiction
  stored := by intro handle receiving; contradiction
  success := by intro request queued; contradiction

/-- A step that leaves the reception as it is and adds blocks to the main queue,
with a success only when all bytes have come. -/
theorem keep (invariant : SizeInvariant reception)
    (handle : next.recvHandle = reception.client.recvHandle)
    (total : next.recvTotalBytes = reception.client.recvTotalBytes)
    (received : next.recvBytesReceived = reception.client.recvBytesReceived)
    (disk : next.disk = reception.client.disk)
    (queue : ∀ request, .cleanup none request ∈ next.mainQueue →
      .cleanup none request ∈ reception.client.mainQueue ∨ reception.client.ReceivedAll) :
    SizeInvariant ⟨next, reception.announcement next⟩ := by
  have sameAnnounced : reception.announcement next = reception.announced := by
    unfold Reception.announcement
    rw [handle]
    cases reception.client.recvHandle <;> rfl
  refine ⟨?_, ?_, ?_, ?_⟩
  · rw [total]
    exact invariant.bounded
  · rw [sameAnnounced, handle, total]
    exact invariant.announced
  · rw [handle, total, received, disk]
    exact invariant.stored
  · intro request queued
    have all : reception.client.ReceivedAll := by
      rcases queue request queued with before | all
      · exact invariant.success request before
      · exact all
    unfold RTCClient.ReceivedAll
    rw [handle, total, received]
    exact all

/-- The same when only blocks without a success are added. -/
theorem keep_queue (invariant : SizeInvariant reception) {blocks : List MainBlock}
    (handle : next.recvHandle = reception.client.recvHandle)
    (total : next.recvTotalBytes = reception.client.recvTotalBytes)
    (received : next.recvBytesReceived = reception.client.recvBytesReceived)
    (disk : next.disk = reception.client.disk)
    (queue : next.mainQueue = reception.client.mainQueue ++ blocks)
    (noSuccess : ∀ request, .cleanup none request ∉ blocks) :
    SizeInvariant ⟨next, reception.announcement next⟩ := by
  apply invariant.keep handle total received disk
  intro request queued
  rw [queue] at queued
  rcases List.mem_append.mp queued with old | new
  · exact .inl old
  · exact absurd new (noSuccess request)

/-- The same when a block is taken off the queue. -/
theorem keep_rest (invariant : SizeInvariant reception) {block : MainBlock}
    {rest : List MainBlock} (before : reception.client.mainQueue = block :: rest) :
    SizeInvariant ⟨{ reception.client with mainQueue := rest },
      reception.announcement { reception.client with mainQueue := rest }⟩ := by
  refine invariant.keep rfl rfl rfl rfl ?_
  intro request queued
  left
  rw [before]
  exact List.mem_cons_of_mem _ queued

/-- A step of the sending loop requests a success only at its end. -/
theorem loop (invariant : SizeInvariant reception) {given : LoopInput} {loop : SendingLoop}
    {rest : List SendingLoop}
    (queue : reception.client.fileQueue = loop :: rest)
    (allowed : reception.client.WithinAnnounced (.runFile given))
    (following : List SendingLoop) :
    SizeInvariant
      ⟨{ (reception.client.loopStatement loop.transfer given loop.point).1 with
          fileQueue := following },
        reception.announcement
          { (reception.client.loopStatement loop.transfer given loop.point).1 with
            fileQueue := following }⟩ := by
  obtain ⟨handle, sent, packets, blocks, result, change⟩ :=
    reception.client.loopStatement_change loop.transfer given loop.point
  rw [result]
  refine invariant.keep rfl rfl rfl rfl ?_
  intro request queued
  rcases List.mem_append.mp queued with old | new
  · exact .inl old
  · right
    rcases change.dispatches _ new with ⟨progress, same⟩ | ⟨error, atEnd, same⟩
    · contradiction
    · obtain ⟨rfl, -⟩ := MainBlock.cleanup.inj same
      apply allowed
      simp [queue, atEnd]

/-- Chunks that fit leave the file at the bytes counted, up to the announced
size. -/
theorem write (invariant : SizeInvariant reception) {handle : WriteHandle} {data : Bytes}
    {outgoing : List Packet} {blocks : List MainBlock}
    (receiving : reception.client.recvHandle = some handle)
    (fits : reception.client.recvBytesReceived + data.length ≤
      reception.client.recvTotalBytes)
    (complete : ∀ request, .cleanup none request ∈ blocks →
      reception.client.recvTotalBytes ≤
        u64 (reception.client.recvBytesReceived + data.length)) :
    SizeInvariant
      ⟨{ reception.client with
          disk := Function.update reception.client.disk handle.path
            (reception.client.disk handle.path ++ data)
          recvBytesReceived := u64 (reception.client.recvBytesReceived + data.length)
          outgoing := outgoing
          mainQueue := reception.client.mainQueue ++ blocks },
        reception.announced⟩ := by
  have bounded := invariant.bounded
  have exactly : u64 (reception.client.recvBytesReceived + data.length) =
      reception.client.recvBytesReceived + data.length := Nat.mod_eq_of_lt (by omega)
  obtain ⟨length, -⟩ := invariant.stored handle receiving
  refine ⟨bounded, invariant.announced, ?_, ?_⟩
  · intro other same
    have isHandle : other = handle := by
      have found : some other = some handle := same.symm.trans receiving
      exact Option.some.inj found
    subst isHandle
    dsimp only
    rw [Function.update_self, List.length_append, length, exactly]
    exact ⟨rfl, fits⟩
  · intro request queued _
    dsimp only
    rw [exactly]
    rcases List.mem_append.mp queued with old | new
    · -- All bytes had come, so what fits is empty.
      have all := invariant.success request old (by simp [receiving])
      omega
    · have reached := complete request new
      rw [exactly] at reached
      omega

/-- Every allowed input keeps the invariant. -/
theorem act (invariant : SizeInvariant reception)
    (allowed : reception.client.WithinAnnounced input)
    (acted : reception.client.act input = some (next, calls)) :
    SizeInvariant ⟨next, reception.announcement next⟩ := by
  have unannounced : ∀ {client : RTCClient}, reception.client.recvHandle.isSome = true →
      reception.announcement client = reception.announced := by
    intro client receiving
    unfold Reception.announcement
    rw [if_neg]
    rintro ⟨notReceiving, -⟩
    rw [Option.isNone_iff_eq_none] at notReceiving
    rw [notReceiving] at receiving
    contradiction
  cases effect_of_act acted with
  | began fileURL file =>
      rw [beginSending_eq]
      exact invariant.keep rfl rfl rfl rfl fun _ => .inl
  | cancelled =>
      rw [cancelFileTransfer_eq]
      exact invariant.keep_queue rfl rfl rfl rfl rfl (by simp)
  | rejected =>
      rw [rejectIncomingFileWithReason_eq]
      exact invariant.keep_queue rfl rfl rfl rfl rfl (by simp)
  | accepted destination accepts opens =>
      have settled := allowed accepts (by simp [opens])
      have notReceiving : reception.client.recvHandle.isNone = true := by
        simp only [canAccept, Bool.and_eq_true] at accepts
        exact accepts.2
      refine ⟨invariant.bounded, ?_, ?_, ?_⟩
      · intro _
        simp [Reception.announcement, notReceiving]
      · intro handle receiving
        obtain rfl := Option.some.inj receiving
        simp
      · intro request queued
        have waits : .cleanup none request ∈ reception.client.mainQueue := queued
        have pending := successPending_iff.mpr ⟨request, waits⟩
        rw [settled] at pending
        contradiction
  | unopened => exact invariant.keep_queue rfl rfl rfl rfl rfl (by simp)
  | greeted => exact invariant.keep_queue rfl rfl rfl rfl rfl (by simp)
  | busy => exact invariant.keep rfl rfl rfl rfl fun _ => .inl
  | offered name size chunk transfer outcome notSending notReceiving =>
      refine ⟨Nat.mod_lt _ (Nat.two_pow_pos 64), ?_, ?_, ?_⟩
      · intro receiving
        rw [notReceiving] at receiving
        contradiction
      · intro handle receiving
        rw [notReceiving] at receiving
        contradiction
      · intro request _ receiving
        rw [notReceiving] at receiving
        contradiction
  | started => exact invariant.keep rfl rfl rfl rfl fun _ => .inl
  | ended message transfer outcome error ends =>
      refine invariant.keep rfl rfl rfl rfl ?_
      intro request queued
      rcases List.mem_append.mp queued with old | new
      · exact .inl old
      · right
        obtain ⟨rfl, -⟩ := MainBlock.cleanup.inj (List.mem_singleton.mp new)
        cases message with
        | ftDone => exact allowed
        | hello | ftOffer | ftAccept | ftReject | ftCancel | binary => simp [endingError] at ends
  | writeFailed => exact invariant.keep_queue rfl rfl rfl rfl rfl (by simp)
  | stored data transfer handle receiving sized more =>
      have isReceiving : reception.client.recvHandle.isSome = true := by simp [receiving]
      rw [unannounced isReceiving]
      exact invariant.write receiving (allowed isReceiving) (by simp)
  | completed data transfer handle receiving sized complete =>
      have isReceiving : reception.client.recvHandle.isSome = true := by simp [receiving]
      rw [unannounced isReceiving]
      exact invariant.write receiving (allowed isReceiving) fun _ _ => complete
  | transmitted => exact invariant.keep rfl rfl rfl rfl fun _ => .inl
  | reported block rest call queue => exact invariant.keep_rest queue
  | iceIdle rest queue => exact invariant.keep_rest queue
  | iceLost rest queue =>
      refine invariant.keep rfl rfl rfl rfl ?_
      intro request queued
      left
      rw [queue]
      rcases List.mem_append.mp queued with old | new
      · exact List.mem_cons_of_mem _ old
      · simp at new
  | cleaned error request rest queue =>
      refine ⟨Nat.two_pow_pos 64, ?_, ?_, ?_⟩
      · intro receiving
        contradiction
      · intro handle receiving
        contradiction
      · intro request _ receiving
        contradiction
  | looped given loop rest queue => exact invariant.loop queue allowed _
  | iceChanged => exact invariant.keep_queue rfl rfl rfl rfl rfl (by simp)
  | channelChanged state =>
      obtain ⟨outgoing, result⟩ := reception.client.dataChannelDidChangeState_eq state
      rw [result]
      exact invariant.keep_queue rfl rfl rfl rfl rfl (by simp)
  | nothing => exact invariant.keep rfl rfl rfl rfl fun _ => .inl

/-- A finish notification without an error comes when all announced bytes are in
the file. -/
theorem ends (invariant : SizeInvariant reception)
    (acted : reception.client.act input = some (next, calls))
    {ended : ReceptionEnd} (finishes : ended ∈ reception.ends calls)
    (succeeds : ended.error = none) :
    ended.bytes = ended.announced := by
  unfold Reception.ends at finishes
  split at finishes
  case h_1 => contradiction
  case h_2 handle receiving =>
    have isReceiving : reception.client.recvHandle.isSome = true := by simp [receiving]
    obtain ⟨call, member, found⟩ := List.mem_filterMap.mp finishes
    split at found
    case h_2 => contradiction
    case h_1 error request transfer =>
      obtain rfl := Option.some.inj found
      dsimp only at succeeds ⊢
      subst succeeds
      -- Only a cleanup block finishes a transfer, and it was queued.
      have queued : .cleanup none request ∈ reception.client.mainQueue := by
        cases effect_of_act acted with
        | cleaned given asked rest queue =>
            obtain ⟨rfl, rfl, -⟩ :=
              DelegateCall.fileTransferDidFinish.inj (List.mem_singleton.mp member)
            rw [queue]
            exact List.mem_cons_self
        | reported block rest call queue reports notFinish =>
            exact absurd (List.mem_singleton.mp member).symm (notFinish none request transfer)
        | iceLost | iceIdle => simp at member
        | began | cancelled | rejected | accepted | unopened | greeted | busy | offered
        | started | ended | writeFailed | stored | completed | transmitted | looped
        | iceChanged | channelChanged | nothing => contradiction
      rw [(invariant.stored handle receiving).1, invariant.announced isReceiving]
      exact invariant.success request queued isReceiving

end SizeInvariant

/-! ## Whole runs -/

/-- **Success means exactly the announced size.** Take any run of a client, with
any messages of its peer and any schedule of its queues, in which every chunk
fits into what is still to come, a success is requested only when all bytes have
come, and no reception begins while a success is pending. Whenever a reception
ends without an error, the destination file holds exactly the announced number of
bytes, and it never holds more. -/
theorem received_size_is_announced
    {clientId : Nat} {helloName : String} {inputs : List Input} {ends : List ReceptionEnd}
    {reception : Reception}
    (run : ReceptionRun clientId helloName
      (fun reception input => reception.client.WithinAnnounced input) inputs ends reception) :
    (∀ ended ∈ ends, ended.error = none → ended.bytes = ended.announced) ∧
    ∀ handle, reception.client.recvHandle = some handle →
      (reception.client.disk handle.path).length ≤ reception.announced := by
  obtain ⟨invariant, succeeded⟩ := run.invariant
    (fun ends reception => SizeInvariant reception ∧
      ∀ ended ∈ ends, ended.error = none → ended.bytes = ended.announced)
    ⟨.initial clientId helloName, by simp⟩
    (by
      intro history before input after fresh holds allowed stepped
      obtain ⟨invariant, earlier⟩ := holds
      simp only [Reception.step, Option.map_eq_some_iff, Prod.exists, Prod.mk.injEq] at stepped
      obtain ⟨next, calls, acted, rfl, rfl⟩ := stepped
      refine ⟨invariant.act allowed acted, ?_⟩
      intro ended member
      rcases List.mem_append.mp member with old | new
      · exact earlier ended old
      · exact invariant.ends acted new)
  refine ⟨succeeded, ?_⟩
  intro handle receiving
  obtain ⟨length, within⟩ := invariant.stored handle receiving
  rw [length, invariant.announced (by simp [receiving])]
  exact within

/-- An offer of three bytes is received and accepted. -/
def acceptedOffer : List Input :=
  [.dataChannelState .Open,
    .receive ⟨.ftOffer "notes.txt" 3 RTCClient.chunkSize, none⟩ .written,
    .acceptIncomingFileToURL ⟨"/tmp/notes.txt", none⟩]

/-- All three bytes come in two chunks, and the queued blocks run. -/
def wholeFile : List Input :=
  acceptedOffer ++
    [.receive ⟨.binary [1, 2], none⟩ .written, .receive ⟨.binary [3], none⟩ .written,
      .receive ⟨.ftDone, none⟩ .written, .runMain, .runMain, .runMain, .runMain, .runMain]

theorem received_size_is_announced_wholeFile :
    ∃ ends reception,
      ReceptionRun 0 "mac#001" (fun reception input => reception.client.WithinAnnounced input)
        wholeFile ends reception ∧
      ⟨none, 3, 3⟩ ∈ ends ∧ ∀ ended ∈ ends, ended.error = none → ended.bytes = ended.announced := by
  obtain ⟨reception, ends, run, checked⟩ :
      ∃ reception ends,
        ReceptionRun 0 "mac#001"
          (fun reception input => reception.client.WithinAnnounced input) wholeFile ends
          reception ∧
        decide (⟨none, 3, 3⟩ ∈ ends) = true :=
    Machine.run_of_exec_any (fun (_ : Reception) (ends : List ReceptionEnd) =>
      decide (⟨none, 3, 3⟩ ∈ ends)) (by decide)
  exact ⟨ends, reception, run, of_decide_eq_true checked, (received_size_is_announced run).1⟩

/-- The peer says `ft_done` after one byte. -/
def cutShort : List Input :=
  acceptedOffer ++
    [.receive ⟨.binary [1], none⟩ .written, .receive ⟨.ftDone, none⟩ .written,
      .runMain, .runMain, .runMain, .runMain]

/-- The peer sends five bytes at once. -/
def overrun : List Input :=
  acceptedOffer ++ [.receive ⟨.binary [1, 2, 3, 4, 5], none⟩ .written]

/-- Success with one byte of three, and a file of five bytes where three were
announced. -/
theorem received_size_differs_from_announced :
    (∃ ends reception, ReceptionRun 0 "mac#001" Machine.free cutShort ends reception ∧
      ¬ ∀ ended ∈ ends, ended.error = none → ended.bytes = ended.announced) ∧
    ∃ ends reception, ReceptionRun 0 "mac#001" Machine.free overrun ends reception ∧
      ¬ ∀ handle, reception.client.recvHandle = some handle →
        (reception.client.disk handle.path).length ≤ reception.announced := by
  constructor
  · obtain ⟨reception, ends, run, checked⟩ :
        ∃ reception ends, ReceptionRun 0 "mac#001" Machine.free cutShort ends reception ∧
          decide (ends = [⟨none, 1, 3⟩]) = true :=
      Machine.run_of_exec_any (fun (_ : Reception) (ends : List ReceptionEnd) =>
        decide (ends = [⟨none, 1, 3⟩])) (by decide)
    refine ⟨ends, reception, run, ?_⟩
    rw [of_decide_eq_true checked]
    decide
  · obtain ⟨reception, ends, run, checked⟩ :
        ∃ reception ends, ReceptionRun 0 "mac#001" Machine.free overrun ends reception ∧
          decide (reception.client.recvHandle = some ⟨"/tmp/notes.txt", none, 0⟩ ∧
            (reception.client.disk "/tmp/notes.txt").length = 5 ∧ reception.announced = 3) =
            true :=
      Machine.run_of_exec_any (fun (reception : Reception) _ =>
        decide (reception.client.recvHandle = some ⟨"/tmp/notes.txt", none, 0⟩ ∧
          (reception.client.disk "/tmp/notes.txt").length = 5 ∧ reception.announced = 3))
        (by decide)
    obtain ⟨receiving, five, three⟩ := of_decide_eq_true checked
    refine ⟨ends, reception, run, ?_⟩
    intro within
    have atMost := within _ receiving
    dsimp only at atMost
    omega

end WebrtcFileSender
