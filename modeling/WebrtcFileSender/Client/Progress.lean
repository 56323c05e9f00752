import WebrtcFileSender.Client.Emission
import WebrtcFileSender.Library.Tagged

/-!
Contract: progress notifications and the end of the transfer they report on.

The binary branch and the sending loop queue a progress block for every chunk. A
cleanup is only queued as well, so chunks are taken after it was requested, and
their blocks stand behind it.

Owns: the client with, as ghost data, the transfer whose chunk each progress block
reports, what the delegate hears of transfers, and the condition under which it
hears of no progress of a transfer that has finished.

A transfer is named by the number under which it began at this client, as an offer
or as a call of `sendFileAtURL:error:`.
-/

namespace WebrtcFileSender

def MainBlock.isProgress : MainBlock → Bool
  | .fileReceiveProgress _ | .fileSendProgress _ => true
  | .dataChannelStateDidChange _ | .iceConnectionLost | .didReceivePeerName _ _ _
  | .didUpdateOnlinePeers _ | .fileReceiveOffered | .cleanup _ _ => false

namespace RTCClient

/-- The transfers that have a handle; a cleanup that runs ends them. -/
def heldTransfers (client : RTCClient) : List Nat :=
  (client.sendHandle.map fun handle => handle.transfer.seq).toList ++
    (client.recvHandle.map WriteHandle.birth).toList

def cleanupWaits (client : RTCClient) : Bool :=
  client.mainQueue.any MainBlock.isCleanup

/-- The sending loop is about to queue the progress of a chunk. -/
def reporting (client : RTCClient) : Bool :=
  client.fileQueue.head?.any fun loop => loop.point == .reportProgress

end RTCClient

open RTCClient

/-- A client with the transfers that its progress blocks report on. -/
structure Attributed where
  client : RTCClient
  /-- The main queue; a progress block has the transfer of its chunk. -/
  blocks : List (MainBlock × Option Nat)
  /-- The transfer of the chunk that the sending loop has counted last. -/
  counted : Option Nat

/-- What the delegate hears: the progress of a chunk, or the finish of the
transfers that were live. -/
inductive Notice where
  | progress (transfer : Option Nat)
  | finish (transfers : List Nat)
deriving DecidableEq, Repr

def Notice.Finishes (transfer : Nat) : Notice → Prop
  | .finish transfers => transfer ∈ transfers
  | .progress _ => False

/-- The later notice is not progress of a transfer that the earlier one finished. -/
def Notice.InOrder (earlier later : Notice) : Prop :=
  ∀ transfer, earlier.Finishes transfer → later ≠ .progress (some transfer)

namespace Attributed

def initial (clientId : Nat) (helloName : String) : Attributed where
  client := .initial clientId helloName
  blocks := []
  counted := none

/-- The transfer of the chunk that a block queued now reports. -/
def cause (attributed : Attributed) : MainBlock → Option Nat
  | .fileReceiveProgress _ => attributed.client.recvHandle.map WriteHandle.birth
  | .fileSendProgress _ => attributed.counted
  | _ => none

def kept (attributed : Attributed) : Input → List (MainBlock × Option Nat)
  | .runMain => attributed.blocks.tail
  | _ => attributed.blocks

def countedAfter (attributed : Attributed) : Input → Option Nat
  | .runFile _ =>
      match attributed.client.fileQueue.head?.map SendingLoop.point with
      | some (.addBytes chunk) => some chunk.transfer.seq
      | _ => attributed.counted
  | _ => attributed.counted

/-- What a call on the delegate says of transfers. -/
def notice (attributed : Attributed) : DelegateCall → Option Notice
  | .fileReceiveProgress _ _ _ | .fileSendProgress _ _ _ =>
      some (.progress (attributed.blocks.head?.bind Prod.snd))
  | .fileTransferDidFinish _ _ _ => some (.finish attributed.client.heldTransfers)
  | .dataChannelStateDidChange _ | .didReceivePeerName _ _ _ | .didUpdateOnlinePeers _
  | .fileReceiveOffered _ _ => none

def step (attributed : Attributed) (input : Input) : Option (Attributed × List Notice) :=
  (attributed.client.act input).map fun (next, calls) =>
    (⟨next, Tagged.extend (attributed.kept input) next.mainQueue attributed.cause,
        attributed.countedAfter input⟩,
      calls.filterMap attributed.notice)

/-- The condition: a chunk is written, or its progress is queued by the loop, only
while no cleanup waits, and by the loop only while its transfer has its handle. -/
def TakenLive (attributed : Attributed) : Input → Prop
  | .receive ⟨.binary _, _⟩ .written =>
      attributed.client.recvHandle.isSome = true → attributed.client.recvTotalBytes ≠ 0 →
        attributed.client.cleanupWaits = false
  | .runFile _ =>
      attributed.client.reporting = true →
        attributed.client.cleanupWaits = false ∧
          attributed.client.sendHandle.map (fun handle => handle.transfer.seq) =
            attributed.counted
  | _ => True

instance (attributed : Attributed) : (input : Input) → Decidable (attributed.TakenLive input)
  | .receive ⟨.binary _, _⟩ .written => inferInstanceAs (Decidable (_ → _ → _))
  | .runFile _ => inferInstanceAs (Decidable (_ → _ ∧ _))
  | .receive ⟨.binary _, _⟩ (.raised _) | .receive ⟨.hello _ _ _, _⟩ _
  | .receive ⟨.ftOffer _ _ _, _⟩ _ | .receive ⟨.ftAccept, _⟩ _ | .receive ⟨.ftReject _, _⟩ _
  | .receive ⟨.ftCancel, _⟩ _ | .receive ⟨.ftDone, _⟩ _ | .sendFileAtURL _
  | .cancelFileTransfer | .acceptIncomingFileToURL _ | .rejectIncomingFileWithReason _
  | .transmit | .runMain | .iceConnectionState _ | .dataChannelState _ => .isTrue trivial

end Attributed

/-- Runs of one client, with what its delegate hears of transfers. -/
abbrev AttributedRun (clientId : Nat) (helloName : String)
    (guard : Attributed → Input → Prop) :=
  Machine.Run Attributed.step guard (Attributed.initial clientId helloName)

/-! ## What one input does -/

namespace RTCClient

variable {client next : RTCClient} {input : Input} {calls : List DelegateCall}

/-- The transfer has a handle, or is the offer that can be accepted. -/
def Held (client : RTCClient) (transfer : Nat) : Prop :=
  transfer ∈ client.heldTransfers ∨
    (client.incomingFileName.isSome = true ∧ client.incomingBirth = transfer)

/-- An input takes a chunk and queues the block for it. -/
inductive Takes (client : RTCClient) : Input → MainBlock → Prop
  | received (data : Bytes) (transfer : Option TransferId) (progress : Progress)
      (receiving : client.recvHandle.isSome = true) (sized : client.recvTotalBytes ≠ 0) :
      Takes client (.receive ⟨.binary data, transfer⟩ .written) (.fileReceiveProgress progress)
  | sent (given : LoopInput) (progress : Progress) (reporting : client.reporting = true) :
      Takes client (.runFile given) (.fileSendProgress progress)

/-- A progress block does not stand behind a cleanup. -/
def InFront (earlier later : MainBlock) : Prop :=
  earlier.isCleanup = true → later.isProgress = false

/-- Off the main thread blocks are only added, and a transfer is held that was held
before or has just begun. -/
structure Growth (client : RTCClient) (input : Input) (next : RTCClient)
    (fresh : List MainBlock) : Prop where
  queue : next.mainQueue = client.mainQueue ++ fresh
  begun : client.begun ≤ next.begun
  held : ∀ transfer, next.Held transfer →
    client.Held transfer ∨ (transfer = client.begun ∧ client.begun < next.begun)
  takes : ∀ block ∈ fresh, block.isProgress = true → client.Takes input block
  ordered : fresh.Pairwise InFront

namespace Growth

variable {fresh : List MainBlock}

theorem pairwise_of_quiet (quiet : ∀ block ∈ fresh, block.isProgress = false) :
    fresh.Pairwise InFront := by
  apply List.pairwise_of_forall_mem_list
  intro earlier _ later member _
  exact quiet later member

/-- The handles and the offer stay. -/
theorem of_kept
    (queue : next.mainQueue = client.mainQueue ++ fresh)
    (begun : next.begun = client.begun)
    (sending : next.sendHandle.map ReadHandle.transfer =
      client.sendHandle.map ReadHandle.transfer)
    (receiving : next.recvHandle = client.recvHandle)
    (name : next.incomingFileName = client.incomingFileName)
    (birth : next.incomingBirth = client.incomingBirth)
    (takes : ∀ block ∈ fresh, block.isProgress = true → client.Takes input block)
    (ordered : fresh.Pairwise InFront) :
    Growth client input next fresh := by
  refine ⟨queue, Nat.le_of_eq begun.symm, ?_, takes, ordered⟩
  intro transfer held
  have sameSeq := congrArg (Option.map TransferId.seq) sending
  simp only [Option.map_map] at sameSeq
  have sameHeld : next.heldTransfers = client.heldTransfers := by
    unfold heldTransfers
    rw [receiving]
    exact congrArg (Option.toList · ++ _) sameSeq
  rw [Held, sameHeld, name, birth] at held
  exact .inl held

/-- The handles and the offer stay, and no block reports progress. -/
theorem of_quiet
    (queue : next.mainQueue = client.mainQueue ++ fresh)
    (quiet : ∀ block ∈ fresh, block.isProgress = false)
    (begun : next.begun = client.begun)
    (sending : next.sendHandle.map ReadHandle.transfer =
      client.sendHandle.map ReadHandle.transfer)
    (receiving : next.recvHandle = client.recvHandle)
    (name : next.incomingFileName = client.incomingFileName)
    (birth : next.incomingBirth = client.incomingBirth) :
    Growth client input next fresh :=
  of_kept queue begun sending receiving name birth
    (fun block member isProgress => by simp [quiet block member] at isProgress)
    (pairwise_of_quiet quiet)

end Growth

/-- Only the statement that counts a chunk is followed by a report. -/
theorem counted_of_reports {transfer : TransferId} {given : LoopInput} {point : LoopPoint}
    (continues : (client.loopStatement transfer given point).2 = some .reportProgress) :
    ∃ chunk, point = .addBytes chunk := by
  cases point with
  | addBytes chunk => exact ⟨chunk, rfl⟩
  | read | entry | whileTest | waitTest | waitBody | openTest | retryTest | retryOpenTest
  | retrySend | okTest | reportProgress | cancelledTest | completeTest | sendDone | finish =>
      simp only [loopStatement] at continues
      repeat' split at continues
      all_goals simp at continues

theorem growth_of_loop (given : LoopInput) (loop : SendingLoop) (rest : List SendingLoop)
    (queue : client.fileQueue = loop :: rest) :
    Growth client (.runFile given)
      { (client.loopStatement loop.transfer given loop.point).1 with
        fileQueue := advanceQueue loop rest
          (client.loopStatement loop.transfer given loop.point).2 }
      (client.loopBlocks loop.transfer loop.point) := by
  obtain ⟨handle, sent, packets, blocks, result, change⟩ :=
    client.loopStatement_change loop.transfer given loop.point
  have grown := client.mainQueue_of_loopStatement loop.transfer given loop.point
  rw [result] at grown ⊢
  refine .of_kept grown rfl change.sameTransfer rfl rfl rfl ?_ ?_
  · intro block member isProgress
    cases point : loop.point with
    | reportProgress =>
        rw [point] at member
        rw [List.mem_singleton.mp member]
        exact .sent given _ (by simp [reporting, queue, point])
    | finish error =>
        rw [point] at member
        rw [List.mem_singleton.mp member] at isProgress
        contradiction
    | entry | whileTest | waitTest | waitBody | openTest | read | retryTest | retryOpenTest
    | retrySend | okTest | addBytes | cancelledTest | completeTest | sendDone =>
        rw [point] at member
        contradiction
  · cases loop.point with
    | reportProgress | finish => exact List.pairwise_singleton _ _
    | entry | whileTest | waitTest | waitBody | openTest | read | retryTest | retryOpenTest
    | retrySend | okTest | addBytes | cancelledTest | completeTest | sendDone => exact .nil

/-- Every input but a block of the main queue. -/
theorem growth_of_effect (effect : Effect client input next calls)
    (notMain : input ≠ .runMain) :
    calls = [] ∧ ∃ fresh, Growth client input next fresh := by
  cases effect with
  | reported | iceLost | iceIdle | cleaned => exact absurd rfl notMain
  | began fileURL file isOpen notSending notReceiving =>
      rw [beginSending_eq]
      refine ⟨rfl, [], (List.append_nil _).symm, Nat.le_succ _, ?_, by simp, .nil⟩
      rintro transfer (held | offered)
      · right
        simp only [heldTransfers, notReceiving, Option.map_some, Option.map_none,
          Option.toList_some, Option.toList_none, List.append_nil, List.mem_singleton] at held
        exact ⟨held, Nat.lt_succ_self _⟩
      · exact .inl (.inr offered)
  | accepted destination accepts =>
      refine ⟨rfl, [], (List.append_nil _).symm, Nat.le_refl _, ?_, by simp, .nil⟩
      simp only [canAccept, Bool.and_eq_true] at accepts
      rintro transfer (held | offered)
      · left
        rcases List.mem_append.mp held with sending | receiving
        · exact .inl (List.mem_append_left _ sending)
        · simp only [Option.map_some, Option.toList_some, List.mem_singleton] at receiving
          exact .inr ⟨accepts.1.1, receiving.symm⟩
      · exact .inl (.inr offered)
  | offered name size chunk transfer outcome notSending notReceiving =>
      refine ⟨rfl, [.fileReceiveOffered], rfl, Nat.le_succ _, ?_,
        by simp [MainBlock.isProgress], List.pairwise_singleton _ _⟩
      rintro transfer (held | ⟨-, born⟩)
      · exact .inl (.inl held)
      · exact .inr ⟨born.symm, Nat.lt_succ_self _⟩
  | stored data transfer handle receiving sized =>
      refine ⟨rfl, _, .of_kept rfl rfl rfl rfl rfl rfl ?_ (List.pairwise_singleton _ _)⟩
      intro block member _
      rw [List.mem_singleton.mp member]
      exact .received data transfer _ (by simp [receiving]) sized
  | completed data transfer handle receiving sized =>
      refine ⟨rfl, _, .of_kept rfl rfl rfl rfl rfl rfl ?_ ?_⟩
      · intro block member isProgress
        rcases List.mem_pair.mp member with rfl | rfl
        · exact .received data transfer _ (by simp [receiving]) sized
        · contradiction
      · simp [InFront, MainBlock.isProgress]
  | looped given loop rest queue =>
      exact ⟨rfl, _, growth_of_loop given loop rest queue⟩
  | cancelled =>
      rw [cancelFileTransfer_eq]
      exact ⟨rfl, _, .of_quiet rfl (by simp [MainBlock.isProgress]) rfl rfl rfl rfl rfl⟩
  | rejected reason =>
      rw [rejectIncomingFileWithReason_eq]
      exact ⟨rfl, _, .of_quiet rfl (by simp [MainBlock.isProgress]) rfl rfl rfl rfl rfl⟩
  | channelChanged state =>
      obtain ⟨outgoing, result⟩ := client.dataChannelDidChangeState_eq state
      rw [result]
      exact ⟨rfl, _, .of_quiet rfl (by simp [MainBlock.isProgress]) rfl rfl rfl rfl rfl⟩
  | unopened | greeted | ended | writeFailed | iceChanged =>
      exact ⟨rfl, _, .of_quiet rfl (by simp [MainBlock.isProgress]) rfl rfl rfl rfl rfl⟩
  | busy | started | transmitted | nothing =>
      exact ⟨rfl, [], .of_quiet (List.append_nil _).symm (by simp) rfl rfl rfl rfl rfl⟩

/-- A block is taken off the main queue, and at most a cleanup is added. -/
theorem popped_of_effect (effect : Effect client .runMain next calls) :
    ∃ block rest added, client.mainQueue = block :: rest ∧ next.mainQueue = rest ++ added ∧
      ∀ block ∈ added, block.isProgress = false := by
  cases effect with
  | reported block rest call queue | iceIdle rest queue | cleaned error request rest queue =>
      exact ⟨_, rest, [], queue, (List.append_nil _).symm, by simp⟩
  | iceLost rest queue => exact ⟨_, rest, _, queue, rfl, by simp [MainBlock.isProgress]⟩
  | nothing _ _ _ _ notQueued => exact absurd rfl notQueued.2.1

end RTCClient

/-! ## Whole runs -/

namespace Attributed

variable {attributed following : Attributed} {next : RTCClient} {input : Input}
  {calls : List DelegateCall} {notices fresh : List Notice} {blocks : List MainBlock}

/-- The transfer has not finished. -/
def Unfinished (notices : List Notice) (transfer : Nat) : Prop :=
  ∀ notice ∈ notices, ¬ notice.Finishes transfer

/-- The next state of the client, with the blocks that were added. -/
def advance (attributed : Attributed) (input : Input) (next : RTCClient) : Attributed :=
  ⟨next, Tagged.extend (attributed.kept input) next.mainQueue attributed.cause,
    attributed.countedAfter input⟩

theorem step_spec (stepped : attributed.step input = some (following, fresh)) :
    ∃ next calls, attributed.client.act input = some (next, calls) ∧
      following = attributed.advance input next ∧
      fresh = calls.filterMap attributed.notice := by
  simp only [step, Option.map_eq_some_iff, Prod.exists, Prod.mk.injEq] at stepped
  obtain ⟨next, calls, acted, rfl, rfl⟩ := stepped
  exact ⟨next, calls, acted, rfl, rfl⟩

theorem kept_of_notMain (notMain : input ≠ .runMain) :
    attributed.kept input = attributed.blocks := by
  cases input with
  | runMain => exact absurd rfl notMain
  | sendFileAtURL | cancelFileTransfer | acceptIncomingFileToURL
  | rejectIncomingFileWithReason | receive | transmit | runFile | iceConnectionState
  | dataChannelState => rfl

/-- What every allowed step keeps: whatever is held, or is reported by a block of the
main queue, has not finished. -/
structure InTime (notices : List Notice) (attributed : Attributed) : Prop where
  queue : attributed.blocks.map Prod.fst = attributed.client.mainQueue
  ordered : attributed.client.mainQueue.Pairwise InFront
  tagged : ∀ block transfer, (block, some transfer) ∈ attributed.blocks →
    block.isProgress = true ∧ Unfinished notices transfer
  held : ∀ transfer, attributed.client.Held transfer →
    transfer < attributed.client.begun ∧ Unfinished notices transfer
  finished : ∀ notice ∈ notices, ∀ transfer, notice.Finishes transfer →
    transfer < attributed.client.begun
  inOrder : notices.Pairwise Notice.InOrder

namespace InTime

theorem initial (clientId : Nat) (helloName : String) :
    InTime [] (.initial clientId helloName) where
  queue := rfl
  ordered := .nil
  tagged := by simp [Attributed.initial]
  held := by
    rintro transfer (held | ⟨offered, -⟩)
    · contradiction
    · contradiction
  finished := by simp
  inOrder := .nil

/-- The chunk of an allowed input belongs to a transfer with a handle, and no cleanup
waits. -/
theorem live_of_takes (allowed : attributed.TakenLive input) {block : MainBlock}
    (takes : attributed.client.Takes input block) :
    attributed.client.cleanupWaits = false ∧
      ∀ transfer ∈ attributed.cause block, transfer ∈ attributed.client.heldTransfers := by
  cases takes with
  | received data tag progress receiving sized =>
      refine ⟨allowed receiving sized, ?_⟩
      intro transfer isCause
      exact List.mem_append_right _ (Option.mem_toList.mpr isCause)
  | sent given progress reporting =>
      obtain ⟨noCleanup, sending⟩ := allowed reporting
      refine ⟨noCleanup, ?_⟩
      intro transfer isCause
      apply List.mem_append_left
      rw [sending]
      exact Option.mem_toList.mpr isCause

theorem offMain (inTime : InTime notices attributed)
    (allowed : attributed.TakenLive input) (notMain : input ≠ .runMain)
    (growth : Growth attributed.client input next blocks) :
    InTime notices (attributed.advance input next) := by
  have grown : next.mainQueue = attributed.blocks.map Prod.fst ++ blocks := by
    rw [inTime.queue]
    exact growth.queue
  have sameBlocks : (attributed.advance input next).blocks =
      Tagged.extend attributed.blocks next.mainQueue attributed.cause := by
    rw [advance, kept_of_notMain notMain]
  constructor
  · rw [sameBlocks]
    exact Tagged.map_fst_extend grown
  · show next.mainQueue.Pairwise InFront
    rw [growth.queue]
    refine List.pairwise_append.mpr ⟨inTime.ordered, growth.ordered, ?_⟩
    intro earlier waits later isFresh isCleanup
    by_contra isProgress
    rw [Bool.not_eq_false] at isProgress
    obtain ⟨noCleanup, -⟩ := live_of_takes allowed (growth.takes later isFresh isProgress)
    have noneWaits := List.any_eq_false.mp noCleanup earlier waits
    exact noneWaits isCleanup
  · intro block transfer member
    rw [sameBlocks] at member
    rcases Tagged.mem_extend grown member with old | ⟨isFresh, isCause⟩
    · exact inTime.tagged block transfer old
    · have isProgress : block.isProgress = true := by
        cases block with
        | fileReceiveProgress | fileSendProgress => rfl
        | dataChannelStateDidChange | iceConnectionLost | didReceivePeerName
        | didUpdateOnlinePeers | fileReceiveOffered | cleanup => contradiction
      obtain ⟨-, isHeld⟩ := live_of_takes allowed (growth.takes block isFresh isProgress)
      exact ⟨isProgress, (inTime.held transfer (.inl (isHeld transfer isCause.symm))).2⟩
  · intro transfer held
    rcases growth.held transfer held with before | ⟨rfl, begins⟩
    · obtain ⟨older, unfinished⟩ := inTime.held transfer before
      exact ⟨Nat.lt_of_lt_of_le older growth.begun, unfinished⟩
    · refine ⟨begins, ?_⟩
      intro notice heard finishes
      exact Nat.lt_irrefl _ (inTime.finished notice heard _ finishes)
  · intro notice heard transfer finishes
    exact Nat.lt_of_lt_of_le (inTime.finished notice heard transfer finishes) growth.begun
  · exact inTime.inOrder

/-- The first block with its tag, and the others. -/
theorem blocks_of_queue (inTime : InTime notices attributed) {block : MainBlock}
    {rest : List MainBlock} (queue : attributed.client.mainQueue = block :: rest) :
    ∃ tag others, attributed.blocks = (block, tag) :: others ∧ others.map Prod.fst = rest := by
  have tagged := inTime.queue
  rw [queue] at tagged
  obtain ⟨⟨first, tag⟩, others, isBlocks, rfl, isRest⟩ := List.map_eq_cons_iff.mp tagged
  exact ⟨tag, others, isBlocks, isRest⟩

/-- A block that ends nothing: it may report progress, of a transfer that has not
finished since the block is still queued. -/
theorem popped (inTime : InTime notices attributed) {block : MainBlock}
    {rest added : List MainBlock}
    (queue : attributed.client.mainQueue = block :: rest)
    (nextQueue : next.mainQueue = rest ++ added)
    (quiet : ∀ block ∈ added, block.isProgress = false)
    (held : ∀ transfer, next.Held transfer → attributed.client.Held transfer)
    (begun : next.begun = attributed.client.begun)
    (said : ∀ notice ∈ fresh, notice = .progress (attributed.blocks.head?.bind Prod.snd)) :
    InTime (notices ++ fresh) (attributed.advance .runMain next) := by
  obtain ⟨tag, others, isBlocks, isRest⟩ := inTime.blocks_of_queue queue
  have head : attributed.blocks.head?.bind Prod.snd = tag := by
    rw [isBlocks]
    rfl
  rw [head] at said
  have ordered := inTime.ordered
  rw [queue, List.pairwise_cons] at ordered
  have grown : next.mainQueue = others.map Prod.fst ++ added := by
    rw [isRest]
    exact nextQueue
  have sameBlocks : (attributed.advance .runMain next).blocks =
      Tagged.extend others next.mainQueue attributed.cause := by
    simp only [advance, kept, isBlocks, List.tail_cons]
  have stillUnfinished : ∀ transfer, Unfinished notices transfer →
      Unfinished (notices ++ fresh) transfer := by
    intro transfer unfinished notice heard finishes
    rcases List.mem_append.mp heard with old | new
    · exact unfinished notice old finishes
    · rw [said notice new] at finishes
      exact finishes
  constructor
  · rw [sameBlocks]
    exact Tagged.map_fst_extend grown
  · show next.mainQueue.Pairwise InFront
    rw [nextQueue]
    refine List.pairwise_append.mpr ⟨ordered.2, Growth.pairwise_of_quiet quiet, ?_⟩
    intro earlier _ later isAdded _
    exact quiet later isAdded
  · intro entry transfer member
    rw [sameBlocks] at member
    rcases Tagged.mem_extend grown member with old | ⟨isAdded, isCause⟩
    · obtain ⟨isProgress, unfinished⟩ := inTime.tagged entry transfer
        (by rw [isBlocks]; exact List.mem_cons_of_mem _ old)
      exact ⟨isProgress, stillUnfinished transfer unfinished⟩
    · have notProgress := quiet entry isAdded
      cases entry with
      | fileReceiveProgress | fileSendProgress => contradiction
      | dataChannelStateDidChange | iceConnectionLost | didReceivePeerName
      | didUpdateOnlinePeers | fileReceiveOffered | cleanup => contradiction
  · intro transfer isHeld
    obtain ⟨older, unfinished⟩ := inTime.held transfer (held transfer isHeld)
    exact ⟨begun ▸ older, stillUnfinished transfer unfinished⟩
  · intro notice heard transfer finishes
    show transfer < next.begun
    rw [begun]
    rcases List.mem_append.mp heard with old | new
    · exact inTime.finished notice old transfer finishes
    · rw [said notice new] at finishes
      contradiction
  · refine List.pairwise_append.mpr ⟨inTime.inOrder, ?_, ?_⟩
    · apply List.pairwise_of_forall_mem_list
      intro earlier isFresh later _ transfer finishes
      rw [said earlier isFresh] at finishes
      contradiction
    · intro earlier heard later isFresh transfer finishes isProgress
      rw [said later isFresh] at isProgress
      have isTag : tag = some transfer := Notice.progress.inj isProgress
      obtain ⟨-, unfinished⟩ := inTime.tagged block transfer
        (by rw [isBlocks, isTag]; exact List.mem_cons_self)
      exact unfinished earlier heard finishes

/-- A cleanup ends what is held. No progress block stands behind it, so none is left in
the queue. -/
theorem cleaned (inTime : InTime notices attributed) {error : Option NSError}
    {request : CleanupRequest} {rest : List MainBlock}
    (queue : attributed.client.mainQueue = .cleanup error request :: rest) :
    InTime (notices ++ [.finish attributed.client.heldTransfers])
      (attributed.advance .runMain
        { attributed.client with mainQueue := rest }.resetTransfer) := by
  obtain ⟨tag, others, isBlocks, isRest⟩ := inTime.blocks_of_queue queue
  have ordered := inTime.ordered
  rw [queue, List.pairwise_cons] at ordered
  have sameBlocks : (attributed.advance .runMain
      { attributed.client with mainQueue := rest }.resetTransfer).blocks = others := by
    have nothingAdded : rest = others.map Prod.fst ++ [] := by
      rw [List.append_nil, isRest]
    simp only [advance, kept, isBlocks, List.tail_cons, resetTransfer]
    rw [Tagged.extend_eq nothingAdded, List.map_nil, List.append_nil]
  constructor
  · rw [sameBlocks]
    exact isRest
  · exact ordered.2
  · intro entry transfer member
    rw [sameBlocks] at member
    obtain ⟨isProgress, -⟩ := inTime.tagged entry transfer
      (by rw [isBlocks]; exact List.mem_cons_of_mem _ member)
    have behind : entry ∈ rest := by
      rw [← isRest]
      exact List.mem_map_of_mem member
    rw [ordered.1 entry behind rfl] at isProgress
    contradiction
  · rintro transfer (held | ⟨offered, -⟩)
    · contradiction
    · contradiction
  · intro notice heard transfer finishes
    show transfer < attributed.client.begun
    rcases List.mem_append.mp heard with old | new
    · exact inTime.finished notice old transfer finishes
    · rw [List.mem_singleton.mp new] at finishes
      exact (inTime.held transfer (.inl finishes)).1
  · refine List.pairwise_append.mpr ⟨inTime.inOrder, List.pairwise_singleton _ _, ?_⟩
    intro earlier _ later isFresh transfer _
    rw [List.mem_singleton.mp isFresh]
    intro isProgress
    contradiction

theorem step (inTime : InTime notices attributed) (allowed : attributed.TakenLive input)
    (stepped : attributed.step input = some (following, fresh)) :
    InTime (notices ++ fresh) following := by
  obtain ⟨next, calls, acted, rfl, rfl⟩ := step_spec stepped
  have effect := effect_of_act acted
  by_cases notMain : input ≠ .runMain
  · obtain ⟨rfl, blocks, growth⟩ := growth_of_effect effect notMain
    rw [List.filterMap_nil, List.append_nil]
    exact inTime.offMain allowed notMain growth
  · obtain rfl := not_not.mp notMain
    cases effect with
    | cleaned error request rest queue => exact inTime.cleaned queue
    | reported block rest call queue reports notFinish =>
        refine inTime.popped queue (List.append_nil _).symm (by simp) (fun _ => id) rfl ?_
        intro notice heard
        obtain ⟨called, isCall, isNotice⟩ := List.mem_filterMap.mp heard
        obtain rfl := List.mem_singleton.mp isCall
        cases called with
        | fileReceiveProgress | fileSendProgress => exact (Option.some.inj isNotice).symm
        | fileTransferDidFinish error request ended =>
            exact absurd rfl (notFinish error request ended)
        | dataChannelStateDidChange | didReceivePeerName | didUpdateOnlinePeers
        | fileReceiveOffered => contradiction
    | iceLost rest queue =>
        exact inTime.popped queue rfl (by simp [MainBlock.isProgress]) (fun _ => id) rfl
          (by simp [notice])
    | iceIdle rest queue =>
        exact inTime.popped queue (List.append_nil _).symm (by simp) (fun _ => id) rfl
          (by simp [notice])
    | nothing _ _ _ _ notQueued => exact absurd rfl notQueued.2.1

end InTime

end Attributed

/-! ## Every progress block has its transfer -/

namespace Attributed

variable {attributed following : Attributed} {next : RTCClient} {input : Input}
  {calls : List DelegateCall} {notices fresh : List Notice} {blocks : List MainBlock}

/-- A loop that is about to report has counted a chunk, and a block that reports has a
transfer. -/
structure Sourced (attributed : Attributed) : Prop where
  queue : attributed.blocks.map Prod.fst = attributed.client.mainQueue
  counted : ∀ loop ∈ attributed.client.fileQueue, loop.point = .reportProgress →
    attributed.counted.isSome = true
  tagged : ∀ block tag, (block, tag) ∈ attributed.blocks → block.isProgress = true →
    tag.isSome = true

namespace Sourced

theorem counted_effect (sourced : Sourced attributed)
    (effect : Effect attributed.client input next calls) :
    ∀ loop ∈ next.fileQueue, loop.point = .reportProgress →
      (attributed.countedAfter input).isSome = true := by
  have kept : attributed.counted.isSome = true →
      (attributed.countedAfter input).isSome = true := by
    intro counted
    unfold countedAfter
    split
    · split
      · rfl
      · exact counted
    · exact counted
  intro loop member atPoint
  rcases fileQueue_of_effect effect with
    same | ⟨handle, transfer, outcome, -, -, started⟩ | ⟨given, running, rest, rfl, queue, ran⟩
  · rw [same] at member
    exact kept (sourced.counted loop member atPoint)
  · rw [started] at member
    rcases List.mem_append.mp member with old | new
    · exact kept (sourced.counted loop old atPoint)
    · rw [List.mem_singleton.mp new] at atPoint
      contradiction
  · rw [ran] at member
    rcases mem_advanceQueue member with inRest | ⟨point, continues, rfl⟩
    · exact kept (sourced.counted loop (queue ▸ List.mem_cons_of_mem _ inRest) atPoint)
    · obtain rfl : point = .reportProgress := atPoint
      obtain ⟨chunk, isAdd⟩ := counted_of_reports continues
      simp [countedAfter, queue, isAdd]

/-- A call that reports progress is made by a block that does. -/
theorem progress_of_act (sourced : Sourced attributed)
    (acted : attributed.client.act .runMain = some (next, calls)) :
    ∀ notice ∈ calls.filterMap attributed.notice, notice ≠ .progress none := by
  simp only [act] at acted
  split at acted
  case h_1 => contradiction
  case h_2 block rest queue =>
    have tagged := sourced.queue
    rw [queue] at tagged
    obtain ⟨⟨first, tag⟩, others, isBlocks, rfl, -⟩ := List.map_eq_cons_iff.mp tagged
    have source := sourced.tagged first tag (by rw [isBlocks]; exact List.mem_cons_self)
    obtain ⟨rfl, rfl⟩ := Prod.mk.inj (Option.some.inj acted)
    cases first with
    | fileReceiveProgress | fileSendProgress =>
        obtain ⟨transfer, rfl⟩ := Option.isSome_iff_exists.mp (source rfl)
        simp [notice, isBlocks]
    | dataChannelStateDidChange | iceConnectionLost | didReceivePeerName
    | didUpdateOnlinePeers | fileReceiveOffered | cleanup =>
        simp [notice]

theorem step (sourced : Sourced attributed)
    (stepped : attributed.step input = some (following, fresh)) :
    Sourced following ∧ ∀ notice ∈ fresh, notice ≠ .progress none := by
  obtain ⟨next, calls, acted, rfl, rfl⟩ := step_spec stepped
  have effect := effect_of_act acted
  have counted := sourced.counted_effect effect
  by_cases notMain : input ≠ .runMain
  · obtain ⟨rfl, blocks, growth⟩ := growth_of_effect effect notMain
    have grown : next.mainQueue = attributed.blocks.map Prod.fst ++ blocks := by
      rw [sourced.queue]
      exact growth.queue
    have sameBlocks : (attributed.advance input next).blocks =
        Tagged.extend attributed.blocks next.mainQueue attributed.cause := by
      rw [advance, kept_of_notMain notMain]
    refine ⟨⟨?_, counted, ?_⟩, by simp⟩
    · rw [sameBlocks]
      exact Tagged.map_fst_extend grown
    · intro block tag member isProgress
      rw [sameBlocks] at member
      rcases Tagged.mem_extend grown member with old | ⟨isFresh, rfl⟩
      · exact sourced.tagged block tag old isProgress
      · cases growth.takes block isFresh isProgress with
        | received data transfer progress receiving => simpa [cause] using receiving
        | sent given progress reporting =>
            obtain ⟨loop, isHead, atPoint⟩ := Option.any_eq_true _ _ |>.mp reporting
            exact sourced.counted loop (List.mem_of_mem_head? isHead) (eq_of_beq atPoint)
  · obtain rfl := not_not.mp notMain
    obtain ⟨block, rest, added, queue, nextQueue, quiet⟩ := popped_of_effect effect
    have tagged := sourced.queue
    rw [queue] at tagged
    obtain ⟨first, others, isBlocks, -, isRest⟩ := List.map_eq_cons_iff.mp tagged
    have grown : next.mainQueue = others.map Prod.fst ++ added := by
      rw [isRest]
      exact nextQueue
    have sameBlocks : (attributed.advance .runMain next).blocks =
        Tagged.extend others next.mainQueue attributed.cause := by
      simp only [advance, kept, isBlocks, List.tail_cons]
    refine ⟨⟨?_, counted, ?_⟩, sourced.progress_of_act acted⟩
    · rw [sameBlocks]
      exact Tagged.map_fst_extend grown
    · intro entry tag member isProgress
      rw [sameBlocks] at member
      rcases Tagged.mem_extend grown member with old | ⟨isAdded, -⟩
      · exact sourced.tagged entry tag (isBlocks ▸ List.mem_cons_of_mem _ old) isProgress
      · rw [quiet entry isAdded] at isProgress
        contradiction

end Sourced

end Attributed

/-- Every progress notification of a run is for a transfer. -/
theorem progress_has_transfer
    {clientId : Nat} {helloName : String} {inputs : List Input} {notices : List Notice}
    {final : Attributed}
    (run : AttributedRun clientId helloName Machine.free inputs notices final) :
    ∀ notice ∈ notices, notice ≠ .progress none := by
  have holds := run.invariant
    (fun notices attributed => Attributed.Sourced attributed ∧
      ∀ notice ∈ notices, notice ≠ .progress none)
    ⟨⟨rfl, by simp [Attributed.initial, RTCClient.initial], by simp [Attributed.initial]⟩,
      by simp⟩
    (by
      intro history attributed input following fresh before _ stepped
      obtain ⟨sourced, earlier⟩ := before
      obtain ⟨after, now⟩ := sourced.step stepped
      refine ⟨after, ?_⟩
      intro notice heard
      rcases List.mem_append.mp heard with old | new
      · exact earlier notice old
      · exact now notice new)
  exact holds.2

/-- **No progress after the finish.** In every run of a client in which chunks are taken
only while no cleanup waits, and the loop reports a chunk only while its transfer is the
one being sent: once the delegate has heard the finish of a transfer, it hears of no
progress by a chunk of it. -/
theorem no_progress_after_finish
    {clientId : Nat} {helloName : String} {inputs : List Input} {notices : List Notice}
    {final : Attributed}
    (run : AttributedRun clientId helloName Attributed.TakenLive inputs notices final) :
    notices.Pairwise Notice.InOrder :=
  (run.invariant Attributed.InTime (.initial clientId helloName)
    fun inTime allowed stepped => inTime.step allowed stepped).inOrder

/-- A file of two bytes is offered and accepted, on an open channel. -/
def acceptedNotes : List Input :=
  [.dataChannelState .Open, .receive ⟨.ftOffer "notes.txt" 2 16384, none⟩ .written,
    .acceptIncomingFileToURL ⟨"/tmp/notes.txt", none⟩]

/-- It is received, and the blocks of the main queue run. -/
def receivedNotes : List Input :=
  acceptedNotes ++ [.receive ⟨.binary [1, 2], none⟩ .written, .runMain, .runMain, .runMain,
    .runMain]

theorem no_progress_after_finish_receivedNotes :
    ∃ notices final,
      AttributedRun 0 "mac#001" Attributed.TakenLive receivedNotes notices final ∧
      notices = [.progress (some 0), .finish [0]] ∧ notices.Pairwise Notice.InOrder := by
  obtain ⟨final, notices, run, checked⟩ :
      ∃ final notices,
        AttributedRun 0 "mac#001" Attributed.TakenLive receivedNotes notices final ∧
        decide (notices = [.progress (some 0), .finish [0]]) = true :=
    Machine.run_of_exec_any (fun (_ : Attributed) (notices : List Notice) =>
      decide (notices = [.progress (some 0), .finish [0]])) (by decide)
  exact ⟨notices, final, run, of_decide_eq_true checked, no_progress_after_finish run⟩

/-- The peer cancels, a chunk of its loop follows the `ft_cancel`, and both arrive before
the blocks of the main queue run. -/
def cancelledNotes : List Input :=
  acceptedNotes ++ [.receive ⟨.ftCancel, none⟩ .written, .receive ⟨.binary [1], none⟩ .written,
    .runMain, .runMain, .runMain, .runMain]

/-- The delegate hears of progress after the finish. -/
theorem progress_after_finish :
    ∃ notices final,
      AttributedRun 0 "mac#001" Machine.free cancelledNotes notices final ∧
      notices = [.finish [0], .progress (some 0)] ∧ ¬ notices.Pairwise Notice.InOrder := by
  obtain ⟨final, notices, run, checked⟩ :
      ∃ final notices,
        AttributedRun 0 "mac#001" Machine.free cancelledNotes notices final ∧
        decide (notices = [.finish [0], .progress (some 0)]) = true :=
    Machine.run_of_exec_any (fun (_ : Attributed) (notices : List Notice) =>
      decide (notices = [.finish [0], .progress (some 0)])) (by decide)
  obtain rfl := of_decide_eq_true checked
  refine ⟨_, final, run, rfl, ?_⟩
  intro inOrder
  have first := (List.pairwise_cons.mp inOrder).1 _ (List.mem_singleton_self _)
  exact first 0 (List.mem_singleton_self 0) rfl

end WebrtcFileSender
