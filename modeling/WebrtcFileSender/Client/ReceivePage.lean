import WebrtcFileSender.Client.Progress
import WebrtcFileSender.Client.SavePanel

/-!
Contract: the receive page (`HXReceiveViewController.m`) and the reception it stands for.

The page has its own copy of the offer, two buttons that answer it, and a panel that covers
the window while a file comes in. It is written by blocks of the main queue and by the
completion handler of the save panel, which opens the receiving panel whether or not
`acceptIncomingFileToURL:` did anything.

Owns: the methods of the page, the recipient with its page as a machine, the condition under
which the page follows the client, and the law that it then does.

Labels, progress bars, the clock and the geometry of the panel are left out. The view may
disappear at any time, which hides the panel; `showReceivingPanel` finds a window.
-/

namespace WebrtcFileSender

def MainBlock.isReceiveProgress : MainBlock → Bool
  | .fileReceiveProgress _ => true
  | .dataChannelStateDidChange _ | .iceConnectionLost | .didReceivePeerName _ _ _
  | .didUpdateOnlinePeers _ | .fileReceiveOffered | .fileSendProgress _ | .cleanup _ _ => false

structure HXReceiveViewController where
  currentIncomingName : String
  currentIncomingSize : Nat
  /-- `saveAsButton.enabled` and `rejectButton.enabled`. -/
  saveAsEnabled : Bool
  rejectEnabled : Bool
  /-- `receivingOverlay.hidden` is `NO` and the panel is in front. -/
  panelVisible : Bool
deriving DecidableEq, Repr

namespace HXReceiveViewController

/-! ## Methods of the page -/

def presentIncomingOffer (page : HXReceiveViewController) (name : Option String) (size : Nat) :
    HXReceiveViewController :=
  { page with
    currentIncomingName := name.getD "file"
    currentIncomingSize := size
    saveAsEnabled := true
    rejectEnabled := true
    panelVisible := false }

def beginReceiving (page : HXReceiveViewController) (name : Option String) (size : Nat) :
    HXReceiveViewController :=
  { page with
    currentIncomingName := name.getD "file"
    currentIncomingSize := size
    panelVisible := true
    saveAsEnabled := false
    rejectEnabled := false }

/-- `setReceiveProgress:bytesReceived:totalBytes:` shows the panel, whatever it was. -/
def setReceiveProgress (page : HXReceiveViewController) : HXReceiveViewController :=
  { page with panelVisible := true }

def resetToIdle (page : HXReceiveViewController) : HXReceiveViewController :=
  { page with
    saveAsEnabled := false
    rejectEnabled := false
    panelVisible := false
    currentIncomingName := ""
    currentIncomingSize := 0 }

def viewWillDisappear (page : HXReceiveViewController) : HXReceiveViewController :=
  { page with panelVisible := false }

/-- The page after `viewDidLoad`. -/
def viewDidLoad : HXReceiveViewController where
  currentIncomingName := ""
  currentIncomingSize := 0
  saveAsEnabled := false
  rejectEnabled := false
  panelVisible := false

/-- What the container makes of a call on the delegate. -/
def handle (page : HXReceiveViewController) : DelegateCall → HXReceiveViewController
  | .fileReceiveOffered name size => page.presentIncomingOffer name size
  | .fileReceiveProgress _ _ _ => page.setReceiveProgress
  | .fileTransferDidFinish _ _ _ => page.resetToIdle
  | .dataChannelStateDidChange _ | .didReceivePeerName _ _ _ | .didUpdateOnlinePeers _
  | .fileSendProgress _ _ _ => page

end HXReceiveViewController

/-- A recipient with its receive page. -/
structure Receiver where
  recipient : Recipient
  page : HXReceiveViewController

namespace Receiver

/-! ## The receiver as a machine -/

inductive Input where
  | recipient (input : Recipient.Input)
  | viewWillDisappear

def client (receiver : Receiver) : RTCClient :=
  receiver.recipient.client

def initial (clientId : Nat) (helloName : String) : Receiver where
  recipient := .initial clientId helloName
  page := .viewDidLoad

/-- The page after an input of the recipient. -/
def pageAfter (receiver : Receiver) : Recipient.Input → HXReceiveViewController
  | .client input =>
      match receiver.client.act input with
      | none => receiver.page
      | some (_, calls) => calls.foldl HXReceiveViewController.handle receiver.page
  | .onAccept | .onReject | .completePanel _ none => receiver.page
  | .completePanel _ (some _) =>
      receiver.page.beginReceiving receiver.recipient.incomingName
        receiver.recipient.incomingSize

def step (receiver : Receiver) : Input → Option (Receiver × List Recipient.Report)
  | .recipient input =>
      (receiver.recipient.step input).map fun (next, reports) =>
        (⟨next, receiver.pageAfter input⟩, reports)
  | .viewWillDisappear =>
      some ({ receiver with page := receiver.page.viewWillDisappear }, [])

/-- An offer that takes effect finds no other, no open save panel and no cleanup that
waits; no chunk comes in while a cleanup waits; and a save panel that is confirmed finds
the offer, a reception, or a cleanup that will reset the page. -/
def Orderly (receiver : Receiver) : Input → Prop
  | .recipient (.client (.receive ⟨.ftOffer _ _ _, _⟩ _)) =>
      receiver.client.sendHandle.isSome = true ∨ receiver.client.recvHandle.isSome = true ∨
        (receiver.client.incomingFileName = none ∧ receiver.recipient.panels = [] ∧
          receiver.client.cleanupWaits = false)
  | .recipient (.client (.receive ⟨.binary _, _⟩ _)) =>
      receiver.client.recvHandle.isSome = true → receiver.client.cleanupWaits = false
  | .recipient (.completePanel _ (some _)) =>
      receiver.client.canAccept = true ∨ receiver.client.recvHandle.isSome = true ∨
        receiver.client.cleanupWaits = true
  | _ => True

end Receiver

/-- Runs of one client with the receive half of its container and the receive page. -/
abbrev ReceiverRun (clientId : Nat) (helloName : String)
    (guard : Receiver → Receiver.Input → Prop) :=
  Machine.Run Receiver.step guard (Receiver.initial clientId helloName)

/-! ## What an input of the client does to the reception -/

namespace RTCClient

/-- No offer is announced behind a cleanup or another offer, no progress behind a
cleanup. -/
def Behind (earlier later : MainBlock) : Prop :=
  (later = .fileReceiveOffered → earlier ≠ .fileReceiveOffered ∧ earlier.isCleanup = false) ∧
    (later.isReceiveProgress = true → earlier.isCleanup = false)

/-- The reception stays as it is. -/
structure SameReception (client next : RTCClient) : Prop where
  handle : next.recvHandle = client.recvHandle
  name : next.incomingFileName = client.incomingFileName
  size : next.recvTotalBytes = client.recvTotalBytes

inductive PageEffect (client : RTCClient) (input : Input) (next : RTCClient) :
    List DelegateCall → Prop
  | grown (fresh : List MainBlock)
      (queue : next.mainQueue = client.mainQueue ++ fresh)
      (noOffer : .fileReceiveOffered ∉ fresh)
      (sorted : fresh.Pairwise Behind)
      (taken : ∀ block ∈ fresh, block.isReceiveProgress = true →
        client.recvHandle.isSome = true ∧
          ∃ data tag outcome, input = .receive ⟨.binary data, tag⟩ outcome)
      (same : client.SameReception next) :
      PageEffect client input next []
  | offered (name : String) (size chunk : Nat) (tag : Option TransferId) (outcome : WriteOutcome)
      (isOffer : input = .receive ⟨.ftOffer name size chunk, tag⟩ outcome)
      (notSending : client.sendHandle = none) (notReceiving : client.recvHandle = none)
      (queue : next.mainQueue = client.mainQueue ++ [.fileReceiveOffered])
      (newName : next.incomingFileName = some name)
      (stillIdle : next.recvHandle = none) :
      PageEffect client input next []
  | ran (block : MainBlock) (rest fresh : List MainBlock) (call : DelegateCall)
      (queue : client.mainQueue = block :: rest)
      (notCleanup : block.isCleanup = false) (notOffer : block ≠ .fileReceiveOffered)
      (nextQueue : next.mainQueue = rest ++ fresh)
      (cleanups : ∀ block ∈ fresh, block.isCleanup = true)
      (unheard : ∀ recipient : Recipient, recipient.handle call = recipient)
      (unseen : (∀ page : HXReceiveViewController, page.handle call = page) ∨
        (block.isReceiveProgress = true ∧
          ∀ page : HXReceiveViewController, page.handle call = page.setReceiveProgress))
      (same : client.SameReception next) :
      PageEffect client input next [call]
  | presented (rest : List MainBlock)
      (queue : client.mainQueue = .fileReceiveOffered :: rest)
      (result : next = { client with mainQueue := rest }) :
      PageEffect client input next
        [.fileReceiveOffered client.incomingFileName client.recvTotalBytes]
  | cleaned (error : Option NSError) (request : CleanupRequest) (ended : Option TransferId)
      (rest : List MainBlock)
      (queue : client.mainQueue = .cleanup error request :: rest)
      (result : next = { client with mainQueue := rest }.resetTransfer) :
      PageEffect client input next [.fileTransferDidFinish error request ended]

variable {client next : RTCClient} {input : Input} {calls : List DelegateCall}

theorem SameReception.refl (client : RTCClient) : client.SameReception client :=
  ⟨rfl, rfl, rfl⟩

/-- Blocks that announce no offer and no progress stand in any order. -/
theorem behind_of_quiet {blocks : List MainBlock} (noOffer : .fileReceiveOffered ∉ blocks)
    (noProgress : ∀ block ∈ blocks, block.isReceiveProgress = false) :
    blocks.Pairwise Behind := by
  apply List.pairwise_of_forall_mem_list
  intro earlier _ later member
  constructor
  · rintro rfl
    exact absurd member noOffer
  · intro isProgress
    rw [noProgress later member] at isProgress
    contradiction

/-- Such blocks are all that most inputs add. -/
theorem PageEffect.of_quiet (fresh : List MainBlock)
    (queue : next.mainQueue = client.mainQueue ++ fresh)
    (noOffer : .fileReceiveOffered ∉ fresh)
    (noProgress : ∀ block ∈ fresh, block.isReceiveProgress = false)
    (same : client.SameReception next) : PageEffect client input next [] := by
  refine .grown fresh queue noOffer (behind_of_quiet noOffer noProgress) ?_ same
  intro block member isProgress
  rw [noProgress block member] at isProgress
  contradiction

theorem pageEffect_of_runMain (acted : client.act .runMain = some (next, calls)) :
    PageEffect client .runMain next calls := by
  simp only [act] at acted
  split at acted
  case h_1 => contradiction
  case h_2 block rest queue =>
    have result := Option.some.inj acted
    cases block with
    | cleanup error request =>
        obtain ⟨rfl, rfl⟩ := Prod.mk.inj result
        exact .cleaned error request _ rest queue rfl
    | fileReceiveOffered =>
        obtain ⟨rfl, rfl⟩ := Prod.mk.inj result
        exact .presented rest queue rfl
    | iceConnectionLost =>
        obtain ⟨rfl, rfl⟩ := Prod.mk.inj result
        dsimp only
        split
        case isTrue =>
          exact .ran .iceConnectionLost rest _ _ queue rfl (by simp) rfl (by
            simp [MainBlock.isCleanup]) (fun _ => rfl) (.inl fun _ => rfl) ⟨rfl, rfl, rfl⟩
        case isFalse =>
          exact .ran .iceConnectionLost rest [] _ queue rfl (by simp) (by simp) (by simp)
            (fun _ => rfl) (.inl fun _ => rfl) ⟨rfl, rfl, rfl⟩
    | fileReceiveProgress progress =>
        obtain ⟨rfl, rfl⟩ := Prod.mk.inj result
        exact .ran (.fileReceiveProgress progress) rest [] _ queue rfl (by simp) (by simp)
          (by simp) (fun _ => rfl) (.inr ⟨rfl, fun _ => rfl⟩) ⟨rfl, rfl, rfl⟩
    | dataChannelStateDidChange | didReceivePeerName | didUpdateOnlinePeers
    | fileSendProgress =>
        obtain ⟨rfl, rfl⟩ := Prod.mk.inj result
        exact .ran _ rest [] _ queue rfl (by simp) (by simp) (by simp) (fun _ => rfl)
          (.inl fun _ => rfl) ⟨rfl, rfl, rfl⟩

/-- Inputs that reach the client past the container and do not answer an offer. -/
theorem pageEffect_of_act (elsewhere : Recipient.elsewhere input = true)
    (acted : client.act input = some (next, calls)) : PageEffect client input next calls := by
  by_cases isMain : input = .runMain
  · subst isMain
    exact pageEffect_of_runMain acted
  · cases effect_of_act acted with
    | began =>
        rw [beginSending_eq]
        exact .of_quiet [] (by simp) (by simp) (by simp) ⟨rfl, rfl, rfl⟩
    | cancelled =>
        rw [cancelFileTransfer_eq]
        exact .of_quiet _ rfl (by simp) (by simp [MainBlock.isReceiveProgress]) ⟨rfl, rfl, rfl⟩
    | looped given loop rest queue =>
        obtain ⟨handle, sent, packets, blocks, result, change⟩ :=
          client.loopStatement_change loop.transfer given loop.point
        rw [result]
        have quiet : ∀ block ∈ blocks, block ≠ .fileReceiveOffered ∧
            block.isReceiveProgress = false := by
          intro block member
          rcases change.dispatches block member with ⟨progress, rfl⟩ | ⟨error, -, rfl⟩
          · simp [MainBlock.isReceiveProgress]
          · simp [MainBlock.isReceiveProgress]
        exact .of_quiet blocks rfl (fun member => (quiet _ member).1 rfl)
          (fun block member => (quiet block member).2) ⟨rfl, rfl, rfl⟩
    | channelChanged state =>
        obtain ⟨outgoing, result⟩ := client.dataChannelDidChangeState_eq state
        rw [result]
        exact .of_quiet _ rfl (by simp) (by simp [MainBlock.isReceiveProgress]) ⟨rfl, rfl, rfl⟩
    | offered name size chunk transfer outcome notSending notReceiving =>
        exact .offered name size chunk transfer outcome rfl notSending notReceiving rfl rfl
          notReceiving
    | stored data transfer handle receiving sized more =>
        refine .grown [.fileReceiveProgress _] rfl (by simp) (by simp) ?_ ⟨rfl, rfl, rfl⟩
        intro block _ _
        exact ⟨by rw [receiving]; rfl, data, transfer, _, rfl⟩
    | completed data transfer handle receiving sized complete =>
        refine .grown _ rfl (by simp) ?_ ?_ ⟨rfl, rfl, rfl⟩
        · simp [Behind, MainBlock.isReceiveProgress]
        · intro block _ _
          exact ⟨by rw [receiving]; rfl, data, transfer, _, rfl⟩
    | greeted | ended | writeFailed | iceChanged =>
        exact .of_quiet _ rfl (by simp) (by simp [MainBlock.isReceiveProgress]) ⟨rfl, rfl, rfl⟩
    | busy | started | transmitted | nothing =>
        exact .of_quiet [] (by simp [startSendingLoop]) (by simp) (by simp) ⟨rfl, rfl, rfl⟩
    | rejected | accepted | unopened => contradiction
    | reported | iceLost | iceIdle | cleaned => exact absurd rfl isMain

end RTCClient

/-! ## The page shows the reception -/

namespace Receiver

open RTCClient

variable {receiver next : Receiver} {input : Input} {reports : List Recipient.Report}

/-- What the page shows, and what the blocks that will still write it stand for. -/
structure Shows (receiver : Receiver) : Prop where
  sameButton : receiver.page.saveAsEnabled = receiver.recipient.saveAsEnabled
  bothButtons : receiver.page.rejectEnabled = receiver.page.saveAsEnabled
  sorted : receiver.client.mainQueue.Pairwise Behind
  offers : .fileReceiveOffered ∈ receiver.client.mainQueue →
    receiver.client.incomingFileName.isSome = true ∧ receiver.client.recvHandle = none ∧
      receiver.recipient.panels = [] ∧ receiver.page.saveAsEnabled = false
  progress : ∀ block ∈ receiver.client.mainQueue, block.isReceiveProgress = true →
    receiver.client.recvHandle.isSome = true
  known : receiver.client.incomingFileName.isSome = true →
    receiver.recipient.incomingName.isSome = true ∨
      .fileReceiveOffered ∈ receiver.client.mainQueue
  buttons : receiver.page.saveAsEnabled = true →
    receiver.client.recvHandle = none ∧
      receiver.client.incomingFileName = some receiver.page.currentIncomingName ∧
      receiver.client.recvTotalBytes = receiver.page.currentIncomingSize
  pending : receiver.client.incomingFileName.isSome = true → receiver.client.recvHandle = none →
    receiver.page.saveAsEnabled = true ∨ .fileReceiveOffered ∈ receiver.client.mainQueue ∨
      receiver.client.cleanupWaits = true
  receiving : receiver.client.recvHandle.isSome = true →
    receiver.client.incomingFileName = some receiver.page.currentIncomingName ∧
      receiver.client.recvTotalBytes = receiver.page.currentIncomingSize
  panel : receiver.page.panelVisible = true →
    receiver.client.recvHandle.isSome = true ∨ receiver.client.cleanupWaits = true

namespace Shows

theorem initial (clientId : Nat) (helloName : String) : Shows (.initial clientId helloName) := by
  constructor <;>
    simp [Receiver.initial, Receiver.client, Recipient.initial, RTCClient.initial,
      HXReceiveViewController.viewDidLoad]

/-- The reception stays, and so do the offer in the queue and a cleanup that waits. -/
theorem requeued (shows : Shows receiver) {client : RTCClient}
    (same : receiver.client.SameReception client)
    (sorted : client.mainQueue.Pairwise Behind)
    (offer : .fileReceiveOffered ∈ client.mainQueue ↔
      .fileReceiveOffered ∈ receiver.client.mainQueue)
    (progress : ∀ block ∈ client.mainQueue, block.isReceiveProgress = true →
      receiver.client.recvHandle.isSome = true)
    (cleanup : receiver.client.cleanupWaits = true → client.cleanupWaits = true) :
    Shows ⟨{ receiver.recipient with client := client }, receiver.page⟩ where
  sameButton := shows.sameButton
  bothButtons := shows.bothButtons
  sorted := sorted
  offers := by
    intro queued
    simp only [Receiver.client, same.name, same.handle]
    exact shows.offers (offer.mp queued)
  progress := by
    intro block member isProgress
    simp only [Receiver.client, same.handle]
    exact progress block member isProgress
  known := by
    simp only [Receiver.client, same.name, offer]
    exact shows.known
  buttons := by
    simp only [Receiver.client, same.name, same.size, same.handle]
    exact shows.buttons
  pending := by
    simp only [Receiver.client, same.name, same.handle, offer]
    intro named notReceiving
    exact (shows.pending named notReceiving).imp_right (Or.imp_right cleanup)
  receiving := by
    simp only [Receiver.client, same.name, same.size, same.handle]
    exact shows.receiving
  panel := by
    simp only [Receiver.client, same.handle]
    intro visible
    exact (shows.panel visible).imp_right cleanup

/-- Blocks are added that announce no offer, and progress only of a live reception. -/
theorem grown (shows : Shows receiver) {client : RTCClient} {fresh : List MainBlock}
    (queue : client.mainQueue = receiver.client.mainQueue ++ fresh)
    (noOffer : .fileReceiveOffered ∉ fresh)
    (sorted : fresh.Pairwise Behind)
    (live : ∀ block ∈ fresh, block.isReceiveProgress = true →
      receiver.client.recvHandle.isSome = true ∧ receiver.client.cleanupWaits = false)
    (same : receiver.client.SameReception client) :
    Shows ⟨{ receiver.recipient with client := client }, receiver.page⟩ := by
  apply shows.requeued same
  · rw [queue, List.pairwise_append]
    refine ⟨shows.sorted, sorted, ?_⟩
    intro earlier old later new
    constructor
    · rintro rfl
      exact absurd new noOffer
    · intro isProgress
      have none := (live later new isProgress).2
      simp only [cleanupWaits, List.any_eq_false] at none
      simpa using none earlier old
  · rw [queue, List.mem_append]
    exact or_iff_left noOffer
  · intro block member isProgress
    rw [queue] at member
    rcases List.mem_append.mp member with old | new
    · exact shows.progress block old isProgress
    · exact (live block new isProgress).1
  · intro waits
    simp only [cleanupWaits, queue, List.any_append, Bool.or_eq_true]
    exact .inl waits

/-- A block has run that is neither an offer nor a cleanup. -/
theorem ran (shows : Shows receiver) {client : RTCClient} {block : MainBlock}
    {rest fresh : List MainBlock}
    (queue : receiver.client.mainQueue = block :: rest)
    (notCleanup : block.isCleanup = false) (notOffer : block ≠ .fileReceiveOffered)
    (nextQueue : client.mainQueue = rest ++ fresh)
    (cleanups : ∀ block ∈ fresh, block.isCleanup = true)
    (same : receiver.client.SameReception client) :
    Shows ⟨{ receiver.recipient with client := client }, receiver.page⟩ := by
  have noOffer : .fileReceiveOffered ∉ fresh := by
    intro member
    have isCleanup := cleanups _ member
    contradiction
  have noProgress : ∀ block ∈ fresh, block.isReceiveProgress = false := by
    intro block member
    have isCleanup := cleanups block member
    cases block <;> first | contradiction | rfl
  have sorted := shows.sorted
  rw [queue, List.pairwise_cons] at sorted
  apply shows.requeued same
  · rw [nextQueue, List.pairwise_append]
    refine ⟨sorted.2, behind_of_quiet noOffer noProgress, ?_⟩
    intro earlier _ later new
    constructor
    · rintro rfl
      exact absurd new noOffer
    · intro isProgress
      rw [noProgress later new] at isProgress
      contradiction
  · rw [nextQueue, queue, List.mem_append, List.mem_cons]
    simp [noOffer, notOffer.symm]
  · intro other member isProgress
    rw [nextQueue] at member
    rcases List.mem_append.mp member with old | new
    · exact shows.progress other (by rw [queue]; exact List.mem_cons_of_mem _ old) isProgress
    · rw [noProgress other new] at isProgress
      contradiction
  · intro waits
    simp only [cleanupWaits, queue, List.any_cons, notCleanup, Bool.false_or] at waits
    simp only [cleanupWaits, nextQueue, List.any_append, waits, Bool.true_or]

/-- A block that announces an offer runs while the offer is there. -/
theorem presented (shows : Shows receiver) {rest : List MainBlock}
    (queue : receiver.client.mainQueue = .fileReceiveOffered :: rest) :
    Shows
      ⟨{ receiver.recipient with client := { receiver.client with mainQueue := rest } }.handle
          (.fileReceiveOffered receiver.client.incomingFileName receiver.client.recvTotalBytes),
        receiver.page.handle
          (.fileReceiveOffered receiver.client.incomingFileName
            receiver.client.recvTotalBytes)⟩ := by
  obtain ⟨named, notReceiving, -, -⟩ := shows.offers (by rw [queue]; exact List.mem_cons_self)
  obtain ⟨name, isName⟩ := Option.isSome_iff_exists.mp named
  have sorted := shows.sorted
  rw [queue, List.pairwise_cons] at sorted
  have noOffer : .fileReceiveOffered ∉ rest := fun member => ((sorted.1 _ member).1 rfl).1 rfl
  exact {
    sameButton := rfl
    bothButtons := rfl
    sorted := sorted.2
    offers := fun queued => absurd queued noOffer
    progress := by
      intro block member
      exact shows.progress block (by rw [queue]; exact List.mem_cons_of_mem _ member)
    known := fun _ => .inl named
    buttons := by
      intro _
      refine ⟨notReceiving, ?_, rfl⟩
      show receiver.client.incomingFileName = some (receiver.client.incomingFileName.getD "file")
      rw [isName]
      rfl
    pending := fun _ _ => .inl rfl
    receiving := by
      intro receiving
      have isReceiving : receiver.client.recvHandle.isSome = true := receiving
      rw [notReceiving] at isReceiving
      contradiction
    panel := fun visible => by contradiction }

/-- A cleanup leaves no block behind it that would bring the page back. -/
theorem cleaned (shows : Shows receiver) {error : Option NSError} {request : CleanupRequest}
    {rest : List MainBlock} (ended : Option TransferId)
    (queue : receiver.client.mainQueue = .cleanup error request :: rest) :
    Shows
      ⟨{ receiver.recipient with
          client := { receiver.client with mainQueue := rest }.resetTransfer }.handle
            (.fileTransferDidFinish error request ended),
        receiver.page.handle (.fileTransferDidFinish error request ended)⟩ := by
  have sorted := shows.sorted
  rw [queue, List.pairwise_cons] at sorted
  have noOffer : .fileReceiveOffered ∉ rest := by
    intro member
    have notCleanup := ((sorted.1 _ member).1 rfl).2
    contradiction
  exact {
    sameButton := rfl
    bothButtons := rfl
    sorted := sorted.2
    offers := fun queued => absurd queued noOffer
    progress := by
      intro block member isProgress
      have notCleanup := (sorted.1 block member).2 isProgress
      contradiction
    known := fun named => by contradiction
    buttons := fun enabled => by contradiction
    pending := fun named => by contradiction
    receiving := fun receiving => by contradiction
    panel := fun visible => by contradiction }

/-- An offer that comes alone. -/
theorem offered (shows : Shows receiver) {client : RTCClient} {name : String}
    (unnamed : receiver.client.incomingFileName = none)
    (closed : receiver.recipient.panels = [])
    (noCleanup : receiver.client.cleanupWaits = false)
    (notReceiving : receiver.client.recvHandle = none)
    (queue : client.mainQueue = receiver.client.mainQueue ++ [.fileReceiveOffered])
    (newName : client.incomingFileName = some name)
    (stillIdle : client.recvHandle = none) :
    Shows ⟨{ receiver.recipient with client := client }, receiver.page⟩ := by
  have noOffer : .fileReceiveOffered ∉ receiver.client.mainQueue := by
    intro queued
    have named := (shows.offers queued).1
    rw [unnamed] at named
    contradiction
  have disabled : receiver.page.saveAsEnabled = false := by
    rw [Bool.eq_false_iff]
    intro enabled
    have named := (shows.buttons enabled).2.1
    rw [unnamed] at named
    contradiction
  have queued : .fileReceiveOffered ∈ client.mainQueue := by
    rw [queue]
    exact List.mem_append_right _ (List.mem_singleton_self _)
  simp only [cleanupWaits, List.any_eq_false] at noCleanup
  exact {
    sameButton := shows.sameButton
    bothButtons := shows.bothButtons
    sorted := by
      show client.mainQueue.Pairwise Behind
      rw [queue, List.pairwise_append]
      refine ⟨shows.sorted, List.pairwise_singleton _ _, ?_⟩
      intro earlier old later new
      obtain rfl := List.mem_singleton.mp new
      refine ⟨fun _ => ⟨?_, by simpa using noCleanup earlier old⟩, fun isProgress => ?_⟩
      · rintro rfl
        exact noOffer old
      · contradiction
    offers := by
      intro _
      simp only [Receiver.client, newName, stillIdle]
      exact ⟨rfl, trivial, closed, disabled⟩
    progress := by
      intro block member isProgress
      rw [show Receiver.client ⟨{ receiver.recipient with client := client }, receiver.page⟩ =
        client from rfl, queue] at member
      rcases List.mem_append.mp member with old | new
      · have receiving := shows.progress block old isProgress
        rw [notReceiving] at receiving
        contradiction
      · rw [List.mem_singleton.mp new] at isProgress
        contradiction
    known := fun _ => .inr queued
    buttons := by
      intro enabled
      have isEnabled : receiver.page.saveAsEnabled = true := enabled
      rw [disabled] at isEnabled
      contradiction
    pending := fun _ _ => .inr (.inl queued)
    receiving := by
      simp only [Receiver.client, stillIdle]
      intro receiving
      contradiction
    panel := by
      intro visible
      rcases shows.panel visible with receiving | waits
      · rw [notReceiving] at receiving
        contradiction
      · simp only [Receiver.client, cleanupWaits, queue, List.any_append, Bool.or_eq_true]
        exact .inr (.inl waits) }

/-- While a save panel is open, the offer it was opened for has been announced. -/
theorem noOffer_of_panel (shows : Shows receiver) {index : Nat} {shown : Offer}
    (isShown : receiver.recipient.panels[index]? = some shown) :
    .fileReceiveOffered ∉ receiver.client.mainQueue := by
  intro queued
  have closed := (shows.offers queued).2.2.1
  rw [closed] at isShown
  contradiction

/-- The receiving panel opens for the offer that the container shows. -/
theorem began (shows : Shows receiver) (invariant : Recipient.ShownInvariant receiver.recipient)
    (noOffer : .fileReceiveOffered ∉ receiver.client.mainQueue)
    {recipient : Recipient} {fresh : List MainBlock}
    (disabled : recipient.saveAsEnabled = false)
    (sameIncoming : recipient.incomingName = receiver.recipient.incomingName)
    (queue : recipient.client.mainQueue = receiver.client.mainQueue ++ fresh)
    (cleanups : ∀ block ∈ fresh, block.isCleanup = true)
    (sameName : recipient.client.incomingFileName = receiver.client.incomingFileName)
    (sameSize : recipient.client.recvTotalBytes = receiver.client.recvTotalBytes)
    (kept : receiver.client.recvHandle.isSome = true →
      recipient.client.recvHandle.isSome = true)
    (named : recipient.client.recvHandle.isSome = true →
      receiver.client.incomingFileName.isSome = true)
    (alive : recipient.client.recvHandle.isSome = true ∨ recipient.client.cleanupWaits = true) :
    Shows ⟨recipient, receiver.page.beginReceiving receiver.recipient.incomingName
      receiver.recipient.incomingSize⟩ := by
  have noFreshOffer : .fileReceiveOffered ∉ fresh := by
    intro member
    have isCleanup := cleanups _ member
    contradiction
  have noProgress : ∀ block ∈ fresh, block.isReceiveProgress = false := by
    intro block member
    have isCleanup := cleanups block member
    cases block <;> first | contradiction | rfl
  have notQueued : .fileReceiveOffered ∉ recipient.client.mainQueue := by
    rw [queue, List.mem_append]
    rintro (old | new)
    · exact noOffer old
    · exact noFreshOffer new
  exact {
    sameButton := disabled.symm
    bothButtons := rfl
    sorted := by
      show recipient.client.mainQueue.Pairwise Behind
      rw [queue, List.pairwise_append]
      refine ⟨shows.sorted, behind_of_quiet noFreshOffer noProgress, ?_⟩
      intro earlier _ later new
      constructor
      · rintro rfl
        exact absurd new noFreshOffer
      · intro isProgress
        rw [noProgress later new] at isProgress
        contradiction
    offers := fun queued => absurd queued notQueued
    progress := by
      intro block member isProgress
      have inQueue : block ∈ recipient.client.mainQueue := member
      rw [queue] at inQueue
      rcases List.mem_append.mp inQueue with old | new
      · exact kept (shows.progress block old isProgress)
      · rw [noProgress block new] at isProgress
        contradiction
    known := by
      simp only [Receiver.client, sameName, sameIncoming]
      intro isNamed
      exact .inl ((shows.known isNamed).resolve_right noOffer)
    buttons := fun enabled => by contradiction
    pending := by
      intro _ notReceiving
      rcases alive with receiving | waits
      · have isNone : recipient.client.recvHandle = none := notReceiving
        rw [isNone] at receiving
        contradiction
      · exact .inr (.inr waits)
    receiving := by
      intro receiving
      have isIncoming := (shows.known (named receiving)).resolve_right noOffer
      obtain ⟨name, isName⟩ := Option.isSome_iff_exists.mp isIncoming
      obtain ⟨isClient, isSize⟩ := invariant.shown name isName
      show recipient.client.incomingFileName = some (receiver.recipient.incomingName.getD "file") ∧
        recipient.client.recvTotalBytes = receiver.recipient.incomingSize
      rw [sameName, sameSize, isName]
      exact ⟨isClient, isSize⟩
    panel := fun _ => alive }

/-- A save panel is confirmed. -/
theorem confirmed (shows : Shows receiver)
    (invariant : Recipient.ShownInvariant receiver.recipient)
    {index : Nat} {shown : Offer} {destination : Destination}
    (isShown : receiver.recipient.panels[index]? = some shown)
    (orderly : receiver.Orderly (.recipient (.completePanel index (some destination)))) :
    Shows
      ⟨{ receiver.recipient with
          panels := receiver.recipient.panels.eraseIdx index }.panelCompleted (some destination),
        receiver.page.beginReceiving receiver.recipient.incomingName
          receiver.recipient.incomingSize⟩ := by
  have noOffer := shows.noOffer_of_panel isShown
  have named : receiver.client.recvHandle.isSome = true →
      receiver.client.incomingFileName.isSome = true := by
    intro receiving
    rw [(shows.receiving receiving).1]
    rfl
  have pendingNamed : receiver.client.canAccept = true →
      receiver.client.incomingFileName.isSome = true := by
    intro accepts
    simp only [canAccept, Bool.and_eq_true] at accepts
    exact accepts.1.1
  simp only [Recipient.panelCompleted]
  rcases receiver.client.acceptIncomingFileToURL_cases destination with
    ⟨refuses, result⟩ | ⟨error, accepts, -, result⟩ | ⟨accepts, -, result⟩
  · have alive := orderly.resolve_left (by rw [refuses]; exact Bool.false_ne_true)
    rw [show receiver.recipient.client.acceptIncomingFileToURL destination =
      receiver.client from result]
    exact @began receiver shows invariant noOffer _ [] rfl rfl (by simp [Receiver.client])
      (by simp) rfl rfl id named alive
  · rw [show receiver.recipient.client.acceptIncomingFileToURL destination = _ from result]
    refine @began receiver shows invariant noOffer _ _ rfl rfl rfl (by simp [MainBlock.isCleanup])
      rfl rfl id named (.inr ?_)
    simp [cleanupWaits, MainBlock.isCleanup]
  · rw [show receiver.recipient.client.acceptIncomingFileToURL destination = _ from result]
    exact @began receiver shows invariant noOffer _ [] rfl rfl (by simp) (by simp) rfl rfl
      (fun _ => rfl) (fun _ => pendingNamed accepts) (.inl rfl)

end Shows

/-- An offer that comes alone is alone for the save panels, too. -/
theorem Orderly.offerAlone {input : Recipient.Input}
    (orderly : receiver.Orderly (.recipient input)) : receiver.recipient.OfferAlone input := by
  unfold Recipient.OfferAlone
  split
  case h_2 => trivial
  case h_1 name size chunk tag outcome =>
    rcases orderly with sending | receiving | ⟨unnamed, closed, -⟩
    · exact .inl sending
    · exact .inr (.inl receiving)
    · refine .inr (.inr ⟨?_, by simp [closed]⟩)
      have noOffer : receiver.recipient.client.pendingOffer = none := by
        have isNone : receiver.recipient.client.incomingFileName = none := unnamed
        simp [pendingOffer, isNone]
      simp [noOffer]

/-- An input that reaches the client past the container. -/
theorem Shows.clientActed (shows : Shows receiver) {input : RTCClient.Input}
    (orderly : receiver.Orderly (.recipient (.client input)))
    (elsewhere : Recipient.elsewhere input = true)
    {client : RTCClient} {calls : List DelegateCall}
    (acted : receiver.client.act input = some (client, calls)) :
    Shows ⟨{ receiver.recipient with client := client }.handleAll calls,
      calls.foldl HXReceiveViewController.handle receiver.page⟩ := by
  cases pageEffect_of_act elsewhere acted with
  | grown fresh queue noOffer sorted taken same =>
      refine shows.grown queue noOffer sorted ?_ same
      intro block member isProgress
      obtain ⟨receiving, data, tag, outcome, rfl⟩ := taken block member isProgress
      exact ⟨receiving, orderly receiving⟩
  | offered name size chunk tag outcome isOffer notSending notReceiving queue newName stillIdle =>
      subst isOffer
      rcases orderly with sending | receiving | ⟨unnamed, closed, noCleanup⟩
      · rw [notSending] at sending
        contradiction
      · rw [notReceiving] at receiving
        contradiction
      · exact shows.offered unnamed closed noCleanup notReceiving queue newName stillIdle
  | ran block rest fresh call queue notCleanup notOffer nextQueue cleanups unheard unseen same =>
      have kept := shows.ran queue notCleanup notOffer nextQueue cleanups same
      simp only [Recipient.handleAll, List.foldl_cons, List.foldl_nil, unheard]
      rcases unseen with unseen | ⟨isProgress, shown⟩
      · rw [unseen]
        exact kept
      · have receiving := shows.progress block (by rw [queue]; exact List.mem_cons_self) isProgress
        rw [shown]
        exact { kept with
          panel := fun _ => .inl (by
            simp only [Receiver.client, same.handle]
            exact receiving) }
  | presented rest queue result =>
      subst result
      exact shows.presented queue
  | cleaned error request ended rest queue result =>
      subst result
      exact shows.cleaned ended queue

/-- The open panels change while no offer waits to be announced. -/
theorem Shows.withPanels (shows : Shows receiver)
    (noOffer : .fileReceiveOffered ∉ receiver.client.mainQueue) (panels : List Offer) :
    Shows ⟨{ receiver.recipient with panels := panels }, receiver.page⟩ :=
  { shows with offers := fun queued => absurd queued noOffer }

theorem Shows.onAccept (shows : Shows receiver)
    (enabled : receiver.recipient.saveAsEnabled = true) :
    Shows ⟨receiver.recipient.onAccept, receiver.page⟩ := by
  have noOffer : .fileReceiveOffered ∉ receiver.client.mainQueue := by
    intro queued
    have disabled := (shows.offers queued).2.2.2
    rw [shows.sameButton, enabled] at disabled
    contradiction
  unfold Recipient.onAccept
  split
  case h_1 => exact shows
  case h_2 =>
    split
    case isTrue => exact shows
    case isFalse => exact shows.withPanels noOffer _

/-- An offer is rejected by the button or by the save panel that is closed. -/
theorem Shows.rejected (shows : Shows receiver) (reason : String) :
    Shows ⟨{ receiver.recipient with
      client := receiver.client.rejectIncomingFileWithReason reason }, receiver.page⟩ := by
  rw [rejectIncomingFileWithReason_eq]
  exact shows.grown rfl (by simp) (List.pairwise_singleton _ _)
    (by simp [MainBlock.isReceiveProgress]) ⟨rfl, rfl, rfl⟩

theorem Shows.step (shows : Shows receiver)
    (invariant : Recipient.ShownInvariant receiver.recipient)
    (orderly : receiver.Orderly input)
    (stepped : receiver.step input = some (next, reports)) : Shows next := by
  cases input with
  | viewWillDisappear =>
      obtain ⟨rfl, -⟩ := Prod.mk.inj (Option.some.inj stepped)
      exact { shows with panel := fun visible => by contradiction }
  | recipient input =>
      simp only [Receiver.step, Option.map_eq_some_iff, Prod.mk.injEq, Prod.exists] at stepped
      obtain ⟨recipient, told, taken, rfl, -⟩ := stepped
      cases input with
      | client input =>
          simp only [Recipient.step] at taken
          split at taken
          case isFalse => contradiction
          case isTrue elsewhere =>
            simp only [Option.map_eq_some_iff, Prod.mk.injEq, Prod.exists] at taken
            obtain ⟨client, calls, acted, rfl, -⟩ := taken
            have acted' : receiver.client.act input = some (client, calls) := acted
            simp only [pageAfter, acted']
            exact shows.clientActed orderly elsewhere acted'
      | onAccept =>
          simp only [Recipient.step] at taken
          split at taken
          case isFalse => contradiction
          case isTrue enabled =>
            obtain ⟨rfl, -⟩ := Prod.mk.inj (Option.some.inj taken)
            exact shows.onAccept enabled
      | onReject =>
          obtain ⟨rfl, -⟩ := Prod.mk.inj (Option.some.inj taken)
          exact shows.rejected _
      | completePanel index destination =>
          simp only [Recipient.step, Option.map_eq_some_iff, Prod.mk.injEq] at taken
          obtain ⟨shown, isShown, rfl, -⟩ := taken
          cases destination with
          | none =>
              have closed := shows.withPanels (shows.noOffer_of_panel isShown)
                (receiver.recipient.panels.eraseIdx index)
              exact closed.rejected _
          | some destination => exact shows.confirmed invariant isShown orderly

theorem shown_of_step (invariant : Recipient.ShownInvariant receiver.recipient)
    (orderly : receiver.Orderly input)
    (stepped : receiver.step input = some (next, reports)) :
    Recipient.ShownInvariant next.recipient := by
  cases input with
  | viewWillDisappear =>
      obtain ⟨rfl, -⟩ := Prod.mk.inj (Option.some.inj stepped)
      exact invariant
  | recipient input =>
      simp only [Receiver.step, Option.map_eq_some_iff, Prod.mk.injEq, Prod.exists] at stepped
      obtain ⟨recipient, told, taken, rfl, -⟩ := stepped
      exact (invariant.step orderly.offerAlone taken).1

end Receiver

/-- **The receive page shows the reception.** Take any run of a client with its container
and its receive page, with an arbitrary peer, in which offers come alone, no chunk comes in
while a cleanup waits, and a save panel is confirmed while its offer, a reception or a
cleanup is there. At every boundary between blocks of the main queue: the two buttons are
enabled together, and only for an offer that can be answered, which the page names; such an
offer is answerable, or about to be announced or withdrawn; the page names the file that is
received; and the receiving panel covers the window only while a file is received or a
cleanup is about to take it away. -/
theorem receive_page_shows_reception {clientId : Nat} {helloName : String}
    {inputs : List Receiver.Input} {reports : List Recipient.Report} {receiver : Receiver}
    (run : ReceiverRun clientId helloName Receiver.Orderly inputs reports receiver) :
    receiver.page.rejectEnabled = receiver.page.saveAsEnabled ∧
      (receiver.page.saveAsEnabled = true →
        receiver.client.pendingOffer =
          some ⟨receiver.page.currentIncomingName, receiver.page.currentIncomingSize⟩) ∧
      (receiver.client.pendingOffer ≠ none →
        receiver.page.saveAsEnabled = true ∨
          .fileReceiveOffered ∈ receiver.client.mainQueue ∨
          receiver.client.cleanupWaits = true) ∧
      (receiver.client.recvHandle ≠ none →
        receiver.client.incomingFileName = some receiver.page.currentIncomingName ∧
          receiver.client.recvTotalBytes = receiver.page.currentIncomingSize) ∧
      (receiver.page.panelVisible = true →
        receiver.client.recvHandle ≠ none ∨ receiver.client.cleanupWaits = true) := by
  obtain ⟨shows, -⟩ : Receiver.Shows receiver ∧
      Recipient.ShownInvariant receiver.recipient := by
    refine run.state_invariant (fun receiver => Receiver.Shows receiver ∧
      Recipient.ShownInvariant receiver.recipient)
      ⟨.initial clientId helloName, .initial clientId helloName⟩ ?_
    rintro state input next fresh ⟨shows, invariant⟩ orderly stepped
    exact ⟨shows.step invariant orderly stepped,
      Receiver.shown_of_step invariant orderly stepped⟩
  refine ⟨shows.bothButtons, ?_, ?_, ?_, ?_⟩
  · intro enabled
    obtain ⟨notReceiving, isName, isSize⟩ := shows.buttons enabled
    simp [RTCClient.pendingOffer, notReceiving, isName, isSize]
  · intro isPending
    cases receiving : receiver.client.recvHandle with
    | some handle => simp [RTCClient.pendingOffer, receiving] at isPending
    | none =>
        cases named : receiver.client.incomingFileName with
        | none => simp [RTCClient.pendingOffer, named] at isPending
        | some name => exact shows.pending (by rw [named]; rfl) receiving
  · intro receiving
    exact shows.receiving (Option.isSome_iff_ne_none.mpr receiving)
  · intro visible
    exact (shows.panel visible).imp_left Option.isSome_iff_ne_none.mp

namespace Receiver

instance (receiver : Receiver) : (input : Input) → Decidable (receiver.Orderly input)
  | .recipient (.client (.receive ⟨.ftOffer _ _ _, _⟩ _)) =>
      inferInstanceAs (Decidable (_ ∨ _ ∨ (_ ∧ _ ∧ _)))
  | .recipient (.client (.receive ⟨.binary _, _⟩ _)) => inferInstanceAs (Decidable (_ → _))
  | .recipient (.completePanel _ (some _)) => inferInstanceAs (Decidable (_ ∨ _ ∨ _))
  | .recipient (.client (.receive ⟨.hello _ _ _, _⟩ _))
  | .recipient (.client (.receive ⟨.ftAccept, _⟩ _))
  | .recipient (.client (.receive ⟨.ftReject _, _⟩ _))
  | .recipient (.client (.receive ⟨.ftCancel, _⟩ _))
  | .recipient (.client (.receive ⟨.ftDone, _⟩ _)) | .recipient (.client (.sendFileAtURL _))
  | .recipient (.client .cancelFileTransfer)
  | .recipient (.client (.acceptIncomingFileToURL _))
  | .recipient (.client (.rejectIncomingFileWithReason _)) | .recipient (.client .transmit)
  | .recipient (.client .runMain) | .recipient (.client (.runFile _))
  | .recipient (.client (.iceConnectionState _)) | .recipient (.client (.dataChannelState _))
  | .recipient .onAccept | .recipient .onReject | .recipient (.completePanel _ none)
  | .viewWillDisappear => .isTrue trivial

/-- An offer is shown, saved, and its first bytes come in. -/
def receivedInputs : List Input :=
  Recipient.saved.map .recipient ++
    [.recipient (.client (.receive ⟨.binary [1], none⟩ .written)),
      .recipient (.client .runMain)]

end Receiver

theorem receive_page_shows_reception_received :
    ∃ reports receiver,
      ReceiverRun 0 "mac#001" Receiver.Orderly Receiver.receivedInputs reports receiver ∧
        receiver.page = ⟨"notes.txt", 3, false, false, true⟩ ∧
        (receiver.client.recvHandle ≠ none ∨ receiver.client.cleanupWaits = true) := by
  obtain ⟨receiver, reports, run, checked⟩ :
      ∃ receiver reports,
        ReceiverRun 0 "mac#001" Receiver.Orderly Receiver.receivedInputs reports receiver ∧
          decide (receiver.page = ⟨"notes.txt", 3, false, false, true⟩) = true :=
    Machine.run_of_exec_any (fun (receiver : Receiver) (_ : List Recipient.Report) =>
      decide (receiver.page = ⟨"notes.txt", 3, false, false, true⟩)) (by decide)
  have page := of_decide_eq_true checked
  obtain ⟨-, -, -, -, panel⟩ := receive_page_shows_reception run
  exact ⟨reports, receiver, run, page, panel (by rw [page])⟩

end WebrtcFileSender
