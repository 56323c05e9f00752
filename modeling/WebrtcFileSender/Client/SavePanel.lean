import WebrtcFileSender.Client.Emission

/-!
Contract: the receive half of the container controller
(`HXAirDropStyleTransferViewController.m`, `HXReceiveViewController.m`), and the
offer that its save panel accepts.

The offer lives twice: the client's properties are written when `ft_offer`
arrives, the container's by a later block of the main queue. The save panel is
not modal, so messages, blocks and further taps come while it is open.

Owns: `onAccept:`, `onReject:`, the completion handler of the save panel, the two
delegate methods that write the container's copy of the offer, and the condition
under which a confirmed panel accepts the offer that was shown.

The send half is the environment: it may send and cancel at any time. Labels,
alerts and progress bars are left out.
-/

namespace WebrtcFileSender

/-- The name and size of an offer. -/
structure Offer where
  name : String
  size : Nat
deriving DecidableEq, Repr

/-- The offer that a client has been made and has not accepted. -/
def RTCClient.pendingOffer (client : RTCClient) : Option Offer :=
  if client.recvHandle.isSome then none
  else client.incomingFileName.map fun name => ⟨name, client.recvTotalBytes⟩

/-- A client with the receive half of its container. -/
structure Recipient where
  client : RTCClient
  incomingName : Option String
  incomingSize : Nat
  /-- `saveAsButton.enabled`. -/
  saveAsEnabled : Bool
  /-- The save panels that are open, each with the offer that was presented when
  it was opened. -/
  panels : List Offer

namespace Recipient

def initial (clientId : Nat) (helloName : String) : Recipient where
  client := .initial clientId helloName
  incomingName := none
  incomingSize := 0
  saveAsEnabled := false
  panels := []

/-! ## Calls of the client -/

/-- `rtcClient:fileReceiveOfferedWithName:size:`. -/
def fileReceiveOffered (recipient : Recipient) (name : Option String) (size : Nat) :
    Recipient :=
  { recipient with incomingName := name, incomingSize := size, saveAsEnabled := true }

/-- `rtcClient:fileTransferDidFinishWithError:`; every branch resets the receive
page. -/
def fileTransferDidFinish (recipient : Recipient) : Recipient :=
  { recipient with incomingName := none, incomingSize := 0, saveAsEnabled := false }

def handle (recipient : Recipient) : DelegateCall → Recipient
  | .fileReceiveOffered name size => recipient.fileReceiveOffered name size
  | .fileTransferDidFinish _ _ _ => recipient.fileTransferDidFinish
  | .dataChannelStateDidChange _ | .didReceivePeerName _ _ _ | .didUpdateOnlinePeers _
  | .fileReceiveProgress _ _ _ | .fileSendProgress _ _ _ => recipient

def handleAll (recipient : Recipient) (calls : List DelegateCall) : Recipient :=
  calls.foldl handle recipient

/-! ## Actions of the user -/

/-- `onAccept:`: a save panel opens when an offer of nonzero size is shown. -/
def onAccept (recipient : Recipient) : Recipient :=
  match recipient.incomingName with
  | none => recipient
  | some name =>
      if recipient.incomingSize = 0 then recipient
      else { recipient with panels := recipient.panels ++ [⟨name, recipient.incomingSize⟩] }

def onReject (recipient : Recipient) : Recipient :=
  { recipient with client := recipient.client.rejectIncomingFileWithReason "User rejected" }

/-- The completion handler of a save panel; the destination is absent when the
panel was cancelled. -/
def panelCompleted (recipient : Recipient) : Option Destination → Recipient
  | none =>
      { recipient with
        client := recipient.client.rejectIncomingFileWithReason "User cancelled save dialog" }
  | some destination =>
      { recipient with
        client := recipient.client.acceptIncomingFileToURL destination
        saveAsEnabled := false }

/-! ## The recipient as a machine -/

inductive Input where
  | client (input : RTCClient.Input)
  | onAccept
  | onReject
  | completePanel (index : Nat) (destination : Option Destination)

/-- The inputs of a client that do not come from the receive half. -/
def elsewhere : RTCClient.Input → Bool
  | .acceptIncomingFileToURL _ | .rejectIncomingFileWithReason _ => false
  | .sendFileAtURL _ | .cancelFileTransfer | .receive _ _ | .transmit | .runMain
  | .runFile _ | .iceConnectionState _ | .dataChannelState _ => true

/-- `accepted`: a panel that was opened for `shown` is confirmed and `ft_accept`
is sent while `pending` is the offer of the client. `offered`: an `ft_offer` has
arrived, with the pending offer before and after. -/
inductive Report where
  | accepted (shown : Offer) (pending : Option Offer)
  | offered (before after : Option Offer)
deriving DecidableEq, Repr

def step (recipient : Recipient) : Input → Option (Recipient × List Report)
  | .client input =>
      if elsewhere input then
        (recipient.client.act input).map fun (next, calls) =>
          ({ recipient with client := next }.handleAll calls,
            match input with
            | .receive ⟨.ftOffer _ _ _, _⟩ _ =>
                [.offered recipient.client.pendingOffer next.pendingOffer]
            | _ => [])
      else none
  | .onAccept => if recipient.saveAsEnabled then some (recipient.onAccept, []) else none
  -- The cancel button of the receiving overlay calls it too.
  | .onReject => some (recipient.onReject, [])
  | .completePanel index destination =>
      recipient.panels[index]?.map fun shown =>
        ({ recipient with panels := recipient.panels.eraseIdx index }.panelCompleted
            destination,
          match destination with
          | some ⟨_, none⟩ =>
              if recipient.client.canAccept && recipient.client.isDataChannelOpen then
                [.accepted shown recipient.client.pendingOffer]
              else []
          | _ => [])

/-- What is accepted is what was shown, and an offer that arrives while one is
pending leaves it as it is. -/
def Report.AsShown : Report → Prop
  | .accepted shown pending => pending = some shown
  | .offered before after => ∀ offer, before = some offer → after = some offer

/-- An offer that takes effect is the only one: none is pending and no save panel
is open, unless for the same name and size. -/
def OfferAlone (recipient : Recipient) : Input → Prop
  | .client (.receive ⟨.ftOffer name size _, _⟩ _) =>
      recipient.client.sendHandle.isSome = true ∨ recipient.client.recvHandle.isSome = true ∨
        ((∀ offer ∈ recipient.client.pendingOffer, offer = ⟨name, u64 size⟩) ∧
          ∀ shown ∈ recipient.panels, shown = ⟨name, u64 size⟩)
  | _ => True

end Recipient

/-- Runs of one client with the receive half of its container. -/
abbrev RecipientRun (clientId : Nat) (helloName : String)
    (guard : Recipient → Recipient.Input → Prop) :=
  Machine.Run Recipient.step guard (Recipient.initial clientId helloName)

/-! ## What a report of an accept stands for -/

namespace Recipient

variable {recipient next : Recipient} {input : Input} {reports : List Report}

theorem handleAll_client (recipient : Recipient) (calls : List DelegateCall) :
    (recipient.handleAll calls).client = recipient.client := by
  induction calls generalizing recipient with
  | nil => rfl
  | cons call rest inductionHypothesis =>
      have same : (recipient.handle call).client = recipient.client := by
        cases call <;> rfl
      rw [← same]
      exact inductionHypothesis (recipient.handle call)

/-- An input of the client that hands over an `ft_accept` is the user's accept of a
pending offer at a destination that opens. -/
theorem accepts_of_ftAccept {client following : RTCClient} {given : RTCClient.Input}
    {calls : List DelegateCall} {transfer : Option TransferId}
    (effect : RTCClient.Effect client given following calls)
    (handed : ⟨.ftAccept, transfer⟩ ∈ following.outgoing.drop client.outgoing.length) :
    ∃ path, given = .acceptIncomingFileToURL ⟨path, none⟩ ∧ client.canAccept = true := by
  have sent : .sent ⟨.ftAccept, transfer⟩ ∈ client.observe following calls :=
    List.mem_append_left _ (List.mem_map_of_mem handed)
  cases RTCClient.emits_of_sent effect sent with
  | accept destination accepts opens =>
      obtain ⟨path, openError⟩ := destination
      obtain rfl : openError = none := opens
      exact ⟨path, rfl, accepts⟩

/-- A rejection hands over no `ft_accept`. -/
theorem not_ftAccept_of_reject (client : RTCClient) (reason : String) :
    ¬ ∃ transfer, ⟨.ftAccept, transfer⟩ ∈
      (client.rejectIncomingFileWithReason reason).outgoing.drop client.outgoing.length := by
  rintro ⟨transfer, handed⟩
  have effect : RTCClient.Effect client (.rejectIncomingFileWithReason reason)
      (client.rejectIncomingFileWithReason reason) [] :=
    RTCClient.effect_of_act rfl
  obtain ⟨path, same, -⟩ := accepts_of_ftAccept effect handed
  contradiction

/-- An accept hands over an `ft_accept` exactly where it goes past its guards, the
destination opens and the channel is open. -/
theorem ftAccept_of_accept_iff (client : RTCClient) (destination : Destination) :
    (∃ transfer, ⟨.ftAccept, transfer⟩ ∈
        (client.acceptIncomingFileToURL destination).outgoing.drop client.outgoing.length) ↔
      destination.openError = none ∧ client.canAccept = true ∧
        client.isDataChannelOpen = true := by
  rcases client.acceptIncomingFileToURL_cases destination with
    ⟨notPending, same⟩ | ⟨error, -, fails, -⟩ | ⟨accepts, opens, result⟩
  · rw [same]
    simp [notPending]
  · refine iff_of_false ?_ (by simp [fails])
    rintro ⟨transfer, handed⟩
    have effect : RTCClient.Effect client (.acceptIncomingFileToURL destination)
        (client.acceptIncomingFileToURL destination) [] :=
      RTCClient.effect_of_act rfl
    obtain ⟨path, same, -⟩ := accepts_of_ftAccept effect handed
    obtain rfl := RTCClient.Input.acceptIncomingFileToURL.inj same
    contradiction
  · rw [result]
    cases isOpen : client.isDataChannelOpen with
    | true => simp [opens, accepts, RTCClient.queued_of_isOpen isOpen]
    | false => simp [RTCClient.queued, isOpen]

/-- A confirmed panel is reported exactly where the client hands an `ft_accept` to the
channel. -/
theorem accepted_iff_ftAccept (stepped : recipient.step input = some (next, reports)) :
    (∃ shown pending, .accepted shown pending ∈ reports) ↔
      ∃ transfer,
        ⟨.ftAccept, transfer⟩ ∈ next.client.outgoing.drop recipient.client.outgoing.length := by
  cases input with
  | client given =>
      simp only [step] at stepped
      split at stepped
      case isFalse => contradiction
      case isTrue isElsewhere =>
        simp only [Option.map_eq_some_iff, Prod.exists, Prod.mk.injEq] at stepped
        obtain ⟨client, calls, acted, rfl, rfl⟩ := stepped
        refine iff_of_false ?_ ?_
        · rintro ⟨shown, pending, member⟩
          split at member
          · simp at member
          · contradiction
        · rintro ⟨transfer, handed⟩
          rw [handleAll_client] at handed
          obtain ⟨path, rfl, -⟩ := accepts_of_ftAccept (RTCClient.effect_of_act acted) handed
          contradiction
  | onAccept =>
      simp only [step] at stepped
      split at stepped
      case isFalse => contradiction
      case isTrue =>
        obtain ⟨rfl, rfl⟩ := Prod.mk.inj (Option.some.inj stepped)
        have same : recipient.onAccept.client = recipient.client := by
          unfold onAccept
          split
          · rfl
          · split <;> rfl
        simp [same]
  | onReject =>
      obtain ⟨rfl, rfl⟩ := Prod.mk.inj (Option.some.inj stepped)
      exact iff_of_false (by simp)
        (not_ftAccept_of_reject recipient.client "User rejected")
  | completePanel index destination =>
      simp only [step, Option.map_eq_some_iff, Prod.mk.injEq] at stepped
      obtain ⟨shown, -, rfl, rfl⟩ := stepped
      cases destination with
      | none =>
          exact iff_of_false (by simp)
            (not_ftAccept_of_reject recipient.client "User cancelled save dialog")
      | some destination =>
          refine Iff.trans ?_ (ftAccept_of_accept_iff recipient.client destination).symm
          obtain ⟨path, openError⟩ := destination
          cases openError with
          | none => simp
          | some error => simp

end Recipient

/-! ## What one input does to the pending offer -/

namespace RTCClient

/-- What an input of a client does to the offer, with what the container hears of
it. -/
inductive OfferEffect (client : RTCClient) (input : Input) (next : RTCClient) :
    List DelegateCall → Prop
  | kept (calls : List DelegateCall)
      (sameName : next.incomingFileName = client.incomingFileName)
      (sameSize : next.recvTotalBytes = client.recvTotalBytes)
      (heard : ∀ call ∈ calls,
        call = .fileReceiveOffered client.incomingFileName client.recvTotalBytes ∨
          ∀ recipient : Recipient, recipient.handle call = recipient) :
      OfferEffect client input next calls
  | offered (name : String) (size chunk : Nat) (transfer : Option TransferId)
      (outcome : WriteOutcome)
      (isOffer : input = .receive ⟨.ftOffer name size chunk, transfer⟩ outcome)
      (notSending : client.sendHandle = none) (notReceiving : client.recvHandle = none)
      (newName : next.incomingFileName = some name)
      (newSize : next.recvTotalBytes = u64 size)
      (stillIdle : next.recvHandle = none) :
      OfferEffect client input next []
  | cleaned (error : Option NSError) (request : CleanupRequest) (ended : Option TransferId)
      (noName : next.incomingFileName = none) :
      OfferEffect client input next [.fileTransferDidFinish error request ended]

theorem offerEffect_of_runMain {client next : RTCClient} {calls : List DelegateCall}
    (acted : client.act .runMain = some (next, calls)) :
    OfferEffect client .runMain next calls := by
  simp only [act] at acted
  split at acted
  case h_1 => contradiction
  case h_2 block rest queue =>
    have result := Option.some.inj acted
    cases block with
    | cleanup error request =>
        obtain ⟨rfl, rfl⟩ := Prod.mk.inj result
        exact .cleaned error request _ rfl
    | fileReceiveOffered =>
        obtain ⟨rfl, rfl⟩ := Prod.mk.inj result
        refine .kept _ rfl rfl ?_
        intro call called
        exact .inl (List.mem_singleton.mp called)
    | iceConnectionLost =>
        obtain ⟨rfl, rfl⟩ := Prod.mk.inj result
        refine .kept _ ?_ ?_ ?_
        · split <;> rfl
        · split <;> rfl
        · intro call called
          obtain rfl := List.mem_singleton.mp called
          exact .inr fun _ => rfl
    | dataChannelStateDidChange | didReceivePeerName | didUpdateOnlinePeers
    | fileReceiveProgress | fileSendProgress =>
        obtain ⟨rfl, rfl⟩ := Prod.mk.inj result
        refine .kept _ rfl rfl ?_
        intro call called
        obtain rfl := List.mem_singleton.mp called
        exact .inr fun _ => rfl

theorem offerEffect_of_act {client next : RTCClient} {input : Input}
    {calls : List DelegateCall}
    (acted : client.act input = some (next, calls)) :
    OfferEffect client input next calls := by
  by_cases isMain : input = .runMain
  · subst isMain
    exact offerEffect_of_runMain acted
  · cases effect_of_act acted with
    | began =>
        rw [beginSending_eq]
        exact .kept [] rfl rfl (by simp)
    | cancelled =>
        rw [cancelFileTransfer_eq]
        exact .kept [] rfl rfl (by simp)
    | rejected =>
        rw [rejectIncomingFileWithReason_eq]
        exact .kept [] rfl rfl (by simp)
    | looped given loop rest queue =>
        obtain ⟨handle, sent, packets, blocks, result, -⟩ :=
          client.loopStatement_change loop.transfer given loop.point
        rw [result]
        exact .kept [] rfl rfl (by simp)
    | channelChanged state =>
        rcases client.dataChannelDidChangeState_cases state with
          ⟨name, ip, role, -, result⟩ | ⟨-, result⟩
        all_goals
          rw [result]
          exact .kept [] rfl rfl (by simp)
    | offered name size chunk transfer outcome notSending notReceiving =>
        exact .offered name size chunk transfer outcome rfl notSending notReceiving rfl rfl
          notReceiving
    | accepted | unopened | greeted | busy | started | ended | writeFailed | stored
    | completed | transmitted | iceChanged | nothing =>
        exact .kept [] rfl rfl (by simp)
    | reported | iceLost | iceIdle | cleaned => exact absurd rfl isMain

end RTCClient

/-! ## Whole runs -/

namespace Recipient

variable {recipient next : Recipient} {input : Input} {reports : List Report}

/-- What the container shows is the offer of the client, and so is what an open
panel was opened for, as long as the client has an offer at all. -/
structure ShownInvariant (recipient : Recipient) : Prop where
  shown : ∀ name, recipient.incomingName = some name →
    recipient.client.incomingFileName = some name ∧
      recipient.client.recvTotalBytes = recipient.incomingSize
  panels : ∀ offer ∈ recipient.panels, ∀ name,
    recipient.client.incomingFileName = some name →
      offer = ⟨name, recipient.client.recvTotalBytes⟩

namespace ShownInvariant

theorem initial (clientId : Nat) (helloName : String) :
    ShownInvariant (.initial clientId helloName) where
  shown := by simp [Recipient.initial]
  panels := by simp [Recipient.initial]

/-- A client that keeps its offer. -/
theorem withClient (invariant : ShownInvariant recipient) {client : RTCClient}
    (sameName : client.incomingFileName = recipient.client.incomingFileName)
    (sameSize : client.recvTotalBytes = recipient.client.recvTotalBytes) :
    ShownInvariant { recipient with client := client } where
  shown := by
    intro name isShown
    rw [sameName, sameSize]
    exact invariant.shown name isShown
  panels := by
    intro offer isOpen name
    rw [sameName, sameSize]
    exact invariant.panels offer isOpen name

/-- The container hears of the offer that the client has. -/
theorem handleAll (invariant : ShownInvariant recipient) {calls : List DelegateCall}
    (heard : ∀ call ∈ calls,
      call = .fileReceiveOffered recipient.client.incomingFileName
          recipient.client.recvTotalBytes ∨
        ∀ recipient : Recipient, recipient.handle call = recipient) :
    ShownInvariant (recipient.handleAll calls) := by
  induction calls generalizing recipient with
  | nil => exact invariant
  | cons call rest inductionHypothesis =>
      have handled : ShownInvariant (recipient.handle call) ∧
          (recipient.handle call).client = recipient.client := by
        rcases heard call (by simp) with rfl | ignored
        · exact ⟨⟨fun name isShown => ⟨isShown, rfl⟩, invariant.panels⟩, rfl⟩
        · rw [ignored recipient]
          exact ⟨invariant, rfl⟩
      apply inductionHypothesis handled.1
      intro other later
      rw [handled.2]
      exact heard other (List.mem_cons_of_mem _ later)

theorem onAccept (invariant : ShownInvariant recipient) :
    ShownInvariant recipient.onAccept := by
  unfold Recipient.onAccept
  split
  case h_1 => exact invariant
  case h_2 name isShown =>
    split
    case isTrue => exact invariant
    case isFalse =>
      refine ⟨invariant.shown, ?_⟩
      intro offer isOpen current isName
      rcases List.mem_append.mp isOpen with old | new
      · exact invariant.panels offer old current isName
      · obtain rfl := List.mem_singleton.mp new
        obtain ⟨sameName, sameSize⟩ := invariant.shown name isShown
        have isName' : recipient.client.incomingFileName = some current := isName
        rw [sameName] at isName'
        obtain rfl := Option.some.inj isName'
        show (⟨name, recipient.incomingSize⟩ : Offer) = ⟨name, recipient.client.recvTotalBytes⟩
        rw [sameSize]

/-- The user answers: the client keeps its offer until the cleanup runs. -/
theorem panelCompleted (invariant : ShownInvariant recipient)
    (destination : Option Destination) :
    ShownInvariant (recipient.panelCompleted destination) := by
  cases destination with
  | none =>
      refine invariant.withClient ?_ ?_
      all_goals
        rw [RTCClient.rejectIncomingFileWithReason_eq]
  | some destination =>
      have kept : ShownInvariant
          { recipient with client := recipient.client.acceptIncomingFileToURL destination } := by
        rcases recipient.client.acceptIncomingFileToURL_cases destination with
          ⟨-, result⟩ | ⟨error, -, -, result⟩ | ⟨-, -, result⟩
        all_goals
          rw [result]
          exact invariant.withClient rfl rfl
      exact ⟨kept.shown, kept.panels⟩

/-- An input of the client keeps the invariant when the offer it brings is
alone. -/
theorem clientActed (invariant : ShownInvariant recipient) {input : RTCClient.Input}
    (alone : recipient.OfferAlone (.client input))
    {client : RTCClient} {calls : List DelegateCall}
    (acted : recipient.client.act input = some (client, calls)) :
    ShownInvariant ({ recipient with client := client }.handleAll calls) := by
  cases RTCClient.offerEffect_of_act acted with
  | kept _ sameName sameSize heard =>
      apply (invariant.withClient sameName sameSize).handleAll
      show ∀ call ∈ calls,
        call = .fileReceiveOffered client.incomingFileName client.recvTotalBytes ∨ _
      rw [sameName, sameSize]
      exact heard
  | cleaned error request ended noName =>
      refine ⟨?_, ?_⟩
      · intro name isShown
        contradiction
      · intro offer isOpen name isName
        have absent : client.incomingFileName = some name := isName
        rw [noName] at absent
        contradiction
  | offered name size chunk transfer outcome isOffer notSending notReceiving newName newSize =>
      subst isOffer
      simp only [OfferAlone, notSending, notReceiving, Option.isSome_none,
        Bool.false_eq_true, false_or, RTCClient.pendingOffer, if_false] at alone
      obtain ⟨pendingSame, panelsSame⟩ := alone
      refine ⟨?_, ?_⟩
      · intro current isShown
        obtain ⟨sameName, sameSize⟩ := invariant.shown current isShown
        have same := pendingSame ⟨current, recipient.client.recvTotalBytes⟩
          (by simp [sameName])
        obtain ⟨rfl, total⟩ := Offer.mk.inj same
        show client.incomingFileName = some current ∧
          client.recvTotalBytes = recipient.incomingSize
        exact ⟨newName, newSize.trans (total.symm.trans sameSize)⟩
      · intro offer isOpen current isName
        have isCurrent : client.incomingFileName = some current := isName
        rw [newName] at isCurrent
        obtain rfl := Option.some.inj isCurrent
        show offer = ⟨name, client.recvTotalBytes⟩
        rw [newSize]
        exact panelsSame offer isOpen

/-- An offer that is alone leaves the pending one as it is. -/
theorem offered_asShown {name : String} {size chunk : Nat} {transfer : Option TransferId}
    {outcome : RTCClient.WriteOutcome}
    (alone : recipient.OfferAlone
      (.client (.receive ⟨.ftOffer name size chunk, transfer⟩ outcome))) :
    ∀ offer, recipient.client.pendingOffer = some offer →
      (recipient.client.receiveOffer name size transfer).pendingOffer = some offer := by
  intro offer isPending
  rcases recipient.client.receiveOffer_cases name size transfer with
    ⟨-, result⟩ | ⟨notSending, notReceiving, result⟩
  · rw [result]
    exact isPending
  · simp only [OfferAlone, notSending, notReceiving, Option.isSome_none,
      Bool.false_eq_true, false_or] at alone
    have same := alone.1 offer isPending
    rw [result, same]
    simp [RTCClient.pendingOffer, notReceiving]

/-- A panel that is confirmed while the client can accept is for its offer. -/
theorem accepted_asShown (invariant : ShownInvariant recipient) {shown : Offer}
    (isOpen : shown ∈ recipient.panels) (accepts : recipient.client.canAccept = true) :
    recipient.client.pendingOffer = some shown := by
  simp only [RTCClient.canAccept, Bool.and_eq_true, Option.isSome_iff_exists,
    Option.isNone_iff_eq_none] at accepts
  obtain ⟨⟨⟨name, isName⟩, -⟩, notReceiving⟩ := accepts
  rw [invariant.panels shown isOpen name isName]
  simp [RTCClient.pendingOffer, notReceiving, isName]

theorem step (invariant : ShownInvariant recipient)
    (alone : recipient.OfferAlone input)
    (stepped : recipient.step input = some (next, reports)) :
    ShownInvariant next ∧ ∀ report ∈ reports, report.AsShown := by
  cases input with
  | client input =>
      simp only [Recipient.step] at stepped
      split at stepped
      case isFalse => contradiction
      case isTrue =>
        simp only [Option.map_eq_some_iff, Prod.exists, Prod.mk.injEq] at stepped
        obtain ⟨client, calls, acted, rfl, rfl⟩ := stepped
        refine ⟨invariant.clientActed alone acted, ?_⟩
        intro report reported
        split at reported
        case h_1 =>
          obtain rfl := List.mem_singleton.mp reported
          simp only [RTCClient.act, RTCClient.didReceiveMessage, Option.some.injEq,
            Prod.mk.injEq] at acted
          obtain ⟨rfl, -⟩ := acted
          exact offered_asShown alone
        case h_2 => contradiction
  | onAccept =>
      simp only [Recipient.step] at stepped
      split at stepped
      case isFalse => contradiction
      case isTrue =>
        simp only [Option.some.injEq, Prod.mk.injEq] at stepped
        obtain ⟨rfl, rfl⟩ := stepped
        exact ⟨invariant.onAccept, by simp⟩
  | onReject =>
      simp only [Recipient.step, Option.some.injEq, Prod.mk.injEq] at stepped
      obtain ⟨rfl, rfl⟩ := stepped
      refine ⟨?_, by simp⟩
      refine invariant.withClient ?_ ?_
      all_goals
        rw [RTCClient.rejectIncomingFileWithReason_eq]
  | completePanel index destination =>
      simp only [Recipient.step, Option.map_eq_some_iff, Prod.mk.injEq] at stepped
      obtain ⟨shown, isShown, rfl, rfl⟩ := stepped
      have closed : ShownInvariant
          { recipient with panels := recipient.panels.eraseIdx index } :=
        ⟨invariant.shown, fun offer isOpen =>
          invariant.panels offer (List.mem_of_mem_eraseIdx isOpen)⟩
      refine ⟨closed.panelCompleted destination, ?_⟩
      intro report reported
      split at reported
      case h_2 => contradiction
      case h_1 =>
        split at reported
        case isFalse => contradiction
        case isTrue sends =>
          obtain rfl := List.mem_singleton.mp reported
          simp only [Bool.and_eq_true] at sends
          exact invariant.accepted_asShown (List.mem_of_getElem? isShown) sends.1

end ShownInvariant

end Recipient

/-- **The user accepts the offer that was shown, when offers come alone.** Take
any run of a client and its container with an arbitrary peer in which every
`ft_offer` that takes effect finds no pending offer and no open save panel, unless
for the same name and size. Whenever a save panel is confirmed and `ft_accept` is
sent, the offer of the client is the one presented when the panel was opened, and
an `ft_offer` that arrives while an offer is pending changes neither its name nor
its size. -/
theorem accepted_offer_was_shown
    {clientId : Nat} {helloName : String} {inputs : List Recipient.Input}
    {reports : List Recipient.Report} {final : Recipient}
    (run : RecipientRun clientId helloName Recipient.OfferAlone inputs reports final) :
    ∀ report ∈ reports, report.AsShown := by
  have holds := run.invariant
    (fun reports recipient => Recipient.ShownInvariant recipient ∧
      ∀ report ∈ reports, report.AsShown)
    ⟨.initial clientId helloName, by simp⟩
    (by
      intro history recipient input next fresh before alone stepped
      obtain ⟨invariant, earlier⟩ := before
      obtain ⟨after, now⟩ := invariant.step alone stepped
      refine ⟨after, ?_⟩
      intro report member
      rcases List.mem_append.mp member with old | new
      · exact earlier report old
      · exact now report new)
  exact holds.2

/-! ## Two runs -/

namespace Recipient

instance (recipient : Recipient) : (input : Input) → Decidable (recipient.OfferAlone input)
  | .client (.receive ⟨.ftOffer name size _, _⟩ _) =>
      inferInstanceAs (Decidable (_ ∨ _ ∨
        (∀ offer ∈ recipient.client.pendingOffer, offer = ⟨name, u64 size⟩) ∧
          ∀ shown ∈ recipient.panels, shown = ⟨name, u64 size⟩))
  | .client (.receive ⟨.hello _ _ _, _⟩ _) | .client (.receive ⟨.ftAccept, _⟩ _)
  | .client (.receive ⟨.ftReject _, _⟩ _) | .client (.receive ⟨.ftCancel, _⟩ _)
  | .client (.receive ⟨.ftDone, _⟩ _) | .client (.receive ⟨.binary _, _⟩ _)
  | .client (.sendFileAtURL _) | .client .cancelFileTransfer
  | .client (.acceptIncomingFileToURL _) | .client (.rejectIncomingFileWithReason _)
  | .client .transmit | .client .runMain | .client (.runFile _)
  | .client (.iceConnectionState _) | .client (.dataChannelState _) | .onAccept | .onReject
  | .completePanel _ _ => .isTrue trivial

/-- The channel opens and an offer of three bytes is shown. -/
def presented : List Input :=
  [.client (.dataChannelState .Open), .client .runMain,
    .client (.receive ⟨.ftOffer "notes.txt" 3 16384, none⟩ .written), .client .runMain]

/-- The user saves it, and the peer asks again in vain. -/
def saved : List Input :=
  presented ++ [.onAccept, .completePanel 0 (some ⟨"/tmp/notes.txt", none⟩),
    .client (.receive ⟨.ftOffer "other.txt" 9 16384, none⟩ .written)]

theorem accepted_offer_was_shown_saved :
    ∃ reports final, RecipientRun 0 "mac#001" OfferAlone saved reports final ∧
      .accepted ⟨"notes.txt", 3⟩ (some ⟨"notes.txt", 3⟩) ∈ reports ∧
      ∀ report ∈ reports, report.AsShown := by
  obtain ⟨final, reports, run, checked⟩ :
      ∃ final reports, RecipientRun 0 "mac#001" OfferAlone saved reports final ∧
        decide (.accepted ⟨"notes.txt", 3⟩ (some ⟨"notes.txt", 3⟩) ∈ reports) = true :=
    Machine.run_of_exec_any (fun (_ : Recipient) (reports : List Report) =>
      decide (.accepted ⟨"notes.txt", 3⟩ (some ⟨"notes.txt", 3⟩) ∈ reports)) (by decide)
  exact ⟨reports, final, run, of_decide_eq_true checked, accepted_offer_was_shown run⟩

/-- A second offer arrives while the save panel of the first is open. -/
def replaced : List Input :=
  presented ++ [.onAccept,
    .client (.receive ⟨.ftOffer "other.bin" 9 16384, none⟩ .written),
    .completePanel 0 (some ⟨"/tmp/notes.txt", none⟩)]

/-- The user confirms the first offer, and the second is accepted. -/
theorem accepted_offer_was_not_shown :
    ∃ reports final, RecipientRun 0 "mac#001" Machine.free replaced reports final ∧
      ¬ ∀ report ∈ reports, report.AsShown := by
  obtain ⟨final, reports, run, checked⟩ :
      ∃ final reports, RecipientRun 0 "mac#001" Machine.free replaced reports final ∧
        decide (.accepted ⟨"notes.txt", 3⟩ (some ⟨"other.bin", 9⟩) ∈ reports) = true :=
    Machine.run_of_exec_any (fun (_ : Recipient) (reports : List Report) =>
      decide (.accepted ⟨"notes.txt", 3⟩ (some ⟨"other.bin", 9⟩) ∈ reports)) (by decide)
  refine ⟨reports, final, run, ?_⟩
  intro allShown
  have same : some (⟨"other.bin", 9⟩ : Offer) = some ⟨"notes.txt", 3⟩ :=
    allShown _ (of_decide_eq_true checked)
  revert same
  decide

end Recipient

end WebrtcFileSender
