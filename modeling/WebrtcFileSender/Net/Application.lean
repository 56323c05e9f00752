import WebrtcFileSender.Net.Candidates

/-!
Contract: one client with all of its container and the buttons of the send page
(`HXAirDropStyleTransferViewController.m`, `HXSendViewController.m`).

The transfer lives twice: `RTCClient` has the handle of the outgoing file and the
name of the offer, the send page has `isSending` and the container `incomingName`.

Owns: the copies of the page and the container, every place that writes them, the
projection to the send half of the container, and the law that the copies mirror
the client at every boundary between blocks of the main queue.

A save panel and the reject button reach the client as inputs of its transfer half,
at any time. Labels, alerts and progress bars are left out.
-/

namespace WebrtcFileSender.Net

open Signaling

structure Application where
  device : Device
  isSending : Bool
  /-- `sendButton.enabled` and `cancelButton.enabled`. -/
  sendEnabled : Bool
  cancelEnabled : Bool
  incomingName : Option String
  incomingSize : Nat

/-- `onSend:` finds a file to send and sends it. -/
def Device.sends (device : Device) : Bool :=
  device.sendableURL.any fun url => device.endpoint.client.sendSucceeds url

namespace Application

def initial (clientId : Nat) (helloName : String) : Application where
  device := .initial clientId helloName
  isSending := false
  sendEnabled := false
  cancelEnabled := false
  incomingName := none
  incomingSize := 0

def client (app : Application) : RTCClient :=
  app.device.endpoint.client

/-! ## The send page -/

def refreshEnabledState (app : Application) : Application :=
  { app with
    sendEnabled := app.device.sendableURL.isSome && !app.isSending
    cancelEnabled := app.isSending }

def setSendingInProgress (app : Application) (sending : Bool) : Application :=
  { app with isSending := sending }.refreshEnabledState

/-- A choice in an open panel, or the button that clears it. -/
def chooseFile (app : Application) (selection : Option Selection) : Application :=
  { app with device := { app.device with selectedFileURL := selection } }.refreshEnabledState

/-! ## The container -/

/-- `onSend:`. -/
def onSend (app : Application) : Application × List Json :=
  let sent := { app with device := app.device.onSend.1 }
  (if app.device.sends then sent.setSendingInProgress true else sent, app.device.onSend.2)

/-- `rtcClient:dataChannelStateDidChange:`; `updateConnectionState` refreshes the
buttons. -/
def dataChannelStateDidChange (app : Application) (state : RTCDataChannelState) :
    Application × List Json :=
  let app := app.refreshEnabledState
  if state = .Open ∧ app.device.pendingAutoSend = true then
    { app with device := app.device.clearPending }.onSend
  else (app, [])

/-- `rtcClient:fileTransferDidFinishWithError:`. -/
def fileTransferDidFinish (app : Application) : Application :=
  { app.setSendingInProgress false with incomingName := none, incomingSize := 0 }

/-- One call on the delegate. -/
def handle (app : Application) : DelegateCall → Application × List Json
  | .dataChannelStateDidChange state => app.dataChannelStateDidChange state
  | .didUpdateOnlinePeers peers =>
      ({ app with device := app.device.applyOnlinePeers peers }, [])
  | .fileReceiveOffered name size =>
      ({ app with incomingName := name, incomingSize := size }, [])
  | .fileTransferDidFinish _ _ _ => (app.fileTransferDidFinish, [])
  | .didReceivePeerName _ _ _ | .fileReceiveProgress _ _ _ | .fileSendProgress _ _ _ =>
      (app, [])

def handleAll (app : Application) : List DelegateCall → Application × List Json
  | [] => (app, [])
  | call :: rest =>
      let (app, signals) := app.handle call
      let (app, later) := app.handleAll rest
      (app, signals ++ later)

def withClient (app : Application) (client : RTCClient) : Application :=
  { app with device := app.device.withClient client }

/-- The main queue runs one block. -/
def runMain (app : Application) : Option (Application × List Json) :=
  (app.client.act .runMain).map fun (client, calls) =>
    (app.withClient client).handleAll calls

/-! ## The application as a machine -/

/-- One signal, or one input, with the signals that are sent. -/
def step (app : Application) : Stimulus → Option (Application × List Json)
  | .signal json author =>
      match app.device.endpoint.receiveSignalMessage true json author with
      | .ok endpoint => some ({ app with device := { app.device with endpoint := endpoint } }, [])
      | .error _ => none
  | .act (.chooseFile selection) => some (app.chooseFile selection, [])
  | .act .send => some app.onSend
  | .act .runMain => app.runMain
  | .act input =>
      (app.device.step input).map fun (device, signals) =>
        ({ app with device := device }, signals)

end Application

/-- Runs of one application after `start`. -/
abbrev ApplicationRun (clientId : Nat) (helloName : String)
    (guard : Application → Stimulus → Prop) :=
  Machine.Run Application.step guard (Application.initial clientId helloName)

namespace Application

variable {app next : Application} {stimulus : Stimulus} {signals : List Json}

/-! ## The send half of the container -/

theorem device_onSend (app : Application) :
    app.onSend.1.device = app.device.onSend.1 := by
  simp only [onSend]
  split <;> rfl

theorem device_handle (app : Application) (call : DelegateCall) :
    (app.handle call).1.device = (app.device.handle call).1 ∧
      (app.handle call).2 = (app.device.handle call).2 := by
  cases call with
  | dataChannelStateDidChange state =>
      have same : app.refreshEnabledState.device = app.device := rfl
      simp only [handle, dataChannelStateDidChange, Device.handle,
        Device.dataChannelStateDidChange, same]
      split
      case isTrue => exact ⟨device_onSend _, rfl⟩
      case isFalse => exact ⟨rfl, rfl⟩
  | didUpdateOnlinePeers | didReceivePeerName | fileReceiveOffered | fileReceiveProgress
  | fileSendProgress | fileTransferDidFinish => exact ⟨rfl, rfl⟩

theorem device_handleAll (app : Application) (calls : List DelegateCall) :
    (app.handleAll calls).1.device = (app.device.handleAll calls).1 ∧
      (app.handleAll calls).2 = (app.device.handleAll calls).2 := by
  induction calls generalizing app with
  | nil => exact ⟨rfl, rfl⟩
  | cons call rest inductionHypothesis =>
      obtain ⟨sameDevice, sameSignals⟩ := app.device_handle call
      obtain ⟨sameRest, sameLater⟩ := inductionHypothesis (app.handle call).1
      simp only [handleAll, Device.handleAll, ← sameDevice, ← sameSignals, sameRest, sameLater,
        and_self]

/-- The device of an application makes the steps of a device. -/
theorem device_of_step (stepped : app.step stimulus = some (next, signals)) :
    app.device.stimulated stimulus = some next.device := by
  cases stimulus with
  | signal json author =>
      simp only [step] at stepped
      split at stepped
      case h_1 endpoint read =>
        obtain ⟨rfl, -⟩ := Prod.mk.inj (Option.some.inj stepped)
        simp [Device.stimulated, read]
      case h_2 => contradiction
  | act input =>
      cases input with
      | chooseFile selection =>
          obtain ⟨rfl, -⟩ := Prod.mk.inj (Option.some.inj stepped)
          rfl
      | send =>
          have result : app.onSend.1 = next := congrArg Prod.fst (Option.some.inj stepped)
          rw [← result]
          simp [Device.stimulated, Device.step, device_onSend]
      | runMain =>
          simp only [step, runMain, Option.map_eq_some_iff, Prod.exists] at stepped
          obtain ⟨client, calls, acted, handled⟩ := stepped
          have result : ((app.withClient client).handleAll calls).1 = next :=
            congrArg Prod.fst handled
          have sameDevice := ((app.withClient client).device_handleAll calls).1
          rw [← result, sameDevice]
          have ran : app.device.endpoint.client.act .runMain = some (client, calls) := acted
          simp [Device.stimulated, Device.step, Device.runMain, ran, withClient,
            Device.withClient]
      | selectRow | refreshOnlinePeers | complete | generateIceCandidate | channelState
      | replacedChannelState | openDataChannel | transfer =>
          simp only [step, Option.map_eq_some_iff, Prod.exists, Prod.mk.injEq] at stepped
          obtain ⟨device, sent, deviceStepped, rfl, -⟩ := stepped
          simp [Device.stimulated, deviceStepped]

end Application

/-! ## What keeps the copies -/

/-- The client has an outgoing transfer as before, and an offer if it had one. -/
structure Keeps (before after : RTCClient) : Prop where
  sending : after.sendHandle.isSome = before.sendHandle.isSome
  offered : before.incomingFileName.isSome → after.incomingFileName.isSome

theorem Keeps.refl (client : RTCClient) : Keeps client client :=
  ⟨rfl, id⟩

/-- The transfer half begins and ends a transfer only in the two methods that the
container follows. -/
theorem keeps_of_effect {client next : RTCClient} {input : RTCClient.Input}
    {calls : List DelegateCall}
    (effect : RTCClient.Effect client input next calls)
    (notSent : ∀ fileURL, input ≠ .sendFileAtURL fileURL)
    (notMain : input ≠ .runMain) :
    Keeps client next := by
  cases effect with
  | began fileURL => exact absurd rfl (notSent fileURL)
  | reported | iceLost | iceIdle | cleaned => exact absurd rfl notMain
  | cancelled =>
      rw [RTCClient.cancelFileTransfer_eq]
      exact ⟨rfl, id⟩
  | rejected reason =>
      rw [RTCClient.rejectIncomingFileWithReason_eq]
      exact ⟨rfl, id⟩
  | looped given loop rest queue =>
      obtain ⟨handle, sent, packets, blocks, result, change⟩ :=
        client.loopStatement_change loop.transfer given loop.point
      rw [result]
      refine ⟨?_, id⟩
      have same := congrArg Option.isSome change.sameTransfer
      rwa [Option.isSome_map, Option.isSome_map] at same
  | channelChanged state =>
      obtain ⟨outgoing, result⟩ := client.dataChannelDidChangeState_eq state
      rw [result]
      exact ⟨rfl, id⟩
  | offered => exact ⟨rfl, fun _ => rfl⟩
  | accepted | unopened | greeted | busy | started | ended | writeFailed | stored | completed
  | transmitted | iceChanged | nothing => exact ⟨rfl, id⟩

theorem keeps_of_signal {endpoint following : Endpoint} {json : Json}
    {author : Option SocketId} {reads : RTCIceCandidate → Prop}
    (effect : SignalEffect endpoint json author reads following) :
    Keeps endpoint.client following.client := by
  cases effect with
  | peerJoined =>
      unfold Endpoint.receivePeerJoined
      dsimp only
      split <;> exact ⟨rfl, id⟩
  | candidate candidate =>
      unfold Endpoint.receiveCandidate
      split <;> exact ⟨rfl, id⟩
  | role | dispatched | offer | answer | ignored => exact ⟨rfl, id⟩

theorem keeps_of_complete {endpoint following : Endpoint} {index : Nat}
    {result : Option String} {signals : List Json}
    (completes : endpoint.complete index result = some (following, signals)) :
    Keeps endpoint.client following.client := by
  rcases (Endpoint.complete_spec completes).1 with same | described
  · rw [same]
    exact .refl _
  · rw [described]
    exact ⟨rfl, id⟩

/-- Every input but Send and a block of the main queue keeps the copies. -/
theorem keeps_of_step {device next : Device} {input : Input} {signals : List Json}
    (stepped : device.step input = some (next, signals))
    (notSend : input ≠ .send) (notMain : input ≠ .runMain) :
    Keeps device.endpoint.client next.endpoint.client := by
  cases input with
  | send => exact absurd rfl notSend
  | runMain => exact absurd rfl notMain
  | chooseFile | refreshOnlinePeers | generateIceCandidate =>
      simp only [Device.step, Option.some.injEq, Prod.mk.injEq] at stepped
      obtain ⟨rfl, -⟩ := stepped
      exact .refl _
  | selectRow row =>
      have result : (device.tableViewSelectionDidChange row).1 = next :=
        congrArg Prod.fst (Option.some.inj stepped)
      have same : (device.tableViewSelectionDidChange row).1.endpoint = device.endpoint := by
        unfold Device.tableViewSelectionDidChange
        dsimp only
        split
        · rfl
        · unfold Device.onSelectPeerIP
          split <;> rfl
      rw [← result, same]
      exact .refl _
  | complete index result =>
      simp only [Device.step, Option.map_eq_some_iff, Prod.exists, Prod.mk.injEq] at stepped
      obtain ⟨endpoint, sent, completes, rfl, -⟩ := stepped
      exact keeps_of_complete completes
  | channelState peer state =>
      simp only [Device.step] at stepped
      split at stepped
      case isFalse => contradiction
      case isTrue =>
        obtain ⟨rfl, -⟩ := Prod.mk.inj (Option.some.inj stepped)
        obtain ⟨outgoing, result⟩ := device.endpoint.client.dataChannelDidChangeState_eq state
        simp only [Endpoint.dataChannelDidChangeState, result]
        exact ⟨rfl, id⟩
  | replacedChannelState state =>
      obtain ⟨rfl, -⟩ := Prod.mk.inj (Option.some.inj stepped)
      simp only [Endpoint.replacedChannelDidChangeState]
      split
      · rw [RTCClient.sendHello, RTCClient.sendControlJSON_eq]
        exact ⟨rfl, id⟩
      · exact ⟨rfl, id⟩
  | openDataChannel peer state =>
      simp only [Device.step] at stepped
      split at stepped
      case isFalse => contradiction
      case isTrue =>
        obtain ⟨rfl, -⟩ := Prod.mk.inj (Option.some.inj stepped)
        unfold Endpoint.didOpenDataChannel
        split <;> exact ⟨rfl, id⟩
  | transfer given =>
      simp only [Device.step] at stepped
      split at stepped
      case isFalse => contradiction
      case isTrue isTransfer =>
        simp only [Option.map_eq_some_iff, Prod.exists, Prod.mk.injEq] at stepped
        obtain ⟨client, calls, acted, rfl, -⟩ := stepped
        apply keeps_of_effect (RTCClient.effect_of_act acted)
        · rintro fileURL rfl
          simp [transfers] at isTransfer
        · rintro rfl
          simp [transfers] at isTransfer

/-! ## The mirror -/

/-- What the page and the container hold of the transfer is what the client holds. -/
structure Mirrors (app : Application) : Prop where
  sending : app.isSending = app.client.sendHandle.isSome
  cancel : app.cancelEnabled = app.isSending
  offered : app.incomingName.isSome → app.client.incomingFileName.isSome

namespace Mirrors

variable {app next : Application} {stimulus : Stimulus} {signals : List Json}

theorem initial (clientId : Nat) (helloName : String) :
    Mirrors (.initial clientId helloName) :=
  ⟨rfl, rfl, fun offered => by simp [Application.initial] at offered⟩

/-- The copies stay while the client keeps what they mirror. -/
theorem of_keeps (mirrors : Mirrors app) (device : Device)
    (keeps : Keeps app.client device.endpoint.client) :
    Mirrors { app with device := device } :=
  ⟨mirrors.sending.trans keeps.sending.symm, mirrors.cancel,
    fun offered => keeps.offered (mirrors.offered offered)⟩

theorem refreshEnabledState (mirrors : Mirrors app) : Mirrors app.refreshEnabledState :=
  ⟨mirrors.sending, rfl, mirrors.offered⟩

theorem chooseFile (mirrors : Mirrors app) (selection : Option Selection) :
    Mirrors (app.chooseFile selection) :=
  ⟨mirrors.sending, rfl, mirrors.offered⟩

/-- Exactly the call of `onSend:` that opens the outgoing file sets `isSending`. -/
theorem onSend (mirrors : Mirrors app) : Mirrors app.onSend.1 := by
  cases sends : app.device.sends with
  | true =>
      have opens : app.device.onSend.1.endpoint.client.sendHandle.isSome = true ∧
          app.device.onSend.1.endpoint.client.incomingFileName =
            app.client.incomingFileName := by
        simp only [Device.sends, Option.any_eq_true, RTCClient.sendSucceeds] at sends
        obtain ⟨url, sendable, sends⟩ := sends
        split at sends
        case h_2 => contradiction
        case h_1 client sent =>
          obtain ⟨file, isOpen, -, -, -, -, rfl⟩ := RTCClient.sendFileAtURL_ok sent
          have isOpen : app.device.isDataChannelOpen = true := isOpen
          simp only [Device.onSend, sendable, isOpen, if_true, sent]
          rw [RTCClient.beginSending_eq]
          exact ⟨rfl, rfl⟩
      simp only [Application.onSend, sends, if_true]
      refine ⟨opens.1.symm, rfl, ?_⟩
      intro offered
      have wasOffered := mirrors.offered offered
      rwa [← opens.2] at wasOffered
  | false =>
      have keeps : Keeps app.client app.device.onSend.1.endpoint.client := by
        unfold Device.onSend
        split
        case h_1 => exact .refl _
        case h_2 url sendable =>
          have fails : app.client.sendSucceeds url = false := by
            simpa [Device.sends, sendable, Application.client] using sends
          split
          case isTrue =>
            split
            case h_1 => exact .refl _
            case h_2 client sent =>
              have sent : app.client.sendFileAtURL url = .ok client := sent
              simp [RTCClient.sendSucceeds, sent] at fails
          case isFalse => split <;> exact .refl _
      simp only [Application.onSend, sends, Bool.false_eq_true, if_false]
      exact mirrors.of_keeps _ keeps

theorem dataChannelStateDidChange (mirrors : Mirrors app) (state : RTCDataChannelState) :
    Mirrors (app.dataChannelStateDidChange state).1 := by
  unfold Application.dataChannelStateDidChange
  dsimp only
  split
  · apply onSend
    exact mirrors.refreshEnabledState.of_keeps _ (.refl _)
  · exact mirrors.refreshEnabledState

/-- A block that does not clean up leaves the client's transfer. -/
theorem keeps_of_block (client : RTCClient) (block : MainBlock)
    (notCleanup : ∀ error request, block ≠ .cleanup error request) :
    Keeps client (client.runBlock block).1 := by
  cases block with
  | cleanup error request => exact absurd rfl (notCleanup error request)
  | iceConnectionLost =>
      simp only [RTCClient.runBlock]
      split <;> exact ⟨rfl, id⟩
  | dataChannelStateDidChange | didReceivePeerName | didUpdateOnlinePeers
  | fileReceiveOffered | fileReceiveProgress | fileSendProgress => exact ⟨rfl, id⟩

/-- A block of the main queue clears both copies with the client's, or sets one
from the client's. -/
theorem runMain (mirrors : Mirrors app) (ran : app.runMain = some (next, signals)) :
    Mirrors next := by
  simp only [Application.runMain, RTCClient.act, Option.map_eq_some_iff, Prod.exists] at ran
  obtain ⟨client, calls, acted, handled⟩ := ran
  split at acted
  case h_1 => contradiction
  case h_2 block rest queue =>
    have result := Option.some.inj acted
    have kept (notCleanup : ∀ error request, block ≠ .cleanup error request) :
        Mirrors (app.withClient client) := by
      have keeps := keeps_of_block { app.client with mainQueue := rest } block notCleanup
      rw [result] at keeps
      exact mirrors.of_keeps (app.device.withClient client) ⟨keeps.sending, keeps.offered⟩
    cases block with
    | cleanup error request =>
        obtain ⟨rfl, rfl⟩ := Prod.mk.inj result
        obtain ⟨rfl, -⟩ := Prod.mk.inj handled
        exact ⟨rfl, rfl, fun offered => by simp [Application.fileTransferDidFinish] at offered⟩
    | dataChannelStateDidChange state =>
        obtain rfl := (Prod.mk.inj result).2
        obtain ⟨rfl, -⟩ := Prod.mk.inj handled
        exact (kept (by rintro _ _ ⟨⟩)).dataChannelStateDidChange state
    | iceConnectionLost =>
        obtain rfl := (Prod.mk.inj result).2
        obtain ⟨rfl, -⟩ := Prod.mk.inj handled
        exact (kept (by rintro _ _ ⟨⟩)).refreshEnabledState
    | fileReceiveOffered =>
        obtain ⟨rfl, rfl⟩ := Prod.mk.inj result
        obtain ⟨rfl, -⟩ := Prod.mk.inj handled
        exact ⟨mirrors.sending, mirrors.cancel, id⟩
    | didReceivePeerName | didUpdateOnlinePeers | fileReceiveProgress | fileSendProgress =>
        have mirrored := kept (by rintro _ _ ⟨⟩)
        obtain rfl := (Prod.mk.inj result).2
        obtain ⟨rfl, -⟩ := Prod.mk.inj handled
        exact ⟨mirrored.sending, mirrored.cancel, mirrored.offered⟩

theorem step (mirrors : Mirrors app) (stepped : app.step stimulus = some (next, signals)) :
    Mirrors next := by
  cases stimulus with
  | signal json author =>
      simp only [Application.step] at stepped
      split at stepped
      case h_2 => contradiction
      case h_1 endpoint read =>
        obtain ⟨rfl, -⟩ := Prod.mk.inj (Option.some.inj stepped)
        exact mirrors.of_keeps _ (keeps_of_signal (Endpoint.signalEffect_of_read read))
  | act input =>
      cases input with
      | chooseFile selection =>
          obtain ⟨rfl, -⟩ := Prod.mk.inj (Option.some.inj stepped)
          exact mirrors.chooseFile selection
      | send =>
          have kept := mirrors.onSend
          rwa [show app.onSend = (next, signals) from Option.some.inj stepped] at kept
      | runMain => exact mirrors.runMain stepped
      | selectRow | refreshOnlinePeers | complete | generateIceCandidate | channelState
      | replacedChannelState | openDataChannel | transfer =>
          simp only [Application.step, Option.map_eq_some_iff, Prod.exists,
            Prod.mk.injEq] at stepped
          obtain ⟨device, sent, deviceStepped, rfl, -⟩ := stepped
          apply mirrors.of_keeps
          exact keeps_of_step deviceStepped (by rintro ⟨⟩) (by rintro ⟨⟩)

end Mirrors

/-- **The page mirrors the transfer.** In every run of a client, whatever the user does
and however signals, channel callbacks, loop statements and blocks of the main queue are
interleaved: `isSending` and the Cancel button are set exactly while there is an outgoing
transfer, and the container has a name only while the client has an offer. -/
theorem page_mirrors_transfer
    {clientId : Nat} {helloName : String}
    {stimuli : List Stimulus} {signals : List Json} {app : Application}
    (run : ApplicationRun clientId helloName Machine.free stimuli signals app) :
    (app.isSending = true ↔ app.client.sendHandle ≠ none) ∧
      (app.cancelEnabled = true ↔ app.client.sendHandle ≠ none) ∧
      (app.incomingName ≠ none → app.client.incomingFileName ≠ none) := by
  have mirrors : Mirrors app :=
    run.state_invariant Mirrors (.initial clientId helloName)
      fun mirrors _ stepped => mirrors.step stepped
  have sending : app.isSending = true ↔ app.client.sendHandle ≠ none := by
    rw [mirrors.sending, Option.isSome_iff_ne_none]
  refine ⟨sending, ?_, ?_⟩
  · rw [mirrors.cancel]
    exact sending
  · intro named
    have offered := mirrors.offered (Option.isSome_iff_ne_none.mpr named)
    exact Option.isSome_iff_ne_none.mp offered

/-- A choice of a device waits for the channel, whose opening sends the file. -/
def autoSentStimuli : List Stimulus :=
  [.act (.chooseFile (some ⟨.ofFile "notes.txt" ⟨[1, 2], File.bounded_notes⟩, false⟩)),
    .signal (.obj [("type", .str "peers"), ("peers", .arr
      [.obj [("ip", .str "b:2"), ("name", .str "b")]])]) none,
    .act .runMain, .act (.selectRow (some 0)),
    .signal (Endpoint.offerMessage "sdp of the offer") (some 1), .act (.complete 0 (some "")),
    .act (.openDataChannel 1 .Connecting), .act (.channelState 1 .Open), .act .runMain]

theorem page_mirrors_transfer_autoSent :
    ∃ signals app, ApplicationRun 0 "mac#001" Machine.free autoSentStimuli signals app ∧
      app.isSending = true ∧ app.client.sendHandle ≠ none := by
  obtain ⟨app, signals, run, checked⟩ :
      ∃ app signals, ApplicationRun 0 "mac#001" Machine.free autoSentStimuli signals app ∧
        app.isSending = true :=
    Machine.run_of_exec_any (fun (app : Application) (_ : List Json) => app.isSending)
      (by decide)
  obtain ⟨sending, -⟩ := page_mirrors_transfer run
  exact ⟨signals, app, run, checked, sending.mp checked⟩

end WebrtcFileSender.Net
