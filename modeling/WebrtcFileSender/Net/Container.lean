import WebrtcFileSender.Net.Signals

/-!
Contract: the container controller and the device list of the send page
(`HXAirDropStyleTransferViewController.m`, `HXSendViewController.m`).

Owns: the properties that decide when a file is sent and to whom, `onSend:`, the
`onSelectPeerIP` block, `applyOnlinePeers:`, `currentSelectedPeerIP`, and what
the container does with the calls of its `RTCClient`.

Does not own: labels, alerts and progress bars, and the receive page.
-/

namespace WebrtcFileSender.Net

open Signaling

/-- The URL chosen in the open panel. -/
structure Selection where
  url : FileURL
  hasDirectoryPath : Bool

/-- One running application: its `RTCClient`, the container and the send page. -/
structure Device where
  endpoint : Endpoint
  selectedFileURL : Option Selection
  onlinePeers : List OnlinePeer
  /-- Absent while `selectedPeerRow` is -1. -/
  selectedPeerRow : Option Nat
  pendingPeerIP : Option String
  pendingAutoSend : Bool

namespace Device

def initial (clientId : Nat) (helloName : String) : Device where
  endpoint := .initial clientId helloName
  selectedFileURL := none
  onlinePeers := []
  selectedPeerRow := none
  pendingPeerIP := none
  pendingAutoSend := false

def isDataChannelOpen (device : Device) : Bool :=
  device.endpoint.client.isDataChannelOpen

/-! ## The send page -/

/-- An empty address counts as no selection. -/
def currentSelectedPeerIP (device : Device) : Option String :=
  (device.selectedPeerRow.bind fun row => device.onlinePeers[row]?).bind fun peer =>
    if peer.ip = "" then none else some peer.ip

/-- `applyOnlinePeers:`: the selection follows the address of the selected row. -/
def applyOnlinePeers (device : Device) (peers : List OnlinePeer) : Device :=
  let norm := peers.filterMap fun peer =>
    if peer.ip = "" then none
    else some (OnlinePeer.mk peer.ip (if peer.name = "" then peer.ip else peer.name))
  { device with
    onlinePeers := norm
    selectedPeerRow := device.currentSelectedPeerIP.bind fun prevIP =>
      norm.findIdx? fun peer => peer.ip = prevIP }

/-! ## Sending -/

/-- The file that may be sent: one is selected and it is not a folder. -/
def sendableURL (device : Device) : Option FileURL :=
  device.selectedFileURL.bind fun selection =>
    if selection.hasDirectoryPath then none else some selection.url

/-- The choice of a device: the pending fields are set and the pair request is
sent. -/
def connect (device : Device) (ip : String) : Device × List Json :=
  ({ device with pendingPeerIP := some ip, pendingAutoSend := true },
    Endpoint.connectToPeerIP ip)

/-- The device that the `onSelectPeerIP` block connects to, when it gets past its
guards. -/
def selectTarget (device : Device) (ip : String) : Option String :=
  if ip = "" then none
  else if device.pendingAutoSend = true ∧ device.pendingPeerIP = some ip ∧
      device.isDataChannelOpen = false then none
  else if device.sendableURL.isNone then none
  else if device.isDataChannelOpen then none
  else some ip

/-- The `onSelectPeerIP` block. -/
def onSelectPeerIP (device : Device) (ip : String) : Device × List Json :=
  match device.selectTarget ip with
  | none => (device, [])
  | some target => device.connect target

/-- The device that `onSend:` connects to, when a file can be sent and the
channel is not open. -/
def sendTarget (device : Device) : Option String :=
  if device.sendableURL.isNone ∨ device.isDataChannelOpen = true then none
  else
    (device.pendingPeerIP.or device.currentSelectedPeerIP).bind fun targetIP =>
      if targetIP = "" then none else some targetIP

/-- `onSend:`. A failed send only shows an alert. -/
def onSend (device : Device) : Device × List Json :=
  match device.sendableURL with
  | none => (device, [])
  | some url =>
      if device.isDataChannelOpen then
        match device.endpoint.client.sendFileAtURL url with
        | .error _ => (device, [])
        | .ok client => ({ device with endpoint := { device.endpoint with client := client } }, [])
      else
        match device.sendTarget with
        | none => (device, [])
        | some targetIP => device.connect targetIP

/-- `tableViewSelectionDidChange:` after the user has changed the selection. -/
def tableViewSelectionDidChange (device : Device) (row : Option Nat) : Device × List Json :=
  let device := { device with selectedPeerRow := row }
  match row.bind fun row => device.onlinePeers[row]? with
  | none => (device, [])
  | some peer => device.onSelectPeerIP peer.ip

/-! ## Calls of the client -/

/-- The pending fields are cleared before an automatic send. -/
def clearPending (device : Device) : Device :=
  { device with pendingPeerIP := none, pendingAutoSend := false }

/-- `rtcClient:dataChannelStateDidChange:`. -/
def dataChannelStateDidChange (device : Device) (state : RTCDataChannelState) :
    Device × List Json :=
  if state = .Open ∧ device.pendingAutoSend = true then device.clearPending.onSend
  else (device, [])

/-- One call on the delegate, which is the container. -/
def handle (device : Device) : DelegateCall → Device × List Json
  | .dataChannelStateDidChange state => device.dataChannelStateDidChange state
  | .didUpdateOnlinePeers peers => (device.applyOnlinePeers peers, [])
  | .didReceivePeerName _ _ _ | .fileReceiveOffered _ _ | .fileReceiveProgress _ _ _
  | .fileSendProgress _ _ _ | .fileTransferDidFinish _ _ _ => (device, [])

def handleAll (device : Device) : List DelegateCall → Device × List Json
  | [] => (device, [])
  | call :: rest =>
      let (device, signals) := device.handle call
      let (device, later) := device.handleAll rest
      (device, signals ++ later)

/-- The main queue runs one block. -/
def runMain (device : Device) : Option (Device × List Json) :=
  (device.endpoint.client.act .runMain).map fun (client, calls) =>
    { device with endpoint := { device.endpoint with client := client } }.handleAll calls

/-- The next block of the main queue reports an open channel while an automatic
send is pending. -/
def openReported (device : Device) : Bool :=
  device.pendingAutoSend &&
    device.endpoint.client.mainQueue.head? == some (.dataChannelStateDidChange .Open)

/-- The next block of the main queue leads to a successful automatic send. -/
def autoSends (device : Device) : Bool :=
  device.openReported &&
    device.sendableURL.any fun url => device.endpoint.client.sendSucceeds url

end Device

end WebrtcFileSender.Net
