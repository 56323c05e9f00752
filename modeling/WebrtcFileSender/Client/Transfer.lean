import WebrtcFileSender.Client.State

/-!
Contract: the file transfer methods of `RTCClient` except the sending loop.

Owns: `sendFileAtURL:error:`, `cancelFileTransfer`, `acceptIncomingFileToURL:`,
`rejectIncomingFileWithReason:`, the data channel callbacks, the ICE callback,
`cleanupTransferWithError:` and the blocks these dispatch to the main queue.

Each function follows its source method statement by statement. A block passed
to `dispatch_async(dispatch_get_main_queue(), ...)` is appended to `mainQueue`
and reads the properties when it runs. The delegate implements every selector.
-/

namespace WebrtcFileSender

namespace RTCClient

/-! ## Sending on the channel -/

def isDataChannelOpen (client : RTCClient) : Bool :=
  client.readyState == some .Open

/-- `[self.dataChannel sendData:]` on a channel that has room: an open one takes the
packet. What a full channel does to an input is `actRefused`. -/
def sendData (client : RTCClient) (packet : Packet) : RTCClient :=
  if client.isDataChannelOpen then { client with outgoing := client.outgoing ++ [packet] }
  else client

/-- `sendControlJSON:`; the result of `sendData:` is dropped, so a message that the
channel refuses is lost unnoticed. -/
def sendControlJSON (client : RTCClient) (message : Message)
    (transfer : Option TransferId) : RTCClient :=
  client.sendData ⟨message, transfer⟩

def sendHello (client : RTCClient) : RTCClient :=
  client.sendControlJSON
    (.hello client.helloName (client.selfIP.getD "unknown")
      (if client.isOfferer then "offerer" else "answerer")) none

/-! ## Cleanup -/

/-- Append a block to the main queue. -/
def dispatchMain (client : RTCClient) (block : MainBlock) : RTCClient :=
  { client with mainQueue := client.mainQueue ++ [block] }

/-- `cleanupTransferWithError:` only dispatches; the work is `runCleanup`. -/
def cleanupTransferWithError (client : RTCClient) (error : Option NSError)
    (transfer : Option TransferId) (byPeer : Bool) : RTCClient :=
  client.dispatchMain (.cleanup error ⟨transfer, byPeer, client.begun⟩)

/-- The properties after the cleanup block: whatever transfer is current is
closed and every counter is zero. -/
def resetTransfer (client : RTCClient) : RTCClient :=
  { client with
    sendHandle := none
    sendTotalBytes := 0
    sendBytesSent := 0
    recvHandle := none
    recvTotalBytes := 0
    recvBytesReceived := 0
    incomingFileName := none
    incomingTransfer := none }

/-- Ghost: the transfer the client is engaged in. -/
def currentTransfer (client : RTCClient) : Option TransferId :=
  match client.sendHandle, client.recvHandle with
  | some handle, _ => some handle.transfer
  | none, some handle => handle.transfer
  | none, none => client.incomingTransfer

/-! ## Public interface -/

/-- The checks of `sendFileAtURL:error:` in order: the channel is open, no
transfer has a handle, the size is known and not zero, the file opens. -/
def sendFileCheck (client : RTCClient) (fileURL : FileURL) : Except NSError File :=
  if client.isDataChannelOpen = false then
    .error (rtcError 1 "DataChannel is not open")
  else if client.sendHandle.isSome ∨ client.recvHandle.isSome then
    .error (rtcError 2 "A file transfer is already in progress")
  else if u64 fileURL.fileSize = 0 then
    .error (rtcError 3 "File is empty or size unavailable")
  else fileURL.handle

/-- The commit of `sendFileAtURL:error:` after its checks. -/
def beginSending (client : RTCClient) (fileURL : FileURL) (file : File) : RTCClient :=
  let transfer : TransferId := ⟨client.clientId, client.begun⟩
  let total := u64 fileURL.fileSize
  let client :=
    { client with
      transferCancelled := false
      sendHandle := some ⟨transfer, file, 0⟩
      sendTotalBytes := total
      sendBytesSent := 0
      begun := client.begun + 1 }
  client.sendControlJSON
    (.ftOffer (fileURL.lastPathComponent.getD "file") total chunkSize) (some transfer)

/-- `sendFileAtURL:error:` with its `NO` result as an error. -/
def sendFileAtURL (client : RTCClient) (fileURL : FileURL) : Except NSError RTCClient :=
  match client.sendFileCheck fileURL with
  | .error error => .error error
  | .ok file => .ok (client.beginSending fileURL file)

/-- `sendFileAtURL:error:` would return `YES`. -/
def sendSucceeds (client : RTCClient) (fileURL : FileURL) : Bool :=
  match client.sendFileAtURL fileURL with
  | .ok _ => true
  | .error _ => false

def cancelFileTransfer (client : RTCClient) : RTCClient :=
  let transfer := client.currentTransfer
  let client := { client with transferCancelled := true }
  let client := client.sendControlJSON .ftCancel transfer
  client.cleanupTransferWithError (some (rtcError 10 "Cancelled")) transfer false

def rejectIncomingFileWithReason (client : RTCClient) (reason : String) : RTCClient :=
  let transfer := client.incomingTransfer
  let client := client.sendControlJSON (.ftReject reason) transfer
  client.cleanupTransferWithError (some (rtcError 12 reason)) transfer false

/-- The `recvHandle` of an accepted offer; the file at its path is empty. -/
def openDestination (client : RTCClient) (path : String) : RTCClient :=
  { client with
    disk := Function.update client.disk path []
    recvHandle := some ⟨path, client.incomingTransfer, client.incomingBirth⟩
    recvBytesReceived := 0 }

/-- An accept goes past its two guards: an offer of nonzero size is pending and
no file is being received. -/
def canAccept (client : RTCClient) : Bool :=
  client.incomingFileName.isSome && client.recvTotalBytes != 0 && client.recvHandle.isNone

def acceptIncomingFileToURL (client : RTCClient) (destination : Destination) : RTCClient :=
  if client.canAccept then
    match destination.openError with
    | some error =>
        let rejected := client.rejectIncomingFileWithReason "Unable to open destination"
        rejected.cleanupTransferWithError
          (some (error.getD (rtcError 11 "Unable to open destination")))
          client.incomingTransfer false
    | none =>
        (client.openDestination destination.path).sendControlJSON .ftAccept
          client.incomingTransfer
  else client

/-! ## Channel and connection callbacks -/

/-- `dataChannelDidChangeState:` after the library changed `readyState`. A
channel that is no longer open has dropped what it still held. -/
def dataChannelDidChangeState (client : RTCClient) (state : RTCDataChannelState) :
    RTCClient :=
  let client :=
    { client with
      readyState := some state
      outgoing := if state = RTCDataChannelState.Open then client.outgoing else [] }
  let client := client.dispatchMain (.dataChannelStateDidChange state)
  if state = .Open then client.sendHello else client

/-- `peerConnection:didChangeIceConnectionState:`. -/
def didChangeIceConnectionState (client : RTCClient) (newState : RTCIceConnectionState) :
    RTCClient :=
  match newState with
  | .Disconnected | .Failed | .Closed => client.dispatchMain .iceConnectionLost
  | _ => client

/-- The outcome of `writeData:`; a failing write raises. -/
inductive WriteOutcome where
  | written
  | raised (reason : Option String)
deriving DecidableEq, Repr

def receiveHello (client : RTCClient) (name ip role : String) : RTCClient :=
  { client with
    peerName := some name
    peerIP := client.peerIP.or (some ip) }.dispatchMain (.didReceivePeerName name ip role)

def receiveOffer (client : RTCClient) (name : String) (size : Nat)
    (transfer : Option TransferId) : RTCClient :=
  if client.sendHandle.isSome ∨ client.recvHandle.isSome then
    client.sendControlJSON (.ftReject "busy") transfer
  else
    { client with
      incomingFileName := some name
      recvTotalBytes := u64 size
      recvBytesReceived := 0
      incomingTransfer := transfer
      incomingBirth := client.begun
      begun := client.begun + 1 }.dispatchMain .fileReceiveOffered

/-- `startSendingLoop` dispatches the loop for the transfer that is current. -/
def startSendingLoop (client : RTCClient) (transfer : TransferId) : RTCClient :=
  { client with fileQueue := client.fileQueue ++ [⟨transfer, .entry⟩] }

def receiveAccept (client : RTCClient) : RTCClient :=
  match client.sendHandle with
  | none => client
  | some handle => client.startSendingLoop handle.transfer

/-- The binary branch of `dataChannel:didReceiveMessageWithBuffer:`. -/
def receiveBinary (client : RTCClient) (data : Bytes) (outcome : WriteOutcome) : RTCClient :=
  match client.recvHandle with
  | none => client
  | some handle =>
      if client.recvTotalBytes = 0 then client
      else
        match outcome with
        | .raised reason =>
            client.cleanupTransferWithError
              (some (rtcError 20 (reason.getD "Write failed"))) handle.transfer false
        | .written =>
            let received := u64 (client.recvBytesReceived + data.length)
            let client :=
              { client with
                disk := Function.update client.disk handle.path
                  (client.disk handle.path ++ data)
                recvBytesReceived := received }
            let client := client.dispatchMain
              (.fileReceiveProgress ⟨received, client.recvTotalBytes⟩)
            if client.recvTotalBytes ≤ received then
              (client.sendControlJSON .ftDone handle.transfer).cleanupTransferWithError
                none handle.transfer false
            else client

/-- `dataChannel:didReceiveMessageWithBuffer:`. -/
def didReceiveMessage (client : RTCClient) (packet : Packet) (outcome : WriteOutcome) :
    RTCClient :=
  match packet.message with
  | .hello name ip role => client.receiveHello name ip role
  | .ftOffer name size _ => client.receiveOffer name size packet.transfer
  | .ftAccept => client.receiveAccept
  | .ftReject reason =>
      client.cleanupTransferWithError (some (rtcError 13 reason)) packet.transfer true
  | .ftCancel =>
      client.cleanupTransferWithError (some (rtcError 13 "Cancelled/Rejected"))
        packet.transfer true
  | .ftDone => client.cleanupTransferWithError none packet.transfer true
  | .binary data => client.receiveBinary data outcome

/-! ## Blocks of the main queue -/

/-- Run one block that has been taken off the main queue. -/
def runBlock (client : RTCClient) : MainBlock → RTCClient × List DelegateCall
  | .dataChannelStateDidChange state => (client, [.dataChannelStateDidChange state])
  | .iceConnectionLost =>
      (if client.sendHandle.isSome ∨ client.recvHandle.isSome then
        client.cleanupTransferWithError (some (rtcError 40 "连接已断开"))
          client.currentTransfer false
      else client,
        [.dataChannelStateDidChange .Closed])
  | .didReceivePeerName name ip role => (client, [.didReceivePeerName name ip role])
  | .didUpdateOnlinePeers peers => (client, [.didUpdateOnlinePeers peers])
  | .fileReceiveOffered =>
      (client, [.fileReceiveOffered client.incomingFileName client.recvTotalBytes])
  | .fileReceiveProgress progress =>
      (client, [.fileReceiveProgress progress client.recvBytesReceived client.recvTotalBytes])
  | .fileSendProgress progress =>
      (client, [.fileSendProgress progress client.sendBytesSent client.sendTotalBytes])
  | .cleanup error request =>
      (client.resetTransfer,
        [.fileTransferDidFinish error request (client.sendHandle.map ReadHandle.transfer)])

end RTCClient

end WebrtcFileSender
