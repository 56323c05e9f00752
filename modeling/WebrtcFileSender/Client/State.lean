import Mathlib.Algebra.Group.Int.Defs
import Mathlib.Algebra.Group.Nat.Defs
import Mathlib.Logic.Function.Basic

/-!
Contract: the data of one `RTCClient` (`RTCClient.m`), as far as file transfer
reads and writes it.

Owns: the class properties with their source names, the control messages of the
data channel, the blocks dispatched to the main queue, the program points of the
sending loop, and the calls made on the delegate.

Ghost data. Control messages carry no transfer identifier on the wire, and the
class keeps none. To speak about transfers, every `sendFileAtURL` that succeeds
gets a `TransferId`, and packets, handles, queued cleanups and loops carry the
identifier of the transfer they belong to. No function below branches on ghost
data. The ghost fields are `clientId`, `begun`, `incomingTransfer`,
`incomingBirth`, the `transfer` and `birth` fields of handles, chunks, packets
and loops, and `CleanupRequest`.

Unsigned 64-bit properties are natural numbers; `u64` is applied where the
source adds to them.
-/

namespace WebrtcFileSender

abbrev Bytes := List UInt8

/-- Reduction to `uint64_t`. -/
def u64 (value : Nat) : Nat := value % 2 ^ 64

/-- The contents of a regular file. File offsets are signed 64-bit numbers. -/
structure File where
  bytes : Bytes
  bounded : bytes.length < 2 ^ 63

/-- The bytes of the file that the runs of this development send. -/
theorem File.bounded_notes : ([1, 2] : Bytes).length < 2 ^ 63 := by
  decide

/-- The bytes of the file they send next. -/
theorem File.bounded_secret : ([7] : Bytes).length < 2 ^ 63 := by
  decide

/-- Ghost: the `seq`-th offer or transfer begun at client `sender`. -/
structure TransferId where
  sender : Nat
  seq : Nat
deriving DecidableEq, Repr

structure NSError where
  domain : String
  code : Int
  localizedDescription : String
deriving DecidableEq, Repr

/-- Errors that the class itself creates. -/
def rtcError (code : Int) (localizedDescription : String) : NSError :=
  ⟨"RTCClient", code, localizedDescription⟩

/-- `RTCDataChannelState`. -/
inductive RTCDataChannelState where
  | Connecting
  | Open
  | Closing
  | Closed
deriving DecidableEq, Repr

def RTCDataChannelState.rank : RTCDataChannelState → Nat
  | .Connecting => 0
  | .Open => 1
  | .Closing => 2
  | .Closed => 3

/-- A data channel never goes back to an earlier state. -/
def RTCDataChannelState.Follows (old : Option RTCDataChannelState)
    (state : RTCDataChannelState) : Prop :=
  ∀ before ∈ old, before.rank < state.rank

instance (old : Option RTCDataChannelState) (state : RTCDataChannelState) :
    Decidable (RTCDataChannelState.Follows old state) :=
  inferInstanceAs (Decidable (∀ before ∈ old, before.rank < state.rank))

/-- `RTCIceConnectionState`. -/
inductive RTCIceConnectionState where
  | New
  | Checking
  | Connected
  | Completed
  | Failed
  | Disconnected
  | Closed
deriving DecidableEq, Repr

/-- The states that `peerConnection:didChangeIceConnectionState:` acts on. -/
def RTCIceConnectionState.isLost : RTCIceConnectionState → Bool
  | .Disconnected | .Failed | .Closed => true
  | _ => false

/-! ## Files -/

/-- What the platform says about the URL passed to `sendFileAtURL:error:`.
`fileSize` is the value of `NSURLFileSizeKey`, zero when it is unavailable; when
the file can be opened it is the length of the file. -/
structure FileURL where
  lastPathComponent : Option String
  fileSize : Nat
  handle : Except NSError File
  fileSize_eq : ∀ file, handle = .ok file → fileSize = 0 ∨ fileSize = file.bytes.length

/-- The announced size of a file that can be sent is its length. -/
theorem FileURL.announced_eq (fileURL : FileURL) {file : File}
    (opened : fileURL.handle = .ok file) (sized : u64 fileURL.fileSize ≠ 0) :
    u64 fileURL.fileSize = file.bytes.length := by
  rcases fileURL.fileSize_eq file opened with unavailable | known
  · rw [unavailable] at sized
    exact absurd rfl sized
  · rw [known]
    have bounded := file.bounded
    exact Nat.mod_eq_of_lt (by omega)

/-- The URL of a readable file. -/
def FileURL.ofFile (name : String) (file : File) : FileURL where
  lastPathComponent := some name
  fileSize := file.bytes.length
  handle := .ok file
  fileSize_eq := by
    intro opened same
    obtain rfl := Except.ok.inj same
    exact .inr rfl

/-- The URL passed to `acceptIncomingFileToURL:`. `openError` is the outcome of
opening it for writing: absent on success, else the error, which may be nil. -/
structure Destination where
  path : String
  openError : Option (Option NSError)

/-- The `NSFileHandle` of an outgoing file. -/
structure ReadHandle where
  transfer : TransferId
  file : File
  offset : Nat

/-- The `NSFileHandle` of an incoming file. -/
structure WriteHandle where
  path : String
  transfer : Option TransferId
  birth : Nat
deriving DecidableEq, Repr

/-! ## Data channel messages -/

inductive Message where
  | hello (name ip role : String)
  | ftOffer (name : String) (size chunk : Nat)
  | ftAccept
  | ftReject (reason : String)
  | ftCancel
  | ftDone
  | binary (data : Bytes)
deriving DecidableEq, Repr

/-- A message on the wire with the transfer it was emitted for. -/
structure Packet where
  message : Message
  transfer : Option TransferId
deriving DecidableEq, Repr

/-! ## Main queue -/

/-- A progress fraction as it is captured by a dispatched block. -/
structure Progress where
  done : Nat
  total : Nat
deriving DecidableEq, Repr

/-- Ghost: on whose behalf a cleanup was requested, whether a control message of
the peer requested it, and how many offers and transfers had begun by then. -/
structure CleanupRequest where
  transfer : Option TransferId
  byPeer : Bool
  stamp : Nat
deriving DecidableEq, Repr

/-- One entry of the device list. -/
structure OnlinePeer where
  ip : String
  name : String
deriving DecidableEq, Repr

/-- A block dispatched to the main queue. -/
inductive MainBlock where
  | dataChannelStateDidChange (state : RTCDataChannelState)
  | iceConnectionLost
  | didReceivePeerName (name ip role : String)
  | didUpdateOnlinePeers (peers : List OnlinePeer)
  | fileReceiveOffered
  | fileReceiveProgress (progress : Progress)
  | fileSendProgress (progress : Progress)
  | cleanup (error : Option NSError) (request : CleanupRequest)
deriving DecidableEq, Repr

/-- A call on the `RTCClientDelegate`. A finish carries, as ghost data, the
request it answers and the outgoing transfer that was live when it ran. -/
inductive DelegateCall where
  | dataChannelStateDidChange (state : RTCDataChannelState)
  | didReceivePeerName (name ip role : String)
  | didUpdateOnlinePeers (peers : List OnlinePeer)
  | fileReceiveOffered (name : Option String) (size : Nat)
  | fileReceiveProgress (progress : Progress) (bytesReceived totalBytes : Nat)
  | fileSendProgress (progress : Progress) (bytesSent totalBytes : Nat)
  | fileTransferDidFinish (error : Option NSError) (request : CleanupRequest)
      (ended : Option TransferId)
deriving DecidableEq, Repr

/-! ## Sending loop -/

/-- The result of a read, with the transfer of the handle it came from. -/
structure Chunk where
  data : Bytes
  transfer : TransferId
deriving DecidableEq, Repr

/-- The statement a sending loop executes next. -/
inductive LoopPoint where
  | entry
  | whileTest
  | waitTest (backpressureWaitIters : Nat)
  | waitBody (backpressureWaitIters : Nat)
  | openTest
  | read
  | retryTest (chunk : Chunk) (retries : Nat)
  | retryOpenTest (chunk : Chunk) (retries : Nat)
  | retrySend (chunk : Chunk) (retries : Nat)
  | okTest (chunk : Chunk) (ok : Bool)
  | addBytes (chunk : Chunk)
  | reportProgress
  | cancelledTest
  | completeTest
  | sendDone
  | finish (error : Option NSError)
deriving DecidableEq, Repr

/-- A block on the serial `fileQueue`, started for `transfer`. -/
structure SendingLoop where
  transfer : TransferId
  point : LoopPoint
deriving DecidableEq, Repr

/-- What the loop observes of its environment in one statement. `readLength` is
the number of bytes the file system hands over at most, `sendOk` whether the
channel has room. -/
structure LoopInput where
  bufferedAmount : Nat
  readLength : Nat
  readError : Bool
  sendOk : Bool
deriving DecidableEq, Repr

/-! ## The client -/

/-- `RTCIceCandidate`. -/
structure RTCIceCandidate where
  sdp : String
  sdpMLineIndex : Int
  sdpMid : String
deriving DecidableEq, Repr

structure RTCClient where
  /-- `dataChannel.readyState`; absent while `dataChannel` is nil. -/
  readyState : Option RTCDataChannelState
  /-- Packets taken by `sendData` and not yet by the network. -/
  outgoing : List Packet
  sendHandle : Option ReadHandle
  sendTotalBytes : Nat
  sendBytesSent : Nat
  recvHandle : Option WriteHandle
  recvTotalBytes : Nat
  recvBytesReceived : Nat
  incomingFileName : Option String
  transferCancelled : Bool
  isOfferer : Bool
  pendingCandidates : List RTCIceCandidate
  hasRemoteDescription : Bool
  peerIP : Option String
  peerName : Option String
  selfIP : Option String
  /-- The name sent in `hello`: user name and process id. -/
  helloName : String
  fileQueue : List SendingLoop
  mainQueue : List MainBlock
  /-- The files of this machine that incoming transfers write. -/
  disk : String → Bytes
  clientId : Nat
  begun : Nat
  incomingTransfer : Option TransferId
  incomingBirth : Nat

namespace RTCClient

/-- `_chunkSize`, set once in `init`. -/
def chunkSize : Nat := 16 * 1024

/-- A client after `init`, before it has a data channel. -/
def initial (clientId : Nat) (helloName : String) : RTCClient where
  readyState := none
  outgoing := []
  sendHandle := none
  sendTotalBytes := 0
  sendBytesSent := 0
  recvHandle := none
  recvTotalBytes := 0
  recvBytesReceived := 0
  incomingFileName := none
  transferCancelled := false
  isOfferer := false
  pendingCandidates := []
  hasRemoteDescription := false
  peerIP := none
  peerName := none
  selfIP := none
  helloName := helloName
  fileQueue := []
  mainQueue := []
  disk := fun _ => []
  clientId := clientId
  begun := 0
  incomingTransfer := none
  incomingBirth := 0

end RTCClient

end WebrtcFileSender
