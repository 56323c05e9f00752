import WebrtcFileSender.Client.Step
import WebrtcFileSender.Signaling.Server

/-!
Contract: the signaling half of `RTCClient` (`RTCClient.m`).

Owns: `receiveSignal`, `createOffer`, the completion handlers of the SDP
operations, `connectToPeerIP:`, `refreshOnlinePeers`, and the callbacks of the
peer connection that touch the data channel or the signaling socket.

The socket and the peer connection exist, as after `start`; the peer connection
is created once and never replaced. The WebRTC library calls each completion
handler once, at any later time, with success or an error. Signals come from the
server and from other clients of this class, so the texts in them are texts.

Ghost data: the author of each remote description and the client at the other
end of the data channel. No function branches on it.
-/

namespace WebrtcFileSender.Net

open Signaling

/-- A completion handler that the library has not called yet. -/
inductive Completion where
  | offerForConstraints
  | setLocalOffer (sdp : String)
  | setRemoteOffer (author : Option SocketId)
  | answerForConstraints
  | setLocalAnswer (sdp : String)
  | setRemoteAnswer (author : Option SocketId)
deriving DecidableEq, Repr

/-- Who wrote the remote description that is being applied. -/
def Completion.author : Completion → Option SocketId
  | .setRemoteOffer author | .setRemoteAnswer author => author
  | _ => none

/-- An `RTCClient` with its peer connection. -/
structure Endpoint where
  client : RTCClient
  completions : List Completion
  /-- The arguments of `addIceCandidate:` so far. -/
  addedCandidates : List RTCIceCandidate
  /-- The author of the remote description that was applied last. -/
  remote : Option SocketId
  /-- The client at the other end of `dataChannel` since that has opened. -/
  channelPeer : Option SocketId

namespace Endpoint

def initial (clientId : Nat) (helloName : String) : Endpoint where
  client := .initial clientId helloName
  completions := []
  addedCandidates := []
  remote := none
  channelPeer := none

/-! ## Signals of the client -/

def pairRequestMessage (targetIP : String) : Json :=
  .obj [("type", .str "pair_request"), ("targetIP", .str targetIP)]

def listPeersMessage : Json :=
  .obj [("type", .str "list_peers")]

def offerMessage (sdp : String) : Json :=
  .obj [("type", .str "offer"), ("sdp", .str sdp)]

def answerMessage (sdp : String) : Json :=
  .obj [("type", .str "answer"), ("sdp", .str sdp)]

def candidateMessage (candidate : RTCIceCandidate) : Json :=
  .obj [("type", .str "candidate"), ("candidate", .obj
    [("candidate", .str candidate.sdp), ("sdpMLineIndex", .num candidate.sdpMLineIndex 0),
      ("sdpMid", .str candidate.sdpMid)])]

def connectToPeerIP (peerIP : String) : List Json :=
  if peerIP = "" then [] else [pairRequestMessage peerIP]

/-! ## Reading a signal -/

/-- The device list of a `peers` message: entries without an address are
skipped, a missing name reads as the address. -/
def onlinePeers (json : Json) : List OnlinePeer :=
  let raw := match json.field? "peers" with
    | some (.arr items) => items
    | _ => []
  raw.filterMap fun entry =>
    let ip := (entry.stringField? "ip").getD ""
    let name := (entry.stringField? "name").getD ""
    if ip = "" then none else some ⟨ip, if name = "" then ip else name⟩

/-- `[value intValue]` of a number; nil reads as zero. -/
def intValue : Option Json → Int
  | some (.num mantissa exponent) => mantissa.tdiv (10 ^ exponent)
  | _ => 0

def iceCandidate (json : Json) : RTCIceCandidate :=
  let cd := (json.field? "candidate").getD .null
  { sdp := (cd.stringField? "candidate").getD ""
    sdpMLineIndex := intValue (cd.field? "sdpMLineIndex")
    sdpMid := (cd.stringField? "sdpMid").getD "" }

/-! ## Handlers -/

/-- `createOffer` up to the first completion handler: the data channel is a new
one. -/
def createOffer (endpoint : Endpoint) : Endpoint :=
  { endpoint with
    client := { endpoint.client with readyState := some .Connecting, outgoing := [] }
    completions := endpoint.completions ++ [.offerForConstraints]
    channelPeer := none }

def receiveRole (endpoint : Endpoint) (json : Json) : Endpoint :=
  { endpoint with
    client := { endpoint.client with
      isOfferer := json.stringField? "role" == some "offerer"
      selfIP := (json.stringField? "selfIP").or endpoint.client.selfIP
      peerIP := (json.stringField? "peerIP").or endpoint.client.peerIP } }

def receivePeerJoined (endpoint : Endpoint) (json : Json) : Endpoint :=
  let endpoint :=
    { endpoint with
      client := { endpoint.client with
        peerIP := (json.stringField? "peerIP").or endpoint.client.peerIP } }
  if endpoint.client.isOfferer then endpoint.createOffer else endpoint

def receiveCandidate (endpoint : Endpoint) (candidate : RTCIceCandidate) : Endpoint :=
  if endpoint.client.hasRemoteDescription then
    { endpoint with addedCandidates := endpoint.addedCandidates ++ [candidate] }
  else
    { endpoint with
      client := { endpoint.client with
        pendingCandidates := endpoint.client.pendingCandidates ++ [candidate] } }

/-- One round of `receiveSignal`. An `error` is only logged. -/
def receiveSignal (endpoint : Endpoint) (json : Json) (author : Option SocketId) :
    Endpoint :=
  let type := json.stringField? "type"
  if type = some "role" then endpoint.receiveRole json
  else if type = some "peer_joined" then endpoint.receivePeerJoined json
  else if type = some "peer_left" then
    { endpoint with
      client := endpoint.client.dispatchMain (.dataChannelStateDidChange .Closed) }
  else if type = some "error" then endpoint
  else if type = some "peers" then
    { endpoint with
      client := endpoint.client.dispatchMain (.didUpdateOnlinePeers (onlinePeers json)) }
  else if type = some "offer" then
    { endpoint with completions := endpoint.completions ++ [.setRemoteOffer author] }
  else if type = some "answer" then
    { endpoint with completions := endpoint.completions ++ [.setRemoteAnswer author] }
  else if type = some "candidate" then endpoint.receiveCandidate (iceCandidate json)
  else endpoint

/-- The remote description is applied and the waiting candidates are added. -/
def flushCandidates (endpoint : Endpoint) (author : Option SocketId) : Endpoint :=
  { endpoint with
    client := { endpoint.client with
      hasRemoteDescription := true
      pendingCandidates := [] }
    addedCandidates := endpoint.addedCandidates ++ endpoint.client.pendingCandidates
    remote := author }

/-- A completion handler runs; `result` is absent on an error, else the
description that was created, if one was. -/
def completed (endpoint : Endpoint) (completion : Completion) (result : Option String) :
    Endpoint × List Json :=
  match result with
  | none => (endpoint, [])
  | some created =>
      match completion with
      | .offerForConstraints =>
          ({ endpoint with completions := endpoint.completions ++ [.setLocalOffer created] },
            [])
      | .setLocalOffer sdp => (endpoint, [offerMessage sdp])
      | .setRemoteOffer author =>
          let endpoint := endpoint.flushCandidates author
          ({ endpoint with completions := endpoint.completions ++ [.answerForConstraints] },
            [])
      | .answerForConstraints =>
          ({ endpoint with completions := endpoint.completions ++ [.setLocalAnswer created] },
            [])
      | .setLocalAnswer sdp => (endpoint, [answerMessage sdp])
      | .setRemoteAnswer author => (endpoint.flushCandidates author, [])

/-- The library calls the completion handler at `index`. -/
def complete (endpoint : Endpoint) (index : Nat) (result : Option String) :
    Option (Endpoint × List Json) :=
  endpoint.completions[index]?.map fun completion =>
    { endpoint with completions := endpoint.completions.eraseIdx index }.completed completion
      result

/-! ## The data channel -/

/-- `dataChannelDidChangeState:` of the current channel. -/
def dataChannelDidChangeState (endpoint : Endpoint) (peer : SocketId)
    (state : RTCDataChannelState) : Endpoint :=
  { endpoint with
    client := endpoint.client.dataChannelDidChangeState state
    channelPeer := if state = .Open then some peer else endpoint.channelPeer }

/-- `dataChannelDidChangeState:` of a channel that has been replaced: the state
that is reported is that of the old channel. -/
def replacedChannelDidChangeState (endpoint : Endpoint) (state : RTCDataChannelState) :
    Endpoint :=
  let client := endpoint.client.dispatchMain (.dataChannelStateDidChange state)
  { endpoint with client := if state = .Open then client.sendHello else client }

/-- `peerConnection:didOpenDataChannel:`: an open channel is kept, any other is
replaced, and the delegate is told that it is open. -/
def didOpenDataChannel (endpoint : Endpoint) (peer : SocketId)
    (state : RTCDataChannelState) : Endpoint :=
  if endpoint.client.isDataChannelOpen then endpoint
  else
    { endpoint with
      client := { endpoint.client with
        readyState := some state
        outgoing := [] }.dispatchMain (.dataChannelStateDidChange .Open)
      channelPeer := some peer }

/-- A channel connects this client to the author of a remote description that is
applied or being applied. -/
def Reaches (endpoint : Endpoint) (peer : SocketId) : Prop :=
  endpoint.remote = some peer ∨
    ∃ completion ∈ endpoint.completions, completion.author = some peer

instance (endpoint : Endpoint) (peer : SocketId) : Decidable (endpoint.Reaches peer) :=
  inferInstanceAs (Decidable (_ ∨ ∃ completion ∈ endpoint.completions,
    completion.author = some peer))

end Endpoint

end WebrtcFileSender.Net
