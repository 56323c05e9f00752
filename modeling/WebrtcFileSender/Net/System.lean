import WebrtcFileSender.Net.Container
import WebrtcFileSender.Signaling.Pairing

/-!
Contract: the signaling server and all its clients as one machine.

Owns: the state of the whole system, its actions, and what one action does to
each part.

Every link between the server and a client is a queue in each direction. The
users, the WebRTC libraries, the file systems and what arrives on the data
channels are the environment.
-/

namespace WebrtcFileSender.Net

open Signaling

structure System where
  server : Server
  device : SocketId → Device
  /-- Signals of a client that the server has not handled. -/
  uplink : SocketId → List Json
  /-- Messages to a client that it has not handled, with their origin. -/
  downlink : SocketId → List (Json × Origin)

/-- What one client may do by itself, driven by its user, its libraries and its
data channel. -/
inductive Input where
  | chooseFile (selection : Option Selection)
  | selectRow (row : Option Nat)
  | send
  | refreshOnlinePeers
  | runMain
  | complete (index : Nat) (result : Option String)
  | generateIceCandidate (candidate : RTCIceCandidate)
  | channelState (peer : SocketId) (state : RTCDataChannelState)
  | replacedChannelState (state : RTCDataChannelState)
  | openDataChannel (peer : SocketId) (state : RTCDataChannelState)
  | transfer (input : RTCClient.Input)

inductive Action where
  | server (event : Server.Event)
  | process (ws : SocketId)
  | receive (ws : SocketId)
  | act (ws : SocketId) (input : Input)

/-- A file was sent automatically: the key that was pending and the key of the
client at the other end of the channel. -/
inductive Event where
  | autoSent (ws : SocketId) (pendingPeerIP peerKey : Option String)
deriving DecidableEq, Repr

def Device.withClient (device : Device) (client : RTCClient) : Device :=
  { device with endpoint := { device.endpoint with client := client } }

/-- The inputs of the transfer half that are not modelled here in more detail:
user calls except `sendFileAtURL:`, channel messages, the loop, and ICE. -/
def transfers : RTCClient.Input → Bool
  | .cancelFileTransfer | .acceptIncomingFileToURL _ | .rejectIncomingFileWithReason _
  | .receive _ _ | .transmit | .runFile _ | .iceConnectionState _ => true
  | .sendFileAtURL _ | .runMain | .dataChannelState _ => false

/-- One input of a client, with the signals it sends. -/
def Device.step (device : Device) : Input → Option (Device × List Json)
  | .chooseFile selection => some ({ device with selectedFileURL := selection }, [])
  | .selectRow row => some (device.tableViewSelectionDidChange row)
  | .send => some device.onSend
  | .refreshOnlinePeers => some (device, [Endpoint.listPeersMessage])
  | .runMain => device.runMain
  | .complete index result =>
      (device.endpoint.complete index result).map fun (endpoint, signals) =>
        ({ device with endpoint := endpoint }, signals)
  | .generateIceCandidate candidate => some (device, [Endpoint.candidateMessage candidate])
  | .channelState peer state =>
      if device.endpoint.client.readyState.isSome ∧
          RTCDataChannelState.Follows device.endpoint.client.readyState state ∧
          (state = .Open → device.endpoint.Reaches peer) then
        some ({ device with
          endpoint := device.endpoint.dataChannelDidChangeState peer state }, [])
      else none
  | .replacedChannelState state =>
      some ({ device with
        endpoint := device.endpoint.replacedChannelDidChangeState state }, [])
  | .openDataChannel peer state =>
      if device.endpoint.Reaches peer then
        some ({ device with endpoint := device.endpoint.didOpenDataChannel peer state }, [])
      else none
  | .transfer input =>
      if transfers input then
        (device.endpoint.client.act input).map fun (client, _) =>
          (device.withClient client, [])
      else none

/-- The messages among the outputs of the server that go to `ws`. -/
def sentTo (ws : SocketId) (outputs : List Output) : List (Json × Origin) :=
  outputs.filterMap fun
    | .sent receiver message origin => if receiver = ws then some (message, origin) else none
    | .granted _ _ => none

def author : Origin → Option SocketId
  | .server => none
  | .relay sender => some sender

namespace System

def initial (helloName : SocketId → String) : System where
  server := .initial
  device := fun ws => .initial ws (helloName ws)
  uplink := fun _ => []
  downlink := fun _ => []

/-- The server has made a step. -/
def served (system : System) (server : Server) (outputs : List Output) : System :=
  { system with
    server := server
    downlink := fun ws => system.downlink ws ++ sentTo ws outputs }

/-- A client has made a step. -/
def acted (system : System) (ws : SocketId) (device : Device) (signals : List Json) : System :=
  { system with
    device := Function.update system.device ws device
    uplink := Function.update system.uplink ws (system.uplink ws ++ signals) }

/-- The automatic send of a step, if it is one. -/
def events (system : System) (ws : SocketId) : Input → List Event
  | .runMain =>
      if (system.device ws).autoSends then
        [.autoSent ws (system.device ws).pendingPeerIP
          ((system.device ws).endpoint.channelPeer.map system.server.clientIP)]
      else []
  | _ => []

def step (system : System) : Action → Option (System × List Event)
  | .server event =>
      match event with
      | .message _ _ => none
      | event =>
          (system.server.step event).map fun (server, outputs) =>
            (system.served server outputs, [])
  | .process ws =>
      match system.uplink ws with
      | [] => none
      | message :: rest =>
          (system.server.step (.message ws (some message))).map fun (server, outputs) =>
            ({ system with uplink := Function.update system.uplink ws rest }.served server
              outputs, [])
  | .receive ws =>
      match system.downlink ws with
      | [] => none
      | (message, origin) :: rest =>
          let device := system.device ws
          some
            ({ system with
              device := Function.update system.device ws
                { device with
                  endpoint := device.endpoint.receiveSignal message (author origin) }
              downlink := Function.update system.downlink ws rest }, [])
  | .act ws input =>
      if ws < system.server.connected then
        ((system.device ws).step input).map fun (device, signals) =>
          (system.acted ws device signals, system.events ws input)
      else none

end System

/-- Runs of the whole system. -/
abbrev SystemRun (helloName : SocketId → String)
    (guard : System → Action → Prop) :=
  Machine.Run System.step guard (System.initial helloName)

end WebrtcFileSender.Net
