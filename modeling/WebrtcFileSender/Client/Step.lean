import WebrtcFileSender.Client.SendingLoop
import WebrtcFileSender.Library.Machine

/-!
Contract: one `RTCClient` as a machine.

Owns: the inputs of a client (user calls, callbacks, one block of a queue, one
statement of the sending loop), what each does, and what an observer sees: the
packets handed to the channel and the calls on the delegate.

The peer and the network are the environment: `receive` takes any packet.
-/

namespace WebrtcFileSender

namespace RTCClient

inductive Input where
  | sendFileAtURL (fileURL : FileURL)
  | cancelFileTransfer
  | acceptIncomingFileToURL (destination : Destination)
  | rejectIncomingFileWithReason (reason : String)
  | receive (packet : Packet) (outcome : WriteOutcome)
  | transmit
  | runMain
  | runFile (input : LoopInput)
  | iceConnectionState (newState : RTCIceConnectionState)
  | dataChannelState (state : RTCDataChannelState)

/-- What one input does, with the delegate calls it makes. It is absent when the
input is not possible: nothing to transmit or to run. -/
def act (client : RTCClient) : Input → Option (RTCClient × List DelegateCall)
  | .sendFileAtURL fileURL =>
      match client.sendFileAtURL fileURL with
      | .error _ => some (client, [])
      | .ok next => some (next, [])
  | .cancelFileTransfer => some (client.cancelFileTransfer, [])
  | .acceptIncomingFileToURL destination =>
      some (client.acceptIncomingFileToURL destination, [])
  | .rejectIncomingFileWithReason reason =>
      some (client.rejectIncomingFileWithReason reason, [])
  | .receive packet outcome => some (client.didReceiveMessage packet outcome, [])
  | .transmit =>
      match client.outgoing with
      | [] => none
      | _ :: rest => some ({ client with outgoing := rest }, [])
  | .runMain =>
      match client.mainQueue with
      | [] => none
      | block :: rest => some ({ client with mainQueue := rest }.runBlock block)
  | .runFile input => (client.runLoop input).map fun next => (next, [])
  | .iceConnectionState newState => some (client.didChangeIceConnectionState newState, [])
  | .dataChannelState state => some (client.dataChannelDidChangeState state, [])

/-- What an observer of the client sees. -/
inductive Observation where
  | sent (packet : Packet)
  | delegate (call : DelegateCall)
deriving DecidableEq, Repr

/-- Packets are only ever appended to `outgoing`, so what was sent is the part
beyond the old length. -/
def observe (client next : RTCClient) (calls : List DelegateCall) : List Observation :=
  (next.outgoing.drop client.outgoing.length).map .sent ++ calls.map .delegate

def step (client : RTCClient) (input : Input) : Option (RTCClient × List Observation) :=
  (client.act input).map fun (next, calls) => (next, client.observe next calls)

end RTCClient

/-- Runs of one client after `init`. -/
abbrev ClientRun (clientId : Nat) (helloName : String)
    (guard : RTCClient → RTCClient.Input → Prop) :=
  Machine.Run RTCClient.step guard (RTCClient.initial clientId helloName)

end WebrtcFileSender
