import WebrtcFileSender.Net.Effect

/-!
Contract: the part of a client that negotiation works on.

Owns: the projection of an endpoint to its role, its candidates and its pending
completion handlers, the frame law that only signals and completion handlers
change it, and the signals that an input sends.
-/

namespace WebrtcFileSender

namespace RTCClient

/-- The signaling properties of a client. -/
def signaling (client : RTCClient) : Bool × Bool × List RTCIceCandidate :=
  (client.isOfferer, client.hasRemoteDescription, client.pendingCandidates)

/-- File transfer does not touch the signaling properties. -/
theorem signaling_of_effect {client next : RTCClient} {input : Input}
    {calls : List DelegateCall} (effect : Effect client input next calls) :
    next.signaling = client.signaling := by
  cases effect with
  | began => rw [beginSending_eq]; rfl
  | cancelled => rw [cancelFileTransfer_eq]; rfl
  | rejected => rw [rejectIncomingFileWithReason_eq]; rfl
  | looped given loop rest queue =>
      obtain ⟨handle, sent, packets, blocks, result, -⟩ :=
        client.loopStatement_change loop.transfer given loop.point
      rw [result]
      rfl
  | channelChanged state =>
      rcases client.dataChannelDidChangeState_cases state with
        ⟨name, ip, role, -, result⟩ | ⟨-, result⟩
      all_goals
        rw [result]
        rfl
  | accepted | unopened | greeted | busy | offered | started | ended | writeFailed | stored
  | completed | transmitted | reported | iceLost | iceIdle | cleaned | iceChanged | nothing =>
      rfl

end RTCClient

namespace Net

open Signaling

/-- What negotiation works on. -/
structure Negotiation where
  isOfferer : Bool
  hasRemoteDescription : Bool
  pendingCandidates : List RTCIceCandidate
  addedCandidates : List RTCIceCandidate
  completions : List Completion

def Endpoint.negotiation (endpoint : Endpoint) : Negotiation where
  isOfferer := endpoint.client.isOfferer
  hasRemoteDescription := endpoint.client.hasRemoteDescription
  pendingCandidates := endpoint.client.pendingCandidates
  addedCandidates := endpoint.addedCandidates
  completions := endpoint.completions

/-- An endpoint whose client has the same signaling properties. -/
theorem Endpoint.negotiation_of_client {endpoint next : Endpoint}
    (signaling : next.client.signaling = endpoint.client.signaling)
    (added : next.addedCandidates = endpoint.addedCandidates)
    (completions : next.completions = endpoint.completions) :
    next.negotiation = endpoint.negotiation := by
  simp only [RTCClient.signaling, Prod.mk.injEq] at signaling
  obtain ⟨offerer, described, pending⟩ := signaling
  simp only [negotiation, offerer, described, pending, added, completions]

/-- A completion handler leaves the list, may start one more call and may write the
description it set. Of the client it touches at most the remote description and the
candidates that wait for it. -/
theorem Endpoint.complete_spec {endpoint following : Endpoint} {index : Nat}
    {result : Option String} {signals : List Json}
    (completes : endpoint.complete index result = some (following, signals)) :
    (following.client = endpoint.client ∨ following.client =
      { endpoint.client with hasRemoteDescription := true, pendingCandidates := [] }) ∧
    (∃ started, following.completions = endpoint.completions.eraseIdx index ++ started) ∧
    (signals = [] ∨ ∃ sdp, signals = [offerMessage sdp] ∨ signals = [answerMessage sdp]) := by
  simp only [complete, Option.map_eq_some_iff] at completes
  obtain ⟨completion, -, handled⟩ := completes
  cases result with
  | none =>
      obtain ⟨rfl, rfl⟩ := Prod.mk.inj handled
      exact ⟨.inl rfl, ⟨[], (List.append_nil _).symm⟩, .inl rfl⟩
  | some created =>
      cases completion with
      | offerForConstraints | answerForConstraints =>
          obtain ⟨rfl, rfl⟩ := Prod.mk.inj handled
          exact ⟨.inl rfl, ⟨[_], rfl⟩, .inl rfl⟩
      | setLocalOffer sdp =>
          obtain ⟨rfl, rfl⟩ := Prod.mk.inj handled
          exact ⟨.inl rfl, ⟨[], (List.append_nil _).symm⟩, .inr ⟨sdp, .inl rfl⟩⟩
      | setLocalAnswer sdp =>
          obtain ⟨rfl, rfl⟩ := Prod.mk.inj handled
          exact ⟨.inl rfl, ⟨[], (List.append_nil _).symm⟩, .inr ⟨sdp, .inr rfl⟩⟩
      | setRemoteOffer author =>
          obtain ⟨rfl, rfl⟩ := Prod.mk.inj handled
          exact ⟨.inr rfl, ⟨[_], rfl⟩, .inl rfl⟩
      | setRemoteAnswer author =>
          obtain ⟨rfl, rfl⟩ := Prod.mk.inj handled
          exact ⟨.inr rfl, ⟨[], (List.append_nil _).symm⟩, .inl rfl⟩

namespace Device

variable {device next : Device} {input : Input} {signals : List Json}

def negotiation (device : Device) : Negotiation :=
  device.endpoint.negotiation

/-! ## Only completion handlers change it -/

theorem onSend_negotiation (device : Device) :
    device.onSend.1.negotiation = device.negotiation := by
  unfold onSend
  split
  case h_1 => rfl
  case h_2 url sendable =>
    split
    case isTrue =>
      split
      case h_1 => rfl
      case h_2 client sent =>
        obtain ⟨file, -, -, -, -, -, rfl⟩ := RTCClient.sendFileAtURL_ok sent
        rw [RTCClient.beginSending_eq]
        rfl
    case isFalse =>
      split
      case h_1 => rfl
      case h_2 => rfl

theorem handle_negotiation (device : Device) (call : DelegateCall) :
    (device.handle call).1.negotiation = device.negotiation := by
  cases call with
  | dataChannelStateDidChange state =>
      simp only [handle, dataChannelStateDidChange]
      split
      · exact device.clearPending.onSend_negotiation
      · rfl
  | didUpdateOnlinePeers | didReceivePeerName | fileReceiveOffered | fileReceiveProgress
  | fileSendProgress | fileTransferDidFinish => rfl

theorem handleAll_negotiation (device : Device) (calls : List DelegateCall) :
    (device.handleAll calls).1.negotiation = device.negotiation := by
  induction calls generalizing device with
  | nil => rfl
  | cons call rest inductionHypothesis =>
      have later := inductionHypothesis (device.handle call).1
      simp only [handleAll]
      rw [later, device.handle_negotiation call]

/-- The frame law: an input that is no completion handler leaves negotiation as
it is. -/
theorem negotiation_of_step
    (stepped : device.step input = some (next, signals))
    (notCompletion : ∀ index result, input ≠ .complete index result) :
    next.negotiation = device.negotiation := by
  cases input with
  | chooseFile | refreshOnlinePeers | generateIceCandidate =>
      simp only [step, Option.some.injEq, Prod.mk.injEq] at stepped
      obtain ⟨rfl, -⟩ := stepped
      rfl
  | selectRow row =>
      simp only [step, Option.some.injEq] at stepped
      have same : (device.tableViewSelectionDidChange row).1.negotiation =
          device.negotiation := by
        unfold tableViewSelectionDidChange
        dsimp only
        split
        · rfl
        · unfold onSelectPeerIP
          split <;> rfl
      rw [stepped] at same
      exact same
  | send =>
      simp only [step, Option.some.injEq] at stepped
      have same := device.onSend_negotiation
      rw [stepped] at same
      exact same
  | runMain =>
      simp only [step, runMain, Option.map_eq_some_iff, Prod.exists] at stepped
      obtain ⟨client, calls, acted, handled⟩ := stepped
      have signaling := RTCClient.signaling_of_effect (RTCClient.effect_of_act acted)
      have called := handleAll_negotiation (device.withClient client) calls
      have result : next = ((device.withClient client).handleAll calls).1 := by
        have first := congrArg Prod.fst handled
        exact first.symm
      rw [result, called]
      exact Endpoint.negotiation_of_client signaling rfl rfl
  | complete index result => exact absurd rfl (notCompletion index result)
  | channelState peer state =>
      simp only [step] at stepped
      split at stepped
      case isFalse => contradiction
      case isTrue =>
        simp only [Option.some.injEq, Prod.mk.injEq] at stepped
        obtain ⟨rfl, -⟩ := stepped
        exact Endpoint.negotiation_of_client
          (RTCClient.signaling_of_effect (.channelChanged state)) rfl rfl
  | replacedChannelState state =>
      simp only [step, Option.some.injEq, Prod.mk.injEq] at stepped
      obtain ⟨rfl, -⟩ := stepped
      refine Endpoint.negotiation_of_client ?_ rfl rfl
      simp only [Endpoint.replacedChannelDidChangeState]
      split
      · rw [RTCClient.sendHello, RTCClient.sendControlJSON_eq]
        rfl
      · rfl
  | openDataChannel peer state =>
      simp only [step] at stepped
      split at stepped
      case isFalse => contradiction
      case isTrue =>
        simp only [Option.some.injEq, Prod.mk.injEq] at stepped
        obtain ⟨rfl, -⟩ := stepped
        unfold Endpoint.didOpenDataChannel
        split <;> rfl
  | transfer given =>
      simp only [step] at stepped
      split at stepped
      case isFalse => contradiction
      case isTrue =>
        simp only [Option.map_eq_some_iff, Prod.exists, Prod.mk.injEq] at stepped
        obtain ⟨client, calls, acted, rfl, -⟩ := stepped
        exact Endpoint.negotiation_of_client
          (RTCClient.signaling_of_effect (RTCClient.effect_of_act acted)) rfl rfl

end Device

end Net

end WebrtcFileSender
