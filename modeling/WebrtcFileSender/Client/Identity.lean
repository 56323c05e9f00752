import WebrtcFileSender.Client.Involvement

/-!
Contract: whose transfers a client holds.

Owns: the invariant that a client sends transfers of its own and receives those
of others, as long as the offers it receives are transfers of others.
-/

namespace WebrtcFileSender

namespace RTCClient

variable {client next : RTCClient} {input : Input} {calls : List DelegateCall}

/-- A client sends its own transfers, begun in the past, and receives others. -/
structure OwnIdentities (client : RTCClient) : Prop where
  sending : ∀ handle ∈ client.sendHandle,
    handle.transfer.sender = client.clientId ∧ handle.transfer.seq < client.begun
  receiving : ∀ handle ∈ client.recvHandle, ∀ transfer ∈ handle.transfer,
    transfer.sender ≠ client.clientId
  incoming : ∀ transfer ∈ client.incomingTransfer, transfer.sender ≠ client.clientId

namespace OwnIdentities

theorem initial (clientId : Nat) (helloName : String) :
    OwnIdentities (RTCClient.initial clientId helloName) where
  sending := by simp [RTCClient.initial]
  receiving := by simp [RTCClient.initial]
  incoming := by simp [RTCClient.initial]

theorem effect
    (identities : OwnIdentities client)
    (foreign : ∀ name size chunk transfer outcome,
      input = .receive ⟨.ftOffer name size chunk, transfer⟩ outcome →
      ∀ offered ∈ transfer, offered.sender ≠ client.clientId)
    (effect : Effect client input next calls) :
    OwnIdentities next := by
  obtain ⟨sending, receiving, incoming⟩ := identities
  obtain ⟨sameId, grows⟩ := identity_of_effect effect
  constructor
  · intro handle isHandle
    rw [sameId]
    rcases sends_before effect (sends_of_sendHandle isHandle) with sends | ⟨same, begins⟩
    · obtain ⟨old, isOld, same⟩ := sends.handle
      obtain ⟨own, past⟩ := sending old isOld
      rw [← same]
      exact ⟨own, Nat.lt_of_lt_of_le past grows⟩
    · rw [same, begins.begun effect]
      exact ⟨rfl, Nat.lt_succ_self _⟩
  · intro handle isHandle transfer tagged
    rw [sameId]
    rcases receives_before effect ⟨handle, isHandle, tagged⟩ with
      ⟨old, isOld, same⟩ | ⟨pending, -⟩
    · exact receiving old isOld transfer same
    · exact incoming transfer pending
  · intro transfer isPending
    rw [sameId]
    rcases pending_before effect isPending with
      before | ⟨packet, outcome, received, ⟨name, size, chunk, rfl⟩, -⟩
    · exact incoming transfer before
    · exact foreign name size chunk _ outcome received transfer rfl

end OwnIdentities

end RTCClient

end WebrtcFileSender
