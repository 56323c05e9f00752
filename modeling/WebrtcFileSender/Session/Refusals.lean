import WebrtcFileSender.Client.Refusal
import WebrtcFileSender.Session.Accounts

/-!
Contract: two clients on a channel that may have no room.

Owns: the machine of two clients in which the channel may refuse what an action hands
over, the condition that it refuses nothing about a transfer, and that a refusal under
this condition leaves both accounts of a transfer in agreement.

Apart from the refusals it is the machine of `Session.step`.
-/

namespace WebrtcFileSender

namespace Session

open RTCClient

/-- An action, and whether the channel of the client that acts has room. -/
structure Attempt where
  action : Action
  hasRoom : Bool

namespace Attempt

def taken (action : Action) : Attempt := ⟨action, true⟩

def refused (action : Action) : Attempt := ⟨action, false⟩

end Attempt

/-- An action of a client whose packets the channel does not take. -/
def stepRefused (session : Session) : Action → Option (Session × List Event)
  | .take side input =>
      if Possible (session side) input then
        ((session side).actRefused input).map fun (next, calls) =>
          (Function.update session side next, events side (session side) next calls)
      else none
  | .deliver side outcome =>
      match (session side.peer).outgoing with
      | [] => none
      | packet :: rest =>
          if (session side).isDataChannelOpen then
            let client := session side
            let next := client.withoutSent (client.didReceiveMessage packet outcome)
            some
              (Function.update
                (Function.update session side.peer
                  { session side.peer with outgoing := rest }) side next,
                .delivered side packet :: events side client next [])
          else none

def attempt (session : Session) (attempt : Attempt) : Option (Session × List Event) :=
  if attempt.hasRoom then session.step attempt.action
  else session.stepRefused attempt.action

/-- The action hands no message about a transfer to the channel. -/
def Silent (session : Session) : Action → Prop
  | .take side input => (session side).Silent input
  | .deliver side outcome =>
      ∀ packet ∈ (session side.peer).outgoing.head?,
        (session side).Silent (.receive packet outcome)

instance (session : Session) : (action : Action) → Decidable (session.Silent action)
  | .take side input => inferInstanceAs (Decidable ((session side).Silent input))
  | .deliver side outcome =>
      inferInstanceAs (Decidable (∀ packet ∈ (session side.peer).outgoing.head?,
        (session side).Silent (.receive packet outcome)))

/-- The channel does not close, every end of a transfer is told, and the channel takes
every message that tells of one. -/
def ToldInFull (session : Session) (attempt : Attempt) : Prop :=
  session.Told attempt.action ∧ (attempt.hasRoom = false → session.Silent attempt.action)

instance (session : Session) (attempt : Attempt) : Decidable (session.ToldInFull attempt) :=
  inferInstanceAs (Decidable (_ ∧ _))

/-! ## A refused action -/

variable {session following : Session} {action : Action} {fresh : List Event}

/-- The same action with a sending loop that sees the refusal. -/
def Action.refused : Action → Action
  | .take side input => .take side input.refused
  | .deliver side outcome => .deliver side outcome

theorem Told.refused (told : session.Told action) : session.Told action.refused := by
  obtain ⟨staysOpen, endsAreTold⟩ := told
  match action with
  | .take side (.runFile given) => exact ⟨trivial, endsAreTold⟩
  | .take _ (.sendFileAtURL _) | .take _ .cancelFileTransfer
  | .take _ (.acceptIncomingFileToURL _) | .take _ (.rejectIncomingFileWithReason _)
  | .take _ (.receive _ _) | .take _ .transmit | .take _ .runMain
  | .take _ (.iceConnectionState _) | .take _ (.dataChannelState _) | .deliver _ _ =>
      exact ⟨staysOpen, endsAreTold⟩

theorem Possible.refused {client : RTCClient} {input : Input}
    (possible : Possible client input) : Possible client input.refused := by
  cases input with
  | runFile => trivial
  | _ => exact possible

/-- A refused action is the same action, after which one client has lost packets. Under
the condition none of them names a transfer. -/
theorem drops_of_stepRefused
    (silent : session.Silent action)
    (stepped : session.stepRefused action = some (following, fresh)) :
    ∃ side taken events client,
      Effect session action.refused taken events ∧
      Drops (taken side) client ∧
      following = Function.update taken side client := by
  cases action with
  | take side input =>
      simp only [stepRefused] at stepped
      split at stepped
      case isFalse => contradiction
      case isTrue possible =>
        simp only [actRefused, Option.map_map, Option.map_eq_some_iff, Prod.exists] at stepped
        obtain ⟨next, calls, acted, same⟩ := stepped
        obtain ⟨rfl, -⟩ := Prod.mk.inj same
        have effect := effect_of_act acted
        refine ⟨side, Function.update session side next, _,
          (session side).withoutSent next, .taken side input.refused next calls
            possible.refused effect, ?_, ?_⟩
        · rw [Function.update_self]
          exact RTCClient.Silent.drops silent effect
        · rw [Function.update_idem]
  | deliver side outcome =>
      simp only [stepRefused] at stepped
      split at stepped
      case h_1 => contradiction
      case h_2 packet rest queue =>
        split at stepped
        case isFalse => contradiction
        case isTrue isOpen =>
          simp only [Option.some.injEq, Prod.mk.injEq] at stepped
          obtain ⟨rfl, -⟩ := stepped
          have effect : RTCClient.Effect (session side) (.receive packet outcome)
              ((session side).didReceiveMessage packet outcome) [] := effect_of_act rfl
          have silent : (session side).Silent (.receive packet outcome) :=
            silent packet (by rw [queue]; rfl)
          refine ⟨side, _, _,
            (session side).withoutSent ((session side).didReceiveMessage packet outcome),
            .delivered side outcome packet rest _ queue isOpen effect, ?_, ?_⟩
          · rw [Function.update_self]
            exact silent.drops effect
          · rw [Function.update_idem]

/-! ## Agreement -/

namespace Agreed

variable {sender receiver next : RTCClient}

/-- The sender loses packets that name no transfer. -/
theorem sender_drops (agreed : Agreed sender receiver) (drops : Drops sender next) :
    Agreed next receiver := by
  have sameId : next.clientId = sender.clientId := by rw [drops.same]
  have sameBegun : next.begun = sender.begun := by rw [drops.same]
  have sameSends (transfer : TransferId) : next.Sends transfer = sender.Sends transfer := by
    rw [drops.same]
    rfl
  have sameClearing (transfer : TransferId) :
      next.Clearing transfer = sender.Clearing transfer := by
    rw [drops.same]
    rfl
  have sameLooping (transfer : TransferId) :
      next.Looping transfer = sender.Looping transfer := by
    rw [drops.same]
    rfl
  have sameFinishing (transfer : TransferId) :
      next.Finishing transfer = sender.Finishing transfer := by
    rw [drops.same]
    rfl
  have outstanding (transfer : TransferId) :
      Outstanding next receiver transfer ↔ Outstanding sender receiver transfer :=
    or_congr_left drops.offering_iff
  have releasing (transfer : TransferId) :
      Releasing next receiver transfer ↔ Releasing sender receiver transfer :=
    or_congr_right drops.ending_iff
  constructor
  case offered =>
    rw [sameId]
    exact agreed.offered
  case known =>
    rw [sameId, sameBegun]
    exact agreed.known
  case behind =>
    intro transfer offered mentions offering
    exact agreed.behind transfer offered mentions (drops.offering_iff.mp offering)
  case ends =>
    intro transfer sends settled
    rw [sameSends] at sends
    rw [outstanding, releasing] at settled
    rw [Concluding, sameClearing, sameLooping]
    exact agreed.ends transfer sends settled
  case releases =>
    intro transfer own isOver isOutstanding
    rw [sameId] at own
    rw [IsOver, sameSends, sameClearing, sameFinishing] at isOver
    rw [outstanding] at isOutstanding
    rw [releasing]
    exact agreed.releases transfer own isOver isOutstanding

/-- So does the receiver. -/
theorem receiver_drops (agreed : Agreed sender receiver) (drops : Drops receiver next) :
    Agreed sender next := by
  have samePending (transfer : TransferId) :
      next.Pending transfer = receiver.Pending transfer := by
    rw [drops.same]
    rfl
  have sameReceives (transfer : TransferId) :
      next.Receives transfer = receiver.Receives transfer := by
    rw [drops.same]
    rfl
  have sameClearing (transfer : TransferId) :
      next.Clearing transfer = receiver.Clearing transfer := by
    rw [drops.same]
    rfl
  constructor
  case offered =>
    intro transfer pending
    rw [samePending] at pending
    exact agreed.offered transfer pending
  case known =>
    intro transfer mentions
    exact agreed.known transfer (drops.mentions mentions)
  case behind =>
    intro transfer offered mentions
    exact agreed.behind transfer offered (drops.mentions mentions)
  case ends =>
    intro transfer sends settled
    rw [Outstanding, Releasing, samePending, sameReceives, sameClearing] at settled
    rw [Concluding, drops.ending_iff, drops.accepting_iff]
    exact agreed.ends transfer sends settled
  case releases =>
    intro transfer own isOver isOutstanding
    rw [IsOver, drops.ending_iff] at isOver
    rw [Outstanding, samePending] at isOutstanding
    rw [Releasing, sameClearing]
    exact agreed.releases transfer own isOver isOutstanding

end Agreed

end Session

end WebrtcFileSender
