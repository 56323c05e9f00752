import WebrtcFileSender.Net.Decoding
import WebrtcFileSender.Net.Negotiation

/-!
Contract: the remote candidates of one client.

Owns: one client as a machine whose signals are any JSON values, what each step
does to the candidates, and the law that candidates are added once, in order and
never before a remote description.

A signal that raises ends the run. The server, the other clients and the WebRTC
library are the environment.
-/

namespace WebrtcFileSender.Net

open Signaling

/-- What reaches one client: a signal, or an input of its own. -/
inductive Stimulus where
  | signal (json : Json) (author : Option SocketId)
  | act (input : Input)

/-- What a step does with a remote candidate or description: a candidate is
received, or `setRemoteDescription:` has succeeded. -/
inductive Report where
  | received (candidate : RTCIceCandidate)
  | described
deriving DecidableEq, Repr

/-- The completion handler of a `setRemoteDescription:`. -/
def Completion.isRemote : Completion → Bool
  | .setRemoteOffer _ | .setRemoteAnswer _ => true
  | _ => false

/-- The candidates that were received, in order. -/
def receivedCandidates (reports : List Report) : List RTCIceCandidate :=
  reports.filterMap fun
    | .received candidate => some candidate
    | .described => none

namespace Device

/-- The candidate that a stimulus brings. -/
def candidateOf : Stimulus → Option RTCIceCandidate
  | .signal json _ =>
      if json.stringField? "type" = some "candidate" then
        (Endpoint.decodeCandidate json).toOption
      else none
  | .act _ => none

/-- The stimulus is the successful end of a `setRemoteDescription:`. -/
def describes (device : Device) : Stimulus → Bool
  | .act (.complete index (some _)) =>
      device.endpoint.completions[index]?.any Completion.isRemote
  | _ => false

def reports (device : Device) (stimulus : Stimulus) : List Report :=
  (candidateOf stimulus).toList.map .received ++
    if device.describes stimulus then [.described] else []

def stimulated (device : Device) : Stimulus → Option Device
  | .signal json author =>
      match device.endpoint.receiveSignalMessage true json author with
      | .ok endpoint => some { device with endpoint := endpoint }
      | .error _ => none
  | .act input => (device.step input).map Prod.fst

def react (device : Device) (stimulus : Stimulus) : Option (Device × List Report) :=
  (device.stimulated stimulus).map fun next => (next, device.reports stimulus)

end Device

/-- Runs of one client after `start`. -/
abbrev DeviceRun (clientId : Nat) (helloName : String)
    (guard : Device → Stimulus → Prop) :=
  Machine.Run Device.react guard (Device.initial clientId helloName)

/-! ## One step -/

/-- What one step does to the candidates: a candidate is added or queued, the
queue is flushed, or nothing changes. -/
inductive CandidateEffect (before after : Negotiation) : List Report → Prop
  | added (candidate : RTCIceCandidate)
      (described : before.hasRemoteDescription = true)
      (result : after =
        { before with addedCandidates := before.addedCandidates ++ [candidate] }) :
      CandidateEffect before after [.received candidate]
  | queued (candidate : RTCIceCandidate)
      (undescribed : before.hasRemoteDescription = false)
      (result : after =
        { before with pendingCandidates := before.pendingCandidates ++ [candidate] }) :
      CandidateEffect before after [.received candidate]
  | flushed
      (described : after.hasRemoteDescription = true)
      (pending : after.pendingCandidates = [])
      (added : after.addedCandidates = before.addedCandidates ++ before.pendingCandidates) :
      CandidateEffect before after [.described]
  | kept
      (described : after.hasRemoteDescription = before.hasRemoteDescription)
      (pending : after.pendingCandidates = before.pendingCandidates)
      (added : after.addedCandidates = before.addedCandidates) :
      CandidateEffect before after []

open Foundation

/-- A candidate is added or queued. -/
theorem Endpoint.receiveCandidate_effect (endpoint : Endpoint) (candidate : RTCIceCandidate) :
    CandidateEffect endpoint.negotiation (endpoint.receiveCandidate candidate).negotiation
      [.received candidate] := by
  unfold receiveCandidate
  split
  case isTrue described => exact .added candidate described rfl
  case isFalse undescribed =>
    exact .queued candidate (Bool.eq_false_iff.mpr undescribed) rfl

/-- One round of `receiveSignal` over any JSON value does what it does in the
typed model, with the candidate decoded. -/
theorem Endpoint.signalEffect_of_read {endpoint following : Endpoint} {json : Json}
    {author : Option SocketId}
    (read : endpoint.receiveSignalMessage true json author = .ok following) :
    SignalEffect endpoint json author (decodeCandidate json = .ok ·) following := by
  obtain ⟨type, field, read⟩ := bind_eq_ok.mp read
  have tested : ∀ text, isEqual type text = true ↔ json.stringField? "type" = some text := by
    intro text
    cases json with
    | obj fields =>
        obtain rfl := Except.ok.inj field
        simp [isEqual, Json.stringField?, Json.field?]
    | null | bool | num | str | arr => contradiction
  simp only [tested] at read
  split at read
  case isTrue isRole =>
    obtain rfl := Except.ok.inj read
    exact .role isRole
  case isFalse notRole =>
    split at read
    case isTrue isJoined =>
      obtain rfl := Except.ok.inj read
      exact .peerJoined isJoined
    case isFalse =>
      split at read
      case isTrue isLeft =>
        obtain rfl := Except.ok.inj read
        exact .dispatched _ (.inl isLeft)
      case isFalse =>
        split at read
        case isTrue isError =>
          obtain rfl := Except.ok.inj read
          exact .ignored notRole (by simp [isError])
        case isFalse =>
          split at read
          case isTrue isPeers =>
            obtain rfl := Except.ok.inj read
            exact .dispatched _ (.inr isPeers)
          case isFalse =>
            split at read
            case isTrue isOffer =>
              obtain ⟨sdp, -, returned⟩ := bind_eq_ok.mp read
              obtain rfl := Except.ok.inj returned
              exact .offer isOffer
            case isFalse =>
              split at read
              case isTrue isAnswer =>
                obtain ⟨sdp, -, returned⟩ := bind_eq_ok.mp read
                obtain rfl := Except.ok.inj returned
                exact .answer isAnswer
              case isFalse =>
                split at read
                case isTrue isCandidate =>
                  obtain ⟨candidate, decoded, returned⟩ := bind_eq_ok.mp read
                  obtain rfl := Except.ok.inj returned
                  exact .candidate candidate isCandidate decoded
                case isFalse notCandidate =>
                  obtain rfl := Except.ok.inj read
                  exact .ignored notRole notCandidate

/-- A signal brings a candidate or leaves the candidates as they are. -/
theorem Endpoint.candidateEffect_of_read {endpoint following : Endpoint} {json : Json}
    {author : Option SocketId}
    (read : endpoint.receiveSignalMessage true json author = .ok following) :
    CandidateEffect endpoint.negotiation following.negotiation
      ((Device.candidateOf (.signal json author)).toList.map .received) := by
  have none_of : json.stringField? "type" ≠ some "candidate" →
      Device.candidateOf (.signal json author) = none := by
    intro notCandidate
    simp [Device.candidateOf, notCandidate]
  cases signalEffect_of_read read with
  | candidate candidate isCandidate decoded =>
      simp only [Device.candidateOf, isCandidate, if_true, decoded]
      exact endpoint.receiveCandidate_effect candidate
  | role isRole =>
      rw [none_of (by simp [isRole])]
      exact .kept rfl rfl rfl
  | peerJoined isJoined =>
      rw [none_of (by simp [isJoined])]
      unfold receivePeerJoined
      dsimp only
      split
      · exact .kept rfl rfl rfl
      · exact .kept rfl rfl rfl
  | dispatched block isReport =>
      rw [none_of (by rcases isReport with isLeft | isPeers <;> simp [*])]
      exact .kept rfl rfl rfl
  | offer isOffer =>
      rw [none_of (by simp [isOffer])]
      exact .kept rfl rfl rfl
  | answer isAnswer =>
      rw [none_of (by simp [isAnswer])]
      exact .kept rfl rfl rfl
  | ignored _ notCandidate =>
      rw [none_of notCandidate]
      exact .kept rfl rfl rfl

/-- A completion handler flushes the queue exactly after a successful
`setRemoteDescription:`. -/
theorem Endpoint.complete_effect {endpoint following : Endpoint} {index : Nat}
    {result : Option String} {signals : List Json} {completion : Completion}
    (atIndex : endpoint.completions[index]? = some completion)
    (completes : endpoint.complete index result = some (following, signals)) :
    CandidateEffect endpoint.negotiation following.negotiation
      (if result.isSome = true ∧ completion.isRemote = true then [.described] else []) := by
  simp only [complete, atIndex, Option.map_some, Option.some.injEq] at completes
  cases result with
  | none =>
      obtain ⟨rfl, -⟩ := Prod.mk.inj completes
      exact .kept rfl rfl rfl
  | some created =>
      cases completion with
      | offerForConstraints | setLocalOffer | answerForConstraints | setLocalAnswer =>
          obtain ⟨rfl, -⟩ := Prod.mk.inj completes
          exact .kept rfl rfl rfl
      | setRemoteOffer | setRemoteAnswer =>
          obtain ⟨rfl, -⟩ := Prod.mk.inj completes
          exact .flushed rfl rfl rfl

namespace Device

variable {device next : Device} {stimulus : Stimulus} {fresh : List Report}

/-- Every step has one of the effects. -/
theorem candidateEffect_of_react (reacted : device.react stimulus = some (next, fresh)) :
    CandidateEffect device.negotiation next.negotiation fresh := by
  simp only [react, Option.map_eq_some_iff, Prod.mk.injEq] at reacted
  obtain ⟨following, stimulated, rfl, rfl⟩ := reacted
  cases stimulus with
  | signal json author =>
      simp only [Device.stimulated] at stimulated
      split at stimulated
      case h_2 => contradiction
      case h_1 endpoint read =>
        obtain rfl := Option.some.inj stimulated
        simp only [reports, describes, Bool.false_eq_true, if_false, List.append_nil]
        exact Endpoint.candidateEffect_of_read read
  | act input =>
      simp only [Device.stimulated, Option.map_eq_some_iff, Prod.exists, exists_and_right,
        exists_eq_right] at stimulated
      obtain ⟨signals, stepped⟩ := stimulated
      have noCandidate : candidateOf (.act input) = none := rfl
      simp only [reports, noCandidate, Option.toList_none, List.map_nil, List.nil_append]
      cases input with
      | complete index result =>
          simp only [step, Option.map_eq_some_iff, Prod.exists, Prod.mk.injEq] at stepped
          obtain ⟨endpoint, sent, completes, rfl, -⟩ := stepped
          cases atIndex : device.endpoint.completions[index]? with
          | none => simp [Endpoint.complete, atIndex] at completes
          | some completion =>
              have effect := Endpoint.complete_effect atIndex completes
              cases result with
              | none => exact effect
              | some created =>
                  simp only [Option.isSome_some, true_and] at effect
                  simp only [describes, atIndex, Option.any_some]
                  exact effect
      | chooseFile | selectRow | send | refreshOnlinePeers | runMain | generateIceCandidate
      | channelState | replacedChannelState | openDataChannel | transfer =>
          have same := negotiation_of_step stepped (by simp)
          rw [same]
          exact .kept rfl rfl rfl

end Device

/-! ## Whole runs -/

/-- What holds between the reports of a run and the candidates. -/
structure CandidateInvariant (reports : List Report) (negotiation : Negotiation) : Prop where
  sequence : negotiation.addedCandidates ++ negotiation.pendingCandidates =
    receivedCandidates reports
  described : negotiation.hasRemoteDescription = true ↔ .described ∈ reports
  early : negotiation.hasRemoteDescription = false → negotiation.addedCandidates = []
  flushed : negotiation.hasRemoteDescription = true → negotiation.pendingCandidates = []

theorem CandidateInvariant.step {reports fresh : List Report} {before after : Negotiation}
    (invariant : CandidateInvariant reports before)
    (effect : CandidateEffect before after fresh) :
    CandidateInvariant (reports ++ fresh) after := by
  have received : receivedCandidates (reports ++ fresh) =
      receivedCandidates reports ++ receivedCandidates fresh := List.filterMap_append
  cases effect with
  | added candidate described result =>
      subst result
      refine ⟨?_, ?_, ?_, invariant.flushed⟩
      · have nothingPending := invariant.flushed described
        have sequence := invariant.sequence
        simp only [nothingPending, List.append_nil] at sequence ⊢
        rw [received, ← sequence]
        rfl
      · simp [invariant.described]
      · intro undescribed
        rw [described] at undescribed
        contradiction
  | queued candidate undescribed result =>
      subst result
      refine ⟨?_, ?_, invariant.early, ?_⟩
      · rw [received, ← invariant.sequence, List.append_assoc]
        rfl
      · simp [invariant.described]
      · intro described
        rw [undescribed] at described
        contradiction
  | flushed described pending added =>
      refine ⟨?_, ?_, ?_, fun _ => pending⟩
      · rw [received, added, pending, List.append_nil, invariant.sequence]
        exact (List.append_nil _).symm
      · simp [described]
      · intro undescribed
        rw [described] at undescribed
        contradiction
  | kept described pending added =>
      rw [List.append_nil]
      refine ⟨?_, ?_, ?_, ?_⟩
      · rw [added, pending]
        exact invariant.sequence
      · rw [described]
        exact invariant.described
      · rw [described, added]
        exact invariant.early
      · rw [described, pending]
        exact invariant.flushed

/-- **Candidates are never lost, duplicated, reordered or added early.** In every
run of a client, whatever signals arrive and whenever and however its completion
handlers are called: the candidates that were added, followed by those that wait,
are the candidates received, in order. Before the first successful
`setRemoteDescription:` none has been added; after it none waits, so every
candidate received has been added, in order. -/
theorem candidates_added_once_in_order
    {clientId : Nat} {helloName : String} {stimuli : List Stimulus} {reports : List Report}
    {device : Device}
    (run : DeviceRun clientId helloName Machine.free stimuli reports device) :
    device.endpoint.addedCandidates ++ device.endpoint.client.pendingCandidates =
      receivedCandidates reports ∧
    (.described ∉ reports → device.endpoint.addedCandidates = []) ∧
    (.described ∈ reports → device.endpoint.client.pendingCandidates = [] ∧
      device.endpoint.addedCandidates = receivedCandidates reports) := by
  have invariant : CandidateInvariant reports device.negotiation :=
    run.invariant (fun reports device => CandidateInvariant reports device.negotiation)
      ⟨rfl, by simp [Device.negotiation, Endpoint.negotiation, Device.initial,
        Endpoint.initial, RTCClient.initial], fun _ => rfl, fun _ => rfl⟩
      fun invariant _ reacted => invariant.step (Device.candidateEffect_of_react reacted)
  refine ⟨invariant.sequence, ?_, ?_⟩
  · intro never
    apply invariant.early
    rw [← Bool.not_eq_true, invariant.described]
    exact never
  · intro once
    have pending := invariant.flushed (invariant.described.mpr once)
    have sequence := invariant.sequence
    rw [pending, List.append_nil] at sequence
    exact ⟨pending, sequence⟩

/-- Two candidates come before the offer, its description fails once and then
succeeds, and a third candidate follows. -/
def earlyCandidates : List Stimulus :=
  let candidate (sdp : String) : Stimulus :=
    .signal (Endpoint.candidateMessage ⟨sdp, 0, "0"⟩) (some 1)
  [candidate "one", .signal (Endpoint.offerMessage "sdp of the offer") (some 1),
    candidate "two", .act (.complete 0 none),
    .signal (Endpoint.offerMessage "sdp of the offer") (some 1),
    .act (.complete 0 (some "")), candidate "three"]

theorem candidates_added_once_in_order_earlyCandidates :
    ∃ reports device,
      DeviceRun 0 "mac#001" Machine.free earlyCandidates reports device ∧
      device.endpoint.addedCandidates.map RTCIceCandidate.sdp = ["one", "two", "three"] ∧
      device.endpoint.client.pendingCandidates = [] := by
  obtain ⟨device, reports, run, checked⟩ :
      ∃ device reports,
        DeviceRun 0 "mac#001" Machine.free earlyCandidates reports device ∧
        decide (.described ∈ reports ∧
          (receivedCandidates reports).map RTCIceCandidate.sdp = ["one", "two", "three"]) =
          true :=
    Machine.run_of_exec_any (fun (_ : Device) (reports : List Report) =>
      decide (.described ∈ reports ∧
        (receivedCandidates reports).map RTCIceCandidate.sdp = ["one", "two", "three"]))
      (by decide)
  obtain ⟨once, received⟩ := of_decide_eq_true checked
  obtain ⟨-, -, after⟩ := candidates_added_once_in_order run
  obtain ⟨pending, added⟩ := after once
  refine ⟨reports, device, run, ?_, pending⟩
  rw [added]
  exact received

end WebrtcFileSender.Net
