import WebrtcFileSender.Net.Candidates

/-!
Contract: candidates and descriptions over successive pairings of one client.

A pairing of a client begins with a `role` message. Neither `hasRemoteDescription`
nor `pendingCandidates` is reset between pairings, so a candidate can be added on
the strength of a description of another pairing.

Owns: the client with, as ghost data, the pairing in which each candidate and
each description arrived, and the exact condition under which every candidate is
added in its own pairing after a description of that pairing.

The candidates that were added are a prefix of those received, so the ghost list
of receptions dates the additions too.
-/

namespace WebrtcFileSender.Net

open Signaling

/-- A client with the pairings of what it has received. -/
structure Dated where
  device : Device
  /-- The number of `role` messages so far. -/
  pairing : Nat
  /-- The pairing in which each candidate arrived. -/
  received : List Nat
  /-- The pairing in which each waiting completion handler was registered. -/
  registered : List Nat
  /-- The pairings of the remote descriptions that were applied. -/
  described : List Nat

/-- A call of `addIceCandidate:`: the pairing in which the candidate arrived, the
pairing in which it is added, and whether a description that arrived in the
former has been applied. -/
structure Addition where
  received : Nat
  during : Nat
  described : Bool
deriving DecidableEq, Repr

namespace Dated

def initial (clientId : Nat) (helloName : String) : Dated where
  device := .initial clientId helloName
  pairing := 0
  received := []
  registered := []
  described := []

/-- A `role` message opens a pairing. -/
def opens : Stimulus → Bool
  | .signal json _ => json.stringField? "type" == some "role"
  | .act _ => false

/-- The pairing of the completion handler that is called. -/
def origin (dated : Dated) : Stimulus → Option Nat
  | .act (.complete index _) => dated.registered[index]?
  | _ => none

/-- The handlers that wait on. -/
def remaining (dated : Dated) : Stimulus → List Nat
  | .act (.complete index _) => dated.registered.eraseIdx index
  | _ => dated.registered

/-- The candidates that wait for a description. -/
def waiting (dated : Dated) : List Nat :=
  dated.received.drop dated.device.endpoint.addedCandidates.length

/-- The ghost data after a step of the client to `next`. -/
def follow (dated : Dated) (stimulus : Stimulus) (next : Device) : Dated where
  device := next
  pairing := if opens stimulus then dated.pairing + 1 else dated.pairing
  received := dated.received ++ (Device.candidateOf stimulus).toList.map fun _ => dated.pairing
  registered := dated.remaining stimulus ++
    List.replicate (next.endpoint.completions.length - (dated.remaining stimulus).length)
      dated.pairing
  described := dated.described ++
    if dated.device.describes stimulus then (dated.origin stimulus).toList else []

/-- The candidates that a step adds. -/
def additions (dated following : Dated) : List Addition :=
  (following.received.take following.device.endpoint.addedCandidates.length).drop
      dated.device.endpoint.addedCandidates.length |>.map fun received =>
    ⟨received, dated.pairing, following.described.contains received⟩

def step (dated : Dated) (stimulus : Stimulus) : Option (Dated × List Addition) :=
  (dated.device.stimulated stimulus).map fun next =>
    (dated.follow stimulus next, dated.additions (dated.follow stimulus next))

end Dated

/-- Runs of one client with the pairings of what it receives. -/
abbrev DatedRun (clientId : Nat) (helloName : String) (guard : Dated → Stimulus → Prop) :=
  Machine.Run Dated.step guard (Dated.initial clientId helloName)

/-- The candidate is added in the pairing in which it arrived, after a
description that arrived in that pairing. -/
def Addition.InOwnPairing (addition : Addition) : Prop :=
  addition.described = true ∧ addition.received = addition.during

instance (addition : Addition) : Decidable addition.InOwnPairing :=
  inferInstanceAs (Decidable (_ ∧ _))

namespace Dated

/-- A candidate that arrives when a description is already there finds one of
its own pairing. A description that is applied while candidates wait arrived, as
all of them did, in the current pairing. -/
def Timely (dated : Dated) (stimulus : Stimulus) : Prop :=
  ((Device.candidateOf stimulus).isSome = true →
    dated.device.endpoint.client.hasRemoteDescription = true →
    dated.pairing ∈ dated.described) ∧
  (dated.device.describes stimulus = true → ∀ received ∈ dated.waiting,
    received = dated.pairing ∧ dated.origin stimulus = some received)

instance (dated : Dated) (stimulus : Stimulus) : Decidable (dated.Timely stimulus) :=
  inferInstanceAs (Decidable ((_ → _ → _) ∧ (_ → ∀ received ∈ dated.waiting, _ ∧ _)))

end Dated

/-! ## The handlers that wait -/

namespace Device

/-- The completion handlers that a stimulus leaves waiting. -/
def remaining (device : Device) : Stimulus → List Completion
  | .act (.complete index _) => device.endpoint.completions.eraseIdx index
  | _ => device.endpoint.completions

/-- Handlers are called in any order and registered at the end. -/
theorem completions_of_stimulated {device next : Device} {stimulus : Stimulus}
    (stimulated : device.stimulated stimulus = some next) :
    ∃ fresh, next.endpoint.completions = device.remaining stimulus ++ fresh := by
  cases stimulus with
  | signal json author =>
      simp only [Device.stimulated] at stimulated
      split at stimulated
      case h_2 => contradiction
      case h_1 endpoint read =>
        obtain rfl := Option.some.inj stimulated
        cases Endpoint.signalEffect_of_read read with
        | role | dispatched | ignored => exact ⟨[], (List.append_nil _).symm⟩
        | offer | answer => exact ⟨[_], rfl⟩
        | peerJoined =>
            unfold Endpoint.receivePeerJoined
            dsimp only
            split
            · exact ⟨[_], rfl⟩
            · exact ⟨[], (List.append_nil _).symm⟩
        | candidate =>
            unfold Endpoint.receiveCandidate
            split
            · exact ⟨[], (List.append_nil _).symm⟩
            · exact ⟨[], (List.append_nil _).symm⟩
  | act input =>
      simp only [Device.stimulated, Option.map_eq_some_iff, Prod.exists, exists_and_right,
        exists_eq_right] at stimulated
      obtain ⟨signals, stepped⟩ := stimulated
      cases input with
      | complete index result =>
          simp only [step, Option.map_eq_some_iff, Prod.exists, Prod.mk.injEq] at stepped
          obtain ⟨endpoint, sent, completes, rfl, -⟩ := stepped
          exact (Endpoint.complete_spec completes).2.1
      | chooseFile | selectRow | send | refreshOnlinePeers | runMain | generateIceCandidate
      | channelState | replacedChannelState | openDataChannel | transfer =>
          have same := congrArg Negotiation.completions (negotiation_of_step stepped (by simp))
          exact ⟨[], same.trans (List.append_nil _).symm⟩

/-- The report of a stimulus says whether it brings a candidate and whether it
applies a description. -/
theorem reports_cases (device : Device) (stimulus : Stimulus) :
    (∀ candidate, device.reports stimulus = [.received candidate] →
      candidateOf stimulus = some candidate ∧ device.describes stimulus = false) ∧
    (device.reports stimulus = [.described] →
      candidateOf stimulus = none ∧ device.describes stimulus = true) ∧
    (device.reports stimulus = [] →
      candidateOf stimulus = none ∧ device.describes stimulus = false) := by
  unfold reports
  cases candidateOf stimulus <;> cases device.describes stimulus <;> simp

end Device

/-! ## Whole runs -/

/-- What every step keeps of the ghost data. -/
structure DatedInvariant (dated : Dated) : Prop where
  aligned : dated.registered.length = dated.device.endpoint.completions.length
  counted : dated.received.length = dated.device.endpoint.addedCandidates.length +
    dated.device.endpoint.client.pendingCandidates.length
  described : dated.device.endpoint.client.hasRemoteDescription = true ↔ dated.described ≠ []
  flushed : dated.device.endpoint.client.hasRemoteDescription = true →
    dated.device.endpoint.client.pendingCandidates = []

namespace DatedInvariant

variable {dated : Dated} {stimulus : Stimulus} {next : Device}

theorem initial (clientId : Nat) (helloName : String) :
    DatedInvariant (.initial clientId helloName) where
  aligned := rfl
  counted := rfl
  described := by simp [Dated.initial, Device.initial, Endpoint.initial, RTCClient.initial]
  flushed := fun _ => rfl

/-- The handler that applies a description is dated. -/
theorem origin_of_describes (invariant : DatedInvariant dated)
    (describes : dated.device.describes stimulus = true) :
    ∃ pairing, dated.origin stimulus = some pairing := by
  unfold Device.describes at describes
  split at describes
  case h_2 => contradiction
  case h_1 index created =>
    have inside : index < dated.device.endpoint.completions.length := by
      by_contra outside
      rw [List.getElem?_eq_none (Nat.not_lt.mp outside)] at describes
      contradiction
    rw [← invariant.aligned] at inside
    exact ⟨_, List.getElem?_eq_getElem inside⟩

theorem aligned_follow (invariant : DatedInvariant dated)
    (stimulated : dated.device.stimulated stimulus = some next) :
    (dated.follow stimulus next).registered.length = next.endpoint.completions.length := by
  obtain ⟨fresh, grown⟩ := Device.completions_of_stimulated stimulated
  have sameLength : (dated.remaining stimulus).length =
      (dated.device.remaining stimulus).length := by
    unfold Dated.remaining Device.remaining
    split
    · rw [List.length_eraseIdx, List.length_eraseIdx, invariant.aligned]
    · exact invariant.aligned
  have total := congrArg List.length grown
  rw [List.length_append, ← sameLength] at total
  simp only [Dated.follow, List.length_append, List.length_replicate]
  omega

/-- What a step does to the candidates, with what it says of the stimulus. -/
theorem effect_of_stimulated (stimulated : dated.device.stimulated stimulus = some next) :
    ∃ fresh, CandidateEffect dated.device.negotiation next.negotiation fresh ∧
      (∀ candidate, fresh = [.received candidate] →
        Device.candidateOf stimulus = some candidate ∧
          dated.device.describes stimulus = false) ∧
      (fresh = [.described] →
        Device.candidateOf stimulus = none ∧ dated.device.describes stimulus = true) ∧
      (fresh = [] →
        Device.candidateOf stimulus = none ∧ dated.device.describes stimulus = false) := by
  have reacted : dated.device.react stimulus =
      some (next, dated.device.reports stimulus) := by
    simp [Device.react, stimulated]
  exact ⟨_, Device.candidateEffect_of_react reacted, dated.device.reports_cases stimulus⟩

theorem follow (invariant : DatedInvariant dated)
    (stimulated : dated.device.stimulated stimulus = some next) :
    DatedInvariant (dated.follow stimulus next) := by
  have counted := invariant.counted
  have describedBefore := invariant.described
  have flushedBefore := invariant.flushed
  obtain ⟨fresh, effect, received, describes, neither⟩ := effect_of_stimulated stimulated
  refine ⟨invariant.aligned_follow stimulated, ?_, ?_, ?_⟩
  · cases effect with
    | added candidate described result =>
        obtain ⟨brings, -⟩ := received candidate rfl
        have added := congrArg Negotiation.addedCandidates result
        have pending := congrArg Negotiation.pendingCandidates result
        simp only [Device.negotiation, Endpoint.negotiation] at added pending
        simp only [Dated.follow, brings, added, pending, Option.toList_some, List.map_cons,
          List.map_nil, List.length_append, List.length_cons, List.length_nil]
        omega
    | queued candidate undescribed result =>
        obtain ⟨brings, -⟩ := received candidate rfl
        have added := congrArg Negotiation.addedCandidates result
        have pending := congrArg Negotiation.pendingCandidates result
        simp only [Device.negotiation, Endpoint.negotiation] at added pending
        simp only [Dated.follow, brings, added, pending, Option.toList_some, List.map_cons,
          List.map_nil, List.length_append, List.length_cons, List.length_nil]
        omega
    | flushed described pending added =>
        obtain ⟨noCandidate, -⟩ := describes rfl
        simp only [Device.negotiation, Endpoint.negotiation] at added pending
        simp [Dated.follow, noCandidate, added, pending, counted]
    | kept described pending added =>
        obtain ⟨noCandidate, -⟩ := neither rfl
        simp only [Device.negotiation, Endpoint.negotiation] at added pending
        simp [Dated.follow, noCandidate, added, pending, counted]
  · cases effect with
    | added candidate described result =>
        obtain ⟨-, noDescription⟩ := received candidate rfl
        have same := congrArg Negotiation.hasRemoteDescription result
        simp only [Device.negotiation, Endpoint.negotiation] at same
        simpa [Dated.follow, noDescription, same] using describedBefore
    | queued candidate undescribed result =>
        obtain ⟨-, noDescription⟩ := received candidate rfl
        have same := congrArg Negotiation.hasRemoteDescription result
        simp only [Device.negotiation, Endpoint.negotiation] at same
        simpa [Dated.follow, noDescription, same] using describedBefore
    | flushed described pending added =>
        obtain ⟨-, applies⟩ := describes rfl
        obtain ⟨pairing, isOrigin⟩ := invariant.origin_of_describes applies
        simp only [Device.negotiation, Endpoint.negotiation] at described
        simp [Dated.follow, described, applies, isOrigin]
    | kept described pending added =>
        obtain ⟨-, noDescription⟩ := neither rfl
        simp only [Device.negotiation, Endpoint.negotiation] at described
        simpa [Dated.follow, noDescription, described] using describedBefore
  · intro isDescribed
    cases effect with
    | added candidate described result =>
        have pending := congrArg Negotiation.pendingCandidates result
        exact pending.trans (flushedBefore described)
    | queued candidate undescribed result =>
        have same := congrArg Negotiation.hasRemoteDescription result
        have stillUndescribed := same.trans undescribed
        have nowDescribed : next.negotiation.hasRemoteDescription = true := isDescribed
        rw [stillUndescribed] at nowDescribed
        contradiction
    | flushed described pending added => exact pending
    | kept described pending added =>
        exact pending.trans (flushedBefore (described.symm.trans isDescribed))

/-- Candidates wait only while no description has ever been applied. -/
theorem undescribed_of_waiting (invariant : DatedInvariant dated) {received : Nat}
    (waits : received ∈ dated.waiting) : dated.described = [] := by
  by_contra applied
  have pending := invariant.flushed (invariant.described.mpr applied)
  have counted := invariant.counted
  rw [pending, List.length_nil, Nat.add_zero] at counted
  have inside := List.length_pos_of_mem waits
  simp only [Dated.waiting, List.length_drop] at inside
  omega

/-- A step is timely exactly when every candidate it adds is added in its own
pairing. -/
theorem timely_iff (invariant : DatedInvariant dated)
    (stimulated : dated.device.stimulated stimulus = some next) :
    dated.Timely stimulus ↔
      ∀ addition ∈ dated.additions (dated.follow stimulus next), addition.InOwnPairing := by
  have counted := invariant.counted
  obtain ⟨fresh, effect, received, describes, neither⟩ := effect_of_stimulated stimulated
  cases effect with
  | added candidate described result =>
      obtain ⟨brings, noDescription⟩ := received candidate rfl
      have wasDescribed : dated.device.endpoint.client.hasRemoteDescription = true := described
      have added : next.endpoint.addedCandidates =
          dated.device.endpoint.addedCandidates ++ [candidate] :=
        congrArg Negotiation.addedCandidates result
      have all : dated.received.length = dated.device.endpoint.addedCandidates.length := by
        rw [counted, invariant.flushed wasDescribed]
        rfl
      have one : dated.additions (dated.follow stimulus next) =
          [⟨dated.pairing, dated.pairing, dated.described.contains dated.pairing⟩] := by
        have whole : (dated.received ++ [dated.pairing]).take (dated.received.length + 1) =
            dated.received ++ [dated.pairing] :=
          List.take_of_length_le (by simp)
        simp [Dated.additions, Dated.follow, brings, added, noDescription, ← all, whole]
      rw [one]
      simp [Dated.Timely, brings, noDescription, wasDescribed, Addition.InOwnPairing]
  | queued candidate undescribed result =>
      obtain ⟨brings, noDescription⟩ := received candidate rfl
      have wasUndescribed : dated.device.endpoint.client.hasRemoteDescription = false :=
        undescribed
      have added : next.endpoint.addedCandidates = dated.device.endpoint.addedCandidates :=
        congrArg Negotiation.addedCandidates result
      have none : dated.additions (dated.follow stimulus next) = [] := by
        simp [Dated.additions, Dated.follow, added]
      rw [none]
      simp [Dated.Timely, noDescription, wasUndescribed]
  | flushed described pending added =>
      obtain ⟨noCandidate, applies⟩ := describes rfl
      obtain ⟨pairing, isOrigin⟩ := invariant.origin_of_describes applies
      have isAdded : next.endpoint.addedCandidates =
          dated.device.endpoint.addedCandidates ++
            dated.device.endpoint.client.pendingCandidates := added
      have flush : dated.additions (dated.follow stimulus next) =
          dated.waiting.map fun received =>
            ⟨received, dated.pairing, (dated.described ++ [pairing]).contains received⟩ := by
        simp [Dated.additions, Dated.follow, Dated.waiting, noCandidate, isAdded, applies,
          isOrigin, ← counted]
      rw [flush]
      simp only [Dated.Timely, noCandidate, applies, isOrigin, Option.isSome_none,
        Bool.false_eq_true, false_implies, true_implies, true_and, List.mem_map,
        forall_exists_index, and_imp, Option.some.injEq]
      constructor
      · rintro timely addition received waits rfl
        obtain ⟨current, same⟩ := timely received waits
        exact ⟨by simp [same], current⟩
      · intro own received waits
        obtain ⟨inOwn, current⟩ := own _ received waits rfl
        simp only [invariant.undescribed_of_waiting waits, List.nil_append,
          List.contains_iff_mem, List.mem_singleton] at inOwn
        exact ⟨current, inOwn.symm⟩
  | kept described pending added =>
      obtain ⟨noCandidate, noDescription⟩ := neither rfl
      have sameAdded : next.endpoint.addedCandidates =
          dated.device.endpoint.addedCandidates := added
      have none : dated.additions (dated.follow stimulus next) = [] := by
        simp [Dated.additions, Dated.follow, sameAdded]
      rw [none]
      simp [Dated.Timely, noCandidate, noDescription]

end DatedInvariant

/-- **A candidate waits for the description of its own pairing exactly in timely
runs.** Take any run of a client over any number of pairings. Every candidate is
added in the pairing in which it arrived, after a description that arrived in
that pairing was applied, if and only if every step is timely: a candidate that
finds a description finds one of its own pairing, and a description that is
applied while candidates wait arrived, as they all did, in the current pairing. -/
theorem candidates_wait_for_own_description_iff
    {clientId : Nat} {helloName : String} {stimuli : List Stimulus}
    {additions : List Addition} {dated : Dated}
    (run : DatedRun clientId helloName Machine.free stimuli additions dated) :
    (∀ addition ∈ additions, addition.InOwnPairing) ↔
      DatedRun clientId helloName Dated.Timely stimuli additions dated := by
  have stepped : ∀ {before : Dated} {stimulus after fresh},
      before.step stimulus = some (after, fresh) →
      ∃ next, before.device.stimulated stimulus = some next ∧
        after = before.follow stimulus next ∧
        fresh = before.additions (before.follow stimulus next) := by
    intro before stimulus after fresh stepped
    simp only [Dated.step, Option.map_eq_some_iff, Prod.mk.injEq] at stepped
    obtain ⟨next, stimulated, rfl, rfl⟩ := stepped
    exact ⟨next, stimulated, rfl, rfl⟩
  refine run.good_iff_guarded DatedInvariant Addition.InOwnPairing (.initial _ _) ?_ ?_
  · intro before stimulus after fresh invariant step
    obtain ⟨next, stimulated, rfl, -⟩ := stepped step
    exact invariant.follow stimulated
  · intro before stimulus after fresh invariant step
    obtain ⟨next, stimulated, rfl, rfl⟩ := stepped step
    exact invariant.timely_iff stimulated

/-! ## Two pairings -/

/-- One pairing as the answering client sees it: the role, the offer, the end of
`setRemoteDescription:`, the answer, a candidate, and the partner leaves. -/
def orderlyPairing (partner : SocketId) : List Stimulus :=
  [.signal (Server.answererMessage "a:1" "b:2") none,
    .signal (Endpoint.offerMessage "sdp of the offer") (some partner),
    .act (.complete 0 (some "")), .act (.complete 0 (some "sdp of the answer")),
    .act (.complete 0 (some "")),
    .signal (Endpoint.candidateMessage ⟨"candidate", 0, "0"⟩) (some partner),
    .signal Server.peerLeftMessage none]

theorem candidates_wait_for_own_description_iff_orderly :
    ∃ additions dated,
      DatedRun 0 "mac#001" Machine.free (orderlyPairing 1 ++ orderlyPairing 2) additions
        dated ∧
      DatedRun 0 "mac#001" Dated.Timely (orderlyPairing 1 ++ orderlyPairing 2) additions
        dated ∧
      additions = [⟨1, 1, true⟩, ⟨2, 2, true⟩] := by
  obtain ⟨dated, additions, run, checked⟩ :
      ∃ dated additions,
        DatedRun 0 "mac#001" Machine.free (orderlyPairing 1 ++ orderlyPairing 2) additions
          dated ∧
        decide (additions = [⟨1, 1, true⟩, ⟨2, 2, true⟩]) = true :=
    Machine.run_of_exec_any (fun (_ : Dated) (additions : List Addition) =>
      decide (additions = [⟨1, 1, true⟩, ⟨2, 2, true⟩])) (by decide)
  have same := of_decide_eq_true checked
  refine ⟨additions, dated, run, ?_, same⟩
  apply (candidates_wait_for_own_description_iff run).mp
  rw [same]
  decide

/-- In the second pairing the candidate comes before the offer. -/
def overtakingPairing : List Stimulus :=
  orderlyPairing 1 ++
    [.signal (Server.answererMessage "a:1" "c:3") none,
      .signal (Endpoint.candidateMessage ⟨"candidate", 0, "0"⟩) (some 2)]

/-- The flag of the first pairing lets the candidate of the second through,
before any description of the second has arrived. -/
theorem candidate_added_without_own_description :
    ∃ additions dated,
      DatedRun 0 "mac#001" Machine.free overtakingPairing additions dated ∧
      ¬ ∀ addition ∈ additions, addition.InOwnPairing := by
  obtain ⟨dated, additions, run, checked⟩ :
      ∃ dated additions,
        DatedRun 0 "mac#001" Machine.free overtakingPairing additions dated ∧
        decide (additions = [⟨1, 1, true⟩, ⟨2, 2, false⟩]) = true :=
    Machine.run_of_exec_any (fun (_ : Dated) (additions : List Addition) =>
      decide (additions = [⟨1, 1, true⟩, ⟨2, 2, false⟩])) (by decide)
  refine ⟨additions, dated, run, ?_⟩
  rw [of_decide_eq_true checked]
  decide

end WebrtcFileSender.Net
