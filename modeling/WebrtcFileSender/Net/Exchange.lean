import WebrtcFileSender.Library.Machine
import WebrtcFileSender.Net.Negotiation

/-!
Contract: the exchange of offer and answer between two parties, as a protocol of its own.

A timer tells the offerer that the other party has joined. It creates its offer, applies
it and sends it; the answerer applies the offer, creates its answer, applies it and sends
it; the offerer applies the answer. Meanwhile both gather candidates, which the other
party keeps until it has a remote description.

Owns: the state and the moves of the exchange, its stages, and the invariant that in
every stage exactly one thing is under way besides roles and candidates.

Does not own: the server and the clients that carry the exchange, JSON, and failures.
-/

namespace WebrtcFileSender.Net

open Signaling

inductive Role where
  | offerer
  | answerer
deriving DecidableEq, Repr

namespace Role

def other : Role → Role
  | .offerer => .answerer
  | .answerer => .offerer

def offers : Role → Bool
  | .offerer => true
  | .answerer => false

@[simp] theorem other_other (role : Role) : role.other.other = role := by
  cases role <;> rfl

theorem other_ne (role : Role) : role.other ≠ role := by
  cases role <;> decide

theorem eq_or_other (role another : Role) : another = role ∨ another = role.other := by
  cases role <;> cases another <;> simp [other]

end Role

/-- A message of the exchange as a party reads it, with its author. -/
inductive Signal where
  | role (offers : Bool)
  | joined
  | offer (author : Option SocketId)
  | answer (author : Option SocketId)
  | candidate (candidate : RTCIceCandidate)
deriving DecidableEq

def Signal.candidate? : Signal → Option RTCIceCandidate
  | .candidate gathered => some gathered
  | .role _ | .joined | .offer _ | .answer _ => none

def candidates (signals : List Signal) : List RTCIceCandidate :=
  signals.filterMap Signal.candidate?

/-- The signals that are no candidates. -/
def controls (signals : List Signal) : List Signal :=
  signals.filter fun signal => signal.candidate?.isNone

@[simp] theorem candidates_append (left right : List Signal) :
    candidates (left ++ right) = candidates left ++ candidates right := by
  simp [candidates]

@[simp] theorem candidates_cons (signal : Signal) (rest : List Signal) :
    candidates (signal :: rest) = signal.candidate?.toList ++ candidates rest := by
  cases isCandidate : signal.candidate? <;> simp [candidates, isCandidate]

@[simp] theorem candidates_nil : candidates [] = [] := rfl

@[simp] theorem controls_append (left right : List Signal) :
    controls (left ++ right) = controls left ++ controls right := by
  simp [controls]

/-- One party: its negotiation, the author of its remote description, what it has sent
that is not relayed, and what is relayed that it has not handled. -/
@[ext]
structure Party extends Negotiation where
  remote : Option SocketId
  sending : List Signal
  arriving : List Signal

namespace Party

/-- The party handles a signal. -/
def receive (party : Party) : Signal → Party
  | .role offers => { party with isOfferer := offers }
  | .joined =>
      if party.isOfferer then
        { party with completions := party.completions ++ [.offerForConstraints] }
      else party
  | .offer author => { party with completions := party.completions ++ [.setRemoteOffer author] }
  | .answer author =>
      { party with completions := party.completions ++ [.setRemoteAnswer author] }
  | .candidate candidate =>
      if party.hasRemoteDescription then
        { party with addedCandidates := party.addedCandidates ++ [candidate] }
      else { party with pendingCandidates := party.pendingCandidates ++ [candidate] }

/-- A remote description is applied. -/
def describe (party : Party) (author : Option SocketId) : Party :=
  { party with
    hasRemoteDescription := true
    pendingCandidates := []
    addedCandidates := party.addedCandidates ++ party.pendingCandidates
    remote := author }

/-- A completion handler is called with what was created. -/
def completed (party : Party) (self : SocketId) (created : String) : Completion → Party
  | .offerForConstraints =>
      { party with completions := party.completions ++ [.setLocalOffer created] }
  | .setLocalOffer _ => { party with sending := party.sending ++ [.offer (some self)] }
  | .setRemoteOffer author =>
      let described := party.describe author
      { described with completions := described.completions ++ [.answerForConstraints] }
  | .answerForConstraints =>
      { party with completions := party.completions ++ [.setLocalAnswer created] }
  | .setLocalAnswer _ => { party with sending := party.sending ++ [.answer (some self)] }
  | .setRemoteAnswer author => party.describe author

/-- The candidates of the other party that this one has got hold of. -/
def held (party : Party) : List RTCIceCandidate :=
  party.addedCandidates ++ party.pendingCandidates ++ candidates party.arriving

variable {party : Party}

/-- A candidate that arrives is added or waits, in order. -/
theorem held_receive {signal : Signal} {rest : List Signal}
    (emptied : party.hasRemoteDescription = true → party.pendingCandidates = [])
    (queue : party.arriving = signal :: rest) :
    (receive { party with arriving := rest } signal).held = party.held ∧
      (receive { party with arriving := rest } signal).sending = party.sending := by
  cases signal with
  | role | offer | answer => simp [receive, held, queue, Signal.candidate?]
  | joined =>
      unfold receive
      dsimp only
      split <;> simp [held, queue, Signal.candidate?]
  | candidate =>
      unfold receive
      dsimp only
      split
      case isTrue described =>
        simp [held, queue, emptied described, Signal.candidate?]
      case isFalse => simp [held, queue, Signal.candidate?]

/-- A description that is applied adds the candidates that waited. -/
theorem held_completed (party : Party) (self : SocketId) (created : String)
    (completion : Completion) :
    (party.completed self created completion).held = party.held ∧
      candidates (party.completed self created completion).sending =
        candidates party.sending := by
  cases completion <;>
    simp [completed, describe, held, Signal.candidate?]

end Party

/-- Both parties, with the number of timers that will tell the offerer. -/
@[ext]
structure Exchange where
  socket : Role → SocketId
  timers : Nat
  party : Role → Party

/-- A party has gathered a candidate. -/
structure Gathered where
  role : Role
  candidate : RTCIceCandidate

namespace Exchange

inductive Move where
  | fire
  | relay (role : Role)
  | receive (role : Role)
  | complete (role : Role) (index : Nat) (created : String)
  | gather (role : Role) (candidate : RTCIceCandidate)

def set (exchange : Exchange) (role : Role) (party : Party) : Exchange :=
  { exchange with party := Function.update exchange.party role party }

/-- A signal reaches the queue of a party. -/
def deliver (exchange : Exchange) (role : Role) (signal : Signal) : Exchange :=
  exchange.set role
    { exchange.party role with arriving := (exchange.party role).arriving ++ [signal] }

def step (exchange : Exchange) : Move → Option (Exchange × List Gathered)
  | .fire =>
      match exchange.timers with
      | 0 => none
      | left + 1 => some ({ exchange with timers := left }.deliver .offerer .joined, [])
  | .relay role =>
      match (exchange.party role).sending with
      | [] => none
      | signal :: rest =>
          some ((exchange.set role { exchange.party role with sending := rest }).deliver
            role.other signal, [])
  | .receive role =>
      match (exchange.party role).arriving with
      | [] => none
      | signal :: rest =>
          some (exchange.set role
            (Party.receive { exchange.party role with arriving := rest } signal), [])
  | .complete role index created =>
      (exchange.party role).completions[index]?.map fun completion =>
        (exchange.set role (Party.completed
          { exchange.party role with
            completions := (exchange.party role).completions.eraseIdx index }
          (exchange.socket role) created completion), [])
  | .gather role candidate =>
      some (exchange.set role
        { exchange.party role with
          sending := (exchange.party role).sending ++ [.candidate candidate] },
        [⟨role, candidate⟩])

end Exchange

/-! ## Stages -/

/-- What is under way. -/
inductive Stage where
  | waiting
  | joining
  | creatingOffer
  | applyingOffer (sdp : String)
  | sendingOffer
  | deliveringOffer
  | acceptingOffer
  | creatingAnswer
  | applyingAnswer (sdp : String)
  | sendingAnswer
  | deliveringAnswer
  | acceptingAnswer
  | settled

namespace Stage

def timers : Stage → Nat
  | .waiting => 1
  | _ => 0

/-- The completion handlers that a party waits for. -/
def completions (socket : Role → SocketId) : Stage → Role → List Completion
  | .creatingOffer, .offerer => [.offerForConstraints]
  | .applyingOffer sdp, .offerer => [.setLocalOffer sdp]
  | .acceptingOffer, .answerer => [.setRemoteOffer (some (socket .offerer))]
  | .creatingAnswer, .answerer => [.answerForConstraints]
  | .applyingAnswer sdp, .answerer => [.setLocalAnswer sdp]
  | .acceptingAnswer, .offerer => [.setRemoteAnswer (some (socket .answerer))]
  | _, _ => []

/-- What a party has sent besides candidates. -/
def sending (socket : Role → SocketId) : Stage → Role → List Signal
  | .sendingOffer, .offerer => [.offer (some (socket .offerer))]
  | .sendingAnswer, .answerer => [.answer (some (socket .answerer))]
  | _, _ => []

/-- What is relayed to a party besides candidates, after its role. -/
def arriving (socket : Role → SocketId) : Stage → Role → List Signal
  | .joining, .offerer => [.joined]
  | .deliveringOffer, .answerer => [.offer (some (socket .offerer))]
  | .deliveringAnswer, .offerer => [.answer (some (socket .answerer))]
  | _, _ => []

def described : Stage → Role → Bool
  | .creatingAnswer, .answerer | .applyingAnswer _, .answerer | .sendingAnswer, .answerer
  | .deliveringAnswer, .answerer | .acceptingAnswer, .answerer | .settled, _ => true
  | _, _ => false

/-! Only one stage has something at each place. -/

section Places

variable {socket : Role → SocketId} {stage : Stage} {signal : Signal} {rest : List Signal}

theorem eq_of_offerer_sending (first : signal :: rest = stage.sending socket .offerer) :
    stage = .sendingOffer ∧ signal = .offer (some (socket .offerer)) ∧ rest = [] := by
  cases stage <;> simp_all [sending]

theorem eq_of_answerer_sending (first : signal :: rest = stage.sending socket .answerer) :
    stage = .sendingAnswer ∧ signal = .answer (some (socket .answerer)) ∧ rest = [] := by
  cases stage <;> simp_all [sending]

theorem eq_of_offerer_arriving (first : signal :: rest = stage.arriving socket .offerer) :
    rest = [] ∧ (stage = .joining ∧ signal = .joined ∨
      stage = .deliveringAnswer ∧ signal = .answer (some (socket .answerer))) := by
  cases stage <;> simp_all [arriving]

theorem eq_of_answerer_arriving (first : signal :: rest = stage.arriving socket .answerer) :
    rest = [] ∧ stage = .deliveringOffer ∧ signal = .offer (some (socket .offerer)) := by
  cases stage <;> simp_all [arriving]

end Places

end Stage

/-- The party has no remote description, or that of `author` and no candidate that waits. -/
def Party.Described (party : Party) (author : SocketId) : Bool → Prop
  | false => party.hasRemoteDescription = false
  | true => party.hasRemoteDescription = true ∧ party.remote = some author ∧
      party.pendingCandidates = []

/-- A party in a stage of the exchange. -/
structure Party.At (party : Party) (socket : Role → SocketId) (stage : Stage) (role : Role) :
    Prop where
  completions : party.completions = stage.completions socket role
  sending : controls party.sending = stage.sending socket role
  /-- Its role comes before all else, and until it is handled nothing has happened. -/
  arriving : ∃ unread : Bool, controls party.arriving =
    (if unread then [.role role.offers] else []) ++ stage.arriving socket role ∧
      (unread = false → party.isOfferer = role.offers)
  described : party.Described (socket role.other) (stage.described role)

/-- A candidate on its way changes nothing else. -/
theorem Party.At.forgetful {party after : Party} {socket : Role → SocketId} {stage : Stage}
    {role : Role}
    (holds : party.At socket stage role)
    (negotiation : after.toNegotiation = party.toNegotiation)
    (remote : after.remote = party.remote)
    (sending : controls after.sending = controls party.sending)
    (arriving : controls after.arriving = controls party.arriving) :
    after.At socket stage role := by
  obtain ⟨unread, read, offers⟩ := holds.arriving
  refine ⟨?_, sending.trans holds.sending, ⟨unread, arriving.trans read, ?_⟩, ?_⟩
  · rw [negotiation]
    exact holds.completions
  · rw [negotiation]
    exact offers
  · have described := holds.described
    unfold Party.Described at described ⊢
    rw [negotiation, remote]
    exact described

namespace Exchange

structure At (exchange : Exchange) (stage : Stage) : Prop where
  timers : exchange.timers = stage.timers
  party : ∀ role, (exchange.party role).At exchange.socket stage role

/-- The candidates that a party has gathered, in order. -/
def gatheredBy (role : Role) (history : List Gathered) : List RTCIceCandidate :=
  history.filterMap fun gathered =>
    if gathered.role = role then some gathered.candidate else none

variable {exchange next : Exchange} {move : Move} {fresh history : List Gathered}
  {stage : Stage}

/-! ## One move -/

@[simp] theorem set_party_same (exchange : Exchange) (role : Role) (party : Party) :
    (exchange.set role party).party role = party :=
  Function.update_self ..

@[simp] theorem set_party_other (exchange : Exchange) (role : Role) (party : Party) :
    (exchange.set role party).party role.other = exchange.party role.other :=
  Function.update_of_ne role.other_ne ..

@[simp] theorem set_party_of_other (exchange : Exchange) (role : Role) (party : Party) :
    (exchange.set role.other party).party role = exchange.party role := by
  have same := exchange.set_party_other role.other party
  rwa [role.other_other] at same

theorem step_fire {left : Nat} (armed : exchange.timers = left + 1) :
    exchange.step .fire =
      some ({ exchange with timers := left }.deliver .offerer .joined, []) := by
  simp [step, armed]

theorem step_relay {role : Role} {signal : Signal} {rest : List Signal}
    (queue : (exchange.party role).sending = signal :: rest) :
    exchange.step (.relay role) =
      some ((exchange.set role { exchange.party role with sending := rest }).deliver
        role.other signal, []) := by
  simp [step, queue]

theorem step_receive {role : Role} {signal : Signal} {rest : List Signal}
    (queue : (exchange.party role).arriving = signal :: rest) :
    exchange.step (.receive role) =
      some (exchange.set role
        (Party.receive { exchange.party role with arriving := rest } signal), []) := by
  simp [step, queue]

theorem forall_role {property : Role → Prop} (role : Role) (here : property role)
    (there : property role.other) : ∀ another, property another := by
  intro another
  rcases role.eq_or_other another with rfl | rfl
  · exact here
  · exact there

theorem At.fire (holds : exchange.At stage)
    (stepped : exchange.step .fire = some (next, fresh)) :
    next.At .joining := by
  simp only [step] at stepped
  split at stepped
  case h_1 => contradiction
  case h_2 left armed =>
    obtain ⟨rfl, -⟩ := Prod.mk.inj (Option.some.inj stepped)
    have timers := holds.timers
    rw [armed] at timers
    cases stage with
    | waiting =>
        refine ⟨Nat.succ.inj timers, forall_role .offerer ?_ ?_⟩
        · have before := holds.party .offerer
          obtain ⟨unread, arriving, role⟩ := before.arriving
          rw [deliver, set_party_same]
          refine ⟨before.completions, before.sending, ⟨unread, ?_, role⟩, before.described⟩
          rw [controls_append, arriving]
          cases unread <;> rfl
        · have before := holds.party .answerer
          exact ⟨before.completions, before.sending, before.arriving, before.described⟩
    | joining | creatingOffer | applyingOffer | sendingOffer | deliveringOffer | acceptingOffer
    | creatingAnswer | applyingAnswer | sendingAnswer | deliveringAnswer | acceptingAnswer
    | settled => contradiction

theorem At.relay {role : Role} (holds : exchange.At stage)
    (stepped : exchange.step (.relay role) = some (next, fresh)) :
    ∃ following, next.At following := by
  simp only [step] at stepped
  split at stepped
  case h_1 => contradiction
  case h_2 signal rest queue =>
    obtain ⟨rfl, -⟩ := Prod.mk.inj (Option.some.inj stepped)
    have sender := holds.party role
    have receiver := holds.party role.other
    cases isCandidate : signal.candidate? with
    | some candidate =>
        refine ⟨stage, holds.timers, forall_role role.other ?_ ?_⟩
        · rw [deliver, set_party_same, set_party_other]
          refine receiver.forgetful rfl rfl rfl ?_
          simp [controls, isCandidate]
        · rw [deliver, set_party_other, role.other_other, set_party_same]
          refine sender.forgetful rfl rfl ?_ rfl
          rw [queue]
          simp [controls, isCandidate]
    | none =>
        have sending := sender.sending
        rw [queue] at sending
        have first : signal :: controls rest = stage.sending exchange.socket role := by
          rw [← sending]
          simp [controls, isCandidate]
        rw [deliver]
        cases role with
        | offerer =>
            obtain ⟨rfl, rfl, sent⟩ := Stage.eq_of_offerer_sending first
            refine ⟨.deliveringOffer, holds.timers, forall_role .offerer ?_ ?_⟩
            · exact ⟨sender.completions, sent, sender.arriving, sender.described⟩
            · obtain ⟨unread, arriving, offers⟩ := receiver.arriving
              refine ⟨receiver.completions, receiver.sending, ⟨unread, ?_, offers⟩,
                receiver.described⟩
              rw [set_party_same, set_party_other, controls_append, arriving,
                List.append_assoc]
              rfl
        | answerer =>
            obtain ⟨rfl, rfl, sent⟩ := Stage.eq_of_answerer_sending first
            refine ⟨.deliveringAnswer, holds.timers, forall_role .answerer ?_ ?_⟩
            · exact ⟨sender.completions, sent, sender.arriving, sender.described⟩
            · obtain ⟨unread, arriving, offers⟩ := receiver.arriving
              refine ⟨receiver.completions, receiver.sending, ⟨unread, ?_, offers⟩,
                receiver.described⟩
              rw [set_party_same, set_party_other, controls_append, arriving,
                List.append_assoc]
              rfl

/-- A party that changes alone leaves the other in its stage. -/
theorem At.set {role : Role} {party : Party} {following : Stage}
    (holds : exchange.At stage)
    (timers : following.timers = stage.timers)
    (here : party.At exchange.socket following role)
    (there : (exchange.party role.other).At exchange.socket stage role.other →
      (exchange.party role.other).At exchange.socket following role.other) :
    (exchange.set role party).At following := by
  refine ⟨holds.timers.trans timers.symm, forall_role role ?_ ?_⟩
  · rw [set_party_same]
    exact here
  · rw [set_party_other]
    exact there (holds.party role.other)

theorem At.receive {role : Role} (holds : exchange.At stage)
    (stepped : exchange.step (.receive role) = some (next, fresh)) :
    ∃ following, next.At following := by
  simp only [step] at stepped
  split at stepped
  case h_1 => contradiction
  case h_2 signal rest queue =>
    obtain ⟨rfl, -⟩ := Prod.mk.inj (Option.some.inj stepped)
    have before := holds.party role
    obtain ⟨unread, read, offers⟩ := before.arriving
    rw [queue] at read
    cases isCandidate : signal.candidate? with
    | some candidate =>
        obtain rfl : signal = .candidate candidate := by
          cases signal <;> simp_all [Signal.candidate?]
        have others : controls rest = (if unread = true then [.role role.offers] else []) ++
            stage.arriving exchange.socket role := by
          rw [← read]
          simp [controls, Signal.candidate?]
        refine ⟨stage, holds.set rfl ?_ id⟩
        have described := before.described
        unfold Party.receive
        dsimp only
        split
        case isTrue isDescribed =>
          refine ⟨before.completions, before.sending, ⟨unread, others, offers⟩, ?_⟩
          exact described
        case isFalse undescribed =>
          refine ⟨before.completions, before.sending, ⟨unread, others, offers⟩, ?_⟩
          cases isDescribed : stage.described role with
          | false =>
              rw [isDescribed] at described
              exact described
          | true =>
              rw [isDescribed] at described
              exact absurd described.1 undescribed
    | none =>
        have first : signal :: controls rest =
            (if unread = true then [.role role.offers] else []) ++
              stage.arriving exchange.socket role := by
          rw [← read]
          simp [controls, isCandidate]
        cases unread with
        | true =>
            -- The role comes first.
            obtain ⟨rfl, others⟩ := List.cons.inj first
            refine ⟨stage, holds.set rfl ?_ id⟩
            exact ⟨before.completions, before.sending, ⟨false, others, fun _ => rfl⟩,
              before.described⟩
        | false =>
            have isOfferer := offers rfl
            cases role with
            | offerer =>
                obtain ⟨others, ⟨rfl, rfl⟩ | ⟨rfl, rfl⟩⟩ := Stage.eq_of_offerer_arriving first
                · refine ⟨.creatingOffer, holds.set rfl ?_ ?_⟩
                  · simp only [Party.receive, isOfferer, Role.offers, if_true]
                    refine ⟨?_, before.sending, ⟨false, others, fun _ => rfl⟩,
                      before.described⟩
                    rw [before.completions]
                    rfl
                  · intro there
                    exact ⟨there.completions, there.sending, there.arriving, there.described⟩
                · refine ⟨.acceptingAnswer, holds.set rfl ?_ ?_⟩
                  · refine ⟨?_, before.sending, ⟨false, others, fun _ => isOfferer⟩,
                      before.described⟩
                    rw [Party.receive, before.completions]
                    rfl
                  · intro there
                    exact ⟨there.completions, there.sending, there.arriving, there.described⟩
            | answerer =>
                obtain ⟨others, rfl, rfl⟩ := Stage.eq_of_answerer_arriving first
                refine ⟨.acceptingOffer, holds.set rfl ?_ ?_⟩
                · refine ⟨?_, before.sending, ⟨false, others, fun _ => isOfferer⟩,
                    before.described⟩
                  rw [Party.receive, before.completions]
                  rfl
                · intro there
                  exact ⟨there.completions, there.sending, there.arriving, there.described⟩

/-- The only completion handler that a party waits for, with the stage. -/
theorem At.completion {role : Role} {index : Nat} {completion : Completion}
    (holds : exchange.At stage)
    (atIndex : (exchange.party role).completions[index]? = some completion) :
    index = 0 ∧ stage.completions exchange.socket role = [completion] := by
  rw [(holds.party role).completions] at atIndex
  have short : (stage.completions exchange.socket role).length ≤ 1 := by
    cases stage <;> cases role <;> simp [Stage.completions]
  generalize stage.completions exchange.socket role = waiting at atIndex short ⊢
  cases waiting with
  | nil => simp at atIndex
  | cons only rest =>
      obtain rfl : rest = [] := List.eq_nil_of_length_eq_zero (by simpa using short)
      cases index with
      | zero => simpa using atIndex
      | succ index => simp at atIndex

theorem At.complete {role : Role} {index : Nat} {created : String}
    (holds : exchange.At stage)
    (stepped : exchange.step (.complete role index created) = some (next, fresh)) :
    ∃ following, next.At following := by
  simp only [step, Option.map_eq_some_iff] at stepped
  obtain ⟨completion, atIndex, result⟩ := stepped
  obtain ⟨rfl, -⟩ := Prod.mk.inj result
  obtain ⟨rfl, waiting⟩ := holds.completion atIndex
  have before := holds.party role
  have erased : (exchange.party role).completions.eraseIdx 0 = [] := by
    rw [before.completions, waiting]
    rfl
  rw [erased]
  have sending := before.sending
  have described := before.described
  obtain ⟨unread, read, offers⟩ := before.arriving
  cases role with
  | offerer =>
      cases stage with
      | creatingOffer =>
          obtain rfl := List.head_eq_of_cons_eq waiting
          refine ⟨.applyingOffer created, holds.set rfl ?_ ?_⟩
          · exact ⟨rfl, sending, ⟨unread, read, offers⟩, described⟩
          · intro there
            exact ⟨there.completions, there.sending, there.arriving, there.described⟩
      | applyingOffer sdp =>
          obtain rfl := List.head_eq_of_cons_eq waiting
          refine ⟨.sendingOffer, holds.set rfl ?_ ?_⟩
          · refine ⟨rfl, ?_, ⟨unread, read, offers⟩, described⟩
            simp only [Party.completed, controls_append, sending]
            rfl
          · intro there
            exact ⟨there.completions, there.sending, there.arriving, there.described⟩
      | acceptingAnswer =>
          obtain rfl := List.head_eq_of_cons_eq waiting
          refine ⟨.settled, holds.set rfl ?_ ?_⟩
          · exact ⟨rfl, sending, ⟨unread, read, offers⟩, rfl, rfl, rfl⟩
          · intro there
            exact ⟨there.completions, there.sending, there.arriving, there.described⟩
      | waiting | joining | sendingOffer | deliveringOffer | acceptingOffer | creatingAnswer
      | applyingAnswer | sendingAnswer | deliveringAnswer | settled => contradiction
  | answerer =>
      cases stage with
      | acceptingOffer =>
          obtain rfl := List.head_eq_of_cons_eq waiting
          refine ⟨.creatingAnswer, holds.set rfl ?_ ?_⟩
          · exact ⟨rfl, sending, ⟨unread, read, offers⟩, rfl, rfl, rfl⟩
          · intro there
            exact ⟨there.completions, there.sending, there.arriving, there.described⟩
      | creatingAnswer =>
          obtain rfl := List.head_eq_of_cons_eq waiting
          refine ⟨.applyingAnswer created, holds.set rfl ?_ ?_⟩
          · exact ⟨rfl, sending, ⟨unread, read, offers⟩, described⟩
          · intro there
            exact ⟨there.completions, there.sending, there.arriving, there.described⟩
      | applyingAnswer sdp =>
          obtain rfl := List.head_eq_of_cons_eq waiting
          refine ⟨.sendingAnswer, holds.set rfl ?_ ?_⟩
          · refine ⟨rfl, ?_, ⟨unread, read, offers⟩, described⟩
            simp only [Party.completed, controls_append, sending]
            rfl
          · intro there
            exact ⟨there.completions, there.sending, there.arriving, there.described⟩
      | waiting | joining | creatingOffer | applyingOffer | sendingOffer | deliveringOffer
      | sendingAnswer | deliveringAnswer | acceptingAnswer | settled => contradiction

/-- Every move keeps the exchange in one of its stages. -/
theorem At.step (holds : exchange.At stage)
    (stepped : exchange.step move = some (next, fresh)) :
    ∃ following, next.At following := by
  cases move with
  | fire => exact ⟨_, holds.fire stepped⟩
  | relay role => exact holds.relay stepped
  | receive role => exact holds.receive stepped
  | complete role index created => exact holds.complete stepped
  | gather role candidate =>
      obtain ⟨rfl, -⟩ := Prod.mk.inj (Option.some.inj stepped)
      refine ⟨stage, holds.set rfl ((holds.party role).forgetful rfl rfl ?_ rfl) id⟩
      simp [controls, Signal.candidate?]

/-! ## Candidates -/

theorem gatheredBy_append (role : Role) (earlier fresh : List Gathered) :
    gatheredBy role (earlier ++ fresh) = gatheredBy role earlier ++ gatheredBy role fresh := by
  simp [gatheredBy]

/-- The candidates of one party that have been added by the other, wait there for its
remote description, or are on the way, in this order. -/
def accounted (exchange : Exchange) (role : Role) : List RTCIceCandidate :=
  (exchange.party role.other).held ++ candidates (exchange.party role).sending

/-- A change of one party that keeps the candidates it holds and sends. -/
theorem accounted_set (exchange : Exchange) {role : Role} {party : Party}
    (held : party.held = (exchange.party role).held)
    (sending : candidates party.sending = candidates (exchange.party role).sending) :
    ∀ another, (exchange.set role party).accounted another = exchange.accounted another := by
  refine forall_role role ?_ ?_
  · rw [accounted, accounted, set_party_same, set_party_other, sending]
  · rw [accounted, accounted, role.other_other, set_party_same, set_party_other, held]

/-- No move loses, repeats or reorders a candidate. -/
theorem At.accounted_step (holds : exchange.At stage)
    (stepped : exchange.step move = some (next, fresh)) :
    ∀ role, next.accounted role = exchange.accounted role ++ gatheredBy role fresh := by
  cases move with
  | fire =>
      simp only [Exchange.step] at stepped
      split at stepped
      case h_1 => contradiction
      case h_2 left armed =>
        obtain ⟨rfl, rfl⟩ := Prod.mk.inj (Option.some.inj stepped)
        have held : Party.held { exchange.party .offerer with
            arriving := (exchange.party .offerer).arriving ++ [.joined] } =
              (exchange.party .offerer).held := by
          simp [Party.held, Signal.candidate?]
        intro role
        have same := accounted_set { exchange with timers := left } held rfl role
        rw [deliver, same]
        exact (List.append_nil _).symm
  | relay role =>
      simp only [Exchange.step] at stepped
      split at stepped
      case h_1 => contradiction
      case h_2 signal rest queue =>
        obtain ⟨rfl, rfl⟩ := Prod.mk.inj (Option.some.inj stepped)
        refine forall_role role ?_ ?_
        · rw [deliver, accounted, accounted, set_party_same, set_party_of_other, set_party_same,
            set_party_other, queue]
          simp [Party.held, gatheredBy]
        · rw [deliver, accounted, accounted, role.other_other, set_party_same,
            set_party_of_other, set_party_same, set_party_other]
          exact (List.append_nil _).symm
  | receive role =>
      simp only [Exchange.step] at stepped
      split at stepped
      case h_1 => contradiction
      case h_2 signal rest queue =>
        obtain ⟨rfl, rfl⟩ := Prod.mk.inj (Option.some.inj stepped)
        have before := (holds.party role).described
        have emptied : (exchange.party role).hasRemoteDescription = true →
            (exchange.party role).pendingCandidates = [] := by
          intro isDescribed
          cases described : stage.described role with
          | false =>
              rw [described, Party.Described, isDescribed] at before
              contradiction
          | true =>
              rw [described] at before
              exact before.2.2
        obtain ⟨held, sending⟩ := Party.held_receive emptied queue
        intro another
        rw [accounted_set exchange held (by rw [sending]) another]
        exact (List.append_nil _).symm
  | complete role index created =>
      simp only [Exchange.step, Option.map_eq_some_iff] at stepped
      obtain ⟨completion, atIndex, result⟩ := stepped
      obtain ⟨rfl, rfl⟩ := Prod.mk.inj result
      obtain ⟨held, sending⟩ := Party.held_completed
        { exchange.party role with
          completions := (exchange.party role).completions.eraseIdx index }
        (exchange.socket role) created completion
      intro another
      rw [accounted_set exchange held sending another]
      exact (List.append_nil _).symm
  | gather role candidate =>
      obtain ⟨rfl, rfl⟩ := Prod.mk.inj (Option.some.inj stepped)
      refine forall_role role ?_ ?_
      · rw [accounted, accounted, set_party_same, set_party_other]
        simp [gatheredBy, Signal.candidate?]
      · rw [accounted, accounted, role.other_other, set_party_same, set_party_other]
        simp [gatheredBy, Party.held, role.other_ne.symm]

/-! ## Whole runs -/

/-- Nothing is under way. -/
structure Idle (exchange : Exchange) : Prop where
  timers : exchange.timers = 0
  completions : ∀ role, (exchange.party role).completions = []
  sending : ∀ role, (exchange.party role).sending = []
  arriving : ∀ role, (exchange.party role).arriving = []

/-- An exchange that has been carried through: both have their role and the description
of the other, and both have added every candidate of the other, in order. -/
structure Complete (exchange : Exchange) (gathered : Role → List RTCIceCandidate)
    (role : Role) : Prop where
  isOfferer : (exchange.party role).isOfferer = role.offers
  described : (exchange.party role).hasRemoteDescription = true
  remote : (exchange.party role).remote = some (exchange.socket role.other)
  pending : (exchange.party role).pendingCandidates = []
  added : (exchange.party role).addedCandidates = gathered role.other

/-- An exchange at a stage at which nothing is under way is settled. -/
theorem At.eq_settled (holds : exchange.At stage) (idle : exchange.Idle) :
    stage = .settled := by
  have timers := holds.timers
  have offererWaits := (holds.party .offerer).completions
  have answererWaits := (holds.party .answerer).completions
  have offererSent := (holds.party .offerer).sending
  have answererSent := (holds.party .answerer).sending
  obtain ⟨offererUnread, offererRead, -⟩ := (holds.party .offerer).arriving
  obtain ⟨answererUnread, answererRead, -⟩ := (holds.party .answerer).arriving
  rw [idle.timers] at timers
  rw [idle.completions] at offererWaits answererWaits
  rw [idle.sending] at offererSent answererSent
  rw [idle.arriving] at offererRead answererRead
  cases stage with
  | settled => rfl
  | joining | deliveringAnswer => cases offererUnread <;> contradiction
  | deliveringOffer => cases answererUnread <;> contradiction
  | waiting | creatingOffer | applyingOffer | sendingOffer | acceptingOffer | creatingAnswer
  | applyingAnswer | sendingAnswer | acceptingAnswer => contradiction

/-- An exchange with nothing under way has been carried through. -/
theorem At.complete_of_idle (holds : exchange.At stage) (idle : exchange.Idle)
    {gathered : Role → List RTCIceCandidate}
    (accounts : ∀ role, exchange.accounted role = gathered role) (role : Role) :
    exchange.Complete gathered role := by
  obtain rfl := holds.eq_settled idle
  obtain ⟨described, remote, pending⟩ := (holds.party role).described
  obtain ⟨unread, read, offers⟩ := (holds.party role).arriving
  refine ⟨offers ?_, described, remote, pending, ?_⟩
  · rw [idle.arriving] at read
    cases unread with
    | false => rfl
    | true => contradiction
  · have reached := accounts role.other
    rw [accounted, role.other_other, Party.held, idle.arriving, idle.sending, pending]
      at reached
    simpa using reached

end Exchange

end WebrtcFileSender.Net
