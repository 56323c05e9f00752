import WebrtcFileSender.Session.Content
import WebrtcFileSender.Session.Success

/-!
Contract: what a destination holds, at any moment of any serial run.

A transfer may be rejected, cancelled, cut off by the channel or by a failing
write, and a failing write does not stop the chunks that are already under way.
Whatever happens, the bytes at a destination come from the one file that was
offered when the destination was opened, in the order of that file.

Owns: the last opening of a path in the history, the invariant of all files of
both clients, and the theorem.
-/

namespace WebrtcFileSender

namespace Session

open RTCClient

/-- The transfer of an event that opens `path` at `side`. -/
def openingOf (side : Side) (path : String) : Event → Option (Option TransferId)
  | .opened owner transfer opened =>
      if owner = side ∧ opened = path then some transfer else none
  | _ => none

/-- The transfer for which `path` was opened last. -/
def lastOpening (side : Side) (path : String) (history : List Event) :
    Option (Option TransferId) :=
  (history.filterMap (openingOf side path)).getLast?

/-- A write that fails. -/
def FailingWrite : Action → Prop
  | .deliver _ (.raised _) => True
  | .deliver _ .written | .take _ _ => False

instance : (action : Action) → Decidable (FailingWrite action)
  | .deliver _ (.raised _) => .isTrue trivial
  | .deliver _ .written | .take _ _ => .isFalse id

/-! ## Openings -/

section Openings

variable {side owner : Side} {path : String} {history fresh : List Event}
variable {client next : RTCClient} {calls : List DelegateCall}

theorem lastOpening_append_none
    (notOpened : ∀ event ∈ fresh, openingOf side path event = none) :
    lastOpening side path (history ++ fresh) = lastOpening side path history := by
  rw [lastOpening, List.filterMap_append, List.filterMap_eq_nil_iff.mpr notOpened,
    List.append_nil]
  rfl

/-- Events of one end open a path only when that end gets a handle for it. -/
theorem openingOf_events
    (notOpened : owner = side → ∀ handle, client.recvHandle = none →
      next.recvHandle = some handle → handle.path ≠ path) :
    ∀ event ∈ events owner client next calls, openingOf side path event = none := by
  intro event member
  rcases mem_events member with
    ⟨observation, rfl⟩ | ⟨handle, -, -, rfl⟩ | ⟨handle, before, after, rfl⟩
  · rfl
  · rfl
  · unfold openingOf
    refine if_neg fun both => ?_
    exact notOpened both.1 handle before after both.2

/-- A destination that is opened is the last opening of its path. -/
theorem lastOpening_opened {handle : WriteHandle}
    (before : client.recvHandle = none) (after : next.recvHandle = some handle) :
    lastOpening side handle.path (history ++ events side client next calls) =
      some handle.transfer := by
  have unopened : ∀ event ∈ (client.observe next calls).map (Event.observed side) ++
      beginnings side client next, openingOf side handle.path event = none := by
    intro event member
    rcases List.mem_append.mp member with observed | beginning
    · obtain ⟨observation, -, rfl⟩ := List.mem_map.mp observed
      rfl
    · unfold beginnings at beginning
      split at beginning
      case h_1 =>
        rw [List.mem_singleton.mp beginning]
        rfl
      case h_2 => contradiction
  have opening : openings side client next = [.opened side handle.transfer handle.path] := by
    simp [openings, before, after]
  rw [lastOpening, events, opening, List.filterMap_append, List.filterMap_append,
    List.filterMap_eq_nil_iff.mpr unopened]
  simp [openingOf]

end Openings

/-! ## Before the first send -/

/-- The client has not heard of any transfer and has not begun one. -/
structure Unstarted (client : RTCClient) : Prop where
  notReceiving : client.recvHandle = none
  notOffered : client.incomingFileName = none
  noOffer : client.count Message.isOffer = 0

namespace Unstarted

variable {client sender next : RTCClient} {input : Input} {calls : List DelegateCall}

theorem taken
    (unstarted : Unstarted client)
    (possible : Possible client input)
    (notBegun : ∀ fileURL, input = .sendFileAtURL fileURL →
      client.sendSucceeds fileURL = false)
    (effect : RTCClient.Effect client input next calls) :
    Unstarted next ∧ next.disk = client.disk := by
  have fewer : next.count Message.isOffer ≤ client.count Message.isOffer :=
    count_of_effect (not_offer_of_emits notBegun) effect
  have noOffer := unstarted.noOffer
  obtain ⟨sameDisk, reception⟩ := reception_of_effect
    (by rintro packet outcome rfl; exact possible)
    (by
      intro destination _ accepts
      simp [canAccept, unstarted.notOffered] at accepts) effect
  refine ⟨⟨?_, ?_, by omega⟩, sameDisk⟩
  · rcases reception with ⟨same, -, -⟩ | ⟨closed, -⟩
    · rw [same, unstarted.notReceiving]
    · exact closed
  · rcases reception with ⟨-, same, -⟩ | ⟨-, cleared⟩
    · rw [same, unstarted.notOffered]
    · exact cleared

theorem receives
    (unstarted : Unstarted client) (senderUnstarted : Unstarted sender)
    {packet : Packet} {rest : List Packet} {outcome : WriteOutcome}
    (queue : sender.outgoing = packet :: rest)
    (effect : RTCClient.Effect client (.receive packet outcome) next []) :
    Unstarted next ∧ Unstarted { sender with outgoing := rest } ∧
      next.disk = client.disk := by
  have offers := count_delivered queue Message.isOffer
  have noOffer := unstarted.noOffer
  have senderNoOffer := senderUnstarted.noOffer
  have fewer : next.count Message.isOffer ≤ client.count Message.isOffer :=
    count_of_effect (not_offer_of_emits (by simp)) effect
  obtain ⟨notReceiving, sameDisk, named⟩ := idle_of_receive unstarted.notReceiving effect
  refine ⟨⟨notReceiving, ?_, by omega⟩,
    ⟨senderUnstarted.notReceiving, senderUnstarted.notOffered, by omega⟩, sameDisk⟩
  rcases named with same | isOffer
  · rw [same, unstarted.notOffered]
  · rw [isOffer] at offers
    simp only [if_true] at offers
    omega

end Unstarted

/-! ## The records of a session -/

/-- Every transfer that is recorded began in the past, with one file. -/
structure Records (history : List Event) (session : Session) : Prop where
  identity : ∀ side, (session side).clientId = side.clientId
  earlier : ∀ side transfer bytes announced,
    .began side transfer bytes announced ∈ history → transfer.seq < (session side).begun
  once : ∀ side transfer bytes announced bytes' announced',
    .began side transfer bytes announced ∈ history →
    .began side transfer bytes' announced' ∈ history → bytes' = bytes

namespace Records

variable {history fresh : List Event} {session following : Session} {action : Action}
variable {side : Side} {next : RTCClient} {input : Input} {calls : List DelegateCall}

/-- What one end records as begun is new. -/
theorem began_fresh
    (effect : RTCClient.Effect (session side) input next calls)
    {owner : Side} {transfer : TransferId} {bytes : Bytes} {announced : Nat}
    (new : .began owner transfer bytes announced ∈
      events side (session side) next calls) :
    owner = side ∧ transfer.seq = (session side).begun ∧
      transfer.seq < next.begun ∧ ∀ bytes' announced',
        .began owner transfer bytes' announced' ∈ events side (session side) next calls →
        bytes' = bytes := by
  rcases mem_events new with ⟨_, same⟩ | ⟨handle, before, after, same⟩ | ⟨_, -, -, same⟩
  · contradiction
  · obtain ⟨rfl, rfl, rfl, -⟩ := Event.began.inj same
    obtain ⟨-, -, -, isNew, counted, -⟩ := sendHandle_began effect before after
    refine ⟨rfl, by rw [isNew], by rw [isNew, counted]; exact Nat.lt_succ_self _, ?_⟩
    intro bytes' announced' member
    rcases mem_events member with ⟨_, same⟩ | ⟨other, -, again, same⟩ | ⟨_, -, -, same⟩
    · contradiction
    · obtain ⟨-, -, rfl, -⟩ := Event.began.inj same
      obtain rfl := Option.some.inj (after.symm.trans again)
      rfl
    · contradiction
  · contradiction

/-- The records after one end took an input and the other changed in nothing that
counts. -/
theorem grow
    (records : Records history session)
    (effect : RTCClient.Effect (session side) input next calls)
    (here : following side = next)
    (there : (following side.peer).clientId = (session side.peer).clientId ∧
      (following side.peer).begun = (session side.peer).begun) :
    Records (history ++ events side (session side) next calls) following := by
  obtain ⟨sameId, later⟩ := identity_of_effect effect
  have identity : ∀ owner, (following owner).clientId = (session owner).clientId := by
    intro owner
    rcases side.eq_or_eq_peer owner with rfl | rfl
    · rw [here, sameId]
    · exact there.1
  have grown : ∀ owner, (session owner).begun ≤ (following owner).begun := by
    intro owner
    rcases side.eq_or_eq_peer owner with rfl | rfl
    · rw [here]
      exact later
    · exact Nat.le_of_eq there.2.symm
  refine ⟨fun owner => (identity owner).trans (records.identity owner), ?_, ?_⟩
  · intro owner transfer bytes announced member
    rcases List.mem_append.mp member with old | new
    · exact Nat.lt_of_lt_of_le (records.earlier _ _ _ _ old) (grown owner)
    · obtain ⟨rfl, -, counted, -⟩ := began_fresh effect new
      rw [here]
      exact counted
  · intro owner transfer bytes announced bytes' announced' member member'
    have separate : ∀ {given given' : Bytes} {size size' : Nat},
        .began owner transfer given size ∈ history →
        .began owner transfer given' size' ∉ events side (session side) next calls := by
      intro given given' size size' old new
      obtain ⟨rfl, isNew, -⟩ := began_fresh effect new
      have before := records.earlier _ _ _ _ old
      omega
    rcases List.mem_append.mp member with old | new
    · rcases List.mem_append.mp member' with old' | new'
      · exact records.once _ _ _ _ _ _ old old'
      · exact absurd new' (separate old)
    · rcases List.mem_append.mp member' with old' | new'
      · exact absurd new (separate old')
      · exact (began_fresh effect new).2.2.2 bytes' announced' new'

theorem step
    (records : Records history session)
    (effect : Effect session action following fresh) :
    Records (history ++ fresh) following := by
  cases effect with
  | taken side input next calls possible effect =>
      refine records.grow effect (Function.update_self ..) ?_
      rw [Function.update_of_ne side.peer_ne]
      exact ⟨rfl, rfl⟩
  | delivered side outcome packet rest next queue isOpen effect =>
      have grown : Records (history ++ events side (session side) next [])
          (Function.update (Function.update session side.peer
            { session side.peer with outgoing := rest }) side next) := by
        refine records.grow effect (Function.update_self ..) ?_
        rw [Function.update_of_ne side.peer_ne, Function.update_self]
        exact ⟨rfl, rfl⟩
      have same : ∀ {owner : Side} {transfer : TransferId} {bytes : Bytes} {announced : Nat},
          .began owner transfer bytes announced ∈
            history ++ .delivered side packet :: events side (session side) next [] →
          .began owner transfer bytes announced ∈
            history ++ events side (session side) next [] := by
        intro owner transfer bytes announced member
        simpa using member
      exact ⟨grown.identity, fun owner transfer bytes announced member =>
        grown.earlier owner transfer bytes announced (same member),
        fun owner transfer bytes announced bytes' announced' member member' =>
          grown.once owner transfer bytes announced bytes' announced' (same member)
            (same member')⟩

theorem of_run
    {helloName : Side → String} {guard : List Event × Session → Action → Prop}
    {actions : List Action} {outputs : List Event} {final : List Event × Session}
    (run : SessionRun helloName guard actions outputs final) :
    Records final.1 final.2 := by
  have holds := run.history_invariant Records
    ⟨fun _ => rfl, by simp, by simp⟩
    (fun records _ stepped => records.step (effect_of_step stepped))
  rw [holds.1]
  exact holds.2

end Records

/-! ## All files of a session -/

/-- The transfer that `side` sends, with the record of it and of the destination that
is open for it. -/
structure Underway (lossless : Prop) (history : List Event) (side : Side)
    (transfer : TransferId) (source : Bytes) (sender receiver : RTCClient) : Prop where
  flow : ∃ path, Flow sender receiver transfer source path
  began : .began side transfer source source.length ∈ history
  opened : ∀ handle ∈ receiver.recvHandle,
    lastOpening side.peer handle.path history = some (some transfer)
  content : Content lossless sender receiver source

/-- What is at `path`: nothing, or bytes of the file that was begun as the transfer for
which the path was opened last. -/
def Holds (lossless : Prop) (history : List Event) (side : Side) (path : String)
    (bytes : Bytes) : Prop :=
  match lastOpening side path history with
  | none => bytes = []
  | some tag => ∃ transfer source announced, tag = some transfer ∧
      .began side.peer transfer source announced ∈ history ∧
      Pipeline.Ordered lossless source bytes []

theorem Holds.later {lossless : Prop} {history fresh : List Event} {side : Side}
    {path : String} {bytes : Bytes}
    (holds : Holds lossless history side path bytes)
    (notOpened : ∀ event ∈ fresh, openingOf side path event = none) :
    Holds lossless (history ++ fresh) side path bytes := by
  unfold Holds at holds ⊢
  rw [lastOpening_append_none notOpened]
  split at holds
  case h_1 => exact holds
  case h_2 =>
    obtain ⟨transfer, source, announced, same, began, ordered⟩ := holds
    exact ⟨transfer, source, announced, same, List.mem_append_left _ began, ordered⟩

/-- An open destination holds bytes of the source. -/
theorem Underway.holds {lossless : Prop} {history : List Event} {side : Side}
    {transfer : TransferId} {source : Bytes} {sender receiver : RTCClient}
    (underway : Underway lossless history side transfer source sender receiver)
    {handle : WriteHandle} (receiving : receiver.recvHandle = some handle) :
    Holds lossless history side.peer handle.path (receiver.disk handle.path) := by
  unfold Holds
  rw [underway.opened handle receiving]
  refine ⟨transfer, source, source.length, rfl, ?_, (underway.content handle receiving).settled⟩
  rw [Side.peer_peer]
  exact underway.began

/-- At most one transfer is on its way, and every file holds what it should. -/
structure DestinationInvariant (lossless : Prop) (history : List Event) (session : Session) :
    Prop where
  current : ∃ current, (∀ side, (session side).BelongsTo current) ∧
    ((current = none ∧ ∀ side, Unstarted (session side)) ∨
      ∃ side transfer source, current = some transfer ∧
        Underway lossless history side transfer source (session side) (session side.peer))
  files : ∀ side path, Holds lossless history side path ((session side).disk path)

namespace DestinationInvariant

variable {lossless : Prop} {history fresh : List Event} {session : Session}
variable {side : Side} {next : RTCClient} {input : Input} {calls : List DelegateCall}

theorem initial (helloName : Side → String) :
    DestinationInvariant lossless [] (Session.initial helloName) where
  current := ⟨none, fun side => .initial side.clientId (helloName side),
    .inl ⟨rfl, fun _ => ⟨rfl, rfl, rfl⟩⟩⟩
  files := fun _ _ => rfl

/-- What an input of its own does to the files of a client. -/
theorem files_of_taken {client : RTCClient}
    (possible : Possible client input)
    (effect : RTCClient.Effect client input next calls) :
    (next.disk = client.disk ∧
      (next.recvHandle = client.recvHandle ∨ next.recvHandle = none)) ∨
    ∃ handle, client.incomingFileName.isSome = true ∧ client.recvHandle = none ∧
      next.recvHandle = some handle ∧ handle.transfer = client.incomingTransfer ∧
      next.disk = Function.update client.disk handle.path [] := by
  by_cases accepted : ∃ destination, input = .acceptIncomingFileToURL destination ∧
      client.canAccept = true ∧ destination.openError = none
  · obtain ⟨destination, rfl, accepts, opens⟩ := accepted
    simp only [canAccept, Bool.and_eq_true, Option.isNone_iff_eq_none] at accepts
    cases effect with
    | accepted => exact .inr ⟨_, accepts.1.1, accepts.2, rfl, rfl, rfl⟩
    | unopened => exact .inl ⟨rfl, .inl rfl⟩
    | nothing => exact .inl ⟨rfl, .inl rfl⟩
  · obtain ⟨sameDisk, reception⟩ := reception_of_effect
      (by rintro packet outcome rfl; exact possible)
      (fun destination same accepts opens => accepted ⟨destination, same, accepts, opens⟩)
      effect
    refine .inl ⟨sameDisk, ?_⟩
    rcases reception with ⟨same, -, -⟩ | ⟨closed, -⟩
    · exact .inl same
    · exact .inr closed

/-- The events of one end open nothing at the other. -/
theorem openingOf_peer {client : RTCClient} (path : String) :
    ∀ event ∈ events side client next calls, openingOf side.peer path event = none :=
  openingOf_events fun same => absurd same.symm side.peer_ne

/-- A client that gets no new handle opens nothing. -/
theorem openingOf_unopened {client : RTCClient} (path : String)
    (unopened : next.recvHandle = client.recvHandle ∨ next.recvHandle = none) :
    ∀ event ∈ events side client next calls, openingOf side path event = none := by
  refine openingOf_events fun _ handle before after => ?_
  rcases unopened with same | closed
  · rw [same, before] at after
    contradiction
  · rw [closed] at after
    contradiction

/-- A transfer on its way while its sender takes an input. -/
theorem underway_sender_taken
    {transfer : TransferId} {source : Bytes} {receiver : RTCClient}
    (underway : Underway lossless history side transfer source (session side) receiver)
    (possible : Possible (session side) input)
    (notBegun : ∀ fileURL, input = .sendFileAtURL fileURL →
      (session side).sendSucceeds fileURL = false)
    (effect : RTCClient.Effect (session side) input next calls) :
    Underway lossless (history ++ events side (session side) next calls) side transfer source
      next receiver := by
  obtain ⟨path, flow⟩ := underway.flow
  refine ⟨⟨path, flow.sender_taken possible notBegun effect⟩,
    List.mem_append_left _ underway.began, ?_,
    underway.content.sender_taken flow possible notBegun effect⟩
  intro handle receiving
  rw [lastOpening_append_none (openingOf_peer handle.path)]
  exact underway.opened handle receiving

/-- A transfer on its way while its receiver takes an input. -/
theorem underway_receiver_taken
    {transfer : TransferId} {source : Bytes} {sender : RTCClient}
    (underway : Underway lossless history side transfer source sender (session side.peer))
    (belongs : (session side.peer).BelongsTo (some transfer))
    (possible : Possible (session side.peer) input)
    (notBegun : ∀ fileURL, input = .sendFileAtURL fileURL →
      (session side.peer).sendSucceeds fileURL = false)
    (effect : RTCClient.Effect (session side.peer) input next calls) :
    Underway lossless (history ++ events side.peer (session side.peer) next calls) side
      transfer source sender next := by
  obtain ⟨path, flow⟩ := underway.flow
  have flowAfter : ∃ path, Flow sender next transfer source path := by
    rcases flow.receiver_taken possible notBegun effect with ⟨stays, -⟩ | ⟨opened, flows, -⟩
    · exact ⟨path, stays⟩
    · exact ⟨some opened, flows⟩
  refine ⟨flowAfter, List.mem_append_left _ underway.began, ?_,
    underway.content.receiver_taken flow possible effect⟩
  intro handle receiving
  rcases files_of_taken possible effect with
    ⟨-, unopened⟩ | ⟨opened, named, notReceiving, isOpened, tagged, -⟩
  · rw [lastOpening_append_none (openingOf_unopened handle.path unopened)]
    rcases unopened with same | closed
    · rw [same] at receiving
      exact underway.opened handle receiving
    · rw [closed] at receiving
      contradiction
  · obtain rfl := Option.some.inj (isOpened.symm.trans receiving)
    rw [lastOpening_opened notReceiving receiving, tagged, belongs.offered named]

/-- The files after one end took an input: those of that end are as they were, but for
a destination that it opened. -/
theorem files_taken
    (invariant : DestinationInvariant lossless history session)
    (possible : Possible (session side) input)
    (effect : RTCClient.Effect (session side) input next calls)
    (opened : ∀ handle, (session side).recvHandle = none → next.recvHandle = some handle →
      Holds lossless (history ++ events side (session side) next calls) side handle.path
        (next.disk handle.path)) :
    ∀ owner path, Holds lossless (history ++ events side (session side) next calls) owner path
      ((Function.update session side next owner).disk path) := by
  refine forall_update (P := fun owner client => ∀ path, Holds lossless _ owner path
    (client.disk path)) ?_ ?_
  · intro path
    rcases files_of_taken possible effect with
      ⟨sameDisk, unopened⟩ | ⟨handle, -, notReceiving, isOpened, -, grown⟩
    · rw [sameDisk]
      exact (invariant.files side path).later (openingOf_unopened path unopened)
    · by_cases samePath : path = handle.path
      · subst samePath
        exact opened handle notReceiving isOpened
      · rw [grown, Function.update_of_ne samePath]
        refine (invariant.files side path).later (openingOf_events fun _ other before after => ?_)
        obtain rfl := Option.some.inj (isOpened.symm.trans after)
        exact Ne.symm samePath
  · exact fun path => (invariant.files side.peer path).later (openingOf_peer path)

/-- A send that begins in a quiet session. -/
theorem step_begin
    (invariant : DestinationInvariant lossless history session)
    (isQuiet : quiet session = true)
    {fileURL : FileURL}
    (possible : Possible (session side) (.sendFileAtURL fileURL))
    (succeeds : (session side).sendSucceeds fileURL = true)
    (effect : RTCClient.Effect (session side) (.sendFileAtURL fileURL) next calls) :
    DestinationInvariant lossless (history ++ events side (session side) next calls)
      (Function.update session side next) := by
  obtain ⟨current, belongs, -⟩ := invariant.current
  have senderQuiet := quiet_side isQuiet side
  have receiverQuiet := quiet_side isQuiet side.peer
  obtain ⟨notSending, notReceiving, -⟩ := quiet_spec senderQuiet
  obtain ⟨-, peerIdle, -⟩ := quiet_spec receiverQuiet
  obtain ⟨file, isOpen, sized, opened, rfl⟩ := beginSending_of_succeeds succeeds effect
  have result := (session side).beginSending_eq fileURL file
  have sending : ((session side).beginSending fileURL file).sendHandle =
      some ⟨⟨(session side).clientId, (session side).begun⟩, file, 0⟩ := by rw [result]
  have stillIdle : ((session side).beginSending fileURL file).recvHandle = none := by
    rw [result, notReceiving]
  have total : ((session side).beginSending fileURL file).sendTotalBytes =
      file.bytes.length := by
    rw [result]
    exact fileURL.announced_eq opened sized
  refine ⟨⟨_, belongs_begun belongs isQuiet fileURL file,
    .inr ⟨side, _, file.bytes, rfl, ?_⟩⟩, ?_⟩
  · rw [Function.update_self, Function.update_of_ne side.peer_ne]
    refine ⟨⟨none, .begin senderQuiet receiverQuiet isOpen sized opened⟩, ?_,
      by simp [peerIdle], by simp [Content, peerIdle]⟩
    apply List.mem_append_right
    rw [← total]
    exact began_mem_events notSending sending
  · refine invariant.files_taken possible effect fun handle _ after => ?_
    rw [stillIdle] at after
    contradiction

theorem step_taken
    (invariant : DestinationInvariant lossless history session)
    (serial : Serial (history, session) (.take side input))
    (possible : Possible (session side) input)
    (effect : RTCClient.Effect (session side) input next calls) :
    DestinationInvariant lossless (history ++ events side (session side) next calls)
      (Function.update session side next) := by
  by_cases begins : ∃ fileURL, input = .sendFileAtURL fileURL ∧
      (session side).sendSucceeds fileURL = true
  · obtain ⟨fileURL, rfl, succeeds⟩ := begins
    exact invariant.step_begin (serial succeeds) possible succeeds effect
  obtain ⟨current, belongs, transferring⟩ := invariant.current
  have notBegun : ∀ fileURL, input = .sendFileAtURL fileURL →
      (session side).sendSucceeds fileURL = false := by
    intro fileURL same
    exact Bool.eq_false_iff.mpr fun succeeds => begins ⟨fileURL, same, succeeds⟩
  have belongsAfter := belongs_taken belongs possible notBegun effect
  rcases transferring with ⟨nothing, unstarted⟩ | ⟨sender, transfer, source, rfl, underway⟩
  · have after := (unstarted side).taken possible notBegun effect
    refine ⟨⟨current, belongsAfter, .inl ⟨nothing, ?_⟩⟩, ?_⟩
    · exact forall_update (P := fun _ client => Unstarted client) after.1
        (unstarted side.peer)
    · refine invariant.files_taken possible effect fun handle _ isOpened => ?_
      rw [after.1.notReceiving] at isOpened
      contradiction
  rcases sender.eq_or_eq_peer side with rfl | rfl
  · have after := underway_sender_taken underway possible notBegun effect
    refine ⟨⟨_, belongsAfter, .inr ⟨side, transfer, source, rfl, ?_⟩⟩, ?_⟩
    · rw [Function.update_self, Function.update_of_ne side.peer_ne]
      exact after
    · refine invariant.files_taken possible effect fun handle _ isOpened => ?_
      obtain ⟨path, flow⟩ := after.flow
      rw [flow.senderRole.notReceiving] at isOpened
      contradiction
  · have after := underway_receiver_taken underway (belongs sender.peer) possible notBegun
      effect
    refine ⟨⟨_, belongsAfter, .inr ⟨sender, transfer, source, rfl, ?_⟩⟩, ?_⟩
    · rw [Function.update_self, Function.update_of_ne sender.peer_ne.symm]
      exact after
    · exact invariant.files_taken possible effect fun handle _ isOpened => after.holds isOpened

/-! ### Deliveries -/

variable {packet : Packet} {rest : List Packet} {outcome : WriteOutcome}

/-- A delivery to a client that gets no new handle opens nothing. -/
theorem openingOf_delivered {client : RTCClient} (owner : Side) (path : String)
    (unopened : next.recvHandle = client.recvHandle ∨ next.recvHandle = none) :
    ∀ event ∈ Event.delivered side packet :: events side client next [],
      openingOf owner path event = none := by
  intro event member
  rcases List.mem_cons.mp member with rfl | inEvents
  · rfl
  · rcases side.eq_or_eq_peer owner with rfl | rfl
    · exact openingOf_unopened path unopened event inEvents
    · exact openingOf_peer path event inEvents

/-- The sender of the current transfer receives a packet. -/
theorem underway_sender_receives
    {transfer : TransferId} {source : Bytes}
    (underway : Underway lossless history side transfer source (session side)
      (session side.peer))
    (queue : (session side.peer).outgoing = packet :: rest)
    (effect : RTCClient.Effect (session side) (.receive packet outcome) next []) :
    Underway lossless (history ++ .delivered side packet :: events side (session side) next [])
        side transfer source next { session side.peer with outgoing := rest } ∧
      next.disk = (session side).disk ∧ next.recvHandle = none := by
  obtain ⟨path, flow⟩ := underway.flow
  obtain ⟨notReceiving, sameDisk, -⟩ := idle_of_receive flow.senderRole.notReceiving effect
  refine ⟨⟨⟨path, flow.sender_receives queue effect⟩, List.mem_append_left _ underway.began,
    ?_, underway.content.sender_receives flow queue effect⟩, sameDisk, notReceiving⟩
  intro handle receiving
  rw [lastOpening_append_none (openingOf_delivered side.peer handle.path (.inr notReceiving))]
  exact underway.opened handle receiving

/-- The receiver of the current transfer receives a packet: only the file that it
receives changes. -/
theorem underway_receiver_receives
    {transfer : TransferId} {source : Bytes}
    (underway : Underway lossless history side.peer transfer source (session side.peer)
      (session side))
    (queue : (session side.peer).outgoing = packet :: rest)
    (writes : lossless → outcome = .written)
    (effect : RTCClient.Effect (session side) (.receive packet outcome) next []) :
    Underway lossless (history ++ .delivered side packet :: events side (session side) next [])
        side.peer transfer source { session side.peer with outgoing := rest } next ∧
      next.recvHandle = (session side).recvHandle ∧
      ∀ path, (∀ handle ∈ next.recvHandle, handle.path ≠ path) →
        next.disk path = (session side).disk path := by
  obtain ⟨path, flow⟩ := underway.flow
  have role := flow.receiverRole
  have kept : next.recvHandle = (session side).recvHandle ∧
      ∀ path, (∀ handle ∈ next.recvHandle, handle.path ≠ path) →
        next.disk path = (session side).disk path := by
    cases receiving : (session side).recvHandle with
    | none =>
        obtain ⟨notReceiving, sameDisk, -⟩ := idle_of_receive receiving effect
        exact ⟨notReceiving, fun path _ => by rw [sameDisk]⟩
    | some handle =>
        have sized : (session side).recvTotalBytes ≠ 0 := by
          rw [role.sized (role.named (by simp [receiving]))]
          exact fun empty => flow.nonempty (List.length_eq_zero_iff.mp empty)
        obtain ⟨sameHandle, written⟩ := Content.written_or_lost receiving sized effect
        refine ⟨sameHandle, fun path others => ?_⟩
        rcases written with appended | ⟨sameDisk, -⟩
        · rw [appended, Function.update_of_ne (Ne.symm (others handle sameHandle))]
        · rw [sameDisk]
  refine ⟨⟨⟨path, flow.receiver_receives queue effect⟩, List.mem_append_left _ underway.began,
    ?_, underway.content.receiver_receives flow queue writes effect⟩, kept⟩
  intro handle receiving
  rw [lastOpening_append_none (openingOf_delivered _ handle.path (.inl kept.1))]
  rw [kept.1] at receiving
  exact underway.opened handle receiving

theorem step_delivered
    (invariant : DestinationInvariant lossless history session)
    (queue : (session side.peer).outgoing = packet :: rest)
    (writes : lossless → outcome = .written)
    (effect : RTCClient.Effect (session side) (.receive packet outcome) next []) :
    DestinationInvariant lossless
      (history ++ .delivered side packet :: events side (session side) next [])
      (Function.update (Function.update session side.peer
        { session side.peer with outgoing := rest }) side next) := by
  obtain ⟨current, belongs, transferring⟩ := invariant.current
  have belongsAfter := belongs_delivered belongs queue effect
  -- The peer only loses a packet; a file at the receiving end that does not change holds
  -- what it did.
  have files : next.recvHandle = (session side).recvHandle ∨ next.recvHandle = none →
      (∀ path, next.disk path = (session side).disk path ∨
        Holds lossless (history ++ .delivered side packet :: events side (session side) next [])
          side path (next.disk path)) →
      ∀ owner path, Holds lossless
        (history ++ .delivered side packet :: events side (session side) next []) owner path
        ((Function.update (Function.update session side.peer
          { session side.peer with outgoing := rest }) side next owner).disk path) := by
    intro unopened changed
    refine forall_update₂ (P := fun owner client => ∀ path, Holds lossless _ owner path
      (client.disk path)) ?_ ?_
    · intro path
      rcases changed path with same | holds
      · rw [same]
        exact (invariant.files side path).later (openingOf_delivered side path unopened)
      · exact holds
    · exact fun path =>
        (invariant.files side.peer path).later (openingOf_delivered side.peer path unopened)
  rcases transferring with ⟨nothing, unstarted⟩ | ⟨sender, transfer, source, rfl, underway⟩
  · obtain ⟨after, peerAfter, sameDisk⟩ :=
      (unstarted side).receives (unstarted side.peer) queue effect
    refine ⟨⟨current, belongsAfter, .inl ⟨nothing, ?_⟩⟩,
      files (.inr after.notReceiving) fun path => .inl (by rw [sameDisk])⟩
    exact forall_update₂ (P := fun _ client => Unstarted client) after peerAfter
  rcases sender.eq_or_eq_peer side with rfl | rfl
  · obtain ⟨after, sameDisk, notReceiving⟩ := underway_sender_receives underway queue effect
    refine ⟨⟨_, belongsAfter, .inr ⟨side, transfer, source, rfl, ?_⟩⟩,
      files (.inr notReceiving) fun path => .inl (by rw [sameDisk])⟩
    rw [Function.update_self, Function.update_of_ne side.peer_ne, Function.update_self]
    exact after
  · have underwayHere : Underway lossless history sender.peer.peer transfer source
        (session sender.peer.peer) (session sender.peer) := by
      rw [Side.peer_peer]
      exact underway
    obtain ⟨after, sameHandle, others⟩ :=
      underway_receiver_receives underwayHere queue writes effect
    refine ⟨⟨_, belongsAfter, .inr ⟨sender, transfer, source, rfl, ?_⟩⟩,
      files (.inl sameHandle) fun path => ?_⟩
    · rw [Side.peer_peer] at after
      rw [Side.peer_peer, Function.update_of_ne sender.peer_ne.symm, Function.update_self,
        Function.update_self]
      exact after
    · by_cases isOpen : ∃ handle ∈ next.recvHandle, handle.path = path
      · obtain ⟨handle, receiving, rfl⟩ := isOpen
        have holds := after.holds receiving
        rw [Side.peer_peer] at holds
        exact .inr holds
      · exact .inl (others path fun handle receiving same => isOpen ⟨handle, receiving, same⟩)

theorem of_run
    {helloName : Side → String} {actions : List Action} {outputs : List Event}
    {final : List Event × Session}
    (run : SessionRun helloName
      (fun past action => Serial past action ∧ (lossless → ¬ FailingWrite action)) actions
      outputs final) :
    DestinationInvariant lossless final.1 final.2 := by
  have holds := run.history_invariant (DestinationInvariant lossless) (initial helloName)
    (fun {history state input next fresh} invariant allowed stepped => by
      cases effect_of_step stepped with
      | taken side input following calls possible effect =>
          exact invariant.step_taken allowed.1 possible effect
      | delivered side outcome packet rest following queue isOpen effect =>
          refine invariant.step_delivered queue (fun keeps => ?_) effect
          cases outcome with
          | written => rfl
          | raised reason => exact absurd trivial (allowed.2 keeps))
  rw [holds.1]
  exact holds.2

end DestinationInvariant

/-- **A destination only ever holds bytes of its own file, in order.** Take any run of
two clients in which a send begins only in a quiet session, with rejects, cancels, write
errors and a channel that closes at any moment. At every path of either client: if no
offer was ever accepted to it, nothing was written. Otherwise the offer that it was
opened for last was a file of the peer, and what is there is that file with pieces left
out; it is an initial part of the file when no write fails. -/
theorem destination_holds_source
    {helloName : Side → String} {actions : List Action} {outputs : List Event}
    {final : List Event × Session}
    (run : SessionRun helloName Serial actions outputs final) (side : Side) (path : String) :
    (lastOpening side path final.1 = none → (final.2 side).disk path = []) ∧
    ∀ tag, lastOpening side path final.1 = some tag →
      ∃ transfer, tag = some transfer ∧
        (∃ source announced, .began side.peer transfer source announced ∈ final.1) ∧
        ∀ source announced, .began side.peer transfer source announced ∈ final.1 →
          ((final.2 side).disk path).Sublist source ∧
          ((∀ action ∈ actions, ¬ FailingWrite action) →
            (final.2 side).disk path <+: source) := by
  have records := Records.of_run run
  have holds : ∀ lossless : Prop,
      (lossless → ∀ action ∈ actions, ¬ FailingWrite action) →
      Holds lossless final.1 side path ((final.2 side).disk path) := by
    intro lossless writes
    have strengthened := run.strengthen (fun action => lossless → ¬ FailingWrite action)
      fun action member keeps => writes keeps action member
    exact (DestinationInvariant.of_run strengthened).files side path
  have held := holds (∀ action ∈ actions, ¬ FailingWrite action) id
  unfold Holds at held
  refine ⟨fun unopened => ?_, fun tag opened => ?_⟩
  · rw [unopened] at held
    exact held
  · rw [opened] at held
    obtain ⟨transfer, source, announced, same, began, ordered⟩ := held
    refine ⟨transfer, same, ⟨source, announced, began⟩, fun source' announced' began' => ?_⟩
    obtain rfl := records.once _ _ _ _ _ _ began began'
    have sublist := ordered.sublist
    have initial := ordered.initial
    rw [List.append_nil] at sublist initial
    exact ⟨sublist, initial⟩

/-- The file is sent in two chunks, and the write of the first fails. -/
def firstWriteFails : List Action :=
  acceptedOnce ++ .deliver .A .written ::
    List.replicate 18 (.take .A (.runFile ⟨0, 1, false, true⟩)) ++
    [.deliver .B (.raised none), .deliver .B .written]

theorem destination_holds_source_firstWriteFails :
    ∃ outputs final, SessionRun (fun _ => "mac#001") Serial firstWriteFails outputs final ∧
      .began .A ⟨0, 0⟩ [1, 2] 2 ∈ final.1 ∧
      (final.2 .B).disk "/Downloads/notes.txt" = [2] ∧
      ((final.2 .B).disk "/Downloads/notes.txt").Sublist [1, 2] := by
  obtain ⟨final, outputs, run, checked⟩ :
      ∃ final outputs,
        SessionRun (fun _ => "mac#001") Serial firstWriteFails outputs final ∧
        decide (.began .A ⟨0, 0⟩ [1, 2] 2 ∈ final.1 ∧
          lastOpening .B "/Downloads/notes.txt" final.1 = some (some ⟨0, 0⟩) ∧
          (final.2 .B).disk "/Downloads/notes.txt" = [2]) = true :=
    Machine.run_of_exec_any (fun (final : List Event × Session) _ =>
      decide (.began .A ⟨0, 0⟩ [1, 2] 2 ∈ final.1 ∧
        lastOpening .B "/Downloads/notes.txt" final.1 = some (some ⟨0, 0⟩) ∧
        (final.2 .B).disk "/Downloads/notes.txt" = [2])) (by decide)
  obtain ⟨began, opened, written⟩ := of_decide_eq_true checked
  obtain ⟨-, holds⟩ := destination_holds_source run .B "/Downloads/notes.txt"
  obtain ⟨transfer, same, -, content⟩ := holds _ opened
  obtain rfl := Option.some.inj same
  exact ⟨outputs, final, run, began, written, (content _ _ began).1⟩

end Session

end WebrtcFileSender
