import WebrtcFileSender.Session.Refusals

/-!
Contract: whether the end of a transfer reaches the other side.

An end of which the peer is not told leaves it with a handle or an offer that
nobody will ever close. It is not told either where the channel refuses the message
that tells it.

Owns: the session invariant made of both sides' accounts, the theorem that
nothing is half open at rest, and runs that break each part of its condition.
-/

namespace WebrtcFileSender

namespace Session

open RTCClient

/-! ## Both sides -/

structure Accounted (session : Session) : Prop where
  ids : ∀ side, (session side).clientId = side.clientId
  orderly : ∀ side, (session side).Orderly
  agreed : ∀ side : Side, Agreed (session side) (session side.peer)

namespace Accounted

variable {session following : Session} {action : Action} {fresh : List Event}

theorem initial (helloName : Side → String) : Accounted (Session.initial helloName) where
  ids := fun _ => rfl
  orderly := fun _ => .initial _ _
  agreed := by
    intro side
    constructor
    · intro transfer pending
      exact absurd (.pending pending) (not_mentions_initial _ _ transfer)
    · intro transfer mentions
      exact absurd mentions (not_mentions_initial _ _ transfer)
    · intro transfer offered mentions
      exact absurd mentions (not_mentions_initial _ _ transfer)
    · intro transfer sends
      exact absurd (.sending sends) (not_mentions_initial _ _ transfer)
    · rintro transfer own isOver (⟨packet, member, -⟩ | pending)
      · contradiction
      · exact absurd (.pending pending) (not_mentions_initial _ _ transfer)

theorem distinct (accounted : Accounted session) (side : Side) :
    (session side).clientId ≠ (session side.peer).clientId := by
  rw [accounted.ids, accounted.ids]
  intro same
  exact side.peer_ne (Side.clientId_injective same).symm

/-- An input of one side on a channel that does not close is expected. -/
theorem expected_taken {side : Side} {input : RTCClient.Input}
    (possible : Possible (session side) input)
    (staysOpen : session.StaysOpen (.take side input)) :
    (session side).Expected input := by
  have notReceived : ∀ packet outcome, input ≠ .receive packet outcome := by
    rintro packet outcome rfl
    exact possible
  constructor
  · rintro rfl
    exact possible
  · rintro state rfl
    rcases staysOpen with rfl | rfl
    · refine .inr ⟨?_, rfl⟩
      cases ready : (session side).readyState with
      | none => simp [isDataChannelOpen, ready]
      | some before => exact absurd (possible before ready) (Nat.not_lt_zero _)
    · exact .inl rfl
  · intro packet outcome received
    exact absurd received (notReceived packet outcome)
  · rintro transfer ⟨packet, outcome, received, -⟩
    exact absurd received (notReceived packet outcome)
  · intro packet outcome name size chunk received
    exact absurd received (notReceived packet outcome)

/-- So is a packet of an orderly peer. -/
theorem expected_delivered (accounted : Accounted session) {side : Side}
    {packet : Packet} {rest : List Packet} (outcome : WriteOutcome)
    (queue : (session side.peer).outgoing = packet :: rest)
    (isOpen : (session side).isDataChannelOpen = true) :
    (session side).Expected (.receive packet outcome) := by
  have isFirst : packet ∈ (session side.peer).outgoing := by
    rw [queue]
    exact List.mem_cons_self
  constructor
  · simp
  · simp
  · intro _ _ _
    exact isOpen
  · rintro transfer ⟨other, result, received, tagged⟩ own
    obtain ⟨rfl, -⟩ := Input.receive.inj received
    exact (accounted.agreed side).known transfer (.packet packet isFirst tagged) own
  · intro other result name size chunk received isOffer
    obtain ⟨rfl, -⟩ := Input.receive.inj received
    obtain ⟨offered, tagged, own⟩ :=
      (accounted.orderly side.peer).offers packet isFirst name size chunk isOffer
    refine ⟨offered, tagged, ?_⟩
    rw [own]
    exact (accounted.distinct side).symm

/-- Both sides agree when each agrees with the other. -/
theorem of_sides (side : Side)
    (idSide : (following side).clientId = side.clientId)
    (idPeer : (following side.peer).clientId = side.peer.clientId)
    (orderlySide : (following side).Orderly)
    (orderlyPeer : (following side.peer).Orderly)
    (agreedSide : Agreed (following side) (following side.peer))
    (agreedPeer : Agreed (following side.peer) (following side)) :
    Accounted following := by
  refine ⟨?_, ?_, ?_⟩
  · intro other
    rcases side.eq_or_eq_peer other with rfl | rfl
    · exact idSide
    · exact idPeer
  · intro other
    rcases side.eq_or_eq_peer other with rfl | rfl
    · exact orderlySide
    · exact orderlyPeer
  · intro other
    rcases side.eq_or_eq_peer other with rfl | rfl
    · exact agreedSide
    · rw [Side.peer_peer]
      exact agreedPeer

/-- Every action that tells its ends keeps the accounts. -/
theorem step (accounted : Accounted session)
    (told : session.Told action)
    (effect : Effect session action following fresh) :
    Accounted following := by
  cases effect with
  | taken side input next calls possible effect =>
      have expected := expected_taken possible told.1
      have notReceived : ∀ packet outcome, input ≠ .receive packet outcome := by
        rintro packet outcome rfl
        exact possible
      have atSide : Function.update session side next side = next :=
        Function.update_self _ _ _
      have atPeer : Function.update session side next side.peer = session side.peer :=
        Function.update_of_ne side.peer_ne _ _
      apply of_sides side
      · rw [atSide, (identity_of_effect effect).1]
        exact accounted.ids side
      · rw [atPeer]
        exact accounted.ids side.peer
      · rw [atSide]
        exact (accounted.orderly side).effect expected effect
      · rw [atPeer]
        exact accounted.orderly side.peer
      · rw [atSide, atPeer]
        exact (accounted.agreed side).sender_acts (accounted.orderly side) expected told.2
          notReceived effect
      · have agreed := accounted.agreed side.peer
        rw [Side.peer_peer] at agreed
        rw [atSide, atPeer]
        exact agreed.receiver_acts (accounted.orderly side.peer) (accounted.orderly side)
          expected (accounted.distinct side).symm told.2 notReceived effect
  | delivered side outcome packet rest next queue isOpen effect =>
      have expected := accounted.expected_delivered outcome queue isOpen
      have atSide : Function.update (Function.update session side.peer
          { session side.peer with outgoing := rest }) side next side = next :=
        Function.update_self _ _ _
      have atPeer : Function.update (Function.update session side.peer
          { session side.peer with outgoing := rest }) side next side.peer =
          { session side.peer with outgoing := rest } := by
        rw [Function.update_of_ne side.peer_ne, Function.update_self]
      apply of_sides side
      · rw [atSide, (identity_of_effect effect).1]
        exact accounted.ids side
      · rw [atPeer]
        exact accounted.ids side.peer
      · rw [atSide]
        exact (accounted.orderly side).effect expected effect
      · rw [atPeer]
        exact (accounted.orderly side.peer).delivered queue
      · rw [atSide, atPeer]
        exact (accounted.agreed side).sender_receives (accounted.orderly side) expected queue
          effect
      · have agreed := accounted.agreed side.peer
        rw [Side.peer_peer] at agreed
        rw [atSide, atPeer]
        exact agreed.receiver_receives (accounted.orderly side.peer) (accounted.orderly side)
          expected (accounted.distinct side).symm queue effect

/-- So does the loss of packets that name no transfer. -/
theorem of_drops (accounted : Accounted session) {side : Side} {client : RTCClient}
    (drops : Drops (session side) client) :
    Accounted (Function.update session side client) := by
  have sameId : client.clientId = (session side).clientId := by rw [drops.same]
  have atSide : Function.update session side client side = client :=
    Function.update_self _ _ _
  have atPeer : Function.update session side client side.peer = session side.peer :=
    Function.update_of_ne side.peer_ne _ _
  apply of_sides side
  · rw [atSide, sameId]
    exact accounted.ids side
  · rw [atPeer]
    exact accounted.ids side.peer
  · rw [atSide]
    exact drops.orderly (accounted.orderly side)
  · rw [atPeer]
    exact accounted.orderly side.peer
  · rw [atSide, atPeer]
    exact (accounted.agreed side).sender_drops drops
  · have agreed := accounted.agreed side.peer
    rw [Side.peer_peer] at agreed
    rw [atSide, atPeer]
    exact agreed.receiver_drops drops

theorem attempt {given : Attempt} (accounted : Accounted session)
    (told : session.ToldInFull given)
    (stepped : session.attempt given = some (following, fresh)) :
    Accounted following := by
  obtain ⟨action, hasRoom⟩ := given
  cases hasRoom with
  | true => exact accounted.step told.1 (effect_of_step stepped)
  | false =>
      obtain ⟨side, taken, events, client, effect, drops, rfl⟩ :=
        drops_of_stepRefused (told.2 rfl) stepped
      exact (accounted.step told.1.refused effect).of_drops drops

theorem of_run {helloName : Side → String} {attempts : List Attempt} {events : List Event}
    (run : Machine.Run Session.attempt ToldInFull (Session.initial helloName) attempts events
      session) :
    Accounted session := by
  apply run.state_invariant Accounted (initial helloName)
  intro state input next fresh accounted told stepped
  exact accounted.attempt told stepped

/-- At rest, a file that is received is being sent. -/
theorem sends_of_receives (accounted : Accounted session) (atRest : session.AtRest)
    {side : Side} {transfer : TransferId} (receives : (session side).Receives transfer) :
    (session side.peer).Sends transfer := by
  have agreed := accounted.agreed side.peer
  rw [Side.peer_peer] at agreed
  have pending := (accounted.orderly side).pending_of_receives receives
  by_contra notSending
  rcases agreed.releases transfer (agreed.offered transfer pending) (absurd · notSending) (.inr pending) with
    ⟨block, member, -⟩ | ⟨packet, member, -⟩
  · rw [(atRest side).2.1] at member
    contradiction
  · rw [(atRest side.peer).1] at member
    contradiction

/-- At rest, the offer of a file that is sent is pending. -/
theorem pending_of_sends (accounted : Accounted session) (atRest : session.AtRest)
    {side : Side} {transfer : TransferId} (sends : (session side).Sends transfer) :
    (session side.peer).Pending transfer := by
  obtain ⟨noPacket, noBlock, noLoop⟩ := atRest side
  obtain ⟨noPeerPacket, -, -⟩ := atRest side.peer
  by_contra notPending
  have notHeld : ¬ ((session side).Offering transfer ∨
      (session side.peer).Pending transfer) := by
    rintro (⟨packet, member, -⟩ | pending)
    · rw [noPacket] at member
      contradiction
    · exact notPending pending
  rcases (accounted.agreed side).ends transfer sends (absurd · notHeld) with
    ⟨block, member, -⟩ | ⟨packet, member, -⟩ | accepting | ⟨loop, member, -⟩
  · rw [noBlock] at member
    contradiction
  · rw [noPeerPacket] at member
    contradiction
  · rw [Accepting, noPeerPacket] at accepting
    contradiction
  · rw [noLoop] at member
    contradiction

theorem nothing_half_open (accounted : Accounted session) (atRest : session.AtRest) :
    session.NothingHalfOpen := by
  intro side
  constructor
  · intro handle receiving
    have consistent := (accounted.orderly side).holdings
    have held : (session side).holdings.receiving = some handle.transfer := by
      simp [RTCClient.holdings, show (session side).recvHandle = some handle from receiving]
    obtain ⟨tagged, isSome⟩ := consistent.receiving handle.transfer held
    obtain ⟨transfer, isTransfer⟩ := Option.isSome_iff_exists.mp isSome
    have receives : (session side).Receives transfer :=
      ⟨handle, receiving, tagged.trans isTransfer⟩
    obtain ⟨sent, sending, rfl⟩ := (accounted.sends_of_receives atRest receives).handle
    exact ⟨sent, sending, tagged.trans isTransfer⟩
  · intro handle sending
    have pending := accounted.pending_of_sends atRest (sends_of_sendHandle sending)
    have named := (accounted.orderly side.peer).holdings.named
    refine .inl ⟨?_, pending⟩
    rw [show (session side.peer).incomingFileName.isSome =
      (session side.peer).incomingTransfer.isSome from named.symm, pending]
    rfl

end Accounted

/-- **Nothing is half open at rest.** Take any run of two clients on a channel that
does not close and that may refuse whatever is handed over, in which every end of a
transfer is told and no message about a transfer is refused. In every state it reaches
in which nothing is under way and no queue has work, a client receives a file only
while its peer sends it, and sends one only while its peer holds the offer or receives
the file. -/
theorem aborts_reach_other_side
    {helloName : Side → String} {attempts : List Attempt} {outputs : List Event}
    {session : Session}
    (run : Machine.Run Session.attempt ToldInFull (Session.initial helloName) attempts outputs
      session)
    (atRest : session.AtRest) :
    session.NothingHalfOpen :=
  (Accounted.of_run run).nothing_half_open atRest

/-- Run the main queue of one end the given number of times. -/
def runMain (side : Side) (times : Nat) : List Attempt :=
  List.replicate times (.taken (.take side .runMain))

/-- Both ends are connected and have shown each other's names. -/
def connected : List Attempt :=
  [.taken (.take .A (.dataChannelState .Open)), .taken (.take .B (.dataChannelState .Open)),
    .taken (.deliver .A .written), .taken (.deliver .B .written)] ++
    runMain .A 2 ++ runMain .B 2

/-- Both ends are connected, and the channel has refused the name of one. -/
def connectedUnnamed : List Attempt :=
  [.refused (.take .A (.dataChannelState .Open)),
    .taken (.take .B (.dataChannelState .Open)), .taken (.deliver .A .written)] ++
    runMain .A 2 ++ runMain .B 1

/-- A file is offered. -/
def offers (name : String) (file : File) : List Attempt :=
  [.taken (.take .A (.sendFileAtURL (.ofFile name file))), .taken (.deliver .B .written)] ++
    runMain .B 1

/-- The first offer is declined. The second is accepted, the channel refuses its first
chunk, and the sender cancels it. The third waits for the user. -/
def declinedAndCancelled : List Attempt :=
  connectedUnnamed ++ offers "notes.txt" ⟨[1, 2], File.bounded_notes⟩ ++
    [.taken (.take .B (.rejectIncomingFileWithReason "User rejected")),
      .taken (.deliver .A .written)] ++
    runMain .A 1 ++ runMain .B 1 ++ offers "notes.txt" ⟨[1, 2], File.bounded_notes⟩ ++
    [.taken (.take .B (.acceptIncomingFileToURL ⟨"Downloads/notes.txt", none⟩)),
      .taken (.deliver .A .written)] ++
    List.replicate 8 (.refused (.take .A (.runFile ⟨0, 2, false, true⟩))) ++
    [.taken (.take .A .cancelFileTransfer), .taken (.deliver .B .written)] ++
    List.replicate 3 (.taken (.take .A (.runFile ⟨0, 2, false, true⟩))) ++
    runMain .A 2 ++ runMain .B 1 ++ offers "song.mp3" ⟨[7], File.bounded_secret⟩

theorem aborts_reach_other_side_declined :
    ∃ outputs session,
      Machine.Run Session.attempt ToldInFull (Session.initial fun _ => "mac#001")
        declinedAndCancelled outputs session ∧
      session.AtRest ∧ (session .A).Sends ⟨0, 2⟩ ∧ session.NothingHalfOpen := by
  obtain ⟨session, outputs, run, checked⟩ :
      ∃ session outputs,
        Machine.Run Session.attempt ToldInFull (Session.initial fun _ => "mac#001")
          declinedAndCancelled outputs session ∧
        decide ((session .A).AtRest ∧ (session .B).AtRest ∧ (session .A).Sends ⟨0, 2⟩) =
          true :=
    Machine.run_of_exec_any (fun (session : Session) _ =>
      decide ((session .A).AtRest ∧ (session .B).AtRest ∧ (session .A).Sends ⟨0, 2⟩))
      (by decide)
  obtain ⟨restA, restB, sends⟩ := of_decide_eq_true checked
  have atRest : session.AtRest := by
    intro side
    cases side with
    | A => exact restA
    | B => exact restB
  exact ⟨outputs, session, run, atRest, sends, aborts_reach_other_side run atRest⟩

/-- An offer waits at the receiver. -/
def offeredOnce : List Attempt :=
  connected ++ offers "notes.txt" ⟨[1, 2], File.bounded_notes⟩

/-- The offer is accepted, and the sender knows. -/
def acceptedAtRest : List Attempt :=
  offeredOnce ++
    [.taken (.take .B (.acceptIncomingFileToURL ⟨"Downloads/notes.txt", none⟩)),
      .taken (.deliver .A .written)]

/-- The file is accepted, and reading it fails. -/
def readFails : List Attempt :=
  acceptedAtRest ++
    List.replicate 8 (.taken (.take .A (.runFile ⟨0, 2, true, true⟩))) ++ runMain .A 1

/-- The sender alone loses the connection for a moment; the offer is accepted
afterwards. -/
def connectionLost : List Attempt :=
  offeredOnce ++ [.taken (.take .A (.iceConnectionState .Disconnected))] ++ runMain .A 2 ++
    [.taken (.take .B (.acceptIncomingFileToURL ⟨"Downloads/notes.txt", none⟩)),
      .taken (.deliver .A .written)]

/-- The receiver offers a file of its own while the offer is pending. The refusal
ends that file and clears the pending offer with it. -/
def offeredBack : List Attempt :=
  offeredOnce ++
    [.taken (.take .B (.sendFileAtURL (.ofFile "song.mp3" ⟨[7], File.bounded_secret⟩))),
      .taken (.deliver .A .written), .taken (.deliver .B .written)] ++ runMain .B 1

/-- The sender cancels while the buffer of the channel is full. -/
def cancelRefused : List Attempt :=
  acceptedAtRest ++ [.refused (.take .A .cancelFileTransfer)] ++
    List.replicate 3 (.taken (.take .A (.runFile ⟨0, 2, false, true⟩))) ++ runMain .A 1

/-- Both clients are at rest; `A` sends exactly if `sends`, and `B` receives or
holds an offer exactly if `holds`. -/
def restsWith (sends holds : Bool) (session : Session) : Bool :=
  decide ((session .A).AtRest ∧ (session .B).AtRest) &&
    (session .A).sendHandle.isSome == sends &&
    (session .B).recvHandle.isSome == holds &&
    (session .B).incomingTransfer.isSome == holds

theorem half_open_of_restsWith {session : Session} {sends : Bool}
    (rests : restsWith sends (!sends) session = true) :
    session.AtRest ∧ ¬ session.NothingHalfOpen := by
  simp only [restsWith, Bool.and_eq_true, decide_eq_true_eq, beq_iff_eq] at rests
  obtain ⟨⟨⟨⟨restA, restB⟩, sending⟩, receiving⟩, pending⟩ := rests
  constructor
  · intro side
    cases side with
    | A => exact restA
    | B => exact restB
  · intro closed
    cases sends with
    | true =>
        obtain ⟨handle, isHandle⟩ := Option.isSome_iff_exists.mp sending
        rcases (closed .A).2 handle isHandle with ⟨-, same⟩ | ⟨received, isReceived, -⟩
        · rw [show (session .B).incomingTransfer = some handle.transfer from same] at pending
          contradiction
        · rw [show (session .B).recvHandle = some received from isReceived] at receiving
          contradiction
    | false =>
        obtain ⟨handle, isHandle⟩ := Option.isSome_iff_exists.mp receiving
        obtain ⟨sent, isSent, -⟩ := (closed .B).1 handle isHandle
        rw [show (session .A).sendHandle = some sent from isSent] at sending
        contradiction

/-- The attempts lead to a state at rest in which a transfer is half open, on a
channel that does not close. -/
def LeavesHalfOpen (attempts : List Attempt) : Prop :=
  ∃ outputs session,
    Machine.Run Session.attempt (fun session given => session.StaysOpen given.action)
      (Session.initial fun _ => "mac#001") attempts outputs session ∧
    session.AtRest ∧ ¬ session.NothingHalfOpen

theorem leavesHalfOpen_of_restsWith {attempts : List Attempt} (sends : Bool)
    (executed :
      (Machine.exec Session.attempt (fun session given => session.StaysOpen given.action)
          (Session.initial fun _ => "mac#001") attempts).any
        (fun result => restsWith sends (!sends) result.1) = true) :
    LeavesHalfOpen attempts := by
  obtain ⟨session, outputs, run, rests⟩ := Machine.run_of_exec_any
    (fun (session : Session) _ => restsWith sends (!sends) session) executed
  exact ⟨outputs, session, run, half_open_of_restsWith rests⟩

/-- A read error, a connection that one side lost for a moment, a cleanup that takes a
pending offer along, and a refused `ft_cancel` each leave a transfer half open. -/
theorem abort_left_half_open :
    LeavesHalfOpen readFails ∧ LeavesHalfOpen connectionLost ∧ LeavesHalfOpen offeredBack ∧
      LeavesHalfOpen cancelRefused := by
  refine ⟨?_, ?_, ?_, ?_⟩
  · exact leavesHalfOpen_of_restsWith false (by decide)
  · exact leavesHalfOpen_of_restsWith false (by decide)
  · exact leavesHalfOpen_of_restsWith true (by decide)
  · exact leavesHalfOpen_of_restsWith false (by decide)

end Session

end WebrtcFileSender
