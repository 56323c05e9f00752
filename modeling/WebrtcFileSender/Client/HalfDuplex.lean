import WebrtcFileSender.Client.Effect

/-!
Contract: a client sends or receives, not both.

`sendFileAtURL:error:` and the `ft_offer` branch look at both handles;
`acceptIncomingFileToURL:` looks only at `recvHandle`. An offer that is pending
does not count as busy, so a send may start between an offer and its accept, and
the accept then opens the second handle.

Owns: the exclusion property, the one input that can break it, and the exact
condition on a run: exclusion holds in every state of a run if and only if no
accept of that run opens its destination while a file is being sent.
-/

namespace WebrtcFileSender

namespace RTCClient

/-- At most one of the two handles is open. -/
def HalfDuplex (client : RTCClient) : Prop :=
  client.sendHandle = none ∨ client.recvHandle = none

instance (client : RTCClient) : Decidable client.HalfDuplex :=
  decidable_of_iff (client.sendHandle.isNone ∨ client.recvHandle.isNone) (by
    simp [HalfDuplex, Option.isNone_iff_eq_none])

/-- The condition on an input: an accept that would open its destination comes
while no file is being sent. -/
def AcceptsWhileNotSending (client : RTCClient) : Input → Prop
  | .acceptIncomingFileToURL destination =>
      client.canAccept = true → destination.openError = none → client.sendHandle = none
  | _ => True

instance (client : RTCClient) :
    (input : Input) → Decidable (client.AcceptsWhileNotSending input)
  | .acceptIncomingFileToURL destination =>
      decidable_of_iff
        (client.canAccept = true → destination.openError.isNone → client.sendHandle.isNone)
        (by simp [AcceptsWhileNotSending, Option.isNone_iff_eq_none])
  | .sendFileAtURL _ | .cancelFileTransfer | .rejectIncomingFileWithReason _
  | .receive _ _ | .transmit | .runMain | .runFile _ | .iceConnectionState _
  | .dataChannelState _ => .isTrue trivial

variable {client next : RTCClient} {input : Input} {calls : List DelegateCall}

/-- Every input under the condition keeps the exclusion. -/
theorem HalfDuplex.act
    (exclusive : client.HalfDuplex)
    (allowed : client.AcceptsWhileNotSending input)
    (acted : client.act input = some (next, calls)) :
    next.HalfDuplex := by
  cases effect_of_act acted with
  | began fileURL file isOpen notSending notReceiving =>
      rw [beginSending_eq]
      exact .inr notReceiving
  | cancelled =>
      rw [cancelFileTransfer_eq]
      exact exclusive
  | rejected =>
      rw [rejectIncomingFileWithReason_eq]
      exact exclusive
  | accepted destination accepts opens => exact .inl (allowed accepts opens)
  | unopened | greeted | busy | offered | started | ended | writeFailed | stored | completed
  | transmitted | reported | iceLost | iceIdle | iceChanged | nothing => exact exclusive
  | cleaned => exact .inl rfl
  | looped given loop rest queue =>
      obtain ⟨handle, sent, packets, blocks, result, change⟩ :=
        client.loopStatement_change loop.transfer given loop.point
      rw [result]
      rcases exclusive with notSending | notReceiving
      · left
        have sameTransfer := change.sameTransfer
        rw [notSending] at sameTransfer
        exact Option.map_eq_none_iff.mp sameTransfer
      · exact .inr notReceiving
  | channelChanged state =>
      obtain ⟨outgoing, result⟩ := client.dataChannelDidChangeState_eq state
      rw [result]
      exact exclusive

/-- An accept that opens its destination while a file is being sent breaks the
exclusion at once. -/
theorem not_halfDuplex_of_accept
    (breaks : ¬ client.AcceptsWhileNotSending input)
    (acted : client.act input = some (next, calls)) :
    ¬ next.HalfDuplex := by
  cases input with
  | acceptIncomingFileToURL destination =>
      simp only [AcceptsWhileNotSending, Classical.not_imp] at breaks
      obtain ⟨accepts, opens, sending⟩ := breaks
      rcases client.acceptIncomingFileToURL_cases destination with
        ⟨refuses, -⟩ | ⟨error, -, fails, -⟩ | ⟨-, -, result⟩
      · rw [accepts] at refuses
        contradiction
      · rw [opens] at fails
        contradiction
      · simp only [RTCClient.act, result, Option.some.injEq, Prod.mk.injEq] at acted
        obtain ⟨rfl, -⟩ := acted
        simpa [HalfDuplex] using sending
  | sendFileAtURL | cancelFileTransfer | rejectIncomingFileWithReason | receive | transmit
  | runMain | runFile | iceConnectionState | dataChannelState => exact absurd trivial breaks

end RTCClient

open RTCClient

/-- **Half-duplex exclusion, exactly.** Take any inputs of a client: any packets
from the peer, any user calls, any order of queue blocks and loop statements.
They make a run in which the two handles are never open together, in any state,
if and only if they make a run in which every accept that opens its destination
happens while no file is being sent. -/
theorem halfDuplex_iff_accepts_while_not_sending
    {clientId : Nat} {helloName : String}
    {inputs : List Input} {observations : List Observation} {final : RTCClient} :
    (ClientRun clientId helloName (fun client _ => client.HalfDuplex)
        inputs observations final ∧ final.HalfDuplex) ↔
      ClientRun clientId helloName AcceptsWhileNotSending inputs observations final := by
  constructor
  · rintro ⟨exclusive, finalExclusive⟩
    induction exclusive with
    | nil => exact .nil
    | snoc before holds stepped inductionHypothesis =>
        obtain ⟨calls, acted, -⟩ := act_of_step stepped
        refine .snoc (inductionHypothesis holds) ?_ stepped
        by_contra breaks
        exact not_halfDuplex_of_accept breaks acted finalExclusive
  · intro allowed
    induction allowed with
    | nil => exact ⟨.nil, .inl rfl⟩
    | snoc before accepts stepped inductionHypothesis =>
        obtain ⟨exclusive, holds⟩ := inductionHypothesis
        obtain ⟨calls, acted, -⟩ := act_of_step stepped
        exact ⟨.snoc exclusive holds stepped, holds.act accepts acted⟩

/-- The peer offers a file; before answering, the user sends a file of his own,
then accepts the offer. -/
def crossedInputs : List Input :=
  [.dataChannelState .Open,
    .receive ⟨.ftOffer "photo.jpg" 3 chunkSize, some ⟨1, 0⟩⟩ .written,
    .sendFileAtURL (.ofFile "notes.txt" ⟨[1, 2], File.bounded_notes⟩),
    .acceptIncomingFileToURL ⟨"/Downloads/photo.jpg", none⟩]

/-- The accept opens the second handle. -/
theorem not_halfDuplex_crossed :
    ∃ observations final,
      ClientRun 0 "mac#001" Machine.free crossedInputs observations final ∧
        ¬ final.HalfDuplex := by
  obtain ⟨final, observations, run, checked⟩ :
      ∃ final observations,
        ClientRun 0 "mac#001" Machine.free crossedInputs observations final ∧
          decide (¬ final.HalfDuplex) = true :=
    Machine.run_of_exec_any (fun (client : RTCClient) _ => decide (¬ client.HalfDuplex))
      (by decide)
  exact ⟨observations, final, run, of_decide_eq_true checked⟩

end WebrtcFileSender
