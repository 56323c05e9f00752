import WebrtcFileSender.Client.Involvement

/-!
Contract: the order in which a client that stays connected does things.

Owns: the invariant of one client on a channel that does not close, as long as
the peer sends what an orderly client sends: nothing is held or under way before
the channel opens, offers leave in the order in which they began and are all
older than what is begun next, and a cancelled transfer waits for its cleanup.
-/

namespace WebrtcFileSender

/-- Of two packets in a row, one that mentions a transfer and a later one that
offers one of the same client, the offered one began later. -/
def Packet.Before (earlier later : Packet) : Prop :=
  ∀ transfer offered, earlier.transfer = some transfer → later.Offers offered →
    transfer.sender = offered.sender → transfer.seq < offered.seq

namespace RTCClient

/-- What a client holds is consistent. -/
structure Holdings.Consistent (held : Holdings) (clientId : Nat) : Prop where
  named : held.pending.isSome = held.named
  receiving : ∀ tag, held.receiving = some tag →
    tag = held.pending ∧ held.pending.isSome = true
  sending : ∀ transfer, held.sending = some transfer → transfer.sender = clientId
  pending : ∀ transfer, held.pending = some transfer → transfer.sender ≠ clientId
  closed : held.isOpen = false → held.sending = none ∧ held.pending = none

structure Orderly (client : RTCClient) : Prop where
  holdings : client.holdings.Consistent client.clientId
  closed : client.isDataChannelOpen = false → client.outgoing = [] ∧ client.fileQueue = []
  looping : ∀ transfer, client.Looping transfer → transfer.sender = client.clientId
  cancelled : client.transferCancelled = true →
    ∀ transfer, client.Sends transfer → client.Clearing transfer
  offers : ∀ packet ∈ client.outgoing, ∀ name size chunk,
    packet.message = .ftOffer name size chunk →
    ∃ transfer, packet.transfer = some transfer ∧ transfer.sender = client.clientId
  fresh : ∀ transfer, client.Mentions transfer → transfer.sender = client.clientId →
    transfer.seq < client.begun
  ordered : client.outgoing.Pairwise Packet.Before
  last : ∀ transfer offered, client.Sends transfer → client.Offering offered →
    offered.seq ≤ transfer.seq

/-- What the channel and an orderly peer promise of an input: packets arrive only
while the channel is open, a channel does not close, a transfer of this client
comes back only after it began, and an offer is one of another client. -/
structure Expected (client : RTCClient) (input : Input) : Prop where
  notTransmitted : input ≠ .transmit
  staysOpen : ∀ state, input = .dataChannelState state →
    state = .Open ∨ (client.isDataChannelOpen = false ∧ state = .Connecting)
  delivered : ∀ packet outcome, input = .receive packet outcome →
    client.isDataChannelOpen = true
  returned : ∀ transfer, input.Carries transfer → transfer.sender = client.clientId →
    transfer.seq < client.begun
  offered : ∀ packet outcome name size chunk, input = .receive packet outcome →
    packet.message = .ftOffer name size chunk →
    ∃ transfer, packet.transfer = some transfer ∧ transfer.sender ≠ client.clientId

variable {client next : RTCClient} {input : Input} {calls : List DelegateCall}
  {transfer : TransferId}

/-! ## Consistent holdings -/

theorem Holdings.Consistent.rehold {held : Holdings}
    (consistent : client.holdings.Consistent client.clientId)
    (expected : client.Expected input)
    (rehold : Rehold client input held) :
    held.Consistent client.clientId := by
  obtain ⟨named, receiving, sending, pending, closed⟩ := consistent
  cases rehold with
  | kept | cancelled => exact ⟨named, receiving, sending, pending, closed⟩
  | began fileURL succeeds isOpen notSending =>
      refine ⟨named, receiving, ?_, pending, ?_⟩
      · intro transfer same
        rw [← Option.some.inj same]
      · intro isClosed
        have stillOpen : client.isDataChannelOpen = false := isClosed
        rw [isOpen] at stillOpen
        contradiction
  | accepted destination isPending =>
      refine ⟨named, ?_, sending, pending, closed⟩
      intro tag same
      refine ⟨(Option.some.inj same).symm, ?_⟩
      rw [← isPending]
      exact named
  | offered name size chunk tag outcome notSending notReceiving =>
      obtain ⟨offered, rfl, foreign⟩ :=
        expected.offered _ outcome name size chunk rfl rfl
      refine ⟨rfl, ?_, sending, ?_, ?_⟩
      · intro tag same
        simp [RTCClient.holdings, notReceiving] at same
      · intro transfer same
        obtain rfl := Option.some.inj same
        exact foreign
      · intro isClosed
        have stillOpen : client.isDataChannelOpen = false := isClosed
        rw [expected.delivered _ _ rfl] at stillOpen
        contradiction
  | cleaned => exact ⟨rfl, by simp, by simp, by simp, fun _ => ⟨rfl, rfl⟩⟩
  | channelChanged state =>
      refine ⟨named, receiving, sending, pending, ?_⟩
      intro isClosed
      rcases expected.staysOpen state rfl with rfl | ⟨wasClosed, -⟩
      · contradiction
      · exact closed wasClosed

/-! ## One input -/

theorem Expected.keepsPackets (expected : client.Expected input)
    (orderly : client.Orderly) (state : RTCDataChannelState)
    (changed : input = .dataChannelState state) :
    state = .Open ∨ client.outgoing = [] :=
  (expected.staysOpen state changed).imp_right fun connecting =>
    (orderly.closed connecting.1).1

theorem mem_kept (effect : Effect client input next calls)
    (expected : client.Expected input) (orderly : client.Orderly)
    {packet : Packet} (member : packet ∈ client.outgoing) :
    packet ∈ next.outgoing :=
  mem_outgoing_kept effect expected.notTransmitted (expected.keepsPackets orderly) member

theorem ending_kept (effect : Effect client input next calls)
    (expected : client.Expected input) (orderly : client.Orderly)
    (ending : client.Ending transfer) :
    next.Ending transfer := by
  obtain ⟨packet, member, ends⟩ := ending
  exact ⟨packet, mem_kept effect expected orderly member, ends⟩

theorem offering_kept (effect : Effect client input next calls)
    (expected : client.Expected input) (orderly : client.Orderly)
    (offering : client.Offering transfer) :
    next.Offering transfer := by
  obtain ⟨packet, member, offers⟩ := offering
  exact ⟨packet, mem_kept effect expected orderly member, offers⟩

namespace Orderly

theorem sender_of_sends (orderly : client.Orderly) (sends : client.Sends transfer) :
    transfer.sender = client.clientId :=
  orderly.holdings.sending transfer sends

theorem sender_of_pending (orderly : client.Orderly) (pending : client.Pending transfer) :
    transfer.sender ≠ client.clientId :=
  orderly.holdings.pending transfer pending

theorem sender_of_offering (orderly : client.Orderly) (offering : client.Offering transfer) :
    transfer.sender = client.clientId := by
  obtain ⟨packet, member, name, size, chunk, rfl⟩ := offering
  obtain ⟨tagged, same, own⟩ := orderly.offers _ member name size chunk rfl
  obtain rfl := Option.some.inj same
  exact own

/-- A file is received only for the offer that is pending. -/
theorem pending_of_receives (orderly : client.Orderly) (receives : client.Receives transfer) :
    client.Pending transfer := by
  obtain ⟨handle, receiving, same⟩ := receives
  have held : client.holdings.receiving = some handle.transfer := by
    simp [RTCClient.holdings, receiving]
  have tagged := (orderly.holdings.receiving handle.transfer held).1
  rw [same] at tagged
  exact tagged.symm

theorem isOpen_of_sends (orderly : client.Orderly) (sends : client.Sends transfer) :
    client.isDataChannelOpen = true := by
  by_contra notOpen
  have absent := (orderly.holdings.closed (eq_false_of_ne_true notOpen)).1
  exact Option.some_ne_none transfer (sends.symm.trans absent)

theorem isOpen_of_pending (orderly : client.Orderly) (pending : client.Pending transfer) :
    client.isDataChannelOpen = true := by
  by_contra notOpen
  have absent := (orderly.holdings.closed (eq_false_of_ne_true notOpen)).2
  exact Option.some_ne_none transfer (pending.symm.trans absent)

theorem initial (clientId : Nat) (helloName : String) :
    Orderly (RTCClient.initial clientId helloName) where
  holdings := ⟨rfl, by simp [RTCClient.holdings, RTCClient.initial],
    by simp [RTCClient.holdings, RTCClient.initial],
    by simp [RTCClient.holdings, RTCClient.initial], fun _ => ⟨rfl, rfl⟩⟩
  closed := fun _ => ⟨rfl, rfl⟩
  looping := by simp [Looping, RTCClient.initial]
  cancelled := by simp [RTCClient.initial]
  offers := by simp [RTCClient.initial]
  fresh := by
    intro transfer mentions
    exact absurd mentions (not_mentions_initial clientId helloName transfer)
  ordered := .nil
  last := by simp [Sends, RTCClient.initial]

/-- A channel that is not open after an input was not open before. -/
theorem wasClosed (expected : client.Expected input)
    (effect : Effect client input next calls)
    (isClosed : next.isDataChannelOpen = false) :
    client.isDataChannelOpen = false := by
  have rehold := rehold_of_effect effect
  have after : next.holdings.isOpen = false := isClosed
  generalize next.holdings = held at rehold after
  cases rehold with
  | channelChanged state =>
      rcases expected.staysOpen state rfl with rfl | ⟨closed, -⟩
      · contradiction
      · exact closed
  | kept | began | cancelled | accepted | offered | cleaned => exact after

theorem noLoop_effect (orderly : client.Orderly) (expected : client.Expected input)
    (effect : Effect client input next calls)
    (isClosed : client.isDataChannelOpen = false) :
    next.fileQueue = [] := by
  apply List.eq_nil_iff_forall_not_mem.mpr
  intro loop member
  rcases loop_before effect member with
    ⟨old, inQueue, -⟩ | ⟨handle, tag, outcome, -, -, received⟩
  · rw [(orderly.closed isClosed).2] at inQueue
    contradiction
  · rw [expected.delivered _ outcome received] at isClosed
    contradiction

theorem fresh_effect (orderly : client.Orderly) (expected : client.Expected input)
    (effect : Effect client input next calls)
    (mentions : next.Mentions transfer)
    (own : transfer.sender = client.clientId) :
    transfer.seq < next.begun := by
  have grows := (identity_of_effect effect).2
  rcases mentions_before effect mentions with before | carried | ⟨rfl, begins⟩
  · exact Nat.lt_of_lt_of_le (orderly.fresh transfer before own) grows
  · exact Nat.lt_of_lt_of_le (expected.returned transfer carried own) grows
  · rw [begins.begun effect]
    exact Nat.lt_succ_self _

theorem last_effect (orderly : client.Orderly)
    (effect : Effect client input next calls) {offered : TransferId}
    (sends : next.Sends transfer) (offering : next.Offering offered) :
    offered.seq ≤ transfer.seq := by
  rcases sends_before effect sends with wasSending | ⟨rfl, begins⟩
  · rcases offering_before effect offering with wasOffered | ⟨-, begins⟩
    · exact orderly.last transfer offered wasSending wasOffered
    · exact absurd wasSending begins.not_sends
  · rcases offering_before effect offering with wasOffered | ⟨rfl, -⟩
    · obtain ⟨packet, member, name, size, chunk, rfl⟩ := wasOffered
      have mentioned : client.Mentions offered := .packet _ member rfl
      have own := orderly.sender_of_offering ⟨_, member, name, size, chunk, rfl⟩
      exact Nat.le_of_lt (orderly.fresh offered mentioned own)
    · exact Nat.le_refl _

theorem ordered_effect (orderly : client.Orderly) (expected : client.Expected input)
    (effect : Effect client input next calls) :
    next.outgoing.Pairwise Packet.Before := by
  by_cases begins : client.Begins input
  · obtain ⟨name, size, grown⟩ := begins.outgoing effect
    rw [grown]
    refine List.pairwise_append.mpr ⟨orderly.ordered, List.pairwise_singleton _ _, ?_⟩
    intro earlier member later isNew tagged offered same offers sameSender
    rw [List.mem_singleton.mp isNew] at offers
    obtain ⟨_, _, _, isOffer⟩ := offers
    obtain rfl := Option.some.inj (congrArg Packet.transfer isOffer)
    exact orderly.fresh tagged (.packet earlier member same) sameSender
  · rcases outgoing_of_effect effect with
      ⟨gone, -, transmitted⟩ | ⟨dropped, -⟩ | ⟨packets, grown, emitted⟩
    · exact absurd transmitted expected.notTransmitted
    · rw [dropped]
      exact .nil
    · -- No packet of this input is an offer, so none comes after another.
      have noOffer : ∀ later ∈ packets, ∀ offered, ¬ later.Offers offered := by
        rintro later isNew offered ⟨name, size, chunk, rfl⟩
        cases emitted _ isNew with
        | offer fileURL _ _ succeeds => exact begins ⟨fileURL, rfl, succeeds⟩
      rw [grown]
      refine List.pairwise_append.mpr ⟨orderly.ordered, ?_, ?_⟩
      · apply List.pairwise_of_forall_mem_list
        intro earlier _ later isNew tagged offered _ offers
        exact absurd offers (noOffer later isNew offered)
      · intro earlier _ later isNew tagged offered _ offers
        exact absurd offers (noOffer later isNew offered)

theorem offers_effect (orderly : client.Orderly)
    (effect : Effect client input next calls)
    {packet : Packet} (member : packet ∈ next.outgoing)
    {name : String} {size chunk : Nat} (isOffer : packet.message = .ftOffer name size chunk) :
    ∃ transfer, packet.transfer = some transfer ∧ transfer.sender = client.clientId := by
  rcases mem_outgoing_of_effect effect member with old | emits
  · exact orderly.offers packet old name size chunk isOffer
  · cases emits with
    | offer => exact ⟨_, rfl, rfl⟩
    | cancel | reject | accept | unopened | busy | received | chunk | done | hello =>
        contradiction

theorem cancelled_effect (orderly : client.Orderly)
    (effect : Effect client input next calls)
    (cancelled : next.transferCancelled = true) (sends : next.Sends transfer) :
    next.Clearing transfer := by
  rcases sends_before effect sends with wasSending | ⟨-, begins⟩
  · rcases cancelled_before effect cancelled with wasCancelled | requested
    · rcases clearing_kept effect (orderly.cancelled wasCancelled transfer wasSending) with
        clearing | cleans
      · exact clearing
      · rw [Sends, (cleans.released effect).1] at sends
        contradiction
    · exact requested wasSending.current
  · obtain ⟨fileURL, rfl, succeeds⟩ := begins
    obtain ⟨file, -, -, -, rfl⟩ := beginSending_of_succeeds succeeds effect
    rw [beginSending_eq] at cancelled
    contradiction

/-- Every expected input keeps a client orderly. -/
theorem effect (orderly : client.Orderly) (expected : client.Expected input)
    (effect : Effect client input next calls) :
    next.Orderly := by
  have sameId := (identity_of_effect effect).1
  constructor
  · rw [sameId]
    exact orderly.holdings.rehold expected (rehold_of_effect effect)
  · intro isClosed
    have closed := wasClosed expected effect isClosed
    exact ⟨outgoing_of_closed effect closed isClosed (orderly.closed closed).1,
      orderly.noLoop_effect expected effect closed⟩
  · rintro transfer ⟨loop, member, rfl⟩
    rw [sameId]
    rcases loop_before effect member with
      ⟨old, inQueue, sameTransfer⟩ | ⟨handle, tag, outcome, sending, rfl, -⟩
    · exact orderly.looping _ ⟨old, inQueue, sameTransfer⟩
    · exact orderly.sender_of_sends (sends_of_sendHandle sending)
  · intro cancelled transfer sends
    exact orderly.cancelled_effect effect cancelled sends
  · intro packet member name size chunk isOffer
    rw [sameId]
    exact orderly.offers_effect effect member isOffer
  · intro transfer mentions own
    rw [sameId] at own
    exact orderly.fresh_effect expected effect mentions own
  · exact orderly.ordered_effect expected effect
  · intro transfer offered sends offering
    exact orderly.last_effect effect sends offering

/-- The first packet under way arrives. -/
theorem delivered (orderly : client.Orderly) {packet : Packet} {rest : List Packet}
    (queue : client.outgoing = packet :: rest) :
    Orderly { client with outgoing := rest } := by
  have kept : rest ⊆ client.outgoing := by
    rw [queue]
    exact List.subset_cons_self _ _
  constructor
  · exact orderly.holdings
  · intro isClosed
    obtain ⟨empty, noLoop⟩ := orderly.closed isClosed
    rw [queue] at empty
    contradiction
  · exact orderly.looping
  · exact orderly.cancelled
  · intro other member
    exact orderly.offers other (kept member)
  · intro transfer mentions own
    exact orderly.fresh transfer (mentions.of_delivered kept) own
  · have ordered := orderly.ordered
    rw [queue] at ordered
    exact (List.pairwise_cons.mp ordered).2
  · rintro transfer offered sends ⟨other, member, offers⟩
    exact orderly.last transfer offered sends ⟨other, kept member, offers⟩

/-! ## Own transfers and those of the peer -/

/-- Nothing has been said yet about a transfer that has just begun. -/
theorem untouched (orderly : client.Orderly)
    (effect : Effect client input next calls)
    (begins : client.Begins input) :
    ¬ next.Ending ⟨client.clientId, client.begun⟩ ∧
    ¬ next.Clearing ⟨client.clientId, client.begun⟩ ∧
    ¬ next.Finishing ⟨client.clientId, client.begun⟩ := by
  have unknown : ¬ client.Mentions ⟨client.clientId, client.begun⟩ := fun mentions =>
    Nat.lt_irrefl _ (orderly.fresh _ mentions rfl)
  have unended : ¬ next.Ending ⟨client.clientId, client.begun⟩ := by
    rintro ⟨packet, member, ends⟩
    obtain ⟨name, size, grown⟩ := begins.outgoing effect
    rw [grown] at member
    rcases List.mem_append.mp member with old | new
    · exact unknown (.packet packet old ends.choose_spec.2)
    · rw [List.mem_singleton.mp new] at ends
      exact ends.not_offers ⟨name, size, chunkSize, rfl⟩
  refine ⟨unended, ?_, ?_⟩
  · rintro ⟨block, member, clears⟩
    obtain ⟨error, request, rfl, same⟩ := clears.cleanup
    rcases mem_mainQueue_of_effect effect member with old | requests
    · exact unknown (.clearing ⟨_, old, same⟩)
    · obtain ⟨fileURL, rfl, -⟩ := begins
      contradiction
  · intro finishing
    have isOpen : client.isDataChannelOpen = true := by
      obtain ⟨fileURL, rfl, succeeds⟩ := begins
      obtain ⟨file, isOpen, -⟩ := beginSending_of_succeeds succeeds effect
      exact isOpen
    rcases finishing_before effect isOpen finishing with before | ending
    · exact unknown (.loop _ before rfl)
    · exact unended ending

theorem sends_of_current (orderly : client.Orderly)
    (own : transfer.sender = client.clientId)
    (current : client.currentTransfer = some transfer) :
    client.Sends transfer := by
  rcases currentTransfer_cases current with sends | receives | ⟨-, -, pending⟩
  · exact sends
  · exact absurd own (orderly.sender_of_pending (orderly.pending_of_receives receives))
  · exact absurd own (orderly.sender_of_pending pending)

theorem pending_of_current (orderly : client.Orderly)
    (foreign : transfer.sender ≠ client.clientId)
    (current : client.currentTransfer = some transfer) :
    client.Pending transfer := by
  rcases currentTransfer_cases current with sends | receives | ⟨-, -, pending⟩
  · exact absurd (orderly.sender_of_sends sends) foreign
  · exact orderly.pending_of_receives receives
  · exact pending

/-- The only message of an input by itself that ends a transfer of the peer's is
one that declines, cancels or completes the pending offer. -/
theorem ending_foreign (orderly : client.Orderly) (expected : client.Expected input)
    (effect : Effect client input next calls)
    (foreign : transfer.sender ≠ client.clientId)
    (ending : next.Ending transfer) :
    client.Ending transfer ∨ (next.Clearing transfer ∧ client.Pending transfer) ∨
      ∃ packet outcome, input = .receive packet outcome ∧ packet.Offers transfer ∧
        (client.sendHandle.isSome ∨ client.recvHandle.isSome) := by
  obtain ⟨told, cleared, notice, notified⟩ :=
    notice_of_effect effect expected.notTransmitted (expected.keepsPackets orderly)
  rcases (notified.ending transfer).mp ending with before | ⟨isOpen, same⟩
  · exact .inl before
  · cases notice with
    | silent | ended | writeFailed | iceLost | finish => contradiction
    | cancel =>
        exact .inr (.inl ⟨notified.requested transfer same,
          orderly.pending_of_current foreign same⟩)
    | reject | unopened => exact .inr (.inl ⟨notified.requested transfer same, same⟩)
    | complete packet outcome handle receiving =>
        exact .inr (.inl ⟨notified.requested transfer same,
          orderly.pending_of_receives ⟨handle, receiving, same⟩⟩)
    | busy name size chunk tag outcome engaged =>
        subst same
        exact .inr (.inr ⟨_, outcome, rfl, ⟨name, size, chunk, rfl⟩, engaged⟩)
    | done given loop rest queue =>
        obtain rfl := Option.some.inj same
        have own := orderly.looping loop.transfer ⟨loop, by simp [queue], rfl⟩
        exact absurd own foreign

/-- A cleanup for a transfer of the peer's is told to the peer, or it was the peer
who ended the transfer, or the file was being received. -/
theorem clearing_foreign (orderly : client.Orderly) (expected : client.Expected input)
    (effect : Effect client input next calls)
    (foreign : transfer.sender ≠ client.clientId)
    (clearing : next.Clearing transfer) :
    client.Clearing transfer ∨ next.Ending transfer ∨ client.Receives transfer ∨
      ∃ packet outcome, input = .receive packet outcome ∧ packet.Ends transfer := by
  obtain ⟨told, cleared, notice, notified⟩ :=
    notice_of_effect effect expected.notTransmitted (expected.keepsPackets orderly)
  have tells : client.Pending transfer → told = some transfer → next.Ending transfer :=
    fun pending same =>
      (notified.ending transfer).mpr (.inr ⟨orderly.isOpen_of_pending pending, same⟩)
  rcases notified.clearing transfer clearing with before | same
  · exact .inl before
  · cases notice with
    | silent | busy | done => contradiction
    | cancel => exact .inr (.inl (tells (orderly.pending_of_current foreign same) same))
    | reject | unopened => exact .inr (.inl (tells same same))
    | complete packet outcome handle receiving | writeFailed packet outcome handle receiving =>
        exact .inr (.inr (.inl ⟨handle, receiving, same⟩))
    | ended packet outcome error ends =>
        exact .inr (.inr (.inr ⟨packet, outcome, rfl, error, ends, same⟩))
    | iceLost rest queue engaged =>
        rcases currentTransfer_cases same with sends | receives | ⟨notSending, notReceiving, -⟩
        · exact absurd (orderly.sender_of_sends sends) foreign
        · exact .inr (.inr (.inl receives))
        · simp [notSending, notReceiving] at engaged
    | finish given loop rest error queue =>
        obtain rfl := Option.some.inj same
        have own := orderly.looping loop.transfer ⟨loop, by simp [queue], rfl⟩
        exact absurd own foreign

/-- When nothing new is said about a transfer of the peer's, what closes it was
there before, or the peer has just ended it. -/
theorem closing_foreign (orderly : client.Orderly) (expected : client.Expected input)
    (effect : Effect client input next calls)
    (foreign : transfer.sender ≠ client.clientId)
    (unended : ¬ next.Ending transfer) (unaccepted : ¬ next.Accepting transfer)
    (closing : next.Clearing transfer ∨ next.Receives transfer) :
    client.Clearing transfer ∨ client.Receives transfer ∨
      ∃ packet outcome, input = .receive packet outcome ∧ packet.Ends transfer := by
  rcases closing with clearing | receives
  · rcases orderly.clearing_foreign expected effect foreign clearing with
      before | ending | receives | ended
    · exact .inl before
    · exact absurd ending unended
    · exact .inr (.inl receives)
    · exact .inr (.inr ended)
  · rcases receives_before effect receives with before | ⟨pending, accepts⟩
    · exact .inr (.inl before)
    · exact absurd (accepts (orderly.isOpen_of_pending pending)) unaccepted

/-- A message that ends one of the client's own transfers comes with a cleanup for
it or from its loop. -/
theorem ending_own (orderly : client.Orderly) (expected : client.Expected input)
    (effect : Effect client input next calls)
    (own : transfer.sender = client.clientId)
    (ending : next.Ending transfer) :
    client.Ending transfer ∨ next.Clearing transfer ∨ client.Looping transfer := by
  obtain ⟨told, cleared, notice, notified⟩ :=
    notice_of_effect effect expected.notTransmitted (expected.keepsPackets orderly)
  rcases (notified.ending transfer).mp ending with before | ⟨isOpen, same⟩
  · exact .inl before
  · cases notice with
    | silent | ended | writeFailed | iceLost | finish => contradiction
    | cancel | reject | unopened | complete =>
        exact .inr (.inl (notified.requested transfer same))
    | busy name size chunk tag outcome =>
        obtain ⟨offered, tagged, foreign⟩ :=
          expected.offered _ outcome name size chunk rfl rfl
        obtain rfl := Option.some.inj (tagged.symm.trans same)
        exact absurd own foreign
    | done given loop rest queue =>
        exact .inr (.inr ⟨loop, by simp [queue], Option.some.inj same⟩)

/-- A cleanup for one of the client's own transfers is told to the peer, or it was
the peer who ended the transfer, or a loop of the transfer requests it, or the
loss of the connection does. -/
theorem clearing_own (orderly : client.Orderly) (expected : client.Expected input)
    (effect : Effect client input next calls)
    (own : transfer.sender = client.clientId)
    (clearing : next.Clearing transfer) :
    client.Clearing transfer ∨ next.Ending transfer ∨
      (∃ packet outcome, input = .receive packet outcome ∧ packet.Ends transfer) ∨
      (∃ given loop rest error, input = .runFile given ∧ client.fileQueue = loop :: rest ∧
        loop = ⟨transfer, .finish error⟩) ∨
      (client.Sends transfer ∧ input = .runMain ∧
        ∃ rest, client.mainQueue = .iceConnectionLost :: rest) := by
  obtain ⟨told, cleared, notice, notified⟩ :=
    notice_of_effect effect expected.notTransmitted (expected.keepsPackets orderly)
  have notPending : ¬ client.Pending transfer := fun pending =>
    orderly.sender_of_pending pending own
  rcases notified.clearing transfer clearing with before | same
  · exact .inl before
  · cases notice with
    | silent | busy | done => contradiction
    | cancel =>
        have isOpen := orderly.isOpen_of_sends (orderly.sends_of_current own same)
        exact .inr (.inl ((notified.ending transfer).mpr (.inr ⟨isOpen, same⟩)))
    | reject | unopened => exact absurd same notPending
    | complete packet outcome handle receiving | writeFailed packet outcome handle receiving =>
        exact absurd (orderly.pending_of_receives ⟨handle, receiving, same⟩) notPending
    | ended packet outcome error ends =>
        exact .inr (.inr (.inl ⟨packet, outcome, rfl, error, ends, same⟩))
    | iceLost rest queue =>
        exact .inr (.inr (.inr (.inr ⟨orderly.sends_of_current own same, rfl, rest, queue⟩)))
    | finish given loop rest error queue atPoint =>
        obtain rfl := Option.some.inj same
        exact .inr (.inr (.inr (.inl ⟨given, loop, rest, error, rfl, queue,
          by rw [← atPoint]⟩)))

end Orderly

end RTCClient

end WebrtcFileSender
