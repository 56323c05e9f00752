import WebrtcFileSender.Signaling.Pairing

/-!
Contract: when a `peer_joined` message is still true.

The timer of a granted pair request fires later and tests only that the
requester is `OPEN`. If the target has closed meanwhile, the requester is told
that a departed peer is ready.

Owns: the pairing session of a socket as read off the output history, freshness
of a `peer_joined`, the condition under which every one is fresh, and the run
that breaks it.
-/

namespace WebrtcFileSender.Signaling

open Server

def isPeerJoined (message : Json) : Prop :=
  message.stringField? "type" = some "peer_joined"

instance (message : Json) : Decidable (isPeerJoined message) :=
  inferInstanceAs (Decidable (_ = _))

/-- The latest pairing of a socket, requester first, and the number of
`peer_joined` messages sent to it since that pairing was granted. -/
structure Session where
  pairing : Option (SocketId × SocketId)
  joined : Nat
deriving DecidableEq, Repr

def sessionStep (a : SocketId) (session : Session) : Output → Session
  | .granted ws targetWs =>
      if ws = a ∨ targetWs = a then ⟨some (ws, targetWs), 0⟩ else session
  | .sent receiver message _ =>
      if receiver = a ∧ isPeerJoined message then { session with joined := session.joined + 1 }
      else session

def session (a : SocketId) (history : List Output) : Session :=
  history.foldl (sessionStep a) ⟨none, 0⟩

/-- A `peer_joined` sent to `a` now is fresh: `a` is paired with the socket whose
key the message carries, `a` requested that pairing, and `a` has not been sent a
`peer_joined` for it before. -/
def FreshJoin (history : List Output) (server : Server) (a : SocketId) (message : Json) :
    Prop :=
  ∃ b, server.pairPartner a = some b ∧
    message.stringField? "peerIP" = some (server.clientIP b) ∧
    session a history = ⟨some (a, b), 0⟩

/-- Every `peer_joined` that `event` sends is fresh. -/
def JoinsFresh (history : List Output) (server : Server) (event : Event) : Prop :=
  ∀ next outputs, server.step event = some (next, outputs) →
    ∀ a message origin, .sent a message origin ∈ outputs → isPeerJoined message →
      FreshJoin history server a message

/-- The condition on an event and the state in which it happens: a timer whose
requester is `OPEN` fires before its target has closed, and no client passes a
`peer_joined` of its own to its partner. -/
def TimelyJoin (server : Server) : Event → Prop
  | .timeout index =>
      ∀ timer ∈ server.timers[index]?, server.readyState timer.ws = .OPEN →
        server.readyState timer.targetWs ≠ .CLOSED
  | .message ws (some p) =>
      isPeerJoined p → ∀ partner ∈ server.pairPartner ws,
        server.readyState partner ≠ .OPEN
  | _ => True

instance (server : Server) : (event : Event) → Decidable (TimelyJoin server event)
  | .timeout index =>
      inferInstanceAs (Decidable (∀ timer ∈ server.timers[index]?,
        server.readyState timer.ws = .OPEN →
          server.readyState timer.targetWs ≠ .CLOSED))
  | .message ws (some p) =>
      inferInstanceAs (Decidable (isPeerJoined p → ∀ partner ∈ server.pairPartner ws,
        server.readyState partner ≠ .OPEN))
  | .message _ none | .connection _ _ | .closing _ | .close _ => .isTrue trivial

/-! ## Sessions along outputs -/

/-- An output that neither starts a session nor counts as a join. -/
def Plain (output : Output) : Prop :=
  ∃ receiver message origin, output = .sent receiver message origin ∧ ¬ isPeerJoined message

theorem session_append_plain (a : SocketId) (history : List Output) {outputs : List Output}
    (plain : ∀ output ∈ outputs, Plain output) :
    session a (history ++ outputs) = session a history := by
  unfold session
  rw [List.foldl_append]
  generalize history.foldl (sessionStep a) ⟨none, 0⟩ = current
  induction outputs with
  | nil => rfl
  | cons output rest inductionHypothesis =>
      obtain ⟨receiver, message, origin, rfl, notJoin⟩ := plain output (by simp)
      have skip : sessionStep a current (.sent receiver message origin) = current := by
        simp [sessionStep, notJoin]
      rw [List.foldl_cons, skip]
      exact inductionHypothesis fun output member => plain output (by simp [member])

theorem send_plain {server : Server} {ws : SocketId} {message : Json} {origin : Origin}
    (notJoin : ¬ isPeerJoined message) :
    ∀ output ∈ server.send ws message origin, Plain output :=
  forall_mem_send ⟨ws, message, origin, rfl, notJoin⟩

private theorem not_isPeerJoined_of_type {type : String} {rest : List (String × Json)}
    (other : type ≠ "peer_joined") :
    ¬ isPeerJoined (.obj (("type", .str type) :: rest)) := by
  simpa [isPeerJoined, Json.stringField?, Json.field?, Json.string?] using other

private theorem list_plain (receiver : SocketId) (entries : List Json) :
    Plain (.sent receiver (peersMessage entries) .server) :=
  ⟨receiver, _, _, rfl, not_isPeerJoined_of_type (by decide)⟩

theorem broadcastPeerLists_plain (server : Server) :
    ∀ output ∈ server.broadcastPeerLists, Plain output :=
  forall_mem_broadcastPeerLists list_plain

theorem onClose_plain (server : Server) (ws : SocketId) :
    ∀ output ∈ (server.onClose ws).2, Plain output := by
  apply forall_mem_onClose
  · intro receiver
    exact ⟨receiver, _, _, rfl, not_isPeerJoined_of_type (by decide)⟩
  · exact list_plain

/-- A grant starts a new session for its two sockets and touches no other. -/
theorem session_grant (a : SocketId) (history : List Output) (server : Server)
    (ws targetWs : SocketId) :
    session a (history ++ (server.grant ws targetWs).2) =
      if ws = a ∨ targetWs = a then ⟨some (ws, targetWs), 0⟩ else session a history := by
  have offererPlain : ¬ isPeerJoined (offererMessage (server.clientIP ws)) :=
    not_isPeerJoined_of_type (by decide)
  have answererPlain :
      ¬ isPeerJoined (answererMessage (server.clientIP targetWs) (server.clientIP ws)) :=
    not_isPeerJoined_of_type (by decide)
  rw [grant_outputs, ← List.append_assoc, ← List.append_assoc,
    session_append_plain a _ (send_plain answererPlain),
    session_append_plain a _ (send_plain offererPlain)]
  simp [session, sessionStep]

/-! ## The invariant -/

/-- Every armed timer whose requester is `OPEN` and whose target has not closed
belongs to the current session of the requester, which has not been told yet.
At most one timer of a requester is of this kind. -/
structure JoinInvariant (history : List Output) (server : Server) : Prop where
  pairing : PairingInvariant server
  known : ∀ timer ∈ server.timers,
    timer.ws < server.connected ∧ timer.targetWs < server.connected
  current : ∀ timer ∈ server.timers, server.readyState timer.ws = .OPEN →
    server.readyState timer.targetWs ≠ .CLOSED →
    server.pairPartner timer.ws = some timer.targetWs ∧
      session timer.ws history = ⟨some (timer.ws, timer.targetWs), 0⟩
  single : server.timers.Pairwise fun first second =>
    first.ws = second.ws → server.readyState first.ws = .OPEN →
      server.readyState first.targetWs = .CLOSED ∨
        server.readyState second.targetWs = .CLOSED

namespace JoinInvariant

variable {history : List Output} {server : Server}

theorem initial : JoinInvariant [] Server.initial where
  pairing := .initial
  known := by simp [Server.initial]
  current := by simp [Server.initial]
  single := by simp [Server.initial]

/-- A step that arms and fires no timer and starts no session keeps the
invariant. -/
theorem keep
    (invariant : JoinInvariant history server)
    {event : Event} {next : Server} {outputs : List Output}
    (stepped : server.step event = some (next, outputs))
    (sameTimers : next.timers = server.timers)
    (plain : ∀ output ∈ outputs, Plain output) :
    JoinInvariant (history ++ outputs) next := by
  have grows := connected_mono_step stepped
  constructor
  · exact invariant.pairing.step stepped
  · intro timer armed
    rw [sameTimers] at armed
    obtain ⟨wsKnown, targetKnown⟩ := invariant.known timer armed
    exact ⟨Nat.lt_of_lt_of_le wsKnown grows, Nat.lt_of_lt_of_le targetKnown grows⟩
  · intro timer armed staysOpen targetPresent
    rw [sameTimers] at armed
    obtain ⟨wsKnown, targetKnown⟩ := invariant.known timer armed
    have wasOpen := open_before_step wsKnown stepped staysOpen
    have targetWas : server.readyState timer.targetWs ≠ .CLOSED := fun gone =>
      targetPresent (closed_after_step targetKnown stepped gone)
    obtain ⟨paired, untold⟩ := invariant.current timer armed wasOpen targetWas
    rw [session_append_plain _ _ plain]
    exact ⟨invariant.pairing.partner_kept paired wasOpen stepped staysOpen targetPresent,
      untold⟩
  · rw [sameTimers]
    refine invariant.single.imp_of_mem ?_
    intro first second firstArmed secondArmed apart sameWs staysOpen
    obtain ⟨wsKnown, firstKnown⟩ := invariant.known first firstArmed
    obtain ⟨-, secondKnown⟩ := invariant.known second secondArmed
    have wasOpen := open_before_step wsKnown stepped staysOpen
    exact (apart sameWs wasOpen).imp (closed_after_step firstKnown stepped)
      (closed_after_step secondKnown stepped)

theorem grant
    (invariant : JoinInvariant history server)
    {ws targetWs : SocketId} {p : Json}
    (alive : server.readyState ws ≠ .CLOSED)
    (target : server.validTarget ws p = some targetWs)
    (alone : server.pairPartner ws = none)
    (targetAlone : server.pairPartner targetWs = none) :
    JoinInvariant (history ++ (server.grant ws targetWs).2) (server.grant ws targetWs).1 := by
  obtain ⟨distinct, targetAlive, -⟩ := invariant.pairing.validTarget_spec target
  have isKnown : ∀ {socket}, server.readyState socket ≠ .CLOSED →
      socket < server.connected := by
    intro socket present
    by_contra beyond
    exact present (invariant.pairing.unconnected (Nat.not_lt.mp beyond))
  constructor
  · exact invariant.pairing.grant distinct alive targetAlive alone targetAlone
  · intro timer armed
    rcases List.mem_append.mp armed with old | new
    · exact invariant.known timer old
    · obtain rfl := List.mem_singleton.mp new
      exact ⟨isKnown alive, isKnown targetAlive⟩
  · intro timer armed isOpen present
    change (MatchingUpTo.bind server.pairPartner ws targetWs) timer.ws = _ ∧ _
    rw [session_grant]
    rcases List.mem_append.mp armed with old | new
    · obtain ⟨paired, untold⟩ := invariant.current timer old isOpen present
      have notRequester : timer.ws ≠ ws := by
        intro same
        rw [same, alone] at paired
        contradiction
      have notTarget : timer.ws ≠ targetWs := by
        intro same
        rw [same, targetAlone] at paired
        contradiction
      rw [MatchingUpTo.bind_other _ notRequester notTarget,
        if_neg (by simp [Ne.symm notRequester, Ne.symm notTarget])]
      exact ⟨paired, untold⟩
    · obtain rfl := List.mem_singleton.mp new
      simp [MatchingUpTo.bind_left _ distinct.symm]
  · refine List.pairwise_append.mpr ⟨invariant.single, by simp, ?_⟩
    intro first old second new sameWs isOpen
    obtain rfl := List.mem_singleton.mp new
    left
    by_contra present
    -- An untold timer of the requester would mean that it still has a partner.
    have paired := (invariant.current first old isOpen present).1
    rw [show first.ws = ws from sameWs, alone] at paired
    contradiction

theorem fire
    (invariant : JoinInvariant history server)
    {index : Nat} {timer : Timer}
    (armed : server.timers[index]? = some timer)
    (timely : server.readyState timer.ws = .OPEN →
      server.readyState timer.targetWs ≠ .CLOSED) :
    JoinInvariant (history ++ server.onTimeout timer)
      { server with timers := server.timers.eraseIdx index } := by
  obtain ⟨bound, isTimer⟩ := List.getElem?_eq_some_iff.mp armed
  have split : server.timers =
      server.timers.take index ++ timer :: server.timers.drop (index + 1) := by
    rw [← isTimer, List.getElem_cons_drop, List.take_append_drop]
  have rest : server.timers.eraseIdx index =
      server.timers.take index ++ server.timers.drop (index + 1) :=
    List.eraseIdx_eq_take_drop_succ _ _
  have isSub : (server.timers.eraseIdx index).Sublist server.timers :=
    List.eraseIdx_sublist _ _
  have single := invariant.single
  rw [split] at single
  obtain ⟨-, singleTail, apart⟩ := List.pairwise_append.mp single
  obtain ⟨apartTail, -⟩ := List.pairwise_cons.mp singleTail
  -- No other timer of the same requester can still be fresh.
  have otherStale : ∀ other ∈ server.timers.eraseIdx index, other.ws = timer.ws →
      server.readyState other.ws = .OPEN → server.readyState other.targetWs = .CLOSED := by
    intro other member sameWs isOpen
    have present := timely (sameWs ▸ isOpen)
    rw [rest] at member
    rcases List.mem_append.mp member with before | after
    · exact (apart other before timer (by simp) sameWs isOpen).resolve_right present
    · exact (apartTail other after sameWs.symm (sameWs ▸ isOpen)).resolve_left present
  constructor
  · exact ⟨invariant.pairing.matching, invariant.pairing.known,
      invariant.pairing.unconnected, invariant.pairing.registered⟩
  · intro other member
    exact invariant.known other (isSub.subset member)
  · intro other member isOpen present
    have differs : timer.ws ≠ other.ws := fun same =>
      present (otherStale other member same.symm isOpen)
    obtain ⟨paired, untold⟩ := invariant.current other (isSub.subset member) isOpen present
    refine ⟨paired, ?_⟩
    have unaffected : session other.ws (history ++ server.onTimeout timer) =
        session other.ws history := by
      unfold onTimeout Server.send
      split
      · simp [session, sessionStep, differs]
      · simp
    rw [unaffected]
    exact untold
  · exact invariant.single.sublist isSub

/-- Every timely event keeps the invariant. -/
theorem step
    (invariant : JoinInvariant history server)
    {event : Event} {next : Server} {outputs : List Output}
    (timely : TimelyJoin server event)
    (stepped : server.step event = some (next, outputs)) :
    JoinInvariant (history ++ outputs) next := by
  have keeps := invariant.keep stepped
  cases effect_of_step stepped with
  | connected => exact keeps rfl (broadcastPeerLists_plain _)
  | granted ws targetWs p alive target alone targetAlone =>
      exact invariant.grant alive target alone targetAlone
  | refused ws p reason =>
      exact keeps rfl (send_plain (not_isPeerJoined_of_type (by decide)))
  | listed ws => exact keeps rfl (forall_mem_send (list_plain _ _))
  | ignored => exact keeps rfl (by simp)
  | relayed ws partner p alive relayable paired partnerOpen =>
      have notJoin : ¬ isPeerJoined p := fun join =>
        timely join partner paired partnerOpen
      refine keeps rfl ?_
      intro output member
      obtain rfl := List.mem_singleton.mp member
      exact ⟨partner, p, .relay ws, rfl, notJoin⟩
  | closing => exact keeps rfl (by simp)
  | closed ws => exact keeps (by rw [onClose_eq]) (onClose_plain server ws)
  | fired index timer armed => exact invariant.fire armed (timely timer armed)

/-- A timely event sends only fresh `peer_joined` messages. -/
theorem joinsFresh
    (invariant : JoinInvariant history server)
    {event : Event}
    (timely : TimelyJoin server event) :
    JoinsFresh history server event := by
  intro next outputs stepped a message origin sent join
  have notPlain : ∀ {emitted : List Output}, (∀ output ∈ emitted, Plain output) →
      .sent a message origin ∉ emitted := by
    intro emitted plain member
    obtain ⟨_, _, _, same, notJoin⟩ := plain _ member
    obtain ⟨-, rfl, -⟩ := Output.sent.inj same
    exact notJoin join
  cases effect_of_step stepped with
  | connected => exact absurd sent (notPlain (broadcastPeerLists_plain _))
  | granted ws targetWs =>
      rw [grant_outputs, List.mem_append, List.mem_append] at sent
      rcases sent with (marker | offerer) | answerer
      · simp at marker
      · exact absurd offerer (notPlain (send_plain (not_isPeerJoined_of_type (by decide))))
      · exact absurd answerer (notPlain (send_plain (not_isPeerJoined_of_type (by decide))))
  | refused =>
      exact absurd sent (notPlain (send_plain (not_isPeerJoined_of_type (by decide))))
  | listed ws => exact absurd sent (notPlain (forall_mem_send (list_plain _ _)))
  | ignored => simp at sent
  | relayed ws partner p alive relayable paired partnerOpen =>
      obtain ⟨-, rfl, -⟩ := Output.sent.inj (List.mem_singleton.mp sent)
      exact absurd partnerOpen (timely join partner paired)
  | closing => simp at sent
  | closed ws => exact absurd sent (notPlain (onClose_plain server ws))
  | fired index timer armed =>
      unfold onTimeout Server.send at sent
      split at sent
      case isFalse => contradiction
      case isTrue isOpen =>
        obtain ⟨rfl, rfl, -⟩ := Output.sent.inj (List.mem_singleton.mp sent)
        obtain ⟨paired, untold⟩ := invariant.current timer
          (List.mem_of_getElem? armed) isOpen (timely timer armed isOpen)
        exact ⟨timer.targetWs, paired, rfl, untold⟩

end JoinInvariant

/-- **`peer_joined` is fresh on timely runs.** In every run whose events are
timely, every further timely event sends only `peer_joined` messages that are
true at that moment: the receiver is paired with the named peer, requested that
pairing, and has not been told of it before. -/
theorem peer_joined_fresh_of_timely
    {events : List Event} {outputs : List Output} {server : Server}
    (run : ServerRun TimelyJoin events outputs server)
    {event : Event}
    (timely : TimelyJoin server event) :
    JoinsFresh outputs server event :=
  (run.invariant JoinInvariant .initial fun invariant timely stepped =>
    invariant.step timely stepped).joinsFresh timely

/-- The first client asks for the second. -/
def requestRun : List Event :=
  [.connection (some "10.0.0.1") (some 5001), .connection (some "10.0.0.2") (some 5002),
    .message 0 (some (.obj [("type", .str "pair_request"),
      ("targetIP", .str "10.0.0.2:5002")]))]

theorem peer_joined_fresh_of_timely_request :
    ∃ outputs server, ServerRun TimelyJoin requestRun outputs server ∧
      (server.step (.timeout 0)).isSome = true ∧
      JoinsFresh outputs server (.timeout 0) := by
  obtain ⟨server, outputs, run, checked⟩ :
      ∃ server outputs, ServerRun TimelyJoin requestRun outputs server ∧
        decide ((server.step (.timeout 0)).isSome = true ∧
          TimelyJoin server (.timeout 0)) = true :=
    Machine.run_of_exec_any (fun (server : Server) _ =>
      decide ((server.step (.timeout 0)).isSome = true ∧ TimelyJoin server (.timeout 0)))
      (by decide)
  obtain ⟨enabled, timely⟩ := of_decide_eq_true checked
  exact ⟨outputs, server, run, enabled, peer_joined_fresh_of_timely run timely⟩

/-- The second client leaves before the timer of the request fires. -/
def departedRun : List Event :=
  requestRun ++ [.closing 1, .close 1]

/-- When the timer fires, the first client has no partner any more and is told
that the departed peer has joined. -/
theorem peer_joined_stale_departed :
    ∃ outputs server, ServerRun Machine.free departedRun outputs server ∧
      ¬ JoinsFresh outputs server (.timeout 0) := by
  obtain ⟨server, outputs, run, checked⟩ :
      ∃ server outputs, ServerRun Machine.free departedRun outputs server ∧
        decide (server.pairPartner 0 = none ∧ server.readyState 0 = .OPEN ∧
          server.timers = [⟨0, 1⟩]) = true :=
    Machine.run_of_exec_any (fun (server : Server) _ =>
      decide (server.pairPartner 0 = none ∧ server.readyState 0 = .OPEN ∧
        server.timers = [⟨0, 1⟩]))
      (by decide)
  obtain ⟨alone, isOpen, armed⟩ := of_decide_eq_true checked
  refine ⟨outputs, server, run, fun fresh => ?_⟩
  have stepped : server.step (.timeout 0) =
      some ({ server with timers := server.timers.eraseIdx 0 },
        [.sent 0 (peerJoinedMessage (server.clientIP 1)) .server]) := by
    simp [Server.step, armed, onTimeout, Server.send, isOpen]
  obtain ⟨b, paired, -⟩ := fresh _ _ stepped 0 _ .server (List.mem_singleton.mpr rfl) rfl
  rw [alone] at paired
  contradiction

end WebrtcFileSender.Signaling
