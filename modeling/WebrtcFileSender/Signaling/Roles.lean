import WebrtcFileSender.Signaling.Pairing

/-!
Contract: the requests that the signaling server grants, and the roles it tells
the two sides.

Owns: the `role` messages among the outputs of the server, the law that the last
ones sent to two partners are those of the request that was granted last to
either of them, provided no client sends messages of that type itself, and the
law that no two sockets are paired twice.
-/

namespace WebrtcFileSender.Signaling

open Server

def isRole (message : Json) : Bool :=
  message.stringField? "type" == some "role"

/-- The role messages that go to `ws`, in order. -/
def rolesTo (ws : SocketId) (outputs : List Output) : List Json :=
  outputs.filterMap fun
    | .sent receiver message _ =>
        if receiver = ws ∧ isRole message = true then some message else none
    | .granted _ _ => none

/-- A pair request of `ws` or for `ws` is granted. -/
def Output.Grants (ws : SocketId) : Output → Prop
  | .granted offerer answerer => ws = offerer ∨ ws = answerer
  | .sent _ _ _ => False

/-- The last request granted to either of two sockets is that of `offerer` for
`answerer`, and whoever of them is `OPEN` was last told its role in it. -/
structure Granted (history : List Output) (server : Server) (offerer answerer : SocketId) :
    Prop where
  last : ∃ earlier later, history = earlier ++ .granted offerer answerer :: later ∧
    ∀ output ∈ later, ¬ output.Grants offerer ∧ ¬ output.Grants answerer
  offererTold : server.readyState offerer = .OPEN →
    (rolesTo offerer history).getLast? = some (offererMessage (server.clientIP offerer))
  answererTold : server.readyState answerer = .OPEN →
    (rolesTo answerer history).getLast? =
      some (answererMessage (server.clientIP answerer) (server.clientIP offerer))

/-- No client sends a message of type `role`. -/
def RolesUnforged (_ : Server) (event : Event) : Prop :=
  ∀ ws p, event = .message ws (some p) → isRole p = false

/-! ## Role messages of one event -/

theorem rolesTo_append (ws : SocketId) (left right : List Output) :
    rolesTo ws (left ++ right) = rolesTo ws left ++ rolesTo ws right := by
  simp [rolesTo]

/-- The output is neither a grant nor a role message. -/
def Roleless : Output → Prop
  | .sent _ message _ => isRole message = false
  | .granted _ _ => False

theorem rolesTo_roleless {ws : SocketId} {outputs : List Output}
    (roleless : ∀ output ∈ outputs, Roleless output) :
    rolesTo ws outputs = [] := by
  apply List.filterMap_eq_nil_iff.mpr
  intro output member
  cases output with
  | granted => rfl
  | sent receiver message origin =>
      have noRole : isRole message = false := roleless _ member
      simp [noRole]

theorem grants_roleless {output : Output} (roleless : Roleless output) (ws : SocketId) :
    ¬ output.Grants ws := by
  cases output with
  | granted => exact roleless.elim
  | sent => exact id

theorem send_roleless {server : Server} {ws : SocketId} {message : Json} {origin : Origin}
    (noRole : isRole message = false) :
    ∀ output ∈ server.send ws message origin, Roleless output :=
  forall_mem_send noRole

/-- A message that is sent grants nothing. -/
theorem not_grants_send {server : Server} {receiver : SocketId} {message : Json}
    {origin : Origin} {output : Output} (sent : output ∈ server.send receiver message origin)
    (ws : SocketId) :
    ¬ output.Grants ws :=
  forall_mem_send (P := fun output => ¬ output.Grants ws) id output sent

theorem broadcastPeerLists_roleless (server : Server) :
    ∀ output ∈ server.broadcastPeerLists, Roleless output :=
  forall_mem_broadcastPeerLists fun _ _ => rfl

theorem onClose_roleless (server : Server) (ws : SocketId) :
    ∀ output ∈ (server.onClose ws).2, Roleless output :=
  forall_mem_onClose (fun _ => rfl) (fun _ _ => rfl)

/-- A request is granted, or the event neither makes a pair nor tells a role. -/
theorem roles_of_step {server next : Server} {event : Event} {outputs : List Output}
    (unforged : RolesUnforged server event)
    (stepped : server.step event = some (next, outputs)) :
    (∃ ws targetWs p, server.validTarget ws p = some targetWs ∧
      next = (server.grant ws targetWs).1 ∧ outputs = (server.grant ws targetWs).2) ∨
    ((∀ output ∈ outputs, Roleless output) ∧
      ∀ a b, next.pairPartner a = some b → server.pairPartner a = some b) := by
  cases effect_of_step stepped with
  | granted ws targetWs p alive target => exact .inl ⟨ws, targetWs, p, target, rfl, rfl⟩
  | connected =>
      refine .inr ⟨broadcastPeerLists_roleless _, ?_⟩
      intro a b points
      by_cases isNew : a = server.connected
      · subst isNew
        simp [onConnection] at points
      · simpa [onConnection, Function.update_of_ne isNew] using points
  | refused | listed => exact .inr ⟨send_roleless rfl, fun _ _ => id⟩
  | ignored | closing => exact .inr ⟨by simp, fun _ _ => id⟩
  | relayed ws partner p =>
      refine .inr ⟨?_, fun _ _ => id⟩
      intro output member
      obtain rfl := List.mem_singleton.mp member
      exact unforged ws p rfl
  | closed ws =>
      refine .inr ⟨onClose_roleless server ws, ?_⟩
      intro a b points
      rw [onClose_eq] at points
      exact (MatchingUpTo.depart_some points).1
  | fired => exact .inr ⟨send_roleless rfl, fun _ _ => id⟩

/-! ## The last grant of a pair -/

namespace Granted

variable {history outputs : List Output} {server next : Server} {offerer answerer : SocketId}

/-- Outputs that concern neither of the two leave their last grant as it is. -/
theorem later
    (granted : Granted history server offerer answerer)
    (noGrant : ∀ output ∈ outputs, ¬ output.Grants offerer ∧ ¬ output.Grants answerer)
    (offererUntold : rolesTo offerer outputs = [])
    (answererUntold : rolesTo answerer outputs = [])
    (sameKeys : next.clientIP offerer = server.clientIP offerer ∧
      next.clientIP answerer = server.clientIP answerer)
    (openBefore : (next.readyState offerer = .OPEN → server.readyState offerer = .OPEN) ∧
      (next.readyState answerer = .OPEN → server.readyState answerer = .OPEN)) :
    Granted (history ++ outputs) next offerer answerer := by
  obtain ⟨earlier, later, split, quiet⟩ := granted.last
  refine ⟨⟨earlier, later ++ outputs, by simp [split], ?_⟩, ?_, ?_⟩
  · intro output member
    rcases List.mem_append.mp member with old | new
    · exact quiet output old
    · exact noGrant output new
  · intro isOpen
    rw [rolesTo_append, offererUntold, List.append_nil, sameKeys.1]
    exact granted.offererTold (openBefore.1 isOpen)
  · intro isOpen
    rw [rolesTo_append, answererUntold, List.append_nil, sameKeys.1, sameKeys.2]
    exact granted.answererTold (openBefore.2 isOpen)

/-- What a grant tells a socket. -/
theorem rolesTo_grant (server : Server) (ws targetWs other : SocketId) :
    rolesTo other (server.grant ws targetWs).2 =
      (if ws = other ∧ server.readyState ws = .OPEN then
        [offererMessage (server.clientIP ws)] else []) ++
      (if targetWs = other ∧ server.readyState targetWs = .OPEN then
        [answererMessage (server.clientIP targetWs) (server.clientIP ws)] else []) := by
  have sentRole : ∀ (socket : SocketId) (message : Json), isRole message = true →
      rolesTo other (server.send socket message .server) =
        if socket = other ∧ server.readyState socket = .OPEN then [message] else [] := by
    intro socket message told
    unfold Server.send
    by_cases isOpen : server.readyState socket = .OPEN
    · by_cases same : socket = other
      · subst same
        simp [rolesTo, isOpen, told]
      · simp [rolesTo, isOpen, same]
    · simp [rolesTo, isOpen]
  rw [grant_outputs, rolesTo_append, rolesTo_append, sentRole ws _ rfl,
    sentRole targetWs _ rfl]
  rfl

/-- A request that is granted is the last one of its two sockets. -/
theorem fresh (distinct : answerer ≠ offerer) :
    Granted (history ++ (server.grant offerer answerer).2) (server.grant offerer answerer).1
      offerer answerer := by
  refine ⟨⟨history, _, by rw [grant_outputs]; rfl, ?_⟩, ?_, ?_⟩
  · intro output member
    rcases List.mem_append.mp member with toOfferer | toAnswerer
    · exact ⟨not_grants_send toOfferer offerer, not_grants_send toOfferer answerer⟩
    · exact ⟨not_grants_send toAnswerer offerer, not_grants_send toAnswerer answerer⟩
  · intro isOpen
    have wasOpen : server.readyState offerer = .OPEN := isOpen
    rw [rolesTo_append, rolesTo_grant, if_pos ⟨rfl, wasOpen⟩,
      if_neg fun same => distinct same.1]
    simp [grant]
  · intro isOpen
    have wasOpen : server.readyState answerer = .OPEN := isOpen
    rw [rolesTo_append, rolesTo_grant, if_neg fun same => distinct same.1.symm,
      if_pos ⟨rfl, wasOpen⟩]
    simp [grant]

end Granted

/-- What every event keeps of the roles of a pair. -/
structure RoleInvariant (history : List Output) (server : Server) : Prop where
  pairing : PairingInvariant server
  granted : ∀ a b, server.pairPartner a = some b → server.pairPartner b = some a →
    Granted history server a b ∨ Granted history server b a

namespace RoleInvariant

variable {history outputs : List Output} {server next : Server} {event : Event}

theorem initial : RoleInvariant [] Server.initial where
  pairing := .initial
  granted := by
    intro a b points
    simp [Server.initial] at points

/-- A pair that an event does not concern. -/
theorem keep
    (invariant : RoleInvariant history server)
    (stepped : server.step event = some (next, outputs))
    {a b : SocketId}
    (forward : server.pairPartner a = some b) (backward : server.pairPartner b = some a)
    (noGrant : ∀ output ∈ outputs, ¬ output.Grants a ∧ ¬ output.Grants b)
    (leftUntold : rolesTo a outputs = []) (rightUntold : rolesTo b outputs = []) :
    Granted (history ++ outputs) next a b ∨ Granted (history ++ outputs) next b a := by
  have leftKnown := invariant.pairing.known backward
  have rightKnown := invariant.pairing.known forward
  have leftKey := clientIP_step leftKnown stepped
  have rightKey := clientIP_step rightKnown stepped
  have leftOpen := open_before_step leftKnown stepped
  have rightOpen := open_before_step rightKnown stepped
  rcases invariant.granted a b forward backward with granted | granted
  · exact .inl (granted.later noGrant leftUntold rightUntold ⟨leftKey, rightKey⟩
      ⟨leftOpen, rightOpen⟩)
  · exact .inr (granted.later (fun output member => (noGrant output member).symm)
      rightUntold leftUntold ⟨rightKey, leftKey⟩ ⟨rightOpen, leftOpen⟩)

theorem step
    (invariant : RoleInvariant history server)
    (unforged : RolesUnforged server event)
    (stepped : server.step event = some (next, outputs)) :
    RoleInvariant (history ++ outputs) next := by
  refine ⟨invariant.pairing.step stepped, ?_⟩
  intro a b forward backward
  rcases roles_of_step unforged stepped with
    ⟨ws, targetWs, p, target, rfl, rfl⟩ | ⟨roleless, shrinks⟩
  · obtain ⟨distinct, -, -⟩ := invariant.pairing.validTarget_spec target
    have bound : (server.grant ws targetWs).1.pairPartner =
        MatchingUpTo.bind server.pairPartner ws targetWs := rfl
    rw [bound] at forward backward
    by_cases leftIsTarget : a = targetWs
    · subst leftIsTarget
      rw [MatchingUpTo.bind_right] at forward
      obtain rfl := Option.some.inj forward
      exact .inr (.fresh distinct)
    · by_cases leftIsSender : a = ws
      · subst leftIsSender
        rw [MatchingUpTo.bind_left _ distinct.symm] at forward
        obtain rfl := Option.some.inj forward
        exact .inl (.fresh distinct)
      · -- A pair of two other sockets was there before.
        have rightIsOther : b ≠ ws ∧ b ≠ targetWs := by
          constructor
          · rintro rfl
            rw [MatchingUpTo.bind_left _ distinct.symm] at backward
            exact leftIsTarget (Option.some.inj backward).symm
          · rintro rfl
            rw [MatchingUpTo.bind_right] at backward
            exact leftIsSender (Option.some.inj backward).symm
        rw [MatchingUpTo.bind_other _ leftIsSender leftIsTarget] at forward
        rw [MatchingUpTo.bind_other _ rightIsOther.1 rightIsOther.2] at backward
        apply invariant.keep stepped forward backward
        · intro output member
          rw [grant_outputs, List.append_assoc] at member
          rcases List.mem_append.mp member with isGrant | sent
          · obtain rfl := List.mem_singleton.mp isGrant
            simp [Output.Grants, leftIsSender, leftIsTarget, rightIsOther]
          · rcases List.mem_append.mp sent with toSender | toTarget
            · exact ⟨not_grants_send toSender a, not_grants_send toSender b⟩
            · exact ⟨not_grants_send toTarget a, not_grants_send toTarget b⟩
        · rw [Granted.rolesTo_grant, if_neg fun same => leftIsSender same.1.symm,
            if_neg fun same => leftIsTarget same.1.symm]
          rfl
        · rw [Granted.rolesTo_grant, if_neg fun same => rightIsOther.1 same.1.symm,
            if_neg fun same => rightIsOther.2 same.1.symm]
          rfl
  · exact invariant.keep stepped (shrinks a b forward) (shrinks b a backward)
      (fun output member => ⟨grants_roleless (roleless output member) a,
        grants_roleless (roleless output member) b⟩)
      (rolesTo_roleless roleless) (rolesTo_roleless roleless)

theorem of_run
    {events : List Event}
    (run : ServerRun RolesUnforged events outputs server) :
    RoleInvariant outputs server :=
  run.invariant RoleInvariant initial
    fun invariant unforged stepped => invariant.step unforged stepped

end RoleInvariant

/-! ## No two sockets are paired twice -/

/-- The requests that were granted, in order. -/
def grantedPairs (outputs : List Output) : List (SocketId × SocketId) :=
  outputs.filterMap fun
    | .granted ws targetWs => some (ws, targetWs)
    | .sent _ _ _ => none

theorem grantedPairs_append (left right : List Output) :
    grantedPairs (left ++ right) = grantedPairs left ++ grantedPairs right := by
  simp [grantedPairs]

theorem grantedPairs_eq_nil {outputs : List Output}
    (ungranted : ∀ output ∈ outputs, ∀ ws, ¬ output.Grants ws) :
    grantedPairs outputs = [] := by
  apply List.filterMap_eq_nil_iff.mpr
  intro output member
  cases output with
  | sent => rfl
  | granted ws targetWs => exact absurd (.inl rfl) (ungranted _ member ws)

theorem grantedPairs_send (server : Server) (receiver : SocketId) (message : Json)
    (origin : Origin) :
    grantedPairs (server.send receiver message origin) = [] :=
  grantedPairs_eq_nil fun _ sent ws => not_grants_send sent ws

/-- At most one request is granted by an event, and then to two sockets without
partners that have not closed. -/
theorem grantedPairs_of_step {server next : Server} {event : Event} {outputs : List Output}
    (stepped : server.step event = some (next, outputs)) :
    grantedPairs outputs = [] ∨
      ∃ ws targetWs p, server.validTarget ws p = some targetWs ∧
        server.readyState ws ≠ .CLOSED ∧ server.pairPartner ws = none ∧
        server.pairPartner targetWs = none ∧ next = (server.grant ws targetWs).1 ∧
        grantedPairs outputs = [(ws, targetWs)] := by
  have unannounced : ∀ {other : Server}, grantedPairs other.broadcastPeerLists = [] :=
    grantedPairs_eq_nil fun output sent ws =>
      grants_roleless (broadcastPeerLists_roleless _ output sent) ws
  cases effect_of_step stepped with
  | connected => exact .inl unannounced
  | granted ws targetWs p alive target alone targetAlone =>
      refine .inr ⟨ws, targetWs, p, target, alive, alone, targetAlone, rfl, ?_⟩
      rw [grant_outputs, grantedPairs_append, grantedPairs_append, grantedPairs_send,
        grantedPairs_send]
      rfl
  | refused | listed | fired => exact .inl (grantedPairs_send _ _ _ _)
  | ignored | relayed | closing => exact .inl rfl
  | closed ws =>
      exact .inl (grantedPairs_eq_nil fun output sent other =>
        grants_roleless (onClose_roleless server ws output sent) other)

/-- Two sockets that were paired still are, or one of them has closed. -/
structure Spent (server : Server) (a b : SocketId) : Prop where
  leftKnown : a < server.connected
  rightKnown : b < server.connected
  bound : (server.pairPartner a = some b ∧ server.pairPartner b = some a) ∨
    server.readyState a = .CLOSED ∨ server.readyState b = .CLOSED

namespace Spent

variable {server next : Server} {event : Event} {outputs : List Output} {a b : SocketId}

/-- A pair ends only with the close of one side. -/
theorem pair_step
    (invariant : PairingInvariant server)
    (stepped : server.step event = some (next, outputs))
    (leftKnown : a < server.connected)
    (forward : server.pairPartner a = some b) (backward : server.pairPartner b = some a) :
    next.pairPartner a = some b ∨ next.readyState a = .CLOSED ∨
      next.readyState b = .CLOSED := by
  cases effect_of_step stepped with
  | connected =>
      have old : a ≠ server.connected := Nat.ne_of_lt leftKnown
      exact .inl (by simpa [onConnection, Function.update_of_ne old] using forward)
  | granted ws targetWs p alive target alone targetAlone =>
      have notRequester : a ≠ ws := by
        rintro rfl
        rw [forward] at alone
        contradiction
      have notTarget : a ≠ targetWs := by
        rintro rfl
        rw [forward] at targetAlone
        contradiction
      exact .inl ((MatchingUpTo.bind_other _ notRequester notTarget).trans forward)
  | refused | listed | ignored | relayed | closing | fired => exact .inl forward
  | closed ws =>
      rw [onClose_eq]
      by_cases isLeft : a = ws
      · subst isLeft
        exact .inr (.inl (Function.update_self ..))
      · by_cases isRight : b = ws
        · subst isRight
          exact .inr (.inr (Function.update_self ..))
        · refine .inl ((MatchingUpTo.depart_other isLeft ?_).trans forward)
          -- Only `b` points at `a`, and `b` is not the one that closes.
          intro informed
          have points := (Option.filter_eq_some_iff.mp informed.symm).1
          exact isRight (invariant.matching.injective backward points)

theorem step
    (invariant : PairingInvariant server) (spent : Spent server a b)
    (stepped : server.step event = some (next, outputs)) :
    Spent next a b := by
  have grows := connected_mono_step stepped
  refine ⟨Nat.lt_of_lt_of_le spent.leftKnown grows, Nat.lt_of_lt_of_le spent.rightKnown grows,
    ?_⟩
  rcases spent.bound with ⟨forward, backward⟩ | leftClosed | rightClosed
  · rcases pair_step invariant stepped spent.leftKnown forward backward with
      forwardKept | closed
    · rcases pair_step invariant stepped spent.rightKnown backward forward with
        backwardKept | closed
      · exact .inl ⟨forwardKept, backwardKept⟩
      · exact .inr closed.symm
    · exact .inr closed
  · exact .inr (.inl (closed_after_step spent.leftKnown stepped leftClosed))
  · exact .inr (.inr (closed_after_step spent.rightKnown stepped rightClosed))

/-- The two are not paired anew. -/
theorem not_granted (spent : Spent server a b)
    (leftPresent : server.readyState a ≠ .CLOSED)
    (rightPresent : server.readyState b ≠ .CLOSED)
    (alone : server.pairPartner a = none) : False := by
  rcases spent.bound with ⟨forward, -⟩ | leftClosed | rightClosed
  · rw [alone] at forward
    contradiction
  · exact leftPresent leftClosed
  · exact rightPresent rightClosed

end Spent

/-- **No two sockets are paired twice**, in whichever order they ask: of two
requests that are granted in a run, the later is for other sockets. -/
theorem no_pair_granted_twice
    {guard : Server → Event → Prop} {events : List Event} {outputs : List Output}
    {server : Server} (run : ServerRun guard events outputs server) :
    (grantedPairs outputs).Pairwise fun earlier later =>
      later ≠ earlier ∧ later ≠ earlier.swap := by
  have holds := run.invariant
    (fun history server => PairingInvariant server ∧
      (∀ pair ∈ grantedPairs history, Spent server pair.1 pair.2) ∧
      (grantedPairs history).Pairwise fun earlier later =>
        later ≠ earlier ∧ later ≠ earlier.swap)
    ⟨.initial, by simp [grantedPairs], by simp [grantedPairs]⟩
    (by
      intro history server event next fresh before _ stepped
      obtain ⟨invariant, spent, distinct⟩ := before
      have stillSpent : ∀ pair ∈ grantedPairs history, Spent next pair.1 pair.2 :=
        fun pair member => (spent pair member).step invariant stepped
      rw [grantedPairs_append]
      rcases grantedPairs_of_step stepped with
        none | ⟨ws, targetWs, p, target, alive, alone, targetAlone, rfl, one⟩
      · rw [none, List.append_nil]
        exact ⟨invariant.step stepped, stillSpent, distinct⟩
      · obtain ⟨apart, targetAlive, -⟩ := invariant.validTarget_spec target
        have isKnown : ∀ {socket}, server.readyState socket ≠ .CLOSED →
            socket < server.connected := by
          intro socket present
          by_contra beyond
          exact present (invariant.unconnected (Nat.not_lt.mp beyond))
        rw [one]
        refine ⟨invariant.step stepped, ?_, ?_⟩
        · intro pair member
          rcases List.mem_append.mp member with old | new
          · exact stillSpent pair old
          · obtain rfl := List.mem_singleton.mp new
            exact ⟨isKnown alive, isKnown targetAlive,
              .inl ⟨MatchingUpTo.bind_left _ apart.symm, MatchingUpTo.bind_right _ _ _⟩⟩
        · refine List.pairwise_append.mpr ⟨distinct, List.pairwise_singleton _ _, ?_⟩
          intro earlier old later new
          obtain rfl := List.mem_singleton.mp new
          refine ⟨?_, ?_⟩
          · rintro rfl
            exact (spent _ old).not_granted alive targetAlive alone
          · intro swapped
            obtain rfl : earlier = (targetWs, ws) := by
              rw [← Prod.swap_swap earlier, ← swapped]
              rfl
            exact (spent _ old).not_granted targetAlive alive targetAlone)
  exact holds.2.2

/-- The second of the pair leaves, and the first is paired with a third. -/
def pairedTwiceRun : List Event :=
  [.connection (some "10.0.0.1") (some 5001), .connection (some "10.0.0.2") (some 5002),
    .connection (some "10.0.0.3") (some 5003),
    .message 0 (some (.obj [("type", .str "pair_request"),
      ("targetIP", .str "10.0.0.2:5002")])),
    .closing 1, .close 1,
    .message 2 (some (.obj [("type", .str "pair_request"),
      ("targetIP", .str "10.0.0.1:5001")]))]

theorem no_pair_granted_twice_pairedTwiceRun :
    ∃ outputs server, ServerRun Machine.free pairedTwiceRun outputs server ∧
      grantedPairs outputs = [(0, 1), (2, 0)] ∧
      (grantedPairs outputs).Pairwise fun earlier later =>
        later ≠ earlier ∧ later ≠ earlier.swap := by
  obtain ⟨server, outputs, run, checked⟩ :
      ∃ server outputs, ServerRun Machine.free pairedTwiceRun outputs server ∧
        decide (grantedPairs outputs = [(0, 1), (2, 0)]) = true :=
    Machine.run_of_exec_any (fun (_ : Server) outputs =>
      decide (grantedPairs outputs = [(0, 1), (2, 0)])) (by decide)
  exact ⟨outputs, server, run, of_decide_eq_true checked, no_pair_granted_twice run⟩

end WebrtcFileSender.Signaling
