import WebrtcFileSender.Signaling.Effect

/-!
Contract: the partner fields of the signaling server are a matching.

Plain symmetry of `_pairPartner` is false: the close handler releases the
partner only when it is `OPEN`, so a partner in `CLOSING` keeps pointing at a
closed socket. The invariant is the matching law up to exactly that exception,
together with what it needs of the registry: a registered socket has not closed
and carries its key.

Owns: `PairingInvariant`, its preservation by every event, and the resulting
law of every reachable state.
-/

namespace WebrtcFileSender.Signaling

open Server

/-- What every event keeps of the partner fields and the registry. -/
structure PairingInvariant (server : Server) : Prop where
  matching : MatchingUpTo server.pairPartner
    (fun ws => server.readyState ws = .CLOSED) (fun ws => server.readyState ws ≠ .OPEN)
  known : ∀ {a b}, server.pairPartner a = some b → b < server.connected
  unconnected : ∀ {ws}, server.connected ≤ ws → server.readyState ws = .CLOSED
  registered : ∀ {key ws}, OrderedMap.get server.clientsByIP key = some ws →
    server.readyState ws ≠ .CLOSED ∧ server.clientIP ws = key

namespace PairingInvariant

variable {server : Server}

theorem initial : PairingInvariant Server.initial where
  matching :=
    { irreflexive := by simp [Server.initial]
      injective := by simp [Server.initial]
      symmetric := by simp [Server.initial]
      departed_free := by simp [Server.initial] }
  known := by simp [Server.initial]
  unconnected := by simp [Server.initial]
  registered := by simp [Server.initial, OrderedMap.get]

/-- A valid target is a registered socket other than the requester, and its key
is the requested one. -/
theorem validTarget_spec
    (invariant : PairingInvariant server)
    {ws targetWs : SocketId} {p : Json}
    (target : server.validTarget ws p = some targetWs) :
    targetWs ≠ ws ∧ server.readyState targetWs ≠ .CLOSED ∧
      p.stringField? "targetIP" = some (server.clientIP targetWs) := by
  unfold validTarget at target
  split at target
  case h_2 => contradiction
  case h_1 targetIP found field lookup =>
    split at target
    case isTrue => contradiction
    case isFalse valid =>
      obtain rfl := Option.some.inj target
      obtain ⟨key, isKey, stored⟩ := Option.bind_eq_some_iff.mp lookup
      obtain ⟨present, named⟩ := invariant.registered stored
      exact ⟨fun same => valid (.inr same), present, named ▸ isKey⟩

theorem onConnection
    (invariant : PairingInvariant server)
    (remoteAddress : Option String) (remotePort : Option Nat) :
    PairingInvariant (server.onConnection remoteAddress remotePort).1 := by
  have freshClosed := invariant.unconnected (Nat.le_refl server.connected)
  have unseen : ∀ a, server.pairPartner a ≠ some server.connected := by
    intro a points
    exact absurd (invariant.known points) (Nat.lt_irrefl _)
  constructor
  · refine invariant.matching.enter_preserves unseen ?_ ?_ <;>
      · intro a other
        simp [Server.onConnection, Function.update_of_ne other]
  · intro a b points
    by_cases same : a = server.connected
    · subst same
      simp [Server.onConnection] at points
    · simp only [Server.onConnection, Function.update_of_ne same] at points ⊢
      exact Nat.lt_succ_of_lt (invariant.known points)
  · intro ws beyond
    simp only [Server.onConnection] at beyond ⊢
    have old : ws ≠ server.connected := by omega
    rw [Function.update_of_ne old]
    exact invariant.unconnected (by omega)
  · intro key ws stored
    simp only [Server.onConnection, OrderedMap.get_set] at stored ⊢
    split at stored
    case isTrue same =>
      obtain rfl := Option.some.inj stored
      simpa using same
    case isFalse =>
      obtain ⟨present, named⟩ := invariant.registered stored
      have old : ws ≠ server.connected := fun same => present (same ▸ freshClosed)
      simpa [Function.update_of_ne old] using ⟨present, named⟩

theorem grant
    (invariant : PairingInvariant server)
    {ws targetWs : SocketId}
    (distinct : targetWs ≠ ws)
    (alive : server.readyState ws ≠ .CLOSED)
    (targetAlive : server.readyState targetWs ≠ .CLOSED)
    (alone : server.pairPartner ws = none)
    (targetAlone : server.pairPartner targetWs = none) :
    PairingInvariant (server.grant ws targetWs).1 := by
  have isKnown : ∀ {socket}, server.readyState socket ≠ .CLOSED →
      socket < server.connected := by
    intro socket present
    by_contra beyond
    exact present (invariant.unconnected (Nat.not_lt.mp beyond))
  constructor
  · exact invariant.matching.bind_preserves distinct.symm alone targetAlone alive targetAlive
  · intro a b points
    simp only [Server.grant] at points ⊢
    by_cases isTarget : a = targetWs
    · subst isTarget
      simp only [Function.update_self, Option.some.injEq] at points
      exact points ▸ isKnown alive
    · rw [Function.update_of_ne isTarget] at points
      by_cases isRequester : a = ws
      · subst isRequester
        simp only [Function.update_self, Option.some.injEq] at points
        exact points ▸ isKnown targetAlive
      · rw [Function.update_of_ne isRequester] at points
        exact invariant.known points
  · exact invariant.unconnected
  · exact invariant.registered

theorem closing
    (invariant : PairingInvariant server)
    {ws : SocketId}
    (wasOpen : server.readyState ws = .OPEN) :
    PairingInvariant
      { server with readyState := Function.update server.readyState ws .CLOSING } := by
  have closedSame : ∀ socket,
      Function.update server.readyState ws .CLOSING socket = .CLOSED ↔
        server.readyState socket = .CLOSED := by
    intro socket
    by_cases same : socket = ws
    · subst same
      simp [wasOpen]
    · rw [Function.update_of_ne same]
  constructor
  · simp only [closedSame]
    refine invariant.matching.leave_preserves fun socket leaving => ?_
    by_cases same : socket = ws
    · subst same
      simp
    · rwa [Function.update_of_ne same]
  · exact invariant.known
  · intro socket beyond
    exact (closedSame socket).mpr (invariant.unconnected beyond)
  · intro key socket stored
    simp only [ne_eq, closedSame]
    exact invariant.registered stored

private theorem update_closed_iff (server : Server) (ws socket : SocketId) :
    Function.update server.readyState ws .CLOSED socket = .CLOSED ↔
      server.readyState socket = .CLOSED ∨ socket = ws := by
  by_cases same : socket = ws
  · subst same
    simp
  · simp [same]

theorem onClose
    (invariant : PairingInvariant server)
    (ws : SocketId) :
    PairingInvariant (server.onClose ws).1 := by
  rw [onClose_eq]
  constructor
  · simp only [update_closed_iff]
    refine invariant.matching.depart_preserves ?_ ?_ ?_ ?_
    · intro partner informed
      exact (Option.filter_eq_some_iff.mp informed).1
    · intro partner paired
      by_cases stays : Function.update server.readyState ws .CLOSED partner = .OPEN
      · exact .inl (Option.filter_eq_some_iff.mpr ⟨paired, by simpa using stays⟩)
      · have notSelf : partner ≠ ws := by
          rintro rfl
          exact invariant.matching.irreflexive partner paired
        rw [Function.update_of_ne notSelf] at stays
        exact .inr stays
    · exact fun _ => Iff.rfl
    · intro socket leaving
      by_cases same : socket = ws
      · subst same
        simp
      · rwa [Function.update_of_ne same]
  · intro a b points
    exact invariant.known (MatchingUpTo.depart_some points).1
  · intro socket beyond
    exact (update_closed_iff server ws socket).mpr (.inl (invariant.unconnected beyond))
  · intro key socket stored
    simp only [unregister] at stored
    have registeredBefore : OrderedMap.get server.clientsByIP key = some socket := by
      split at stored
      case isTrue =>
        rw [OrderedMap.get_delete] at stored
        split at stored
        case isTrue => contradiction
        case isFalse => exact stored
      case isFalse => exact stored
    obtain ⟨present, named⟩ := invariant.registered registeredBefore
    refine ⟨fun gone => ?_, named⟩
    rcases (update_closed_iff server ws socket).mp gone with before | same
    · exact present before
    · -- The closing socket itself is gone from the registry.
      subst same
      rw [named, if_pos registeredBefore, OrderedMap.get_delete, if_pos rfl] at stored
      contradiction

/-- Every event keeps the invariant. -/
theorem step
    (invariant : PairingInvariant server)
    {event : Event} {next : Server} {outputs : List Output}
    (stepped : server.step event = some (next, outputs)) :
    PairingInvariant next := by
  cases effect_of_step stepped with
  | connected remoteAddress remotePort => exact invariant.onConnection _ _
  | granted ws targetWs p alive target alone targetAlone =>
      obtain ⟨distinct, targetAlive, -⟩ := invariant.validTarget_spec target
      exact invariant.grant distinct alive targetAlive alone targetAlone
  | refused | listed | ignored | relayed => exact invariant
  | closing ws wasOpen => exact invariant.closing wasOpen
  | closed ws => exact invariant.onClose ws
  | fired =>
      exact ⟨invariant.matching, invariant.known, invariant.unconnected,
        invariant.registered⟩

/-- Nobody else can change the partner of an `OPEN` socket as long as that
partner has not closed. -/
theorem partner_kept
    (invariant : PairingInvariant server)
    {a b : SocketId}
    (paired : server.pairPartner a = some b)
    (wasOpen : server.readyState a = .OPEN)
    {event : Event} {next : Server} {outputs : List Output}
    (stepped : server.step event = some (next, outputs))
    (staysOpen : next.readyState a = .OPEN) (partnerPresent : next.readyState b ≠ .CLOSED) :
    next.pairPartner a = some b := by
  cases effect_of_step stepped with
  | connected =>
      have old : a ≠ server.connected := by
        rintro rfl
        have fresh := invariant.unconnected (Nat.le_refl server.connected)
        rw [wasOpen] at fresh
        contradiction
      simpa [Server.onConnection, Function.update_of_ne old] using paired
  | granted ws targetWs p alive target alone targetAlone =>
      have notRequester : a ≠ ws := by
        rintro rfl
        rw [paired] at alone
        contradiction
      have notTarget : a ≠ targetWs := by
        rintro rfl
        rw [paired] at targetAlone
        contradiction
      simpa [Server.grant, Function.update_of_ne notTarget,
        Function.update_of_ne notRequester] using paired
  | refused | listed | ignored | relayed | closing | fired => exact paired
  | closed ws wasClosing =>
      rw [onClose_eq] at staysOpen partnerPresent ⊢
      have notSelf : a ≠ ws := by
        rintro rfl
        simp at staysOpen
      have notInformed : some a ≠ server.informedPartner ws := by
        intro informed
        -- Then `a` is the partner of the closing socket, which is therefore `b`.
        have closingPoints := (Option.filter_eq_some_iff.mp informed.symm).1
        have back := invariant.matching.points_back paired fun leaving => leaving wasOpen
        have same := invariant.matching.injective closingPoints back
        subst same
        simp at partnerPresent
      exact (MatchingUpTo.depart_other notSelf notInformed).trans paired

/-- The invariant holds after every run of the server. -/
theorem of_run
    {guard : Server → Event → Prop}
    {events : List Event} {outputs : List Output}
    (run : ServerRun guard events outputs server) :
    PairingInvariant server :=
  run.state_invariant PairingInvariant initial
    fun invariant _ stepped => invariant.step stepped

end PairingInvariant

/-- **Pairing is a matching.** In every reachable state `_pairPartner` is
irreflexive and injective, and it is symmetric unless the partner has closed and
the socket itself is no longer `OPEN`. So the partner of an `OPEN` socket has
not closed and points back. -/
theorem pairing_is_matching
    {events : List Event} {outputs : List Output} {server : Server}
    (run : ServerRun Machine.free events outputs server) :
    (∀ a, server.pairPartner a ≠ some a) ∧
    (∀ a b c, server.pairPartner a = some c → server.pairPartner b = some c → a = b) ∧
    (∀ a b, server.pairPartner a = some b →
      server.pairPartner b = some a ∨
        (b < server.connected ∧ server.readyState b = .CLOSED ∧
          server.readyState a ≠ .OPEN)) ∧
    (∀ a b, server.readyState a = .OPEN → server.pairPartner a = some b →
      server.readyState b ≠ .CLOSED) := by
  have invariant := PairingInvariant.of_run run
  refine ⟨invariant.matching.irreflexive, fun a b c => invariant.matching.injective,
    ?_, ?_⟩
  · intro a b points
    exact (invariant.matching.symmetric points).imp_right fun dangling =>
      ⟨invariant.known points, dangling.1, dangling.2⟩
  · intro a b aOpen points bClosed
    have back := invariant.matching.points_back points (fun leaving => leaving aOpen)
    rw [invariant.matching.departed_free bClosed] at back
    contradiction

/-- Two clients connect, the first asks for the second, and the second starts to
close: a run that ends with a pair. -/
def pairedRun : List Event :=
  [.connection (some "10.0.0.1") (some 5001), .connection (some "10.0.0.2") (some 5002),
    .message 0 (some (.obj [("type", .str "pair_request"),
      ("targetIP", .str "10.0.0.2:5002")])),
    .closing 1]

theorem pairing_is_matching_pairedRun :
    ∃ outputs server, ServerRun Machine.free pairedRun outputs server ∧
      server.pairPartner 0 = some 1 ∧ server.readyState 1 = .CLOSING ∧
      server.pairPartner 1 = some 0 := by
  obtain ⟨server, outputs, run, checked⟩ :
      ∃ server outputs, ServerRun Machine.free pairedRun outputs server ∧
        decide (server.pairPartner 0 = some 1 ∧ server.readyState 1 = .CLOSING) = true :=
    Machine.run_of_exec_any (fun (server : Server) _ =>
      decide (server.pairPartner 0 = some 1 ∧ server.readyState 1 = .CLOSING))
      (by decide)
  obtain ⟨paired, isClosing⟩ := of_decide_eq_true checked
  obtain ⟨-, -, symmetric, -⟩ := pairing_is_matching run
  refine ⟨outputs, server, run, paired, isClosing, ?_⟩
  rcases symmetric 0 1 paired with back | ⟨-, gone, -⟩
  · exact back
  · rw [isClosing] at gone
    contradiction

end WebrtcFileSender.Signaling
