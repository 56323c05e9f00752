import WebrtcFileSender.Library.Lobby
import WebrtcFileSender.Signaling.Pairing

/-!
Contract: the signaling server as a matchmaker.

Seen from the partner fields, the server is a lobby: a socket enters when it
connects, turns away when it starts to close, departs with its close event, and
is paired by a request that is granted. A socket that is closing may point at a
closed one; to the lobby it is alone.

Owns: what it means that a lobby represents a server, the news of pairing among
the outputs, the refinement of the lobby by the server, and the law of the news
every client gets.
-/

namespace WebrtcFileSender.Signaling

open Server

namespace Server

/-- A socket as a member of the lobby. -/
def lobbyStatus (server : Server) (ws : SocketId) : Lobby.Status :=
  if server.connected ≤ ws then .absent
  else
    match server.readyState ws with
    | .OPEN => .attentive
    | .CLOSING => .leaving
    | .CLOSED => .departed

/-- The partner of a socket that has not closed. -/
def presentPartner (server : Server) (ws : SocketId) : Option SocketId :=
  (server.pairPartner ws).filter fun partner => server.readyState partner ≠ .CLOSED

end Server

/-- The lobby shows who is connected and who is paired with whom. -/
structure Represents (server : Server) (lobby : Lobby.State SocketId) : Prop where
  pairing : PairingInvariant server
  status : ∀ ws, lobby.status ws = server.lobbyStatus ws
  partner : ∀ ws, lobby.partner ws = server.presentPartner ws

/-- The news of pairing in an output: the server writes a `role` or a `peer_left`. -/
def pairingNews : Output → List (Lobby.Notice SocketId)
  | .sent receiver message .server =>
      if message.stringField? "type" = some "role" then [⟨receiver, true⟩]
      else if message.stringField? "type" = some "peer_left" then [⟨receiver, false⟩]
      else []
  | .sent _ _ (.relay _) => []
  | .granted _ _ => []

/-! ## The news of one event -/

theorem pairingNews_send (server : Server) (ws : SocketId) (message : Json) :
    (server.send ws message .server).flatMap pairingNews =
      if server.readyState ws = .OPEN then pairingNews (.sent ws message .server) else [] := by
  unfold Server.send
  split <;> simp

theorem pairingNews_error (server : Server) (ws : SocketId) (reason : String) :
    (server.send ws (errorMessage reason) .server).flatMap pairingNews = [] := by
  rw [pairingNews_send, ite_eq_right_iff]
  exact fun _ => rfl

theorem pairingNews_broadcastPeerLists (server : Server) :
    server.broadcastPeerLists.flatMap pairingNews = [] :=
  List.flatMap_eq_nil_iff.mpr (forall_mem_broadcastPeerLists fun _ _ => rfl)

theorem pairingNews_sendPeerList (server : Server) (ws : SocketId) :
    (server.sendPeerList ws).flatMap pairingNews = [] :=
  List.flatMap_eq_nil_iff.mpr (forall_mem_send rfl)

theorem pairingNews_onTimeout (server : Server) (timer : Timer) :
    (server.onTimeout timer).flatMap pairingNews = [] :=
  List.flatMap_eq_nil_iff.mpr (forall_mem_send rfl)

theorem pairingNews_grant (server : Server) (ws targetWs : SocketId) :
    (server.grant ws targetWs).2.flatMap pairingNews =
      (if server.readyState ws = .OPEN then [⟨ws, true⟩] else []) ++
        if server.readyState targetWs = .OPEN then [⟨targetWs, true⟩] else [] := by
  rw [grant_outputs, List.flatMap_append, List.flatMap_append, pairingNews_send,
    pairingNews_send]
  rfl

/-- A close informs the partner that is `OPEN`. -/
theorem pairingNews_onClose (server : Server) (ws : SocketId) :
    (server.onClose ws).2.flatMap pairingNews =
      (server.informedPartner ws).toList.map fun partner => ⟨partner, false⟩ := by
  unfold onClose informedPartner
  cases paired : server.pairPartner ws with
  | none => exact pairingNews_broadcastPeerLists _
  | some partner =>
      by_cases stays : Function.update server.readyState ws .CLOSED partner = .OPEN
      · rw [Option.filter_some_pos (by simpa using stays)]
        simp only [stays, ↓reduceIte, List.flatMap_append, pairingNews_broadcastPeerLists,
          pairingNews_send]
        rfl
      · rw [Option.filter_some_neg (by simpa using stays)]
        simp only [stays, ↓reduceIte, pairingNews_broadcastPeerLists]
        rfl

/-! ## The lobby follows the server -/

namespace Represents

variable {server : Server} {lobby : Lobby.State SocketId} {ws : SocketId}

theorem initial : Represents Server.initial Lobby.State.empty where
  pairing := .initial
  status := fun _ => rfl
  partner := fun _ => rfl

theorem attentive_iff (represents : Represents server lobby) :
    lobby.status ws = .attentive ↔ server.readyState ws = .OPEN := by
  rw [represents.status, lobbyStatus]
  by_cases unconnected : server.connected ≤ ws
  · simp [unconnected, represents.pairing.unconnected unconnected]
  · cases server.readyState ws <;> simp [unconnected]

theorem leaving_of_closing (represents : Represents server lobby)
    (isClosing : server.readyState ws = .CLOSING) :
    lobby.status ws = .leaving := by
  have known : ¬ server.connected ≤ ws := by
    intro unconnected
    rw [represents.pairing.unconnected unconnected] at isClosing
    contradiction
  simp [represents.status, lobbyStatus, known, isClosing]

theorem present_iff (represents : Represents server lobby) :
    (lobby.status ws).Present ↔ server.readyState ws ≠ .CLOSED := by
  rw [represents.status, lobbyStatus]
  by_cases unconnected : server.connected ≤ ws
  · simp [unconnected, represents.pairing.unconnected unconnected]
  · cases server.readyState ws <;> simp [unconnected]

theorem partner_eq_some_iff (represents : Represents server lobby) {partner : SocketId} :
    lobby.partner ws = some partner ↔
      server.pairPartner ws = some partner ∧ server.readyState partner ≠ .CLOSED := by
  rw [represents.partner, presentPartner, Option.filter_eq_some_iff, decide_eq_true_eq]

/-- The partner of an open socket has not closed. -/
theorem partner_of_open (represents : Represents server lobby)
    (isOpen : server.readyState ws = .OPEN) :
    lobby.partner ws = server.pairPartner ws := by
  ext partner
  rw [represents.partner_eq_some_iff, and_iff_left_iff_imp]
  intro paired closed
  have back := represents.pairing.matching.points_back paired fun leaving => leaving isOpen
  rw [represents.pairing.matching.departed_free closed] at back
  contradiction

theorem pairable (represents : Represents server lobby) {targetWs : SocketId} {p : Json}
    (alive : server.readyState ws ≠ .CLOSED)
    (target : server.validTarget ws p = some targetWs)
    (alone : server.pairPartner ws = none)
    (targetAlone : server.pairPartner targetWs = none) :
    lobby.Pairable ws targetWs := by
  obtain ⟨distinct, targetAlive, -⟩ := represents.pairing.validTarget_spec target
  refine ⟨distinct.symm, represents.present_iff.mpr alive,
    represents.present_iff.mpr targetAlive, ?_, ?_⟩
  · rw [represents.partner, presentPartner, alone, Option.filter_none]
  · rw [represents.partner, presentPartner, targetAlone, Option.filter_none]

theorem connected (represents : Represents server lobby)
    (remoteAddress : Option String) (remotePort : Option Nat)
    (isAbsent : lobby.status server.connected = .absent) :
    Represents (server.onConnection remoteAddress remotePort).1
      (lobby.enter server.connected isAbsent) := by
  refine ⟨represents.pairing.onConnection remoteAddress remotePort, fun ws => ?_, fun ws => ?_⟩
  · by_cases same : ws = server.connected
    · subst same
      simp [Lobby.State.enter, lobbyStatus, onConnection]
    · have sameSide : server.connected + 1 ≤ ws ↔ server.connected ≤ ws :=
        ⟨Nat.le_of_succ_le, fun known => Nat.lt_of_le_of_ne known (Ne.symm same)⟩
      simp [Lobby.State.enter, lobbyStatus, onConnection, Function.update_of_ne same,
        represents.status, sameSide]
  · by_cases same : ws = server.connected
    · subst same
      simp [Lobby.State.enter, presentPartner, onConnection]
    · simp only [Lobby.State.enter, presentPartner, onConnection, Function.update_of_ne same,
        represents.partner]
      cases paired : server.pairPartner ws with
      | none => rfl
      | some partner =>
          have old : partner ≠ server.connected :=
            Nat.ne_of_lt (represents.pairing.known paired)
          simp [Option.filter_some, Function.update_of_ne old]

theorem granted (represents : Represents server lobby) {targetWs : SocketId} {p : Json}
    (alive : server.readyState ws ≠ .CLOSED)
    (target : server.validTarget ws p = some targetWs)
    (alone : server.pairPartner ws = none)
    (targetAlone : server.pairPartner targetWs = none)
    (pairable : lobby.Pairable ws targetWs) :
    Represents (server.grant ws targetWs).1 (lobby.pair ws targetWs pairable) := by
  obtain ⟨distinct, targetAlive, -⟩ := represents.pairing.validTarget_spec target
  refine ⟨represents.pairing.grant distinct alive targetAlive alone targetAlone,
    represents.status, fun other => ?_⟩
  have bound : (server.grant ws targetWs).1.pairPartner =
      MatchingUpTo.bind server.pairPartner ws targetWs := rfl
  have sameStates : (server.grant ws targetWs).1.readyState = server.readyState := rfl
  simp only [Lobby.State.pair, presentPartner, bound, sameStates]
  by_cases isTarget : other = targetWs
  · subst isTarget
    rw [MatchingUpTo.bind_right, MatchingUpTo.bind_right, Option.filter_some_pos]
    simpa using alive
  · by_cases isRequester : other = ws
    · subst isRequester
      rw [MatchingUpTo.bind_left _ distinct.symm, MatchingUpTo.bind_left _ distinct.symm,
        Option.filter_some_pos]
      simpa using targetAlive
    · rw [MatchingUpTo.bind_other _ isRequester isTarget,
        MatchingUpTo.bind_other _ isRequester isTarget]
      exact represents.partner other

theorem closing (represents : Represents server lobby)
    (wasOpen : server.readyState ws = .OPEN)
    (isAttentive : lobby.status ws = .attentive) :
    Represents { server with readyState := Function.update server.readyState ws .CLOSING }
      (lobby.turnAway ws isAttentive) := by
  have known : ¬ server.connected ≤ ws := by
    intro unconnected
    rw [represents.pairing.unconnected unconnected] at wasOpen
    contradiction
  refine ⟨represents.pairing.closing wasOpen, fun other => ?_, fun other => ?_⟩
  · by_cases same : other = ws
    · subst same
      simp [Lobby.State.turnAway, lobbyStatus, known]
    · simp [Lobby.State.turnAway, lobbyStatus, Function.update_of_ne same, represents.status]
  · simp only [Lobby.State.turnAway, represents.partner, presentPartner]
    congr 1
    funext partner
    by_cases same : partner = ws
    · subst same
      simp [wasOpen]
    · simp [Function.update_of_ne same]

/-- The lobby and the server inform the same partner of a close. -/
theorem informed (represents : Represents server lobby)
    (wasClosing : server.readyState ws = .CLOSING) :
    ((server.informedPartner ws).toList.map fun partner =>
        (⟨partner, false⟩ : Lobby.Notice SocketId)) =
      (lobby.partner ws).toList.flatMap fun partner => lobby.tell partner false := by
  unfold informedPartner
  cases paired : server.pairPartner ws with
  | none =>
      rw [represents.partner, presentPartner, paired]
      rfl
  | some partner =>
      have notSelf : partner ≠ ws := by
        rintro rfl
        exact represents.pairing.matching.irreflexive partner paired
      rw [represents.partner, presentPartner, paired]
      cases state : server.readyState partner with
      | OPEN =>
          have isAttentive := represents.attentive_iff.mpr state
          simp [Option.filter_some, Function.update_of_ne notSelf, state, Lobby.State.tell,
            isAttentive]
      | CLOSING =>
          have isLeaving := represents.leaving_of_closing state
          simp [Option.filter_some, Function.update_of_ne notSelf, state, Lobby.State.tell,
            isLeaving]
      | CLOSED => simp [Option.filter_some, Function.update_of_ne notSelf, state]

/-- The lobby releases the partner also when the server does not: then that partner is
closing, and points at a closed socket. -/
theorem closed (represents : Represents server lobby)
    (wasClosing : server.readyState ws = .CLOSING) :
    Represents (server.onClose ws).1 (lobby.depart ws) := by
  have known : ¬ server.connected ≤ ws := by
    intro unconnected
    rw [represents.pairing.unconnected unconnected] at wasClosing
    contradiction
  refine ⟨represents.pairing.onClose ws, fun other => ?_, fun other => ?_⟩
  · rw [onClose_eq]
    by_cases same : other = ws
    · subst same
      simp [Lobby.State.depart, lobbyStatus, known]
    · simp [Lobby.State.depart, lobbyStatus, Function.update_of_ne same, represents.status]
  · ext partner
    have nextPartner : (server.onClose ws).1.presentPartner other = some partner ↔
        (server.pairPartner other = some partner ∧ other ≠ ws ∧
          some other ≠ server.informedPartner ws) ∧
        Function.update server.readyState ws .CLOSED partner ≠ .CLOSED := by
      rw [presentPartner, Option.filter_eq_some_iff, decide_eq_true_eq, onClose_eq,
        MatchingUpTo.depart_eq_some_iff]
    rw [nextPartner, Lobby.State.depart, MatchingUpTo.depart_eq_some_iff,
      represents.partner_eq_some_iff]
    constructor
    · rintro ⟨⟨points, present⟩, notSelf, notReleased⟩
      have notWs : partner ≠ ws := by
        rintro rfl
        have back := lobby.partner_symmetric
          (represents.partner_eq_some_iff.mpr ⟨points, present⟩)
        exact notReleased back.symm
      refine ⟨⟨points, notSelf, fun informed => notReleased ?_⟩, ?_⟩
      · obtain ⟨wsPoints, otherOpen⟩ := Option.filter_eq_some_iff.mp informed.symm
        rw [Function.update_of_ne notSelf, decide_eq_true_eq] at otherOpen
        exact (represents.partner_eq_some_iff.mpr ⟨wsPoints, by simp [otherOpen]⟩).symm
      · rwa [Function.update_of_ne notWs]
    · rintro ⟨⟨points, notSelf, -⟩, present⟩
      have notWs : partner ≠ ws := by
        rintro rfl
        exact present (Function.update_self ..)
      rw [Function.update_of_ne notWs] at present
      refine ⟨⟨points, present⟩, notSelf, fun released => notWs ?_⟩
      have back := lobby.partner_symmetric released.symm
      rw [represents.partner_eq_some_iff.mpr ⟨points, present⟩] at back
      exact Option.some.inj back

/-- **The step lemma**: what an event does to the server, one move of the lobby or none
does to the lobby, with the same news. -/
theorem step (represents : Represents server lobby)
    {event : Event} {next : Server} {outputs : List Output}
    (stepped : server.step event = some (next, outputs)) :
    ∃ moves lobby', Machine.Run Lobby.State.step Machine.free lobby moves
        (outputs.flatMap pairingNews) lobby' ∧
      Represents next lobby' := by
  have stays : ∀ {fresh : List Output}, fresh.flatMap pairingNews = [] →
      ∃ moves lobby', Machine.Run Lobby.State.step Machine.free lobby moves
          (fresh.flatMap pairingNews) lobby' ∧ Represents server lobby' := by
    intro fresh silent
    rw [silent]
    exact ⟨[], lobby, .nil, represents⟩
  cases effect_of_step stepped with
  | connected remoteAddress remotePort =>
      have isAbsent : lobby.status server.connected = .absent := by
        simp [represents.status, lobbyStatus]
      refine ⟨[.enter server.connected], _, .single trivial ?_,
        represents.connected remoteAddress remotePort isAbsent⟩
      rw [show (server.onConnection remoteAddress remotePort).2.flatMap pairingNews = []
        from pairingNews_broadcastPeerLists _, Lobby.State.step, dif_pos isAbsent]
  | granted ws targetWs p alive target alone targetAlone =>
      have pairable := represents.pairable alive target alone targetAlone
      refine ⟨[.pair ws targetWs], _, .single trivial ?_,
        represents.granted alive target alone targetAlone pairable⟩
      rw [Lobby.State.step, dif_pos pairable, pairingNews_grant]
      simp only [Lobby.State.tell, represents.attentive_iff]
  | refused ws p reason => exact stays (pairingNews_error server ws reason)
  | listed ws => exact stays (pairingNews_sendPeerList server ws)
  | ignored | relayed => exact stays rfl
  | closing ws wasOpen =>
      have isAttentive := represents.attentive_iff.mpr wasOpen
      refine ⟨[.turnAway ws], _, .single trivial ?_, represents.closing wasOpen isAttentive⟩
      rw [Lobby.State.step, dif_pos isAttentive]
      rfl
  | closed ws wasClosing =>
      have isLeaving := represents.leaving_of_closing wasClosing
      refine ⟨[.depart ws], _, .single trivial ?_, represents.closed wasClosing⟩
      rw [Lobby.State.step, if_pos isLeaving, pairingNews_onClose,
        represents.informed wasClosing]
  | fired index timer =>
      refine ⟨[], lobby, ?_, ?_⟩
      · rw [pairingNews_onTimeout]
        exact .nil
      · exact ⟨represents.pairing.step stepped, represents.status, represents.partner⟩

end Represents

/-- **The server is a matchmaker**: every run of the server is a run of a lobby that
represents it, with the same news. -/
theorem server_refines_lobby
    {guard : Server → Event → Prop} {events : List Event} {outputs : List Output}
    {server : Server} (run : ServerRun guard events outputs server) :
    ∃ moves lobby, Lobby.State.LobbyRun moves (outputs.flatMap pairingNews) lobby ∧
      Represents server lobby :=
  run.simulated Represents pairingNews .initial
    fun represents _ stepped => represents.step stepped

/-- Two clients are paired, and the second leaves. -/
def partedRun : List Event := pairedRun ++ [.close 1]

theorem server_refines_lobby_partedRun :
    ∃ outputs server, ServerRun Machine.free partedRun outputs server ∧
      outputs.flatMap pairingNews = [⟨0, true⟩, ⟨1, true⟩, ⟨0, false⟩] ∧
      ∃ moves lobby, Lobby.State.LobbyRun moves (outputs.flatMap pairingNews) lobby ∧
        Represents server lobby := by
  obtain ⟨server, outputs, run, checked⟩ :
      ∃ server outputs, ServerRun Machine.free partedRun outputs server ∧
        decide (outputs.flatMap pairingNews = [⟨0, true⟩, ⟨1, true⟩, ⟨0, false⟩]) = true :=
    Machine.run_of_exec_any (fun (_ : Server) outputs =>
      decide (outputs.flatMap pairingNews = [⟨0, true⟩, ⟨1, true⟩, ⟨0, false⟩])) (by decide)
  exact ⟨outputs, server, run, of_decide_eq_true checked, server_refines_lobby run⟩

/-- What the server has told a client of its pairing: `true` for a role, `false` for
a `peer_left`. -/
def pairingNewsOf (ws : SocketId) (outputs : List Output) : List Bool :=
  Lobby.State.told ws (outputs.flatMap pairingNews)

/-- **Every client is told the truth about its pairing.** What the server tells it is
a role, a `peer_left`, a role and so on in turn, and a client whose socket is open has a
partner exactly if the last of it is a role. -/
theorem client_is_told
    {guard : Server → Event → Prop} {events : List Event} {outputs : List Output}
    {server : Server} (run : ServerRun guard events outputs server) (ws : SocketId) :
    (pairingNewsOf ws outputs).IsChain (· ≠ ·) ∧
      (pairingNewsOf ws outputs).head? ≠ some false ∧
      (server.readyState ws = .OPEN →
        ((pairingNewsOf ws outputs).getLast? = some true ↔
          (server.pairPartner ws).isSome = true)) := by
  obtain ⟨moves, lobby, lobbyRun, represents⟩ :
      ∃ moves lobby, Lobby.State.LobbyRun moves (outputs.flatMap pairingNews) lobby ∧
        Represents server lobby :=
    run.simulated Represents pairingNews .initial
      fun represents _ stepped => represents.step stepped
  have upToDate := Lobby.State.upToDate_of_run lobbyRun ws
  refine ⟨upToDate.alternates, upToDate.starts, fun isOpen => ?_⟩
  rw [← represents.partner_of_open isOpen]
  exact upToDate.current (represents.attentive_iff.mpr isOpen)

theorem client_is_told_partedRun :
    ∃ outputs server, ServerRun Machine.free partedRun outputs server ∧
      server.readyState 0 = .OPEN ∧ pairingNewsOf 0 outputs = [true, false] ∧
      server.pairPartner 0 = none := by
  obtain ⟨server, outputs, run, checked⟩ :
      ∃ server outputs, ServerRun Machine.free partedRun outputs server ∧
        decide (server.readyState 0 = .OPEN ∧ pairingNewsOf 0 outputs = [true, false]) =
          true :=
    Machine.run_of_exec_any (fun (server : Server) outputs =>
      decide (server.readyState 0 = .OPEN ∧ pairingNewsOf 0 outputs = [true, false]))
      (by decide)
  obtain ⟨isOpen, told⟩ := of_decide_eq_true checked
  obtain ⟨-, -, current⟩ := client_is_told run 0
  have alone := current isOpen
  rw [told] at alone
  exact ⟨outputs, server, run, isOpen, told, by simpa using alone⟩

end WebrtcFileSender.Signaling
