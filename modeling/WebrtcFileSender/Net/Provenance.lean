import WebrtcFileSender.Net.Decoding
import WebrtcFileSender.Signaling.Tunnel

/-!
Contract: who writes the control messages that a client is sent.

A client tells the messages of the server from those of its partner by their type
alone. The relay passes every type on but `pair_request`, `list_peers` and
`peer_left`, so a partner can write in the name of the server.

Owns: the types that are the server's, what a message of any other type leaves
untouched in the client that handles it, and the exact condition under which no
partner writes in the name of the server.

The clients may be dishonest: a message event carries any JSON value.
-/

namespace WebrtcFileSender.Net

open Signaling Foundation

/-- The types that only the server writes. -/
def controlTypes : List String :=
  ["role", "peer_joined", "peer_left", "peers", "error"]

/-- A control message, as a client reads it. -/
def isControl (message : Json) : Bool :=
  controlTypes.any fun type => isEqual (message.field? "type") type

/-- Whoever handles the message keeps its role and the key of its peer, creates no
offer and gets no device list. -/
def Harmless (message : Json) : Prop :=
  ∀ (endpoint next : Endpoint) (peerConnection : Bool) (author : Option SocketId),
    endpoint.receiveSignalMessage peerConnection message author = .ok next →
      next.client.isOfferer = endpoint.client.isOfferer ∧
      next.client.peerIP = endpoint.client.peerIP ∧
      next.client.readyState = endpoint.client.readyState ∧
      next.completions.count .offerForConstraints =
        endpoint.completions.count .offerForConstraints ∧
      next.client.mainQueue = endpoint.client.mainQueue

/-- A control message comes from the server, and what comes from a partner does
no harm. -/
def Authentic : Output → Prop
  | .sent _ message origin =>
      (isControl message = true → origin = .server) ∧
        ∀ sender, origin = .relay sender → Harmless message
  | .granted _ _ => True

/-- The condition on an event: no client that has an `OPEN` partner sends a
message of a type that the relay lets through in the name of the server. -/
def Unforging (server : Server) : Server.Event → Prop
  | .message ws (some p) =>
      (server.pairPartner ws).any (fun partner => server.readyState partner = .OPEN) = true →
        ∀ type ∈ ["role", "peer_joined", "peers", "error"],
          p.stringField? "type" ≠ some type
  | _ => True

instance (server : Server) : (event : Server.Event) → Decidable (Unforging server event)
  | .message _ (some _) => inferInstanceAs (Decidable (_ → _))
  | .message _ none | .connection _ _ | .closing _ | .close _ | .timeout _ => .isTrue trivial

/-! ## Messages of the other types -/

theorem isControl_iff {message : Json} :
    isControl message = true ↔
      ∃ type ∈ controlTypes, message.stringField? "type" = some type := by
  simp [isControl, isEqual, Json.stringField?]

/-- An offer, an answer, a candidate or an unknown message touches none of what
the server decides. -/
theorem harmless_of_not_control {message : Json} (other : isControl message = false) :
    Harmless message := by
  have notEqual : ∀ type ∈ controlTypes, isEqual (message.field? "type") type = false := by
    intro type control
    simpa using List.any_eq_false.mp other type control
  intro endpoint next peerConnection author handled
  unfold Endpoint.receiveSignalMessage at handled
  obtain ⟨type, subscripted, handled⟩ := bind_eq_ok.mp handled
  have sameType : type = message.field? "type" := by
    cases message with
    | obj fields => exact (Except.ok.inj subscripted).symm
    | null | bool | num | str | arr => contradiction
  subst sameType
  rw [notEqual "role" (by decide), notEqual "peer_joined" (by decide),
    notEqual "peer_left" (by decide), notEqual "error" (by decide),
    notEqual "peers" (by decide)] at handled
  simp only [Bool.false_eq_true, if_false] at handled
  split at handled
  · split at handled
    · obtain ⟨offer, -, result⟩ := bind_eq_ok.mp handled
      obtain rfl := Except.ok.inj result
      simp
    · obtain rfl := Except.ok.inj handled
      simp
  · split at handled
    · obtain ⟨answer, -, result⟩ := bind_eq_ok.mp handled
      obtain rfl := Except.ok.inj result
      split <;> simp
    · split at handled
      · obtain ⟨candidate, -, result⟩ := bind_eq_ok.mp handled
        obtain rfl := Except.ok.inj result
        unfold Endpoint.receiveCandidate
        split <;> simp
      · obtain rfl := Except.ok.inj handled
        simp

/-! ## One event -/

section Step

variable {server next : Server} {event : Server.Event} {outputs : List Output}

/-- Under the condition every message that an event sends is authentic. -/
theorem authentic_of_unforging
    (stepped : server.step event = some (next, outputs))
    (unforging : Unforging server event) :
    ∀ output ∈ outputs, Authentic output := by
  intro output member
  cases output with
  | granted => trivial
  | sent receiver message origin =>
      cases Server.sent_of_step stepped member with
      | peers | error | offerer | answerer | joined | left =>
          refine ⟨fun _ => rfl, ?_⟩
          intro sender fromPartner
          contradiction
      | relayed sender _ _ isMessage relayable paired isOpen =>
          subst isMessage
          obtain ⟨type, typed, -, -, notLeft⟩ := relayable
          have notForged := unforging (by simp [paired, isOpen])
          have notControl : isControl message = false := by
            rw [Bool.eq_false_iff, ne_eq, isControl_iff]
            rintro ⟨control, isType, sameType⟩
            obtain rfl := Option.some.inj (typed.symm.trans sameType)
            simp only [controlTypes, List.mem_cons, List.not_mem_nil, or_false] at isType
            rcases isType with rfl | rfl | rfl | rfl | rfl
            · exact notForged "role" (by decide) typed
            · exact notForged "peer_joined" (by decide) typed
            · exact notLeft rfl
            · exact notForged "peers" (by decide) typed
            · exact notForged "error" (by decide) typed
          refine ⟨?_, fun _ _ => harmless_of_not_control notControl⟩
          intro control
          rw [notControl] at control
          contradiction

/-- A forged message is relayed, so the condition is needed. -/
theorem unforging_of_authentic
    (stepped : server.step event = some (next, outputs))
    (authentic : ∀ output ∈ outputs, Authentic output) :
    Unforging server event := by
  cases event with
  | connection | closing | close | timeout => trivial
  | message ws raw =>
      cases raw with
      | none => trivial
      | some p =>
          intro hasPartner type forgeable typed
          obtain ⟨partner, paired, isOpen⟩ := Option.any_eq_true _ _ |>.mp hasPartner
          have partnerOpen : server.readyState partner = .OPEN := by simpa using isOpen
          have isForged : type = "role" ∨ type = "peer_joined" ∨ type = "peers" ∨
              type = "error" := by
            simpa using forgeable
          have relayable : Server.Relayable p := by
            refine ⟨type, typed, ?_⟩
            rcases isForged with rfl | rfl | rfl | rfl <;> decide
          have relayed : (⟨ws, partner, p⟩ : Relay) ∈ relays outputs := by
            rw [relays_of_step stepped]
            simp [relayOf, paired, relayable, partnerOpen]
          have isControl : isControl p = true := by
            refine isControl_iff.mpr ⟨type, ?_, typed⟩
            rcases isForged with rfl | rfl | rfl | rfl <;> decide
          have fromServer := (authentic _ (sent_of_mem_relays relayed)).1 isControl
          contradiction

end Step

/-! ## Whole runs -/

/-- **No partner writes in the name of the server exactly when none tries to.**
In any run of the server, with any clients, every message of a control type that
a client is sent was written by the server, and what a client is sent from its
partner changes neither its role nor the key of its peer, starts no offer and
replaces no device list, if and only if no client that has an `OPEN` partner sends
a message of type `role`, `peer_joined`, `peers` or `error`. -/
theorem control_messages_are_authentic_iff
    {events : List Server.Event} {outputs : List Output} {server : Server}
    (run : ServerRun Machine.free events outputs server) :
    (∀ output ∈ outputs, Authentic output) ↔ ServerRun Unforging events outputs server :=
  run.good_iff_guarded (fun _ => True) Authentic trivial (fun _ _ => trivial)
    fun _ stepped => ⟨authentic_of_unforging stepped, unforging_of_authentic stepped⟩

/-- Two clients are paired and exchange an offer and an answer; a client without a
partner sends a role. -/
def unforgedRun : List Server.Event :=
  [.connection (some "10.0.0.1") (some 5001), .connection (some "10.0.0.2") (some 5002),
    .message 1 (some (.obj [("type", .str "role"), ("role", .str "offerer")])),
    .message 0 (some (Endpoint.pairRequestMessage "10.0.0.2:5002")), .timeout 0,
    .message 0 (some (Endpoint.offerMessage "v=0")),
    .message 1 (some (Endpoint.answerMessage "v=0"))]

theorem control_messages_are_authentic_iff_unforgedRun :
    ∃ outputs server, ServerRun Machine.free unforgedRun outputs server ∧
      (relays outputs).length = 2 ∧ ∀ output ∈ outputs, Authentic output := by
  obtain ⟨server, outputs, run, checked⟩ :
      ∃ server outputs, ServerRun Unforging unforgedRun outputs server ∧
        decide ((relays outputs).length = 2) = true :=
    Machine.run_of_exec_any (fun _ outputs => decide ((relays outputs).length = 2))
      (by decide)
  have free : ServerRun Machine.free unforgedRun outputs server :=
    run.mono fun _ _ _ => trivial
  exact ⟨outputs, server, free, of_decide_eq_true checked,
    (control_messages_are_authentic_iff free).mpr run⟩

/-- What the second of two paired clients sends the first: it is the offerer of
another client. -/
def forgedRole : Json :=
  .obj [("type", .str "role"), ("role", .str "offerer"), ("peerIP", .str "10.0.0.9:5009")]

def forgedRoleRun : List Server.Event :=
  [.connection (some "10.0.0.1") (some 5001), .connection (some "10.0.0.2") (some 5002),
    .message 1 (some (Endpoint.pairRequestMessage "10.0.0.1:5001")),
    .message 1 (some forgedRole)]

/-- The message is relayed, and the first client takes the role and the key in
it. -/
theorem forged_role_is_relayed :
    ∃ outputs server, ServerRun Machine.free forgedRoleRun outputs server ∧
      Output.sent 0 forgedRole (.relay 1) ∈ outputs ∧
      (¬ ∀ output ∈ outputs, Authentic output) ∧
      ((Endpoint.initial 0 "mac#001").receiveSignalMessage true forgedRole (some 1)).toOption.map
        (fun next => (next.client.isOfferer, next.client.peerIP)) =
          some (true, some "10.0.0.9:5009") := by
  have evaluated : (Machine.exec Server.step Machine.free Server.initial forgedRoleRun).bind
      (fun result => result.2.getLast?) = some (.sent 0 forgedRole (.relay 1)) := rfl
  obtain ⟨⟨server, outputs⟩, executed, last⟩ := Option.bind_eq_some_iff.mp evaluated
  have relayed : Output.sent 0 forgedRole (.relay 1) ∈ outputs := List.mem_of_getLast? last
  refine ⟨outputs, server, Machine.exec_run executed, relayed, ?_, rfl⟩
  intro authentic
  have fromServer := (authentic _ relayed).1 (by decide)
  contradiction

end WebrtcFileSender.Net
