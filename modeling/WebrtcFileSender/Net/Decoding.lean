import WebrtcFileSender.Client.Decoding
import WebrtcFileSender.Net.Signals

/-!
Contract: signaling messages on the wire, as `receiveSignal` reads them.

Owns: one round of `receiveSignal` over any JSON value, the exact condition under
which it raises, and its agreement with the typed model on the messages that the
server and the clients write.

The parameters of the constructors are those of the WebRTC library: `sdp` takes
a string and not nil, `sdpMid` takes a string or nil. `role`, `selfIP` and
`peerIP` may hold any object; only texts in them are tracked.
-/

namespace WebrtcFileSender.Net

open Signaling Foundation

namespace Endpoint

/-- `[[RTCSessionDescription alloc] initWithType:type sdp:json[@"sdp"]]`. -/
def sessionDescription (json : Json) : Except Exception String := do
  let sdp ← objectForKeyedSubscript (some json) "sdp"
  string "sdp" sdp

/-- The `RTCIceCandidate` of a `candidate` message. -/
def decodeCandidate (json : Json) : Except Exception RTCIceCandidate := do
  let cd ← objectForKeyedSubscript (some json) "candidate"
  let candidate ← objectForKeyedSubscript cd "candidate"
  let lineIndex ← objectForKeyedSubscript cd "sdpMLineIndex"
  let sdpMLineIndex ← Foundation.intValue lineIndex
  let mid ← objectForKeyedSubscript cd "sdpMid"
  let sdp ← string "sdp" candidate
  let sdpMid ← nullableString "sdpMid" mid
  return ⟨sdp, sdpMLineIndex, sdpMid.getD ""⟩

/-- `createOffer` before the peer connection exists: the data channel is nil and
no completion handler is registered. -/
def createOfferAlone (endpoint : Endpoint) : Endpoint :=
  { endpoint with
    client := { endpoint.client with readyState := none, outgoing := [] }
    channelPeer := none }

/-- The `peer_joined` branch; the peer connection may not exist yet. -/
def receivePeerJoinedMessage (endpoint : Endpoint) (peerConnection : Bool) (json : Json) :
    Endpoint :=
  if peerConnection then endpoint.receivePeerJoined json
  else
    let endpoint :=
      { endpoint with
        client := { endpoint.client with
          peerIP := (json.stringField? "peerIP").or endpoint.client.peerIP } }
    if endpoint.client.isOfferer then endpoint.createOfferAlone else endpoint

/-- One round of `receiveSignal` over any JSON value. `peerConnection` says
whether the peer connection exists. -/
def receiveSignalMessage (endpoint : Endpoint) (peerConnection : Bool) (json : Json)
    (author : Option SocketId) : Except Exception Endpoint := do
  let type ← objectForKeyedSubscript (some json) "type"
  if isEqual type "role" then return endpoint.receiveRole json
  else if isEqual type "peer_joined" then
    return endpoint.receivePeerJoinedMessage peerConnection json
  else if isEqual type "peer_left" then
    return { endpoint with
      client := endpoint.client.dispatchMain (.dataChannelStateDidChange .Closed) }
  else if isEqual type "error" then return endpoint
  else if isEqual type "peers" then
    return { endpoint with
      client := endpoint.client.dispatchMain (.didUpdateOnlinePeers (onlinePeers json)) }
  else if isEqual type "offer" then
    if peerConnection then
      let _offer ← sessionDescription json
      return { endpoint with completions := endpoint.completions ++ [.setRemoteOffer author] }
    else return endpoint
  else if isEqual type "answer" then
    let _answer ← sessionDescription json
    return if peerConnection then
      { endpoint with completions := endpoint.completions ++ [.setRemoteAnswer author] }
    else endpoint
  else if isEqual type "candidate" then
    let candidate ← decodeCandidate json
    return endpoint.receiveCandidate candidate
  else return endpoint

/-! ## When it raises -/

/-- The `candidate` field is absent or a dictionary, its text is a string, its
line index is absent, a number or a string, and its `sdpMid` is absent or a
string. -/
def CandidateTyped (json : Json) : Prop :=
  ∃ cd, json.field? "candidate" = some cd ∧ IsKind [.NSDictionary] cd ∧
    (∃ text, cd.field? "candidate" = some (.str text)) ∧
    NilOr (IsKind [.NSNumber, .NSString]) (cd.field? "sdpMLineIndex") ∧
    NilOr (IsKind [.NSString]) (cd.field? "sdpMid")

/-- What a message of each type has to hold. -/
def SignalTyped (peerConnection : Bool) (type : String) (json : Json) : Prop :=
  (type = "offer" → peerConnection = true →
    ∃ text, json.field? "sdp" = some (.str text)) ∧
  (type = "answer" → ∃ text, json.field? "sdp" = some (.str text)) ∧
  (type = "candidate" → CandidateTyped json)

variable {fields : List (String × Json)} {peerConnection : Bool} {json : Json}

theorem signalTyped_offer :
    SignalTyped peerConnection "offer" json ↔
      (peerConnection = true → ∃ text, json.field? "sdp" = some (.str text)) := by
  simp [SignalTyped]

theorem signalTyped_answer :
    SignalTyped peerConnection "answer" json ↔
      ∃ text, json.field? "sdp" = some (.str text) := by
  simp [SignalTyped]

theorem signalTyped_candidate :
    SignalTyped peerConnection "candidate" json ↔ CandidateTyped json := by
  simp [SignalTyped]

/-- Nothing is required of the other types. -/
theorem signalTyped_other {type : String} (notOffer : type ≠ "offer")
    (notAnswer : type ≠ "answer") (notCandidate : type ≠ "candidate") :
    SignalTyped peerConnection type json := by
  simp [SignalTyped, notOffer, notAnswer, notCandidate]

private theorem subscript_object (fields : List (String × Json)) (key : String) :
    objectForKeyedSubscript (some (.obj fields)) key = .ok ((Json.obj fields).field? key) :=
  rfl

theorem finishes_sessionDescription :
    Finishes (sessionDescription (.obj fields)) ↔
      ∃ text, (Json.obj fields).field? "sdp" = some (.str text) := by
  unfold sessionDescription
  rw [subscript_object, ok_bind]
  exact finishes_string _ _

/-- Without a dictionary in `candidate` there is no text for the constructor. -/
theorem finishes_decodeCandidate :
    Finishes (decodeCandidate (.obj fields)) ↔ CandidateTyped (.obj fields) := by
  unfold decodeCandidate CandidateTyped
  rw [subscript_object, ok_bind]
  generalize (Json.obj fields).field? "candidate" = cd
  rcases cd with _ | (_ | _ | _ | _ | _ | entries)
  case some.obj =>
    simp only [subscript_object, ok_bind, finishes_bind]
    constructor
    · rintro ⟨sdpMLineIndex, index, sdp, text, sdpMid, mid, -⟩
      refine ⟨_, rfl, by simp [IsKind, className], ?_, ?_, ?_⟩
      · exact (finishes_string _ _).mp ⟨sdp, text⟩
      · exact (finishes_intValue _).mp ⟨sdpMLineIndex, index⟩
      · exact (finishes_nullableString _ _).mp ⟨sdpMid, mid⟩
    · rintro ⟨cd, same, -, text, index, mid⟩
      obtain rfl := Option.some.inj same
      obtain ⟨sdpMLineIndex, index⟩ := (finishes_intValue _).mpr index
      obtain ⟨sdp, text⟩ := (finishes_string "sdp" _).mpr text
      obtain ⟨sdpMid, mid⟩ := (finishes_nullableString "sdpMid" _).mpr mid
      exact ⟨sdpMLineIndex, index, sdp, text, sdpMid, mid, finishes_ok _⟩
  all_goals
    refine iff_of_false (not_finishes_error _) ?_
    rintro ⟨cd, same, isDictionary, -⟩
    first
    | contradiction
    | obtain rfl := Option.some.inj same
      simp [IsKind, className] at isDictionary

/-- One round of `receiveSignal` finishes exactly on well-typed messages. -/
theorem finishes_receiveSignalMessage (endpoint : Endpoint) {type : String}
    (author : Option SocketId)
    (typed : (Json.obj fields).stringField? "type" = some type) :
    Finishes (endpoint.receiveSignalMessage peerConnection (.obj fields) author) ↔
      SignalTyped peerConnection type (.obj fields) := by
  have test : ∀ text, isEqual ((Json.obj fields).field? "type") text = true ↔ type = text := by
    intro text
    have same : ((Json.obj fields).field? "type").bind Json.string? = some type := typed
    simp [isEqual, same]
  unfold receiveSignalMessage
  simp only [subscript_object, ok_bind, test]
  -- Up to the device list no branch calls a constructor.
  by_cases isServer : type = "role" ∨ type = "peer_joined" ∨ type = "peer_left" ∨
      type = "error" ∨ type = "peers"
  · rcases isServer with rfl | rfl | rfl | rfl | rfl
    all_goals
      exact iff_of_true (finishes_ok _)
        (signalTyped_other (by decide) (by decide) (by decide))
  · simp only [not_or] at isServer
    obtain ⟨notRole, notJoined, notLeft, notError, notPeers⟩ := isServer
    rw [if_neg notRole, if_neg notJoined, if_neg notLeft, if_neg notError, if_neg notPeers]
    by_cases isOffer : type = "offer"
    · subst isOffer
      rw [if_pos rfl, signalTyped_offer]
      cases peerConnection with
      | false => exact iff_of_true (finishes_ok _) (by simp)
      | true =>
          simp only [if_true, true_implies, ← finishes_sessionDescription]
          exact finishes_bind_iff _ _ fun _ => finishes_ok _
    · rw [if_neg isOffer]
      by_cases isAnswer : type = "answer"
      · subst isAnswer
        rw [if_pos rfl, signalTyped_answer, ← finishes_sessionDescription]
        exact finishes_bind_iff _ _ fun _ => finishes_ok _
      · rw [if_neg isAnswer]
        by_cases isCandidate : type = "candidate"
        · subst isCandidate
          rw [if_pos rfl, signalTyped_candidate, ← finishes_decodeCandidate]
          exact finishes_bind_iff _ _ fun _ => finishes_ok _
        · rw [if_neg isCandidate]
          exact iff_of_true (finishes_ok _) (signalTyped_other isOffer isAnswer isCandidate)

/-! ## The messages of the server and of the clients -/

/-- A message that the server or a client of this class writes to a client. -/
inductive Written : Json → Prop
  | peers (peers : List Json) : Written (Server.peersMessage peers)
  | error (reason : String) : Written (Server.errorMessage reason)
  | offerer (selfIP : String) : Written (Server.offererMessage selfIP)
  | answerer (selfIP peerIP : String) : Written (Server.answererMessage selfIP peerIP)
  | peerJoined (peerIP : String) : Written (Server.peerJoinedMessage peerIP)
  | peerLeft : Written Server.peerLeftMessage
  | offer (sdp : String) : Written (offerMessage sdp)
  | answer (sdp : String) : Written (answerMessage sdp)
  | candidate (candidate : RTCIceCandidate)
      (isInt : -2 ^ 31 ≤ candidate.sdpMLineIndex ∧ candidate.sdpMLineIndex < 2 ^ 31) :
      Written (candidateMessage candidate)

/-- What is written is read without an exception, as the typed model reads it. -/
theorem receiveSignalMessage_written (endpoint : Endpoint) (author : Option SocketId)
    (written : Written json) :
    endpoint.receiveSignalMessage true json author =
      .ok (endpoint.receiveSignal json author) := by
  cases written with
  | candidate candidate isInt =>
      have exact : (integerPart candidate.sdpMLineIndex 0).bmod (2 ^ 32) =
          intValue (some (.num candidate.sdpMLineIndex 0)) := by
        simp only [integerPart, intValue, Int.pow_zero, Int.tdiv_one]
        exact Int.bmod_eq_of_le (by omega) (by omega)
      have decoded : decodeCandidate (candidateMessage candidate) =
          .ok ⟨candidate.sdp, (integerPart candidate.sdpMLineIndex 0).bmod (2 ^ 32),
            candidate.sdpMid⟩ :=
        rfl
      rw [exact] at decoded
      have read : endpoint.receiveSignalMessage true (candidateMessage candidate) author =
          (decodeCandidate (candidateMessage candidate)).map endpoint.receiveCandidate :=
        rfl
      rw [read, decoded]
      rfl
  | peers | error | offerer | answerer | peerJoined | peerLeft | offer | answer => rfl

/-! ## Decoding on both channels -/

/-- **Decoding finishes exactly on well-typed messages.** Take any state of the
client and any JSON value. As a text on the data channel it is handled without an
exception unless it is an offer whose `size` is neither absent nor a number and
that reaches a client without a transfer. As a relayed message it is handled
without an exception exactly when the fields that go into a constructor are
well typed: `sdp` of an offer or an answer, and the parts of a candidate. -/
theorem decoding_finishes_iff
    (client : RTCClient) (text : Option Json) (transfer : Option TransferId)
    (endpoint : Endpoint) (peerConnection : Bool) (type : String)
    (fields : List (String × Json)) (author : Option SocketId) :
    (Finishes (client.didReceiveText text transfer) ↔ client.OfferSized text) ∧
    (Finishes (endpoint.receiveSignalMessage peerConnection
        (.obj (("type", .str type) :: fields)) author) ↔
      SignalTyped peerConnection type (.obj (("type", .str type) :: fields))) :=
  ⟨client.finishes_didReceiveText text transfer,
    endpoint.finishes_receiveSignalMessage author rfl⟩

/-- An offer with the size `"12"` raises at an idle client, and so does a relayed
candidate whose `candidate` is a text. -/
theorem decoding_raises :
    (RTCClient.initial 0 "mac#001").didReceiveText
        (some (.obj [("t", .str "ft_offer"), ("name", .str "notes.txt"),
          ("size", .str "12")])) none =
      .error (.unrecognizedSelector .NSString "unsignedLongLongValue") ∧
    (Endpoint.initial 0 "mac#001").receiveSignalMessage true
        (.obj [("type", .str "candidate"), ("candidate", .str "candidate:1")]) (some 1) =
      .error (.unrecognizedSelector .NSString "objectForKeyedSubscript:") :=
  ⟨rfl, rfl⟩

end Endpoint

end WebrtcFileSender.Net
