import WebrtcFileSender.Client.Transfer
import WebrtcFileSender.Library.Foundation

/-!
Contract: text messages of the data channel on the wire.

Owns: the JSON texts that `sendControlJSON:` writes, the text branch of
`dataChannel:didReceiveMessageWithBuffer:` over any JSON value, the exact
condition under which it raises, and its agreement with the typed model on the
texts that a client writes.

`name`, `ip`, `role` and `reason` are tested with `isKindOfClass:` before they
are used; `size` is not.
-/

namespace WebrtcFileSender

open Foundation

/-- The text of a control message. -/
def Message.json? : Message → Option Json
  | .hello name ip role =>
      some (.obj [("t", .str "hello"), ("name", .str name), ("ip", .str ip),
        ("role", .str role)])
  | .ftOffer name size chunk =>
      some (.obj [("t", .str "ft_offer"), ("name", .str name), ("size", .num size 0),
        ("chunk", .num chunk 0)])
  | .ftAccept => some (.obj [("t", .str "ft_accept")])
  | .ftReject reason => some (.obj [("t", .str "ft_reject"), ("reason", .str reason)])
  | .ftCancel => some (.obj [("t", .str "ft_cancel")])
  | .ftDone => some (.obj [("t", .str "ft_done")])
  | .binary _ => none

namespace RTCClient

/-- The text branch of `dataChannel:didReceiveMessageWithBuffer:`. The text is
absent when it is not JSON; a value that is not a dictionary is ignored. -/
def didReceiveText (client : RTCClient) (text : Option Json)
    (transfer : Option TransferId) : Except Exception RTCClient :=
  match text with
  | some (.obj fields) => do
      let json : Object := some (.obj fields)
      let t ← objectForKeyedSubscript json "t"
      if isEqual t "hello" then
        let name ← objectForKeyedSubscript json "name"
        let ip ← objectForKeyedSubscript json "ip"
        let role ← objectForKeyedSubscript json "role"
        return client.receiveHello (stringOr name "Unknown") (stringOr ip "unknown")
          (stringOr role "")
      else if isEqual t "ft_offer" then
        if client.sendHandle.isSome ∨ client.recvHandle.isSome then
          return client.sendControlJSON (.ftReject "busy") transfer
        else
          let name ← objectForKeyedSubscript json "name"
          let size ← objectForKeyedSubscript json "size"
          let recvTotalBytes ← unsignedLongLongValue size
          return client.receiveOffer (stringOr name "file") recvTotalBytes transfer
      else if isEqual t "ft_accept" then return client.receiveAccept
      else if isEqual t "ft_reject" ∨ isEqual t "ft_cancel" then
        let reason ← objectForKeyedSubscript json "reason"
        return client.cleanupTransferWithError
          (some (rtcError 13 (stringOr reason "Cancelled/Rejected"))) transfer true
      else if isEqual t "ft_done" then
        return client.cleanupTransferWithError none transfer true
      else return client
  | _ => .ok client

/-- An offer that an idle client looks at has no size, or a number as its size. -/
def OfferSized (client : RTCClient) (text : Option Json) : Prop :=
  ∀ json, text = some json → json.stringField? "t" = some "ft_offer" →
    client.sendHandle = none → client.recvHandle = none →
      NilOr (IsKind [.NSNumber]) (json.field? "size")

private theorem subscript_dictionary (fields : List (String × Json)) (key : String) :
    objectForKeyedSubscript (some (.obj fields)) key = .ok ((Json.obj fields).field? key) :=
  rfl

private theorem finishes_offer (client : RTCClient) (fields : List (String × Json))
    (transfer : Option TransferId) :
    Finishes (do
      let name ← objectForKeyedSubscript (some (.obj fields)) "name"
      let size ← objectForKeyedSubscript (some (.obj fields)) "size"
      let recvTotalBytes ← unsignedLongLongValue size
      return client.receiveOffer (stringOr name "file") recvTotalBytes transfer) ↔
      NilOr (IsKind [.NSNumber]) ((Json.obj fields).field? "size") := by
  rw [← finishes_unsignedLongLongValue]
  simp only [subscript_dictionary, ok_bind]
  exact finishes_bind_iff _ _ fun _ => finishes_ok _

/-- The handler raises exactly on an offer with an ill-typed size that reaches a
client without a transfer. -/
theorem finishes_didReceiveText (client : RTCClient) (text : Option Json)
    (transfer : Option TransferId) :
    Finishes (client.didReceiveText text transfer) ↔ client.OfferSized text := by
  unfold didReceiveText
  split
  case h_1 fields =>
    have offers : isEqual ((Json.obj fields).field? "t") "ft_offer" = true ↔
        (Json.obj fields).stringField? "t" = some "ft_offer" := by
      simp [isEqual, Json.stringField?]
    -- Outside the offer branch nothing raises and nothing is required.
    have harmless : ∀ {computation : Except Exception RTCClient},
        Finishes computation →
        (isEqual ((Json.obj fields).field? "t") "ft_offer" = false ∨
          client.sendHandle.isSome ∨ client.recvHandle.isSome) →
        (Finishes computation ↔ client.OfferSized (some (.obj fields))) := by
      intro computation finishes unread
      refine iff_of_true finishes ?_
      intro json same isOffer noSend noReceive
      obtain rfl := Option.some.inj same
      rcases unread with other | sending | receiving
      · rw [offers.mpr isOffer] at other
        contradiction
      · rw [noSend] at sending
        contradiction
      · rw [noReceive] at receiving
        contradiction
    simp only [subscript_dictionary, ok_bind]
    split
    case isTrue greets =>
      apply harmless (finishes_ok _)
      left
      simp only [isEqual, beq_iff_eq] at greets
      simp [isEqual, greets]
    case isFalse =>
      split
      case isFalse other =>
        have notOffer := Bool.eq_false_iff.mpr other
        split
        case isTrue => exact harmless (finishes_ok _) (.inl notOffer)
        case isFalse =>
          split
          case isTrue => exact harmless (finishes_ok _) (.inl notOffer)
          case isFalse =>
            split
            case isTrue => exact harmless (finishes_ok _) (.inl notOffer)
            case isFalse => exact harmless (finishes_ok _) (.inl notOffer)
      case isTrue isOffer =>
        split
        case isTrue busy => exact harmless (finishes_ok _) (.inr busy)
        case isFalse idle =>
          simp only [not_or, Bool.not_eq_true, Option.isSome_eq_false_iff,
            Option.isNone_iff_eq_none] at idle
          refine Iff.trans (finishes_offer client fields transfer) ?_
          constructor
          · intro sized json same _ _ _
            obtain rfl := Option.some.inj same
            exact sized
          · intro sized
            exact sized _ rfl (offers.mp isOffer) idle.1 idle.2
  case h_2 notDictionary =>
    refine iff_of_true (finishes_ok _) ?_
    rintro (_ | _ | _ | _ | _ | fields) same isOffer - -
    case obj => exact absurd same (notDictionary fields)
    all_goals contradiction

/-- What a client writes is read as the message it stands for. -/
theorem didReceiveText_json (client : RTCClient) {message : Message} {text : Json}
    (written : message.json? = some text) (transfer : Option TransferId)
    (outcome : WriteOutcome) :
    client.didReceiveText (some text) transfer =
      .ok (client.didReceiveMessage ⟨message, transfer⟩ outcome) := by
  cases message with
  | ftOffer name size chunk =>
      obtain rfl := Option.some.inj written
      have converted : (integerPart size 0 % 2 ^ 64).toNat = u64 size := by
        simp only [integerPart, Int.pow_zero, Int.tdiv_one, u64]
        omega
      have reduced : u64 (u64 size) = u64 size := Nat.mod_mod _ _
      have read : client.didReceiveText
            (some (.obj [("t", .str "ft_offer"), ("name", .str name), ("size", .num size 0),
              ("chunk", .num chunk 0)])) transfer =
          if client.sendHandle.isSome ∨ client.recvHandle.isSome then
            .ok (client.sendControlJSON (.ftReject "busy") transfer)
          else
            .ok (client.receiveOffer name (integerPart size 0 % 2 ^ 64).toNat transfer) :=
        rfl
      rw [read, converted]
      by_cases busy : client.sendHandle.isSome ∨ client.recvHandle.isSome
      · rw [if_pos busy]
        simp [didReceiveMessage, receiveOffer, busy]
      · rw [if_neg busy]
        simp [didReceiveMessage, receiveOffer, busy, reduced]
  | hello name ip role =>
      obtain rfl := Option.some.inj written
      rfl
  | ftReject reason =>
      obtain rfl := Option.some.inj written
      rfl
  | ftAccept | ftCancel | ftDone =>
      obtain rfl := Option.some.inj written
      rfl
  | binary => contradiction

end RTCClient

end WebrtcFileSender
