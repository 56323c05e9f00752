import WebrtcFileSender.Net.AutoSend
import WebrtcFileSender.Net.Observation

/-!
Contract: what becomes of a pair request, and when the `onSelectPeerIP` block may
keep silent because of one.

The container keeps silent about a device while it waits for it. It learns of the
end of that wait from the channel only, not from the answers of the server.

Owns: the requests of every client with their outcomes, the condition on the
server's answers under which a client that waits has a request that stands, and
the law for the selection of a device.
-/

namespace WebrtcFileSender.Net

open Signaling

/-- What has become of a pair request: it is on its way to the server, the server
has granted it, it has been refused, or the pair has ended. -/
inductive Outcome where
  | requested
  | granted (target : SocketId)
  | refused
  | left
deriving DecidableEq, Repr

/-- An outcome for the client `ws` and the device with the key. -/
structure Attempt where
  ws : SocketId
  key : String
  outcome : Outcome
deriving DecidableEq, Repr

/-- The latest outcome for a client and a device. -/
def lastOutcome (attempts : List Attempt) (ws : SocketId) (key : String) : Option Outcome :=
  (attempts.filter fun attempt => attempt.ws = ws ∧ attempt.key = key).getLast?.map
    Attempt.outcome

theorem lastOutcome_append (earlier fresh : List Attempt) (ws : SocketId) (key : String) :
    lastOutcome (earlier ++ fresh) ws key =
      (lastOutcome fresh ws key).or (lastOutcome earlier ws key) := by
  simp only [lastOutcome, List.filter_append, List.getLast?_append, Option.map_or]

theorem lastOutcome_of_silent {attempts : List Attempt} {ws : SocketId} {key : String}
    (silent : ∀ attempt ∈ attempts, ¬ (attempt.ws = ws ∧ attempt.key = key)) :
    lastOutcome attempts ws key = none := by
  have nothing : attempts.filter (fun attempt => attempt.ws = ws ∧ attempt.key = key) = [] := by
    rw [List.filter_eq_nil_iff]
    intro attempt member
    simpa using silent attempt member
  rw [lastOutcome, nothing]
  rfl

theorem lastOutcome_append_silent {earlier fresh : List Attempt} {ws : SocketId}
    {key : String}
    (silent : ∀ attempt ∈ fresh, ¬ (attempt.ws = ws ∧ attempt.key = key)) :
    lastOutcome (earlier ++ fresh) ws key = lastOutcome earlier ws key := by
  rw [lastOutcome_append, lastOutcome_of_silent silent, Option.none_or]

theorem lastOutcome_append_single (earlier : List Attempt) (ws : SocketId) (key : String)
    (outcome : Outcome) :
    lastOutcome (earlier ++ [⟨ws, key, outcome⟩]) ws key = some outcome := by
  rw [lastOutcome_append]
  simp [lastOutcome]

namespace Device

variable {device next : Device} {input : Input} {signals : List Json}

theorem onSend_onlinePeers (device : Device) :
    device.onSend.1.onlinePeers = device.onlinePeers := by
  rcases device.onSend_cases with same | ⟨client, sent, -⟩ | ⟨key, -, connects⟩
  · rw [same]
  · rw [sent]
    rfl
  · rw [connects]
    rfl

theorem handle_listed (device : Device) (call : DelegateCall)
    (listed : ∀ peer ∈ device.onlinePeers, peer.ip ≠ "") :
    ∀ peer ∈ (device.handle call).1.onlinePeers, peer.ip ≠ "" := by
  cases call with
  | didUpdateOnlinePeers peers =>
      intro peer isListed
      obtain ⟨given, -, isNormal⟩ := List.mem_filterMap.mp isListed
      split at isNormal
      case isTrue => contradiction
      case isFalse nonempty =>
        obtain rfl := Option.some.inj isNormal
        exact nonempty
  | dataChannelStateDidChange state =>
      simp only [handle, dataChannelStateDidChange]
      split
      · rw [onSend_onlinePeers]
        exact listed
      · exact listed
  | didReceivePeerName | fileReceiveOffered | fileReceiveProgress | fileSendProgress
  | fileTransferDidFinish => exact listed

theorem handleAll_listed (device : Device) (calls : List DelegateCall)
    (listed : ∀ peer ∈ device.onlinePeers, peer.ip ≠ "") :
    ∀ peer ∈ (device.handleAll calls).1.onlinePeers, peer.ip ≠ "" := by
  induction calls generalizing device with
  | nil => exact listed
  | cons call rest inductionHypothesis =>
      exact inductionHypothesis (device.handle call).1 (device.handle_listed call listed)

/-- A device without a key is never listed. -/
theorem listed_of_step
    (stepped : device.step input = some (next, signals))
    (listed : ∀ peer ∈ device.onlinePeers, peer.ip ≠ "") :
    ∀ peer ∈ next.onlinePeers, peer.ip ≠ "" := by
  cases input with
  | chooseFile | refreshOnlinePeers | generateIceCandidate | replacedChannelState =>
      simp only [step, Option.some.injEq, Prod.mk.injEq] at stepped
      obtain ⟨rfl, -⟩ := stepped
      exact listed
  | selectRow row =>
      simp only [step, Option.some.injEq] at stepped
      have same : (device.tableViewSelectionDidChange row).1.onlinePeers =
          device.onlinePeers := by
        unfold tableViewSelectionDidChange
        dsimp only
        split
        · rfl
        · unfold onSelectPeerIP
          split <;> rfl
      rw [stepped] at same
      rw [same]
      exact listed
  | send =>
      simp only [step, Option.some.injEq] at stepped
      have same := device.onSend_onlinePeers
      rw [stepped] at same
      rw [same]
      exact listed
  | runMain =>
      simp only [step, runMain, Option.map_eq_some_iff, Prod.exists] at stepped
      obtain ⟨client, calls, -, handled⟩ := stepped
      have kept := handleAll_listed (device.withClient client) calls listed
      have result : ((device.withClient client).handleAll calls).1 = next :=
        congrArg Prod.fst handled
      rw [result] at kept
      exact kept
  | complete index result =>
      simp only [step, Option.map_eq_some_iff, Prod.exists, Prod.mk.injEq] at stepped
      obtain ⟨endpoint, sent, -, rfl, -⟩ := stepped
      exact listed
  | channelState | openDataChannel =>
      simp only [step] at stepped
      split at stepped
      case isFalse => contradiction
      case isTrue =>
        simp only [Option.some.injEq, Prod.mk.injEq] at stepped
        obtain ⟨rfl, -⟩ := stepped
        exact listed
  | transfer given =>
      simp only [step] at stepped
      split at stepped
      case isFalse => contradiction
      case isTrue =>
        simp only [Option.map_eq_some_iff, Prod.exists, Prod.mk.injEq] at stepped
        obtain ⟨client, calls, -, rfl, -⟩ := stepped
        exact listed

end Device

namespace System

/-- The outcomes that an action brings about. -/
def attempts (system : System) : Action → List Attempt
  | .act ws input =>
      ((system.device ws).choice input).toList.map fun key => ⟨ws, key, .requested⟩
  | .process ws =>
      match (system.uplink ws).head? with
      | none => []
      | some message =>
          (requestedKey? message).toList.map fun key =>
            ⟨ws, key, (granted system.server ws message).elim .refused .granted⟩
  | .server (.close ws) =>
      (system.server.pairPartner ws).toList.flatMap fun partner =>
        [⟨ws, system.server.clientIP partner, .left⟩,
          ⟨partner, system.server.clientIP ws, .left⟩]
  | .server _ | .receive _ => []

def attempted (system : System) (action : Action) : Option (System × List Attempt) :=
  (system.step action).map fun (next, _) => (next, system.attempts action)

/-- The client waits for the device, so that its selection is suppressed. -/
def Waits (system : System) (ws : SocketId) (key : String) : Prop :=
  (system.device ws).pendingAutoSend = true ∧ (system.device ws).pendingPeerIP = some key

instance (system : System) (ws : SocketId) (key : String) : Decidable (system.Waits ws key) :=
  inferInstanceAs (Decidable (_ ∧ _))

/-- A client does not wait for a device when the server refuses a pair request for
it, nor when the server's pair of the two ends. -/
def Answers (system : System) : Action → Prop
  | .process ws => ∀ message ∈ (system.uplink ws).head?, ∀ key ∈ requestedKey? message,
      system.Waits ws key → (granted system.server ws message).isSome
  | .server (.close ws) => ∀ partner ∈ system.server.pairPartner ws,
      ¬ system.Waits ws (system.server.clientIP partner) ∧
        ¬ system.Waits partner (system.server.clientIP ws)
  | .server _ | .act _ _ | .receive _ => True

instance (system : System) : (action : Action) → Decidable (system.Answers action)
  | .process ws => inferInstanceAs (Decidable (∀ message ∈ (system.uplink ws).head?,
      ∀ key ∈ requestedKey? message,
        system.Waits ws key → (granted system.server ws message).isSome))
  | .server (.close ws) => inferInstanceAs (Decidable
      (∀ partner ∈ system.server.pairPartner ws,
        ¬ system.Waits ws (system.server.clientIP partner) ∧
          ¬ system.Waits partner (system.server.clientIP ws)))
  | .server (.connection _ _) | .server (.message _ _) | .server (.closing _)
  | .server (.timeout _) | .act _ _ | .receive _ => .isTrue trivial

end System

/-- Runs of the whole system with the outcomes of the pair requests. -/
abbrev AttemptRun (helloName : SocketId → String) (guard : System → Action → Prop) :=
  Machine.Run System.attempted guard (System.initial helloName)

namespace System

variable {system following : System} {action : Action} {fresh : List Attempt}

theorem effect_of_attempted
    (stepped : system.attempted action = some (following, fresh)) :
    Effect system action following (system.serverOutputs action) ∧
      fresh = system.attempts action := by
  simp only [attempted, Option.map_eq_some_iff, Prod.exists, Prod.mk.injEq] at stepped
  obtain ⟨result, events, stepped, rfl, rfl⟩ := stepped
  exact ⟨(effect_of_step stepped).1, rfl⟩

/-! ## The outcomes are those of the code -/

/-- A pair request is granted as `granted` says, or answered with an error. -/
theorem answer_of_request {server next : Server} {ws : SocketId} {message : Json}
    {key : String} {outputs : List Output}
    (requested : requestedKey? message = some key)
    (stepped : server.step (.message ws (some message)) = some (next, outputs)) :
    (∃ target, granted server ws message = some target ∧
        server.validTarget ws message = some target ∧ next = (server.grant ws target).1) ∨
      (granted server ws message = none ∧ next = server ∧
        ∃ reason, outputs = server.send ws (Server.errorMessage reason) .server) := by
  have asked : message.stringField? "type" = some "pair_request" := by
    unfold requestedKey? at requested
    split at requested
    case isTrue asked => exact asked
    case isFalse => contradiction
  simp only [Server.step] at stepped
  split at stepped
  case isTrue => contradiction
  case isFalse =>
    have result := Option.some.inj stepped
    simp only [Server.onMessage, asked, if_true, Server.onPairRequest] at result
    cases valid : server.validTarget ws message with
    | none =>
        rw [valid] at result
        obtain ⟨rfl, rfl⟩ := Prod.mk.inj result
        exact .inr ⟨by simp [granted, valid], rfl, _, rfl⟩
    | some target =>
        rw [valid] at result
        dsimp only at result
        split at result
        case isTrue busy =>
          obtain ⟨rfl, rfl⟩ := Prod.mk.inj result
          refine .inr ⟨?_, rfl, _, rfl⟩
          rcases busy with taken | targetTaken
          · simp [granted, Option.ne_none_iff_isSome.mpr taken]
          · simp [granted, valid, Option.ne_none_iff_isSome.mpr targetTaken]
        case isFalse free =>
          simp only [not_or, Bool.not_eq_true, Option.isSome_eq_false_iff,
            Option.isNone_iff_eq_none] at free
          refine .inl ⟨target, by simp [granted, asked, valid, free.1, free.2], rfl, ?_⟩
          exact (congrArg Prod.fst result).symm

/-- Only the close of one of the two ends a pair. -/
theorem pair_kept {server next : Server} {event : Server.Event} {outputs : List Output}
    (invariant : PairingInvariant server)
    (stepped : server.step event = some (next, outputs))
    {ws partner : SocketId} (paired : server.pairPartner ws = some partner) :
    next.pairPartner ws = some partner ∨
      ∃ leaving, event = .close leaving ∧
        (leaving = ws ∨ server.pairPartner leaving = some ws) := by
  cases Server.effect_of_step stepped with
  | connected =>
      have old : ws ≠ server.connected := by
        rintro rfl
        have absent := invariant.unconnected (Nat.le_refl server.connected)
        rw [invariant.matching.departed_free absent] at paired
        contradiction
      exact .inl (by simpa [Server.onConnection, Function.update_of_ne old] using paired)
  | granted requester target p alive isTarget alone targetAlone =>
      have notRequester : ws ≠ requester := by
        rintro rfl
        rw [paired] at alone
        contradiction
      have notTarget : ws ≠ target := by
        rintro rfl
        rw [paired] at targetAlone
        contradiction
      exact .inl (by simpa [Server.grant, Function.update_of_ne notTarget,
        Function.update_of_ne notRequester] using paired)
  | refused | listed | ignored | relayed | closing | fired => exact .inl paired
  | closed leaving =>
      by_cases self : leaving = ws
      · exact .inr ⟨leaving, rfl, .inl self⟩
      · by_cases pointed : server.pairPartner leaving = some ws
        · exact .inr ⟨leaving, rfl, .inr pointed⟩
        · rw [Server.onClose_eq]
          have notInformed : some ws ≠ server.informedPartner leaving := by
            intro informed
            exact pointed (Option.filter_eq_some_iff.mp informed.symm).1
          exact .inl ((MatchingUpTo.depart_other (Ne.symm self) notInformed).trans paired)

/-! ## The invariant -/

/-- The outcome leaves room to wait for the device: a request for it is on its way,
or the pair that the server made still stands. -/
def Stands (system : System) (ws : SocketId) (key : String) : Outcome → Prop
  | .requested => ∃ message ∈ system.uplink ws, requestedKey? message = some key
  | .granted target =>
      system.server.pairPartner ws = some target ∧ system.server.clientIP target = key
  | .refused | .left => False

/-- A client that waits has a request that stands, and lists only devices with a
key. -/
structure SuppressionInvariant (attempts : List Attempt) (system : System) : Prop where
  pairing : PairingInvariant system.server
  listed : ∀ ws, ∀ peer ∈ (system.device ws).onlinePeers, peer.ip ≠ ""
  stands : ∀ ws key, system.Waits ws key →
    ∃ outcome, lastOutcome attempts ws key = some outcome ∧ system.Stands ws key outcome

namespace SuppressionInvariant

variable {attempts : List Attempt}

theorem initial (helloName : SocketId → String) :
    SuppressionInvariant [] (System.initial helloName) where
  pairing := .initial
  listed := by simp [System.initial, Device.initial]
  stands := by simp [Waits, System.initial, Device.initial]

/-- What stands is kept by a step of the server that does not end its pair. -/
theorem stands_kept
    (invariant : SuppressionInvariant attempts system)
    {event : Server.Event} {next : Server} {outputs : List Output}
    (stepped : system.server.step event = some (next, outputs))
    (sameServer : following.server = next)
    {ws : SocketId} {key : String} {outcome : Outcome}
    (stands : system.Stands ws key outcome)
    (sameUplink : ∀ message ∈ system.uplink ws, requestedKey? message = some key →
      message ∈ following.uplink ws)
    (stays : ∀ target, outcome = .granted target → ∀ leaving, event = .close leaving →
      leaving ≠ ws ∧ system.server.pairPartner leaving ≠ some ws) :
    following.Stands ws key outcome := by
  cases outcome with
  | requested =>
      obtain ⟨message, inFlight, names⟩ := stands
      exact ⟨message, sameUplink message inFlight names, names⟩
  | granted target =>
      obtain ⟨paired, isKey⟩ := stands
      rw [Stands, sameServer, Server.clientIP_step (invariant.pairing.known paired) stepped]
      refine ⟨?_, isKey⟩
      rcases pair_kept invariant.pairing stepped paired with kept | ⟨leaving, isClose, ends⟩
      · exact kept
      · obtain ⟨notSelf, notPartner⟩ := stays target rfl leaving isClose
        exact absurd ends (not_or.mpr ⟨notSelf, notPartner⟩)
  | refused => exact stands
  | left => exact stands

/-- An event of a socket: whoever waits is not concerned when a pair ends. -/
theorem served
    (invariant : SuppressionInvariant attempts system)
    {event : Server.Event} {next : Server} {outputs : List Output}
    (answers : system.Answers (.server event))
    (stepped : system.server.step event = some (next, outputs)) :
    SuppressionInvariant (attempts ++ system.attempts (.server event))
      (system.served next outputs) := by
  refine ⟨invariant.pairing.step stepped, invariant.listed, ?_⟩
  intro ws key waits
  have waited : system.Waits ws key := waits
  obtain ⟨outcome, isLast, stands⟩ := invariant.stands ws key waited
  refine ⟨outcome, ?_, ?_⟩
  · rw [lastOutcome_append_silent, isLast]
    cases event with
    | close leaving =>
        simp only [System.attempts, List.mem_flatMap, Option.mem_toList, List.mem_cons,
          List.not_mem_nil, or_false]
        rintro attempt ⟨partner, paired, rfl | rfl⟩ ⟨rfl, rfl⟩
        · exact (answers partner paired).1 waited
        · exact (answers partner paired).2 waited
    | connection | message | closing | timeout => simp [System.attempts]
  · have sameServer : (system.served next outputs).server = next := rfl
    refine invariant.stands_kept stepped sameServer stands
      (fun message inFlight _ => inFlight) ?_
    rintro target rfl leaving rfl
    obtain ⟨paired, rfl⟩ := stands
    constructor
    · rintro rfl
      exact (answers target paired).1 waited
    · intro pointed
      rcases invariant.pairing.matching.symmetric pointed with back | ⟨departed, -⟩
      · obtain rfl := Option.some.inj (back.symm.trans paired)
        exact (answers ws pointed).2 waited
      · have isNone : system.server.pairPartner ws = none :=
          invariant.pairing.matching.departed_free departed
        rw [paired] at isNone
        contradiction

/-- The server handles a message: a pair request of a client that waits for the
device it names is granted. -/
theorem processed
    (invariant : SuppressionInvariant attempts system)
    {sender : SocketId} {message : Json} {rest : List Json} {next : Server}
    {outputs : List Output}
    (answers : system.Answers (.process sender))
    (queue : system.uplink sender = message :: rest)
    (stepped : system.server.step (.message sender (some message)) = some (next, outputs)) :
    SuppressionInvariant (attempts ++ system.attempts (.process sender))
      ({ system with uplink := Function.update system.uplink sender rest }.served next
        outputs) := by
  refine ⟨invariant.pairing.step stepped, invariant.listed, ?_⟩
  intro ws key waits
  have waited : system.Waits ws key := waits
  obtain ⟨outcome, isLast, stands⟩ := invariant.stands ws key waited
  have isHead : (system.uplink sender).head? = some message := by rw [queue]; rfl
  have fresh : system.attempts (.process sender) =
      (requestedKey? message).toList.map fun key =>
        ⟨sender, key, (granted system.server sender message).elim .refused .granted⟩ := by
    simp only [System.attempts, isHead]
  by_cases named : ws = sender ∧ requestedKey? message = some key
  · obtain ⟨rfl, names⟩ := named
    have isGranted := answers message isHead key names waited
    rcases answer_of_request names stepped with
      ⟨target, grants, valid, rfl⟩ | ⟨refused, -⟩
    · refine ⟨.granted target, ?_, ?_⟩
      · rw [fresh, names, grants]
        exact lastOutcome_append_single attempts ws key (.granted target)
      · obtain ⟨distinct, -, isKey⟩ := invariant.pairing.validTarget_spec valid
        have sameKey : message.stringField? "targetIP" = some key := by
          unfold requestedKey? at names
          split at names
          case isTrue => exact names
          case isFalse => contradiction
        refine ⟨?_, Option.some.inj (isKey.symm.trans sameKey)⟩
        simp [System.served, Server.grant, Function.update_of_ne (Ne.symm distinct)]
    · rw [refused] at isGranted
      contradiction
  · refine ⟨outcome, ?_, ?_⟩
    · rw [lastOutcome_append_silent, isLast]
      rw [fresh]
      simp only [List.mem_map, Option.mem_toList]
      rintro attempt ⟨other, names, rfl⟩ ⟨rfl, rfl⟩
      exact named ⟨rfl, names⟩
    · refine invariant.stands_kept stepped rfl stands ?_ (by simp)
      intro request inFlight names
      simp only [System.served]
      by_cases own : ws = sender
      · subst own
        rw [queue] at inFlight
        rw [Function.update_self]
        rcases List.mem_cons.mp inFlight with rfl | later
        · exact absurd ⟨rfl, names⟩ named
        · exact later
      · rw [Function.update_of_ne own]
        exact inFlight

/-- A client acts: it waits for a device as before, or has just sent a request. -/
theorem acted
    (invariant : SuppressionInvariant attempts system)
    {sender : SocketId} {input : Input} {next : Device} {signals : List Json}
    (stepped : (system.device sender).step input = some (next, signals)) :
    SuppressionInvariant (attempts ++ system.attempts (.act sender input))
      (system.acted sender next signals) := by
  have keys := Device.requestedKeys_of_step stepped
  refine ⟨invariant.pairing, ?_, ?_⟩
  · intro ws peer isListed
    simp only [System.acted] at isListed
    by_cases own : ws = sender
    · subst own
      rw [Function.update_self] at isListed
      exact Device.listed_of_step stepped (invariant.listed ws) peer isListed
    · rw [Function.update_of_ne own] at isListed
      exact invariant.listed ws peer isListed
  · intro ws key waits
    by_cases own : ws = sender
    · subst own
      have atWs : (system.acted ws next signals).device ws = next := Function.update_self ..
      have uplink : (system.acted ws next signals).uplink ws = system.uplink ws ++ signals :=
        Function.update_self ..
      rw [Waits, atWs] at waits
      obtain ⟨pending, isKey⟩ := waits
      by_cases chosen : (system.device ws).choice input = some key
      · refine ⟨.requested, ?_, ?_⟩
        · simp only [System.attempts, chosen, Option.toList_some, List.map_cons, List.map_nil]
          exact lastOutcome_append_single attempts ws key .requested
        · have sent : key ∈ signals.filterMap requestedKey? := by
            rw [keys, chosen]
            exact List.mem_singleton_self key
          obtain ⟨message, isSignal, names⟩ := List.mem_filterMap.mp sent
          refine ⟨message, ?_, names⟩
          rw [uplink]
          exact List.mem_append_right _ isSignal
      · have waited : system.Waits ws key := by
          rcases (Device.change_of_step stepped).pending pending with
            ⟨wasPending, same⟩ | ⟨other, isChoice, isPending, -⟩
          · exact ⟨wasPending, same.symm.trans isKey⟩
          · obtain rfl := Option.some.inj (isPending.symm.trans isKey)
            exact absurd isChoice chosen
        obtain ⟨outcome, isLast, stands⟩ := invariant.stands ws key waited
        refine ⟨outcome, ?_, ?_⟩
        · rw [lastOutcome_append_silent, isLast]
          simp only [System.attempts, List.mem_map, Option.mem_toList]
          rintro attempt ⟨other, isChoice, rfl⟩ ⟨-, rfl⟩
          exact chosen isChoice
        · cases outcome with
          | requested =>
              obtain ⟨message, inFlight, names⟩ := stands
              refine ⟨message, ?_, names⟩
              rw [uplink]
              exact List.mem_append_left _ inFlight
          | granted | refused | left => exact stands
    · have sameDevice : (system.acted sender next signals).device ws = system.device ws :=
        Function.update_of_ne own ..
      have sameUplink : (system.acted sender next signals).uplink ws = system.uplink ws :=
        Function.update_of_ne own ..
      have waited : system.Waits ws key := by
        rw [Waits, sameDevice] at waits
        exact waits
      obtain ⟨outcome, isLast, stands⟩ := invariant.stands ws key waited
      refine ⟨outcome, ?_, ?_⟩
      · rw [lastOutcome_append_silent, isLast]
        simp only [System.attempts, List.mem_map, Option.mem_toList]
        rintro attempt ⟨other, -, rfl⟩ ⟨rfl, -⟩
        exact own rfl
      · cases outcome with
        | requested =>
            rw [Stands, sameUplink]
            exact stands
        | granted | refused | left => exact stands

/-- A client reads a signal, which the container does not see. -/
theorem received
    (invariant : SuppressionInvariant attempts system)
    (ws : SocketId) (message : Json) (origin : Origin) (rest : List (Json × Origin)) :
    SuppressionInvariant attempts (system.received ws message origin rest) := by
  have sameFields : ∀ other,
      ((system.received ws message origin rest).device other).pendingAutoSend =
          (system.device other).pendingAutoSend ∧
        ((system.received ws message origin rest).device other).pendingPeerIP =
          (system.device other).pendingPeerIP ∧
        ((system.received ws message origin rest).device other).onlinePeers =
          (system.device other).onlinePeers := by
    intro other
    simp only [System.received]
    by_cases own : other = ws
    · subst own
      rw [Function.update_self]
      exact ⟨rfl, rfl, rfl⟩
    · rw [Function.update_of_ne own]
      exact ⟨rfl, rfl, rfl⟩
  refine ⟨invariant.pairing, ?_, ?_⟩
  · intro other peer isListed
    rw [(sameFields other).2.2] at isListed
    exact invariant.listed other peer isListed
  · intro other key waits
    rw [Waits, (sameFields other).1, (sameFields other).2.1] at waits
    obtain ⟨outcome, isLast, stands⟩ := invariant.stands other key waits
    refine ⟨outcome, isLast, ?_⟩
    cases outcome with
    | requested | granted | refused | left => exact stands

theorem step
    (invariant : SuppressionInvariant attempts system)
    (answers : system.Answers action)
    (stepped : system.attempted action = some (following, fresh)) :
    SuppressionInvariant (attempts ++ fresh) following := by
  obtain ⟨effect, rfl⟩ := effect_of_attempted stepped
  cases effect with
  | served event next outputs notMessage serverStepped =>
      exact invariant.served answers serverStepped
  | processed ws message rest next outputs queue serverStepped =>
      exact invariant.processed answers queue serverStepped
  | received ws message origin rest =>
      rw [System.attempts, List.append_nil]
      exact invariant.received ws message origin rest
  | acted ws input next signals known deviceStepped => exact invariant.acted deviceStepped

end SuppressionInvariant

/-! ## The selection of a device -/

/-- A device that is selected with a file and without a channel is sent a pair
request, unless the latest outcome for it is a request on its way to the server or
a pair that stands there. -/
def SelectionSound (attempts : List Attempt) (system : System) : Prop :=
  ∀ ws row peer, (system.device ws).onlinePeers[row]? = some peer →
    (system.device ws).sendableURL.isSome → (system.device ws).isDataChannelOpen = false →
    (∃ signal ∈ ((system.device ws).tableViewSelectionDidChange (some row)).2,
        requestedKey? signal = some peer.ip) ∨
      ∃ outcome, lastOutcome attempts ws peer.ip = some outcome ∧
        system.Stands ws peer.ip outcome

theorem SuppressionInvariant.selectionSound {attempts : List Attempt}
    (invariant : SuppressionInvariant attempts system) :
    SelectionSound attempts system := by
  intro ws row peer isListed sendable notOpen
  by_cases waits : system.Waits ws peer.ip
  · exact .inr (invariant.stands ws peer.ip waits)
  · left
    have nonempty := invariant.listed ws peer (List.mem_of_getElem? isListed)
    have notSuppressed : ¬ ((system.device ws).pendingAutoSend = true ∧
        (system.device ws).pendingPeerIP = some peer.ip ∧
        (system.device ws).isDataChannelOpen = false) := by
      rintro ⟨pending, isKey, -⟩
      exact waits ⟨pending, isKey⟩
    have isTarget : (system.device ws).selectTarget peer.ip = some peer.ip := by
      rw [Device.selectTarget, if_neg nonempty, if_neg notSuppressed, if_neg, if_neg]
      · simp [notOpen]
      · simpa [Option.isSome_iff_ne_none] using sendable
    have keys : ((system.device ws).tableViewSelectionDidChange (some row)).2.filterMap
        requestedKey? = [peer.ip] := by
      have stepped : (system.device ws).step (.selectRow (some row)) =
          some ((system.device ws).tableViewSelectionDidChange (some row)) := rfl
      exact (Device.requestedKeys_of_step stepped).trans
        (by simp [Device.choice, isListed, isTarget])
    apply List.mem_filterMap.mp
    rw [keys]
    exact List.mem_singleton_self peer.ip

/-- Where no client waits for a device when a pair request for it is refused or its
pair ends, every selection that is passed over has a request or a pair that stands. -/
theorem suppression_is_sound
    {helloName : SocketId → String} {actions : List Action} {attempts : List Attempt}
    {system : System}
    (run : AttemptRun helloName Answers actions attempts system) :
    SelectionSound attempts system := by
  have invariant : SuppressionInvariant attempts system :=
    run.invariant SuppressionInvariant (.initial helloName)
      fun holds answers stepped => holds.step answers stepped
  exact invariant.selectionSound

/-- The first client selects the second, and its request is granted. -/
def grantedRun : List Action :=
  gathered ++ [.act 0 (.selectRow (some 0)), .process 0]

theorem suppression_is_sound_granted :
    ∃ attempts system,
      AttemptRun (fun _ => "mac#001") Answers grantedRun attempts system ∧
        SelectionSound attempts system := by
  obtain ⟨system, attempts, run, -⟩ :
      ∃ system attempts,
        AttemptRun (fun _ => "mac#001") Answers grantedRun attempts system ∧ true = true :=
    Machine.run_of_exec_any (fun (_ : System) (_ : List Attempt) => true) (by decide)
  exact ⟨attempts, system, run, suppression_is_sound run⟩

/-- The third client is paired with the second; the first selects the second, is
refused as busy, reads the answer, and deselects the second. -/
def busyRun : List Action :=
  gathered ++ [.act 2 (.selectRow (some 1)), .process 2, .act 0 (.selectRow (some 0)),
    .process 0, .receive 0, .act 0 (.selectRow none)]

/-- After the refusal the selection of the device sends nothing any more. -/
theorem selection_suppressed_after_refusal :
    ∃ attempts system,
      AttemptRun (fun _ => "mac#001") Machine.free busyRun attempts system ∧
        (system.device 0).selectedPeerRow = none ∧
        lastOutcome attempts 0 "b:2" = some .refused ∧
        ¬ SelectionSound attempts system := by
  obtain ⟨system, attempts, run, checked⟩ :
      ∃ system attempts,
        AttemptRun (fun _ => "mac#001") Machine.free busyRun attempts system ∧
          decide ((system.device 0).selectedPeerRow = none ∧
            (system.device 0).onlinePeers[0]? = some (OnlinePeer.mk "b:2" "b:2") ∧
            (system.device 0).sendableURL.isSome ∧
            (system.device 0).isDataChannelOpen = false ∧
            ((system.device 0).tableViewSelectionDidChange (some 0)).2.isEmpty ∧
            lastOutcome attempts 0 "b:2" = some .refused) = true :=
    Machine.run_of_exec_any (fun (system : System) (attempts : List Attempt) =>
      decide ((system.device 0).selectedPeerRow = none ∧
        (system.device 0).onlinePeers[0]? = some (OnlinePeer.mk "b:2" "b:2") ∧
        (system.device 0).sendableURL.isSome ∧
        (system.device 0).isDataChannelOpen = false ∧
        ((system.device 0).tableViewSelectionDidChange (some 0)).2.isEmpty ∧
        lastOutcome attempts 0 "b:2" = some .refused)) (by decide)
  obtain ⟨notSelected, isListed, sendable, notOpen, silent, refused⟩ :=
    of_decide_eq_true checked
  refine ⟨attempts, system, run, notSelected, refused, ?_⟩
  intro sound
  rcases sound 0 0 ⟨"b:2", "b:2"⟩ isListed sendable notOpen with
    ⟨signal, sent, -⟩ | ⟨outcome, isLast, stands⟩
  · rw [List.isEmpty_iff.mp silent] at sent
    contradiction
  · obtain rfl := Option.some.inj (isLast.symm.trans refused)
    exact stands

end System

end WebrtcFileSender.Net
