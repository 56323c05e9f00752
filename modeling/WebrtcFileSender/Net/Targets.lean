import WebrtcFileSender.Net.Candidates
import WebrtcFileSender.Net.Observation

/-!
Contract: the device that `onSend:` connects to.

Owns: the pair requests of `onSend:` with the selection at that moment, and the
condition on the pending device under which every request goes to the selected
one.
-/

namespace WebrtcFileSender.Net

/-- A pair request of `onSend:`: the key it names and the key of the row that is
selected. -/
structure SendRequest where
  targetIP : String
  selectedPeerIP : Option String
deriving DecidableEq, Repr

/-- The request goes to the selected device. -/
def SendRequest.ToSelected (request : SendRequest) : Prop :=
  request.selectedPeerIP = some request.targetIP

instance (request : SendRequest) : Decidable request.ToSelected :=
  inferInstanceAs (Decidable (_ = _))

namespace Device

/-- `onSend:` runs when Send is pressed, and when an open channel is reported while
an automatic send is pending. -/
def callsOnSend (device : Device) : Stimulus → Bool
  | .act .send => true
  | .act .runMain => device.openReported
  | .act _ | .signal _ _ => false

/-- The device as `onSend:` finds it. -/
def sending (device : Device) : Stimulus → Device
  | .act .runMain => device.clearPending
  | .act _ | .signal _ _ => device

/-- The pair request that a stimulus makes `onSend:` send. -/
def sendRequests (device : Device) (stimulus : Stimulus) : List SendRequest :=
  if device.callsOnSend stimulus then
    (device.sending stimulus).sendTarget.toList.map fun targetIP =>
      ⟨targetIP, (device.sending stimulus).currentSelectedPeerIP⟩
  else []

def request (device : Device) (stimulus : Stimulus) : Option (Device × List SendRequest) :=
  (device.stimulated stimulus).map fun next => (next, device.sendRequests stimulus)

/-- Nothing is pending when Send is pressed, or the selected device is. -/
def PendingIsSelected (device : Device) : Stimulus → Prop
  | .act .send =>
      device.sendableURL.isSome → device.isDataChannelOpen = false →
        ∀ ip, device.pendingPeerIP = some ip → ip ≠ "" →
          device.currentSelectedPeerIP = some ip
  | _ => True

end Device

/-- Runs of one client after `start`, with the pair requests of `onSend:`. -/
abbrev SendRun (clientId : Nat) (helloName : String)
    (guard : Device → Stimulus → Prop) :=
  Machine.Run Device.request guard (Device.initial clientId helloName)

namespace Device

variable {device next : Device} {stimulus : Stimulus} {requests : List SendRequest}

/-- The requests are the pair requests among the signals that the input sends. -/
theorem requestedKeys_of_onSend {input : Input} {signals : List Json}
    (stepped : device.step input = some (next, signals))
    (called : device.callsOnSend (.act input) = true) :
    signals.filterMap requestedKey? =
      (device.sendRequests (.act input)).map SendRequest.targetIP := by
  rw [requestedKeys_of_step stepped, sendRequests, if_pos called]
  cases input with
  | send =>
      simp [choice, sending, Function.comp_def]
  | runMain =>
      have reported : device.openReported = true := called
      simp [choice, sending, reported, Function.comp_def]
  | _ => simp [callsOnSend] at called

theorem sendTarget_eq {key : String} (target : device.sendTarget = some key) :
    device.sendableURL.isSome ∧
      (device.pendingPeerIP.or device.currentSelectedPeerIP) = some key := by
  unfold sendTarget at target
  split at target
  case isTrue => contradiction
  case isFalse able =>
    simp only [not_or, Option.isNone_iff_eq_none, ← Option.isSome_iff_ne_none] at able
    obtain ⟨targetIP, chosen, kept⟩ := Option.bind_eq_some_iff.mp target
    split at kept
    case isTrue => contradiction
    case isFalse =>
      rw [chosen]
      exact ⟨able.1, kept⟩

/-- With a device pending, that is the target. -/
theorem sendTarget_of_pending {ip : String}
    (pending : device.pendingPeerIP = some ip)
    (nonempty : ip ≠ "")
    (sendable : device.sendableURL.isSome)
    (notOpen : device.isDataChannelOpen = false) :
    device.sendTarget = some ip := by
  obtain ⟨url, isSendable⟩ := Option.isSome_iff_exists.mp sendable
  simp [sendTarget, isSendable, notOpen, pending, nonempty]

/-- Pressing Send asks for the selected device exactly if no other is pending. -/
theorem pendingIsSelected_iff_send (device : Device) :
    device.PendingIsSelected (.act .send) ↔
      ∀ request ∈ device.sendRequests (.act .send), request.ToSelected := by
  simp only [sendRequests, callsOnSend, sending, if_true, List.forall_mem_map,
    Option.mem_toList, SendRequest.ToSelected]
  constructor
  · intro selected key target
    obtain ⟨sendable, isKey⟩ := sendTarget_eq target
    cases pending : device.pendingPeerIP with
    | none =>
        rw [pending, Option.none_or] at isKey
        exact isKey
    | some ip =>
        rw [pending, Option.some_or] at isKey
        obtain rfl := Option.some.inj isKey
        exact selected sendable (sendTarget_spec target) ip pending (sendTarget_ne_empty target)
  · intro toSelected sendable notOpen ip pending nonempty
    exact toSelected ip (sendTarget_of_pending pending nonempty sendable notOpen)

/-- One step: any other request of `onSend:` goes to the selected device, since
what was pending is dropped before. -/
theorem pendingIsSelected_iff
    (stepped : device.request stimulus = some (next, requests)) :
    device.PendingIsSelected stimulus ↔ ∀ request ∈ requests, request.ToSelected := by
  simp only [request, Option.map_eq_some_iff, Prod.mk.injEq] at stepped
  obtain ⟨following, -, rfl, rfl⟩ := stepped
  cases stimulus with
  | signal => simp [PendingIsSelected, sendRequests, callsOnSend]
  | act input =>
      cases input with
      | send => exact device.pendingIsSelected_iff_send
      | runMain =>
          refine iff_of_true trivial ?_
          simp only [sendRequests]
          split
          case isTrue =>
            simp only [List.forall_mem_map, Option.mem_toList, sending]
            intro key target
            obtain ⟨-, isKey⟩ := sendTarget_eq target
            exact isKey
          case isFalse => simp
      | chooseFile | selectRow | refreshOnlinePeers | complete | generateIceCandidate
      | channelState | replacedChannelState | openDataChannel | transfer =>
          simp [PendingIsSelected, sendRequests, callsOnSend]

end Device

/-- Every pair request of `onSend:` goes to the selected device, and there is none
when no device is selected, exactly in the runs in which Send is pressed with no
other device pending. -/
theorem send_goes_to_selected_device_iff
    {clientId : Nat} {helloName : String}
    {stimuli : List Stimulus} {requests : List SendRequest} {final : Device}
    (run : SendRun clientId helloName Machine.free stimuli requests final) :
    (∀ request ∈ requests, request.ToSelected) ↔
      SendRun clientId helloName Device.PendingIsSelected stimuli requests final :=
  run.good_iff_guarded (fun _ => True) SendRequest.ToSelected trivial (fun _ _ => trivial)
    fun _ stepped => Device.pendingIsSelected_iff stepped

/-- A device list with the two keys. -/
def twoPeers : Json :=
  .obj [("type", .str "peers"), ("peers", .arr
    [.obj [("ip", .str "a:1"), ("name", .str "a")],
      .obj [("ip", .str "b:2"), ("name", .str "b")]])]

def chosenNotes : Selection :=
  ⟨.ofFile "notes.txt" ⟨[1, 2], File.bounded_notes⟩, false⟩

/-- A device is selected with a file, and Send is pressed while it is pending. -/
def pendingStimuli : List Stimulus :=
  [.signal twoPeers none, .act .runMain, .act (.chooseFile (some chosenNotes)),
    .act (.selectRow (some 0)), .act .send]

theorem send_goes_to_selected_device_iff_pending :
    ∃ requests final,
      SendRun 0 "mac#001" Device.PendingIsSelected pendingStimuli requests final ∧
        requests = [⟨"a:1", some "a:1"⟩] := by
  obtain ⟨final, requests, run, checked⟩ :
      ∃ final requests,
        SendRun 0 "mac#001" Machine.free pendingStimuli requests final ∧
          decide (requests = [⟨"a:1", some "a:1"⟩]) = true :=
    Machine.run_of_exec_any (fun (_ : Device) (requests : List SendRequest) =>
      decide (requests = [⟨"a:1", some "a:1"⟩])) (by decide)
  have asked : requests = [⟨"a:1", some "a:1"⟩] := of_decide_eq_true checked
  have toSelected : ∀ request ∈ requests, request.ToSelected := by
    rw [asked]
    decide
  exact ⟨requests, final, (send_goes_to_selected_device_iff run).mp toSelected, asked⟩

/-- The first device is chosen with a file; the file is cleared, the second device
is selected, the file is chosen again, and Send is pressed. -/
def reselectedStimuli : List Stimulus :=
  [.signal twoPeers none, .act .runMain, .act (.chooseFile (some chosenNotes)),
    .act (.selectRow (some 0)), .act (.chooseFile none), .act (.selectRow (some 1)),
    .act (.chooseFile (some chosenNotes)), .act .send]

/-- The row of `b:2` is selected and the pair request names `a:1`. -/
theorem send_goes_to_other_device :
    ∃ requests final,
      SendRun 0 "mac#001" Machine.free reselectedStimuli requests final ∧
        ⟨"a:1", some "b:2"⟩ ∈ requests ∧
        ¬ ∀ request ∈ requests, request.ToSelected := by
  obtain ⟨final, requests, run, checked⟩ :
      ∃ final requests,
        SendRun 0 "mac#001" Machine.free reselectedStimuli requests final ∧
          decide (⟨"a:1", some "b:2"⟩ ∈ requests) = true :=
    Machine.run_of_exec_any (fun (_ : Device) (requests : List SendRequest) =>
      decide (⟨"a:1", some "b:2"⟩ ∈ requests)) (by decide)
  have sent := of_decide_eq_true checked
  refine ⟨requests, final, run, sent, ?_⟩
  intro toSelected
  exact absurd (toSelected _ sent) (by decide)

end WebrtcFileSender.Net
