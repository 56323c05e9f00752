import WebrtcFileSender.Net.Container

/-!
Contract: the device list of the send page and the table that shows it
(`HXSendViewController.m`).

The selection is an index into a list that is replaced, and the table's own
notifications write that index while it is.

Owns: `applyOnlinePeers:` and `tableViewSelectionDidChange:` with the table between
them, over lists of any JSON values; the law that a refresh keeps the selection by
its address and selects nothing by itself; and the agreement with the container's
view of the list.

Of the table it is assumed that a selection by row takes effect and notifies the
delegate when it is a change, and that a reload keeps a selection that is in range.
What a reload does with any other selection is left to the table.
-/

namespace WebrtcFileSender.Net

/-- What the table does when it is reloaded with a selection out of range: it
selects any row or none, and may notify the delegate, which reloads it again. -/
inductive StaleSelection where
  | silent (row : Option Nat)
  | notified (row : Option Nat) (again : StaleSelection)
deriving Repr

structure HXSendViewController where
  onlinePeers : List OnlinePeer
  /-- Absent for -1, as is `selectedRow`. -/
  selectedPeerRow : Option Nat
  suppressPeerSelectActions : Bool
  /-- `peersTableView.selectedRow`. -/
  selectedRow : Option Nat
  /-- The arguments of the `onSelectPeerIP` block so far. -/
  selectedIPs : List String
deriving Repr

namespace HXSendViewController

/-! ## The table -/

/-- The table's selection is one of its rows, or empty. -/
def SelectionInRange (page : HXSendViewController) : Prop :=
  ∀ row ∈ page.selectedRow, row < page.onlinePeers.length

instance (page : HXSendViewController) : Decidable page.SelectionInRange :=
  inferInstanceAs (Decidable (∀ row ∈ page.selectedRow, row < page.onlinePeers.length))

/-- `tableViewSelectionDidChange:` up to its reload of the table, which both of its
branches end with. -/
def takeSelection (page : HXSendViewController) : HXSendViewController :=
  let page := { page with selectedPeerRow := page.selectedRow }
  if page.suppressPeerSelectActions then page
  else
    match page.selectedRow.bind fun row => page.onlinePeers[row]? with
    | none => page
    | some peer => { page with selectedIPs := page.selectedIPs ++ [peer.ip] }

/-- `[peersTableView reloadData]`. -/
def reloadData (page : HXSendViewController) : StaleSelection → HXSendViewController
  | .silent row => if page.SelectionInRange then page else { page with selectedRow := row }
  | .notified row again =>
      if page.SelectionInRange then page
      else { page with selectedRow := row }.takeSelection.reloadData again

def tableViewSelectionDidChange (page : HXSendViewController) (stale : StaleSelection) :
    HXSendViewController :=
  page.takeSelection.reloadData stale

/-- `selectRowIndexes:byExtendingSelection:` with one row, and `deselectAll:`. -/
def selectRow (page : HXSendViewController) (row : Option Nat) (stale : StaleSelection) :
    HXSendViewController :=
  if page.selectedRow = row then page
  else { page with selectedRow := row }.tableViewSelectionDidChange stale

/-! ## The list -/

/-- One round of the loop over the objects of an update. -/
def normalized : Json → Option OnlinePeer
  | .obj fields =>
      let p := Json.obj fields
      let ip := (p.stringField? "ip").getD ""
      if ip = "" then none
      else
        let name := (p.stringField? "name").getD ""
        some ⟨ip, if name = "" then ip else name⟩
  | _ => none

/-- The loop that looks for the row of the address, from row `i` on. -/
def firstRow (prevIP : String) (i : Nat) : List OnlinePeer → Option Nat
  | [] => none
  | peer :: rest => if peer.ip = prevIP then some i else firstRow prevIP (i + 1) rest

def currentSelectedPeerIP (page : HXSendViewController) : Option String :=
  (page.selectedPeerRow.bind fun row => page.onlinePeers[row]?).bind fun peer =>
    if peer.ip = "" then none else some peer.ip

/-- How the table answers the three reloads of an update, should it hold a selection
out of range. -/
structure TableAnswers where
  beforeSelection : StaleSelection
  onSelection : StaleSelection
  afterSelection : StaleSelection

/-- `applyOnlinePeers:`. -/
def applyOnlinePeers (page : HXSendViewController) (peers : Option (List Json))
    (answers : TableAnswers) : HXSendViewController :=
  let prevIP := page.currentSelectedPeerIP
  let page := { page with onlinePeers := (peers.getD []).filterMap normalized }
  let newRow := prevIP.bind fun prevIP => firstRow prevIP 0 page.onlinePeers
  let page := { page with suppressPeerSelectActions := true }
  let page := page.reloadData answers.beforeSelection
  let page := { page with selectedPeerRow := newRow }
  let page := page.selectRow newRow answers.onSelection
  let page := page.reloadData answers.afterSelection
  { page with suppressPeerSelectActions := false }

/-! ## What the table leaves alone -/

variable {page : HXSendViewController}

theorem reloadData_inRange (inRange : page.SelectionInRange) (stale : StaleSelection) :
    page.reloadData stale = page := by
  cases stale with
  | silent row => rw [reloadData, if_pos inRange]
  | notified row again => rw [reloadData, if_pos inRange]

theorem takeSelection_suppressed (suppressed : page.suppressPeerSelectActions = true) :
    page.takeSelection = { page with selectedPeerRow := page.selectedRow } := by
  simp only [takeSelection, suppressed, if_true]

/-- A reload with the actions suppressed changes only the two selections. -/
theorem reloadData_suppressed (suppressed : page.suppressPeerSelectActions = true)
    (stale : StaleSelection) :
    (page.reloadData stale).onlinePeers = page.onlinePeers ∧
      (page.reloadData stale).suppressPeerSelectActions = true ∧
      (page.reloadData stale).selectedIPs = page.selectedIPs := by
  induction stale generalizing page with
  | silent row =>
      rw [reloadData]
      split
      case isTrue => exact ⟨rfl, suppressed, rfl⟩
      case isFalse => exact ⟨rfl, suppressed, rfl⟩
  | notified row again inductionHypothesis =>
      rw [reloadData]
      split
      case isTrue => exact ⟨rfl, suppressed, rfl⟩
      case isFalse =>
        have stillSuppressed :
            { page with selectedRow := row }.suppressPeerSelectActions = true := suppressed
        rw [takeSelection_suppressed stillSuppressed]
        exact inductionHypothesis suppressed

/-- The selection of a row of the list, with the actions suppressed and the page's
own row set before. -/
theorem selectRow_suppressed {row : Option Nat}
    (isRow : page.selectedPeerRow = row)
    (suppressed : page.suppressPeerSelectActions = true)
    (inRange : ∀ index ∈ row, index < page.onlinePeers.length) (stale : StaleSelection) :
    page.selectRow row stale = { page with selectedRow := row } := by
  unfold selectRow
  split
  case isTrue same => rw [← same]
  case isFalse =>
    have stillSuppressed :
        { page with selectedRow := row }.suppressPeerSelectActions = true := suppressed
    rw [tableViewSelectionDidChange, takeSelection_suppressed stillSuppressed, ← isRow]
    exact reloadData_inRange (by rw [isRow]; exact inRange) stale

/-! ## The row of an address -/

theorem firstRow_eq (prevIP : String) (i : Nat) (peers : List OnlinePeer) :
    firstRow prevIP i peers =
      (peers.findIdx? fun peer => peer.ip = prevIP).map fun index => index + i := by
  induction peers generalizing i with
  | nil => rfl
  | cons peer rest inductionHypothesis =>
      rw [firstRow, List.findIdx?_cons]
      by_cases isPeer : peer.ip = prevIP
      · simp [isPeer]
      · rw [if_neg isPeer, inductionHypothesis]
        simp [isPeer, Function.comp_def, Nat.add_comm, Nat.add_left_comm]

/-- The row of the previous address in a new list. -/
def rowOf (prevIP : Option String) (peers : List OnlinePeer) : Option Nat :=
  prevIP.bind fun prevIP => peers.findIdx? fun peer => peer.ip = prevIP

theorem rowOf_inRange {prevIP : Option String} {peers : List OnlinePeer} {row : Nat}
    (isRow : row ∈ rowOf prevIP peers) : row < peers.length := by
  obtain ⟨ip, -, found⟩ := Option.bind_eq_some_iff.mp isRow
  exact (List.findIdx?_eq_some_iff_findIdx_eq.mp found).1

/-! ## A refresh -/

/-- The three reloads and the selection of a row between them leave both selections
at that row. -/
theorem reselect (suppressed : page.suppressPeerSelectActions = true) (row : Option Nat)
    (inRange : ∀ index ∈ row, index < page.onlinePeers.length) (answers : TableAnswers) :
    (selectRow { page.reloadData answers.beforeSelection with selectedPeerRow := row } row
        answers.onSelection).reloadData answers.afterSelection =
      { page with selectedPeerRow := row, selectedRow := row } := by
  obtain ⟨sameList, stillSuppressed, sameCalls⟩ :=
    reloadData_suppressed suppressed answers.beforeSelection
  generalize page.reloadData answers.beforeSelection = reloaded at *
  have stillInRange : ∀ index ∈ row, index < reloaded.onlinePeers.length := by
    rw [sameList]
    exact inRange
  have isRow : HXSendViewController.selectedPeerRow
      { reloaded with selectedPeerRow := row } = row := rfl
  have settled : SelectionInRange
      { reloaded with selectedPeerRow := row, selectedRow := row } := stillInRange
  rw [selectRow_suppressed isRow stillSuppressed stillInRange answers.onSelection]
  calc reloadData { reloaded with selectedPeerRow := row, selectedRow := row }
        answers.afterSelection
      = { reloaded with selectedPeerRow := row, selectedRow := row } :=
        reloadData_inRange settled answers.afterSelection
    _ = { page with selectedPeerRow := row, selectedRow := row } := by
        rw [sameList, stillSuppressed, sameCalls, suppressed]

/-- `applyOnlinePeers:` as an update of the page: whatever the table answers, the
two selections are the row of the previous address, and no device is selected. -/
theorem applyOnlinePeers_eq (page : HXSendViewController) (peers : Option (List Json))
    (answers : TableAnswers) :
    page.applyOnlinePeers peers answers =
      { onlinePeers := (peers.getD []).filterMap normalized
        selectedPeerRow := rowOf page.currentSelectedPeerIP
          ((peers.getD []).filterMap normalized)
        suppressPeerSelectActions := false
        selectedRow := rowOf page.currentSelectedPeerIP
          ((peers.getD []).filterMap normalized)
        selectedIPs := page.selectedIPs } := by
  have isRow : (page.currentSelectedPeerIP.bind fun prevIP =>
      firstRow prevIP 0 ((peers.getD []).filterMap normalized)) =
        rowOf page.currentSelectedPeerIP ((peers.getD []).filterMap normalized) := by
    simp [rowOf, firstRow_eq]
  have reselected := reselect
    (show HXSendViewController.suppressPeerSelectActions
      { page with
        onlinePeers := (peers.getD []).filterMap normalized
        suppressPeerSelectActions := true } = true from rfl)
    (rowOf page.currentSelectedPeerIP ((peers.getD []).filterMap normalized))
    (fun index => rowOf_inRange) answers
  simp only [applyOnlinePeers, isRow, reselected]

/-! ## The selection over a run -/

/-- An object of an update names a device: it is a dictionary with a text that is
not empty for its address. -/
def namesDevice : Json → Bool
  | .obj fields => ((Json.obj fields).stringField? "ip").any (· ≠ "")
  | _ => false

/-- The device that such an object names; its name defaults to its address. -/
def namedDevice (object : Json) : OnlinePeer where
  ip := (object.stringField? "ip").getD ""
  name := ((object.stringField? "name").filter (· ≠ "")).getD
    ((object.stringField? "ip").getD "")

theorem normalized_of_names {object : Json} (names : namesDevice object = true) :
    normalized object = some (namedDevice object) := by
  cases object with
  | obj fields =>
      simp only [normalized, namesDevice, namedDevice] at names ⊢
      obtain ⟨ip, isText, nonempty⟩ := Option.any_eq_true _ _ |>.mp names
      rw [isText]
      cases (Json.obj fields).stringField? "name" with
      | none => simpa using nonempty
      | some name =>
          have given : ip ≠ "" := by simpa using nonempty
          by_cases unnamed : name = "" <;> simp [given, unnamed, Option.filter_some]
  | null | bool | num | str | arr => simp [namesDevice] at names

theorem normalized_of_not_names {object : Json} (names : namesDevice object = false) :
    normalized object = none := by
  cases object with
  | obj fields =>
      simp only [normalized, namesDevice] at names ⊢
      cases isText : (Json.obj fields).stringField? "ip" with
      | none => simp
      | some ip =>
          rw [isText] at names
          have empty : ip = "" := by simpa using names
          simp [empty]
  | null | bool | num | str | arr => rfl

theorem filterMap_normalized (objects : List Json) :
    objects.filterMap normalized = (objects.filter namesDevice).map namedDevice := by
  induction objects with
  | nil => rfl
  | cons object rest inductionHypothesis =>
      cases names : namesDevice object with
      | true => simp [normalized_of_names names, names, inductionHypothesis]
      | false => simp [normalized_of_not_names names, names, inductionHypothesis]

/-- What happens to the page: an update of the list, or the user's selection. -/
inductive ListInput where
  | applyOnlinePeers (peers : Option (List Json)) (answers : TableAnswers)
  | selectRow (row : Option Nat) (stale : StaleSelection)

/-- An update with the page before and after it. -/
structure Refresh where
  before : HXSendViewController
  peers : Option (List Json)
  after : HXSendViewController

/-- The updates among a sequence of inputs. -/
def refreshes (page : HXSendViewController) : List ListInput → List Refresh
  | [] => []
  | .applyOnlinePeers peers answers :: rest =>
      ⟨page, peers, page.applyOnlinePeers peers answers⟩ ::
        (page.applyOnlinePeers peers answers).refreshes rest
  | .selectRow row stale :: rest => (page.selectRow row stale).refreshes rest

/-- A refresh lists the devices that its objects name, keeps the selected address
if it is still listed, has the page and the table at its first row, and has called
no `onSelectPeerIP`. -/
structure Refresh.KeepsSelection (refresh : Refresh) : Prop where
  list : refresh.after.onlinePeers =
    ((refresh.peers.getD []).filter namesDevice).map namedDevice
  address : refresh.after.currentSelectedPeerIP =
    refresh.before.currentSelectedPeerIP.filter fun ip =>
      refresh.after.onlinePeers.any fun peer => peer.ip = ip
  row : refresh.after.selectedPeerRow =
    refresh.before.currentSelectedPeerIP.bind fun ip =>
      refresh.after.onlinePeers.findIdx? fun peer => peer.ip = ip
  table : refresh.after.selectedRow = refresh.after.selectedPeerRow
  silent : refresh.after.selectedIPs = refresh.before.selectedIPs

theorem currentSelectedPeerIP_ne_empty {ip : String}
    (selected : page.currentSelectedPeerIP = some ip) : ip ≠ "" := by
  obtain ⟨peer, -, isIP⟩ := Option.bind_eq_some_iff.mp selected
  split at isIP
  case isTrue => contradiction
  case isFalse nonempty =>
    rw [← Option.some.inj isIP]
    exact nonempty

/-- The selected address after a refresh is the one before, if it is listed. -/
theorem selected_after_refresh (page : HXSendViewController) (peers : List OnlinePeer) :
    ((rowOf page.currentSelectedPeerIP peers).bind fun row => peers[row]?).bind
        (fun peer => if peer.ip = "" then none else some peer.ip) =
      page.currentSelectedPeerIP.filter fun ip => peers.any fun peer => peer.ip = ip := by
  cases selected : page.currentSelectedPeerIP with
  | none => rfl
  | some ip =>
      have nonempty := currentSelectedPeerIP_ne_empty selected
      simp only [rowOf, Option.bind_some, Option.filter_some]
      cases found : peers.findIdx? fun peer => peer.ip = ip with
      | none =>
          have absent := List.findIdx?_eq_none_iff.mp found
          rw [Option.bind_none, Option.bind_none, if_neg]
          simpa using absent
      | some row =>
          obtain ⟨inRange, isIP, -⟩ := List.findIdx?_eq_some_iff_getElem.mp found
          have sameIP : peers[row].ip = ip := of_decide_eq_true isIP
          have listed : (peers.any fun peer => peer.ip = ip) = true := by
            rw [List.any_eq_true]
            exact ⟨peers[row], List.getElem_mem inRange, isIP⟩
          rw [if_pos listed]
          simp [inRange, sameIP, nonempty]

theorem keepsSelection (page : HXSendViewController) (peers : Option (List Json))
    (answers : TableAnswers) :
    Refresh.KeepsSelection ⟨page, peers, page.applyOnlinePeers peers answers⟩ := by
  have result := page.applyOnlinePeers_eq peers answers
  constructor
  case list =>
    rw [result]
    exact filterMap_normalized _
  case address =>
    rw [result]
    exact selected_after_refresh page _
  case row =>
    rw [result]
    rfl
  case table => rw [result]
  case silent => rw [result]

/-- **A refresh keeps the selection by identity**, from every page, after any
updates and selections by the user, and whatever the table answers. -/
theorem refresh_keeps_selection (page : HXSendViewController) (inputs : List ListInput) :
    ∀ refresh ∈ page.refreshes inputs, refresh.KeepsSelection := by
  induction inputs generalizing page with
  | nil => simp [refreshes]
  | cons input rest inductionHypothesis =>
      cases input with
      | applyOnlinePeers peers answers =>
          rw [refreshes, List.forall_mem_cons]
          exact ⟨page.keepsSelection peers answers, inductionHypothesis _⟩
      | selectRow row stale =>
          rw [refreshes]
          exact inductionHypothesis _

/-- A page whose second device is selected. -/
def selectedSecond : HXSendViewController where
  onlinePeers := [⟨"10.0.0.2", "a"⟩, ⟨"10.0.0.3", "b"⟩]
  selectedPeerRow := some 1
  suppressPeerSelectActions := false
  selectedRow := some 1
  selectedIPs := ["10.0.0.3"]

/-- An update that lists the selected device twice, from the first row on, between
a text, a device without an address and one without a name. -/
def movedUp : List Json :=
  [.str "x", .obj [("ip", .str "10.0.0.3"), ("name", .str "b")], .obj [("name", .str "c")],
    .obj [("ip", .str "10.0.0.4")], .obj [("ip", .str "10.0.0.3")]]

theorem refresh_keeps_selection_movedUp :
    Refresh.KeepsSelection
        ⟨selectedSecond, some movedUp, selectedSecond.applyOnlinePeers (some movedUp)
          ⟨.silent none, .silent none, .silent none⟩⟩ ∧
      (selectedSecond.applyOnlinePeers (some movedUp)
        ⟨.silent none, .silent none, .silent none⟩).selectedPeerRow = some 0 :=
  ⟨refresh_keeps_selection selectedSecond
      [.applyOnlinePeers (some movedUp) ⟨.silent none, .silent none, .silent none⟩] _
      List.mem_cons_self,
    by decide⟩

/-! ## The container's view -/

/-- An entry of the snapshot that `RTCClient` hands to its delegate. -/
def snapshot (peer : OnlinePeer) : Json :=
  .obj [("ip", .str peer.ip), ("name", .str peer.name), ("online", .bool true)]

/-- The container sees the list and the row of the page. -/
structure Shows (page : HXSendViewController) (device : Device) : Prop where
  list : device.onlinePeers = page.onlinePeers
  row : device.selectedPeerRow = page.selectedPeerRow

theorem normalized_snapshot (peer : OnlinePeer) :
    normalized (snapshot peer) =
      if peer.ip = "" then none
      else some ⟨peer.ip, if peer.name = "" then peer.ip else peer.name⟩ := by
  rfl

/-- The update of the container's list is the one of the page, with the table in
between; it calls no block, as the container's sends no signal. -/
theorem Shows.applyOnlinePeers {device : Device} (shows : page.Shows device)
    (peers : List OnlinePeer) (answers : TableAnswers) :
    (page.applyOnlinePeers (some (peers.map snapshot)) answers).Shows
        (device.applyOnlinePeers peers) ∧
      (page.applyOnlinePeers (some (peers.map snapshot)) answers).selectedIPs =
        page.selectedIPs ∧
      device.handle (.didUpdateOnlinePeers peers) = (device.applyOnlinePeers peers, []) := by
  have sameList : (peers.map snapshot).filterMap normalized =
      (device.applyOnlinePeers peers).onlinePeers := by
    rw [List.filterMap_map]
    exact List.filterMap_congr fun peer _ => normalized_snapshot peer
  have sameSelection : device.currentSelectedPeerIP = page.currentSelectedPeerIP := by
    simp only [Device.currentSelectedPeerIP, currentSelectedPeerIP, shows.list, shows.row]
  rw [page.applyOnlinePeers_eq]
  refine ⟨⟨sameList.symm, ?_⟩, rfl, rfl⟩
  simp only [Option.getD_some, sameList, ← sameSelection]
  rfl

/-- A row that the user selects is the container's selection, and the block is
called for its device. -/
theorem Shows.selectRow {device : Device} (shows : page.Shows device)
    (acting : page.suppressPeerSelectActions = false) {row : Option Nat}
    (inRange : ∀ index ∈ row, index < page.onlinePeers.length)
    (changed : page.selectedRow ≠ row) (stale : StaleSelection) :
    ∃ called, (page.selectRow row stale).selectedIPs = page.selectedIPs ++ called ∧
      (page.selectRow row stale).Shows { device with selectedPeerRow := row } ∧
      (device.tableViewSelectionDidChange row).2 =
        called.flatMap fun ip => (Device.onSelectPeerIP
          { device with selectedPeerRow := row } ip).2 := by
  have reloaded : page.selectRow row stale =
      HXSendViewController.takeSelection { page with selectedRow := row } := by
    rw [HXSendViewController.selectRow, if_neg changed, tableViewSelectionDidChange]
    apply reloadData_inRange
    intro index isRow
    have sameFields : (HXSendViewController.takeSelection
        { page with selectedRow := row }).onlinePeers = page.onlinePeers ∧
        (HXSendViewController.takeSelection { page with selectedRow := row }).selectedRow =
          row := by
      simp only [takeSelection]
      split
      · exact ⟨rfl, rfl⟩
      · split <;> exact ⟨rfl, rfl⟩
    rw [sameFields.2] at isRow
    rw [sameFields.1]
    exact inRange index isRow
  rw [reloaded]
  simp only [takeSelection, acting, Bool.false_eq_true, if_false,
    Device.tableViewSelectionDidChange, shows.list]
  cases row.bind fun row => page.onlinePeers[row]? with
  | none => exact ⟨[], by simp, ⟨rfl, rfl⟩, rfl⟩
  | some peer => exact ⟨[peer.ip], rfl, ⟨rfl, rfl⟩, by simp⟩

end HXSendViewController

end WebrtcFileSender.Net
