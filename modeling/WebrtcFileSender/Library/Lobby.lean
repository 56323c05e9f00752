import Mathlib.Data.List.Chain
import WebrtcFileSender.Library.Machine
import WebrtcFileSender.Library.Matching

/-!
Contract: a lobby, in which members who come and go are matched in pairs and are
told of it.

A member enters once, may turn away, and departs once. Two members that are
present and alone may be paired. A pair lasts until one of the two departs, and
then the other is alone again. Members that have not turned away are told when
they are paired and when their partner departs; the others are told nothing.

Owns: the lobby with its matching, the four moves and the notices they cause,
and the law of what a member has been told over a run.

Does not own: how partners are chosen.
-/

universe u

namespace Lobby

inductive Status where
  | absent
  | attentive
  | leaving
  | departed
deriving DecidableEq, Repr

/-- Entered and not departed. -/
def Status.Present (status : Status) : Prop :=
  status = .attentive ∨ status = .leaving

instance (status : Status) : Decidable status.Present := by
  unfold Status.Present
  infer_instance

@[simp] theorem absent_not_present : ¬ Status.absent.Present := by decide
@[simp] theorem attentive_present : Status.attentive.Present := by decide
@[simp] theorem leaving_present : Status.leaving.Present := by decide
@[simp] theorem departed_not_present : ¬ Status.departed.Present := by decide

/-- The members and their partners: a matching among the members that are
present. -/
structure State (ι : Type u) where
  status : ι → Status
  partner : ι → Option ι
  matching : MatchingUpTo partner (fun member => ¬ (status member).Present) fun _ => False

/-- `member` is told that it now has a partner, or that it has lost it. -/
structure Notice (ι : Type u) where
  member : ι
  paired : Bool
deriving DecidableEq, Repr

inductive Move (ι : Type u) where
  | enter (member : ι)
  | turnAway (member : ι)
  | depart (member : ι)
  | pair (left right : ι)
deriving DecidableEq, Repr

namespace State

variable {ι : Type u}

def empty : State ι where
  status := fun _ => .absent
  partner := fun _ => none
  matching :=
    { irreflexive := by simp
      injective := by simp
      symmetric := by simp
      departed_free := by simp }

/-- A notice reaches a member that has not turned away. -/
def tell (lobby : State ι) (member : ι) (paired : Bool) : List (Notice ι) :=
  if lobby.status member = .attentive then [⟨member, paired⟩] else []

/-- A member that is not present has no partner. -/
theorem partner_of_not_present (lobby : State ι) {member : ι}
    (notPresent : ¬ (lobby.status member).Present) :
    lobby.partner member = none :=
  lobby.matching.departed_free notPresent

/-- Partners point at each other. -/
theorem partner_symmetric (lobby : State ι) {left right : ι}
    (points : lobby.partner left = some right) :
    lobby.partner right = some left :=
  lobby.matching.points_back points id

variable [DecidableEq ι]

/-! ## Moves -/

def enter (lobby : State ι) (member : ι) (isAbsent : lobby.status member = .absent) :
    State ι where
  status := Function.update lobby.status member .attentive
  partner := Function.update lobby.partner member none
  matching := lobby.matching.enter_preserves
    (fun _ points => by
      have back := lobby.partner_symmetric points
      rw [lobby.partner_of_not_present (by simp [isAbsent])] at back
      contradiction)
    (fun other different => by rw [Function.update_of_ne different])
    (fun _ _ => Iff.rfl)

def turnAway (lobby : State ι) (member : ι) (isAttentive : lobby.status member = .attentive) :
    State ι where
  status := Function.update lobby.status member .leaving
  partner := lobby.partner
  matching := by
    have presentSame : ∀ other,
        (Function.update lobby.status member .leaving other).Present ↔
          (lobby.status other).Present := by
      intro other
      by_cases same : other = member
      · subst same
        simp [isAttentive]
      · rw [Function.update_of_ne same]
    simpa only [presentSame] using lobby.matching

def depart (lobby : State ι) (member : ι) : State ι where
  status := Function.update lobby.status member .departed
  partner := MatchingUpTo.depart lobby.partner member (lobby.partner member)
  matching := lobby.matching.depart_preserves (fun _ => id) (fun _ => .inl)
    (fun other => by
      by_cases same : other = member
      · subst same
        simp
      · rw [Function.update_of_ne same]
        simp [same])
    (fun _ => id)

/-- Two members that may be paired: both are present and alone. -/
structure Pairable (lobby : State ι) (left right : ι) : Prop where
  distinct : left ≠ right
  leftPresent : (lobby.status left).Present
  rightPresent : (lobby.status right).Present
  leftAlone : lobby.partner left = none
  rightAlone : lobby.partner right = none

instance (lobby : State ι) (left right : ι) : Decidable (lobby.Pairable left right) :=
  decidable_of_iff
    (left ≠ right ∧ (lobby.status left).Present ∧ (lobby.status right).Present ∧
      lobby.partner left = none ∧ lobby.partner right = none)
    ⟨fun ⟨distinct, leftPresent, rightPresent, leftAlone, rightAlone⟩ =>
        ⟨distinct, leftPresent, rightPresent, leftAlone, rightAlone⟩,
      fun pairable => ⟨pairable.distinct, pairable.leftPresent, pairable.rightPresent,
        pairable.leftAlone, pairable.rightAlone⟩⟩

def pair (lobby : State ι) (left right : ι) (pairable : lobby.Pairable left right) :
    State ι where
  status := lobby.status
  partner := MatchingUpTo.bind lobby.partner left right
  matching := lobby.matching.bind_preserves pairable.distinct pairable.leftAlone
    pairable.rightAlone (not_not_intro pairable.leftPresent)
    (not_not_intro pairable.rightPresent)

def step (lobby : State ι) : Move ι → Option (State ι × List (Notice ι))
  | .enter member =>
      if isAbsent : lobby.status member = .absent then some (lobby.enter member isAbsent, [])
      else none
  | .turnAway member =>
      if isAttentive : lobby.status member = .attentive then
        some (lobby.turnAway member isAttentive, [])
      else none
  | .depart member =>
      if lobby.status member = .leaving then
        some (lobby.depart member,
          (lobby.partner member).toList.flatMap fun other => lobby.tell other false)
      else none
  | .pair left right =>
      if pairable : lobby.Pairable left right then
        some (lobby.pair left right pairable, lobby.tell left true ++ lobby.tell right true)
      else none

/-- Runs from the empty lobby. -/
abbrev LobbyRun := Machine.Run (step (ι := ι)) Machine.free empty

/-! ## What a member is told -/

/-- What `member` has been told, in order. -/
def told (member : ι) (history : List (Notice ι)) : List Bool :=
  history.filterMap fun notice => if notice.member = member then some notice.paired else none

theorem told_append (member : ι) (earlier later : List (Notice ι)) :
    told member (earlier ++ later) = told member earlier ++ told member later := by
  simp [told]

theorem told_tell (lobby : State ι) (member other : ι) (paired : Bool) :
    told member (lobby.tell other paired) =
      if other = member ∧ lobby.status member = .attentive then [paired] else [] := by
  unfold tell
  by_cases same : other = member
  · subst same
    by_cases isAttentive : lobby.status other = .attentive <;> simp [told, isAttentive]
  · by_cases isAttentive : lobby.status other = .attentive <;> simp [told, isAttentive, same]

/-- What one move tells a member: whether it now has a partner, when that changed and
the member has not turned away. -/
def newsOf (before after : Option ι) (attentive : Prop) [Decidable attentive] : List Bool :=
  if attentive ∧ after.isSome ≠ before.isSome then [after.isSome] else []

theorem told_depart (lobby : State ι) (departing member : ι)
    (isLeaving : lobby.status departing = .leaving) :
    told member ((lobby.partner departing).toList.flatMap fun other =>
        lobby.tell other false) =
      newsOf (lobby.partner member) ((lobby.depart departing).partner member)
        (lobby.status member = .attentive) := by
  cases paired : lobby.partner departing with
  | none =>
      by_cases same : member = departing
      · subst same
        simp [told, newsOf, isLeaving]
      · simp [told, newsOf, depart, paired, MatchingUpTo.depart, Function.update_of_ne same]
  | some other =>
      have back := lobby.partner_symmetric paired
      simp only [Option.toList_some, List.flatMap_singleton, told_tell]
      by_cases isOther : member = other
      · subst isOther
        simp [newsOf, depart, paired, MatchingUpTo.depart, back]
      · rw [if_neg fun both => isOther both.1.symm]
        by_cases same : member = departing
        · subst same
          simp [newsOf, isLeaving]
        · simp [newsOf, depart, paired, MatchingUpTo.depart, Function.update_of_ne same,
            Function.update_of_ne isOther]

theorem told_pair (lobby : State ι) {left right : ι} (pairable : lobby.Pairable left right)
    (member : ι) :
    told member (lobby.tell left true ++ lobby.tell right true) =
      newsOf (lobby.partner member) ((lobby.pair left right pairable).partner member)
        (lobby.status member = .attentive) := by
  rw [told_append, told_tell, told_tell]
  by_cases isLeft : member = left
  · subst isLeft
    simp [newsOf, pair, MatchingUpTo.bind_left _ pairable.distinct, pairable.leftAlone,
      pairable.distinct.symm]
  · by_cases isRight : member = right
    · subst isRight
      simp [newsOf, pair, MatchingUpTo.bind_right, pairable.rightAlone, pairable.distinct]
    · simp [newsOf, pair, MatchingUpTo.bind_other _ isLeft isRight, Ne.symm isLeft,
        Ne.symm isRight]

/-- **The step lemma**: a move informs every member that listens of what changed for
it. A member becomes attentive only by entering, without a partner. -/
theorem told_step {lobby next : State ι} {move : Move ι} {notices : List (Notice ι)}
    (stepped : lobby.step move = some (next, notices)) (member : ι) :
    told member notices =
        newsOf (lobby.partner member) (next.partner member)
          (lobby.status member = .attentive) ∧
      (next.status member = .absent → lobby.status member = .absent) ∧
      (next.status member = .attentive → lobby.status member = .attentive ∨
        (lobby.status member = .absent ∧ next.partner member = none)) := by
  cases move with
  | enter entering =>
      simp only [step, Option.dite_none_right_eq_some, Option.some.injEq,
        Prod.mk.injEq] at stepped
      obtain ⟨isAbsent, rfl, rfl⟩ := stepped
      by_cases same : member = entering
      · subst same
        simp [enter, told, newsOf, isAbsent]
      · refine ⟨by simp [enter, told, newsOf, Function.update_of_ne same],
          by simp [enter, Function.update_of_ne same], fun isAttentive => .inl ?_⟩
        simpa [enter, Function.update_of_ne same] using isAttentive
  | turnAway leaving =>
      simp only [step, Option.dite_none_right_eq_some, Option.some.injEq,
        Prod.mk.injEq] at stepped
      obtain ⟨isAttentive, rfl, rfl⟩ := stepped
      by_cases same : member = leaving
      · subst same
        simp [turnAway, told, newsOf]
      · refine ⟨by simp [turnAway, told, newsOf],
          by simp [turnAway, Function.update_of_ne same], fun isAttentive => .inl ?_⟩
        simpa [turnAway, Function.update_of_ne same] using isAttentive
  | depart departing =>
      simp only [step, Option.ite_none_right_eq_some, Option.some.injEq,
        Prod.mk.injEq] at stepped
      obtain ⟨isLeaving, rfl, rfl⟩ := stepped
      refine ⟨lobby.told_depart departing member isLeaving, ?_⟩
      by_cases same : member = departing
      · subst same
        simp [depart]
      · refine ⟨by simp [depart, Function.update_of_ne same], fun isAttentive => .inl ?_⟩
        simpa [depart, Function.update_of_ne same] using isAttentive
  | pair left right =>
      simp only [step, Option.dite_none_right_eq_some, Option.some.injEq,
        Prod.mk.injEq] at stepped
      obtain ⟨pairable, rfl, rfl⟩ := stepped
      exact ⟨lobby.told_pair pairable member, id, .inl⟩

/-! ## What a member has been told -/

/-- The news of one member: it is first told of a partner, then of loss and partner
in turn, and one that has not turned away is up to date. -/
structure UpToDate (news : List Bool) (status : Status) (partner : Option ι) : Prop where
  alternates : news.IsChain (· ≠ ·)
  starts : news.head? ≠ some false
  fresh : status = .absent → news = []
  current : status = .attentive → (news.getLast? = some true ↔ partner.isSome = true)

namespace UpToDate

variable {news : List Bool} {status : Status} {partner partner' : Option ι}

omit [DecidableEq ι] in
/-- A change of partner that an attentive member is told of keeps the law. -/
theorem notified (upToDate : UpToDate news status partner)
    (isAttentive : status = .attentive)
    (changed : partner'.isSome ≠ partner.isSome) :
    UpToDate (news ++ [partner'.isSome]) status partner' := by
  have current := upToDate.current isAttentive
  refine ⟨?_, ?_, ?_, ?_⟩
  · refine List.isChain_append.mpr ⟨upToDate.alternates, .singleton _, ?_⟩
    intro last isLast first isFirst
    obtain rfl : partner'.isSome = first := by simpa using isFirst
    rintro rfl
    rw [Option.mem_def] at isLast
    cases before : partner.isSome <;> simp_all
  · cases news with
    | nil =>
        have alone : partner.isSome = false := by simpa using current
        simpa [alone] using changed
    | cons first rest => simpa using upToDate.starts
  · simp [isAttentive]
  · simp

end UpToDate

/-- Every move keeps every member up to date. -/
theorem upToDate_step {lobby next : State ι} {move : Move ι} {history notices : List (Notice ι)}
    {member : ι}
    (upToDate : UpToDate (told member history) (lobby.status member) (lobby.partner member))
    (stepped : lobby.step move = some (next, notices)) :
    UpToDate (told member (history ++ notices)) (next.status member) (next.partner member) := by
  obtain ⟨news, absentBefore, attentiveBefore⟩ := told_step stepped member
  rw [told_append, news]
  unfold newsOf
  split
  case isTrue informed =>
    obtain ⟨isAttentive, changed⟩ := informed
    have grown := upToDate.notified isAttentive changed
    refine ⟨grown.alternates, grown.starts, fun isAbsent => ?_, fun _ =>
      grown.current isAttentive⟩
    rw [absentBefore isAbsent] at isAttentive
    contradiction
  case isFalse uninformed =>
    rw [List.append_nil]
    refine ⟨upToDate.alternates, upToDate.starts, fun isAbsent =>
      upToDate.fresh (absentBefore isAbsent), fun isAttentive => ?_⟩
    rcases attentiveBefore isAttentive with wasAttentive | ⟨wasAbsent, alone⟩
    · have same : (next.partner member).isSome = (lobby.partner member).isSome := by
        by_contra changed
        exact uninformed ⟨wasAttentive, changed⟩
      rw [same]
      exact upToDate.current wasAttentive
    · rw [upToDate.fresh wasAbsent, alone]
      simp

/-- **Every member stays up to date** over every run. -/
theorem upToDate_of_run {moves : List (Move ι)} {notices : List (Notice ι)} {lobby : State ι}
    (run : LobbyRun moves notices lobby) (member : ι) :
    UpToDate (told member notices) (lobby.status member) (lobby.partner member) :=
  run.invariant
    (fun history lobby =>
      UpToDate (told member history) (lobby.status member) (lobby.partner member))
    ⟨.nil, by simp [told], fun _ => rfl, by simp [empty]⟩
    fun upToDate _ stepped => upToDate_step upToDate stepped

end State

end Lobby
