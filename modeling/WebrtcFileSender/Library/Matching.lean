import Mathlib.Logic.Function.Basic

/-!
Contract: partial matchings whose members leave at different times.

Every member points at no more than one partner. Two members that bind point at
each other. A member that departs drops its own pointer and, unless the partner
is itself on the way out, the partner's pointer too. So a pointer may dangle,
but only from a leaving member to a departed one.

Owns: the matching law up to departures, and its preservation by the four
operations on members: entering, binding, starting to leave, departing.
-/

universe u

variable {α : Type u}

/-- `partner` is a matching, except that a leaving member may still point at a
departed one. -/
structure MatchingUpTo (partner : α → Option α) (departed leaving : α → Prop) :
    Prop where
  irreflexive : ∀ a, partner a ≠ some a
  injective : ∀ {a b c}, partner a = some c → partner b = some c → a = b
  symmetric : ∀ {a b}, partner a = some b →
    partner b = some a ∨ (departed b ∧ leaving a)
  departed_free : ∀ {a}, departed a → partner a = none

namespace MatchingUpTo

variable {partner : α → Option α} {departed leaving departed' leaving' : α → Prop}

/-- A member pointed at by somebody who is not leaving points back. -/
theorem points_back
    (matching : MatchingUpTo partner departed leaving)
    {a b : α}
    (points : partner a = some b)
    (stays : ¬ leaving a) :
    partner b = some a :=
  (matching.symmetric points).resolve_right fun dangling => stays dangling.2

/-- A present member without a partner is nobody's partner. -/
theorem not_pointed_at
    (matching : MatchingUpTo partner departed leaving)
    {a b : α}
    (alone : partner b = none)
    (present : ¬ departed b) :
    partner a ≠ some b := by
  intro points
  rcases matching.symmetric points with back | dangling
  · rw [alone] at back
    cases back
  · exact present dangling.1

/-- More members may start to leave at any time. -/
theorem leave_preserves
    (matching : MatchingUpTo partner departed leaving)
    (more : ∀ a, leaving a → leaving' a) :
    MatchingUpTo partner departed leaving' where
  irreflexive := matching.irreflexive
  injective := matching.injective
  symmetric := fun points =>
    (matching.symmetric points).imp_right fun dangling => ⟨dangling.1, more _ dangling.2⟩
  departed_free := matching.departed_free

variable [DecidableEq α]

/-- Bind two members to each other. -/
def bind (partner : α → Option α) (a b : α) : α → Option α :=
  Function.update (Function.update partner a (some b)) b (some a)

theorem bind_left (partner : α → Option α) {a b : α} (distinct : a ≠ b) :
    bind partner a b a = some b := by
  simp [bind, distinct]

theorem bind_right (partner : α → Option α) (a b : α) :
    bind partner a b b = some a := by
  simp [bind]

theorem bind_other (partner : α → Option α) {a b c : α}
    (notLeft : c ≠ a) (notRight : c ≠ b) :
    bind partner a b c = partner c := by
  simp [bind, notLeft, notRight]

/-- Binding two present members without partners keeps the law. -/
theorem bind_preserves
    (matching : MatchingUpTo partner departed leaving)
    {a b : α}
    (distinct : a ≠ b)
    (leftAlone : partner a = none) (rightAlone : partner b = none)
    (leftPresent : ¬ departed a) (rightPresent : ¬ departed b) :
    MatchingUpTo (bind partner a b) departed leaving := by
  -- Every pointer of the new matching is one of the two new ones or an old one
  -- that touches neither end.
  have pointer : ∀ {x y}, bind partner a b x = some y →
      (x = a ∧ y = b) ∨ (x = b ∧ y = a) ∨
        (partner x = some y ∧ x ≠ a ∧ x ≠ b ∧ y ≠ a ∧ y ≠ b) := by
    intro x y points
    by_cases isRight : x = b
    · subst isRight
      rw [bind_right] at points
      exact .inr (.inl ⟨rfl, (Option.some.inj points).symm⟩)
    by_cases isLeft : x = a
    · subst isLeft
      rw [bind_left partner distinct] at points
      exact .inl ⟨rfl, (Option.some.inj points).symm⟩
    rw [bind_other partner isLeft isRight] at points
    refine .inr (.inr ⟨points, isLeft, isRight, ?_, ?_⟩)
    · rintro rfl
      exact matching.not_pointed_at leftAlone leftPresent points
    · rintro rfl
      exact matching.not_pointed_at rightAlone rightPresent points
  constructor
  · intro x points
    rcases pointer points with ⟨rfl, same⟩ | ⟨rfl, same⟩ | ⟨old, -⟩
    · exact distinct same
    · exact distinct same.symm
    · exact matching.irreflexive x old
  · intro x y z left right
    rcases pointer left with ⟨rfl, rfl⟩ | ⟨rfl, rfl⟩ | ⟨leftOld, -, -, notA, notB⟩ <;>
      rcases pointer right with ⟨rfl, same⟩ | ⟨rfl, same⟩ | ⟨rightOld, -, -, notA', notB'⟩
    · rfl
    · exact absurd same.symm distinct
    · exact absurd rfl notB'
    · exact absurd same distinct
    · rfl
    · exact absurd rfl notA'
    · exact absurd same notB
    · exact absurd same notA
    · exact matching.injective leftOld rightOld
  · intro x y points
    rcases pointer points with ⟨rfl, rfl⟩ | ⟨rfl, rfl⟩ | ⟨old, notA, notB, notA', notB'⟩
    · exact .inl (bind_right partner x y)
    · exact .inl (bind_left partner distinct)
    · rw [bind_other partner notA' notB']
      exact matching.symmetric old
  · intro x gone
    have notA : x ≠ a := fun same => leftPresent (same ▸ gone)
    have notB : x ≠ b := fun same => rightPresent (same ▸ gone)
    rw [bind_other partner notA notB]
    exact matching.departed_free gone

/-- A member nobody points at, itself without a partner, may change its status
freely: this is how a new member enters. -/
theorem enter_preserves
    (matching : MatchingUpTo partner departed leaving)
    {fresh : α}
    (unseen : ∀ a, partner a ≠ some fresh)
    (departedSame : ∀ a, a ≠ fresh → (departed' a ↔ departed a))
    (leavingSame : ∀ a, a ≠ fresh → (leaving' a ↔ leaving a)) :
    MatchingUpTo (Function.update partner fresh none) departed' leaving' := by
  have pointer : ∀ {x y}, Function.update partner fresh none x = some y →
      x ≠ fresh ∧ y ≠ fresh ∧ partner x = some y := by
    intro x y points
    by_cases same : x = fresh
    · subst same
      simp at points
    rw [Function.update_of_ne same] at points
    refine ⟨same, ?_, points⟩
    rintro rfl
    exact unseen x points
  constructor
  · intro x points
    exact matching.irreflexive x (pointer points).2.2
  · intro x y z left right
    exact matching.injective (pointer left).2.2 (pointer right).2.2
  · intro x y points
    obtain ⟨xOld, yOld, old⟩ := pointer points
    rw [Function.update_of_ne yOld, departedSame y yOld, leavingSame x xOld]
    exact matching.symmetric old
  · intro x gone
    by_cases same : x = fresh
    · subst same
      simp
    · rw [Function.update_of_ne same]
      exact matching.departed_free ((departedSame x same).mp gone)

/-- The pointers after `a` departed: its own is dropped, and so is its partner's
when the partner is listed in `informed`. -/
def depart (partner : α → Option α) (a : α) (informed : Option α) : α → Option α :=
  match informed with
  | none => Function.update partner a none
  | some b => Function.update (Function.update partner a none) b none

/-- A pointer that survives a departure was there before and starts neither at
the departed member nor at the informed partner. -/
theorem depart_some
    {a : α} {informed : Option α} {x y : α}
    (points : depart partner a informed x = some y) :
    partner x = some y ∧ x ≠ a ∧ some x ≠ informed := by
  cases informed with
  | none =>
      by_cases same : x = a
      · subst same
        simp [depart] at points
      · rw [depart, Function.update_of_ne same] at points
        exact ⟨points, same, by simp⟩
  | some b =>
      by_cases told : x = b
      · subst told
        simp [depart] at points
      · by_cases same : x = a
        · subst same
          simp [depart, told] at points
        · rw [depart, Function.update_of_ne told, Function.update_of_ne same] at points
          exact ⟨points, same, by simpa using told⟩

theorem depart_other
    {a : α} {informed : Option α} {x : α}
    (notSelf : x ≠ a) (notTold : some x ≠ informed) :
    depart partner a informed x = partner x := by
  cases informed with
  | none => simp [depart, notSelf]
  | some b =>
      have notB : x ≠ b := by simpa using notTold
      simp [depart, notSelf, notB]

theorem depart_eq_some_iff
    {a : α} {informed : Option α} {x y : α} :
    depart partner a informed x = some y ↔
      partner x = some y ∧ x ≠ a ∧ some x ≠ informed := by
  refine ⟨depart_some, fun ⟨points, notSelf, notTold⟩ => ?_⟩
  rwa [depart_other notSelf notTold]

/-- A departing member that releases its partner, unless the partner is leaving
too, keeps the law. -/
theorem depart_preserves
    (matching : MatchingUpTo partner departed leaving)
    {a : α} {informed : Option α}
    (isPartner : ∀ b, informed = some b → partner a = some b)
    (released : ∀ b, partner a = some b → informed = some b ∨ leaving b)
    (departedNow : ∀ x, departed' x ↔ departed x ∨ x = a)
    (leavingNow : ∀ x, leaving x → leaving' x) :
    MatchingUpTo (depart partner a informed) departed' leaving' := by
  constructor
  · intro x points
    exact matching.irreflexive x (depart_some points).1
  · intro x y z left right
    exact matching.injective (depart_some left).1 (depart_some right).1
  · intro x y points
    obtain ⟨old, notSelf, notTold⟩ := depart_some points
    rw [departedNow]
    by_cases pointsAtA : y = a
    · -- The pointer at the departed member dangles, so its owner is leaving.
      subst pointsAtA
      rcases matching.symmetric old with back | dangling
      · have leavingX := (released x back).resolve_left fun told => notTold told.symm
        exact .inr ⟨.inr rfl, leavingNow x leavingX⟩
      · exact .inr ⟨.inr rfl, leavingNow x dangling.2⟩
    · rcases matching.symmetric old with back | dangling
      · have yNotTold : some y ≠ informed := by
          intro told
          have aPoints := isPartner y told.symm
          exact notSelf (matching.injective old aPoints)
        rw [depart_other pointsAtA yNotTold]
        exact .inl back
      · exact .inr ⟨.inl dangling.1, leavingNow x dangling.2⟩
  · intro x gone
    rw [departedNow] at gone
    cases value : depart partner a informed x with
    | none => rfl
    | some y =>
        obtain ⟨old, notSelf, -⟩ := depart_some value
        rcases gone with before | same
        · rw [matching.departed_free before] at old
          cases old
        · exact absurd same notSelf

end MatchingUpTo
