import Mathlib.Data.List.Basic
import Mathlib.Logic.Function.Basic

/-!
Contract: queues whose entries carry a ghost tag.

A machine consumes some entries of a queue and appends others. `extend` tags
what was appended, given the tagged entries that were kept.

Owns: `extend`, its agreement with the untagged queue, its members, and the
members of a family of queues of which one has lost some.
-/

namespace Tagged

universe u v

variable {α : Type u} {τ : Type v}

/-- The tags that occur in a queue. -/
def tags (queue : List (α × Option τ)) : List τ :=
  queue.filterMap Prod.snd

theorem mem_tags {queue : List (α × Option τ)} {tag : τ} :
    tag ∈ tags queue ↔ ∃ entry, (entry, some tag) ∈ queue := by
  simp [tags]

/-- The entries of `now` after those that were kept get their tag by `tagOf`. -/
def extend (kept : List (α × Option τ)) (now : List α) (tagOf : α → Option τ) :
    List (α × Option τ) :=
  kept ++ (now.drop kept.length).map fun entry => (entry, tagOf entry)

variable {kept : List (α × Option τ)} {now fresh : List α} {tagOf : α → Option τ}

theorem extend_eq (grown : now = kept.map Prod.fst ++ fresh) :
    extend kept now tagOf = kept ++ fresh.map fun entry => (entry, tagOf entry) := by
  have sameLength : (kept.map Prod.fst).length = kept.length := List.length_map _
  rw [extend, grown, ← sameLength, List.drop_left]

/-- The tagged queue is the queue. -/
theorem map_fst_extend (grown : now = kept.map Prod.fst ++ fresh) :
    (extend kept now tagOf).map Prod.fst = now := by
  rw [extend_eq grown, List.map_append, List.map_map, grown]
  congr 1
  exact List.map_id' fresh

/-- An entry was kept, or it is fresh and tagged by `tagOf`. -/
theorem mem_extend (grown : now = kept.map Prod.fst ++ fresh)
    {entry : α} {tag : Option τ} (member : (entry, tag) ∈ extend kept now tagOf) :
    (entry, tag) ∈ kept ∨ (entry ∈ fresh ∧ tag = tagOf entry) := by
  rw [extend_eq grown] at member
  rcases List.mem_append.mp member with old | new
  · exact .inl old
  · obtain ⟨origin, isFresh, same⟩ := List.mem_map.mp new
    obtain ⟨rfl, rfl⟩ := Prod.mk.inj same
    exact .inr ⟨isFresh, rfl⟩

/-- What is in a queue after one of the queues has lost entries was there
before. -/
theorem mem_of_mem_update {ι : Type*} [DecidableEq ι] {queues : ι → List α} {changed : ι}
    {kept : List α} (fewer : kept ⊆ queues changed) {index : ι} {entry : α}
    (member : entry ∈ Function.update queues changed kept index) :
    entry ∈ queues index := by
  by_cases same : index = changed
  · subst same
    rw [Function.update_self] at member
    exact fewer member
  · rwa [Function.update_of_ne same] at member

end Tagged
