import Mathlib.Data.List.Basic

/-!
Contract: finite maps that iterate in insertion order.

Overwriting a key keeps its position; a deleted key that comes back is
appended. Entries are association lists with at most one entry per key as long
as they are built by `set` and `delete`.

Owns: `get`, `set`, `delete`, their lookup laws, and the law that keys stay
distinct.
-/

/-- An insertion-ordered map as its list of entries. -/
abbrev OrderedMap (κ : Type*) (α : Type*) := List (κ × α)

namespace OrderedMap

variable {κ α : Type*} [DecidableEq κ]

/-- The value stored at `key`. -/
def get : OrderedMap κ α → κ → Option α
  | [], _ => none
  | (other, value) :: rest, key =>
      if other = key then some value else get rest key

/-- Store `value` at `key`, in place when the key is present. -/
def set : OrderedMap κ α → κ → α → OrderedMap κ α
  | [], key, value => [(key, value)]
  | (other, old) :: rest, key, value =>
      if other = key then (key, value) :: rest
      else (other, old) :: set rest key value

/-- Remove `key`. -/
def delete (entries : OrderedMap κ α) (key : κ) : OrderedMap κ α :=
  entries.filter fun entry => entry.1 ≠ key

theorem get_set (entries : OrderedMap κ α) (key other : κ) (value : α) :
    get (set entries key value) other =
      if key = other then some value else get entries other := by
  induction entries with
  | nil => simp [set, get]
  | cons head tail inductionHypothesis =>
      obtain ⟨first, old⟩ := head
      by_cases same : first = key
      · subst same
        by_cases hit : first = other <;> simp [set, get, hit]
      · by_cases hit : first = other
        · subst hit
          simp [set, get, same, Ne.symm same]
        · simp [set, get, same, hit, inductionHypothesis]

theorem get_delete (entries : OrderedMap κ α) (key other : κ) :
    get (delete entries key) other =
      if key = other then none else get entries other := by
  induction entries with
  | nil => simp [delete, get]
  | cons head tail inductionHypothesis =>
      obtain ⟨first, old⟩ := head
      simp only [delete] at inductionHypothesis ⊢
      by_cases same : first = key
      · subst same
        rw [List.filter_cons_of_neg (by simp), inductionHypothesis]
        by_cases hit : first = other <;> simp [get, hit]
      · rw [List.filter_cons_of_pos (by simpa using same)]
        by_cases hit : first = other
        · subst hit
          simp [get, Ne.symm same]
        · simp only [get, hit, if_false]
          exact inductionHypothesis

/-! ## Distinct keys -/

/-- The keys in iteration order. -/
def keys (entries : OrderedMap κ α) : List κ :=
  entries.map Prod.fst

omit [DecidableEq κ] in
theorem mem_keys_of_mem {entries : OrderedMap κ α} {key : κ} {value : α}
    (member : (key, value) ∈ entries) : key ∈ keys entries :=
  List.mem_map.mpr ⟨(key, value), member, rfl⟩

theorem mem_of_mem_set {entries : OrderedMap κ α} {key other : κ} {value : α}
    (member : other ∈ keys (set entries key value)) : other = key ∨ other ∈ keys entries := by
  induction entries with
  | nil =>
      left
      simpa [set, keys] using member
  | cons head tail inductionHypothesis =>
      obtain ⟨first, old⟩ := head
      simp only [set] at member
      split at member
      case isTrue same =>
        subst same
        exact .inr member
      case isFalse =>
        simp only [keys, List.map_cons, List.mem_cons] at member inductionHypothesis ⊢
        rcases member with atHead | inTail
        · exact .inr (.inl atHead)
        · rcases inductionHypothesis inTail with same | old
          · exact .inl same
          · exact .inr (.inr old)

theorem nodup_set {entries : OrderedMap κ α} (distinct : (keys entries).Nodup)
    (key : κ) (value : α) : (keys (set entries key value)).Nodup := by
  induction entries with
  | nil => simp [set, keys]
  | cons head tail inductionHypothesis =>
      obtain ⟨first, old⟩ := head
      obtain ⟨absent, rest⟩ := List.nodup_cons.mp distinct
      simp only [set]
      split
      case isTrue same =>
        subst same
        exact distinct
      case isFalse other =>
        apply List.nodup_cons.mpr
        refine ⟨?_, inductionHypothesis rest⟩
        intro member
        rcases mem_of_mem_set member with same | inTail
        · exact other same
        · exact absent inTail

theorem nodup_delete {entries : OrderedMap κ α} (distinct : (keys entries).Nodup)
    (key : κ) : (keys (delete entries key)).Nodup :=
  List.Nodup.sublist (List.Sublist.map _ List.filter_sublist) distinct

/-- With distinct keys, the entries are what lookup finds. -/
theorem get_eq_some_iff {entries : OrderedMap κ α} (distinct : (keys entries).Nodup)
    {key : κ} {value : α} : get entries key = some value ↔ (key, value) ∈ entries := by
  induction entries with
  | nil => simp [get]
  | cons head tail inductionHypothesis =>
      obtain ⟨first, old⟩ := head
      obtain ⟨absent, rest⟩ := List.nodup_cons.mp distinct
      by_cases same : first = key
      · subst same
        have notInTail : (first, value) ∉ tail := fun member =>
          absent (mem_keys_of_mem member)
        simp [get, notInTail, eq_comm]
      · have otherHead : (key, value) ≠ (first, old) := fun equal =>
          same (Prod.mk.inj equal).1.symm
        simp [get, same, inductionHypothesis rest, otherHead]

end OrderedMap
