import Mathlib.Algebra.BigOperators.Group.Finset.Basic
import Mathlib.Algebra.BigOperators.Group.Finset.Piecewise

/-!
Contract: weights of queues, for measures that every step of a system lowers.

Owns: the weight of a list as the sum of the weights of its entries with its rules, and
the rule for the sum over numbered parts of which one has changed.

Does not own: any particular weight.
-/

namespace Weight

variable {α : Type*} (weight : α → Nat)

def total (items : List α) : Nat :=
  items.foldr (fun item sum => weight item + sum) 0

@[simp] theorem total_nil : total weight [] = 0 := rfl

@[simp] theorem total_cons (item : α) (rest : List α) :
    total weight (item :: rest) = weight item + total weight rest := rfl

@[simp] theorem total_append (items fresh : List α) :
    total weight (items ++ fresh) = total weight items + total weight fresh := by
  induction items with
  | nil => simp
  | cons item rest inductionHypothesis =>
      rw [List.cons_append, total_cons, total_cons, inductionHypothesis, Nat.add_assoc]

theorem total_eq_zero {items : List α} (weightless : ∀ item ∈ items, weight item = 0) :
    total weight items = 0 := by
  induction items with
  | nil => rfl
  | cons item rest inductionHypothesis =>
      rw [total_cons, weightless item (by simp),
        inductionHypothesis fun later member => weightless later (by simp [member])]

theorem total_eq_mul {items : List α} {each : Nat} (same : ∀ item ∈ items, weight item = each) :
    total weight items = each * items.length := by
  induction items with
  | nil => simp
  | cons item rest inductionHypothesis =>
      rw [total_cons, same item (by simp),
        inductionHypothesis fun later member => same later (by simp [member]),
        List.length_cons, Nat.mul_succ, Nat.add_comm]

/-- An entry that is taken out takes its weight with it. -/
theorem total_eraseIdx {items : List α} {index : Nat} {item : α}
    (atIndex : items[index]? = some item) :
    total weight (items.eraseIdx index) + weight item = total weight items := by
  induction items generalizing index with
  | nil => simp at atIndex
  | cons first rest inductionHypothesis =>
      cases index with
      | zero =>
          obtain rfl := Option.some.inj atIndex
          rw [List.eraseIdx_zero, List.tail_cons, total_cons, Nat.add_comm]
      | succ index =>
          have inside : rest[index]? = some item := by simpa using atIndex
          have later := inductionHypothesis inside
          rw [List.eraseIdx_cons_succ, total_cons, total_cons]
          omega

/-- When one of the first `count` parts has changed, the sum changes by as much. -/
theorem sum_changed {count part : Nat} {before after : Nat → Nat}
    (known : part < count) (same : ∀ other, other ≠ part → after other = before other) :
    ∑ name ∈ Finset.range count, after name + before part =
      ∑ name ∈ Finset.range count, before name + after part := by
  have member : part ∈ Finset.range count := Finset.mem_range.mpr known
  have rest : ∑ name ∈ (Finset.range count).erase part, after name =
      ∑ name ∈ (Finset.range count).erase part, before name :=
    Finset.sum_congr rfl fun other others => same other (Finset.ne_of_mem_erase others)
  rw [← Finset.add_sum_erase _ after member, ← Finset.add_sum_erase _ before member, rest]
  omega

/-- What is addressed to the parts weighs no more than what there is. -/
theorem sum_addressed_le (count : Nat) (address : α → Option Nat) (items : List α) :
    ∑ name ∈ Finset.range count,
        total weight (items.filter fun item => address item = some name) ≤
      total weight items := by
  induction items with
  | nil => simp
  | cons item rest inductionHypothesis =>
      have split : ∀ name, total weight
          ((item :: rest).filter fun item => address item = some name) =
            (if address item = some name then weight item else 0) +
              total weight (rest.filter fun item => address item = some name) := by
        intro name
        by_cases addressed : address item = some name <;> simp [addressed]
      have atMost : ∑ name ∈ Finset.range count,
          (if address item = some name then weight item else 0) ≤ weight item := by
        cases address item with
        | none => simp
        | some receiver =>
            simp only [Option.some.injEq, Finset.sum_ite_eq]
            split <;> omega
      simp only [split, Finset.sum_add_distrib, total_cons]
      omega

end Weight
