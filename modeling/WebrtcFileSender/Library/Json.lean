import Mathlib.Data.List.Basic

/-!
Contract: JSON values as a parser delivers them.

Owns: the value type, field access on objects, the two dynamic-language readings
of a value that programs rely on (truthiness, and "is it a string"), and how deeply
a value is nested.

Does not own: concrete syntax. A message whose text does not parse is
represented by the absence of a value.
-/

/-- A parsed JSON value. A number is `mantissa * 10 ^ (-exponent)`. -/
inductive Json where
  | null
  | bool (value : Bool)
  | num (mantissa : Int) (exponent : Nat)
  | str (value : String)
  | arr (items : List Json)
  | obj (fields : List (String × Json))
deriving Repr

namespace Json

/-- Property access: absent on everything that is not an object with that
field. -/
def field? (name : String) : Json → Option Json
  | obj fields => fields.lookup name
  | _ => none

/-- The text of a string value. -/
def string? : Json → Option String
  | str value => some value
  | _ => none

/-- A field that holds a string. -/
def stringField? (name : String) (json : Json) : Option String :=
  (json.field? name).bind string?

/-- Truthiness: `null`, `false`, zero and the empty string are falsy. -/
def truthy : Json → Bool
  | null => false
  | bool value => value
  | num mantissa _ => mantissa != 0
  | str value => value != ""
  | arr _ => true
  | obj _ => true

mutual

/-- How many arrays and objects lie around the innermost value. -/
def depth : Json → Nat
  | arr items => itemsDepth items + 1
  | obj fields => fieldsDepth fields + 1
  | null | bool _ | num _ _ | str _ => 0

def itemsDepth : List Json → Nat
  | [] => 0
  | item :: rest => max item.depth (itemsDepth rest)

def fieldsDepth : List (String × Json) → Nat
  | [] => 0
  | (_, value) :: rest => max value.depth (fieldsDepth rest)

end

theorem itemsDepth_le {items : List Json} {bound : Nat}
    (shallow : ∀ item ∈ items, item.depth ≤ bound) : itemsDepth items ≤ bound := by
  induction items with
  | nil => exact Nat.zero_le bound
  | cons item rest inductionHypothesis =>
      have head := shallow item (by simp)
      have tail := inductionHypothesis fun later member => shallow later (by simp [member])
      rw [itemsDepth]
      omega

/-- Arrays in each other. -/
def nested : Nat → Json
  | 0 => .arr []
  | levels + 1 => .arr [nested levels]

theorem depth_nested (levels : Nat) : (nested levels).depth = levels + 1 := by
  induction levels with
  | zero => rfl
  | succ levels inductionHypothesis =>
      rw [nested, depth, itemsDepth, itemsDepth, inductionHypothesis]
      omega

end Json
