import Mathlib.Algebra.Group.Int.Defs
import Mathlib.Algebra.Group.Nat.Defs
import Mathlib.Data.List.Basic
import WebrtcFileSender.Library.Json

/-!
Contract: deserialised JSON as objects of a dynamically typed runtime.

A reference is `none` for nil, else a value whose class is fixed by its JSON
kind. A message to nil does nothing and returns nil or zero. A message that the
class of its receiver does not implement raises.

Owns: the classes, the selectors that programs send to such objects, and for
each selector the exact condition under which it raises.

Numbers are read by their integer part, reduced to the width of the result.
-/

namespace Foundation

/-- The class of a deserialised value. -/
inductive ClassName where
  | NSNull
  | NSNumber
  | NSString
  | NSArray
  | NSDictionary
deriving DecidableEq, Repr

inductive Exception where
  | unrecognizedSelector (receiver : ClassName) (selector : String)
  | notAString (parameter : String)
deriving DecidableEq, Repr

/-- A reference to a deserialised value. -/
abbrev Object := Option Json

def className : Json → ClassName
  | .null => .NSNull
  | .bool _ | .num _ _ => .NSNumber
  | .str _ => .NSString
  | .arr _ => .NSArray
  | .obj _ => .NSDictionary

/-- `[object isEqual:text]`, which every class implements. -/
def isEqual (object : Object) (text : String) : Bool :=
  object.bind Json.string? == some text

/-- `[object isKindOfClass:[NSString class]] ? object : fallback`. -/
def stringOr (object : Object) (fallback : String) : String :=
  (object.bind Json.string?).getD fallback

/-! ## Selectors that not every class implements -/

/-- `object[key]` with a string key. -/
def objectForKeyedSubscript (object : Object) (key : String) : Except Exception Object :=
  match object with
  | none => .ok none
  | some (.obj fields) => .ok (fields.lookup key)
  | some other =>
      .error (.unrecognizedSelector (className other) "objectForKeyedSubscript:")

/-- The integer part of a decimal number. -/
def integerPart (mantissa : Int) (exponent : Nat) : Int :=
  mantissa.tdiv (10 ^ exponent)

def unsignedLongLongValue (object : Object) : Except Exception Nat :=
  match object with
  | none => .ok 0
  | some (.bool value) => .ok value.toNat
  | some (.num mantissa exponent) =>
      .ok (integerPart mantissa exponent % 2 ^ 64).toNat
  | some other =>
      .error (.unrecognizedSelector (className other) "unsignedLongLongValue")

/-- The `int` that a text starts with: blanks are skipped, a sign is read, and a
number that does not fit reads as the nearest bound. -/
def leadingInt (text : String) : Int :=
  let rest := text.toList.dropWhile Char.isWhitespace
  let (negative, rest) := match rest with
    | '-' :: rest => (true, rest)
    | '+' :: rest => (false, rest)
    | rest => (false, rest)
  let magnitude : Int := (rest.takeWhile Char.isDigit).foldl
    (fun value digit => 10 * value + (digit.toNat - '0'.toNat)) 0
  if negative then max (-magnitude) (-2 ^ 31) else min magnitude (2 ^ 31 - 1)

def intValue (object : Object) : Except Exception Int :=
  match object with
  | none => .ok 0
  | some (.bool value) => .ok value.toNat
  | some (.num mantissa exponent) => .ok ((integerPart mantissa exponent).bmod (2 ^ 32))
  | some (.str text) => .ok (leadingInt text)
  | some other => .error (.unrecognizedSelector (className other) "intValue")

/-! ## Parameters that have to be strings -/

/-- An argument for a parameter that takes a string and not nil. -/
def string (parameter : String) (object : Object) : Except Exception String :=
  match object with
  | some (.str text) => .ok text
  | _ => .error (.notAString parameter)

/-- An argument for a parameter that takes a string or nil. -/
def nullableString (parameter : String) (object : Object) :
    Except Exception (Option String) :=
  match object with
  | none => .ok none
  | some (.str text) => .ok (some text)
  | some _ => .error (.notAString parameter)

/-! ## When they raise -/

/-- A computation that finishes without an exception. -/
def Finishes {α : Type} (computation : Except Exception α) : Prop :=
  ∃ value, computation = .ok value

/-- The reference is nil or its value has the property. -/
def NilOr (property : Json → Prop) (object : Object) : Prop :=
  ∀ value, object = some value → property value

/-- The value is of one of the given classes. -/
def IsKind (classes : List ClassName) (value : Json) : Prop :=
  className value ∈ classes

instance (classes : List ClassName) (value : Json) : Decidable (IsKind classes value) :=
  inferInstanceAs (Decidable (className value ∈ classes))

instance (property : Json → Prop) [∀ value, Decidable (property value)] (object : Object) :
    Decidable (NilOr property object) :=
  match object with
  | none => .isTrue fun _ absent => by contradiction
  | some value =>
      decidable_of_iff (property value)
        ⟨fun holds _ same => Option.some.inj same ▸ holds, fun holds => holds value rfl⟩

variable {α β : Type}

@[simp] theorem finishes_ok (value : α) : Finishes (.ok value) :=
  ⟨value, rfl⟩

@[simp] theorem ok_bind (value : α) (rest : α → Except Exception β) :
    (Except.ok value >>= rest) = rest value :=
  rfl

@[simp] theorem not_finishes_error (exception : Exception) :
    ¬ Finishes (.error exception : Except Exception α) := by
  rintro ⟨value, same⟩
  contradiction

/-- A sequence returns when its first part does and the rest does on what the
first part returns. -/
theorem bind_eq_ok {first : Except Exception α} {rest : α → Except Exception β} {result : β} :
    (first >>= rest) = .ok result ↔ ∃ value, first = .ok value ∧ rest value = .ok result := by
  cases first with
  | error exception =>
      constructor
      · intro returned
        contradiction
      · rintro ⟨value, same, -⟩
        contradiction
  | ok value =>
      constructor
      · intro returned
        exact ⟨value, rfl, returned⟩
      · rintro ⟨other, same, returned⟩
        obtain rfl := Except.ok.inj same
        exact returned

theorem finishes_bind (first : Except Exception α) (rest : α → Except Exception β) :
    Finishes (first >>= rest) ↔ ∃ value, first = .ok value ∧ Finishes (rest value) := by
  constructor
  · rintro ⟨result, returned⟩
    obtain ⟨value, first, rest⟩ := bind_eq_ok.mp returned
    exact ⟨value, first, result, rest⟩
  · rintro ⟨value, first, result, rest⟩
    exact ⟨result, bind_eq_ok.mpr ⟨value, first, rest⟩⟩

/-- The rest of a sequence does not matter when it cannot raise. -/
theorem finishes_bind_iff (first : Except Exception α) (rest : α → Except Exception β)
    (harmless : ∀ value, Finishes (rest value)) :
    Finishes (first >>= rest) ↔ Finishes first := by
  rw [finishes_bind]
  constructor
  · rintro ⟨value, returned, -⟩
    exact ⟨value, returned⟩
  · rintro ⟨value, returned⟩
    exact ⟨value, returned, harmless value⟩

theorem finishes_unsignedLongLongValue (object : Object) :
    Finishes (unsignedLongLongValue object) ↔ NilOr (IsKind [.NSNumber]) object := by
  rcases object with _ | (_ | _ | _ | _ | _ | _) <;>
    simp [unsignedLongLongValue, NilOr, IsKind, className]

theorem finishes_intValue (object : Object) :
    Finishes (intValue object) ↔ NilOr (IsKind [.NSNumber, .NSString]) object := by
  rcases object with _ | (_ | _ | _ | _ | _ | _) <;>
    simp [intValue, NilOr, IsKind, className]

theorem finishes_string (parameter : String) (object : Object) :
    Finishes (string parameter object) ↔ ∃ text, object = some (.str text) := by
  rcases object with _ | (_ | _ | _ | _ | _ | _) <;> simp [string]

theorem finishes_nullableString (parameter : String) (object : Object) :
    Finishes (nullableString parameter object) ↔ NilOr (IsKind [.NSString]) object := by
  rcases object with _ | (_ | _ | _ | _ | _ | _) <;>
    simp [nullableString, NilOr, IsKind, className]

end Foundation
