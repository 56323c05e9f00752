import WebrtcFileSender.Library.Json

/-!
Contract: the exceptions of a JavaScript program that works on parsed JSON and on
event emitters.

Owns: property access, which throws on `undefined` and `null`, on parsed values
and on references to objects, `JSON.stringify`, which throws on a value that is
nested too deeply for the call stack, and the rule of `EventEmitter` for events
without a listener.

Memory is unbounded. `JSON.parse` delivers nested values of any depth.
-/

namespace JavaScript

inductive Uncaught where
  | typeError (property : String)
  | rangeError
  | unhandledErrorEvent
deriving DecidableEq, Repr

/-- A parsed value; `none` is `undefined`. -/
abbrev Value := Option Json

/-- `value.property`. -/
def property (value : Value) (name : String) : Except Uncaught Value :=
  match value with
  | none | some .null => .error (.typeError name)
  | some other => .ok (other.field? name)

/-- `!!value`. -/
def truthy (value : Value) : Bool :=
  value.any Json.truthy

/-- The object behind a reference whose property `name` is read or written;
`none` is `undefined` or `null`. -/
def dereference {α : Type} (reference : Option α) (name : String) : Except Uncaught α :=
  match reference with
  | none => .error (.typeError name)
  | some object => .ok object

/-- The call stack of an engine, as the recursion of `JSON.stringify` over a value
finds it. How deep a value may be is the engine's matter; it holds three levels. -/
structure CallStack where
  holds : Json → Bool
  shallow : ∀ value : Json, value.depth ≤ 3 → holds value = true

/-- A stack for a number of levels. -/
def CallStack.ofDepth (levels : Nat) (enough : 3 ≤ levels) : CallStack where
  holds := fun value => value.depth ≤ levels
  shallow := by
    intro value low
    exact decide_eq_true (Nat.le_trans low enough)

/-- `JSON.stringify(value)`; the text stands for the value it is parsed back to. -/
def stringify (stack : CallStack) (value : Json) : Except Uncaught Json :=
  if stack.holds value then .ok value else .error .rangeError

/-- `emitter.emit(event)`: the listener runs; without one, `error` is thrown and
every other event is dropped. -/
def emit {α : Type} (listeners : List String) (event : String)
    (run : Except Uncaught α) (dropped : α) : Except Uncaught α :=
  if event ∈ listeners then run
  else if event = "error" then .error .unhandledErrorEvent
  else .ok dropped

@[simp] theorem ok_bind {α β : Type} (value : α) (rest : α → Except Uncaught β) :
    (Except.ok value >>= rest) = rest value :=
  rfl

theorem stringify_of_shallow (stack : CallStack) {value : Json} (low : value.depth ≤ 3) :
    stringify stack value = .ok value :=
  if_pos (stack.shallow value low)

/-- A truthy value has properties. -/
theorem property_of_truthy {value : Json} (isTruthy : truthy (some value) = true)
    (name : String) : property (some value) name = .ok (value.field? name) := by
  cases value with
  | null => contradiction
  | bool | num | str | arr | obj => rfl

end JavaScript
