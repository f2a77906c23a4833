import StepEngine.Decode.Record
/-!
# Updates of stored values

* `UpdateOp` : a change at a path inside a stored value;
* `UpdateOp.decode`, `encode` : a change as a value with its name under `type`.
-/

namespace StepEngine

/-- A change at a path inside a stored value. -/
inductive UpdateOp where
  | set (path : String) (value : Json)
  | increment (path : String) (amount : Double)
  | decrement (path : String) (amount : Double)
  | remove (path : String)
  | merge (path : String) (value : Json)
  deriving DecidableEq

namespace UpdateOp

inductive Name where
  | set
  | increment
  | decrement
  | remove
  | merge
  deriving DecidableEq

def names : List (String × Name) := [
  ("set", .set), ("increment", .increment), ("decrement", .decrement), ("remove", .remove),
  ("merge", .merge)]

def pathField : Field String := .required "path" Decode.text []

def valueField : Field Json := .required "value" Decode.any []

def amountField : Field Double := .required "by" Decode.double []

def record (variant : String) (fields : Fields types) : Record types :=
  ⟨"struct variant UpdateOp::" ++ variant, fields, false⟩

def decode : Decoder UpdateOp := fun v => do
  let (name, rest) ← Decode.splitTag "UpdateOp" names v
  match name with
  | .set => do
    let (path, value, ()) ←
      (record "Set" (.cons pathField (.cons valueField .nil))).decode .setAside rest
    .ok (set path value)
  | .increment => do
    let (path, amount, ()) ←
      (record "Increment" (.cons pathField (.cons amountField .nil))).decode .setAside rest
    .ok (increment path amount)
  | .decrement => do
    let (path, amount, ()) ←
      (record "Decrement" (.cons pathField (.cons amountField .nil))).decode .setAside rest
    .ok (decrement path amount)
  | .remove => do
    let (path, ()) ← (record "Remove" (.cons pathField .nil)).decode .setAside rest
    .ok (remove path)
  | .merge => do
    let (path, value, ()) ←
      (record "Merge" (.cons (.defaulted "path" Decode.text "" []) (.cons valueField .nil))).decode
        .setAside rest
    .ok (merge path value)

def encode : UpdateOp → Json
  | set path value => .object [("path", .string path), ("type", .string "set"), ("value", value)]
  | increment path amount =>
    .object [("by", .number (.double amount)), ("path", .string path),
      ("type", .string "increment")]
  | decrement path amount =>
    .object [("by", .number (.double amount)), ("path", .string path),
      ("type", .string "decrement")]
  | remove path => .object [("path", .string path), ("type", .string "remove")]
  | merge path value =>
    .object [("path", .string path), ("type", .string "merge"), ("value", value)]

end UpdateOp

end StepEngine
