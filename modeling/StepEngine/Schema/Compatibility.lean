import StepEngine.Json.Printer
import StepEngine.Json.Equality
/-!
# Compatibility of two schemas on one topic

* `Compatibility.Issue` : a difference of type, or names that one side requires and the other does
  not declare;
* `Compatibility.issues` : all differences of two schemas.
-/

namespace StepEngine.Compatibility

inductive Side where
  | first
  | second
  deriving DecidableEq

def Side.name : Side → String
  | first => "first"
  | second => "second"

inductive Issue where
  | typeMismatch (first second : Json)
  /-- Names that the other side requires and this one does not declare. -/
  | undeclared (side : Side) (names : List String)
  deriving DecidableEq

def Issue.message : Issue → String
  | typeMismatch first second => "Type mismatch: " ++ first.render ++ " vs " ++ second.render
  | undeclared side names =>
    "Required fields missing in " ++ side.name ++ " schema: " ++ ", ".intercalate names

/-- The names of a list, ascending and each once. -/
def sortedNames (names : List String) : List String :=
  (SortedMap.ofList (names.map fun n => (n, ()))).keys

def declared (schema : Json) : List String :=
  (((schema.get? "properties").bind Json.asObject?).getD []).map (·.1)

def required (schema : Json) : List String :=
  (((schema.get? "required").bind Json.asArray?).getD []).filterMap Json.asString?

/-- The names that `a` requires and `b` does not declare, ascending. -/
def missing (a b : Json) : List String :=
  sortedNames ((required a).filter fun n => !(declared b).contains n)

def isObjectSchema (schema : Json) : Bool :=
  schema.get? "type" == some (.string "object")

/-- Names that are missing on a side, if there are any. -/
def undeclaredOn (side : Side) (names : List String) : List Issue :=
  if names.isEmpty then [] else [.undeclared side names]

/-- Two types are one: both are absent, or they are equal values. -/
def sameType : (a b : Option Json) → Bool
  | some a, some b => a.equal b
  | none, none => true
  | _, _ => false

/-- The differences of two schemas. -/
def issues (first second : Json) : List Issue :=
  let a := first.get? "type"
  let b := second.get? "type"
  (if sameType a b then [] else [.typeMismatch (a.getD .null) (b.getD .null)]) ++
    if isObjectSchema first && isObjectSchema second then
      undeclaredOn .second (missing first second) ++ undeclaredOn .first (missing second first)
    else []

end StepEngine.Compatibility
