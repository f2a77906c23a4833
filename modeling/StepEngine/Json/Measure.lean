import StepEngine.Json.Basic
/-!
# Measures of a value

* `Json.weight` : the number of values in a value, itself included;
* `Json.height` : how deep a value is nested.
-/

namespace StepEngine.Json

mutual

/-- The number of values in a value. -/
def weight : Json → Nat
  | .array items => weightOfItems items + 1
  | .object members => weightOfMembers members + 1
  | _ => 1

def weightOfItems : List Json → Nat
  | [] => 0
  | v :: rest => weight v + weightOfItems rest

def weightOfMembers : List (String × Json) → Nat
  | [] => 0
  | (_, v) :: rest => weight v + weightOfMembers rest

end

mutual

/-- How deep a value is nested. -/
def height : Json → Nat
  | .array items => heightOfItems items + 1
  | .object members => heightOfMembers members + 1
  | _ => 1

def heightOfItems : List Json → Nat
  | [] => 0
  | v :: rest => max (height v) (heightOfItems rest)

def heightOfMembers : List (String × Json) → Nat
  | [] => 0
  | (_, v) :: rest => max (height v) (heightOfMembers rest)

end

end StepEngine.Json
