import StepEngine.Json.Equality
/-!
# Equality of values for schemas

* `Json.sameValue` : numbers are equal when their exact values are, however they are written;
* `Json.isConst` : the same, but two numbers at the top may differ by less than the step above one;
* `Json.allDistinct` : no two elements of a list are equal.
-/

namespace StepEngine

/-- Equality of numbers by their exact values. -/
def Number.sameValue (a b : Number) : Bool :=
  a.units == b.units

/-- The nearest double carries a negative sign. -/
def Number.negative (n : Number) : Bool :=
  n.toDouble.negative

/-- Equality of numbers by their exact values, the two zeros apart. -/
def Number.sameSignedValue (a b : Number) : Bool :=
  a.units == b.units && a.negative == b.negative

namespace Json

/-- Equality up to the writing of numbers and the order of members. -/
def sameValue : (a b : Json) → Bool :=
  sameUnder Number.sameValue

/-- The least difference, in units, whose nearest double is no less than the step above one: half a
step of the doubles below `2 ^ 1022` less than that. -/
def constStep : Nat := Nat.pow 2 1022 - Nat.pow 2 968

def isConst (expected value : Json) : Bool :=
  match expected, value with
  | number a, number b => (a.toDouble.units - b.toDouble.units).natAbs < constStep
  | _, _ => sameValue expected value

def noneRepeated (same : Json → Json → Bool) : List Json → Bool
  | [] => true
  | v :: rest => !rest.any (same v) && noneRepeated same rest

/-- No two elements are equal. In a list of more than fifteen elements zero and negative zero are
two. -/
def allDistinct (items : List Json) : Bool :=
  if items.length ≤ 15 then noneRepeated sameValue items
  else noneRepeated (sameUnder Number.sameSignedValue) items

end Json

end StepEngine
