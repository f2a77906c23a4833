import StepEngine.Json.Basic
/-!
# Equality of values up to a relation of numbers

* `Json.sameUnder` : equality up to the order of members, where a relation says which numbers are
  the same;
* `Number.equal`, `Json.equal` : integers are apart from doubles, and the two zeros of a double are
  one number.
-/

namespace StepEngine

namespace Json

mutual

/-- Equality of values whose numbers are compared by `same`. -/
def sameUnder (same : Number → Number → Bool) : (a b : Json) → Bool
  | null, null => true
  | bool a, bool b => a == b
  | number a, number b => same a b
  | string a, string b => a == b
  | array a, array b => sameItems same a b
  | object a, object b => a.length == b.length && sameMembers same a b
  | _, _ => false

def sameItems (same : Number → Number → Bool) : (a b : List Json) → Bool
  | [], [] => true
  | a :: as, b :: bs => sameUnder same a b && sameItems same as bs
  | _, _ => false

def sameMembers (same : Number → Number → Bool) : (a b : List (String × Json)) → Bool
  | [], _ => true
  | (key, a) :: rest, b =>
    (match b.lookup key with
      | some v => sameUnder same a v
      | none => false) && sameMembers same rest b

end

end Json

/-- Equality of numbers of one kind by their value. -/
def Number.equal : (a b : Number) → Bool
  | int a, int b => a == b
  | double a, double b => a.units == b.units
  | _, _ => false

/-- Equality of values: the integer `1` is not the double `1.0`, but `0.0` is `-0.0`. -/
def Json.equal : (a b : Json) → Bool :=
  Json.sameUnder Number.equal

end StepEngine
