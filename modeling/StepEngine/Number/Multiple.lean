import StepEngine.Number.Double
/-!
# Multiples up to rounding

* `Double.isMultipleOf` : a quotient within a billionth, relative to its size, of an integer. So
  `0.3` is a multiple of `0.1`, although the doubles nearest them do not divide.
-/

namespace StepEngine.Double

/-- The double nearest one billionth. -/
def billionth : Double := ⟨0x3E112E0BE826D695⟩

/-- How far the quotient may lie from an integer, in units: a billionth of it, or of one. -/
def multipleTolerance (quotient : Double) : Nat :=
  ((nearest false (billionth.magnitude * max quotient.magnitude unitsPerOne)
    (unitsPerOne * unitsPerOne)).map magnitude).getD 0

/-- The quotient lies within the tolerance of an integer. A quotient beyond the range of a double is
none of a multiple. -/
def isMultipleOf (n divisor : Double) : Bool :=
  match n.quotient divisor with
  | none => false
  | some q =>
    let whole := q.roundedMagnitude * unitsPerOne
    let distance := (q.magnitude - whole) + (whole - q.magnitude)
    distance ≤ q.multipleTolerance

end StepEngine.Double
