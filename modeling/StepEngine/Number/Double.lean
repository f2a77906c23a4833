/-!
# Double precision numbers

A `Double` is the 64 bits of a finite binary64 number. Its value is an integer count of the unit
`2 ^ -1074`, so comparison and rounding are arithmetic on naturals.

* `Double.negative`, `Double.significand`, `Double.scale` : the fields; the value is
  `± significand * 2 ^ scale` units;
* `Double.magnitude`, `Double.units` : the value in units, without and with its sign;
* `Double.nearest` : the double nearest a ratio, a tie going to the even one, `none` beyond range;
* `Double.quotient`, `Double.product` : the exact result, rounded;
* `Double.isInteger` : no fractional part.
-/

namespace StepEngine

/-- A finite binary64 number, by its bits. -/
structure Double where
  bits : UInt64
  deriving DecidableEq, Inhabited

namespace Double

/-- The units in one: a double is a multiple of `2 ^ -1074`. -/
def unitsPerOne : Nat := Nat.pow 2 1074

def negative (d : Double) : Bool :=
  d.bits.toNat / Nat.pow 2 63 == 1

def exponentField (d : Double) : Nat :=
  d.bits.toNat / Nat.pow 2 52 % Nat.pow 2 11

/-- The fraction field with the leading one of a normal number. -/
def significand (d : Double) : Nat :=
  let fraction := d.bits.toNat % Nat.pow 2 52
  if d.exponentField = 0 then fraction else Nat.pow 2 52 + fraction

/-- The power of two, in units, that the significand counts. -/
def scale (d : Double) : Nat :=
  d.exponentField - 1

/-- The absolute value in units. -/
def magnitude (d : Double) : Nat :=
  d.significand * Nat.pow 2 d.scale

def units (d : Double) : Int :=
  if d.negative then -(d.magnitude : Int) else d.magnitude

/-- The double with a sign and the low 63 bits `n`. -/
def ofFields (negative : Bool) (n : Nat) : Double :=
  ⟨UInt64.ofNat (if negative then Nat.pow 2 63 + n else n)⟩

/-- The ratio `num / den` to the nearest integer, a tie going to the even one. -/
def roundHalfEven (num den : Nat) : Nat :=
  let floor := num / den
  let rest := 2 * (num % den)
  if rest < den ∨ (rest = den ∧ floor % 2 = 0) then floor else floor + 1

/-- The double nearest `± num / den`, a tie going to the even significand. `none` when the ratio
rounds beyond the largest finite double. The low bits of the answer are `scale * 2 ^ 52` plus the
rounded significand: a significand that rounds up to `2 ^ 53` carries into the exponent. -/
def nearest (negative : Bool) (num den : Nat) : Option Double :=
  let units := num * unitsPerOne
  let scale := Nat.log2 (units / den) - 52
  let n := scale * Nat.pow 2 52 + roundHalfEven units (den * Nat.pow 2 scale)
  if n < 2047 * Nat.pow 2 52 then some (ofFields negative n) else none

def zero : Double := ⟨0⟩

/-- The double nearest an integer. -/
def ofInt? (i : Int) : Option Double :=
  nearest (i < 0) i.natAbs 1

/-- The quotient `a / b`, rounded; `none` when it overflows or `b` is zero. -/
def quotient (a b : Double) : Option Double :=
  if b.magnitude = 0 then none
  else nearest (a.negative != b.negative) a.magnitude b.magnitude

/-- The product `a * b`, rounded; `none` when it overflows. -/
def product (a b : Double) : Option Double :=
  nearest (a.negative != b.negative) (a.magnitude * b.magnitude) (unitsPerOne * unitsPerOne)

def isInteger (d : Double) : Bool :=
  d.magnitude % unitsPerOne = 0

/-- The absolute value to the nearest integer, a half going up. -/
def roundedMagnitude (d : Double) : Nat :=
  (2 * d.magnitude + unitsPerOne) / (2 * unitsPerOne)

end Double

end StepEngine
