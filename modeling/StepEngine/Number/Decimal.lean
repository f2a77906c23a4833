import StepEngine.Number.Double
/-!
# Decimal text of a double

* `Decimal` : an integer times a power of ten;
* `Double.shortest` : of the decimals that read back as the double, one with the fewest digits and
  nearest to it;
* `Double.ofDecimal` : the double nearest a decimal;
* `Double.ofParts` : a significand scaled by a power of ten, step by step;
* `Layout` : where the decimal point goes and when an exponent is written;
* `Layout.render` : the text of a double in a layout.
-/

namespace StepEngine

/-- The number `digits * 10 ^ exponent`. -/
structure Decimal where
  digits : Nat
  exponent : Int
  deriving DecidableEq, Inhabited

namespace Double

/-- The double nearest `± d`; `none` beyond the largest finite double. An exponent below `-1500`
leaves nothing of a significand of ordinary length, and zero is zero at every exponent. -/
def ofDecimal (negative : Bool) (d : Decimal) : Option Double :=
  if d.digits = 0 then some (ofFields negative 0)
  else
    match d.exponent with
    | .ofNat e =>
      if e > 400 then none else nearest negative (d.digits * Nat.pow 10 e) 1
    | .negSucc e =>
      let places := (Nat.toDigits 10 d.digits).length
      if e > places + 400 then some (ofFields negative 0)
      else nearest negative d.digits (Nat.pow 10 (e + 1))

/-- The double nearest `10 ^ e`, for an `e` up to 308. -/
def powerOfTen (e : Nat) : Double :=
  (ofDecimal false ⟨1, e⟩).getD zero

/-- A double divided by `10 ^ 308` as long as the exponent `-e` is out of the range of the powers of
ten, then by the power that is left; zero stays as it is. Three divisions turn every word into
zero. -/
def divideByPower : (fuel : Nat) → Double → (e : Nat) → Double
  | 0, f, _ => f
  | fuel + 1, f, e =>
    if e ≤ 308 then (f.quotient (powerOfTen e)).getD zero
    else if f.magnitude = 0 then f
    else divideByPower fuel ((f.quotient (powerOfTen 308)).getD zero) (e - 308)

/-- A significand times a power of ten in steps that are each rounded: the double nearest the
significand is multiplied with, or divided by, the double nearest the power. `none` beyond the
largest finite double. So the answer may lie next to the double nearest the decimal. -/
def ofParts (negative : Bool) (significand : Nat) (exponent : Int) : Option Double := do
  let f ← nearest negative significand 1
  match exponent with
  | .ofNat e =>
    if e ≤ 308 then f.product (powerOfTen e)
    else if f.magnitude = 0 then some f
    else none
  | .negSucc e => some (divideByPower 8 f (e + 1))

/-- A ratio `num / den` times ten to `-e`, as a pair. -/
def rescale (num den : Nat) (e : Int) : Nat × Nat :=
  match e with
  | .ofNat e => (num, den * Nat.pow 10 e)
  | .negSucc e => (num * Nat.pow 10 (e + 1), den)

/-- The least `j ≤ fuel` with `den ≤ num * 10 ^ j`. -/
def leadingZeros (num den : Nat) : (fuel : Nat) → Nat
  | 0 => 0
  | fuel + 1 => if den ≤ num then 0 else leadingZeros (num * 10) den fuel + 1

/-- The place of the leading digit: `10 ^ (k - 1) ≤ num / den < 10 ^ k`. -/
def decimalPlace (num den : Nat) : Int :=
  if den ≤ num then (Nat.toDigits 10 (num / den)).length
  else 1 - (leadingZeros num den 400 : Int)

/-- Of the two decimals of exponent `e` on either side of `num / den`, the nearer of those between
`low / den` and `high / den`; the ends count when `closed`. -/
def gridPoint (num low high den : Nat) (closed : Bool) (e : Int) : Option Nat :=
  let (n, d) := rescale num den e
  let (l, _) := rescale low den e
  let (h, _) := rescale high den e
  let floor := n / d
  let inside := fun c => if closed then l ≤ c * d ∧ c * d ≤ h else l < c * d ∧ c * d < h
  let below : Bool := decide (inside floor) && floor != 0
  let above : Bool := decide (inside (floor + 1))
  let rest := 2 * (n % d)
  match below, above with
  | true, true => if rest < d ∨ (rest = d ∧ floor % 2 = 0) then some floor else some (floor + 1)
  | true, false => some floor
  | false, true => some (floor + 1)
  | false, false => none

/-- The first grid, from `count` digits on, that has a point in the interval. -/
def firstGrid (num low high den : Nat) (closed : Bool) (place : Int) :
    (count fuel : Nat) → Decimal
  | count, 0 => ⟨num * Nat.pow 10 count / den, -count⟩
  | count, fuel + 1 =>
    match gridPoint num low high den closed (place - count) with
    | some c => ⟨c, place - count⟩
    | none => firstGrid num low high den closed place (count + 1) fuel

/-- The fewest digits that read back as the absolute value of `d`; of those, the nearest. The reals
that round to a double reach half a step to either side, a quarter below a power of two, and the
ends belong to it when its significand is even. -/
def shortest (d : Double) : Decimal :=
  if d.magnitude = 0 then ⟨0, 0⟩
  else
    let m := d.significand
    let step := Nat.pow 2 d.scale
    let num := 4 * m * step
    let low := if m = Nat.pow 2 52 ∧ d.scale > 0 then num - step else num - 2 * step
    let high := num + 2 * step
    let den := 4 * unitsPerOne
    firstGrid num low high den (m % 2 == 0) (decimalPlace num den) 1 17

end Double

/-! ## Layout -/

/-- How a decimal is written out. The place of a nonzero decimal is the `k` of `0.ddd * 10 ^ k`. -/
structure Layout where
  /-- The least place written without an exponent. -/
  leastPlace : Option Int
  /-- The greatest place written without an exponent. -/
  greatestPlace : Option Int
  /-- An integer is followed by `.0`. -/
  marksIntegers : Bool
  deriving DecidableEq

namespace Layout

/-- A decimal whose digits are `ds` and whose place is `k`, written with a point. -/
def positional (layout : Layout) (ds : List Char) (k : Int) : List Char :=
  if k ≤ 0 then
    '0' :: '.' :: (List.replicate k.natAbs '0' ++ ds)
  else if ds.length ≤ k.natAbs then
    ds ++ List.replicate (k.natAbs - ds.length) '0' ++
      (if layout.marksIntegers then ['.', '0'] else [])
  else
    ds.take k.natAbs ++ '.' :: ds.drop k.natAbs

/-- A decimal whose digits are `ds` and whose place is `k`, written with an exponent that always
has its sign. -/
def scientific (ds : List Char) (k : Int) : List Char :=
  let mantissa :=
    match ds with
    | [] => ['0']
    | [d] => [d]
    | d :: rest => d :: '.' :: rest
  let sign := if 0 ≤ k - 1 then '+' else '-'
  mantissa ++ 'e' :: sign :: Nat.toDigits 10 (k - 1).natAbs

/-- The text of the absolute value of a double. -/
def renderMagnitude (layout : Layout) (d : Double) : List Char :=
  let s := d.shortest
  if s.digits = 0 then layout.positional ['0'] 1
  else
    let all := Nat.toDigits 10 s.digits
    let ds := (all.reverse.dropWhile (· == '0')).reverse
    let k : Int := s.exponent + all.length
    let tooSmall := layout.leastPlace.any (k < ·)
    let tooLarge := layout.greatestPlace.any (· < k)
    if tooSmall || tooLarge then scientific ds k else layout.positional ds k

/-- The text of a double; a negative zero keeps its sign. -/
def render (layout : Layout) (d : Double) : String :=
  let body := layout.renderMagnitude d
  String.ofList (if d.negative then '-' :: body else body)

/-- Positional from `1e-5` up to, not including, `1e16`, an integer with `.0`; otherwise with an
exponent. -/
def standard : Layout := ⟨some (-4), some 16, true⟩

/-- Positional at every size, an integer without a point. -/
def plain : Layout := ⟨none, none, false⟩

end Layout

end StepEngine
