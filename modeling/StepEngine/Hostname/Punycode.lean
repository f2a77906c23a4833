/-!
# Punycode

A label with characters outside ASCII is sent as one in ASCII: its ASCII characters, a hyphen if there
are any, and then the other characters, in ascending order, each as a number that tells how many
steps there are from the one before it. A step goes to the next place of the label, and behind the
last place to the first one for the next greater character. The numbers have digits in base 36 of a
weight that fits the size of the numbers so far.

* `Punycode.encode` : the form of a label in ASCII;
* `Punycode.decode?` : the label of such a form.
-/

namespace StepEngine.Hostname.Punycode

/-! ## Digits -/

/-- The digit of a number below 36: first the letters, then the decimal digits. -/
def digit (n : Nat) : Char :=
  if n < 26 then Char.ofNat (97 + n) else Char.ofNat (22 + n)

def value? (c : Char) : Option Nat :=
  if 'a' ≤ c ∧ c ≤ 'z' then some (c.toNat - 97)
  else if '0' ≤ c ∧ c ≤ '9' then some (c.toNat - 22)
  else none

/-- A digit below its threshold is the last one of a number. The threshold of the digit at a position,
counted in steps of 36, lies between 1 and 26. -/
def threshold (bias position : Nat) : Nat :=
  max 1 (min 26 (position - bias))

theorem threshold_pos (bias position : Nat) : 1 ≤ threshold bias position :=
  Nat.le_max_left _ _

/-- A number made smaller until it is at most 455, and the positions that this takes. -/
def settle (n position : Nat) : Nat :=
  if 455 < n then settle (n / 35) (position + 36) else position + 36 * n / (n + 38)
termination_by n
decreasing_by exact Nat.div_lt_self (by omega) (by decide)

/-- The bias after a number of steps that brought the label to a length. The first number of all is
commonly large. -/
def adapt (isFirst : Bool) (steps length : Nat) : Nat :=
  let part := steps / (if isFirst then 700 else 2)
  settle (part + part / length) 0

/-! ## To ASCII -/

def digits (bias position n : Nat) : List Char :=
  let t := threshold bias position
  if n < t then [digit n]
  else digit (t + (n - t) % (36 - t)) :: digits bias (position + 36) ((n - t) / (36 - t))
termination_by n
decreasing_by
  have := threshold_pos bias position
  exact Nat.lt_of_le_of_lt (Nat.div_le_self _ _) (by omega)

/-- What has been written: the characters, in reverse, the steps since the last of them, the bias and
how many characters of the label are there. -/
structure Writing where
  written : List Char
  steps : Nat
  bias : Nat
  length : Nat

/-- One place of the label, in the round for a character. -/
def Writing.visit (isFirst : Nat → Bool) (point : Nat) (w : Writing) (c : Char) : Writing :=
  if c.toNat < point then { w with steps := w.steps + 1 }
  else if c.toNat = point then
    ⟨(digits w.bias 36 w.steps).reverse ++ w.written, 0,
      adapt (isFirst w.length) w.steps (w.length + 1), w.length + 1⟩
  else w

/-- A round through the label for each of its characters outside ASCII. -/
def rounds (label : List Char) (isFirst : Nat → Bool) : (start : Nat) → List Nat → Writing → Writing
  | _, [], w => w
  | start, point :: rest, w =>
    let w := { w with steps := w.steps + (point - start) * (w.length + 1) }
    let w := label.foldl (Writing.visit isFirst point) w
    rounds label isFirst (point + 1) rest { w with steps := w.steps + 1 }

/-- The form of a label in ASCII. -/
def encode (label : List Char) : List Char :=
  let basic := label.filter (·.toNat < 128)
  let others := (label.filter (128 ≤ ·.toNat)).map Char.toNat
  let points := (others.mergeSort (· ≤ ·)).eraseReps
  let w := rounds label (· == basic.length) 128 points ⟨[], 0, 72, basic.length⟩
  (if basic.isEmpty then [] else basic ++ ['-']) ++ w.written.reverse

/-! ## From ASCII -/

/-- What has been read: the label, the character and the place of the last step, the bias, and of the
number that is being read its position, the weight of its next digit and what it is so far. -/
structure Reading where
  label : List Char
  point : Nat
  place : Nat
  bias : Nat
  position : Nat
  weight : Nat
  steps : Nat

/-- A number has been read: its steps lead to a character and to the place of it. -/
def Reading.finish? (r : Reading) : Option Reading :=
  let length := r.label.length + 1
  let reached := r.place + r.steps
  let point := r.point + reached / length
  if point.isValidChar then
    some ⟨r.label.insertIdx (reached % length) (Char.ofNat point), point, reached % length + 1,
      adapt (r.place == 0) r.steps length, 36, 1, 0⟩
  else none

def Reading.take? (r : Reading) (c : Char) : Option Reading :=
  (value? c).bind fun n =>
    let t := threshold r.bias r.position
    let r := { r with steps := r.steps + n * r.weight }
    if n < t then r.finish?
    else some { r with position := r.position + 36, weight := r.weight * (36 - t) }

/-- The label of a form in ASCII with small letters. What stands before the last hyphen is as it is,
unless the hyphen is the first character; no number may be without its last digit. -/
def decode? (form : List Char) : Option (List Char) :=
  let ending := (form.reverse.takeWhile (· != '-')).reverse
  let basic := form.take (form.length - ending.length - 1)
  let numbers := if basic.isEmpty then form else ending
  (numbers.foldlM Reading.take? ⟨basic, 128, 0, 72, 36, 1, 0⟩).bind fun r =>
    if r.position = 36 then some r.label else none

end StepEngine.Hostname.Punycode
