/-!
# Hexadecimal digits

* `Hex.isDigit`, `Hex.value` : the sixteen digits in both cases and what they stand for;
* `Hex.number` : the number a list of digits spells;
* `Hex.spell` : a number in a fixed count of lower-case digits.
-/

namespace StepEngine.Hex

/-- One of `0-9`, `a-f`, `A-F`. -/
def isDigit (c : Char) : Bool :=
  ('0' ≤ c && c ≤ '9') || ('a' ≤ c && c ≤ 'f') || ('A' ≤ c && c ≤ 'F')

/-- What a digit stands for; zero for a character that is no digit. -/
def value (c : Char) : Nat :=
  if '0' ≤ c && c ≤ '9' then c.toNat - 48
  else if 'a' ≤ c && c ≤ 'f' then c.toNat - 87
  else if 'A' ≤ c && c ≤ 'F' then c.toNat - 55
  else 0

/-- The number a list of digits spells, first digit most significant. -/
def number (cs : List Char) : Nat :=
  cs.foldl (fun n c => 16 * n + value c) 0

def digit (n : Nat) : Char :=
  if n < 10 then Char.ofNat (48 + n) else Char.ofNat (87 + n)

/-- The last `width` lower-case digits of `n`. -/
def spell : (width : Nat) → (n : Nat) → List Char
  | 0, _ => []
  | width + 1, n => spell width (n / 16) ++ [digit (n % 16)]

theorem length_spell (width n : Nat) : (spell width n).length = width := by
  induction width generalizing n with
  | zero => rfl
  | succ width ih => simp [spell, ih]

end StepEngine.Hex
