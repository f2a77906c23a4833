import StepEngine.Text.Ascending
import StepEngine.Text.Hex
import StepEngine.Text.Blank
/-!
# Substitutions of characters

A substitution gives texts to some characters. Its table is a list of entries between blanks, with
hexadecimal numbers: `@C0` is the place of the next entry, `41.300` gives the character at the place
two characters, `61+1A` gives `1A` characters in a row what follows U+0061, and `101*23` does so for
every second character. An entry moves the place behind what it is about.

* `Substitution.ofTable` : the substitution of a table;
* `Substitution.find?` : the text of a character.
-/

namespace StepEngine.Text

/-- Characters at the same distance from each other, and the text of the first of them. The last
character of the text grows with them. -/
structure Substitution.Row where
  first : Nat
  count : Nat
  step : Nat
  target : List Nat

/-- The rows in ascending order, of which none begins inside another. -/
structure Substitution where
  rows : Array Substitution.Row

namespace Substitution

structure Progress where
  rows : Array Row
  place : Nat

/-- A digit or the point between numbers. -/
def isTargetSign (c : Char) : Bool :=
  Hex.isDigit c || c == '.'

def Progress.take (p : Progress) : List Char → Progress
  | '@' :: digits => { p with place := Hex.number digits }
  | entry =>
    let target := (split (· == '.') (entry.takeWhile isTargetSign)).map Hex.number
    let (count, step) :=
      match entry.dropWhile isTargetSign with
      | '*' :: digits => (Hex.number digits, 2)
      | _ :: digits => (Hex.number digits, 1)
      | [] => (1, 1)
    ⟨p.rows.push ⟨p.place, count, step, target⟩, p.place + count * step⟩

def ofTable (table : List String) : Substitution :=
  ⟨(table.foldl (fun p line => (fields line.toList).foldl Progress.take p) ⟨#[], 0⟩).rows⟩

def Row.find? (r : Row) (c : Nat) : Option (List Nat) :=
  if c < r.first + r.count * r.step ∧ (c - r.first) % r.step = 0 then
    some (r.target.map (· + (c - r.first)))
  else none

def find? (s : Substitution) (c : Char) : Option (List Char) :=
  (Ascending.lastUpTo? Row.first s.rows c.toNat).bind fun r =>
    (r.find? c.toNat).map (·.map Char.ofNat)

end Substitution

end StepEngine.Text
