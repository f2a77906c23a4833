import StepEngine.Text.CharSet
/-!
# Tables of characters

A table gives a property of all characters in their order, from U+0000 on. A run is a label and the
characters in a row that carry it.

* `Run.readAll` : the runs of a table that gives for each run its label and its length;
* `Run.set` : the characters under some of the labels;
* `Run.toggled` : the set of a table that gives by turns the lengths of what is outside and inside.
-/

namespace StepEngine.Text

/-- A label and the first and last character of a run. -/
structure Run where
  label : String
  first : Nat
  last : Nat
  deriving Inhabited

namespace Run

/-- What has been read of a table: the runs, last one first, the place of the next, and the letters
and digits of the one being read. -/
structure Progress where
  runs : List Run
  place : Nat
  letters : List Char
  length : Nat

def Progress.finish (p : Progress) : Progress :=
  if p.length = 0 then p
  else
    ⟨⟨String.ofList p.letters.reverse, p.place, p.place + p.length - 1⟩ :: p.runs,
      p.place + p.length, [], 0⟩

/-- One character more. A letter after a digit starts a run. -/
def Progress.take (p : Progress) (c : Char) : Progress :=
  if c.isDigit then { p with length := 10 * p.length + (c.toNat - 48) }
  else
    let p := p.finish
    { p with letters := c :: p.letters }

/-- The runs of a table of labels, each followed by a length. -/
def readAll (table : List String) : List Run :=
  let p := table.foldl (fun p line => line.foldl Progress.take p) ⟨[], 0, [], 0⟩
  p.finish.runs.reverse

/-- The characters under the labels that satisfy `p`. -/
def set (p : String → Bool) (runs : List Run) : CharSet :=
  .ofRanges ((runs.filter fun r => p r.label).map fun r => (r.first, r.last))

/-- The numbers between the blanks of a text. -/
def numbers (line : String) : List Nat :=
  let step := fun (read : List Nat × Nat) (c : Char) =>
    if c.isDigit then (read.1, 10 * read.2 + (c.toNat - 48)) else (read.2 :: read.1, 0)
  let read := line.foldl step ([], 0)
  (read.2 :: read.1).reverse

/-- Ranges from lengths that are by turns outside and inside, from a place on. -/
def ranges : (place : Nat) → List Nat → List (Nat × Nat)
  | place, outside :: inside :: rest =>
    (place + outside, place + outside + inside - 1) :: ranges (place + outside + inside) rest
  | place, [outside] =>
    if place + outside ≤ CharSet.greatest then [(place + outside, CharSet.greatest)] else []
  | _, [] => []

/-- The set of a table of lengths. After the last of them the other side goes on to the end. -/
def toggled (table : List String) : CharSet :=
  .ofRanges (ranges 0 (table.flatMap numbers))

end Run

end StepEngine.Text
