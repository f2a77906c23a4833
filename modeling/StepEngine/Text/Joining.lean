import StepEngine.Text.Category
import StepEngine.Text.Recent
/-!
# Joined letters

In some scripts a letter is joined to the letters on its sides.

* `Joining.both`, `onlyAfter`, `onlyBefore` : letters that are joined to both neighbours, to the
  one that follows, to the one before;
* `Joining.isTransparent` : marks and signs that do not come between two letters.
-/

namespace StepEngine.Text.Joining

/-- Letters that are joined to both neighbours. -/
def both : CharSet := Run.toggled [
  "1568 1 5 1 1 1 1 5 4 13 1 7 1 2 35 2 8 16 18 38 1 2 9 1 1 1 1 2 40 3 2 1 18 3 5 4 1 9 1 1 1",
  "1 1 2 31 11 3 15 2 4 1 1 2 3 2 6 74 33 86 5 2 1 1 10 1 1 10 1 1 4 2 1 29 1 2 5 1 1 16 10 5 2",
  "2 6 1 15 3902 1 24 89 14 34 1 1 36757 50 25166 5 14 4 1 5 1 3 10 4 145 1 1 1 3 3 1 2 1 1 2 1",
  "28 2 338 33 1 1 415 2 1 2 104 3 1 17 12 3 28 4 2 12 46 1 1 2 4 1 2 2 1 2 1 1 2 1 5 1 55605",
  "68"]

/-- Letters that are joined to the letter before them alone. -/
def onlyBefore : CharSet := Run.toggled [
  "1570 4 1 1 1 1 5 4 21 1 40 3 1 3 16 18 38 1 2 9 1 1 1 1 2 2 1 1 24 2 32 1 4 5 4 1 9 1 1 1 1",
  "1 2 1 29 1 11 3 15 2 4 1 1 2 3 2 198 1 5 2 1 1 10 1 1 3 14 1 1 2 5 19 11 1 27 3 1 1 2 2 6 1",
  "66059 1 1 1 1 2 3 5 10 1 3 1 2 1 10 1 145 1 1 3 3 1 2 1 1 2 1 1 23 4 373 1 415 1 112 1 32 1",
  "31 2 62 3 2 2 2 1 4 2 5 1"]

/-- Letters that are joined to the letter after them alone. -/
def onlyAfter : CharSet := Run.toggled [
  "43122 1 25178 1 9 1 552 1 714 1"]

/-- Marks and signs that do not come between two letters. -/
def transparent : CharSet :=
  let apart : CharSet := .ofRanges [(0x600, 0x605), (0x6DD, 0x6DD), (0x890, 0x891), (0x8E2, 0x8E2),
    (0x180E, 0x180E), (0x200C, 0x200D), (0x2066, 0x2069), (0x110BD, 0x110BD), (0x110CD, 0x110CD)]
  let signs := (Category.set ["Mn", "Me", "Cf"]).diff apart
  (signs.union Recent.marks).union (.ofRanges [(0x1E94B, 0x1E94B)])

/-- A mark or a sign that does not come between two letters. -/
def isTransparent (c : Char) : Bool :=
  transparent.contains c

def joinsAfter (c : Char) : Bool :=
  both.contains c || onlyAfter.contains c

def joinsBefore (c : Char) : Bool :=
  both.contains c || onlyBefore.contains c

end StepEngine.Text.Joining
