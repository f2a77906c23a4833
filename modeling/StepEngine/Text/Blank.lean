/-!
# Blank characters and fields

* `Text.isBlank` : the characters with the Unicode property White_Space;
* `Text.trimBlanks` : a list without the blanks at its two ends;
* `Text.isAllBlank` : nothing but blanks;
* `Text.split` : the pieces between the characters of a class, empty ones included;
* `Text.fields` : the pieces between runs of blanks.
-/

namespace StepEngine.Text

/-- The property White_Space. -/
def isBlank (c : Char) : Bool :=
  let n := c.toNat
  (9 ≤ n && n ≤ 13) || n == 0x20 || n == 0x85 || n == 0xA0 || n == 0x1680 ||
    (0x2000 ≤ n && n ≤ 0x200A) || n == 0x2028 || n == 0x2029 || n == 0x202F ||
    n == 0x205F || n == 0x3000

def trimBlanks (cs : List Char) : List Char :=
  ((cs.dropWhile isBlank).reverse.dropWhile isBlank).reverse

/-- A text of blanks only; the empty text is one. -/
def isAllBlank (s : String) : Bool :=
  s.toList.all isBlank

/-- The pieces between the characters that satisfy `p`: one more than there are such characters. -/
def split (p : Char → Bool) : List Char → List (List Char)
  | [] => [[]]
  | c :: cs =>
    if p c then [] :: split p cs
    else
      match split p cs with
      | [] => [[c]]
      | piece :: rest => (c :: piece) :: rest

/-- The pieces between runs of blanks. -/
def fields (cs : List Char) : List (List Char) :=
  (split isBlank cs).filter (!·.isEmpty)

theorem split_ne_nil (p : Char → Bool) (cs : List Char) : split p cs ≠ [] := by
  cases cs with
  | nil => simp [split]
  | cons c cs =>
    rw [split]
    split
    · simp
    · split <;> simp

end StepEngine.Text
