import StepEngine.Text.Composition
import StepEngine.Text.Direction
import StepEngine.Text.Joining
import StepEngine.Hostname.Mapping
import StepEngine.Hostname.Punycode
/-!
# Labels

A name of a machine is made of labels. A label has a form in ASCII, that is sent, and a form that is
shown.

* `Label.isAscii` : a label of letters, digits and hyphens;
* `Label.read?` : the two forms of a label in plain spelling;
* `Label.isSound` : what holds of each label;
* `Label.hasSoundDirection` : what holds of each label if one of them runs to the left.
-/

namespace StepEngine.Hostname

structure Label where
  sent : List Char
  shown : List Char

namespace Label

/-- A label of letters, digits and hyphens, of which none stands at an end. -/
def isAscii (cs : List Char) : Bool :=
  !cs.isEmpty && cs.length ≤ 63 && cs.head? != some '-' && cs.getLast? != some '-' &&
    cs.all fun c => c.isAlphanum || c == '-'

/-- The sign of a form in ASCII that stands for other characters. -/
def codeSign : List Char := "xn--".toList

/-- A shown label that its form in ASCII may stand for: composed, of plain characters, with one of
them outside ASCII. -/
def isCodable (cs : List Char) : Bool :=
  cs.any (128 ≤ ·.toNat) && cs.all Mapping.isPlain && Text.composed cs == cs

/-- The two forms of a label in plain spelling. A form in ASCII has at least as many characters as the
label, and at most 63. -/
def read? (cs : List Char) : Option Label :=
  if 63 < cs.length then none
  else if cs.any (128 ≤ ·.toNat) then
    if cs.take 4 == codeSign then none else some ⟨codeSign ++ Punycode.encode cs, cs⟩
  else if cs.take 4 == codeSign then
    match Punycode.decode? (cs.drop 4) with
    | some shown => if isCodable shown then some ⟨cs, shown⟩ else none
    | none => none
  else some ⟨cs, cs⟩

/-- The hyphens of a shown label stand at no end, and not at the third and fourth place together. -/
def hasSoundHyphens (cs : List Char) : Bool :=
  cs.head? != some '-' && cs.getLast? != some '-' && (cs.drop 2).take 2 != ['-', '-']

/-- The marks that no label begins with. -/
def marks : Text.CharSet :=
  (Text.Category.set ["Mn", "Mc", "Me"]).union (Text.Recent.marks.union Text.Recent.spacingMarks)

/-- A sign that joins the letters on its sides follows a virama; one that keeps them apart does so
too, or stands between letters that would be joined. The characters before come last one first. -/
def hasSoundJoiners : (before : List Char) → List Char → Bool
  | _, [] => true
  | before, c :: rest =>
    let follows := before.head?.any Text.isVirama
    let parts :=
      ((before.dropWhile Text.Joining.isTransparent).head?.any Text.Joining.joinsAfter) &&
        ((rest.dropWhile Text.Joining.isTransparent).head?.any Text.Joining.joinsBefore)
    (c.toNat != 0x200D || follows) && (c.toNat != 0x200C || follows || parts) &&
      hasSoundJoiners (c :: before) rest

def isSound (l : Label) : Bool :=
  1 ≤ l.sent.length && l.sent.length ≤ 63 && hasSoundHyphens l.shown &&
    l.shown.all (fun c => 128 ≤ c.toNat || c.isLower || c.isDigit || c == '-') &&
    !l.shown.head?.any marks.contains && hasSoundJoiners [] l.shown

/-! ## Directions -/

/-- A character that makes a name run to the left. -/
def turns (c : Char) : Bool :=
  match Text.Direction.ofChar c with
  | .left | .arabic | .arabicNumber => true
  | _ => false

/-- The kind of the last character that is no mark. -/
def lastKind? (kinds : List Text.Direction) : Option Text.Direction :=
  (kinds.reverse.dropWhile (· == .mark)).head?

/-- A label begins with a letter. One that runs to the right ends with a letter or a number of its own
direction and has no other letters. One that runs to the left ends with a letter or a number, has
no letters to the right, and does not have numbers of both kinds. -/
def hasSoundDirection (cs : List Char) : Bool :=
  let kinds := cs.map Text.Direction.ofChar
  let isAmong := fun (allowed : List Text.Direction) (kind : Text.Direction) => allowed.contains kind
  match kinds.head? with
  | some .right =>
    kinds.all (isAmong [.right, .number, .numberSign, .mark, .neutral]) &&
      (lastKind? kinds).any (isAmong [.right, .number])
  | some .left | some .arabic =>
    kinds.all (isAmong [.left, .arabic, .arabicNumber, .number, .numberSign, .mark, .neutral]) &&
      (lastKind? kinds).any (isAmong [.left, .arabic, .arabicNumber, .number]) &&
      !(kinds.contains .number && kinds.contains .arabicNumber)
  | _ => false

end Label

end StepEngine.Hostname
