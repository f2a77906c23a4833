import StepEngine.Text.Blank
import StepEngine.Text.Hex
/-!
# Escapes of patterns

* `Pattern.Fault` : why a text is no pattern of the strict grammar;
* `Pattern.skip` : the blanks and comments that a pattern may be laid out with;
* `Pattern.Escape` : what an escape stands for;
* `Pattern.readEscape` : the escape at the start of a text, after its backslash.

The digits of an escape by number and the name of a property may be laid out with blanks too.
-/

namespace StepEngine.Pattern

/-- Why a text is no pattern of the strict grammar. For an unknown escape: its letter, and how many
characters follow. -/
inductive Fault where
  | lookAround
  | backReference
  | unknownEscape (letter : Char) (left : Nat)
  | other
  deriving DecidableEq

/-- The characters after blanks and comments; a comment goes up to the end of its line. -/
def skipFrom : (inComment : Bool) → List Char → List Char
  | _, [] => []
  | true, c :: rest => skipFrom (c != '\n') rest
  | false, c :: rest =>
    if Text.isBlank c then skipFrom false rest
    else if c = '#' then skipFrom true rest
    else c :: rest

/-- The same, when a pattern is laid out with blanks. -/
def skip (spaced : Bool) (cs : List Char) : List Char :=
  if spaced then skipFrom false cs else cs

def charOf? (n : Nat) : Option Char :=
  if n < 0xD800 ∨ (0xDFFF < n ∧ n < 0x110000) then some (Char.ofNat n) else none

inductive Escape where
  | char (c : Char)
  /-- Digits, blanks, or characters of words; or, with a capital letter, the others. -/
  | short (letter : Char)
  | property (negated : Bool) (name : List Char)
  | assertion
  deriving DecidableEq

def Escape.isShort : Escape → Bool
  | short _ => true
  | _ => false

def readDigits (spaced : Bool) : (count : Nat) → (read : List Char) → List Char →
    Except Fault (List Char × List Char)
  | 0, read, cs => .ok (read.reverse, cs)
  | count + 1, read, c :: rest =>
    if Hex.isDigit c then readDigits spaced count (c :: read) (skip spaced rest) else .error .other
  | _ + 1, _, [] => .error .other

/-- Characters up to a closing brace. -/
def readBraced (spaced : Bool) : (fuel : Nat) → (read : List Char) → List Char →
    Except Fault (List Char × List Char)
  | 0, _, _ => .error .other
  | fuel + 1, read, cs =>
    match skip spaced cs with
    | [] => .error .other
    | '\x7d' :: rest => .ok (read.reverse, rest)
    | c :: rest => readBraced spaced fuel (c :: read) rest

/-- An escape by number: digits, or digits between braces. -/
def readNumber (spaced : Bool) (count : Nat) (cs : List Char) : Except Fault (Escape × List Char) := do
  let (digits, rest) ←
    match skip spaced cs with
    | '\x7b' :: rest => readBraced spaced (rest.length + 1) [] rest
    | cs => readDigits spaced count [] cs
  match charOf? (Hex.number digits) with
  | some c =>
    if digits.isEmpty || !digits.all Hex.isDigit then .error .other else .ok (.char c, skip spaced rest)
  | none => .error .other

/-- A property: one letter, or a name between braces. -/
def readProperty (spaced negated : Bool) (cs : List Char) : Except Fault (Escape × List Char) :=
  match skip spaced cs with
  | '\x7b' :: rest => do
    let (name, rest) ← readBraced spaced (rest.length + 1) [] rest
    .ok (.property negated name, rest)
  | '\\' :: _ | [] => .error .other
  | c :: rest => .ok (.property negated [c], skip spaced rest)

/-- The kinds of boundaries of words that a brace can name. -/
def boundaryNames : List String := ["start", "end", "start-half", "end-half"]

/-- What follows a boundary of a word and the name of its kind, if there is one. -/
def afterBoundary (spaced : Bool) (cs : List Char) : Except Fault (List Char) :=
  let isNameChar := fun c : Char => c.isAlpha || c == '-'
  match cs with
  | '\x7b' :: rest =>
    match skip spaced rest with
    | [] => .error .other
    | c :: _ =>
      if isNameChar c then do
        let (name, rest) ← readBraced spaced (rest.length + 1) [] rest
        if boundaryNames.contains (String.ofList name) then .ok rest else .error .other
      else .ok cs
  | _ => .ok cs

def readEscape (spaced : Bool) (cs : List Char) : Except Fault (Escape × List Char) :=
  match cs with
  | [] => .error .other
  | c :: rest =>
    if c.isDigit then .error .backReference
    else
      match c with
      | 'x' => readNumber spaced 2 rest
      | 'u' => readNumber spaced 4 rest
      | 'U' => readNumber spaced 8 rest
      | 'p' => readProperty spaced false rest
      | 'P' => readProperty spaced true rest
      | 'd' | 'D' | 's' | 'S' | 'w' | 'W' => .ok (.short c, rest)
      | 'a' => .ok (.char (Char.ofNat 7), rest)
      | 'f' => .ok (.char (Char.ofNat 12), rest)
      | 't' => .ok (.char '\t', rest)
      | 'n' => .ok (.char '\n', rest)
      | 'r' => .ok (.char '\r', rest)
      | 'v' => .ok (.char (Char.ofNat 11), rest)
      | 'b' => do
        let rest ← afterBoundary spaced rest
        .ok (.assertion, rest)
      | 'A' | 'z' | 'B' | '<' | '>' => .ok (.assertion, rest)
      | _ =>
        if c.isAlpha || 128 ≤ c.toNat then .error (.unknownEscape c rest.length)
        else .ok (.char c, rest)

end StepEngine.Pattern
