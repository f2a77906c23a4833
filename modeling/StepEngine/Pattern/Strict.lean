import StepEngine.Pattern.Class
import StepEngine.Text.Letter
/-!
# The strict grammar of patterns

* `Strict.Nesting` : how deep the parts of an expression are nested;
* `Strict.check` : where a pattern of the strict grammar has short classes, or its first fault;
* `Pattern.spelling?` : a text as it is matched and shown.

In the strict grammar a quantifier needs something to repeat, flags and names of groups are not given
twice, nothing is nested too deep, and there is neither look-around nor a back-reference. A text that
keeps to it is matched with its short classes written out in ASCII, which leaves comments alone; one
that would keep to it but for look-around or a back-reference is matched as it stands. In both, the
escape `\c` and a letter is written as the control character it means.
-/

namespace StepEngine.Pattern

namespace Strict

/-- What stands before a quantifier. -/
inductive Before where
  | nothing
  | flags
  | something
  deriving DecidableEq

/-- How deep an expression is nested: of the parts in a row at hand, their number, the deepest and the
last one, and the deepest of the options before them, if there are any. -/
structure Nesting where
  parts : Nat
  deepest : Nat
  last : Nat
  options : Option Nat

namespace Nesting

def start : Nesting := ⟨0, 0, 0, none⟩

def part (n : Nesting) (depth : Nat) : Nesting :=
  { n with parts := n.parts + 1, deepest := max n.deepest depth, last := depth }

def repeated (n : Nesting) : Nesting :=
  { n with deepest := max n.deepest (n.last + 1), last := n.last + 1 }

/-- The depth of the parts in a row: several are one level above each of them. -/
def row (n : Nesting) : Nat :=
  if 2 ≤ n.parts then n.deepest + 1 else n.deepest

/-- The parts in a row are an option, and another one follows. -/
def option (n : Nesting) : Nesting :=
  ⟨0, 0, 0, some (max n.row (n.options.getD 0))⟩

def depth (n : Nesting) : Nat :=
  match n.options with
  | some deepest => max n.row deepest + 1
  | none => n.row

end Nesting

/-- What has been read: what stands before the rest, whether blanks are skipped here, how deep the group
at hand is nested, the same two around each open group, the names of groups, for each short class how
many characters there are from its backslash on, whether the escape of the bell stands outside all
classes, and the rest. -/
structure Progress where
  before : Before
  spaced : Bool
  nesting : Nesting
  around : List (Bool × Nesting)
  names : List (List Char)
  shorts : List Nat
  rings : Bool
  rest : List Char

/-- A number laid out with blanks. -/
def readCount (spaced : Bool) : (fuel : Nat) → (read : List Char) → List Char → List Char × List Char
  | 0, read, cs => (read.reverse, cs)
  | fuel + 1, read, cs =>
    match cs with
    | c :: rest =>
      if c.isDigit then readCount spaced fuel (c :: read) (skip spaced rest)
      else (read.reverse, skip spaced (cs.dropWhile Text.isBlank))
    | [] => (read.reverse, [])

/-- A number below `2 ^ 32`. -/
def count? (spaced : Bool) (cs : List Char) : Option (Nat × List Char) :=
  let cs := cs.dropWhile Text.isBlank
  let (digits, rest) := readCount spaced (cs.length + 1) [] cs
  let n := digits.foldl (fun n d => 10 * n + (d.toNat - 48)) 0
  if digits.isEmpty || Nat.pow 2 32 ≤ n then none else some (n, rest)

/-- What follows a quantifier of counts, after its opening brace. -/
def afterCounts? (spaced : Bool) (cs : List Char) : Option (List Char) := do
  let (least, rest) ← count? spaced (skip spaced cs)
  match rest with
  | '\x7d' :: rest => some (skip spaced rest)
  | ',' :: rest =>
    match skip spaced rest with
    | '\x7d' :: rest => some (skip spaced rest)
    | rest =>
      match ← count? spaced rest with
      | (most, '\x7d' :: rest) => if least ≤ most then some (skip spaced rest) else none
      | _ => none
  | _ => none

/-- Flags up to a colon or the closing parenthesis: what they do about blanks, and whether there are
any. -/
def readFlags : (fuel : Nat) → (seen : List Char) → (spaced : Option Bool) → List Char →
    Option (Option Bool × List Char × List Char)
  | 0, _, _, _ => none
  | fuel + 1, seen, spaced, cs =>
    match cs with
    | ':' :: _ | ')' :: _ => if seen.head? == some '-' then none else some (spaced, seen, cs)
    | c :: rest =>
      if seen.contains c || !"imsUuRx-".toList.contains c then none
      else
        let spaced := if c = 'x' then some (!seen.contains '-') else spaced
        readFlags fuel (c :: seen) spaced rest
    | [] => none

/-- The name of a group and what follows its closing mark. -/
def readName (cs : List Char) : Option (List Char × List Char) :=
  let isLater := fun c : Char =>
    Text.isAlphanumeric c || c == '_' || c == '.' || c == '[' || c == ']'
  let name := cs.takeWhile isLater
  match name, cs.drop name.length with
  | c :: _, '>' :: rest => if c == '_' || Text.isAlphabetic c then some (name, rest) else none
  | _, _ => none

namespace Progress

/-- Past something that may be repeated. -/
def after (p : Progress) (depth : Nat) (rest : List Char) : Progress :=
  { p with before := .something, nesting := p.nesting.part depth, rest := rest }

/-- Into a group, in which blanks are skipped or not. -/
def enter (p : Progress) (spaced : Bool) (rest : List Char) : Progress :=
  { p with
    before := .nothing, spaced := spaced, nesting := .start,
    around := (p.spaced, p.nesting) :: p.around, rest := rest }

def leave (p : Progress) (rest : List Char) : Except Fault Progress :=
  match p.around with
  | (spaced, nesting) :: around =>
    .ok ({ p with spaced := spaced, nesting := nesting, around := around }.after
      (p.nesting.depth + 1) rest)
  | [] => .error .other

def enterNamed (p : Progress) (cs : List Char) : Except Fault Progress :=
  match readName cs with
  | some (name, rest) =>
    if p.names.contains name then .error .other
    else .ok { p.enter p.spaced rest with names := name :: p.names }
  | none => .error .other

def openGroup (p : Progress) (cs : List Char) : Except Fault Progress :=
  match skip p.spaced cs with
  | '?' :: '=' :: _ | '?' :: '!' :: _ | '?' :: '<' :: '=' :: _ | '?' :: '<' :: '!' :: _ =>
    .error .lookAround
  | '?' :: 'P' :: '<' :: rest | '?' :: '<' :: rest => p.enterNamed rest
  | '?' :: rest =>
    match readFlags (rest.length + 1) [] none rest with
    | some (spaced, _, ':' :: rest) => .ok (p.enter (spaced.getD p.spaced) rest)
    | some (spaced, _ :: _, ')' :: rest) =>
      .ok { p with
        before := .flags, spaced := spaced.getD p.spaced, nesting := p.nesting.part 0, rest := rest }
    | _ => .error .other
  | cs => .ok (p.enter p.spaced cs)

/-- Past a quantifier of one sign or of counts; `rest` follows it. -/
def repeated (p : Progress) (rest : List Char) : Except Fault Progress :=
  if p.before = .something then
    let rest :=
      match rest with
      | '?' :: rest => rest
      | rest => rest
    .ok { p with nesting := p.nesting.repeated, rest := rest }
  else .error .other

def step (p : Progress) (c : Char) (rest : List Char) : Except Fault Progress :=
  match c with
  | '(' => p.openGroup rest
  | ')' => p.leave rest
  | '|' => .ok { p with before := .nothing, nesting := p.nesting.option, rest := rest }
  | '[' => do
    let (found, rest) ← readClass ⟨p.spaced, false, true⟩ (2 * rest.length + 2) rest
    .ok ({ p with shorts := found.shorts ++ p.shorts }.after found.depth rest)
  | '*' | '+' | '?' => p.repeated rest
  | '\x7b' =>
    if p.before = .something then
      match afterCounts? p.spaced rest with
      | some rest => p.repeated rest
      | none => .error .other
    else .error .other
  | '\\' => do
    let (escape, after) ← readEscape p.spaced rest
    let shorts := if escape.isShort then (rest.length + 1) :: p.shorts else p.shorts
    .ok ({ p with shorts := shorts, rings := p.rings || rest.head? == some 'a' }.after 0 after)
  | _ => .ok (p.after 0 rest)

end Progress

/-- The steps up to the end of a text: the short classes in it, in order. -/
def run : (fuel : Nat) → Progress → Except Fault (List Nat)
  | 0, _ => .error .other
  | fuel + 1, p =>
    match skip p.spaced p.rest with
    | [] =>
      if p.around.isEmpty && p.nesting.depth ≤ nestingLimit && !p.rings then .ok p.shorts.reverse
      else .error .other
    | c :: rest => do
      let p ← p.step c rest
      run fuel p

/-- For each short class of a pattern of the strict grammar, in order, how many characters there are
from its backslash on; or the first fault. -/
def check (cs : List Char) : Except Fault (List Nat) :=
  run (cs.length + 1) ⟨.nothing, false, .start, [], [], [], false, cs⟩

end Strict

/-! ## Spelling -/

def shortClasses : List (Char × String) := [
  ('d', "[0-9]"),
  ('D', "[^0-9]"),
  ('w', "[A-Za-z0-9_]"),
  ('W', "[^A-Za-z0-9_]"),
  ('s', "[ \t\n\r\x0b\x0c\u00a0\ufeff\u2003\u2029]"),
  ('S', "[^ \t\n\r\x0b\x0c\u00a0\ufeff\u2003\u2029]")]

/-- A text of a length with the short classes in it written out, each given by how many characters there
are from its backslash on. -/
def spellOut : (shorts : List Nat) → (length : Nat) → List Char → List Char
  | short :: shorts, length, mark :: letter :: rest =>
    if short = length then
      ((shortClasses.lookup letter).getD "").toList ++ spellOut shorts (length - 2) rest
    else mark :: spellOut (short :: shorts) (length - 1) (letter :: rest)
  | _, _, rest => rest

/-- A text with the escape `\c` and a letter, which `left` characters follow up to the letter, written
as a control character. -/
def spellControl? (cs : List Char) (left : Nat) : Option (List Char) :=
  match cs.drop (cs.length - left) with
  | letter :: rest =>
    if letter.isAlpha then
      some (cs.take (cs.length - left - 2) ++ Char.ofNat (letter.toNat % 32) :: rest)
    else none
  | [] => none

/-- A text as it is matched. Each round writes one control character, for two characters less. -/
def spell? : (fuel : Nat) → List Char → Option (List Char)
  | 0, _ => none
  | fuel + 1, cs =>
    match Strict.check cs with
    | .ok shorts => some (spellOut shorts cs.length cs)
    | .error .lookAround | .error .backReference => some cs
    | .error (.unknownEscape 'c' left) => (spellControl? cs left).bind (spell? fuel)
    | .error _ => none

/-- A text as it is matched and shown, if it is a pattern. -/
def spelling? (text : String) : Option String :=
  (spell? (text.length + 1) text.toList).map String.ofList

end StepEngine.Pattern
