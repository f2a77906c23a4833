import StepEngine.Pattern.Class
import StepEngine.Pattern.Regex
/-!
# Tokens of patterns

* `Reading` : what is known in the course of reading a pattern, and the rest of it;
* `Read` : a reader that can refuse;
* `Token` : a character, a class spelled as a text, or an expression;
* `Read.token`, `Read.bracketed` : the escape and the class at the place at hand;
* `counts?` : the counts of a quantifier.

A group can be named by its number, by its name, or by how many groups back it was opened. Only groups
that have been opened can be named.
-/

namespace StepEngine.Pattern

open Text (CharSet)

structure Flags where
  anyCase : Bool
  multiLine : Bool
  dotAll : Bool
  swapGreed : Bool
  spaced : Bool

def Flags.none : Flags := ⟨false, false, false, false, false⟩

/-- What is known in the course of reading a pattern: how many groups have been opened, their names, the
last one first, whether one has been named by number, which ones, and the rest. -/
structure Reading where
  rest : List Char
  flags : Flags
  opened : Nat
  names : List (List Char × Nat)
  byNumber : Bool
  awaited : List Nat

/-- A reader of a part of a pattern; it refuses what is no pattern. -/
abbrev Read := StateT Reading Option

/-! ## Blanks and comments -/

/-- Where in blanks and comments a place is. -/
inductive Gap where
  | between
  | line
  | comment
  | escaped

/-- The characters after blanks and comments. A comment in parentheses has to end. -/
def gapFrom? (spaced : Bool) : Gap → List Char → Option (List Char)
  | .between, '(' :: '?' :: '#' :: rest => gapFrom? spaced .comment rest
  | .between, c :: rest =>
    if spaced && c == '#' then gapFrom? spaced .line rest
    else if spaced && (c == ' ' || c == '\r' || c == '\n' || c == '\t') then
      gapFrom? spaced .between rest
    else some (c :: rest)
  | .line, c :: rest => gapFrom? spaced (if c == '\n' then .between else .line) rest
  | .comment, c :: rest =>
    gapFrom? spaced (if c == ')' then .between else if c == '\\' then .escaped else .comment) rest
  | .escaped, _ :: rest => gapFrom? spaced .comment rest
  | .between, [] | .line, [] => some []
  | .comment, [] | .escaped, [] => none

namespace Read

def rest : Read (List Char) := return (← get).rest

def flags : Read Flags := return (← get).flags

def moveTo (rest : List Char) : Read Unit := modify ({ · with rest := rest })

/-- Past blanks and comments. -/
def gap : Read Unit := do
  moveTo (← liftM (gapFrom? (← flags).spaced .between (← rest)))

def expect (c : Char) : Read Unit := do
  match ← rest with
  | found :: after => if found = c then moveTo after else failure
  | [] => failure

end Read

/-! ## Numbers and names -/

/-- A decimal number below `2 ^ 64` and what follows it. -/
def decimal? (cs : List Char) : Option (Nat × List Char) :=
  let digits := cs.takeWhile Char.isDigit
  let n := digits.foldl (fun n d => 10 * n + (d.toNat - 48)) 0
  if digits.isEmpty || Nat.pow 2 64 ≤ n then none else some (n, cs.drop digits.length)

/-- The counts of a quantifier, after its opening brace. No upper count is no limit. -/
def counts? (spaced : Bool) (cs : List Char) : Option (Nat × Option Nat × List Char) := do
  let cs ← gapFrom? spaced .between cs
  let (least, cs) ←
    match cs with
    | ',' :: _ => some (0, cs)
    | _ => decimal? cs
  let cs ← gapFrom? spaced .between cs
  let (most, cs) ←
    match cs with
    | '\x7d' :: _ => some (some least, cs)
    | ',' :: rest => do
      let rest ← gapFrom? spaced .between rest
      match decimal? rest with
      | some (most, rest) => some (some most, rest)
      | none => some (none, rest)
    | _ => none
  match ← gapFrom? spaced .between cs with
  | '\x7d' :: rest => some (least, if most = some (Nat.pow 2 64 - 1) then none else most, rest)
  | _ => none

def isNameChar (c : Char) : Bool := Text.isAlphanumeric c || c == '_'

/-- A name between marks and what follows it; it may start with a minus sign. -/
def marked? (first last : List Char) (signed : Bool) (cs : List Char) :
    Option (List Char × List Char) := do
  guard (first.isPrefixOf cs)
  let cs := cs.drop first.length
  let (sign, later) :=
    match signed, cs with
    | true, '-' :: later => (['-'], later)
    | _, _ => ([], cs)
  let name := later.takeWhile isNameChar
  let after := later.drop name.length
  guard (!(sign ++ name).isEmpty && last.isPrefixOf after)
  some (sign ++ name, after.drop last.length)

/-- The number of a group that is given in digits, or as a count back from the last one opened. -/
def numbered? (opened : Nat) (name : List Char) : Option Nat :=
  match name with
  | '-' :: digits =>
    match decimal? digits with
    | some (0, []) => some 0
    | some (back, []) => if back ≤ opened + 1 then some (opened + 1 - back) else none
    | _ => none
  | digits =>
    match decimal? digits with
    | some (n, []) => some n
    | _ => none

namespace Read

def reference (first last : List Char) (signed : Bool) : Read Nat := do
  let s ← get
  let (name, after) ← liftM (marked? first last signed s.rest)
  let group ← liftM (s.names.lookup name <|> numbered? s.opened name)
  guard (group ≤ s.opened)
  moveTo after
  return group

/-- A group is awaited by a back-reference. -/
def await (group : Nat) : Read Unit :=
  modify fun s => { s with awaited := group :: s.awaited }

end Read

/-! ## Escapes -/

/-- What an escape stands for: a character, which case may matter for, a class spelled as a text, or an
expression. -/
inductive Token where
  | char (c : Char) (folds : Bool)
  | spelled (text : List Char)
  | expression (r : Regex)

/-- The expressions of escapes that stand for no character. In a class they are letters. -/
def placeEscapes : List (Char × Regex) := [
  ('A', .assertion .textStart),
  ('z', .assertion .textEnd),
  ('b', .assertion .wordBoundary),
  ('B', .assertion .noWordBoundary),
  ('<', .assertion .wordStart),
  ('>', .assertion .wordEnd),
  ('K', .keepOut),
  ('G', .searchStart)]

def controls : List (Char × Nat) := [
  ('a', 7), ('b', 8), ('f', 12), ('n', 10), ('r', 13), ('t', 9), ('v', 11), ('e', 27)]

/-- The digits of an escape by number: as many as given, or up to eight between braces. -/
def numberDigits? (count : Nat) (cs : List Char) : Option (List Char × List Char) :=
  let digits := cs.take count
  if digits.length = count && digits.all Hex.isDigit then some (digits, cs.drop count)
  else
    match cs with
    | '\x7b' :: rest =>
      let digits := rest.takeWhile Hex.isDigit
      match rest.drop digits.length with
      | '\x7d' :: after =>
        if digits.isEmpty || 8 < digits.length then none else some (digits, after)
      | _ => none
    | _ => none

namespace Read

def byNumber (count : Nat) (after : List Char) : Read Token := do
  let (digits, after) ← liftM (numberDigits? count after)
  let c ← liftM (charOf? (Hex.number digits))
  moveTo after
  return .char c true

def property (letter : Char) (after : List Char) : Read Token :=
  match after with
  | '\x7b' :: rest =>
    let name := rest.takeWhile (· != '\x7d')
    match rest.drop name.length with
    | last :: after => do
      moveTo after
      return .spelled ('\\' :: letter :: '\x7b' :: name ++ [last])
    | [] => failure
  | c :: rest => do
    moveTo rest
    return .spelled ['\\', letter, c]
  | [] => failure

/-- The group with a number below half the length of the pattern, in bytes. -/
def digitReference (size : Nat) (cs : List Char) : Read Token := do
  let (group, after) ← liftM (decimal? cs)
  guard (group < size / 2 && group ≤ (← get).opened)
  modify ({ · with byNumber := true })
  await group
  moveTo after
  return .expression (.backReference group)

def nameReference (after : List Char) : Read Token := do
  moveTo after
  let group ←
    match after with
    | '\'' :: _ => reference ['\''] ['\''] true
    | _ => reference ['<'] ['>'] true
  await group
  return .expression (.backReference group)

/-- The escape at the place at hand, after its backslash, in a pattern of `size` bytes. -/
def token (size : Nat) (inClass : Bool) : Read Token := do
  match ← rest with
  | [] => failure
  | c :: after =>
    let place := if inClass then none else placeEscapes.lookup c
    match c, place with
    | _, some r =>
      if (c = 'b' || c = 'B') && after.head? == some '\x7b' then failure
      moveTo after
      return .expression r
    | 'x', _ => byNumber 2 after
    | 'u', _ => byNumber 4 after
    | 'U', _ => byNumber 8 after
    | 'p', _ | 'P', _ => property c after
    | _, _ =>
      if c.isDigit then digitReference size (c :: after)
      else if c = 'k' && !inClass then nameReference after
      else
        moveTo after
        if "dDsSwW".toList.contains c then return .spelled ['\\', c]
        else if c = 'h' then return .spelled "[0-9A-Fa-f]".toList
        else if c = 'H' then return .spelled "[^0-9A-Fa-f]".toList
        else
          match controls.lookup c with
          | some n => return .char (Char.ofNat n) false
          | none =>
            if c.isAlpha && c != 'k' && (placeEscapes.lookup c).isNone then failure
            return .char c false

/-! ## Classes -/

/-- The characters that have a meaning of their own. -/
def signs : List Char := "\\.+*?()|[]\x7b\x7d^$#&-~".toList

/-- A class spelled as a text, from the place at hand on; `depth` brackets are open and `read` has been
read, the last character first. -/
def classText (size : Nat) : (fuel depth : Nat) → (read : List Char) → Read (List Char)
  | 0, _, _ => failure
  | fuel + 1, depth, read => do
    match ← rest with
    | [] => failure
    | '\\' :: after =>
      moveTo after
      match ← token size true with
      | .char c _ =>
        classText size fuel depth (if signs.contains c then c :: '\\' :: read else c :: read)
      | .spelled text => classText size fuel depth (text.reverseAux read)
      | .expression _ => failure
    | c :: after =>
      moveTo after
      if c = ']' && depth = 1 then return (c :: read).reverse
      let depth := if c = '[' then depth + 1 else if c = ']' then depth - 1 else depth
      classText size fuel depth (c :: read)

/-- The class at the place at hand, after its opening bracket. A closing bracket at its start stands for
itself. -/
def bracketed (size : Nat) : Read Regex := do
  let start ← rest
  let start :=
    match start with
    | '^' :: ']' :: _ => start.take 2
    | '^' :: _ | ']' :: _ => start.take 1
    | _ => []
  moveTo ((← rest).drop start.length)
  let text ← classText size ((← rest).length + 1) 1 (start.reverse ++ ['['])
  return .set (← liftM (setOf? (← flags).anyCase text))

/-! ## Expressions of tokens -/

/-- A character, in any case if the flag is set. -/
def literal (c : Char) : Read Regex :=
  return if (← flags).anyCase then .set (CharSet.single c).foldCase else .literal c

/-- The expression of the escape at the place at hand. -/
def escaped (size : Nat) : Read Regex := do
  match ← token size false with
  | .char c folds => if folds then literal c else return .literal c
  | .spelled text => return .set (← liftM (setOf? (← flags).anyCase text))
  | .expression r => return r

end Read

end StepEngine.Pattern
