import StepEngine.Text.Blank
/-!
# Cron expressions

* `Cron.Specifier`, `Cron.Root` : what an entry of a field is;
* `Cron.Unit` : the seven fields, their ranges and their names;
* `Cron.field` : a list of entries, as far as the text holds one;
* `Cron.isSchedule` : a shorthand, or the fields of a schedule with or without a year;
* `Cron.normalize` : an expression of five fields gets seconds.

Blanks inside an expression are the space, tab, line feed and carriage return. An entry is read by
the first alternative that fits, and what it has read is not given back.
-/

namespace StepEngine.Cron

/-- A blank inside an expression. -/
def isGap (c : Char) : Bool :=
  c = ' ' || c = '\t' || c = '\n' || c = '\r'

def skipGaps (cs : List Char) : List Char :=
  cs.dropWhile isGap

/-- A part of an entry. -/
inductive Specifier where
  | all
  | point (n : Nat)
  | range (low high : Nat)
  | namedRange (low high : List Char)
  deriving DecidableEq

/-- An entry of a field. -/
inductive Root where
  | specifier (s : Specifier)
  | period (s : Specifier) (step : Nat)
  | named (name : List Char)
  deriving DecidableEq

/-! ## Units of time -/

/-- A field of a schedule. -/
inductive Unit where
  | seconds
  | minutes
  | hours
  | daysOfMonth
  | months
  | daysOfWeek
  | years
  deriving DecidableEq

namespace Unit

def least : Unit → Nat
  | seconds | minutes | hours => 0
  | daysOfMonth | months | daysOfWeek => 1
  | years => 1970

def greatest : Unit → Nat
  | seconds | minutes => 59
  | hours => 23
  | daysOfMonth => 31
  | months => 12
  | daysOfWeek => 7
  | years => 2100

/-- A question mark means all values. -/
def hasAny : Unit → Bool
  | daysOfMonth | daysOfWeek => true
  | _ => false

/-- The names of values, in lower case. -/
def names : Unit → List (String × Nat)
  | months => [
    ("jan", 1), ("january", 1), ("feb", 2), ("february", 2), ("mar", 3), ("march", 3),
    ("apr", 4), ("april", 4), ("may", 5), ("jun", 6), ("june", 6), ("jul", 7), ("july", 7),
    ("aug", 8), ("august", 8), ("sep", 9), ("september", 9), ("oct", 10), ("october", 10),
    ("nov", 11), ("november", 11), ("dec", 12), ("december", 12)]
  | daysOfWeek => [
    ("sun", 1), ("sunday", 1), ("mon", 2), ("monday", 2), ("tue", 3), ("tues", 3),
    ("tuesday", 3), ("wed", 4), ("wednesday", 4), ("thu", 5), ("thurs", 5), ("thursday", 5),
    ("fri", 6), ("friday", 6), ("sat", 7), ("saturday", 7)]
  | _ => []

def holds (u : Unit) (n : Nat) : Bool :=
  u.least ≤ n && n ≤ u.greatest

/-- The value with a name, in any case. -/
def named? (u : Unit) (name : List Char) : Option Nat :=
  u.names.lookup (String.ofList (name.map Char.toLower))

/-- A specifier whose values are values of the field, its range ascending. -/
def admitsSpecifier (u : Unit) : Specifier → Bool
  | .all => true
  | .point n => u.holds n
  | .range low high => u.holds low && u.holds high && low ≤ high
  | .namedRange low high =>
    match u.named? low, u.named? high with
    | some low, some high => low ≤ high
    | _, _ => false

/-- An entry whose values are values of the field and whose step is not zero. -/
def admits (u : Unit) : Root → Bool
  | .specifier s => u.admitsSpecifier s
  | .period s step => step != 0 && u.admitsSpecifier s
  | .named name => (u.named? name).isSome

end Unit

/-! ## Reading -/

def number? (cs : List Char) : Option (Nat × List Char) :=
  let cs := skipGaps cs
  let ds := cs.takeWhile Char.isDigit
  let n := ds.foldl (fun n d => 10 * n + (d.toNat - 48)) 0
  if ds.isEmpty || Nat.pow 2 32 ≤ n then none else some (n, skipGaps (cs.drop ds.length))

/-- A name in ASCII letters, with the blanks around it. -/
def name? (cs : List Char) : Option (List Char × List Char) :=
  let cs := skipGaps cs
  let letters := cs.takeWhile Char.isAlpha
  if letters.isEmpty then none else some (letters, skipGaps (cs.drop letters.length))

def range? (part : List Char → Option (α × List Char)) (cs : List Char) :
    Option ((α × α) × List Char) := do
  let (low, rest) ← part cs
  match rest with
  | '-' :: rest => do
    let (high, rest) ← part rest
    some ((low, high), rest)
  | _ => none

/-- A specifier: a star, a range, a number, or a range of names, whichever fits first. A question
mark is one in the fields that have it. -/
def specifier? (u : Unit) (cs : List Char) : Option (Specifier × List Char) :=
  match cs with
  | '*' :: rest => some (.all, rest)
  | c :: rest =>
    if c = '?' && u.hasAny then some (.all, rest)
    else
      match range? number? cs with
      | some ((low, high), rest) => some (.range low high, rest)
      | none =>
        match number? cs with
        | some (n, rest) => some (.point n, rest)
        | none => (range? name? cs).map fun ((low, high), rest) => (.namedRange low high, rest)
  | [] => none

def period? (u : Unit) (cs : List Char) : Option (Root × List Char) := do
  let (s, rest) ← specifier? u cs
  match rest with
  | '/' :: rest => do
    let (step, rest) ← number? rest
    some (.period s step, rest)
  | _ => none

/-- An entry: a specifier with a step, a specifier, or a name, whichever fits first. -/
def root? (u : Unit) (cs : List Char) : Option (Root × List Char) :=
  match period? u cs with
  | some found => some found
  | none =>
    match specifier? u cs with
    | some (s, rest) => some (.specifier s, rest)
    | none => (name? cs).map fun (name, rest) => (.named name, rest)

/-- The further entries of a list: a comma without an entry after it is left unread. -/
def moreRoots (u : Unit) : (fuel : Nat) → List Char → List Root × List Char
  | 0, cs => ([], cs)
  | fuel + 1, cs =>
    match cs with
    | ',' :: rest =>
      match root? u rest with
      | some (root, rest) =>
        let (roots, rest) := moreRoots u fuel rest
        (root :: roots, rest)
      | none => ([], cs)
    | _ => ([], cs)

/-- A field: its entries, which have to be values of the field, and the text after it and its
blanks. -/
def field (u : Unit) (cs : List Char) : Option (List Root × List Char) := do
  let cs := skipGaps cs
  let (first, rest) ← root? u cs
  let (others, rest) := moreRoots u rest.length rest
  let roots := first :: others
  if roots.all u.admits then some (roots, skipGaps rest) else none

/-- The fields before the year. -/
def baseUnits : List Unit :=
  [.seconds, .minutes, .hours, .daysOfMonth, .months, .daysOfWeek]

def fields : List Unit → List Char → Option (List (List Root) × List Char)
  | [], cs => some ([], cs)
  | u :: units, cs => do
    let (roots, rest) ← field u cs
    let (others, rest) ← fields units rest
    some (roots :: others, rest)

def shorthands : List String := ["@yearly", "@monthly", "@weekly", "@daily", "@hourly"]

/-- A shorthand with blanks around it. -/
def isShorthand (cs : List Char) : Bool :=
  let cs := skipGaps cs
  shorthands.any fun s =>
    s.toList.isPrefixOf cs && (skipGaps (cs.drop s.length)).isEmpty

/-- Six fields, and perhaps a year, with nothing after them. -/
def isLonghand (cs : List Char) : Bool :=
  match fields baseUnits cs with
  | none => false
  | some (_, rest) =>
    match field .years rest with
    | some (_, rest) => rest.isEmpty
    | none => rest.isEmpty

def isSchedule (expression : String) : Bool :=
  isShorthand expression.toList || isLonghand expression.toList

/-- An expression of exactly five fields between blanks gets a leading zero for its seconds. -/
def normalize (expression : String) : String :=
  if (Text.fields expression.toList).length = 5 then "0 " ++ expression else expression

def isValid (expression : String) : Bool :=
  isSchedule (normalize expression)

end StepEngine.Cron
