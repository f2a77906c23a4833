import StepEngine.Schema.Draft
import StepEngine.Text.Letter
import StepEngine.Text.Blank
import StepEngine.Hostname
import StepEngine.Uri.Reader
import StepEngine.Pattern
/-!
# Formats of texts

* `Format.isDate`, `isTime`, `isDateTime` : days and moments;
* `Format.isEmail`, `isIpv4`, `isIpv6` : addresses of people and machines;
* `Format.isPointer`, `isTemplate` : pointers into values, templates of references;
* `Format.test?` : the test of a format, if a draft knows it.

Drafts up to the seventh ask a text to have the format that a schema names; later ones do not.
-/

namespace StepEngine.Format

/-! ## Days and moments -/

/-- A digit of a day or a moment: one of the sixteen signs from `0` to `?`, worth its distance
from `0`. -/
def isClockDigit (c : Char) : Bool :=
  '0' ≤ c && c ≤ '?'

def twoDigits? : List Char → Option Nat
  | [a, b] =>
    if isClockDigit a && isClockDigit b then some (10 * (a.toNat - 48) + (b.toNat - 48)) else none
  | _ => none

def daysOf (year month : Nat) : Nat :=
  if month = 2 then
    if year % 4 = 0 ∧ (year % 100 ≠ 0 ∨ year % 400 = 0) then 29 else 28
  else if month = 4 ∨ month = 6 ∨ month = 9 ∨ month = 11 then 30
  else 31

/-- A day: `YYYY-MM-DD`. -/
def isDate (cs : List Char) : Bool :=
  match cs with
  | [a, b, c, d, '-', e, f, '-', g, h] =>
    match twoDigits? [a, b], twoDigits? [c, d], twoDigits? [e, f], twoDigits? [g, h] with
    | some century, some year, some month, some day =>
      1 ≤ month && month ≤ 12 && 1 ≤ day && day ≤ daysOf (100 * century + year) month
    | _, _, _, _ => false
  | _ => false

/-- The offset from universal time, in minutes. -/
def offset? : List Char → Option Int
  | ['Z'] | ['z'] => some 0
  | [sign, a, b, ':', c, d] =>
    match twoDigits? [a, b], twoDigits? [c, d] with
    | some hours, some minutes =>
      if 23 < hours ∨ 59 < minutes then none
      else if sign = '+' then some (60 * hours + minutes)
      else if sign = '-' then some (-(60 * hours + minutes))
      else none
    | _, _ => none
  | _ => none

/-- A fraction of a second, if there is one, and what follows it. -/
def fraction? : List Char → Option (List Char)
  | '.' :: rest =>
    let after := rest.dropWhile Char.isDigit
    if after.length = rest.length then none else some after
  | rest => some rest

/-- A moment of a day: `HH:MM:SS`, a fraction, and the offset. The second sixty comes only at the end
of a day of universal time. -/
def isTime (cs : List Char) : Bool :=
  match cs with
  | a :: b :: ':' :: c :: d :: ':' :: e :: f :: rest =>
    match twoDigits? [a, b], twoDigits? [c, d], twoDigits? [e, f], (fraction? rest).bind offset? with
    | some hour, some minute, some second, some offset =>
      let universal := (60 * hour + minute - offset) % 1440
      hour ≤ 23 && minute ≤ 59 && (second ≤ 59 || (second == 60 && universal == 1439))
    | _, _, _, _ => false
  | _ => false

def isDateTime (cs : List Char) : Bool :=
  let day := cs.takeWhile fun c => c != 'T' && c != 't'
  match cs.drop day.length with
  | _ :: time => isDate day && isTime time
  | [] => false

/-! ## Machines and people -/

/-- Four numbers below 256 without leading zeros. -/
def isIpv4 (cs : List Char) : Bool :=
  Uri.dotted? cs == some []

/-- The groups of an address from an index on: how many there are, whether the last two are four
numbers, and what follows. -/
def addressGroups (limit : Nat) : (left index : Nat) → List Char → Nat × Bool × List Char
  | 0, index, cs => (index, false, cs)
  | left + 1, index, cs =>
    let start :=
      if index = 0 then some cs
      else
        match cs with
        | ':' :: rest => some rest
        | _ => none
    match start with
    | none => (index, false, cs)
    | some start =>
      match if index + 1 < limit then Uri.dotted? start else none with
      | some rest => (index + 2, true, rest)
      | none =>
        let digits := start.takeWhile Hex.isDigit
        if digits.isEmpty || 4 < digits.length then (index, false, cs)
        else addressGroups limit left (index + 1) (start.drop digits.length)

/-- Eight groups of hexadecimal digits; two colons stand for at least one of them. -/
def isIpv6 (cs : List Char) : Bool :=
  match addressGroups 8 8 0 cs with
  | (8, _, rest) => rest.isEmpty
  | (count, false, ':' :: ':' :: rest) =>
    (addressGroups (7 - count) (7 - count) 0 rest).2.2.isEmpty
  | _ => false

/-- The number of a character, written as two bytes, is the form of a character in UTF-8. -/
def isTwoByteForm (c : Char) : Bool :=
  0xC2 ≤ c.toNat / 256 && c.toNat / 256 ≤ 0xDF && 0x80 ≤ c.toNat % 256 && c.toNat % 256 ≤ 0xBF

/-- A character of an unquoted part of an address. -/
def isAtomChar (c : Char) : Bool :=
  Text.isAlphanumeric c || isTwoByteForm c || "!#$%&'*+-/=?^_`\x7b|\x7d~".toList.contains c

/-- A part of an address without quotes. -/
def isAtom (cs : List Char) : Bool :=
  !cs.isEmpty && cs.all isAtomChar

/-- The inside of a quoted part of an address. -/
def isQuoted : List Char → Bool
  | [] => true
  | '\\' :: c :: rest => '!' ≤ c && c ≤ '~' && isQuoted rest
  | c :: rest =>
    c != '\\' && c != '"' && (c == '\t' || (' ' ≤ c && c ≤ '~') || isTwoByteForm c) && isQuoted rest

def byteCount (cs : List Char) : Nat :=
  cs.foldl (fun sum c => sum + c.utf8Size) 0

/-- The part of an address before the last `@`. -/
def isLocalPart (cs : List Char) : Bool :=
  !cs.isEmpty && byteCount cs ≤ 64 &&
    if cs.head? == some '"' && cs.getLast? == some '"' then
      2 < cs.length && isQuoted (cs.drop 1).dropLast
    else (Text.split (· == '.') cs).all isAtom

/-- The part of an address after the last `@`: a name of a machine by a rule, or between brackets an
address. -/
def isDomain (isName : List Char → Bool) (cs : List Char) : Bool :=
  !cs.isEmpty && byteCount cs ≤ 254 &&
    if cs.head? == some '[' && cs.getLast? == some ']' then
      let inside := (cs.drop 1).dropLast
      if inside.take 5 == "IPv6:".toList then isIpv6 (inside.drop 5) else isIpv4 inside
    else
      (Text.split (· == '.') cs).all (fun label => isAtom label && byteCount label ≤ 63) && isName cs

/-- The address in a text that may show a name before it: `Name <address>`. -/
def bareAddress? (cs : List Char) : Option (List Char) :=
  match (cs.length + 1 |> List.range).reverse.find? fun i => (cs.drop i).take 2 == [' ', '<'] with
  | none => some cs
  | some i =>
    let shown := Text.trimBlanks (cs.drop (i + 2))
    if shown.getLast? == some '>' then some shown.dropLast else none

/-- The address of a person at a machine. -/
def isEmail (isName : List Char → Bool) (cs : List Char) : Bool :=
  match bareAddress? cs with
  | none => false
  | some cs =>
    let domain := (cs.reverse.takeWhile (· != '@')).reverse
    cs.contains '@' && isLocalPart (cs.take (cs.length - domain.length - 1)) && isDomain isName domain

/-! ## Pointers and templates -/

/-- Tildes come only before `0` and `1`. -/
def hasSoundEscapes : List Char → Bool
  | '~' :: '0' :: rest | '~' :: '1' :: rest => hasSoundEscapes rest
  | '~' :: _ => false
  | _ :: rest => hasSoundEscapes rest
  | [] => true

def isPointer (cs : List Char) : Bool :=
  cs.isEmpty || (cs.head? == some '/' && hasSoundEscapes cs)

/-- A number of levels up, and then the key there or a pointer. -/
def isRelativePointer (cs : List Char) : Bool :=
  let digits := cs.takeWhile Char.isDigit
  let rest := cs.drop digits.length
  !digits.isEmpty && (digits.head? != some '0' || digits.length == 1) &&
    (rest == ['#'] || isPointer rest)

/-- An escape `%` with two digits, in lower case. -/
def isEscapeDigit (c : Char) : Bool :=
  c.isDigit || ('a' ≤ c && c ≤ 'f')

/-- The name of a variable of a template: what follows it, if it is not empty. -/
def variableName? : (found : Bool) → List Char → Option (List Char)
  | found, '%' :: a :: b :: rest =>
    if isEscapeDigit a && isEscapeDigit b then variableName? true rest
    else if found then some ('%' :: a :: b :: rest)
    else none
  | found, c :: rest =>
    if c.isDigit || ('a' ≤ c && c ≤ 'z') || c == '_' then variableName? true rest
    else if found then some (c :: rest)
    else none
  | found, [] => if found then some [] else none

def afterModifier : List Char → List Char
  | '*' :: rest => rest
  | ':' :: c :: rest =>
    if '1' ≤ c && c ≤ '9' then rest.drop ((rest.take 3).takeWhile Char.isDigit).length
    else ':' :: c :: rest
  | rest => rest

/-- The variables between braces: what follows the closing brace. -/
def variables? : (fuel : Nat) → List Char → Option (List Char)
  | 0, _ => none
  | fuel + 1, cs =>
    match (variableName? false cs).map afterModifier with
    | some (',' :: rest) => variables? fuel rest
    | some ('\x7d' :: rest) => some rest
    | _ => none

/-- A template of a reference: plain characters, escapes, and variables between braces. -/
def isTemplateFrom : (fuel : Nat) → List Char → Bool
  | 0, _ => false
  | _, [] => true
  | fuel + 1, '%' :: a :: b :: rest => isEscapeDigit a && isEscapeDigit b && isTemplateFrom fuel rest
  | fuel + 1, '\x7b' :: c :: rest =>
    let inside := if "+#./;?&=,!@|".toList.contains c then rest else c :: rest
    match variables? (inside.length + 1) inside with
    | some rest => isTemplateFrom fuel rest
    | none => false
  | fuel + 1, c :: rest =>
    ' ' < c && !"\"'<>%\\^`\x7b|\x7d".toList.contains c && isTemplateFrom fuel rest

def isTemplate (cs : List Char) : Bool :=
  isTemplateFrom (cs.length + 1) cs

/-! ## Names of formats -/

/-- The test of a format, if a draft knows it. -/
def test? (d : Draft) (format : String) : Option (String → Bool) :=
  let onChars := fun (test : List Char → Bool) => some fun s : String => test s.toList
  let sinceSix := fun (test : String → Bool) => if d.since .draft6 then some test else none
  let sinceSeven := fun (test : String → Bool) => if d.since .draft7 then some test else none
  match format with
  | "date" => onChars isDate
  | "date-time" => onChars isDateTime
  | "time" => onChars isTime
  | "email" => onChars (isEmail Hostname.isAscii)
  | "idn-email" => onChars (isEmail Hostname.isInternational)
  | "hostname" => onChars Hostname.isAscii
  | "ipv4" => onChars isIpv4
  | "ipv6" => onChars isIpv6
  | "regex" => some fun s => (Pattern.spelling? s).isSome
  | "uri" => some (Uri.isAbsolute .ascii)
  | "json-pointer" => sinceSix fun s => isPointer s.toList
  | "uri-reference" => sinceSix (Uri.isReference .ascii)
  | "uri-template" => sinceSix fun s => isTemplate s.toList
  | "idn-hostname" => sinceSeven fun s => Hostname.isInternational s.toList
  | "iri" => sinceSeven (Uri.isAbsolute .international)
  | "iri-reference" => sinceSeven (Uri.isReference .international)
  | "relative-json-pointer" => sinceSeven fun s => isRelativePointer s.toList
  | _ => none

end StepEngine.Format
