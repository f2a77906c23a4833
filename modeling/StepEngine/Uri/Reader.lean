import StepEngine.Uri.Basic
import StepEngine.Text.Hex
/-!
# Reading URI references

* `UriFault` : what is wrong with a text, and at which byte;
* `Uri.Alphabet` : which characters beyond ASCII a reference may hold;
* `Uri.read` : the reference a text spells, or the first fault;
* `Uri.isAbsolute` : a text spells a reference with a scheme.

A reference consists of ASCII characters; everything else has to be escaped by `%` and two
hexadecimal digits. An internationalized reference may also hold most characters beyond ASCII.
-/

namespace StepEngine

inductive UriFault where
  | unexpected (index : Nat)
  | badEscape (index : Nat)
  | badAddress (index : Nat)
  deriving DecidableEq

def UriFault.message : UriFault → String
  | unexpected index => "unexpected character at index " ++ toString index
  | badEscape index => "invalid percent-encoded octet at index " ++ toString index
  | badAddress index => "invalid IPv6 address at index " ++ toString index

namespace Uri

/-- Which characters beyond ASCII a reference may hold. -/
inductive Alphabet where
  | ascii
  | international
  deriving DecidableEq

/-- A letter, a digit or one of the marks that never need an escape. -/
def isUnreserved (c : Char) : Bool :=
  c.isAlphanum || c == '-' || c == '.' || c == '_' || c == '~'

/-- One of the marks that separate parts of a part. -/
def isSubDelimiter (c : Char) : Bool :=
  ['!', '$', '&', '\'', '(', ')', '*', '+', ',', ';', '='].contains c

/-- A character of an internationalized reference beyond ASCII. -/
def isInternational (c : Char) : Bool :=
  let n := c.toNat
  (0xA0 ≤ n && n ≤ 0xD7FF) || (0xF900 ≤ n && n ≤ 0xFDCF) || (0xFDF0 ≤ n && n ≤ 0xFFEF) ||
    (0x10000 ≤ n && n ≤ 0xEFFFD && n % 0x10000 ≤ 0xFFFD && !(0xE0000 ≤ n && n < 0xE1000))

/-- A character for private use, which only a query may hold. -/
def isPrivate (c : Char) : Bool :=
  let n := c.toNat
  (0xE000 ≤ n && n ≤ 0xF8FF) || (0xF0000 ≤ n && n % 0x10000 ≤ 0xFFFD)

namespace Alphabet

/-- A character of a name: without slash, colon and the sign before a host. -/
def inName (a : Alphabet) (c : Char) : Bool :=
  isUnreserved c || isSubDelimiter c || (a == international && isInternational c)

def inFirstSegment (a : Alphabet) (c : Char) : Bool :=
  a.inName c || c == '@'

def inPath (a : Alphabet) (c : Char) : Bool :=
  a.inFirstSegment c || c == ':' || c == '/'

def inFragment (a : Alphabet) (c : Char) : Bool :=
  a.inPath c || c == '?'

def inQuery (a : Alphabet) (c : Char) : Bool :=
  a.inFragment c || (a == international && isPrivate c)

end Alphabet

def inScheme (c : Char) : Bool :=
  c.isAlphanum || c == '+' || c == '-' || c == '.'

/-- The rest of a text and the byte at which it starts. -/
structure Cursor where
  rest : List Char
  index : Nat

namespace Cursor

def after (c : Cursor) (x : Char) (rest : List Char) : Cursor :=
  ⟨rest, c.index + x.utf8Size⟩

/-- A fault where the cursor stands. -/
def unexpected (c : Cursor) : UriFault := .unexpected c.index

/-- The characters that are allowed, up to the first that is not. -/
def takeWhile (allowed : Char → Bool) : (cs : List Char) → (index : Nat) → List Char × Cursor
  | [], index => ([], ⟨[], index⟩)
  | c :: rest, index =>
    if allowed c then
      let (taken, after) := takeWhile allowed rest (index + c.utf8Size)
      (c :: taken, after)
    else ([], ⟨c :: rest, index⟩)

def takeEscaped (allowed : Char → Bool) : (cs : List Char) → (index : Nat) →
    Except UriFault (List Char × Cursor)
  | [], index => .ok ([], ⟨[], index⟩)
  | '%' :: a :: b :: rest, index =>
    if Hex.isDigit a && Hex.isDigit b then do
      let (taken, after) ← takeEscaped allowed rest (index + 3)
      .ok ('%' :: a :: b :: taken, after)
    else .error (.badEscape index)
  | c :: rest, index =>
    if c = '%' then .error (.badEscape index)
    else if allowed c then do
      let (taken, after) ← takeEscaped allowed rest (index + c.utf8Size)
      .ok (c :: taken, after)
    else .ok ([], ⟨c :: rest, index⟩)

/-- The characters that are allowed, with escapes among them. -/
def run (c : Cursor) (allowed : Char → Bool) : Except UriFault (String × Cursor) := do
  let (taken, after) ← takeEscaped allowed c.rest c.index
  .ok (String.ofList taken, after)

/-- The digits of a port after its colon, if there is one. -/
def port (c : Cursor) : Option String × Cursor :=
  match c.rest with
  | ':' :: rest =>
    let (digits, after) := takeWhile Char.isDigit rest (c.index + 1)
    (some (String.ofList digits), after)
  | _ => (none, c)

end Cursor

/-! ## Addresses -/

inductive AddressPart where
  | group (colon : Bool)
  | gap
  | dotted (colon : Bool)
  | lone

def addressPart (cs : List Char) : Option AddressPart × List Char :=
  let (colon, cs) :=
    match cs with
    | ':' :: rest => (true, rest)
    | _ => (false, cs)
  match cs with
  | [] => (if colon then some .lone else none, [])
  | first :: rest =>
    if Hex.isDigit first then
      let digits := (cs.takeWhile Hex.isDigit).take 4
      match digits.length, cs.drop digits.length with
      | 4, after => (some (.group colon), after)
      | _, [] => (none, [])
      | _, '.' :: _ => (some (.dotted colon), cs)
      | _, after => (some (.group colon), after)
    else if colon then
      if first = ':' then (some .gap, rest) else (some .lone, cs)
    else (none, cs)

/-- A number up to 255 without leading zeros. -/
def octet? (cs : List Char) : Option (List Char) :=
  match cs with
  | '0' :: rest => some rest
  | c :: _ =>
    if c.isDigit then
      let digits := (cs.takeWhile Char.isDigit).take 3
      if digits.foldl (fun n d => 10 * n + (d.toNat - 48)) 0 ≤ 255 then some (cs.drop digits.length)
      else none
    else none
  | [] => none

/-- Four numbers with points between them. -/
def dotted? (cs : List Char) : Option (List Char) := do
  let next := fun cs : List Char =>
    match cs with
    | '.' :: rest => octet? rest
    | _ => none
  next (← next (← next (← octet? cs)))

/-- The parts of an address: how many groups have been read, and before which the gap is. -/
def addressParts : (fuel groups : Nat) → (gap : Option Nat) → List Char →
    Option (List Char)
  | 0, _, _, _ => none
  | fuel + 1, groups, gap, cs =>
    let finish := fun (groups : Nat) (rest : List Char) =>
      if gap.isNone == (groups == 8) then some rest else none
    if 8 ≤ groups then finish groups cs
    else
      match addressPart cs with
      | (some (.group colon), rest) =>
        if colon == (groups == 0 || gap == some groups) then none
        else addressParts fuel (groups + 1) gap rest
      | (some .gap, rest) => if gap.isSome then none else addressParts fuel groups (some groups) rest
      | (some (.dotted colon), rest) =>
        if 6 < groups || colon == (groups == 0 || gap == some groups) then none
        else (dotted? rest).bind (finish (groups + 2))
      | (some .lone, _) => none
      | (none, rest) => finish groups rest

/-- An address of eight groups, of which a gap stands for at least one. -/
def address? (cs : List Char) : Option (List Char) :=
  addressParts 16 0 none cs

/-- An address of a later version: a number, a point, and what that version says. -/
def laterAddress (c : Cursor) : Except UriFault Cursor :=
  match c.rest with
  | x :: rest =>
    if x = 'v' || x = 'V' then
      let (digits, c) := Cursor.takeWhile Hex.isDigit rest (c.index + 1)
      match digits, c.rest with
      | _ :: _, '.' :: rest =>
        let (name, c) := Cursor.takeWhile (fun x => Alphabet.ascii.inName x || x == ':') rest (c.index + 1)
        if name.isEmpty then .error c.unexpected else .ok c
      | _, _ => .error c.unexpected
    else .error c.unexpected
  | [] => .error c.unexpected

/-- An address between brackets, if there is one. -/
def bracketed (c : Cursor) : Except UriFault (Option String × Cursor) :=
  match c.rest with
  | '[' :: inside => do
    let start := c.index + 1
    let after ←
      match address? inside with
      | some rest => .ok ⟨rest, start + (inside.length - rest.length)⟩
      | none =>
        match addressPart inside with
        | (none, rest) =>
          if rest.length = inside.length then laterAddress ⟨inside, start⟩
          else .error (.badAddress start)
        | _ => .error (.badAddress start)
    match after.rest with
    | ']' :: rest =>
      let text := inside.take (inside.length - after.rest.length)
      .ok (some (String.ofList ('[' :: text ++ [']'])), ⟨rest, after.index + 1⟩)
    | _ => .error after.unexpected
  | _ => .ok (none, c)

/-! ## Parts -/

/-- The fragment and the end of a text. -/
def readFragment (a : Alphabet) (u : Uri) (c : Cursor) : Except UriFault Uri := do
  let (fragment, c) ←
    match c.rest with
    | '#' :: rest => do
      let (fragment, c) ← (c.after '#' rest).run a.inFragment
      .ok (some fragment, c)
    | _ => .ok (none, c)
  match c.rest with
  | [] => .ok { u with fragment := fragment }
  | _ :: _ => .error c.unexpected

/-- The query and what follows it. -/
def readQuery (a : Alphabet) (u : Uri) (c : Cursor) : Except UriFault Uri :=
  match c.rest with
  | '?' :: rest => do
    let (query, c) ← (c.after '?' rest).run a.inQuery
    readFragment a { u with query := some query } c
  | _ => readFragment a u c

/-- The path after an authority: it starts with a slash or is empty. -/
def readPathAfterAuthority (a : Alphabet) (u : Uri) (c : Cursor) : Except UriFault Uri := do
  let (path, after) ← c.run a.inPath
  if path = "" || path.startsWith "/" then readQuery a { u with path := path } after
  else .error c.unexpected

def lastColon (cs : List Char) : Nat :=
  cs.length - ((cs.reverse.takeWhile (· != ':')).length + 1)

def readAuthority (a : Alphabet) (u : Uri) (c : Cursor) : Except UriFault Uri := do
  let (text, after) ← c.run fun x => a.inName x || x == ':'
  let finish := fun (authority : Authority) (c : Cursor) =>
    readPathAfterAuthority a { u with authority := some authority } c
  match after.rest with
  | '@' :: rest =>
    let start := after.after '@' rest
    match ← bracketed start with
    | (some host, c) =>
      let (port, c) := c.port
      finish ⟨some text, host, port⟩ c
    | (none, c) => do
      let (host, c) ← c.run a.inName
      let (port, c) := c.port
      finish ⟨some text, host, port⟩ c
  | _ =>
    if text = "" then
      match ← bracketed c with
      | (some host, c) =>
        let (port, c) := c.port
        finish ⟨none, host, port⟩ c
      | (none, c) => finish ⟨none, "", none⟩ c
    else
      let cs := text.toList
      let place := lastColon cs
      let before := cs.take place
      let digits := cs.drop (place + 1)
      let index := c.index + (String.ofList before).utf8ByteSize
      match cs.count ':' with
      | 0 => finish ⟨none, text, none⟩ after
      | 1 =>
        if digits.all Char.isDigit then
          finish ⟨none, String.ofList before, some (String.ofList digits)⟩ after
        else .error (.unexpected (index + 1 + (digits.takeWhile Char.isDigit).length))
      | _ => .error (.unexpected index)

def readAfterScheme (a : Alphabet) (scheme : String) (c : Cursor) : Except UriFault Uri :=
  let u : Uri := ⟨some scheme, none, "", none, none⟩
  match c.rest with
  | '/' :: '/' :: rest => readAuthority a u ⟨rest, c.index + 2⟩
  | _ => do
    let (path, c) ← c.run a.inPath
    readQuery a { u with path := path } c

/-- A reference without a scheme. The first part of its path holds no colon. -/
def readRelative (a : Alphabet) (c : Cursor) : Except UriFault Uri :=
  let u : Uri := ⟨none, none, "", none, none⟩
  match c.rest with
  | '/' :: '/' :: rest => readAuthority a u ⟨rest, c.index + 2⟩
  | _ => do
    let (first, c) ← c.run a.inFirstSegment
    match c.rest with
    | ':' :: _ => .error c.unexpected
    | _ => do
      let (others, c) ← c.run a.inPath
      readQuery a { u with path := first ++ others } c

def read (a : Alphabet) (text : String) : Except UriFault Uri :=
  let (scheme, c) := Cursor.takeWhile inScheme text.toList 0
  match c.rest with
  | ':' :: rest =>
    if scheme.head?.any Char.isAlpha then
      readAfterScheme a (String.ofList scheme) ⟨rest, c.index + 1⟩
    else .error (.unexpected 0)
  | _ => readRelative a ⟨text.toList, 0⟩

def isAbsolute (a : Alphabet) (text : String) : Bool :=
  match read a text with
  | .ok u => u.scheme.isSome
  | .error _ => false

def isReference (a : Alphabet) (text : String) : Bool :=
  match read a text with
  | .ok _ => true
  | .error _ => false

end Uri

end StepEngine
