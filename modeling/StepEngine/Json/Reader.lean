import StepEngine.Json.Basic
import StepEngine.Text.Hex
import StepEngine.Number.Decimal
/-!
# Reading JSON text

* `Json.ReadFault`, `Json.ReadError` : what is wrong with a text, and where;
* `Json.Cursor` : the rest of a text with its place; columns count bytes;
* `Json.read` : the value a text holds, or the first fault;
* `Json.ReadError.message` : the wording of a fault.

A value may be nested 127 deep. Of two members with one key the later stays. A number without point
and exponent from `-2 ^ 63` to `2 ^ 64 - 1` is an integer, negative zero apart; any other is a
double, that of its first digits scaled by a power of ten.
-/

namespace StepEngine.Json

inductive ReadFault where
  | endInList
  | endInObject
  | endInString
  | endInValue
  | expectedColon
  | expectedListEnd
  | expectedObjectEnd
  | expectedIdent
  | expectedValue
  | invalidEscape
  | invalidNumber
  | numberOutOfRange
  | controlCharacter
  | keyNotString
  | loneSurrogate
  | trailingComma
  | trailingCharacters
  | incompleteEscape
  | tooDeep
  deriving DecidableEq

/-- A fault and its place: the line from one, the column in bytes. -/
structure ReadError where
  fault : ReadFault
  line : Nat
  column : Nat
  deriving DecidableEq

def ReadFault.message : ReadFault → String
  | endInList => "EOF while parsing a list"
  | endInObject => "EOF while parsing an object"
  | endInString => "EOF while parsing a string"
  | endInValue => "EOF while parsing a value"
  | expectedColon => "expected `:`"
  | expectedListEnd => "expected `,` or `]`"
  | expectedObjectEnd => "expected `,` or `\x7d`"
  | expectedIdent => "expected ident"
  | expectedValue => "expected value"
  | invalidEscape => "invalid escape"
  | invalidNumber => "invalid number"
  | numberOutOfRange => "number out of range"
  | controlCharacter => "control character (\\u0000-\\u001F) found while parsing a string"
  | keyNotString => "key must be a string"
  | loneSurrogate => "lone leading surrogate in hex escape"
  | trailingComma => "trailing comma"
  | trailingCharacters => "trailing characters"
  | incompleteEscape => "unexpected end of hex escape"
  | tooDeep => "recursion limit exceeded"

/-- The wording of a fault with its place. -/
def ReadError.message (e : ReadError) : String :=
  e.fault.message ++ " at line " ++ toString e.line ++ " column " ++ toString e.column

/-- The rest of a text and the place where it starts. -/
structure Cursor where
  rest : List Char
  line : Nat
  column : Nat

namespace Cursor

def advance (c : Cursor) : Cursor :=
  match c.rest with
  | [] => c
  | '\n' :: rest => ⟨rest, c.line + 1, 0⟩
  | x :: rest => ⟨rest, c.line, c.column + x.utf8Size⟩

def skip (c : Cursor) : Nat → Cursor
  | 0 => c
  | n + 1 => c.advance.skip n

/-- The place `n` bytes ahead, at most at the end of the text. -/
def placeAfter (c : Cursor) : (n : Nat) → Nat × Nat :=
  go c.line c.column c.rest
where
  go (line column : Nat) : List Char → Nat → Nat × Nat
    | [], _ => (line, column)
    | _, 0 => (line, column)
    | '\n' :: rest, n + 1 => go (line + 1) 0 rest n
    | x :: rest, n + 1 =>
      if x.utf8Size ≤ n + 1 then go line (column + x.utf8Size) rest (n + 1 - x.utf8Size)
      else (line, column + n + 1)

def here (c : Cursor) (fault : ReadFault) : ReadError :=
  ⟨fault, c.line, c.column⟩

def aheadBy (c : Cursor) (n : Nat) (fault : ReadFault) : ReadError :=
  let (line, column) := c.placeAfter n
  ⟨fault, line, column⟩

/-- A fault one byte ahead: that of a character that was read or looked at. -/
def ahead (c : Cursor) (fault : ReadFault) : ReadError :=
  c.aheadBy 1 fault

/-- Past blanks: space, line feed, tab and carriage return. -/
def skipBlanks (c : Cursor) : Cursor :=
  c.skip (c.rest.takeWhile fun x => x = ' ' || x = '\n' || x = '\t' || x = '\r').length

end Cursor

/-- The rest of a word whose first letter has been seen. -/
def readWord (value : Json) : (letters : List Char) → Cursor → Except ReadError (Json × Cursor)
  | [], c => .ok (value, c)
  | letter :: letters, c =>
    match c.rest with
    | [] => .error (c.here .endInValue)
    | x :: _ =>
      if x = letter then readWord value letters c.advance
      else .error (c.ahead .expectedIdent)

/-! ## Numbers -/

def leadingDigits (c : Cursor) : List Char :=
  c.rest.takeWhile Char.isDigit

/-- The number a list of decimal digits spells. -/
def decimalNumber (ds : List Char) : Nat :=
  ds.foldl (fun n d => 10 * n + (d.toNat - 48)) 0

/-- Digits put behind a significand as long as it stays below `2 ^ 64`, and the digits left over. -/
def fitDigits (significand : Nat) : List Char → Nat × List Char
  | [] => (significand, [])
  | d :: ds =>
    let longer := 10 * significand + (d.toNat - 48)
    if longer < Nat.pow 2 64 then fitDigits longer ds else (significand, d :: ds)

/-- The double with a significand and a power of ten, or the fault of one beyond the largest
double. -/
def readDouble (negative : Bool) (significand : Nat) (exponent : Int) (c : Cursor) :
    Except ReadError (Json × Cursor) :=
  match Double.ofParts negative significand exponent with
  | some d => .ok (number (.double d), c)
  | none => .error (c.here .numberOutOfRange)

/-- How many of the digits it takes to pass `2 ^ 31 - 1`, if they do. -/
def overflowLength (ds : List Char) : Option Nat :=
  (List.range (ds.length + 1)).find? fun n => Nat.pow 2 31 ≤ decimalNumber (ds.take n)

def readExponent (negative : Bool) (significand : Nat) (scale : Int) (c : Cursor) :
    Except ReadError (Json × Cursor) :=
  let afterMark := c.advance
  let (down, start) :=
    match afterMark.rest with
    | '+' :: _ => (false, afterMark.advance)
    | '-' :: _ => (true, afterMark.advance)
    | _ => (false, afterMark)
  match start.rest with
  | [] => .error (start.here .endInValue)
  | x :: _ =>
    if x.isDigit then
      let ds := leadingDigits start
      let after := start.skip ds.length
      match overflowLength ds with
      | some n =>
        if significand ≠ 0 ∧ down = false then .error ((start.skip n).here .numberOutOfRange)
        else .ok (number (.double (Double.ofFields negative 0)), after)
      | none =>
        let e : Int := decimalNumber ds
        readDouble negative significand (scale + if down then -e else e) after
    else .error (start.ahead .invalidNumber)

/-- The part of a number from its point on. Digits that do not fit into the significand are passed
over. -/
def readFraction (negative : Bool) (significand : Nat) (scale : Int) (c : Cursor) :
    Except ReadError (Json × Cursor) :=
  let start := c.advance
  let ds := leadingDigits start
  let after := start.skip ds.length
  match ds, after.rest with
  | [], [] => .error (after.here .endInValue)
  | [], _ :: _ => .error (after.ahead .invalidNumber)
  | _ :: _, rest =>
    let (significand, left) := fitDigits significand ds
    let scale := scale - (ds.length - left.length : Nat)
    match rest with
    | 'e' :: _ | 'E' :: _ => readExponent negative significand scale after
    | _ => readDouble negative significand scale after

/-- The part of a number after its whole digits. Whole digits that do not fit into the significand
count as powers of ten. -/
def readAfterWhole (negative : Bool) (whole : List Char) (c : Cursor) : Except ReadError (Json × Cursor) :=
  let (significand, left) := fitDigits 0 whole
  match c.rest with
  | '.' :: _ => readFraction negative significand left.length c
  | 'e' :: _ | 'E' :: _ => readExponent negative significand left.length c
  | _ =>
    if left ≠ [] then readDouble negative significand left.length c
    else if negative then
      if 0 < significand ∧ significand ≤ Nat.pow 2 63 then .ok (number (.int (-(significand : Int))), c)
      else readDouble true significand 0 c
    else .ok (number (.int significand), c)

/-- A number after its sign. -/
def readNumber (negative : Bool) (c : Cursor) : Except ReadError (Json × Cursor) :=
  match c.rest with
  | [] => .error (c.here .endInValue)
  | '0' :: _ =>
    let after := c.advance
    match after.rest with
    | x :: _ =>
      if x.isDigit then .error (after.ahead .invalidNumber)
      else readAfterWhole negative ['0'] after
    | [] => readAfterWhole negative ['0'] after
  | x :: _ =>
    if x.isDigit then
      let ds := leadingDigits c
      readAfterWhole negative ds (c.skip ds.length)
    else .error (c.ahead .invalidNumber)

/-! ## Strings -/

def readHex (c : Cursor) : Except ReadError (Nat × Cursor) :=
  match c.rest with
  | w :: x :: y :: z :: _ =>
    if [w, x, y, z].all Hex.isDigit then .ok (Hex.number [w, x, y, z], c.skip 4)
    else .error (c.aheadBy 4 .invalidEscape)
  | rest =>
    let bytes := rest.foldl (fun sum c => sum + c.utf8Size) 0
    if bytes < 4 then .error (c.aheadBy bytes .endInString) else .error (c.aheadBy 4 .invalidEscape)

/-- The character of an escape by number. A number of the first half of a pair needs the second. -/
def readCodePoint (c : Cursor) : Except ReadError (Char × Cursor) := do
  let (first, c) ← readHex c
  if 0xDC00 ≤ first ∧ first ≤ 0xDFFF then .error (c.here .loneSurrogate)
  else if first < 0xD800 ∨ 0xDBFF < first then .ok (Char.ofNat first, c)
  else
    match c.rest with
    | [] => .error (c.here .endInString)
    | '\\' :: _ =>
      let c := c.advance
      match c.rest with
      | [] => .error (c.here .endInString)
      | 'u' :: _ =>
        let (second, c) ← readHex c.advance
        if second < 0xDC00 ∨ 0xDFFF < second then .error (c.here .loneSurrogate)
        else .ok (Char.ofNat (0x10000 + (first - 0xD800) * 0x400 + (second - 0xDC00)), c)
      | _ :: _ => .error (c.ahead .incompleteEscape)
    | _ :: _ => .error (c.ahead .incompleteEscape)

/-- The character of an escape, from the one after the backslash on. -/
def readEscape (c : Cursor) : Except ReadError (Char × Cursor) :=
  match c.rest with
  | [] => .error (c.here .endInString)
  | 'u' :: _ => readCodePoint c.advance
  | '"' :: _ => .ok ('"', c.advance)
  | '\\' :: _ => .ok ('\\', c.advance)
  | '/' :: _ => .ok ('/', c.advance)
  | 'b' :: _ => .ok (Char.ofNat 8, c.advance)
  | 'f' :: _ => .ok (Char.ofNat 12, c.advance)
  | 'n' :: _ => .ok ('\n', c.advance)
  | 'r' :: _ => .ok ('\r', c.advance)
  | 't' :: _ => .ok ('\t', c.advance)
  | _ :: _ => .error (c.ahead .invalidEscape)

/-- A string after its opening mark; `read` holds its characters so far, last first. -/
def readString : (fuel : Nat) → (read : List Char) → Cursor → Except ReadError (String × Cursor)
  | 0, _, c => .error (c.here .endInString)
  | fuel + 1, read, c =>
    match c.rest with
    | [] => .error (c.here .endInString)
    | '"' :: _ => .ok (String.ofList read.reverse, c.advance)
    | '\\' :: _ => do
      let (x, c) ← readEscape c.advance
      readString fuel (x :: read) c
    | x :: _ =>
      if x.toNat < 32 then .error (c.ahead .controlCharacter)
      else readString fuel (x :: read) c.advance

/-! ## Values -/

mutual

/-- A value. Each step consumes a character, so a fuel above the length of the text suffices;
`depth` is how many brackets may still open. -/
def readValue : (fuel depth : Nat) → Cursor → Except ReadError (Json × Cursor)
  | 0, _, c => .error (c.here .endInValue)
  | fuel + 1, depth, c =>
    let c := c.skipBlanks
    match c.rest with
    | [] => .error (c.here .endInValue)
    | 'n' :: _ => readWord null ['u', 'l', 'l'] c.advance
    | 't' :: _ => readWord (bool true) ['r', 'u', 'e'] c.advance
    | 'f' :: _ => readWord (bool false) ['a', 'l', 's', 'e'] c.advance
    | '-' :: _ => readNumber true c.advance
    | '"' :: _ => do
      let c := c.advance
      let (s, c) ← readString (c.rest.length + 1) [] c
      .ok (string s, c)
    | '[' :: _ =>
      match depth with
      | 0 | 1 => .error (c.ahead .tooDeep)
      | depth + 1 => do
        let (items, c) ← readItems fuel depth true c.advance
        .ok (array items, c)
    | '\x7b' :: _ =>
      match depth with
      | 0 | 1 => .error (c.ahead .tooDeep)
      | depth + 1 => do
        let (members, c) ← readMembers fuel depth true [] c.advance
        .ok (object members, c)
    | x :: _ =>
      if x.isDigit then readNumber false c else .error (c.ahead .expectedValue)
termination_by structural fuel => fuel

def readItems : (fuel depth : Nat) → (first : Bool) → Cursor → Except ReadError (List Json × Cursor)
  | 0, _, _, c => .error (c.here .endInList)
  | fuel + 1, depth, first, c =>
    let c := c.skipBlanks
    match c.rest with
    | [] => .error (c.here .endInList)
    | ']' :: _ => .ok ([], c.advance)
    | x :: _ =>
      if first then do
        let (v, c) ← readValue fuel depth c
        let (vs, c) ← readItems fuel depth false c
        .ok (v :: vs, c)
      else if x = ',' then
        let c := c.advance.skipBlanks
        match c.rest with
        | [] => .error (c.here .endInValue)
        | ']' :: _ => .error (c.ahead .trailingComma)
        | _ :: _ => do
          let (v, c) ← readValue fuel depth c
          let (vs, c) ← readItems fuel depth false c
          .ok (v :: vs, c)
      else .error (c.ahead .expectedListEnd)
termination_by structural fuel => fuel

/-- The members up to the closing brace, put in their places among those `read`. -/
def readMembers : (fuel depth : Nat) → (first : Bool) → (read : List (String × Json)) → Cursor →
    Except ReadError (List (String × Json) × Cursor)
  | 0, _, _, _, c => .error (c.here .endInObject)
  | fuel + 1, depth, first, read, c =>
    let c := c.skipBlanks
    match c.rest with
    | [] => .error (c.here .endInObject)
    | '\x7d' :: _ => .ok (read, c.advance)
    | x :: _ =>
      if first then
        if x = '"' then do
          let (member, c) ← readMember fuel depth c
          readMembers fuel depth false (SortedMap.insertEntry member.1 member.2 read) c
        else .error (c.ahead .keyNotString)
      else if x = ',' then
        let c := c.advance.skipBlanks
        match c.rest with
        | [] => .error (c.here .endInValue)
        | '"' :: _ => do
          let (member, c) ← readMember fuel depth c
          readMembers fuel depth false (SortedMap.insertEntry member.1 member.2 read) c
        | '\x7d' :: _ => .error (c.ahead .trailingComma)
        | _ :: _ => .error (c.ahead .keyNotString)
      else .error (c.ahead .expectedObjectEnd)
termination_by structural fuel => fuel

/-- A member, from the opening mark of its key on. -/
def readMember : (fuel depth : Nat) → Cursor → Except ReadError ((String × Json) × Cursor)
  | 0, _, c => .error (c.here .endInObject)
  | fuel + 1, depth, c => do
    let c := c.advance
    let (key, c) ← readString (c.rest.length + 1) [] c
    let c := c.skipBlanks
    match c.rest with
    | [] => .error (c.here .endInObject)
    | ':' :: _ => do
      let (v, c) ← readValue fuel depth c.advance
      .ok ((key, v), c)
    | _ :: _ => .error (c.ahead .expectedColon)
termination_by structural fuel => fuel

end

def read (text : String) : Except ReadError Json := do
  let start : Cursor := ⟨text.toList, 1, 0⟩
  let (v, c) ← readValue (2 * start.rest.length + 2) 128 start
  let c := c.skipBlanks
  match c.rest with
  | [] => .ok v
  | _ :: _ => .error (c.ahead .trailingCharacters)

end StepEngine.Json
