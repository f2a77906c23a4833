import StepEngine.Json.Reader
/-!
# Encoded contents of texts

* `Base64.decode?` : the bytes that a text spells in base 64;
* `Utf8Fault` : where bytes stop being UTF-8;
* `Utf8Fault.find?` : the first such place;
* `Content.isJson` : a text is a JSON value.
-/

namespace StepEngine

namespace Base64

def value? (c : Char) : Option Nat :=
  if 'A' ≤ c && c ≤ 'Z' then some (c.toNat - 65)
  else if 'a' ≤ c && c ≤ 'z' then some (c.toNat - 71)
  else if c.isDigit then some (c.toNat + 4)
  else if c = '+' then some 62
  else if c = '/' then some 63
  else none

/-- The bytes of groups of four digits. Only the last group may be padded, and the bits that it does
not use are zero. -/
def decode? : List Char → Option (List Nat)
  | [] => some []
  | [a, b, '=', '='] => do
    let a ← value? a
    let b ← value? b
    if b % 16 = 0 then some [4 * a + b / 16] else none
  | [a, b, c, '='] => do
    let a ← value? a
    let b ← value? b
    let c ← value? c
    if c % 4 = 0 then some [4 * a + b / 16, b % 16 * 16 + c / 4] else none
  | a :: b :: c :: d :: rest => do
    let a ← value? a
    let b ← value? b
    let c ← value? c
    let d ← value? d
    let bytes ← decode? rest
    some ([4 * a + b / 16, b % 16 * 16 + c / 4, c % 4 * 64 + d] ++ bytes)
  | _ => none

end Base64

/-- Where bytes stop being UTF-8. The length of the wrong sequence is not known when the bytes end in
it. -/
structure Utf8Fault where
  index : Nat
  length : Option Nat
  deriving DecidableEq

namespace Utf8Fault

def message (f : Utf8Fault) : String :=
  match f.length with
  | some n =>
    "invalid utf-8 sequence of " ++ toString n ++ " bytes from index " ++ toString f.index
  | none => "incomplete utf-8 byte sequence from index " ++ toString f.index

def followers? (first : Nat) : Option (List (Nat × Nat)) :=
  let any := (0x80, 0xBF)
  if first < 0x80 then some []
  else if 0xC2 ≤ first ∧ first ≤ 0xDF then some [any]
  else if first = 0xE0 then some [(0xA0, 0xBF), any]
  else if first = 0xED then some [(0x80, 0x9F), any]
  else if 0xE1 ≤ first ∧ first ≤ 0xEF then some [any, any]
  else if first = 0xF0 then some [(0x90, 0xBF), any, any]
  else if 0xF1 ≤ first ∧ first ≤ 0xF3 then some [any, any, any]
  else if first = 0xF4 then some [(0x80, 0x8F), any, any]
  else none

/-- The fault of a sequence whose first bytes, `length` of them, are sound; or what follows it. -/
def sequence (index : Nat) : (length : Nat) → (ranges : List (Nat × Nat)) → List Nat →
    Except Utf8Fault (List Nat)
  | _, [], rest => .ok rest
  | _, _ :: _, [] => .error ⟨index, none⟩
  | length, (lo, hi) :: ranges, b :: rest =>
    if lo ≤ b ∧ b ≤ hi then sequence index (length + 1) ranges rest else .error ⟨index, some length⟩

/-- The first fault from an index on. -/
def findFrom? : (fuel index : Nat) → List Nat → Option Utf8Fault
  | 0, _, _ => none
  | _, _, [] => none
  | fuel + 1, index, first :: rest =>
    match followers? first with
    | none => some ⟨index, some 1⟩
    | some ranges =>
      match sequence index 1 ranges rest with
      | .error fault => some fault
      | .ok after => findFrom? fuel (index + 1 + ranges.length) after

def find? (bytes : List Nat) : Option Utf8Fault :=
  findFrom? (bytes.length + 1) 0 bytes

end Utf8Fault

namespace Content

def isJson (s : String) : Bool :=
  match Json.read s with
  | .ok _ => true
  | .error _ => false

def textOf (bytes : List Nat) : Option String :=
  String.fromUTF8? ⟨(bytes.map UInt8.ofNat).toArray⟩

end Content

end StepEngine
