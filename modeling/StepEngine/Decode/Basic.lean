import StepEngine.Decode.Error
/-!
# Decoders of scalars, lists and names

* `Decoder α` : a value of `α`, or the first cause why there is none;
* `Decode.text`, `boolean`, `double`, `integer`, `optional`, `list`, `dict` : the basic shapes;
* `Decode.word16`, `word32`, `word64`, `int8`, `int64` : numbers of a machine type;
* `Decode.named` : one of a few names;
* `Decode.splitTag` : the tag of a value and the rest of it.

A value beside a tag is set aside until the tag is known; `Origin.setAside` marks what is decoded
from such a value. It differs from a value decoded at once in two points: an empty object passes
for a unit, and surplus elements of a list are told apart by the count of fields.
-/

namespace StepEngine

/-- A value of `α`, or the first cause why there is none. -/
abbrev Decoder (α : Type) := Json → Except DecodeError α

/-- Whether a value is decoded at once or was set aside first. -/
inductive Origin where
  | direct
  | setAside
  deriving DecidableEq

namespace Decode

def text : Decoder String
  | .string s => .ok s
  | v => .error (.invalidType v .text)

def boolean : Decoder Bool
  | .bool b => .ok b
  | v => .error (.invalidType v .boolean)

/-- Any number, as a double. -/
def double : Decoder Double
  | .number n => .ok n.toDouble
  | v => .error (.invalidType v .double)

def any : Decoder Json := .ok

/-- An integer from `low` to `high`; a number with a point is none. -/
def integer (type : String) (low high : Int) : Decoder Int
  | .number (.int i) =>
    if low ≤ i ∧ i ≤ high then .ok i
    else .error (.invalidValue (.number (.int i)) (.integer type))
  | v => .error (.invalidType v (.integer type))

def word8 : Decoder UInt8 := fun v =>
  (integer "u8" 0 (Int.pow 2 8 - 1) v).map fun i => .ofNat i.toNat

def word16 : Decoder UInt16 := fun v =>
  (integer "u16" 0 (Int.pow 2 16 - 1) v).map fun i => .ofNat i.toNat

def word32 : Decoder UInt32 := fun v =>
  (integer "u32" 0 (Int.pow 2 32 - 1) v).map fun i => .ofNat i.toNat

def word64 : Decoder UInt64 := fun v =>
  (integer "u64" 0 (Int.pow 2 64 - 1) v).map fun i => .ofNat i.toNat

/-- An index: an unsigned integer of 64 bits. -/
def index : Decoder UInt64 := fun v =>
  (integer "usize" 0 (Int.pow 2 64 - 1) v).map fun i => .ofNat i.toNat

def int8 : Decoder Int8 := fun v =>
  (integer "i8" (-Int.pow 2 7) (Int.pow 2 7 - 1) v).map Int8.ofInt

def int64 : Decoder Int64 := fun v =>
  (integer "i64" (-Int.pow 2 63) (Int.pow 2 63 - 1) v).map Int64.ofInt

def optional (decode : Decoder α) : Decoder (Option α)
  | .null => .ok none
  | v => (decode v).map some

def items (decode : Decoder α) : List Json → Except DecodeError (List α)
  | [] => .ok []
  | v :: rest => do
    let a ← decode v
    let as ← items decode rest
    .ok (a :: as)

def list (decode : Decoder α) : Decoder (List α)
  | .array values => items decode values
  | v => .error (.invalidType v .sequence)

def members (decode : Decoder α) :
    List (String × Json) → Except DecodeError (List (String × α))
  | [] => .ok []
  | (key, v) :: rest => do
    let a ← decode v
    let as ← members decode rest
    .ok ((key, a) :: as)

def dict (decode : Decoder α) : Decoder (Dict α)
  | .object values => (members decode values).map SortedMap.ofList
  | v => .error (.invalidType v .map)

/-! ## Names and tags -/

/-- One of the names of a table; several names may stand for one thing. -/
def nameIn (names : List (String × α)) (name : String) : Except DecodeError α :=
  match names.lookup name with
  | some a => .ok a
  | none => .error (.unknownVariant name (names.map (·.1)))

def unit (origin : Origin) : Decoder Unit
  | .null => .ok ()
  | .object [] =>
    if origin = .setAside then .ok () else .error (.invalidType (.object []) .unit)
  | v => .error (.invalidType v .unit)

/-- One of the names of a table, alone or as the only key of an object without content. -/
def named (names : List (String × α)) (origin : Origin) : Decoder α
  | .string name => nameIn names name
  | .object [(name, content)] => do
    let a ← nameIn names name
    unit origin content
    .ok a
  | .object members => .error (.invalidValue (.object members) .singleKey)
  | v => .error (.invalidType v .nameOrMap)

def tag (names : List (String × α)) : Decoder α
  | .string name => nameIn names name
  | v => .error (.invalidType v .identifier)

/-- The tag of a value and the rest of it: the member `type` of an object, the first element of a
list. -/
def splitTag (description : String) (names : List (String × α)) : Decoder (α × Json)
  | .object members =>
    match members.lookup "type" with
    | some t => do
      let a ← tag names t
      .ok (a, .object (members.filter fun m => m.1 != "type"))
    | none => .error (.missingField "type")
  | .array (t :: rest) => do
    let a ← tag names t
    .ok (a, .array rest)
  | .array [] => .error (.missingField "type")
  | v => .error (.invalidType v (.tagged description))

end Decode

end StepEngine
