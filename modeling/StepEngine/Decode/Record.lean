import StepEngine.Decode.Basic
/-!
# Decoders of records

A record is described by its fields in order. It comes as an object, each field under its name or
one of its other spellings, or as a list of its fields in order.

* `Field`, `Fields`, `Record` : the description;
* `Slots`, `Values` : what has been read of the fields, and all of it;
* `Fields.ofMembers` : from an object: the members are decoded in order, the first failure wins, a
  field given twice is a failure, and a field that is missing is looked for last;
* `Fields.ofItems` : from a list: trailing fields with a default may be missing;
* `Record.decode` : either.
-/

namespace StepEngine

structure Field (α : Type) where
  name : String
  /-- Other spellings of the name. -/
  aliases : List String
  decode : Decoder α
  /-- The value of a field that is missing, if it may be. -/
  default? : Option α

namespace Field

def required (name : String) (decode : Decoder α) (aliases : List String) : Field α :=
  ⟨name, aliases, decode, none⟩

def defaulted (name : String) (decode : Decoder α) (default : α) (aliases : List String) :
    Field α :=
  ⟨name, aliases, decode, some default⟩

/-- A field that may be missing or `null`. -/
def optional (name : String) (decode : Decoder α) (aliases : List String) : Field (Option α) :=
  ⟨name, aliases, Decode.optional decode, some none⟩

/-- A key is the name of the field or another spelling of it. -/
def isNamed (f : Field α) (key : String) : Bool :=
  key == f.name || f.aliases.contains key

end Field

inductive Fields : List Type → Type 1 where
  | nil : Fields []
  | cons {α : Type} {types : List Type} (field : Field α) (rest : Fields types) :
      Fields (α :: types)

/-- What has been read of each field. -/
def Slots : List Type → Type
  | [] => Unit
  | α :: types => Option α × Slots types

def Values : List Type → Type
  | [] => Unit
  | α :: types => α × Values types

namespace Fields

def count : {types : List Type} → Fields types → Nat
  | _, nil => 0
  | _, cons _ rest => rest.count + 1

def names : {types : List Type} → Fields types → List String
  | _, nil => []
  | _, cons field rest => field.name :: rest.names

def unread : {types : List Type} → Fields types → Slots types
  | _, nil => ()
  | _, cons _ rest => (none, rest.unread)

/-- Reads a member into its slot; `none` when no field has its key. -/
def read : {types : List Type} → Fields types → Slots types → (key : String) → Json →
    Except DecodeError (Option (Slots types))
  | _, nil, _, _, _ => .ok none
  | _, cons field rest, (slot, slots), key, v =>
    if field.isNamed key then
      match slot with
      | some _ => .error (.duplicateField field.name)
      | none => do
        let a ← field.decode v
        .ok (some (some a, slots))
    else do
      let slots ← rest.read slots key v
      .ok (slots.map (slot, ·))

/-- Reads members in order. A member without a field is passed over, or refused when the record is
`closed`. -/
def readAll {types : List Type} (fields : Fields types) (closed : Bool) :
    Slots types → List (String × Json) → Except DecodeError (Slots types)
  | slots, [] => .ok slots
  | slots, (key, v) :: rest => do
    match ← fields.read slots key v with
    | some slots => readAll fields closed slots rest
    | none =>
      if closed then .error (.unknownField key fields.names)
      else readAll fields closed slots rest

/-- The values of the slots, defaults in the empty ones. -/
def complete : {types : List Type} → Fields types → Slots types → Except DecodeError (Values types)
  | _, nil, _ => .ok ()
  | _, cons field rest, (slot, slots) =>
    match slot, field.default? with
    | some a, _ | none, some a => do
      let values ← rest.complete slots
      .ok (a, values)
    | none, none => .error (.missingField field.name)

def ofMembers {types : List Type} (fields : Fields types) (closed : Bool)
    (members : List (String × Json)) : Except DecodeError (Values types) := do
  let slots ← fields.readAll closed fields.unread members
  fields.complete slots

/-- The values of the elements of a list, and the elements left over; `position` fields of the
`total` have been read. -/
def ofItems (description : String) (total : Nat) : {types : List Type} → Fields types →
    (position : Nat) → List Json → Except DecodeError (Values types × List Json)
  | _, nil, _, items => .ok ((), items)
  | _, cons field rest, position, v :: items => do
    let a ← field.decode v
    let (values, left) ← rest.ofItems description total (position + 1) items
    .ok ((a, values), left)
  | _, cons field rest, position, [] =>
    match field.default? with
    | some a => do
      let (values, left) ← rest.ofItems description total (position + 1) []
      .ok ((a, values), left)
    | none => .error (.invalidLength position (.elementsOf description total))

end Fields

/-- A record: how messages call it, its fields, and whether it refuses unknown members. -/
structure Record (types : List Type) where
  description : String
  fields : Fields types
  closed : Bool

namespace Record

/-- The values of the fields, from an object or from a list. -/
def decode {types : List Type} (r : Record types) (origin : Origin) : Decoder (Values types)
  | .object members => r.fields.ofMembers r.closed members
  | .array items => do
    let (values, left) ← r.fields.ofItems r.description r.fields.count 0 items
    match left with
    | [] => .ok values
    | _ :: _ =>
      let expected :=
        match origin with
        | .direct => Expectation.fewerElements
        | .setAside => .elements r.fields.count
      .error (.invalidLength items.length expected)
  | v => .error (.invalidType v (.record r.description))

end Record

end StepEngine
