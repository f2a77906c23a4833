import StepEngine.Schema.Assertion
/-!
# Validators

* `Validator` : what a schema says about values: its findings on a value at a place;
* `Validator.accepts` : a value without findings;
* `Validator.all`, `anyOf`, `oneOf`, `forbid`, `choose` : schemas for the value at hand;
* `Validator.properties`, `additionalProperties`, `propertyNames` : schemas for the members of an
  object;
* `Validator.prefixItems`, `items`, `contains` : schemas for the elements of a list;
* `Validator.later` : a validator that is made when a value first comes to it.
-/

namespace StepEngine

/-- A pattern is found in a name. A search that is given up finds nothing. -/
def Pattern.admits (p : Pattern) (name : String) : Bool :=
  (p.search name).toOption == some true

/-- What a schema says about values: nothing, or its findings on a value at a place. -/
inductive Validator where
  | anything
  | asking (findings : (value : Json) → Pointer → List Finding)

namespace Validator

def findings : Validator → (value : Json) → Pointer → List Finding
  | anything => fun _ _ => []
  | asking findings => findings

def accepts (s : Validator) (value : Json) : Bool :=
  (s.findings value []).isEmpty

def nothing : Validator :=
  asking fun value place => [⟨place, .falseSchema value⟩]

def ofViolations (violations : Json → List Violation) : Validator :=
  asking fun value place => (violations value).map (Finding.mk place)

/-- Findings on an object by its members; other values are accepted. -/
def onMembers (findings : List (String × Json) → Pointer → List Finding) : Validator :=
  asking fun value place =>
    match value with
    | .object members => findings members place
    | _ => []

/-- Findings on a list by its elements; other values are accepted. -/
def onElements (findings : List Json → Pointer → List Finding) : Validator :=
  asking fun value place =>
    match value with
    | .array items => findings items place
    | _ => []

/-- A validator that is made when a value first comes to it. -/
def later (make : Unit → Validator) : Validator :=
  let made := Thunk.mk make
  asking fun value place => made.get.findings value place

/-! ## Schemas for the value at hand -/

def all (schemas : List Validator) : Validator :=
  asking fun value place => schemas.flatMap fun s => s.findings value place

def anyOf (schemas : List Validator) : Validator :=
  asking fun value place =>
    if schemas.any (·.accepts value) then [] else [⟨place, .noAlternative value "anyOf"⟩]

def oneOf (schemas : List Validator) : Validator :=
  asking fun value place =>
    match schemas.filter (·.accepts value) with
    | [] => [⟨place, .noAlternative value "oneOf"⟩]
    | [_] => []
    | _ => [⟨place, .severalAlternatives value⟩]

def forbid (shown : Json) (s : Validator) : Validator :=
  asking fun value place => if s.accepts value then [⟨place, .forbidden shown value⟩] else []

/-- One of two schemas, by whether a condition accepts the value. -/
def choose (condition yes no : Validator) : Validator :=
  asking fun value place => (if condition.accepts value then yes else no).findings value place

/-- Schemas that apply when the object has a member. -/
def dependent (schemas : List (String × Validator)) : Validator :=
  asking fun value place =>
    match value with
    | .object members =>
      (schemas.filter fun s => (members.lookup s.1).isSome).flatMap fun s => s.2.findings value place
    | _ => []

/-! ## Schemas for members -/

/-- The schemas for the members of an object: by their names, and by patterns of names. -/
structure MemberRules where
  named : List (String × Validator)
  matching : List (Pattern × Validator)

/-- The schemas for a member, those by name first. -/
def MemberRules.of (r : MemberRules) (name : String) : List Validator :=
  (r.named.lookup name).toList ++ (r.matching.filter fun p => p.1.admits name).map (·.2)

def onMember (schemas : List Validator) (member : String × Json) (place : Pointer) : List Finding :=
  schemas.flatMap fun s => s.findings member.2 (member.1 :: place)

/-- Members by their names, in the order of the schemas. -/
def properties (schemas : List (String × Validator)) : Validator :=
  onMembers fun members place => schemas.flatMap fun (name, s) =>
    match members.lookup name with
    | some v => onMember [s] (name, v) place
    | none => []

/-- Members by patterns of their names, in the order of the patterns. -/
def patternProperties (schemas : List (Pattern × Validator)) : Validator :=
  onMembers fun members place => schemas.flatMap fun (pattern, s) =>
    (members.filter fun m => pattern.admits m.1).flatMap fun m => onMember [s] m place

/-- No members at all; the first one is blamed. -/
def noMembers : Validator :=
  onMembers fun members place =>
    match members with
    | [] => []
    | first :: _ => [⟨place, .falseSchema first.2⟩]

/-- The members in order, each against all schemas for it. The names without a schema are listed
last. -/
def onlyKnown (rules : MemberRules) : Validator :=
  onMembers fun members place =>
    let unexpected := members.filter fun m => (rules.of m.1).isEmpty
    members.flatMap (fun m => onMember (rules.of m.1) m place) ++
      if unexpected.isEmpty then [] else [⟨place, .additional (unexpected.map (·.1))⟩]

/-- The members in order, each against all schemas for it, or another schema when there are none. -/
def additionalProperties (rules : MemberRules) (otherwise : Validator) : Validator :=
  onMembers fun members place => members.flatMap fun m =>
    match rules.of m.1 with
    | [] => onMember [otherwise] m place
    | schemas => onMember schemas m place

/-- The names of the members; what is found stands at the object. -/
def propertyNames (s : Validator) : Validator :=
  onMembers fun members place => members.flatMap fun m =>
    (s.findings (.string m.1) place).map fun f => { f with place := place }

def noNames : Validator :=
  asking fun value place =>
    match value with
    | .object (_ :: _) => [⟨place, .falseSchema value⟩]
    | _ => []

/-! ## Schemas for elements -/

/-- The elements of a list from an index on, against one schema. -/
def itemsFrom (s : Validator) (place : Pointer) : (index : Nat) → List Json → List Finding
  | _, [] => []
  | index, v :: rest =>
    s.findings v (toString index :: place) ++ itemsFrom s place (index + 1) rest

def itemsAfter (count : Nat) (s : Validator) : Validator :=
  onElements fun items place => itemsFrom s place count (items.drop count)

/-- The first elements, each against the schema of its place. -/
def prefixItems (schemas : List Validator) : Validator :=
  onElements fun items place =>
    (List.range (min schemas.length items.length)).flatMap fun i =>
      match schemas[i]?, items[i]? with
      | some s, some v => s.findings v (toString i :: place)
      | _, _ => []

def noItemsAfter (count : Nat) : Validator :=
  onElements fun items place =>
    let unexpected := items.drop count
    if unexpected.isEmpty then [] else [⟨place, .additionalItems unexpected⟩]

/-- A list that holds neither too few nor too many elements that a schema accepts. -/
def contains (least : Nat) (most : Option Nat) (s : Validator) : Validator :=
  onElements fun items place =>
    let accepted := (items.filter s.accepts).length
    if least ≤ accepted && most.all (accepted ≤ ·) then [] else [⟨place, .noneContained (.array items)⟩]

end Validator

end StepEngine
