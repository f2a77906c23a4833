import StepEngine.Schema.Violation
import StepEngine.Schema.Equality
import StepEngine.Number.Multiple
import StepEngine.Schema.Format
/-!
# Keywords that look at one value

* `Keyword.count?` : the limit that a keyword holds;
* `Keyword.assertType`, `assertMinimum`, `assertPattern`, … : the keywords with rules of their own;
* `Keyword.assert` : the violations of a keyword that applies no other schema.
-/

namespace StepEngine.Keyword

/-! ## The values of keywords -/

/-- The schemas of a keyword that holds a list. -/
def schemaList : Json → List Json
  | .array schemas => schemas
  | _ => []

/-- The schemas of a keyword that holds an object. -/
def schemaMap : Json → List (String × Json)
  | .object schemas => schemas
  | _ => []

def nameMatches (pattern name : String) : Bool :=
  match Pattern.read? pattern with
  | some p => (p.search name).toOption == some true
  | none => false

/-- A number cut to the range of 64 bits without sign. -/
def clamp (n : Int) : Nat :=
  min n.toNat (Nat.pow 2 64 - 1)

/-- A limit: an integer, also one written with a point, cut to the range of 64 bits. -/
def count? : Json → Option Nat
  | .number (.int i) => some (clamp i)
  | .number (.double d) =>
    if d.isInteger then some (clamp (d.units / Double.unitsPerOne)) else none
  | _ => none

/-- The types in a list of their names, in the order of messages. -/
def typeNames? (names : List Json) : Option (List TypeName) := do
  let types ← names.mapM fun n => n.asString?.bind TypeName.ofName?
  some (TypeName.all.filter types.contains)

/-! ## Tests of a value -/

/-- A violation unless a test holds. -/
def require (holds : Bool) (violation : Violation) : List Violation :=
  if holds then [] else [violation]

/-- A test of the exact values of two numbers; what is no number passes. -/
def compare (value limit : Json) (holds : (value limit : Int) → Bool) (violation : Violation) :
    List Violation :=
  match value, limit with
  | .number n, .number m => require (holds n.units m.units) violation
  | _, _ => []

def measureText (value arg : Json) (holds : (length limit : Nat) → Bool)
    (violation : Nat → Violation) : List Violation :=
  match value, count? arg with
  | .string s, some n => require (holds s.length n) (violation n)
  | _, _ => []

def measureArray (value arg : Json) (holds : (length limit : Nat) → Bool)
    (violation : Nat → Violation) : List Violation :=
  match value, count? arg with
  | .array items, some n => require (holds items.length n) (violation n)
  | _, _ => []

def measureObject (value arg : Json) (holds : (length limit : Nat) → Bool)
    (violation : Nat → Violation) : List Violation :=
  match value, count? arg with
  | .object members, some n => require (holds members.length n) (violation n)
  | _, _ => []

/-- The required names that an object lacks, in the order of the list. -/
def missingNames (value names : Json) : List Violation :=
  match value, names with
  | .object members, .array names =>
    (names.filterMap Json.asString?).filterMap fun n =>
      if (members.lookup n).isSome then none else some (.missing n)
  | _, _ => []

/-- The divisor of `multipleOf`: a number above zero. -/
def divisor? : Json → Option Double
  | .number n =>
    let d := n.toDouble
    if 0 < d.units then some d else none
  | _ => none

/-- The value of `type`: a name, or a list of names. In a longer list, and in the fourth draft always,
only a number that is written as one is an integer. -/
def assertType (draft : Draft) (arg value : Json) : List Violation :=
  let single := fun name =>
    match TypeName.ofName? name with
    | some t =>
      let admitted := if draft == .draft4 then t.admitsWritten value else t.admits value
      require admitted (.notOfType value t)
    | none => []
  match arg with
  | .string name => single name
  | .array [.string name] => single name
  | .array names =>
    match typeNames? names with
    | some allowed => require (allowed.any (·.admitsWritten value)) (.notOfTypes value allowed)
    | none => []
  | _ => []

/-- The bound `minimum`; in the fourth draft a second keyword leaves out the bound itself. -/
def assertMinimum (draft : Draft) (keywords : List (String × Json)) (arg value : Json) :
    List Violation :=
  if draft == .draft4 && keywords.lookup "exclusiveMinimum" == some (.bool true) then
    compare value arg (fun v l => l < v) (.notAboveMinimum value arg)
  else compare value arg (fun v l => l ≤ v) (.belowMinimum value arg)

/-- The bound `maximum`; in the fourth draft a second keyword leaves out the bound itself. -/
def assertMaximum (draft : Draft) (keywords : List (String × Json)) (arg value : Json) :
    List Violation :=
  if draft == .draft4 && keywords.lookup "exclusiveMaximum" == some (.bool true) then
    compare value arg (fun v l => v < l) (.notBelowMaximum value arg)
  else compare value arg (fun v l => v ≤ l) (.aboveMaximum value arg)

/-- A text that a pattern is found in. -/
def assertPattern (pattern : Pattern) (value : Json) : List Violation :=
  match value with
  | .string s =>
    match pattern.search s with
    | .ok found => require found (.noMatch value pattern.shown)
    | .error fault => [.searchGivenUp fault]
  | _ => []

def assertFormat (draft : Draft) (arg value : Json) : List Violation :=
  match arg, value with
  | .string format, .string s =>
    match Format.test? draft format with
    | some test => require (test s) (.badFormat value format)
    | none => []
  | _, _ => []

/-- A text whose contents are encoded. -/
def assertEncoding (keywords : List (String × Json)) (arg value : Json) : List Violation :=
  match arg, value with
  | .string "base64", .string s =>
    if (keywords.lookup "contentMediaType").isSome then []
    else require (Base64.decode? s.toList).isSome (.badEncoding value "base64")
  | _, _ => []

/-- A text whose contents, decoded first, are of a media type. -/
def assertMediaType (keywords : List (String × Json)) (arg value : Json) : List Violation :=
  let fault := Violation.badMediaType value "application/json"
  match arg, value with
  | .string "application/json", .string s =>
    match keywords.lookup "contentEncoding" with
    | none => require (Content.isJson s) fault
    | some (.string "base64") =>
      match Base64.decode? s.toList with
      | none => [.badEncoding value "base64"]
      | some bytes =>
        match Utf8Fault.find? bytes with
        | some bad => [.badText bad]
        | none => require ((Content.textOf bytes).any Content.isJson) fault
    | some _ => []
  | _, _ => []

/-- The violations of a keyword that applies no other schema, beside the keywords of its schema. -/
def assert (draft : Draft) (keywords : List (String × Json)) (keyword : String) (arg value : Json) :
    List Violation :=
  match keyword with
  | "type" => assertType draft arg value
  | "enum" =>
    match arg with
    | .array options => require (options.any (·.sameValue value)) (.notListed value arg)
    | _ => []
  | "const" => require (arg.isConst value) (.notConst arg)
  | "minLength" => measureText value arg (fun l n => n ≤ l) (.tooShort value)
  | "maxLength" => measureText value arg (fun l n => l ≤ n) (.tooLong value)
  | "minItems" => measureArray value arg (fun l n => n ≤ l) (.tooFewItems value)
  | "maxItems" => measureArray value arg (fun l n => l ≤ n) (.tooManyItems value)
  | "minProperties" => measureObject value arg (fun l n => n ≤ l) (.tooFewProperties value)
  | "maxProperties" => measureObject value arg (fun l n => l ≤ n) (.tooManyProperties value)
  | "minimum" => assertMinimum draft keywords arg value
  | "maximum" => assertMaximum draft keywords arg value
  | "exclusiveMinimum" => compare value arg (fun v l => l < v) (.notAboveMinimum value arg)
  | "exclusiveMaximum" => compare value arg (fun v l => v < l) (.notBelowMaximum value arg)
  | "uniqueItems" =>
    match arg, value with
    | .bool true, .array items => require (Json.allDistinct items) (.notUnique value)
    | _, _ => []
  | "required" => missingNames value arg
  | "format" => assertFormat draft arg value
  | "contentEncoding" => assertEncoding keywords arg value
  | "contentMediaType" => assertMediaType keywords arg value
  | "multipleOf" =>
    match divisor? arg, value with
    | some d, .number n => require (n.toDouble.isMultipleOf d) (.notMultiple value d)
    | _, _ => []
  | _ => []

end StepEngine.Keyword
