import StepEngine.Json.Printer
import StepEngine.Number.Decimal
import StepEngine.Pattern.Search
import StepEngine.Schema.Content
/-!
# Violations of a schema

* `TypeName` : the types a schema can name, in the order in which messages list them;
* `Violation` : the ways in which a value can fail a keyword;
* `Pointer` : the place of a value in a payload;
* `Finding` : a violation and its place.
-/

namespace StepEngine

inductive TypeName where
  | array
  | boolean
  | integer
  | null
  | number
  | object
  | string
  deriving DecidableEq

namespace TypeName

/-- All types, in the order in which messages list them. -/
def all : List TypeName := [array, boolean, integer, null, number, object, string]

def name : TypeName → String
  | array => "array"
  | boolean => "boolean"
  | integer => "integer"
  | null => "null"
  | number => "number"
  | object => "object"
  | string => "string"

def ofName? (s : String) : Option TypeName :=
  all.find? (·.name == s)

/-- A value is of a type. A double without fractional part is an integer. -/
def admits : (t : TypeName) → (value : Json) → Bool
  | array, .array _ => true
  | boolean, .bool _ => true
  | integer, .number n => n.isInteger
  | null, .null => true
  | number, .number _ => true
  | object, .object _ => true
  | string, .string _ => true
  | _, _ => false

/-- The same, where only a number that is written as one is an integer. -/
def admitsWritten (t : TypeName) (value : Json) : Bool :=
  match t, value with
  | integer, .number (.double _) => false
  | _, _ => t.admits value

end TypeName

inductive Violation where
  | falseSchema (value : Json)
  | notOfType (value : Json) (expected : TypeName)
  | notOfTypes (value : Json) (allowed : List TypeName)
  | missing (name : String)
  | tooShort (value : Json) (limit : Nat)
  | tooLong (value : Json) (limit : Nat)
  | tooFewItems (value : Json) (limit : Nat)
  | tooManyItems (value : Json) (limit : Nat)
  | tooFewProperties (value : Json) (limit : Nat)
  | tooManyProperties (value : Json) (limit : Nat)
  | belowMinimum (value limit : Json)
  | aboveMaximum (value limit : Json)
  | notAboveMinimum (value limit : Json)
  | notBelowMaximum (value limit : Json)
  | notUnique (value : Json)
  | notListed (value options : Json)
  | notConst (expected : Json)
  | additional (names : List String)
  | additionalItems (items : List Json)
  | unevaluatedProperties (names : List String)
  | unevaluatedItems (items : List Json)
  | noMatch (value : Json) (pattern : String)
  | noneContained (value : Json)
  | noAlternative (value : Json) (keyword : String)
  | severalAlternatives (value : Json)
  | forbidden (schema value : Json)
  | notMultiple (value : Json) (divisor : Double)
  | badFormat (value : Json) (format : String)
  | badEncoding (value : Json) (encoding : String)
  | badMediaType (value : Json) (mediaType : String)
  | badText (fault : Utf8Fault)
  | searchGivenUp (fault : SearchFault)
  deriving DecidableEq

namespace Violation

/-- A count with a noun in its number. -/
def counted (n : Nat) (one many : String) : String :=
  toString n ++ " " ++ (if n = 1 then one else many)

def unexpected (things : List String) : String :=
  ", ".intercalate things ++
    (if things.length = 1 then " was unexpected" else " were unexpected")

def quoted (s : String) : String :=
  "'" ++ s ++ "'"

def compared (value : Json) (relation : String) (limit : Json) : String :=
  value.render ++ " is " ++ relation ++ " of " ++ limit.render

def message : Violation → String
  | falseSchema value => "False schema does not allow " ++ value.render
  | notOfType value expected => value.render ++ " is not of type \"" ++ expected.name ++ "\""
  | notOfTypes value allowed =>
    value.render ++ " is not of types " ++
      ", ".intercalate (allowed.map fun t => "\"" ++ t.name ++ "\"")
  | missing name => Json.quote name ++ " is a required property"
  | tooShort value n => value.render ++ " is shorter than " ++ counted n "character" "characters"
  | tooLong value n => value.render ++ " is longer than " ++ counted n "character" "characters"
  | tooFewItems value n => value.render ++ " has less than " ++ counted n "item" "items"
  | tooManyItems value n => value.render ++ " has more than " ++ counted n "item" "items"
  | tooFewProperties value n =>
    value.render ++ " has less than " ++ counted n "property" "properties"
  | tooManyProperties value n =>
    value.render ++ " has more than " ++ counted n "property" "properties"
  | belowMinimum value limit => compared value "less than the minimum" limit
  | aboveMaximum value limit => compared value "greater than the maximum" limit
  | notAboveMinimum value limit => compared value "less than or equal to the minimum" limit
  | notBelowMaximum value limit => compared value "greater than or equal to the maximum" limit
  | notUnique value => value.render ++ " has non-unique elements"
  | notListed value options => value.render ++ " is not one of " ++ options.render
  | notConst expected => expected.render ++ " was expected"
  | additional names =>
    "Additional properties are not allowed (" ++ unexpected (names.map quoted) ++ ")"
  | additionalItems items =>
    "Additional items are not allowed (" ++ unexpected (items.map Json.render) ++ ")"
  | unevaluatedProperties names =>
    "Unevaluated properties are not allowed (" ++ unexpected (names.map quoted) ++ ")"
  | unevaluatedItems items =>
    "Unevaluated items are not allowed (" ++ unexpected (items.map fun v => quoted v.render) ++ ")"
  | noMatch value pattern => value.render ++ " does not match \"" ++ pattern ++ "\""
  | noneContained value => "None of " ++ value.render ++ " are valid under the given schema"
  | noAlternative value keyword =>
    value.render ++ " is not valid under any of the schemas listed in the '" ++ keyword ++
      "' keyword"
  | severalAlternatives value =>
    value.render ++ " is valid under more than one of the schemas listed in the 'oneOf' keyword"
  | forbidden schema value => schema.render ++ " is not allowed for " ++ value.render
  | notMultiple value divisor =>
    value.render ++ " is not a multiple of " ++ Layout.plain.render divisor
  | badFormat value format => value.render ++ " is not a \"" ++ format ++ "\""
  | badEncoding value encoding =>
    value.render ++ " is not compliant with \"" ++ encoding ++ "\" content encoding"
  | badMediaType value mediaType =>
    value.render ++ " is not compliant with \"" ++ mediaType ++ "\" media type"
  | badText fault => fault.message
  | searchGivenUp fault => fault.message

end Violation

/-! ## Places -/

/-- The place of a value: the keys and indices that lead to it, the last one first. -/
abbrev Pointer := List String

namespace Pointer

/-- A key inside a pointer: a tilde and a slash are escaped. -/
def escape (key : String) : String :=
  String.ofList (key.toList.flatMap fun c =>
    if c = '~' then ['~', '0'] else if c = '/' then ['~', '1'] else [c])

/-- The text of a pointer: `$` for the whole payload. -/
def render (p : Pointer) : String :=
  if p.isEmpty then "$" else String.join (p.reverse.map fun key => "/" ++ escape key)

end Pointer

structure Finding where
  place : Pointer
  violation : Violation
  deriving DecidableEq

/-- The wording of a finding: its place, then what is wrong. -/
def Finding.message (f : Finding) : String :=
  f.place.render ++ ": " ++ f.violation.message

end StepEngine
