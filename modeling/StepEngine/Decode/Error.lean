import StepEngine.Json.Printer
import StepEngine.Text.Printable
/-!
# What can be wrong with a value that is decoded

* `Expectation` : what a decoder wanted;
* `DecodeError` : the causes;
* `DecodeError.message` : their wording;
* `Json.describe` : a value as a message shows it.
-/

namespace StepEngine

/-- A value as a message shows it: scalars in full, lists and objects by their kind. -/
def Json.describe : Json → String
  | .null => "null"
  | .bool b => "boolean `" ++ (if b then "true" else "false") ++ "`"
  | .number (.int i) => "integer `" ++ toString i ++ "`"
  | .number (.double d) => "floating point `" ++ Layout.standard.render d ++ "`"
  | .string s => "string " ++ Text.debugQuote s
  | .array _ => "sequence"
  | .object _ => "map"

/-- What a decoder wanted. -/
inductive Expectation where
  | text
  | boolean
  | sequence
  | map
  | double
  | unit
  /-- A number of a machine type, by the name of the type. -/
  | integer (type : String)
  /-- A record, by its full description. -/
  | record (description : String)
  /-- A value with a tag beside its fields. -/
  | tagged (name : String)
  /-- The name of a variant. -/
  | identifier
  /-- The name of a variant, alone or as the only key of an object. -/
  | nameOrMap
  | singleKey
  /-- A record that was given as a list and came short. -/
  | elementsOf (description : String) (count : Nat)
  /-- No more elements than a record has fields. -/
  | fewerElements
  /-- The fields of a record and nothing after them. -/
  | elements (count : Nat)
  deriving DecidableEq

def countElements (n : Nat) : String :=
  toString n ++ (if n = 1 then " element" else " elements")

def Expectation.description : Expectation → String
  | text => "a string"
  | boolean => "a boolean"
  | sequence => "a sequence"
  | map => "a map"
  | double => "f64"
  | unit => "unit"
  | integer type => type
  | record description => description
  | tagged name => "internally tagged enum " ++ name
  | identifier => "variant identifier"
  | nameOrMap => "string or map"
  | singleKey => "map with a single key"
  | elementsOf description count => description ++ " with " ++ countElements count
  | fewerElements => "fewer elements in array"
  | elements count => countElements count ++ " in sequence"

/-- Why a value does not decode. -/
inductive DecodeError where
  | invalidType (found : Json) (expected : Expectation)
  | invalidValue (found : Json) (expected : Expectation)
  | invalidLength (length : Nat) (expected : Expectation)
  | missingField (name : String)
  | duplicateField (name : String)
  | unknownField (name : String) (known : List String)
  | unknownVariant (name : String) (known : List String)
  /-- No alternative of a value without a tag fits. -/
  | noAlternative (name : String)
  | emptyNumeral
  | invalidNumeral
  | numeralTooLarge
  deriving DecidableEq

/-- The names a message offers instead of an unknown one. -/
def offer (none : String) : List String → String
  | [] => none
  | [a] => "expected `" ++ a ++ "`"
  | [a, b] => "expected `" ++ a ++ "` or `" ++ b ++ "`"
  | names => "expected one of " ++ ", ".intercalate (names.map fun n => "`" ++ n ++ "`")

def DecodeError.message : DecodeError → String
  | invalidType found expected =>
    "invalid type: " ++ found.describe ++ ", expected " ++ expected.description
  | invalidValue found expected =>
    "invalid value: " ++ found.describe ++ ", expected " ++ expected.description
  | invalidLength length expected =>
    "invalid length " ++ toString length ++ ", expected " ++ expected.description
  | missingField name => "missing field `" ++ name ++ "`"
  | duplicateField name => "duplicate field `" ++ name ++ "`"
  | unknownField name known => "unknown field `" ++ name ++ "`, " ++ offer "there are no fields" known
  | unknownVariant name known =>
    "unknown variant `" ++ name ++ "`, " ++ offer "there are no variants" known
  | noAlternative name => "data did not match any variant of untagged enum " ++ name
  | emptyNumeral => "cannot parse integer from empty string"
  | invalidNumeral => "invalid digit found in string"
  | numeralTooLarge => "number too large to fit in target type"

end StepEngine
