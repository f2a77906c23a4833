import StepEngine.Schema.Reference
import StepEngine.Schema.Assertion
/-!
# Faults of a schema

* `CompileFault` : why a schema does not compile;
* `Keyword.fault?` : the fault of a keyword by itself, whatever schemas it applies.
-/

namespace StepEngine

inductive CompileFault where
  | unknownDraft (name : String)
  | invalid (violation : Violation)
  | badPattern (found : Json)
  | unexpectedType
  | badReference (fault : ReferenceFault)
  | badDivisor
  deriving DecidableEq

def CompileFault.message : CompileFault → String
  | unknownDraft name => "Unknown specification: " ++ name
  | invalid violation => violation.message
  | badPattern found => found.render ++ " is not a \"regex\""
  | unexpectedType => "Unexpected type"
  | badReference fault => fault.message
  | badDivisor => "multipleOf must be a positive number"

/-! ## Keywords by themselves -/

namespace Keyword

/-- A fault, as the first of several tests finds it. -/
def firstFault {α : Type} (test : α → Option CompileFault) (values : List α) : Option CompileFault :=
  values.findSome? test

def wrongType (value : Json) (expected : TypeName) : Option CompileFault :=
  some (.invalid (.notOfType value expected))

def ofType (expected : TypeName) (value : Json) : Option CompileFault :=
  if expected.admits value then none else wrongType value expected

/-- A limit. In the fourth draft it is written without a point and not negative. -/
def limitFault? (draft : Draft) (arg : Json) : Option CompileFault :=
  match arg with
  | .number (.int i) =>
    if draft == .draft4 && i < 0 then some (.invalid (.belowMinimum arg (.ofNat 0))) else none
  | .number (.double d) =>
    if draft != .draft4 && d.isInteger then none else wrongType arg .integer
  | _ => wrongType arg .integer

/-- A number of elements that have to be there. -/
def containsFault? (keywords : List (String × Json)) (keyword : String) : Option CompileFault :=
  match keywords.lookup keyword with
  | some (.number (.int i)) =>
    if i < 0 then some (.invalid (.belowMinimum (.number (.int i)) (.ofNat 0))) else none
  | some arg => limitFault? .draft2020 arg
  | none => none

def namesFault? (arg : Json) : Option CompileFault :=
  match arg with
  | .array names => firstFault (ofType .string) names
  | _ => wrongType arg .array

def typeNameFault? (name : Json) : Option CompileFault :=
  match name with
  | .string s =>
    if (TypeName.ofName? s).isSome then none
    else some (.invalid (.notListed name (.ofStrings (TypeName.all.map TypeName.name))))
  | _ => wrongType name .string

def typeFault? (arg : Json) : Option CompileFault :=
  let single := fun s => if (TypeName.ofName? s).isSome then none else some .unexpectedType
  match arg with
  | .string s => single s
  | .array [.string s] => single s
  | .array names => firstFault typeNameFault? names
  | _ => some (.invalid (.notOfTypes arg [.array, .string]))

/-- Names that have to be there too, each once. -/
def dependentFault? (arg : Json) : Option CompileFault :=
  match arg with
  | .array names =>
    if Json.allDistinct names then namesFault? arg else some (.invalid (.notUnique arg))
  | _ => wrongType arg .array

def fault? (draft : Draft) (keywords : List (String × Json)) (keyword : String) (arg : Json) :
    Option CompileFault :=
  match keyword with
  | "$ref" | "$dynamicRef" | "$recursiveRef" | "format" | "pattern" => ofType .string arg
  | "type" => typeFault? arg
  | "enum" | "allOf" | "anyOf" | "oneOf" | "prefixItems" => ofType .array arg
  | "required" => namesFault? arg
  | "minLength" | "maxLength" | "minItems" | "maxItems" | "minProperties" | "maxProperties" =>
    limitFault? draft arg
  | "minimum" | "maximum" | "exclusiveMinimum" | "exclusiveMaximum" => ofType .number arg
  | "dependencies" | "dependentSchemas" => ofType .object arg
  | "dependentRequired" =>
    match arg with
    | .object names => firstFault (fun n => dependentFault? n.2) names
    | _ => wrongType arg .object
  | "contains" =>
    if draft.since .draft2019 then firstFault (containsFault? keywords) ["minContains", "maxContains"]
    else none
  | "contentEncoding" =>
    if (keywords.lookup "contentMediaType").isSome then none else ofType .string arg
  | "contentMediaType" =>
    match arg with
    | .string "application/json" => (keywords.lookup "contentEncoding").bind (ofType .string)
    | _ => ofType .string arg
  | "multipleOf" => if (divisor? arg).isSome then none else some .badDivisor
  | _ => none

end Keyword

end StepEngine
