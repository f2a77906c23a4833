import StepEngine.Schema.Registry
/-!
# Vocabularies

* `Vocabulary` : the groups of keywords that a schema can go without;
* `Vocabulary.of?` : the group of a keyword in a draft;
* `Draft.vocabularies` : the groups of a draft;
* `Registry.vocabularies` : the groups that a schema chooses by the schema it names for itself;
* `Draft.counts` : a keyword counts among some groups.

Up to the seventh draft there is no choice: all keywords of a draft count. A schema of such a draft
chooses no group, which shows when a schema of a later draft is inside it or refers to it.
-/

namespace StepEngine

/-- The groups of keywords that a schema can go without. -/
inductive Vocabulary where
  | applicator
  | unevaluated
  | validation
  deriving DecidableEq, Inhabited

namespace Vocabulary

def names : Vocabulary → List String
  | applicator =>
    ["https://json-schema.org/draft/2019-09/vocab/applicator",
      "https://json-schema.org/draft/2020-12/vocab/applicator"]
  | unevaluated => ["https://json-schema.org/draft/2020-12/vocab/unevaluated"]
  | validation =>
    ["https://json-schema.org/draft/2019-09/vocab/validation",
      "https://json-schema.org/draft/2020-12/vocab/validation"]

def all : List Vocabulary := [applicator, unevaluated, validation]

/-- The group of a keyword in a draft. References, formats, divisors and the keywords that no later
draft keeps belong to none. -/
def of? (d : Draft) (keyword : String) : Option Vocabulary :=
  match keyword with
  | "additionalProperties" | "allOf" | "anyOf" | "contains" | "dependentSchemas" | "if" | "items"
  | "not" | "oneOf" | "patternProperties" | "prefixItems" | "properties" | "propertyNames" =>
    some applicator
  | "const" | "dependentRequired" | "enum" | "exclusiveMaximum" | "exclusiveMinimum" | "maxItems"
  | "maxLength" | "maxProperties" | "maximum" | "minItems" | "minLength" | "minProperties"
  | "minimum" | "pattern" | "required" | "type" | "uniqueItems" => some validation
  | "unevaluatedItems" | "unevaluatedProperties" =>
    if d = .draft2019 then some applicator else some unevaluated
  | _ => none

end Vocabulary

namespace Draft

def vocabularies : Draft → List Vocabulary
  | draft4 | draft6 | draft7 => []
  | draft2019 => [.applicator, .validation]
  | draft2020 => [.applicator, .unevaluated, .validation]

/-- A keyword of a draft counts among some groups. -/
def counts (d : Draft) (chosen : List Vocabulary) (keyword : String) : Bool :=
  d.knows keyword &&
    (!d.since draft2019 || (Vocabulary.of? d keyword).all chosen.contains)

/-- The keywords of a schema that constrain values. Up to the seventh draft a reference is the only
one that counts. -/
def effective (d : Draft) (chosen : List Vocabulary) (keywords : List (String × Json)) :
    List (String × Json) :=
  match keywords.lookup "$ref" with
  | some reference =>
    if d.since draft2019 then keywords.filter fun k => d.counts chosen k.1
    else [("$ref", reference)]
  | none => keywords.filter fun k => d.counts chosen k.1

end Draft

/-! ## The choice of a schema -/

namespace Registry

/-- The groups that a schema of schemas asks for, if it has an identity and says something of
groups. -/
def asked? (schema : Json) : Option (List Vocabulary) :=
  match schema.get? "$id", schema.get? "$vocabulary" with
  | some (.string _), some (.object choices) =>
    some (Vocabulary.all.filter fun v =>
      choices.any fun c => v.names.contains c.1 && c.2 == .bool true)
  | _, _ => none

/-- The groups that a schema chooses: those of the draft that it names, or those that the schema of
schemas that it names asks for. One that names none takes those of the draft around it. -/
def vocabularies (r : Registry) (around : Draft) (schema : Json) : List Vocabulary :=
  match around.detect schema with
  | .ok d => d.vocabularies
  | .error name =>
    let named := (Uri.nowhere.join name).toOption.bind r.find?
    (named.bind fun resource => asked? resource.contents).getD around.vocabularies

end Registry

end StepEngine
