import StepEngine.Schema.Draft
import StepEngine.Schema.MetaSchema.Basic
/-!
# The schemas of schemas since 2019

* `MetaSchema.Part` : a part of a schema of schemas: its name and title, the properties it has schemas
  for, and the definitions that those refer to;
* `MetaSchema.Part.all2019`, `all2020` : the parts of the two drafts, in order;
* `MetaSchema.Later.whole`, `MetaSchema.Later.part` : the schema of a draft and of a part of it.

`schema` is what a draft says about a schema inside a schema.
-/

namespace StepEngine.MetaSchema

/-- A part of a schema of schemas. -/
structure Part where
  name : String
  title : String
  properties : List (String × Json)
  definitions : List (String × Json)

namespace Part

def defined (name : String) : Json := refer ("#/$defs/" ++ name)

/-- The truth values of keywords of a vocabulary. -/
def vocabularies (name : Json) : Json :=
  .object [("additionalProperties", aBoolean), ("propertyNames", name), ("type", .string "object")]

/-- Identity and references in 2020. -/
def core2020 (schema : Json) : Part where
  name := "core"
  title := "Core vocabulary meta-schema"
  properties := [
    ("$anchor", defined "anchorString"),
    ("$comment", aString),
    ("$defs", aSchemaMap schema),
    ("$dynamicAnchor", defined "anchorString"),
    ("$dynamicRef", defined "uriReferenceString"),
    ("$id", noting "Non-empty fragments not allowed." (.object [
      ("$ref", .string "#/$defs/uriReferenceString"), ("pattern", .string "^[^#]*#?$")])),
    ("$ref", defined "uriReferenceString"),
    ("$schema", defined "uriString"),
    ("$vocabulary", vocabularies (defined "uriString"))]
  definitions := [
    ("anchorString", aTextLike "^[A-Za-z_][-A-Za-z0-9._]*$"),
    ("uriReferenceString", aText "uri-reference"),
    ("uriString", aText "uri")]

/-- Identity and references in 2019. -/
def core2019 (schema : Json) : Part where
  name := "core"
  title := "Core vocabulary meta-schema"
  properties := [
    ("$anchor", aTextLike "^[A-Za-z][-A-Za-z0-9.:_]*$"),
    ("$comment", aString),
    ("$defs", aSchemaMapOrNone schema),
    ("$id", noting "Non-empty fragments not allowed."
      (also "pattern" (.string "^[^#]*#?$") (aText "uri-reference"))),
    ("$recursiveAnchor", aSwitch),
    ("$recursiveRef", aText "uri-reference"),
    ("$ref", aText "uri-reference"),
    ("$schema", aText "uri"),
    ("$vocabulary", vocabularies (aText "uri"))]
  definitions := []

/-- The keywords that apply schemas in both drafts. -/
def appliers (schema : Json) : List (String × Json) := [
  ("additionalProperties", schema),
  ("allOf", defined "schemaArray"),
  ("anyOf", defined "schemaArray"),
  ("contains", schema),
  ("else", schema),
  ("if", schema),
  ("not", schema),
  ("oneOf", defined "schemaArray"),
  ("patternProperties", aPatternMap schema),
  ("properties", aSchemaMapOrNone schema),
  ("propertyNames", schema),
  ("then", schema)]

/-- Keywords that apply schemas in 2020. -/
def applicator2020 (schema : Json) : Part where
  name := "applicator"
  title := "Applicator vocabulary meta-schema"
  properties := appliers schema ++ [
    ("dependentSchemas", aSchemaMapOrNone schema),
    ("items", schema),
    ("prefixItems", defined "schemaArray")]
  definitions := [("schemaArray", aSchemaList schema)]

def applicator2019 (schema : Json) : Part where
  name := "applicator"
  title := "Applicator vocabulary meta-schema"
  properties := appliers schema ++ [
    ("additionalItems", schema),
    ("dependentSchemas", aSchemaMap schema),
    ("items", either schema (defined "schemaArray")),
    ("unevaluatedItems", schema),
    ("unevaluatedProperties", schema)]
  definitions := [("schemaArray", aSchemaList schema)]

def unevaluated (schema : Json) : Part where
  name := "unevaluated"
  title := "Unevaluated applicator vocabulary meta-schema"
  properties := [("unevaluatedItems", schema), ("unevaluatedProperties", schema)]
  definitions := []

/-- Keywords that look at one value. -/
def validation : Part where
  name := "validation"
  title := "Validation vocabulary meta-schema"
  properties := [
    ("const", .bool true),
    ("dependentRequired", aSchemaMap (defined "stringArray")),
    ("enum", aListOf (.bool true)),
    ("exclusiveMaximum", aNumber),
    ("exclusiveMinimum", aNumber),
    ("maxContains", defined "nonNegativeInteger"),
    ("maxItems", defined "nonNegativeInteger"),
    ("maxLength", defined "nonNegativeInteger"),
    ("maxProperties", defined "nonNegativeInteger"),
    ("maximum", aNumber),
    ("minContains", byDefault (.ofNat 1) (defined "nonNegativeInteger")),
    ("minItems", defined "nonNegativeIntegerDefault0"),
    ("minLength", defined "nonNegativeIntegerDefault0"),
    ("minProperties", defined "nonNegativeIntegerDefault0"),
    ("minimum", aNumber),
    ("multipleOf", aPositiveNumber),
    ("pattern", aText "regex"),
    ("required", defined "stringArray"),
    ("type", typeOrTypes (defined "simpleTypes")),
    ("uniqueItems", aSwitch)]
  definitions := [
    ("nonNegativeInteger", aCount),
    ("nonNegativeIntegerDefault0", byDefault (.ofNat 0) (defined "nonNegativeInteger")),
    ("simpleTypes", aTypeName),
    ("stringArray", aNameListOrNone)]

def annotation : Part where
  name := "meta-data"
  title := "Meta-data vocabulary meta-schema"
  properties := [
    ("default", .bool true),
    ("deprecated", aSwitch),
    ("description", aString),
    ("examples", aListOf (.bool true)),
    ("readOnly", aSwitch),
    ("title", aString),
    ("writeOnly", aSwitch)]
  definitions := []

def format (name title : String) : Part where
  name := name
  title := title
  properties := [("format", aString)]
  definitions := []

def content (schema : Json) : Part where
  name := "content"
  title := "Content vocabulary meta-schema"
  properties := [
    ("contentEncoding", aString), ("contentMediaType", aString), ("contentSchema", schema)]
  definitions := []

def all2019 (schema : Json) : List Part :=
  [core2019 schema, applicator2019 schema, validation, annotation,
    format "format" "Format vocabulary meta-schema", content schema]

def all2020 (schema : Json) : List Part :=
  [core2020 schema, applicator2020 schema, unevaluated schema, validation, annotation,
    format "format-annotation" "Format vocabulary meta-schema for annotation results",
    content schema]

end Part

/-! ## The two drafts -/

namespace Later

def folder : Draft → String
  | .draft2019 => "https://json-schema.org/draft/2019-09/"
  | _ => "https://json-schema.org/draft/2020-12/"

/-- What a draft says about a schema inside a schema. -/
def innerSchema : Draft → Json
  | .draft2019 => .object [("$recursiveRef", .string "#")]
  | _ => .object [("$dynamicRef", .string "#meta")]

/-- What makes a schema the one that references inside it lead to. -/
def selfAnchor : Draft → String × Json
  | .draft2019 => ("$recursiveAnchor", .bool true)
  | _ => ("$dynamicAnchor", .string "meta")

def parts : Draft → List Part
  | .draft2019 => Part.all2019 (innerSchema .draft2019)
  | d => Part.all2020 (innerSchema d)

/-- The vocabularies that belong to parts. That of formats in 2019 need not be known. -/
def vocabulary (d : Draft) (parts : List Part) : String × Json :=
  ("$vocabulary", .ofMembers (parts.map fun p =>
    (folder d ++ "vocab/" ++ p.name, .bool (p.name != "format"))))

def named (d : Draft) (name : String) (members : List (String × Json)) : Json :=
  .ofMembers ([("$id", .string (folder d ++ name)), ("$schema", .string d.name), selfAnchor d,
    ("type", objectOrBoolean)] ++ members)

def part (d : Draft) (p : Part) : Json :=
  named d ("meta/" ++ p.name) ([
    vocabulary d [p],
    ("title", .string p.title),
    ("properties", .ofMembers p.properties)] ++
    if p.definitions.isEmpty then [] else [("$defs", .ofMembers p.definitions)])

def dependencies (d : Draft) : Json :=
  aSchemaMap (either (innerSchema d) (refer "meta/validation#/$defs/stringArray"))

/-- A keyword that is kept from an earlier draft. -/
def kept (remark : String) (schema : Json) : Json :=
  noting remark (also "deprecated" (.bool true) schema)

/-- The keywords of earlier drafts that stay in use. -/
def former : Draft → List (String × Json)
  | .draft2019 => [
    ("definitions", noting ("While no longer an official keyword as it is replaced by $defs, this " ++
      "keyword is retained in the meta-schema to prevent incompatible extensions as it remains in " ++
      "common use.") (aSchemaMapOrNone (innerSchema .draft2019))),
    ("dependencies", noting ("\"dependencies\" is no longer a keyword, but schema authors should " ++
      "avoid redefining it to facilitate a smooth transition to \"dependentSchemas\" and " ++
      "\"dependentRequired\"") (dependencies .draft2019))]
  | d => [
    ("$recursiveAnchor", kept "\"$recursiveAnchor\" has been replaced by \"$dynamicAnchor\"."
      (refer "meta/core#/$defs/anchorString")),
    ("$recursiveRef", kept "\"$recursiveRef\" has been replaced by \"$dynamicRef\"."
      (refer "meta/core#/$defs/uriReferenceString")),
    ("definitions", kept "\"definitions\" has been replaced by \"$defs\"."
      (aSchemaMapOrNone (innerSchema d))),
    ("dependencies", kept ("\"dependencies\" has been split and replaced by \"dependentSchemas\" " ++
      "and \"dependentRequired\" in order to serve their differing semantics.")
      (byDefault empty (dependencies d)))]

/-- A remark on the whole schema of a draft. -/
def remark : Draft → List (String × Json)
  | .draft2019 => []
  | _ => [("$comment", .string ("This meta-schema also defines keywords that have appeared in " ++
    "previous drafts in order to prevent incompatible extensions as they remain in common use."))]

/-- The schema of a draft. -/
def whole (d : Draft) : Json :=
  named d "schema" ([
    vocabulary d (parts d),
    ("title", .string "Core and Validation specifications meta-schema"),
    ("allOf", .array ((parts d).map fun p => refer ("meta/" ++ p.name))),
    ("properties", .ofMembers (former d))] ++ remark d)

end Later

end StepEngine.MetaSchema
