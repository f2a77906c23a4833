import StepEngine.Schema.Draft
import StepEngine.Schema.MetaSchema.Basic
/-!
# The schemas of schemas up to the seventh draft

* `MetaSchema.Former.draft4`, `draft6`, `draft7` : the schema of each.
-/

namespace StepEngine.MetaSchema.Former

def anySchema : Json := refer "#"

def defined (name : String) : Json := refer ("#/definitions/" ++ name)

/-- The definitions that the three drafts share, with the name that a draft gives to counts. -/
def definitions (count : String) (names : Json) : Json := .ofMembers [
  (count, aCount),
  (count ++ "Default0", .object [("allOf", .array [defined count, byDefault (.ofNat 0) empty])]),
  ("schemaArray", aSchemaList anySchema),
  ("simpleTypes", aTypeName),
  ("stringArray", names)]

def schemaOrSchemas : Json := either anySchema (defined "schemaArray")

def dependencies : Json :=
  aSchemaMap (either anySchema (defined "stringArray"))

/-- The properties that the three drafts share, with the name that a draft gives to counts. -/
def shared (count : String) : List (String × Json) := [
  ("allOf", defined "schemaArray"),
  ("anyOf", defined "schemaArray"),
  ("definitions", aSchemaMapOrNone anySchema),
  ("dependencies", dependencies),
  ("description", aString),
  ("format", aString),
  ("maxItems", defined count),
  ("maxLength", defined count),
  ("maxProperties", defined count),
  ("maximum", aNumber),
  ("minItems", defined (count ++ "Default0")),
  ("minLength", defined (count ++ "Default0")),
  ("minProperties", defined (count ++ "Default0")),
  ("minimum", aNumber),
  ("not", anySchema),
  ("oneOf", defined "schemaArray"),
  ("pattern", aText "regex"),
  ("properties", aSchemaMapOrNone anySchema),
  ("required", defined "stringArray"),
  ("title", aString),
  ("type", typeOrTypes (defined "simpleTypes")),
  ("uniqueItems", aSwitch)]

/-- The properties that came with the sixth draft, where `anything` is how a draft writes that a value
is not restricted. -/
def sinceSix (anything : Json) : List (String × Json) := [
  ("$id", aText "uri-reference"),
  ("$ref", aText "uri-reference"),
  ("$schema", aText "uri"),
  ("additionalItems", anySchema),
  ("additionalProperties", anySchema),
  ("const", anything),
  ("contains", anySchema),
  ("default", anything),
  ("examples", aListOf anything),
  ("exclusiveMaximum", aNumber),
  ("exclusiveMinimum", aNumber),
  ("items", byDefault anything schemaOrSchemas),
  ("multipleOf", aPositiveNumber),
  ("patternProperties", aPatternMap anySchema),
  ("propertyNames", anySchema)]

def named (d : Draft) (members : List (String × Json)) : Json :=
  .ofMembers ([(d.idKeyword, .string (d.name ++ "#")), ("$schema", .string (d.name ++ "#"))] ++ members)

def draft4 : Json := named .draft4 [
  ("default", empty),
  ("definitions", definitions "positiveInteger" (also "minItems" (.ofNat 1) aNameList)),
  ("dependencies", .object [
    ("exclusiveMaximum", .ofStrings ["maximum"]),
    ("exclusiveMinimum", .ofStrings ["minimum"])]),
  ("description", .string "Core schema meta-schema"),
  ("properties", .ofMembers (shared "positiveInteger" ++ [
    ("$schema", aString),
    ("additionalItems", byDefault empty (either aBoolean anySchema)),
    ("additionalProperties", byDefault empty (either aBoolean anySchema)),
    ("default", empty),
    ("enum", aList),
    ("exclusiveMaximum", aBoolean),
    ("exclusiveMinimum", aBoolean),
    ("id", aString),
    ("items", byDefault empty schemaOrSchemas),
    ("multipleOf", .object [
      ("exclusiveMinimum", .bool true), ("minimum", .ofNat 0), ("type", .string "number")]),
    ("patternProperties", aSchemaMapOrNone anySchema)])),
  ("type", .string "object")]

/-- A draft since the sixth from the properties that are its own. -/
def ofOwn (d : Draft) (anything : Json) (own : List (String × Json)) : Json := named d [
  ("default", anything),
  ("definitions", definitions "nonNegativeInteger" aNameListOrNone),
  ("properties", .ofMembers (shared "nonNegativeInteger" ++ sinceSix anything ++ own)),
  ("title", .string "Core schema meta-schema"),
  ("type", objectOrBoolean)]

def draft6 : Json := ofOwn .draft6 empty [("enum", aList)]

def draft7 : Json := ofOwn .draft7 (.bool true) [
  ("$comment", aString),
  ("contentEncoding", aString),
  ("contentMediaType", aString),
  ("else", anySchema),
  ("enum", aListOf (.bool true)),
  ("if", anySchema),
  ("readOnly", aSwitch),
  ("then", anySchema),
  ("writeOnly", aSwitch)]

end StepEngine.MetaSchema.Former
