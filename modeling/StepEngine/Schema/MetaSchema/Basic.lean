import StepEngine.Json.Basic
/-!
# Parts of the schemas of schemas

* `MetaSchema.aString`, `aBoolean`, `aNumber`, `aCount`, … : schemas of the values of keywords;
* `MetaSchema.also`, `byDefault`, `noting` : a schema with one more member.
-/

namespace StepEngine.MetaSchema

def also (key : String) (value : Json) : Json → Json
  | .object members => .ofMembers (members ++ [(key, value)])
  | schema => schema

def byDefault (value : Json) : Json → Json :=
  also "default" value

def noting (remark : String) : Json → Json :=
  also "$comment" (.string remark)

def empty : Json := .object []

/-- What another schema says. -/
def refer (reference : String) : Json := .object [("$ref", .string reference)]

def aString : Json := .object [("type", .string "string")]

/-- A text of a format. -/
def aText (format : String) : Json :=
  .object [("format", .string format), ("type", .string "string")]

/-- A text with a pattern in it. -/
def aTextLike (pattern : String) : Json :=
  .object [("pattern", .string pattern), ("type", .string "string")]

def aBoolean : Json := .object [("type", .string "boolean")]

/-- A truth value that is false when it is not there. -/
def aSwitch : Json := byDefault (.bool false) aBoolean

def aNumber : Json := .object [("type", .string "number")]

def aPositiveNumber : Json :=
  .object [("exclusiveMinimum", .ofNat 0), ("type", .string "number")]

def aList : Json := .object [("type", .string "array")]

def aListOf (schema : Json) : Json := .object [("items", schema), ("type", .string "array")]

def aCount : Json := .object [("minimum", .ofNat 0), ("type", .string "integer")]

/-- A list of at least one schema. -/
def aSchemaList (schema : Json) : Json :=
  .object [("items", schema), ("minItems", .ofNat 1), ("type", .string "array")]

def aSchemaMap (schema : Json) : Json :=
  .object [("additionalProperties", schema), ("type", .string "object")]

/-- An object of schemas, empty when it is not there. -/
def aSchemaMapOrNone (schema : Json) : Json := byDefault empty (aSchemaMap schema)

def aPatternMap (schema : Json) : Json :=
  also "propertyNames" (.object [("format", .string "regex")]) (aSchemaMapOrNone schema)

def aNameList : Json :=
  .object [("items", aString), ("type", .string "array"), ("uniqueItems", .bool true)]

def aNameListOrNone : Json := byDefault (.array []) aNameList

def either (a b : Json) : Json := .object [("anyOf", .array [a, b])]

def aTypeName : Json :=
  .object [("enum", .ofStrings ["array", "boolean", "integer", "null", "number", "object", "string"])]

def typeOrTypes (name : Json) : Json :=
  either name (.object [("items", name), ("minItems", .ofNat 1), ("type", .string "array"),
    ("uniqueItems", .bool true)])

/-- A schema or a truth value. -/
def objectOrBoolean : Json := .ofStrings ["object", "boolean"]

end StepEngine.MetaSchema
