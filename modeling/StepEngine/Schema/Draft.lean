import StepEngine.Json.Basic
/-!
# Drafts of the schema language

* `Draft` : the five drafts a schema can be written in;
* `Draft.detect` : the draft that a schema names, or the one it is inside of;
* `Draft.idOf`, `Draft.anchorsOf` : the identity of a schema and the names of places in it;
* `Draft.subschemas` : the schemas directly inside a schema;
* `Draft.staysInside` : whether a way into a schema leads from schema to schema;
* `Draft.knows` : whether a keyword constrains values in a draft.
-/

namespace StepEngine

inductive Draft where
  | draft4
  | draft6
  | draft7
  | draft2019
  | draft2020
  deriving DecidableEq, Inhabited

namespace Draft

/-- The place of a draft in time. -/
def rank : Draft → Nat
  | draft4 => 0
  | draft6 => 1
  | draft7 => 2
  | draft2019 => 3
  | draft2020 => 4

/-- A draft that is no older than another. -/
def since (d first : Draft) : Bool :=
  first.rank ≤ d.rank

/-- The name by which schemas mean a draft. -/
def name : Draft → String
  | draft4 => "http://json-schema.org/draft-04/schema"
  | draft6 => "http://json-schema.org/draft-06/schema"
  | draft7 => "http://json-schema.org/draft-07/schema"
  | draft2019 => "https://json-schema.org/draft/2019-09/schema"
  | draft2020 => "https://json-schema.org/draft/2020-12/schema"

def all : List Draft := [draft4, draft6, draft7, draft2019, draft2020]

def dropHashes (s : String) : String :=
  String.ofList (s.toList.reverse.dropWhile (· == '#')).reverse

/-- The draft that a schema names; one that names none is of the draft around it. A name that no
draft has is given back. -/
def detect (around : Draft) (schema : Json) : Except String Draft :=
  match schema.get? "$schema" with
  | some (.string s) =>
    match all.find? fun d => d.name == dropHashes s with
    | some d => .ok d
    | none => .error (dropHashes s)
  | _ => .ok around

/-- The draft of a schema inside another. A name that no draft has stands for the newest. -/
def inner (around : Draft) (schema : Json) : Draft :=
  match around.detect schema with
  | .ok d => d
  | .error _ => draft2020

def isHashed (s : String) : Bool :=
  s.toList.head? == some '#'

/-- The keyword of a schema's identity. -/
def idKeyword : Draft → String
  | draft4 => "id"
  | _ => "$id"

/-- The identity of a schema. In the older drafts a schema with a reference has none, and a name
after `#` is an anchor. -/
def idOf (d : Draft) (schema : Json) : Option String :=
  match schema.get? d.idKeyword with
  | some (.string s) =>
    if !d.since draft2019 && ((schema.get? "$ref").isSome || isHashed s) then none
    else some (dropHashes s)
  | _ => none

/-- A name of a place in a schema. What a dynamic one means depends on the way to it. -/
structure AnchorName where
  text : String
  dynamic : Bool

/-- A plain anchor under a keyword. -/
def anchorUnder (schema : Json) (keyword : String) (dynamic : Bool) : List AnchorName :=
  match schema.get? keyword with
  | some (.string s) => [⟨s, dynamic⟩]
  | _ => []

/-- The names that a schema gives itself. -/
def anchorsOf (d : Draft) (schema : Json) : List AnchorName :=
  match d with
  | draft2020 => anchorUnder schema "$anchor" false ++ anchorUnder schema "$dynamicAnchor" true
  | draft2019 => anchorUnder schema "$anchor" false
  | _ =>
    match schema.get? d.idKeyword with
    | some (.string s) => if isHashed s then [⟨String.ofList (s.toList.drop 1), false⟩] else []
    | _ => []

/-! ## Schemas inside a schema -/

def schemaKeywords : Draft → List String
  | draft4 => ["additionalItems", "additionalProperties", "not"]
  | draft6 => ["additionalItems", "additionalProperties", "contains", "not", "propertyNames"]
  | draft7 =>
    ["additionalItems", "additionalProperties", "contains", "else", "if", "not", "propertyNames",
      "then"]
  | draft2019 =>
    ["additionalItems", "additionalProperties", "contains", "contentSchema", "else", "if", "not",
      "propertyNames", "then", "unevaluatedItems", "unevaluatedProperties"]
  | draft2020 =>
    ["additionalProperties", "contains", "contentSchema", "else", "if", "items", "not",
      "propertyNames", "then", "unevaluatedItems", "unevaluatedProperties"]

def listKeywords : Draft → List String
  | draft2020 => ["allOf", "anyOf", "oneOf", "prefixItems"]
  | _ => ["allOf", "anyOf", "oneOf"]

def mapKeywords (d : Draft) : List String :=
  if d.since draft2019 then
    ["$defs", "definitions", "dependentSchemas", "patternProperties", "properties"]
  else ["definitions", "patternProperties", "properties"]

def mixedKeywords : Draft → List String
  | draft2020 => []
  | draft2019 => ["items"]
  | _ => ["dependencies", "items"]

/-- A keyword under which names are looked for: one of the draft, and for the fourth draft one of any
draft. -/
def looksUnder (d : Draft) (keywords : Draft → List String) (keyword : String) : Bool :=
  if d = draft4 then all.any fun e => (keywords e).contains keyword
  else (keywords d).contains keyword

def schemasUnder (d : Draft) (keyword : String) (arg : Json) : List Json :=
  let mixed := d.looksUnder mixedKeywords keyword
  match arg with
  | .array schemas =>
    if d.looksUnder listKeywords keyword || keyword == "items" && mixed then schemas else []
  | .object schemas =>
    if d.looksUnder mapKeywords keyword || keyword == "dependencies" && mixed then schemas.map (·.2)
    else if d.looksUnder schemaKeywords keyword || mixed then [arg]
    else []
  | _ => []

/-- The schemas directly inside a schema that can hold names or references. -/
def subschemas (d : Draft) (schema : Json) : List Json :=
  match schema with
  | .object members => members.flatMap fun m => d.schemasUnder m.1 m.2
  | _ => []

/-- The keys from a schema to a value lead from schema to schema. -/
def staysInside (d : Draft) (target : Json) : (keys : List String) → Bool
  | [] => true
  | key :: rest =>
    if d.mixedKeywords.contains key && target.asObject?.isSome then true
    else if d.schemaKeywords.contains key then staysInside d target rest
    else if d.listKeywords.contains key || d.mapKeywords.contains key then
      match rest with
      | [] => false
      | _ :: rest => staysInside d target rest
    else false

/-! ## Keywords -/

/-- The drafts in which a keyword constrains values: the first and the last. -/
def span? (keyword : String) : Option (Draft × Draft) :=
  match keyword with
  | "$ref" | "additionalItems" | "additionalProperties" | "allOf" | "anyOf" | "dependencies"
  | "enum" | "items" | "maxItems" | "maxLength" | "maxProperties" | "maximum" | "minItems" | "minLength"
  | "minProperties" | "minimum" | "multipleOf" | "not" | "oneOf" | "pattern" | "patternProperties"
  | "properties" | "required" | "type" | "uniqueItems" => some (draft4, draft2020)
  | "format" => some (draft4, draft7)
  | "contentEncoding" | "contentMediaType" => some (draft6, draft7)
  | "const" | "contains" | "exclusiveMaximum" | "exclusiveMinimum" | "propertyNames" =>
    some (draft6, draft2020)
  | "if" => some (draft7, draft2020)
  | "dependentRequired" | "dependentSchemas" | "unevaluatedItems" | "unevaluatedProperties" =>
    some (draft2019, draft2020)
  | "$recursiveRef" => some (draft2019, draft2019)
  | "$dynamicRef" | "prefixItems" => some (draft2020, draft2020)
  | _ => none

/-- A keyword constrains values in a draft. -/
def knows (d : Draft) (keyword : String) : Bool :=
  (span? keyword).any fun span => d.since span.1 && span.2.since d

end Draft

end StepEngine
