import StepEngine.Json.Printer
/-!
# The structural check of a schema

* `Structure.Problem` : what can be wrong with the keywords of one schema;
* `Structure.problemsAt` : the problems of a schema and of the schemas inside it, each with its path;
* `Structure.problems` : the same, as messages, from the path `schema`.

The schemas inside a schema are those under `properties`, `items`, `anyOf`, `oneOf` and `allOf`.
-/

namespace StepEngine.Structure

inductive Problem where
  | notObject
  | noShape
  | unknownType (found : Json)
  | propertiesNotObject
  | requiredNotNames
  | combinatorNotList (keyword : String)
  | enumNotList
  | limitNotCount (keyword : String)
  deriving DecidableEq

def Problem.message : Problem → String
  | notObject => "schema must be an object"
  | noShape => "schema should have a 'type', '$ref', 'anyOf' or 'oneOf' property"
  | unknownType found => "unknown type " ++ found.render
  | propertiesNotObject => "'properties' must be an object"
  | requiredNotNames => "'required' must be a list of property names"
  | combinatorNotList keyword => "'" ++ keyword ++ "' must be a non-empty list"
  | enumNotList => "'enum' must be a list"
  | limitNotCount keyword => "'" ++ keyword ++ "' must be a non-negative integer"

structure Located where
  path : String
  problem : Problem
  deriving DecidableEq

def Located.message (l : Located) : String :=
  l.path ++ ": " ++ l.problem.message

def shapeKeywords : List String :=
  ["type", "$ref", "anyOf", "oneOf", "allOf", "enum", "const"]

def typeNames : List String :=
  ["null", "boolean", "object", "array", "number", "integer", "string"]

def ofKeyword (members : List (String × Json)) (keyword : String)
    (problems : Json → List Problem) : List Problem :=
  match members.lookup keyword with
  | some v => problems v
  | none => []

/-- A schema without any keyword that gives it a shape. -/
def shapeProblems (members : List (String × Json)) : List Problem :=
  if shapeKeywords.any fun k => (members.lookup k).isSome then [] else [.noShape]

/-- The names under `type` that are no types. -/
def typeProblems (v : Json) : List Problem :=
  let names := v.asArray?.getD [v]
  (names.filter fun n => !(n.asString?.any typeNames.contains)).map .unknownType

/-- A value under `properties` that is no object. -/
def propertiesProblems (v : Json) : List Problem :=
  if v.asObject?.isSome then [] else [.propertiesNotObject]

/-- A value under `required` that is no list of texts. -/
def requiredProblems (v : Json) : List Problem :=
  if v.asArray?.any (·.all Json.isString) then [] else [.requiredNotNames]

/-- A value under a combinator that is no list or an empty one. -/
def combinatorProblems (keyword : String) (v : Json) : List Problem :=
  if v.asArray?.any (!·.isEmpty) then [] else [.combinatorNotList keyword]

/-- A value under `enum` that is no list. -/
def enumProblems (v : Json) : List Problem :=
  if v.isArray then [] else [.enumNotList]

def limitKeywords : List String := ["minItems", "maxItems", "minLength", "maxLength"]

def limitProblems (members : List (String × Json)) : List Problem :=
  limitKeywords.flatMap fun keyword => ofKeyword members keyword fun v =>
    if v.asWord?.isSome then [] else [.limitNotCount keyword]

def located (path : String) (problems : List Problem) : List Located :=
  problems.map (Located.mk path)

mutual

/-- The problems of the schema at a path and of all schemas inside it. -/
def problemsAt (path : String) : Json → List Located
  | .bool _ => []
  | .object members =>
    let inside := problemsUnder path members
    let under := fun keyword => (inside.lookup keyword).getD []
    let own := fun keyword problems => located path (ofKeyword members keyword problems)
    let combined := fun keyword => own keyword (combinatorProblems keyword) ++ under keyword
    located path (shapeProblems members) ++
      own "type" typeProblems ++
      own "properties" propertiesProblems ++ under "properties" ++
      own "required" requiredProblems ++
      under "items" ++
      combined "anyOf" ++ combined "oneOf" ++ combined "allOf" ++
      own "enum" enumProblems ++
      located path (limitProblems members)
  | _ => [⟨path, .notObject⟩]

def problemsUnder (path : String) : List (String × Json) → List (String × List Located)
  | [] => []
  | (keyword, v) :: rest =>
    let inside :=
      if keyword = "properties" then
        match v with
        | .object properties => problemsOfProperties path properties
        | _ => []
      else if keyword = "items" then
        match v with
        | .array schemas => problemsOfList (path ++ ".items") 0 schemas
        | .null => problemsAt (path ++ ".items") .null
        | .bool b => problemsAt (path ++ ".items") (.bool b)
        | .number n => problemsAt (path ++ ".items") (.number n)
        | .string s => problemsAt (path ++ ".items") (.string s)
        | .object members => problemsAt (path ++ ".items") (.object members)
      else if keyword = "anyOf" ∨ keyword = "oneOf" ∨ keyword = "allOf" then
        match v with
        | .array schemas => problemsOfList (path ++ "." ++ keyword) 0 schemas
        | _ => []
      else []
    (keyword, inside) :: problemsUnder path rest

def problemsOfProperties (path : String) : List (String × Json) → List Located
  | [] => []
  | (name, schema) :: rest =>
    problemsAt (path ++ ".properties." ++ name) schema ++ problemsOfProperties path rest

def problemsOfList (path : String) (index : Nat) : List Json → List Located
  | [] => []
  | schema :: rest =>
    problemsAt (path ++ "[" ++ toString index ++ "]") schema ++
      problemsOfList path (index + 1) rest

end

/-- The messages of the check; none for a sound schema. -/
def problems (schema : Json) : List String :=
  (problemsAt "schema" schema).map Located.message

end StepEngine.Structure
