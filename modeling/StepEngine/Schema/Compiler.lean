import StepEngine.Json.Measure
import StepEngine.Schema.Evaluated
import StepEngine.Schema.Fault
import StepEngine.Schema.Validator
/-!
# From schemas to validators

* `Compiling` : steps that can find a fault and know which references have been followed;
* `Compiler` : how the schemas at a locus become validators;
* `Compiler.keyword` : the validator of one keyword;
* `Locus.compileWith` : the validator of a schema at a locus;
* `Document` : a schema and its locus;
* `Document.findings` : all findings, keyword by keyword in the order of a schema's members.

The references of a schema are followed while it is compiled, each once. One that is met again leads
to a validator that is made when a value first comes to it, so a schema may refer to itself. It then
keeps the draft and the vocabularies of the place of the reference.

`Locus.steps` bounds a way through the schemas, `Document.rounds` one through a value. A way past these
bounds has come back to a schema that it was at before, on the same value, and what such a schema asks
for is not defined. `Locus.compileWith` and `Locus.validator` let every value pass there, so a schema
whose references lead back to itself on one value, with nothing else on the way, admits every payload:
in this corner the check is not fail-closed.
-/

namespace StepEngine

/-- A step of compiling. The state holds the full forms of the references followed so far. -/
abbrev Compiling := StateT (List Uri) (Except CompileFault)

namespace Compiling

def fail {α : Type} (fault : CompileFault) : Compiling α :=
  fun _ => .error fault

def found {α : Type} (result : Except ReferenceFault α) : Compiling α :=
  match result with
  | .ok a => pure a
  | .error fault => fail (.badReference fault)

/-- Nothing, unless there is a fault. -/
def check (fault? : Option CompileFault) : Compiling Unit :=
  match fault? with
  | some fault => fail fault
  | none => pure ()

end Compiling

/-- How the schemas at a locus become validators. `schema` compiles one inside the schema at hand,
`refer` what a keyword refers to; `alone` compiles a schema at any locus by itself. -/
structure Compiler where
  schema : Json → Compiling Validator
  refer : (keyword reference : String) → Compiling Validator
  alone : Locus → Json → Validator

namespace Compiler

/-! ## Several schemas -/

def named (c : Compiler) (schemas : List (String × Json)) : Compiling (List (String × Validator)) :=
  schemas.mapM fun (name, schema) => do
    let s ← c.schema schema
    pure (name, s)

/-- Schemas by patterns. A pattern that cannot be read is blamed on its schema, or on the whole
object. -/
def matching (c : Compiler) (blamed : Option Json) (schemas : List (String × Json)) :
    Compiling (List (Pattern × Validator)) :=
  schemas.mapM fun (text, schema) =>
    match Pattern.read? text with
    | none => .fail (.badPattern (blamed.getD schema))
    | some pattern => do
      let s ← c.schema schema
      pure (pattern, s)

/-- What depends on members: a schema, or the names of members that have to be there too. -/
def dependencies (c : Compiler) (schemas : List (String × Json)) :
    Compiling (List (String × Validator)) :=
  schemas.mapM fun (name, schema) =>
    match schema with
    | .array _ => do
      Compiling.check (Keyword.namesFault? schema)
      pure (name, .ofViolations fun value => Keyword.missingNames value schema)
    | _ => do
      let s ← c.schema schema
      pure (name, s)

/-! ## Members -/

/-- `additionalProperties` is `false` or an object: it takes over `properties` and
`patternProperties`. -/
def takesOver (keywords : List (String × Json)) : Bool :=
  match keywords.lookup "additionalProperties" with
  | some (.bool false) | some (.object _) => true
  | _ => false

/-- The object of `properties` for `additionalProperties`. -/
def ownProperties (keywords : List (String × Json)) : Compiling (List (String × Json)) :=
  match keywords.lookup "properties" with
  | some (.object schemas) => pure schemas
  | some _ => .fail .unexpectedType
  | none => pure []

/-- The members that no schema is for, when there are patterns of names. -/
def additionalBesidePatterns (c : Compiler) (keywords : List (String × Json))
    (patterns : List (String × Json)) (arg : Json) : Compiling Validator := do
  let matching ← c.matching none patterns
  match arg with
  | .bool true => pure .anything
  | .bool false => do
    let named ← c.named (← ownProperties keywords)
    pure (.onlyKnown ⟨named, matching⟩)
  | _ => do
    let schemas ← ownProperties keywords
    let otherwise ← c.schema arg
    let named ← c.named schemas
    pure (.additionalProperties ⟨named, matching⟩ otherwise)

/-- The members that no schema is for. -/
def additionalProperties (c : Compiler) (keywords : List (String × Json)) (arg : Json) :
    Compiling Validator :=
  match keywords.lookup "patternProperties", arg with
  | some (.object patterns), _ => c.additionalBesidePatterns keywords patterns arg
  | some _, _ => .fail (.invalid (.notOfType arg .object))
  | none, .bool true => pure .anything
  | none, .bool false => do
    let named ← c.named (← ownProperties keywords)
    pure (if (keywords.lookup "properties").isNone then .noMembers else .onlyKnown ⟨named, []⟩)
  | none, _ => do
    let named ← c.named (← ownProperties keywords)
    let otherwise ← c.schema arg
    pure (.additionalProperties ⟨named, []⟩ otherwise)

/-- The members that no other keyword looks at and that a schema does not accept. -/
def unevaluatedProperties (c : Compiler) (locus : Locus) (steps : Nat)
    (keywords : List (String × Json)) (s : Validator) : Validator :=
  .asking fun value place =>
    match value with
    | .object members =>
      let judge := fun locus schema value => (c.alone locus schema).accepts value
      let evaluated := Evaluated.names judge locus.draft steps locus (.object keywords) value
      let left := members.filter fun m => !evaluated.contains m.1 && !s.accepts m.2
      if left.isEmpty then [] else [⟨place, .unevaluatedProperties (left.map (·.1))⟩]
    | _ => []

/-! ## Elements -/

/-- The elements of a list: each against the schema of its place, or all that no other keyword has a
schema for against one. -/
def items (c : Compiler) (keywords : List (String × Json)) (arg : Json) : Compiling Validator :=
  match arg with
  | .array schemas => Validator.prefixItems <$> schemas.mapM c.schema
  | .object _ | .bool _ =>
    let first := Keyword.schemaList ((keywords.lookup "prefixItems").getD .null)
    Validator.itemsAfter first.length <$> c.schema arg
  | _ => pure .anything

/-- The elements of a list after those that have a schema of their own. Without a list of schemas
beside it the keyword asks for nothing, but repeats a refusal of all elements for any value. -/
def additionalItems (c : Compiler) (keywords : List (String × Json)) (arg : Json) :
    Compiling Validator :=
  match keywords.lookup "items", arg with
  | some (.array first), .object _ => Validator.itemsAfter first.length <$> c.schema arg
  | some (.array first), .bool false => pure (.noItemsAfter first.length)
  | some (.bool false), _ => pure .nothing
  | none, _ | some (.array _), _ | some (.object _), _ | some (.bool true), _ => pure .anything
  | some _, _ => .fail (.invalid (.notOfTypes arg [.array, .boolean, .object]))

/-- A number of elements that a schema accepts. The limits came in 2019. -/
def contains (c : Compiler) (draft : Draft) (keywords : List (String × Json)) (arg : Json) :
    Compiling Validator :=
  let limit? := fun keyword =>
    if draft.since .draft2019 then (keywords.lookup keyword).bind Keyword.count? else none
  Validator.contains ((limit? "minContains").getD 1) (limit? "maxContains") <$> c.schema arg

/-- The elements that no other keyword looks at and that a schema does not accept. -/
def unevaluatedItems (c : Compiler) (locus : Locus) (steps : Nat)
    (keywords : List (String × Json)) (s : Validator) : Validator :=
  .asking fun value place =>
    match value with
    | .array items =>
      let judge := fun locus schema value => (c.alone locus schema).accepts value
      let evaluated := Evaluated.indices judge locus.draft steps locus (.object keywords) value
      let left := (List.range items.length).filterMap fun i =>
        if evaluated.contains i then none else items[i]?.filter fun v => !s.accepts v
      if left.isEmpty then [] else [⟨place, .unevaluatedItems left⟩]
    | _ => []

/-! ## Keywords -/

def pattern (text : String) : Compiling Validator :=
  match Pattern.read? text with
  | some pattern => pure (.ofViolations (Keyword.assertPattern pattern))
  | none => .fail (.badPattern (.string text))

def condition (c : Compiler) (keywords : List (String × Json)) (arg : Json) : Compiling Validator :=
  let branch := fun (schema : Option Json) =>
    match schema with
    | some schema => c.schema schema
    | none => pure .anything
  match keywords.lookup "then", keywords.lookup "else" with
  | none, none => pure .anything
  | yes, no => do
    let test ← c.schema arg
    let yes ← branch yes
    let no ← branch no
    pure (.choose test yes no)

/-- A schema for what is left over. The condition of a schema, which is asked what it looks at, is
compiled first, also when it has no branches. -/
def leftOver (c : Compiler) (keywords : List (String × Json)) (arg : Json) : Compiling Validator := do
  match keywords.lookup "if" with
  | some (.object test) => let _ ← c.schema (.object test)
  | _ => pure ()
  c.schema arg

/-- The validator of one keyword of a schema at a locus. `steps` bounds the ways through schemas. -/
def keyword (c : Compiler) (locus : Locus) (steps : Nat) (keywords : List (String × Json))
    (name : String) (arg : Json) : Compiling Validator := do
  Compiling.check (Keyword.fault? locus.draft keywords name arg)
  match name, arg with
  | "$ref", .string reference | "$dynamicRef", .string reference
  | "$recursiveRef", .string reference => c.refer name reference
  | "allOf", _ => Validator.all <$> (Keyword.schemaList arg).mapM c.schema
  | "anyOf", _ => Validator.anyOf <$> (Keyword.schemaList arg).mapM c.schema
  | "oneOf", _ => Validator.oneOf <$> (Keyword.schemaList arg).mapM c.schema
  | "not", _ => Validator.forbid arg <$> c.schema arg
  | "if", _ => c.condition keywords arg
  | "properties", _ =>
    match arg with
    | .object schemas =>
      if takesOver keywords then pure .anything else Validator.properties <$> c.named schemas
    | _ => if takesOver keywords then pure .anything else .fail (.invalid (.notOfType arg .object))
  | "patternProperties", _ =>
    match arg with
    | .object schemas =>
      if takesOver keywords then pure .anything
      else
        let blamed := if schemas.length = 1 then some arg else none
        Validator.patternProperties <$> c.matching blamed schemas
    | _ => if takesOver keywords then pure .anything else .fail (.invalid (.notOfType arg .object))
  | "additionalProperties", _ => c.additionalProperties keywords arg
  | "propertyNames", .bool false => pure .noNames
  | "propertyNames", .object _ => Validator.propertyNames <$> c.schema arg
  | "dependencies", _ => Validator.dependent <$> c.dependencies (Keyword.schemaMap arg)
  | "dependentRequired", _ => Validator.dependent <$> c.dependencies (Keyword.schemaMap arg)
  | "dependentSchemas", _ => Validator.dependent <$> c.named (Keyword.schemaMap arg)
  | "unevaluatedProperties", _ =>
    c.unevaluatedProperties locus steps keywords <$> c.leftOver keywords arg
  | "prefixItems", _ => Validator.prefixItems <$> (Keyword.schemaList arg).mapM c.schema
  | "items", _ => c.items keywords arg
  | "additionalItems", _ => c.additionalItems keywords arg
  | "contains", _ => c.contains locus.draft keywords arg
  | "unevaluatedItems", _ => c.unevaluatedItems locus steps keywords <$> c.leftOver keywords arg
  | "pattern", .string text => pattern text
  | _, _ => pure (.ofViolations (Keyword.assert locus.draft keywords name arg))

end Compiler

/-! ## Schemas -/

namespace Locus

/-- What a keyword refers to, at a locus. `here` compiles a schema at a locus, and `alone` does so by
itself. A schema that refers to itself by the keyword alone asks for nothing more. -/
def referWith (s : Locus) (here : Locus → Json → Compiling Validator)
    (alone : Locus → Json → Validator) (keyword reference : String) : Compiling Validator := do
  let meaning ← .found (s.meaning reference)
  let followed := keyword == "$recursiveRef" || (← get).contains meaning
  if !followed then
    modify (meaning :: ·)
  let (there, target) ← .found (s.refer keyword (.string reference))
  if followed then
    if target.get? keyword == some (.string reference) then pure .anything
    else do
      let there ← .found ({ there with draft := s.draft }.identify target)
      let there := { there with vocabularies := s.vocabularies }
      pure (.later fun _ =>
        match there.identify target with
        | .ok there => alone there target
        | .error _ => .anything)
  else here { there with vocabularies := s.registry.vocabularies there.draft target } target

/-- The validator of a schema at a locus. `alone` compiles a schema by itself. -/
def compileWith (alone : Locus → Json → Validator) (steps : Nat) : (fuel : Nat) → Locus →
    (schema : Json) → Compiling Validator
  | 0, _, _ => pure .anything
  | fuel + 1, s, schema =>
    match schema with
    | .bool true => pure .anything
    | .bool false => pure .nothing
    | .object keywords =>
      let here := compileWith alone steps fuel
      let c : Compiler := {
        schema := fun inside => do
          let there ← .found (s.enter inside)
          here there inside
        refer := s.referWith here alone
        alone := alone }
      Validator.all <$> (s.draft.effective s.vocabularies keywords).mapM fun (name, arg) =>
        c.keyword s steps keywords name arg
    | _ => .fail (.invalid (.notOfTypes schema [.boolean, .object]))

/-- Steps enough for following references among the schemas of a locus: each step of a way without a
repetition goes into a schema or follows a reference. -/
def steps (s : Locus) : Nat :=
  let weight := s.registry.resources.foldl (fun sum r => sum + r.2.contents.weight) 1
  weight * weight

/-- The validator of a schema by itself. `rounds` bounds how often a way through a value comes to a
validator that is made then. -/
def validator (steps : Nat) : (rounds : Nat) → Locus → (schema : Json) → Validator
  | 0, _, _ => .anything
  | rounds + 1, s, schema =>
    match (s.compileWith (validator steps rounds) steps steps schema).run [] with
    | .ok (v, _) => v
    | .error _ => .anything

end Locus

structure Document where
  locus : Locus
  root : Json

namespace Document

/-- Rounds enough for a value: between two steps into the value a way comes to each schema of each
resource at most once. -/
def rounds (d : Document) (value : Json) : Nat :=
  d.locus.steps * (value.height + 2)

def fault? (d : Document) : Option CompileFault :=
  match (d.locus.compileWith (fun _ _ => .anything) d.locus.steps d.locus.steps d.root).run [] with
  | .ok _ => none
  | .error fault => some fault

def findings (d : Document) (value : Json) : List Finding :=
  (d.locus.validator d.locus.steps (d.rounds value) d.root).findings value []

end Document

end StepEngine
