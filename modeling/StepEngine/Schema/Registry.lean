import StepEngine.Json.Measure
import StepEngine.Schema.Draft
import StepEngine.Uri.Resolution
/-!
# The registry of schemas

* `Resource` : a schema that can be referred to, and its draft;
* `Registry` : resources by their identity, and the names of places in them;
* `ReferenceFault` : why a reference leads nowhere;
* `Harvest` : the references of a schema to other resources;
* `Registry.ofRoot` : the registry of a schema, if all resources that it refers to are in it.

Schemas enter the registry level by level, all with the draft of the outermost one, and a later one
takes the place of an earlier one of the same identity. Nothing is fetched: a resource is inside the schema, or it is one of the standard ones.
-/

namespace StepEngine

structure Resource where
  draft : Draft
  contents : Json

/-- The identity of a schema that has no other. -/
def Uri.nowhere : Uri := ⟨some "json-schema", some ⟨none, "", none⟩, "/", none, none⟩

inductive RetrievalFault where
  | noBase
  | http
  | file
  | scheme (name : String)
  | closed
  deriving DecidableEq

def RetrievalFault.message : RetrievalFault → String
  | noBase => "No base URI is available"
  | http => "`resolve-http` feature or a custom resolver is required to resolve external schemas via HTTP"
  | file => "`resolve-file` feature or a custom resolver is required to resolve external schemas via files"
  | scheme name => "Unknown scheme " ++ name
  | closed => "Retrieving external resources is not supported once the registry is populated"

inductive ReferenceFault where
  | noPointer (pointer : String)
  | badIndex (pointer key : String)
  | badEscape (pointer : String)
  | noAnchor (name : String)
  | badAnchor (name : String)
  | noResource (uri : String) (cause : RetrievalFault)
  | badUri (problem : UriProblem)
  deriving DecidableEq

def ReferenceFault.message : ReferenceFault → String
  | noPointer pointer => "Pointer '" ++ pointer ++ "' does not exist"
  | badIndex pointer key =>
    "Failed to parse array index '" ++ key ++ "' in pointer '" ++ pointer ++ "'"
  | badEscape pointer =>
    "Invalid percent encoding in pointer '" ++ pointer ++
      "': the decoded bytes do not represent valid UTF-8"
  | noAnchor name => "Anchor '" ++ name ++ "' does not exist"
  | badAnchor name => "Anchor '" ++ name ++ "' is invalid"
  | noResource uri cause =>
    "Resource '" ++ uri ++ "' is not present in a registry and retrieving it failed: " ++ cause.message
  | badUri problem => problem.message

/-- What a text means against a base. -/
def Uri.join? (base : Uri) (text : String) : Except ReferenceFault Uri :=
  match base.join text with
  | .ok uri => .ok uri
  | .error problem => .error (.badUri problem)

/-- The identity of a schema against the identity around it. -/
def Uri.enter (base : Uri) (draft : Draft) (schema : Json) : Except ReferenceFault Uri :=
  match draft.idOf schema with
  | some id => base.join? id
  | none => .ok base

structure Anchor where
  base : Uri
  name : Draft.AnchorName
  resource : Resource

/-- Resources by their identity, and the names of places in them. -/
structure Registry where
  resources : List (Uri × Resource)
  anchors : List Anchor

namespace Registry

/-- The resource of an identity; the last one that was added. -/
def find? (r : Registry) (uri : Uri) : Option Resource :=
  r.resources.lookup uri

def insert (r : Registry) (uri : Uri) (resource : Resource) : Registry :=
  { r with resources := (uri, resource) :: r.resources }

/-- The place of a name under an identity; the last one that was added. -/
def anchorAt? (r : Registry) (uri : Uri) (name : String) : Option Anchor :=
  r.anchors.find? fun a => a.base == uri && a.name.text == name

def withAnchors (r : Registry) (base : Uri) (resource : Resource) : Registry :=
  { r with
    anchors := ((resource.draft.anchorsOf resource.contents).map fun name =>
      ⟨base, name, resource⟩).reverse ++ r.anchors }

end Registry

/-! ## References to other resources -/

/-- The references of a schema to other resources: those that were met, those that have to lead to a
resource, in reverse order, and whether a standard schema is one of them. -/
structure Harvest where
  met : List (Uri × String)
  wanted : List (Uri × String)
  usesStandard : Bool

namespace Harvest

def empty : Harvest := ⟨[], [], false⟩

/-- The beginnings of the names of the standard schemas. -/
def standardPrefixes : List String :=
  ["https://json-schema.org/draft/", "http://json-schema.org/draft-"]

/-- A name like that of a standard schema. -/
def isStandard (name : String) : Bool :=
  standardPrefixes.any fun p => p.toList.isPrefixOf name.toList

def unescapeKey : List Char → List Char
  | '~' :: '0' :: rest => '~' :: unescapeKey rest
  | '~' :: '1' :: rest => '/' :: unescapeKey rest
  | c :: rest => c :: unescapeKey rest
  | [] => []

/-- The element of an array by a key without sign and leading zeros. -/
def elementAt? (items : List Json) (key : List Char) : Option Json :=
  if key.isEmpty || !key.all Char.isDigit || (key.head? == some '0' && key.length != 1) then none
  else items[key.foldl (fun n d => 10 * n + (d.toNat - 48)) 0]?

/-- The value at the end of a list of keys. -/
def follow? : (keys : List (List Char)) → Json → Option Json
  | [], v => some v
  | key :: keys, .array items => (elementAt? items (unescapeKey key)).bind (follow? keys)
  | key :: keys, v => (v.get? (String.ofList (unescapeKey key))).bind (follow? keys)

/-- The value that a local reference points to, from the schema that holds it. -/
def pointed? (schema : Json) (reference : String) : Option Json :=
  match reference.toList.dropWhile (· == '#') with
  | [] => some schema
  | '/' :: rest => follow? (Text.split (· == '/') rest) schema
  | _ => none

/-- What a reference means against a base. A fragment of the base is left out. -/
def target (base : Uri) (reference : String) : Except ReferenceFault Uri :=
  if base.fragment.isNone then base.join? reference
  else
    let path := reference.toList.takeWhile (· != '#')
    match reference.toList.drop path.length with
    | [] => base.withoutFragment.join? reference
    | _ :: fragment => do
      let uri ← base.withoutFragment.join? (String.ofList path)
      .ok { uri with fragment := some (String.ofList fragment) }

/-- One more reference of a schema. `onward` harvests the schema that a local reference leads to. -/
def addReference (onward : Json → Harvest → Except ReferenceFault Harvest) (base : Uri) (schema : Json)
    (keyword reference : String) (h : Harvest) : Except ReferenceFault Harvest :=
  if isStandard reference || isStandard base.render then
    .ok { h with usesStandard := h.usesStandard || keyword == "$ref" }
  else if reference == "#" || h.met.contains (base, reference) then .ok h
  else
    let h := { h with met := (base, reference) :: h.met }
    if Draft.isHashed reference then
      match pointed? schema reference with
      | some found => onward found h
      | none => .ok h
    else do
      let uri ← target base reference
      .ok { h with wanted := (uri, reference) :: h.wanted }

/-- The references of one schema, and of those that its local references lead to. The schemas inside
are harvested by themselves. -/
def addSchema : (fuel : Nat) → (base : Uri) → (schema : Json) → Harvest →
    Except ReferenceFault Harvest
  | 0, _, _, h => .ok h
  | fuel + 1, base, schema, h =>
    if base.scheme == some "urn" then .ok h
    else
      ["$ref", "$schema"].foldlM (fun h keyword =>
        match schema.get? keyword with
        | some (.string reference) => addReference (addSchema fuel base) base schema keyword reference h
        | _ => .ok h) h

end Harvest

/-! ## Building -/

namespace Registry

/-- Adds resources and the schemas inside them, level by level. -/
def process : (fuel : Nat) → (queue : List (Uri × Resource)) → Registry → Harvest →
    Except ReferenceFault (Registry × Harvest)
  | 0, _, r, h => .ok (r, h)
  | _, [], r, h => .ok (r, h)
  | fuel + 1, (around, resource) :: queue, r, h => do
    let schema := resource.contents
    let base ← around.enter resource.draft schema
    let r := if (resource.draft.idOf schema).isSome then r.insert base resource else r
    let r := r.withAnchors base resource
    let h ← Harvest.addSchema (fuel + 1) base schema h
    let inside := (resource.draft.subschemas schema).map fun v => Resource.mk resource.draft v
    let h ← inside.foldlM (fun h sub => do
      let base ← base.enter sub.draft sub.contents
      Harvest.addSchema (fuel + 1) base sub.contents h) h
    process fuel (queue ++ inside.map fun sub => (base, sub)) r h

/-- Why a resource that is not there cannot be fetched. -/
def absence (uri : Uri) (reference : String) : ReferenceFault :=
  let fetched := fun cause => ReferenceFault.noResource uri.withoutFragment.render cause
  match uri.scheme.getD "" with
  | "json-schema" => .noResource reference .noBase
  | "http" | "https" => fetched .http
  | "file" => fetched .file
  | scheme => fetched (.scheme scheme)

/-- The first reference that has to lead to a resource and does not. -/
def absent? (r : Registry) (h : Harvest) : Option ReferenceFault :=
  (h.wanted.reverse.find? fun w => (r.find? w.1.withoutFragment).isNone).map fun w => absence w.1 w.2

/-- The registry of a schema under an identity. The standard schemas are in it when the schema
refers to one of them. -/
def ofRoot (standard : Registry) (base : Uri) (root : Resource) : Except ReferenceFault Registry := do
  let (r, h) ← process (root.contents.weight + 1) [(base, root)] ⟨[(base, root)], []⟩ .empty
  match r.absent? h with
  | some fault => .error fault
  | none =>
    if h.usesStandard then
      .ok ⟨standard.resources ++ r.resources, standard.anchors ++ r.anchors⟩
    else .ok r

end Registry

end StepEngine
