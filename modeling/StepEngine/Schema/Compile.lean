import StepEngine.Schema.MetaSchema
/-!
# Compiling a schema

A schema compiles when its draft is known, the resources that it refers to are there, it is a schema
of its draft, and everything that can be reached from it makes sense. What a reference leads to may
lie outside all schemas that the draft looks at, so it is checked keyword by keyword.

* `Draft.fault?` : the first way in which a value fails to be a schema of a draft;
* `Json.locus` : the locus of a schema that is in no other;
* `Json.compile` : the document of a schema that compiles.
-/

namespace StepEngine

/-- The first way in which a value fails to be a schema of a draft. -/
def Draft.fault? (d : Draft) (schema : Json) : Option CompileFault :=
  ((MetaSchema.validator d).findings schema []).head?.map fun f => .invalid f.violation

/-- A result of looking up a reference as one of compiling. -/
def CompileFault.ofReference {α : Type} (found : Except ReferenceFault α) : Except CompileFault α :=
  found.mapError .badReference

def Json.locus (schema : Json) : Except CompileFault Locus :=
  match Draft.draft2020.detect schema with
  | .error name => .error (.unknownDraft name)
  | .ok draft => do
    let base ← CompileFault.ofReference (Uri.nowhere.enter draft schema)
    let registry ← CompileFault.ofReference (Registry.ofRoot MetaSchema.standard base ⟨draft, schema⟩)
    .ok ⟨registry, draft, registry.vocabularies draft schema, base, []⟩

def Json.compile (schema : Json) : Except CompileFault Document := do
  let locus ← schema.locus
  match locus.draft.fault? schema with
  | some fault => .error fault
  | none => do
    let locus ← CompileFault.ofReference (locus.identify schema)
    let document : Document := ⟨locus, schema⟩
    match document.fault? with
    | some fault => .error fault
    | none => .ok document

end StepEngine
