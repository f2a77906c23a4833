import StepEngine.Schema.Reference
import StepEngine.Schema.Assertion
/-!
# What a schema looks at

`unevaluatedProperties` and `unevaluatedItems` are about the members and elements that no other
keyword looks at.

* `Evaluated.names` : the members of an object that the keywords of a schema look at;
* `Evaluated.indices` : the elements of a list that they look at.

Both follow references, conditions and combinators into other schemas for the same value, as far as
those are objects. They do not look into a schema under a combinator unless the combinator allows it:
`allOf` when all its schemas accept the value, `oneOf` when exactly one does, `anyOf` when one does,
for members, or all do, for elements. Of `oneOf` only the schema that accepts the value counts for
members, and all count for elements.
-/

namespace StepEngine

namespace Evaluated

def objects (schemas : List Json) : List Json :=
  schemas.filter fun v => v.asObject?.isSome

/-- What follows from a schema that holds a condition. -/
def conditional {α : Type} (accepts : Json → Bool) (follow : Json → List α)
    (keywords : List (String × Json)) (condition : Json) : List α :=
  if accepts condition then follow condition ++ ((keywords.lookup "then").map follow).getD []
  else ((keywords.lookup "else").map follow).getD []

/-- What follows from a combinator: everything in its schemas, if enough of them accept the value. -/
def combined {α : Type} (accepts : Json → Bool) (follow : Json → List α)
    (enough : (accepting all : Nat) → Bool) (arg : Json) : List α :=
  let schemas := objects (Keyword.schemaList arg)
  if enough (schemas.filter accepts).length schemas.length then schemas.flatMap follow else []

def onlyOne {α : Type} (accepts : Json → Bool) (follow : Json → List α) (arg : Json) : List α :=
  match (objects (Keyword.schemaList arg)).filter accepts with
  | [schema] => follow schema
  | _ => []

/-- The keyword, beside `$ref`, that refers to other schemas. -/
def movingReference (d : Draft) : String :=
  if d == .draft2019 then "$recursiveRef" else "$dynamicRef"

/-- The schema that a keyword refers to, for members. The identities on the way to it are those on the way to the
reference: the one that holds the reference is not among them. -/
def followed (locus : Locus) (keyword : String) (arg : Json) : Except ReferenceFault (Locus × Json) := do
  let (there, target) ← locus.refer keyword arg
  .ok ({ there with draft := locus.draft, scope := locus.scope }, target)

/-- The members of an object that the keywords of a schema look at. `accepts` tells whether a schema
at a locus accepts a value. -/
def names (accepts : Locus → (schema value : Json) → Bool) (draft : Draft) : (fuel : Nat) →
    (locus : Locus) → (schema value : Json) → List String
  | 0, _, _, _ => []
  | fuel + 1, locus, schema, value =>
    match schema, value with
    | .object keywords, .object members =>
      let follow := fun schema => names accepts draft fuel locus schema value
      let holds := fun schema => accepts locus schema value
      let accepted := fun schema =>
        (members.filter fun m => accepts locus schema m.2).map (·.1)
      keywords.flatMap fun (keyword, arg) =>
        match keyword with
        | "properties" =>
          (members.filter fun m =>
            ((Keyword.schemaMap arg).lookup m.1).any fun s => accepts locus s m.2).map (·.1)
        | "patternProperties" =>
          (members.filter fun m =>
            (Keyword.schemaMap arg).any fun p => Keyword.nameMatches p.1 m.1).map (·.1)
        | "additionalProperties" | "unevaluatedProperties" => accepted arg
        | "dependentSchemas" =>
          (objects (((Keyword.schemaMap arg).filter fun d =>
            (members.lookup d.1).isSome).map (·.2))).flatMap follow
        | "if" => if arg.asObject?.isSome then conditional holds follow keywords arg else []
        | "allOf" => combined holds follow (fun n all => n == all) arg
        | "anyOf" => combined holds follow (fun n _ => n != 0) arg
        | "oneOf" => onlyOne holds follow arg
        | _ =>
          if keyword == "$ref" || keyword == movingReference draft then
            match followed locus keyword arg with
            | .ok (there, target) => names accepts draft fuel there target value
            | .error _ => []
          else []
    | _, _ => []

/-- The number of elements that `items` looks at, of those that there are. -/
def itemsCovered (draft : Draft) (keywords : List (String × Json)) (arg : Json) (count : Nat) : Nat :=
  if draft != .draft2019 || (keywords.lookup "additionalItems").isSome then count
  else
    match arg with
    | .object _ => count
    | .array schemas => min schemas.length count
    | _ => 0

/-- The elements of a list that the keywords of a schema look at, by their indices. What a schema
refers to is read as if it stood in place of the reference. -/
def indices (accepts : Locus → (schema value : Json) → Bool) (draft : Draft) : (fuel : Nat) →
    (locus : Locus) → (schema value : Json) → List Nat
  | 0, _, _, _ => []
  | fuel + 1, locus, schema, value =>
    match schema, value with
    | .object keywords, .array items =>
      let follow := fun schema => indices accepts draft fuel locus schema value
      let holds := fun schema => accepts locus schema value
      let accepted := fun schema =>
        (List.range items.length).filter fun i => items[i]?.any (accepts locus schema)
      keywords.flatMap fun (keyword, arg) =>
        match keyword with
        | "prefixItems" =>
          if draft == .draft2019 then []
          else List.range (min (Keyword.schemaList arg).length items.length)
        | "items" => List.range (itemsCovered draft keywords arg items.length)
        | "contains" => accepted arg
        | "unevaluatedItems" => accepted arg
        | "if" => if arg.asObject?.isSome then conditional holds follow keywords arg else []
        | "allOf" | "anyOf" => combined holds follow (fun n all => n == all) arg
        | "oneOf" => combined holds follow (fun n _ => n == 1) arg
        | _ =>
          if keyword == "$ref" || keyword == movingReference draft then
            match locus.refer keyword arg with
            | .ok (_, target) => indices accepts draft fuel locus target value
            | .error _ => []
          else []
    | _, _ => []

end Evaluated

end StepEngine
