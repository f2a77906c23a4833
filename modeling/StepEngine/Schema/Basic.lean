import StepEngine.Decode.Basic
/-!
# Schemas of payloads

* `Schema` : a declarative schema, or a type that payloads are decoded as;
* `Schema.toJson` : its JSON Schema rendering, which metadata shows;
* `Schema.plain` : a schema that is its own rendering;
* `Schema.decode` : any value is a declarative schema.
-/

namespace StepEngine

structure TypedSchema where
  typeName : String
  rendering : Json
  decode : Decoder Unit

/-- What a payload has to satisfy. -/
inductive Schema where
  | typed (schema : TypedSchema)
  | json (schema : Json)

namespace Schema

def toJson : Schema → Json
  | typed t => t.rendering
  | json v => v

def plain (s : Schema) : Schema := json s.toJson

/-- Any value is a declarative schema. -/
def decode : Decoder Schema := fun v => .ok (json v)

end Schema

end StepEngine
