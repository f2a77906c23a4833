import StepEngine.Proofs.ConfigCodec
import StepEngine.Proofs.Shadow
import StepEngine.Step.Registration

/-!
# Metadata of a step

The metadata of a step is the value of its configuration with the path of its source. Tools read it
back as a configuration without activities, and get the same registrations from it.

* `TypedSchema.Rendered` : how the schema of a type is rendered;
* `StepConfig.shown_of_problems` : no input schema of a configuration without problems is `null`;
* `StepConfig.metadata_plain` : the plain form has the same metadata;
* `StepConfig.recordsFrom_plain` : and the same records, without conditions;
* `StepConfig.metadata_restores` : the metadata of a configuration without problems is read as its
  plain form.
-/

namespace StepEngine

/-! ## Schemas that are not `null` -/

/-- The schema of a type is rendered as an object, or else as the schema that accepts everything. -/
def TypedSchema.Rendered (t : TypedSchema) : Prop :=
  (∃ members, t.rendering = .object members) ∨ t.rendering = .bool true

theorem TypedSchema.Rendered.ne_null {t : TypedSchema} (h : t.Rendered) : t.rendering ≠ .null := by
  intro hnull
  rcases h with ⟨members, h⟩ | h <;> cases hnull.symm.trans h

/-- The types that payloads are decoded as are rendered. -/
def Trigger.InputRendered (t : Trigger) : Prop :=
  ∀ type, t.inputSchema = some (.typed type) → type.Rendered

theorem Schema.toJson_ne_null {s : Schema} (hproblems : s.problems = [])
    (hrendered : ∀ type, s = typed type → type.Rendered) : s.toJson ≠ .null := by
  cases s with
  | typed type => exact (hrendered type rfl).ne_null
  | json v =>
    rintro rfl
    exact absurd hproblems (by decide)

namespace Trigger

theorem schema_problems {field : String} {index : Nat} {schema : Option Schema}
    (h : schema.toList.flatMap (schemaProblems index field) = []) :
    ∀ s ∈ schema, s.problems = [] := by
  rintro s rfl
  rw [Option.toList_some, List.flatMap_singleton] at h
  exact List.map_eq_nil_iff.1 h

theorem inputSchema_problems {t : Trigger} {index : Nat} (h : t.problems index = []) :
    ∀ s ∈ t.inputSchema, s.problems = [] := by
  cases t with
  | http t =>
    simp only [problems, List.append_eq_nil_iff] at h
    exact schema_problems h.1.2
  | queue t =>
    simp only [problems, List.append_eq_nil_iff] at h
    exact schema_problems h.2
  | cron _ | state _ | stream _ =>
    intro s hs
    cases hs

theorem shown_of_problems {t : Trigger} {index : Nat} (hproblems : t.problems index = [])
    (hrendered : t.InputRendered) : t.Shown := fun s hs =>
  Schema.toJson_ne_null (inputSchema_problems hproblems s hs) fun type htyped =>
    hrendered type (htyped ▸ hs)

end Trigger

theorem StepConfig.shown_of_problems {c : StepConfig} (hproblems : c.problems = [])
    (hrendered : ∀ t ∈ c.triggers, t.InputRendered) : ∀ t ∈ c.triggers, t.Shown := by
  intro t ht
  obtain ⟨index, htrigger⟩ := trigger_problems hproblems t ht
  exact Trigger.shown_of_problems htrigger (hrendered t ht)

/-! ## The plain form -/

namespace Trigger

theorem schemaMember_plain (key : String) (s : Option Schema) :
    schemaMember key (s.map Schema.plain) = schemaMember key s := by
  cases s <;> rfl

theorem encodeSchemas_plain (schemas : SortedMap UInt16 Schema) :
    Status.encodeSchemas (schemas.map Schema.plain) = Status.encodeSchemas schemas := by
  simp only [Status.encodeSchemas, SortedMap.map, List.map_map]
  rfl

theorem isEmpty_plain (schemas : SortedMap UInt16 Schema) :
    (schemas.map Schema.plain).isEmpty = schemas.isEmpty :=
  List.isEmpty_map

theorem encode_plain (t : Trigger) : t.plain.encode = t.encode := by
  cases t with
  | http t =>
    simp only [plain, encode, HttpTrigger.encode, schemaMember_plain, isEmpty_plain,
      encodeSchemas_plain]
  | queue t => simp only [plain, encode, QueueTrigger.encode, schemaMember_plain]
  | cron _ | state _ | stream _ => rfl

theorem descriptor_plain (t : Trigger) : t.plain.descriptor = t.descriptor := by
  cases t <;> rfl

theorem condition_plain (t : Trigger) : t.plain.condition = none := by
  cases t <;> rfl

theorem kindConfig_plain (t : Trigger) : KindConfig.ofTrigger t.plain = .ofTrigger t := by
  cases t <;> rfl

end Trigger

namespace StepConfig

theorem metadata_plain (c : StepConfig) (filePath : String) :
    c.plain.metadata filePath = c.metadata filePath := by
  have htriggers : c.plain.triggers.map Trigger.encode = c.triggers.map Trigger.encode := by
    rw [plain, List.map_map]
    exact List.map_congr_left fun t _ => t.encode_plain
  simp only [metadata, encode, members, htriggers]
  rfl

theorem recordOf_plain (step : String) (metadata : Json) (seen : List String) (index : Nat)
    (t : Trigger) :
    recordOf step metadata seen index t.plain =
      { recordOf step metadata seen index t with conditionId := none } := by
  simp only [recordOf, t.descriptor_plain, t.condition_plain, t.kindConfig_plain, Option.map_none]

/-- The index of each trigger and the descriptors before it stay as they are. -/
theorem recordsFrom_plain (step : String) (metadata : Json) (seen : List String) (index : Nat)
    (ts : List Trigger) :
    recordsFrom step metadata seen index (ts.map Trigger.plain) =
      (recordsFrom step metadata seen index ts).map fun r => { r with conditionId := none } := by
  induction ts generalizing seen index with
  | nil => rfl
  | cons t ts ih =>
    rw [List.map_cons, recordsFrom, recordsFrom, List.map_cons, recordOf_plain, t.descriptor_plain,
      ih]

/-! ## Reading metadata -/

/-- The metadata of a configuration without problems is read as the configuration without
activities, its schemas rendered. That one is registered as the configuration is, apart from the
conditions. -/
theorem metadata_restores {c : StepConfig} (hproblems : c.problems = [])
    (hrendered : ∀ t ∈ c.triggers, t.InputRendered) (filePath : String) :
    (c.metadata filePath).get? "filePath" = some (.string filePath) ∧
      ofJson (c.metadata filePath) = .ok c.plain ∧
      c.plain.registrations filePath =
        (c.registrations filePath).map fun r => { r with conditionId := none } := by
  refine ⟨?_, ?_, ?_⟩
  · exact (SortedMap.lookup_insertEntry c.members "filePath" "filePath" _).trans (if_pos rfl)
  · rw [ofJson, decode_metadata (shown_of_problems hproblems hrendered)]
    rfl
  · rw [registrations, metadata_plain]
    exact recordsFrom_plain c.name _ [] 0 c.triggers

/-- An order as a type: its rendering is an object. -/
def orderType : TypedSchema where
  typeName := "Order"
  rendering := .object [("title", .string "Order"), ("type", .string "object")]
  decode := fun v => (Decode.dict Decode.any v).map fun _ => ()

/-- A step with activities, schemas of both kinds, answers whose statuses are in another order as
texts, and a topic that comes twice. -/
def orders : StepConfig :=
  { new "Orders" with
    triggers := [
      .http {
        method := .post
        path := "/orders"
        bodySchema := some (.typed orderType)
        responseSchemas := .ofList [
          (404, .json (.object [("type", .string "string")])), (1000, .typed orderType)]
        queryParams := [⟨"dry", some "Nothing is stored"⟩]
        middleware := [fun request _ next => next request]
        condition := some fun _ _ => .done true },
      .queue {
        topic := "orders.created"
        input := some (.json (.object [("type", .string "object")]))
        infrastructure := some ⟨some ⟨256, none, 30⟩, some ⟨.fifo, 5, 60, 0⟩⟩
        condition := some fun _ _ => .done false },
      .queue (.new "orders.created"),
      .cron ⟨"0 0 * * *", none⟩]
    enqueues := [.plain "orders.paid", .detailed "orders.failed" none true]
    description := some "Accepts orders" }

theorem metadata_restores_orders :
    orders.problems = [] ∧ (∀ t ∈ orders.triggers, t.InputRendered) ∧
      (orders.metadata "steps/orders.rs").get? "filePath" = some (.string "steps/orders.rs") ∧
      ofJson (orders.metadata "steps/orders.rs") = .ok orders.plain ∧
      orders.plain.registrations "steps/orders.rs" =
        (orders.registrations "steps/orders.rs").map fun r => { r with conditionId := none } := by
  have hproblems : orders.problems = [] := by decide +kernel
  have hrendered : ∀ t ∈ orders.triggers, t.InputRendered := by
    intro t ht type htype
    simp only [orders, List.mem_cons, List.not_mem_nil, or_false] at ht
    rcases ht with rfl | rfl | rfl | rfl
    · cases htype
      exact .inl ⟨_, rfl⟩
    · cases htype
    · cases htype
    · cases htype
  exact ⟨hproblems, hrendered, metadata_restores hproblems hrendered "steps/orders.rs"⟩

end StepConfig

end StepEngine
