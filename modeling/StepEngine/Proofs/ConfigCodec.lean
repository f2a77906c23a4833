import StepEngine.Proofs.Members
import StepEngine.Proofs.StatusKeys

/-!
# Configurations and their values

Each decoder reads what its encoder writes. Activities are not written, and a typed schema is
written as its rendering: what is read is the plain form.

* `Infrastructure.decode_encode`, `EnqueueTopic.decode_encode`, `QueryParam.decode_encode` : what
  has no activities is read as it was;
* `Trigger.Shown` : the schema of a trigger's payloads is no `null`, which is read as no schema;
* `Trigger.decode_encode` : the plain form of a trigger, kind by kind;
* `StepConfig.decode_metadata` : the plain form of a configuration, from its metadata.
-/

namespace StepEngine

/-! ## Numbers and names -/

theorem Decode.word32_ofNat (n : UInt32) : Decode.word32 (.ofNat n.toNat) = .ok n := by
  rw [Decode.word32, Decode.natural_of_lt "u32" 32 n.toNat_lt]
  exact congrArg Except.ok UInt32.ofNat_toNat

theorem QueueKind.decode_encode (origin : Origin) (k : QueueKind) :
    decode origin k.encode = .ok k := by
  cases k <;> rfl

theorem HttpMethod.decode_encode (origin : Origin) (m : HttpMethod) :
    decode origin m.encode = .ok m := by
  cases m <;> rfl

theorem TriggerKind.nameIn_name (k : TriggerKind) : Decode.nameIn names k.name = .ok k := by
  cases k <;> rfl

/-! ## Infrastructure -/

theorem HandlerResources.decode_encode (origin : Origin) (r : HandlerResources) :
    decode origin r.encode = .ok r := by
  have hgiven : record.fields.Given
      ((r.cpu.map fun n => ("cpu", Json.ofNat n.toNat)).toList ++
        [("ram", .ofNat r.ram.toNat), ("timeout", .ofNat r.timeout.toNat)])
      (r.ram, r.cpu, r.timeout, ()) :=
    ⟨.defaulted "ram" (by simp) (Decode.word32_ofNat r.ram),
      .optional_same "cpu" (by simp) Decode.word32_ofNat nofun,
      .defaulted "timeout" (by simp) (Decode.word32_ofNat r.timeout), trivial⟩
  exact Record.bind_of_given rfl (by decide) hgiven origin _

theorem QueueSettings.decode_encode (origin : Origin) (s : QueueSettings) :
    decode origin s.encode = .ok s := by
  have hgiven : (record origin).fields.Given
      [("delaySeconds", .ofNat s.delay.toNat), ("maxRetries", .ofNat s.maxRetries.toNat),
        ("type", s.kind.encode), ("visibilityTimeout", .ofNat s.visibilityTimeout.toNat)]
      (s.kind, s.maxRetries, s.visibilityTimeout, s.delay, ()) :=
    ⟨.defaulted "type" (by simp) (QueueKind.decode_encode origin s.kind),
      .defaulted "maxRetries" (by simp) (Decode.word32_ofNat s.maxRetries),
      .defaulted "visibilityTimeout" (by simp) (Decode.word32_ofNat s.visibilityTimeout),
      .defaulted "delaySeconds" (by simp) (Decode.word32_ofNat s.delay), trivial⟩
  exact Record.bind_of_given rfl (by cases origin <;> decide) hgiven origin _

theorem Infrastructure.decode_encode (origin : Origin) (i : Infrastructure) :
    decode origin i.encode = .ok i := by
  have hgiven : (record origin).fields.Given
      ((i.handler.map fun h => ("handler", h.encode)).toList ++
        (i.queue.map fun q => ("queue", q.encode)).toList)
      (i.handler, i.queue, ()) :=
    ⟨.optional_same "handler" (by simp) (HandlerResources.decode_encode origin) nofun,
      .optional_same "queue" (by simp) (QueueSettings.decode_encode origin) nofun, trivial⟩
  exact Record.bind_of_given rfl (by cases origin <;> decide) hgiven origin _

/-! ## Topics and parameters -/

theorem EnqueueTopic.decode_encode (t : EnqueueTopic) : decode t.encode = .ok t := by
  cases t with
  | plain topic => rfl
  | detailed topic label conditional =>
    have hgiven : record.fields.Given
        ([("conditional", .bool conditional)] ++ TriggerInfo.textMember "label" label ++
          [("topic", .string topic)])
        (topic, label, conditional, ()) :=
      ⟨.text "topic" (by simp), .optional_text "label" (by simp),
        .boolean "conditional" (by simp), trivial⟩
    rw [encode, decode, Record.decode_of_given rfl (by decide) hgiven]

theorem QueryParam.decode_encode (origin : Origin) (p : QueryParam) :
    decode origin p.encode = .ok p := by
  have hgiven : record.fields.Given
      (TriggerInfo.textMember "description" p.description ++ [("name", .string p.name)])
      (p.name, p.description, ()) :=
    ⟨.text "name" (by simp), .optional_text "description" (by simp), trivial⟩
  exact Record.bind_of_given rfl (by decide) hgiven origin _

/-! ## Triggers -/

/-- The field of a schema that is not `null`. -/
theorem Field.Given.schema {name : String} {aliases : List String} {s : Option Schema}
    {members : List (String × Json)} (key : String)
    (hunder : Json.under (Field.optional name Schema.decode aliases).isNamed members =
      schemaMember key s)
    (hnull : ∀ a ∈ s, a.toJson ≠ .null) :
    (Field.optional name Schema.decode aliases).Given members (s.map Schema.plain) :=
  .optional key hunder (fun _ _ => rfl) hnull

theorem Field.Given.schemasByStatus {name : String} {aliases : List String}
    {schemas : SortedMap UInt16 Schema} {members : List (String × Json)} (key : String)
    (hunder : Json.under
      (Field.defaulted name Status.decodeSchemas .empty aliases).isNamed members =
        if schemas.isEmpty then [] else [(key, Status.encodeSchemas schemas)]) :
    (Field.defaulted name Status.decodeSchemas .empty aliases).Given members
      (schemas.map Schema.plain) :=
  .defaulted_unless key hunder
    (fun hempty => SortedMap.ext (List.map_eq_nil_iff.2 (List.isEmpty_iff.1 hempty)).symm)
    (Status.decodeSchemas_encodeSchemas schemas)

namespace Trigger

def decodeFields : TriggerKind → Decoder Trigger
  | .http => fun v => (HttpTrigger.decode v).map http
  | .queue => fun v => (QueueTrigger.decode v).map queue
  | .cron => fun v => (CronTrigger.decode v).map cron
  | .state => fun v => (StateTrigger.decode v).map state
  | .stream => fun v => (StreamTrigger.decode v).map stream

theorem decode_of_tag {members : List (String × Json)} (kind : TriggerKind)
    (htag : Json.under (· == "type") members = [("type", kind.encode)]) :
    decode (.object members) =
      decodeFields kind (.object (members.filter fun m => m.1 != "type")) := by
  change (Decode.splitTag "Trigger" TriggerKind.names (.object members)).bind _ = _
  rw [Decode.splitTag_object htag kind.nameIn_name]
  cases kind <;> rfl

/-- The schema of payloads is no `null`, which would be read as no schema. -/
def Shown (t : Trigger) : Prop := ∀ s ∈ t.inputSchema, s.toJson ≠ .null

end Trigger

theorem HttpTrigger.decodeFields_of_given {members : List (String × Json)} {method : HttpMethod}
    {path : String} {bodySchema : Option Schema} {responseSchemas : SortedMap UInt16 Schema}
    {queryParams : List QueryParam}
    (h : record.fields.Given members (method, path, bodySchema, responseSchemas, queryParams, ())) :
    Trigger.decodeFields .http (.object members) =
      .ok (.http ⟨method, path, bodySchema, responseSchemas, queryParams, [], none⟩) := by
  exact congrArg (Except.map Trigger.http) (Record.bind_of_given rfl (by decide) h .setAside _)

theorem HttpTrigger.decode_encode {t : HttpTrigger} (h : (Trigger.http t).Shown) :
    Trigger.decode t.encode = .ok (Trigger.http t).plain := by
  have hgiven : record.fields.Given
      (schemaMember "bodySchema" t.bodySchema ++
        [("method", t.method.encode), ("path", .string t.path)] ++
        (if t.queryParams.isEmpty then []
          else [("queryParams", .array (t.queryParams.map QueryParam.encode))]) ++
        (if t.responseSchemas.isEmpty then []
          else [("responseSchema", Status.encodeSchemas t.responseSchemas)]) ++
        [("type", TriggerKind.http.encode)])
      (t.method, t.path, t.bodySchema.map Schema.plain, t.responseSchemas.map Schema.plain,
        t.queryParams, ()) :=
    ⟨.required "method" (by simp) (HttpMethod.decode_encode .setAside t.method),
      .text "path" (by simp),
      .schema "bodySchema" (by simp) h,
      .schemasByStatus "responseSchema" (by simp),
      .list_same "queryParams" (by simp [StepConfig.listMember])
        (QueryParam.decode_encode .setAside), trivial⟩
  exact (Trigger.decode_of_tag .http (by simp)).trans
    (decodeFields_of_given (hgiven.beside_tag (by decide)))

theorem QueueTrigger.decodeFields_of_given {members : List (String × Json)} {topic : String}
    {input : Option Schema} {infrastructure : Option Infrastructure}
    (h : record.fields.Given members (topic, input, infrastructure, ())) :
    Trigger.decodeFields .queue (.object members) =
      .ok (.queue ⟨topic, input, infrastructure, none⟩) := by
  exact congrArg (Except.map Trigger.queue) (Record.bind_of_given rfl (by decide) h .setAside _)

theorem QueueTrigger.decode_encode {t : QueueTrigger} (h : (Trigger.queue t).Shown) :
    Trigger.decode t.encode = .ok (Trigger.queue t).plain := by
  have hgiven : record.fields.Given
      ((t.infrastructure.map fun i => ("infrastructure", i.encode)).toList ++
        schemaMember "input" t.input ++
        [("topic", .string t.topic), ("type", TriggerKind.queue.encode)])
      (t.topic, t.input.map Schema.plain, t.infrastructure, ()) :=
    ⟨.text "topic" (by simp),
      .schema "input" (by simp) h,
      .optional_same "infrastructure" (by simp) (Infrastructure.decode_encode .setAside) nofun,
      trivial⟩
  exact (Trigger.decode_of_tag .queue (by simp)).trans
    (decodeFields_of_given (hgiven.beside_tag (by decide)))

theorem CronTrigger.decodeFields_of_given {members : List (String × Json)} {expression : String}
    (h : record.fields.Given members (expression, ())) :
    Trigger.decodeFields .cron (.object members) = .ok (.cron ⟨expression, none⟩) := by
  exact congrArg (Except.map Trigger.cron) (Record.bind_of_given rfl (by decide) h .setAside _)

theorem CronTrigger.decode_encode (t : CronTrigger) :
    Trigger.decode t.encode = .ok (Trigger.cron t).plain := by
  have hgiven : record.fields.Given
      [("expression", .string t.expression), ("type", TriggerKind.cron.encode)]
      (t.expression, ()) :=
    ⟨.text "expression" (by simp), trivial⟩
  exact (Trigger.decode_of_tag .cron (by simp)).trans
    (decodeFields_of_given (hgiven.beside_tag (by decide)))

theorem StateTrigger.decodeFields_of_given {members : List (String × Json)}
    (h : record.fields.Given members ()) :
    Trigger.decodeFields .state (.object members) = .ok (.state ⟨none⟩) := by
  exact congrArg (Except.map Trigger.state) (Record.bind_of_given rfl (by decide) h .setAside _)

theorem StateTrigger.decode_encode (t : StateTrigger) :
    Trigger.decode t.encode = .ok (Trigger.state t).plain :=
  (Trigger.decode_of_tag .state (by simp)).trans (decodeFields_of_given trivial)

theorem StreamTrigger.decodeFields_of_given {members : List (String × Json)}
    {streamName : String} {groupId itemId : Option String}
    (h : record.fields.Given members (streamName, groupId, itemId, ())) :
    Trigger.decodeFields .stream (.object members) =
      .ok (.stream ⟨streamName, groupId, itemId, none⟩) := by
  exact congrArg (Except.map Trigger.stream) (Record.bind_of_given rfl (by decide) h .setAside _)

theorem StreamTrigger.decode_encode (t : StreamTrigger) :
    Trigger.decode t.encode = .ok (Trigger.stream t).plain := by
  have hgiven : record.fields.Given
      (TriggerInfo.textMember "groupId" t.groupId ++ TriggerInfo.textMember "itemId" t.itemId ++
        [("streamName", .string t.streamName), ("type", TriggerKind.stream.encode)])
      (t.streamName, t.groupId, t.itemId, ()) :=
    ⟨.text "streamName" (by simp), .optional_text "groupId" (by simp),
      .optional_text "itemId" (by simp), trivial⟩
  exact (Trigger.decode_of_tag .stream (by simp)).trans
    (decodeFields_of_given (hgiven.beside_tag (by decide)))

theorem Trigger.decode_encode {t : Trigger} (h : t.Shown) : decode t.encode = .ok t.plain := by
  cases t with
  | http t => exact HttpTrigger.decode_encode h
  | queue t => exact QueueTrigger.decode_encode h
  | cron t => exact CronTrigger.decode_encode t
  | state t => exact StateTrigger.decode_encode t
  | stream t => exact StreamTrigger.decode_encode t

/-! ## Configurations -/

namespace StepConfig

theorem members_given {c : StepConfig} (h : ∀ t ∈ c.triggers, t.Shown) :
    record.fields.Given c.members
      (c.name, c.triggers.map Trigger.plain, c.enqueues, c.virtualEnqueues, c.virtualSubscribes,
        c.description, c.flows, c.includeFiles, c.infrastructure, ()) :=
  have htriggers := Decode.list_map fun t ht => Trigger.decode_encode (h t ht)
  ⟨.text "name" (by simp [members]),
    .required "triggers" (by simp [members]) htriggers,
    .list_same "enqueues" (by simp [members]) EnqueueTopic.decode_encode,
    .list_same "virtualEnqueues" (by simp [members]) EnqueueTopic.decode_encode,
    .texts "virtualSubscribes" (by simp [members]),
    .optional_text "description" (by simp [members]),
    .texts "flows" (by simp [members]),
    .texts "includeFiles" (by simp [members]),
    .optional_same "infrastructure" (by simp [members]) (Infrastructure.decode_encode .direct)
      nofun,
    trivial⟩

/-- The value with the path of the source is read as the plain form. -/
theorem decode_metadata {c : StepConfig} (h : ∀ t ∈ c.triggers, t.Shown) (filePath : String) :
    decode (c.metadata filePath) = .ok c.plain := by
  have hpath : record.fields.knows "filePath" = false := by decide
  have hgiven := (members_given h).insertEntry hpath (.string filePath)
  exact Record.bind_of_given rfl (by decide) hgiven .direct _

end StepConfig

end StepEngine
