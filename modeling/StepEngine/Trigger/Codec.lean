import StepEngine.Trigger.Basic
/-!
# Triggers as values

A trigger's value has its kind under `type` beside its fields.

* `Trigger.decode` : a trigger without activities; older spellings are read;
* `Trigger.encode` : the value of a trigger, absent and empty fields left out;
* `Status.read` : a status as a key.
-/

namespace StepEngine

namespace QueryParam

def record : Record [String, Option String] where
  description := "struct QueryParam"
  closed := false
  fields := .cons (.required "name" Decode.text []) <|
    .cons (.optional "description" Decode.text []) .nil

def decode (origin : Origin) : Decoder QueryParam := fun v => do
  let (name, description, ()) ← record.decode origin v
  .ok ⟨name, description⟩

def encode (p : QueryParam) : Json :=
  .object (TriggerInfo.textMember "description" p.description ++ [("name", .string p.name)])

end QueryParam

/-! ## Statuses as keys -/

namespace Status

/-- The value of decimal digits after a number, of at most 16 bits. -/
def readDigits (n : Nat) : List Char → Except DecodeError UInt16
  | [] => .ok (.ofNat n)
  | c :: rest =>
    if c.isDigit then
      let n := n * 10 + (c.toNat - '0'.toNat)
      if n < Nat.pow 2 16 then readDigits n rest else .error .numeralTooLarge
    else .error .invalidNumeral

/-- A status as a key: decimal digits, perhaps after a plus sign. -/
def read (key : String) : Except DecodeError UInt16 :=
  match key.toList with
  | [] => .error .emptyNumeral
  | ['+'] => .error .invalidNumeral
  | '+' :: digits => readDigits 0 digits
  | digits => readDigits 0 digits

def spell (status : UInt16) : String := toString status.toNat

/-- The entries of a dictionary with statuses for keys, the later of two with one status. -/
def readEntries : List (String × Schema) → Except DecodeError (List (UInt16 × Schema))
  | [] => .ok []
  | (key, schema) :: rest => do
    let status ← read key
    let entries ← readEntries rest
    .ok ((status, schema) :: entries)

def decodeSchemas : Decoder (SortedMap UInt16 Schema) := fun v => do
  let schemas ← Decode.dict Schema.decode v
  (readEntries schemas.entries).map SortedMap.ofList

/-- The value of schemas by status: its members are in the order of their texts. -/
def encodeSchemas (schemas : SortedMap UInt16 Schema) : Json :=
  .ofMembers (schemas.entries.map fun e => (spell e.1, e.2.toJson))

end Status

/-! ## Triggers -/

/-- A schema member, if there is a schema. -/
def schemaMember (key : String) (schema : Option Schema) : List (String × Json) :=
  (schema.map fun s => (key, s.toJson)).toList

namespace HttpTrigger

def record : Record [HttpMethod, String, Option Schema, SortedMap UInt16 Schema,
    List QueryParam] where
  description := "struct HttpTrigger"
  closed := false
  fields :=
    .cons (.required "method" (HttpMethod.decode .setAside) []) <|
    .cons (.required "path" Decode.text []) <|
    .cons (.optional "bodySchema" Schema.decode ["body_schema"]) <|
    .cons (.defaulted "responseSchema" Status.decodeSchemas .empty ["response_schema"]) <|
    .cons (.defaulted "queryParams" (Decode.list (QueryParam.decode .setAside)) []
      ["query_params"]) .nil

def decode : Decoder HttpTrigger := fun v => do
  let (method, path, bodySchema, responseSchemas, queryParams, ()) ← record.decode .setAside v
  .ok ⟨method, path, bodySchema, responseSchemas, queryParams, [], none⟩

def encode (t : HttpTrigger) : Json :=
  .object (
    schemaMember "bodySchema" t.bodySchema ++
    [("method", t.method.encode), ("path", .string t.path)] ++
    (if t.queryParams.isEmpty then []
      else [("queryParams", .array (t.queryParams.map QueryParam.encode))]) ++
    (if t.responseSchemas.isEmpty then []
      else [("responseSchema", Status.encodeSchemas t.responseSchemas)]) ++
    [("type", TriggerKind.http.encode)])

end HttpTrigger

namespace QueueTrigger

def record : Record [String, Option Schema, Option Infrastructure] where
  description := "struct QueueTrigger"
  closed := false
  fields :=
    .cons (.required "topic" Decode.text []) <|
    .cons (.optional "input" Schema.decode []) <|
    .cons (.optional "infrastructure" (Infrastructure.decode .setAside) []) .nil

def decode : Decoder QueueTrigger := fun v => do
  let (topic, input, infrastructure, ()) ← record.decode .setAside v
  .ok ⟨topic, input, infrastructure, none⟩

def encode (t : QueueTrigger) : Json :=
  .object (
    (t.infrastructure.map fun i => ("infrastructure", i.encode)).toList ++
    schemaMember "input" t.input ++
    [("topic", .string t.topic), ("type", TriggerKind.queue.encode)])

end QueueTrigger

namespace CronTrigger

def record : Record [String] where
  description := "struct CronTrigger"
  closed := false
  fields := .cons (.required "expression" Decode.text []) .nil

def decode : Decoder CronTrigger := fun v => do
  let (expression, ()) ← record.decode .setAside v
  .ok ⟨expression, none⟩

def encode (t : CronTrigger) : Json :=
  .object [("expression", .string t.expression), ("type", TriggerKind.cron.encode)]

end CronTrigger

namespace StateTrigger

/-- A state trigger has no fields. -/
def record : Record [] where
  description := "struct StateTrigger"
  closed := false
  fields := .nil

/-- A state trigger from what stands beside its tag. -/
def decode : Decoder StateTrigger := fun v => do
  let () ← record.decode .setAside v
  .ok ⟨none⟩

def encode (_ : StateTrigger) : Json :=
  .object [("type", TriggerKind.state.encode)]

end StateTrigger

namespace StreamTrigger

def record : Record [String, Option String, Option String] where
  description := "struct StreamTrigger"
  closed := false
  fields :=
    .cons (.required "streamName" Decode.text ["stream_name"]) <|
    .cons (.optional "groupId" Decode.text ["group_id"]) <|
    .cons (.optional "itemId" Decode.text ["item_id"]) .nil

def decode : Decoder StreamTrigger := fun v => do
  let (streamName, groupId, itemId, ()) ← record.decode .setAside v
  .ok ⟨streamName, groupId, itemId, none⟩

def encode (t : StreamTrigger) : Json :=
  .object (
    TriggerInfo.textMember "groupId" t.groupId ++
    TriggerInfo.textMember "itemId" t.itemId ++
    [("streamName", .string t.streamName), ("type", TriggerKind.stream.encode)])

end StreamTrigger

namespace Trigger

def decode : Decoder Trigger := fun v => do
  let (kind, rest) ← Decode.splitTag "Trigger" TriggerKind.names v
  match kind with
  | .http => (HttpTrigger.decode rest).map http
  | .queue => (QueueTrigger.decode rest).map queue
  | .cron => (CronTrigger.decode rest).map cron
  | .state => (StateTrigger.decode rest).map state
  | .stream => (StreamTrigger.decode rest).map stream

def encode : Trigger → Json
  | http t => t.encode
  | queue t => t.encode
  | cron t => t.encode
  | state t => t.encode
  | stream t => t.encode

end Trigger

end StepEngine
