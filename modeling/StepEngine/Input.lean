import StepEngine.Request
import StepEngine.Error
/-!
# What triggers deliver

* `StateChange`, `StreamChange` : the payloads of state and stream triggers;
* `EnqueueEvent` : a message that is put on a topic;
* `TriggerInput` : a decoded payload, by the kind of its trigger;
* `TriggerInput.decode` : the payload of a trigger; a queue takes any value, a schedule ignores it;
* `TriggerInput.data` : the part of an input that a handler works on.
-/

namespace StepEngine

structure StateChange where
  groupId : String
  itemId : String
  oldValue : Option Json
  newValue : Option Json
  deriving DecidableEq

namespace StateChange

def record : Record [String, String, Option Json, Option Json] where
  description := "struct StateTriggerInput"
  closed := false
  fields :=
    .cons (.required "group_id" Decode.text ["groupId"]) <|
    .cons (.required "item_id" Decode.text ["itemId"]) <|
    .cons (.optional "old_value" Decode.any ["oldValue"]) <|
    .cons (.optional "new_value" Decode.any ["newValue"]) .nil

def decode : Decoder StateChange := fun v => do
  let (groupId, itemId, oldValue, newValue, ()) ← record.decode .direct v
  .ok ⟨groupId, itemId, oldValue, newValue⟩

/-- The value of a change: an absent value is written as `null`. -/
def encode (c : StateChange) : Json :=
  .object [
    ("group_id", .string c.groupId),
    ("item_id", .string c.itemId),
    ("new_value", c.newValue.getD .null),
    ("old_value", c.oldValue.getD .null)]

end StateChange

inductive StreamAction where
  | create
  | update
  | delete
  deriving DecidableEq

namespace StreamAction

def name : StreamAction → String
  | create => "create"
  | update => "update"
  | delete => "delete"

def names : List (String × StreamAction) :=
  [create, update, delete].map fun a => (a.name, a)

def decode : Decoder StreamAction := Decode.named names .direct

def encode (a : StreamAction) : Json := .string a.name

end StreamAction

structure StreamEvent where
  action : StreamAction
  data : Json
  deriving DecidableEq

namespace StreamEvent

def record : Record [StreamAction, Json] where
  description := "struct StreamEvent"
  closed := false
  fields :=
    .cons (.required "type" StreamAction.decode []) <|
    .cons (.defaulted "data" Decode.any .null []) .nil

def decode : Decoder StreamEvent := fun v => do
  let (action, data, ()) ← record.decode .direct v
  .ok ⟨action, data⟩

def encode (e : StreamEvent) : Json :=
  .object [("data", e.data), ("type", e.action.encode)]

end StreamEvent

structure StreamChange where
  streamName : String
  groupId : String
  itemId : String
  event : StreamEvent
  timestamp : Option Int64
  deriving DecidableEq

namespace StreamChange

def record : Record [String, String, String, StreamEvent, Option Int64] where
  description := "struct StreamTriggerInput"
  closed := false
  fields :=
    .cons (.required "stream_name" Decode.text ["streamName"]) <|
    .cons (.required "group_id" Decode.text ["groupId"]) <|
    .cons (.required "item_id" Decode.text ["itemId", "id"]) <|
    .cons (.required "event" StreamEvent.decode []) <|
    .cons (.optional "timestamp" Decode.int64 []) .nil

def decode : Decoder StreamChange := fun v => do
  let (streamName, groupId, itemId, event, timestamp, ()) ← record.decode .direct v
  .ok ⟨streamName, groupId, itemId, event, timestamp⟩

/-- The value of a change: an absent time is left out. -/
def encode (c : StreamChange) : Json :=
  .object ([
    ("event", c.event.encode),
    ("group_id", .string c.groupId),
    ("item_id", .string c.itemId),
    ("stream_name", .string c.streamName)] ++
    (c.timestamp.map fun t => ("timestamp", Json.number (.int t.toInt))).toList)

end StreamChange

/-- A message that is put on a topic. -/
structure EnqueueEvent where
  topic : String
  data : Json
  messageGroupId : Option String
  deriving DecidableEq

namespace EnqueueEvent

def record : Record [String, Json, Option String] where
  description := "struct EnqueueEvent"
  closed := false
  fields :=
    .cons (.required "topic" Decode.text []) <|
    .cons (.defaulted "data" Decode.any .null []) <|
    .cons (.optional "message_group_id" Decode.text ["messageGroupId"]) .nil

def decode : Decoder EnqueueEvent := fun v => do
  let (topic, data, messageGroupId, ()) ← record.decode .direct v
  .ok ⟨topic, data, messageGroupId⟩

/-- The value of a message: an absent group is left out. -/
def encode (e : EnqueueEvent) : Json :=
  .object ([("data", e.data)] ++
    (e.messageGroupId.map fun g => ("message_group_id", Json.string g)).toList ++
    [("topic", .string e.topic)])

end EnqueueEvent

/-! ## Inputs by kind -/

inductive TriggerInput where
  | http (request : ApiRequest)
  | queue (payload : Json)
  | cron
  | state (change : StateChange)
  | stream (change : StreamChange)
  deriving DecidableEq

namespace TriggerInput

def decode (kind : TriggerKind) (payload : Json) : Except StepError TriggerInput :=
  match kind with
  | .http => (StepError.decoded (ApiRequest.decode payload)).map http
  | .queue => .ok (queue payload)
  | .cron => .ok cron
  | .state => (StepError.decoded (StateChange.decode payload)).map state
  | .stream => (StepError.decoded (StreamChange.decode payload)).map stream

def kind : TriggerInput → TriggerKind
  | http _ => .http
  | queue _ => .queue
  | cron => .cron
  | state _ => .state
  | stream _ => .stream

/-- The part of an input that a handler works on: the body of a request, the payload of a message,
nothing for a schedule, the whole change otherwise. -/
def data : TriggerInput → Json
  | http r => r.body
  | queue payload => payload
  | cron => .null
  | state c => c.encode
  | stream c => c.encode

def request? : TriggerInput → Option ApiRequest
  | http r => some r
  | _ => none

def queue? : TriggerInput → Option Json
  | queue payload => some payload
  | _ => none

def state? : TriggerInput → Option StateChange
  | state c => some c
  | _ => none

def stream? : TriggerInput → Option StreamChange
  | stream c => some c
  | _ => none

end TriggerInput

end StepEngine
