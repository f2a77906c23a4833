import StepEngine.Decode.Record
import StepEngine.Trigger.Kind
/-!
# What a handler is told about its trigger

* `TriggerInfo` : the kind and the routing fields of a trigger, and its index in its step;
* `TriggerInfo.decode`, `encode` : the same as a value, absent fields left out.
-/

namespace StepEngine

structure TriggerInfo where
  kind : TriggerKind
  index : Option UInt64
  path : Option String
  method : Option String
  topic : Option String
  expression : Option String
  streamName : Option String
  groupId : Option String
  itemId : Option String
  deriving DecidableEq

namespace TriggerInfo

/-- A kind and nothing else. -/
def new (kind : TriggerKind) : TriggerInfo :=
  ⟨kind, none, none, none, none, none, none, none, none⟩

def record : Record [TriggerKind, Option UInt64, Option String, Option String, Option String,
    Option String, Option String, Option String, Option String] where
  description := "struct TriggerInfo"
  closed := false
  fields :=
    .cons (.required "type" (TriggerKind.decode .direct) []) <|
    .cons (.optional "index" Decode.index []) <|
    .cons (.optional "path" Decode.text []) <|
    .cons (.optional "method" Decode.text []) <|
    .cons (.optional "topic" Decode.text []) <|
    .cons (.optional "expression" Decode.text []) <|
    .cons (.optional "stream_name" Decode.text []) <|
    .cons (.optional "group_id" Decode.text []) <|
    .cons (.optional "item_id" Decode.text []) .nil

def decode : Decoder TriggerInfo := fun v => do
  let (kind, index, path, method, topic, expression, streamName, groupId, itemId, ()) ←
    record.decode .direct v
  .ok ⟨kind, index, path, method, topic, expression, streamName, groupId, itemId⟩

def textMember (key : String) (text : Option String) : List (String × Json) :=
  (text.map fun s => (key, Json.string s)).toList

def encode (i : TriggerInfo) : Json :=
  .object (
    textMember "expression" i.expression ++
    textMember "group_id" i.groupId ++
    (i.index.map fun n => ("index", Json.ofNat n.toNat)).toList ++
    textMember "item_id" i.itemId ++
    textMember "method" i.method ++
    textMember "path" i.path ++
    textMember "stream_name" i.streamName ++
    textMember "topic" i.topic ++
    [("type", i.kind.encode)])

end TriggerInfo

end StepEngine
