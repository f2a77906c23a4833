import StepEngine.Handler
import StepEngine.Schema.Basic
import StepEngine.Step.Infrastructure
/-!
# Triggers

A trigger says when a step runs. It can carry a condition, and a route middleware; these are
activities and are never part of a trigger's value.

* `HttpTrigger`, `QueueTrigger`, `CronTrigger`, `StateTrigger`, `StreamTrigger` : what defines a
  trigger of each kind;
* `Trigger` : any of them, with `kind`, `condition`, `inputSchema`;
* `Trigger.descriptor` : the text that ids are made from;
* `Trigger.info` : what a handler is told about its trigger;
* `Trigger.plain` : a trigger without activities, its schemas as JSON Schema.
-/

namespace StepEngine

/-- A query parameter that a route documents. -/
structure QueryParam where
  name : String
  description : Option String
  deriving DecidableEq

/-- Fires on a request for a method and a path. -/
structure HttpTrigger where
  method : HttpMethod
  path : String
  bodySchema : Option Schema
  /-- The schemas of the answers, by status. -/
  responseSchemas : SortedMap UInt16 Schema
  queryParams : List QueryParam
  /-- The first is outermost. -/
  middleware : List Middleware
  condition : Option Condition

def HttpTrigger.new (method : HttpMethod) (path : String) : HttpTrigger :=
  ⟨method, path, none, .empty, [], [], none⟩

/-- Fires on every message of a topic. -/
structure QueueTrigger where
  topic : String
  input : Option Schema
  infrastructure : Option Infrastructure
  condition : Option Condition

def QueueTrigger.new (topic : String) : QueueTrigger :=
  ⟨topic, none, none, none⟩

/-- Fires on a schedule. -/
structure CronTrigger where
  expression : String
  condition : Option Condition

/-- Fires on every change of a tracked state key. -/
structure StateTrigger where
  condition : Option Condition

/-- Fires on changes of the items of a stream, of a group or of an item. -/
structure StreamTrigger where
  streamName : String
  groupId : Option String
  itemId : Option String
  condition : Option Condition

def StreamTrigger.new (streamName : String) : StreamTrigger :=
  ⟨streamName, none, none, none⟩

/-- When a step runs. -/
inductive Trigger where
  | http (trigger : HttpTrigger)
  | queue (trigger : QueueTrigger)
  | cron (trigger : CronTrigger)
  | state (trigger : StateTrigger)
  | stream (trigger : StreamTrigger)

namespace Trigger

def kind : Trigger → TriggerKind
  | http _ => .http
  | queue _ => .queue
  | cron _ => .cron
  | state _ => .state
  | stream _ => .stream

def condition : Trigger → Option Condition
  | http t => t.condition
  | queue t => t.condition
  | cron t => t.condition
  | state t => t.condition
  | stream t => t.condition

def withCondition (condition : Condition) : Trigger → Trigger
  | http t => http { t with condition := some condition }
  | queue t => queue { t with condition := some condition }
  | cron t => cron { t with condition := some condition }
  | state t => state { t with condition := some condition }
  | stream t => stream { t with condition := some condition }

/-- Middleware after all there is. Only a route takes any. -/
def withMiddleware (layers : List Middleware) : Trigger → Trigger
  | http t => http { t with middleware := t.middleware ++ layers }
  | t => t

/-- The schema that payloads have to satisfy. -/
def inputSchema : Trigger → Option Schema
  | http t => t.bodySchema
  | queue t => t.input
  | _ => none

/-- The text that ids are made from. -/
def descriptor : Trigger → String
  | http t => "http(" ++ t.method.name ++ " " ++ t.path ++ ")"
  | queue t => "queue(" ++ t.topic ++ ")"
  | cron t => "cron(" ++ t.expression ++ ")"
  | state _ => "state"
  | stream t => "stream(" ++ t.streamName ++ ")"

/-- What a handler is told about the trigger at an index of its step. -/
def info (t : Trigger) (index : Nat) : TriggerInfo :=
  let info := { TriggerInfo.new t.kind with index := some (.ofNat index) }
  match t with
  | http t => { info with method := some t.method.name, path := some t.path }
  | queue t => { info with topic := some t.topic }
  | cron t => { info with expression := some t.expression }
  | state _ => info
  | stream t =>
    { info with streamName := some t.streamName, groupId := t.groupId, itemId := t.itemId }

/-- The trigger without its condition and middleware, typed schemas as their renderings. -/
def plain : Trigger → Trigger
  | http t =>
    http { t with
      bodySchema := t.bodySchema.map Schema.plain
      responseSchemas := t.responseSchemas.map Schema.plain
      middleware := []
      condition := none }
  | queue t => queue { t with input := t.input.map Schema.plain, condition := none }
  | cron t => cron { t with condition := none }
  | state t => state { t with condition := none }
  | stream t => stream { t with condition := none }

end Trigger

end StepEngine
