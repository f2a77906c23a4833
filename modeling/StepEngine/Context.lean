import StepEngine.Activity
import StepEngine.Input
import StepEngine.UpdateOp
import StepEngine.Trigger.Info
/-!
# The context of a handler

* `StepLogger` : log lines of a step;
* `StateStore` : values by scope and key; `StateStore.clear` deletes the items of a scope;
* `StreamStore` : the items of a stream, by group and item;
* `FlowContext` : what a handler can reach: logger, stores, topics, its trigger and its input.

A context is attached to a transport by the trace context under which its calls are made. Without
one every call is an error, and there are no streams.
-/

namespace StepEngine

/-! ## Logging -/

/-- Log lines that name a step, a trace and a trigger. -/
structure StepLogger where
  step : String
  traceId : String
  trigger : Option TriggerKind
  deriving DecidableEq

namespace StepLogger

def fields (l : StepLogger) : List (String × Json) := [
  ("step", .string l.step),
  ("trace_id", .string l.traceId),
  ("trigger", .string ((l.trigger.map TriggerKind.name).getD "none"))]

def entry (l : StepLogger) (level : LogLevel) (message : String) : LogEntry :=
  ⟨level, message, l.fields⟩

def entryWith (l : StepLogger) (message : String) (data : Json) : LogEntry :=
  ⟨.info, message, l.fields ++ [("data", .string data.render)]⟩

def write (l : StepLogger) (level : LogLevel) (message : String) : Activity Unit :=
  .log (l.entry level message) (.done ())

def writeWith (l : StepLogger) (message : String) (data : Json) : Activity Unit :=
  .log (l.entryWith message data) (.done ())

end StepLogger

/-! ## Stores -/

/-- A call under a trace context, or the error of a context without one. -/
def operate (parent : Option TraceContext) (name : String) (payload : List (String × Json))
    (attributes : List (String × String)) : Activity Json :=
  match parent with
  | some parent => .perform ⟨name, .ofMembers payload, attributes, parent⟩
  | none => .fail (.configuration (.unattached name))

/-- The items of an answer: none for `null`. -/
def itemsOf (decode : Decoder α) : Json → Activity (List α)
  | .null => .done []
  | v => .ofExcept (StepError.decoded (Decode.list decode v))

/-- Values by scope and key. -/
structure StateStore where
  parent : Option TraceContext

namespace StateStore

def scopeAttribute (scope : String) : String × String := ("kikkake.state.scope", scope)

def keyAttribute (key : String) : String × String := ("kikkake.state.key", key)

def operateAt (s : StateStore) (name scope key : String) (more : List (String × Json)) :
    Activity Json :=
  operate s.parent name ([("scope", .string scope), ("key", .string key)] ++ more)
    [scopeAttribute scope, keyAttribute key]

def get (s : StateStore) (scope key : String) : Activity (Option Json) :=
  (s.operateAt "state::get" scope key []).bind fun v => .done v.nonNull?

def set (s : StateStore) (scope key : String) (data : Json) : Activity Json :=
  s.operateAt "state::set" scope key [("data", data)]

def update (s : StateStore) (scope key : String) (ops : List UpdateOp) : Activity Json :=
  s.operateAt "state::update" scope key [("ops", .array (ops.map UpdateOp.encode))]

/-- Deletes a key; the answer is the value it had. -/
def delete (s : StateStore) (scope key : String) : Activity (Option Json) :=
  (s.operateAt "state::delete" scope key []).bind fun v => .done v.nonNull?

def list (s : StateStore) (scope : String) : Activity (List Json) :=
  (operate s.parent "state::list" [("scope", .string scope)] [scopeAttribute scope]).bind
    (itemsOf Decode.any)

def listGroups (s : StateStore) : Activity (List String) :=
  (operate s.parent "state::list_groups" [] []).bind (itemsOf Decode.text)

/-- The id of an item, if it is a text. -/
def itemId? (item : Json) : Option String :=
  (item.get? "id").bind Json.asString?

/-- Deletes keys in order, up to the first failure. -/
def deleteAll (s : StateStore) (scope : String) : List String → Activity Unit
  | [] => .done ()
  | key :: keys => (s.delete scope key).bind fun _ => deleteAll s scope keys

/-- Deletes the items of a scope that have an id. -/
def clear (s : StateStore) (scope : String) : Activity Unit :=
  (s.list scope).bind fun items => s.deleteAll scope (items.filterMap itemId?)

end StateStore

structure StreamStore where
  name : String
  parent : TraceContext

namespace StreamStore

def operateAt (s : StreamStore) (operation : String) (group item : Option String)
    (more : List (String × Json)) : Activity Json :=
  operate (some s.parent) operation
    ([("stream_name", .string s.name)] ++
      (group.map fun g => ("group_id", Json.string g)).toList ++
      (item.map fun i => ("item_id", Json.string i)).toList ++ more)
    ([("kikkake.stream.name", s.name)] ++
      (group.map fun g => ("kikkake.stream.group_id", g)).toList ++
      (item.map fun i => ("kikkake.stream.item_id", i)).toList)

def get (s : StreamStore) (group item : String) : Activity (Option Json) :=
  (s.operateAt "stream::get" group item []).bind fun v => .done v.nonNull?

def set (s : StreamStore) (group item : String) (data : Json) : Activity Json :=
  s.operateAt "stream::set" group item [("data", data)]

def update (s : StreamStore) (group item : String) (ops : List UpdateOp) : Activity Json :=
  s.operateAt "stream::update" group item [("ops", .array (ops.map UpdateOp.encode))]

def delete (s : StreamStore) (group item : String) : Activity Unit :=
  (s.operateAt "stream::delete" group item []).bind fun _ => .done ()

def list (s : StreamStore) (group : String) : Activity (List Json) :=
  (s.operateAt "stream::list" group none []).bind (itemsOf Decode.any)

def listGroups (s : StreamStore) : Activity (List String) :=
  (s.operateAt "stream::list_groups" none none []).bind (itemsOf Decode.text)

end StreamStore

/-! ## Contexts -/

structure Attachment where
  trace : TraceContext
  streams : List String
  deriving DecidableEq

/-- What a handler can reach. -/
structure FlowContext where
  traceId : String
  attachment : Option Attachment
  logger : StepLogger
  trigger : TriggerInfo
  input : Option TriggerInput

namespace FlowContext

/-- A context without a transport, for a trace. -/
def unattached (trigger : TriggerInfo) (traceId : String) : FlowContext :=
  ⟨traceId, none, ⟨"detached", traceId, some trigger.kind⟩, trigger, none⟩

/-- A context without a transport and a trace. -/
def detached (kind : TriggerKind) : FlowContext :=
  unattached (.new kind) ""

def attached (step : String) (trigger : TriggerInfo) (trace : TraceContext)
    (streams : List String) (input : TriggerInput) : FlowContext :=
  ⟨trace.traceId, some ⟨trace, streams⟩, ⟨step, trace.traceId, some trigger.kind⟩, trigger,
    some input⟩

def parent (ctx : FlowContext) : Option TraceContext :=
  ctx.attachment.map (·.trace)

/-- Puts a message on its topic. -/
def enqueue (ctx : FlowContext) (event : EnqueueEvent) : Activity Unit :=
  match ctx.parent with
  | some parent =>
    (Activity.perform
      ⟨"enqueue", event.encode, [("kikkake.queue.topic", event.topic)], parent⟩).bind
      fun _ => .done ()
  | none => .fail (.configuration (.unattached "enqueue"))

def state (ctx : FlowContext) : StateStore := ⟨ctx.parent⟩

def streamNames (ctx : FlowContext) : List String :=
  (ctx.attachment.map (·.streams)).getD []

def stream (ctx : FlowContext) (name : String) : Except StepError StreamStore :=
  match ctx.attachment with
  | some a =>
    if a.streams.contains name then .ok ⟨name, a.trace⟩
    else .error (.configuration (.unknownStream name))
  | none => .error (.configuration (.unknownStream name))

def isKind (ctx : FlowContext) (kind : TriggerKind) : Bool :=
  ctx.trigger.kind == kind

end FlowContext

end StepEngine
