import StepEngine.Step.Definition
/-!
# Registrations of triggers

A trigger of a step is registered with the transport under an id that is made from the name of the
step and the descriptor of the trigger. A trigger whose descriptor an earlier one has gets its index
at the end of its id.

* `KindConfig` : what the transport needs to know to fire a trigger;
* `RegistrationRecord` : all that is registered for a trigger;
* `TriggerRegistration` : a record as the transport takes it;
* `StepConfig.registrations` : the records of a step, in the order of its triggers;
* `StepConfig.duplicateWarnings` : a log line for each descriptor that comes again.
-/

namespace StepEngine

/-- What the transport needs to know to fire a trigger. -/
inductive KindConfig where
  /-- The path is without slashes at its start. -/
  | http (apiPath : String) (method : HttpMethod)
  | queue (topic : String)
  | cron (expression : String)
  | state
  | stream (streamName : String) (groupId itemId : Option String)
  deriving DecidableEq

namespace KindConfig

def kind : KindConfig → TriggerKind
  | http _ _ => .http
  | queue _ => .queue
  | cron _ => .cron
  | state => .state
  | stream _ _ _ => .stream

/-- A path without the slashes at its start. -/
def dropSlashes (path : String) : String :=
  String.ofList (path.toList.dropWhile (· == '/'))

def ofTrigger : Trigger → KindConfig
  | .http t => http (dropSlashes t.path) t.method
  | .queue t => queue t.topic
  | .cron t => cron t.expression
  | .state _ => state
  | .stream t => stream t.streamName t.groupId t.itemId

/-- The entries of a registration that come from the kind. -/
def members : KindConfig → List (String × Json)
  | http apiPath method => [("api_path", .string apiPath), ("http_method", method.encode)]
  | queue topic => [("topic", .string topic)]
  | cron expression => [("expression", .string expression)]
  | state => []
  | stream streamName groupId itemId =>
    [("stream_name", .string streamName)] ++ TriggerInfo.textMember "group_id" groupId ++
      TriggerInfo.textMember "item_id" itemId

end KindConfig

/-- Tells the transport when to invoke a function. -/
structure TriggerRegistration where
  kind : TriggerKind
  functionId : String
  config : Dict Json
  deriving DecidableEq

/-- All that is registered for a trigger of a step. -/
structure RegistrationRecord where
  functionId : String
  kindConfig : KindConfig
  /-- The configuration of the whole step, for tools that look into it. -/
  metadata : Json
  /-- The id of the function that evaluates the condition, if there is one. -/
  conditionId : Option String
  deriving DecidableEq

namespace RegistrationRecord

/-- The entry of a registration that names the function of the condition. -/
def conditionKey : String := "condition_function_id"

def members (r : RegistrationRecord) : List (String × Json) :=
  r.kindConfig.members ++ [("metadata", r.metadata)] ++
    TriggerInfo.textMember conditionKey r.conditionId

/-- The record as the transport takes it. -/
def toTriggerRegistration (r : RegistrationRecord) : TriggerRegistration :=
  ⟨r.kindConfig.kind, r.functionId, .ofList r.members⟩

end RegistrationRecord

namespace StepConfig

def baseId (step descriptor : String) : String :=
  "steps::" ++ step ++ "::trigger::" ++ descriptor

/-- The id of a trigger: its index stands at the end if its descriptor has come before. -/
def functionId (step : String) (seen : List String) (index : Nat) (descriptor : String) : String :=
  if seen.contains descriptor then baseId step descriptor ++ "::" ++ toString index
  else baseId step descriptor

def conditionId (functionId : String) (index : Nat) : String :=
  functionId ++ "::conditions::" ++ toString index

def recordOf (step : String) (metadata : Json) (seen : List String) (index : Nat) (t : Trigger) :
    RegistrationRecord :=
  let id := functionId step seen index t.descriptor
  { functionId := id
    kindConfig := .ofTrigger t
    metadata := metadata
    conditionId := t.condition.map fun _ => conditionId id index }

/-- The records of triggers, after triggers with the descriptors `seen`. -/
def recordsFrom (step : String) (metadata : Json) :
    (seen : List String) → (index : Nat) → List Trigger → List RegistrationRecord
  | _, _, [] => []
  | seen, index, t :: rest =>
    recordOf step metadata seen index t ::
      recordsFrom step metadata (t.descriptor :: seen) (index + 1) rest

/-- The records of a step, in the order of its triggers. -/
def registrations (c : StepConfig) (filePath : String) : List RegistrationRecord :=
  recordsFrom c.name (c.metadata filePath) [] 0 c.triggers

/-- The log line about a descriptor that comes again. -/
def duplicateWarning (step descriptor : String) (index : Nat) : LogEntry :=
  ⟨.warn, "Duplicate trigger, disambiguating function id with its index",
    [("step", .string step), ("descriptor", .string descriptor), ("index", .ofNat index)]⟩

/-- A log line for each trigger whose descriptor has come before. -/
def warningsFrom (step : String) :
    (seen : List String) → (index : Nat) → List Trigger → List LogEntry
  | _, _, [] => []
  | seen, index, t :: rest =>
    (if seen.contains t.descriptor then [duplicateWarning step t.descriptor index] else []) ++
      warningsFrom step (t.descriptor :: seen) (index + 1) rest

/-- The log lines about descriptors that come again. -/
def duplicateWarnings (c : StepConfig) : List LogEntry :=
  warningsFrom c.name [] 0 c.triggers

end StepConfig

end StepEngine
