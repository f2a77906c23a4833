import StepEngine.Trigger.Codec
/-!
# Configurations of steps

* `EnqueueTopic` : a topic that a step declares to publish on;
* `StepConfig` : the name, the triggers and the declared outputs of a step;
* `StepConfig.decode`, `encode` : a configuration as a value; older spellings are read, activities
  are not part of the value;
* `StepConfig.metadata` : the value with the path of the source;
* `StepConfig.ofJson` : a configuration from loose JSON.
-/

namespace StepEngine

/-- A topic that a step declares to publish on. -/
inductive EnqueueTopic where
  | plain (topic : String)
  | detailed (topic : String) (label : Option String) (conditional : Bool)
  deriving DecidableEq

namespace EnqueueTopic

def topic : EnqueueTopic → String
  | plain topic => topic
  | detailed topic _ _ => topic

def record : Record [String, Option String, Bool] where
  description := "struct variant EnqueueTopic::Detailed"
  closed := false
  fields :=
    .cons (.required "topic" Decode.text []) <|
    .cons (.optional "label" Decode.text []) <|
    .cons (.defaulted "conditional" Decode.boolean false []) .nil

/-- A text, or an object with details; a list is neither. -/
def decode : Decoder EnqueueTopic
  | .string topic => .ok (plain topic)
  | .object members =>
    match record.decode .setAside (.object members) with
    | .ok (topic, label, conditional, ()) => .ok (detailed topic label conditional)
    | .error _ => .error (.noAlternative "EnqueueTopic")
  | _ => .error (.noAlternative "EnqueueTopic")

def encode : EnqueueTopic → Json
  | plain topic => .string topic
  | detailed topic label conditional =>
    .object ([("conditional", .bool conditional)] ++ TriggerInfo.textMember "label" label ++
      [("topic", .string topic)])

end EnqueueTopic

/-- The configuration of a step. The order of the triggers gives each its index. -/
structure StepConfig where
  name : String
  triggers : List Trigger
  enqueues : List EnqueueTopic
  virtualEnqueues : List EnqueueTopic
  virtualSubscribes : List String
  description : Option String
  flows : List String
  includeFiles : List String
  infrastructure : Option Infrastructure

namespace StepConfig

def new (name : String) : StepConfig :=
  ⟨name, [], [], [], [], none, [], [], none⟩

def record : Record [String, List Trigger, List EnqueueTopic, List EnqueueTopic, List String,
    Option String, List String, List String, Option Infrastructure] where
  description := "struct StepConfig"
  closed := false
  fields :=
    .cons (.required "name" Decode.text []) <|
    .cons (.required "triggers" (Decode.list Trigger.decode) []) <|
    .cons (.defaulted "enqueues" (Decode.list EnqueueTopic.decode) [] ["emits"]) <|
    .cons (.defaulted "virtualEnqueues" (Decode.list EnqueueTopic.decode) []
      ["virtual_enqueues", "virtualEmits", "virtual_emits"]) <|
    .cons (.defaulted "virtualSubscribes" (Decode.list Decode.text) []
      ["virtual_subscribes"]) <|
    .cons (.optional "description" Decode.text []) <|
    .cons (.defaulted "flows" (Decode.list Decode.text) [] []) <|
    .cons (.defaulted "includeFiles" (Decode.list Decode.text) [] ["include_files"]) <|
    .cons (.optional "infrastructure" (Infrastructure.decode .direct) []) .nil

def decode : Decoder StepConfig := fun v => do
  let (name, triggers, enqueues, virtualEnqueues, virtualSubscribes, description, flows,
    includeFiles, infrastructure, ()) ← record.decode .direct v
  .ok ⟨name, triggers, enqueues, virtualEnqueues, virtualSubscribes, description, flows,
    includeFiles, infrastructure⟩

/-- A configuration from loose JSON. -/
def ofJson (v : Json) : Except StepError StepConfig :=
  (decode v).mapError fun cause => .configuration (.stepConfig cause)

def listMember (key : String) (encode : α → Json) (items : List α) : List (String × Json) :=
  if items.isEmpty then [] else [(key, .array (items.map encode))]

/-- The members of a configuration, in the order of their keys. -/
def members (c : StepConfig) : List (String × Json) :=
  TriggerInfo.textMember "description" c.description ++
  listMember "enqueues" EnqueueTopic.encode c.enqueues ++
  listMember "flows" Json.string c.flows ++
  listMember "includeFiles" Json.string c.includeFiles ++
  (c.infrastructure.map fun i => ("infrastructure", i.encode)).toList ++
  [("name", .string c.name), ("triggers", .array (c.triggers.map Trigger.encode))] ++
  listMember "virtualEnqueues" EnqueueTopic.encode c.virtualEnqueues ++
  listMember "virtualSubscribes" Json.string c.virtualSubscribes

/-- The value of a configuration: empty lists and absent fields are left out. -/
def encode (c : StepConfig) : Json := .object c.members

/-- The value of a configuration with the path of its source. -/
def metadata (c : StepConfig) (filePath : String) : Json :=
  c.encode.withMember "filePath" (.string filePath)

/-- The configuration without activities, typed schemas as their renderings. -/
def plain (c : StepConfig) : StepConfig :=
  { c with triggers := c.triggers.map Trigger.plain }

/-! ## Building a configuration -/

def withTrigger (c : StepConfig) (t : Trigger) : StepConfig :=
  { c with triggers := c.triggers ++ [t] }

def withEnqueue (c : StepConfig) (t : EnqueueTopic) : StepConfig :=
  { c with enqueues := c.enqueues ++ [t] }

/-- Adds a topic that only diagrams show. -/
def withVirtualEnqueue (c : StepConfig) (t : EnqueueTopic) : StepConfig :=
  { c with virtualEnqueues := c.virtualEnqueues ++ [t] }

/-- Adds a subscription that only diagrams show. -/
def withVirtualSubscribe (c : StepConfig) (topic : String) : StepConfig :=
  { c with virtualSubscribes := c.virtualSubscribes ++ [topic] }

def withFlow (c : StepConfig) (flow : String) : StepConfig :=
  { c with flows := c.flows ++ [flow] }

def withIncludeFile (c : StepConfig) (path : String) : StepConfig :=
  { c with includeFiles := c.includeFiles ++ [path] }

/-! ## Questions about a configuration -/

def hasKind (c : StepConfig) (kind : TriggerKind) : Bool :=
  c.triggers.any fun t => t.kind == kind

/-- A step without triggers, kept for documentation. -/
def isIdle (c : StepConfig) : Bool :=
  c.triggers.isEmpty

def httpTriggers (c : StepConfig) : List HttpTrigger :=
  c.triggers.filterMap fun | .http t => some t | _ => none

def queueTriggers (c : StepConfig) : List QueueTrigger :=
  c.triggers.filterMap fun | .queue t => some t | _ => none

def cronTriggers (c : StepConfig) : List CronTrigger :=
  c.triggers.filterMap fun | .cron t => some t | _ => none

def stateTriggers (c : StepConfig) : List StateTrigger :=
  c.triggers.filterMap fun | .state t => some t | _ => none

def streamTriggers (c : StepConfig) : List StreamTrigger :=
  c.triggers.filterMap fun | .stream t => some t | _ => none

end StepConfig

end StepEngine
