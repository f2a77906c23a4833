import StepEngine.Step.Definition

/-!
# Building definitions

A definition is made from a configuration or from loose JSON, at once or with the handler given
later. The configuration is read and checked at the start, so a builder always has one without
problems.

* `ConfigSource` : what a definition is made from; `ConfigSource.checked` : its configuration, if it
  has no problems;
* `StepDefinition.new` : a definition at once;
* `StepBuilder` : a configuration that waits for its handler;
* `MultiTriggerBuilder` : a configuration that collects handlers for the kinds of its triggers;
  of two handlers for a kind the later stays.
-/

namespace StepEngine

inductive ConfigSource where
  | config (c : StepConfig)
  | json (v : Json)

namespace ConfigSource

def toConfig : ConfigSource → Except StepError StepConfig
  | config c => .ok c
  | json v => StepConfig.ofJson v

/-- The configuration of a source, or the error that lists its problems. -/
def checked (source : ConfigSource) : Except StepError { c : StepConfig // c.problems = [] } :=
  source.toConfig.bind fun c =>
    if h : c.problems = [] then .ok ⟨c, h⟩
    else .error (.invalidStep c.name c.problemTexts)

end ConfigSource

def StepDefinition.new (source : ConfigSource) (handler : Handler) :
    Except StepError StepDefinition :=
  source.checked.map fun c => ⟨c.1, handler, c.2⟩

/-- A configuration that waits for its handler. -/
structure StepBuilder where
  config : StepConfig
  sound : config.problems = []

namespace StepBuilder

def start (source : ConfigSource) : Except StepError StepBuilder :=
  source.checked.map fun c => ⟨c.1, c.2⟩

def handler (b : StepBuilder) (handler : Handler) : StepDefinition :=
  ⟨b.config, handler, b.sound⟩

/-- Gives a function whose results can be read as outputs. -/
def handle (b : StepBuilder) (toOutput : α → StepOutput)
    (f : TriggerInput → FlowContext → Activity α) : StepDefinition :=
  b.handler fun input ctx => (f input ctx).bind fun result => .done (toOutput result)

end StepBuilder

inductive KindHandler where
  | queue (handler : Handler)
  | http (handler : Handler)
  | cron (handler : TickHandler)
  | state (handler : Handler)
  | stream (handler : Handler)

def KindHandlers.set (h : KindHandlers) : KindHandler → KindHandlers
  | .queue handler => h.onQueue handler
  | .http handler => h.onHttp handler
  | .cron handler => h.onCron handler
  | .state handler => h.onState handler
  | .stream handler => h.onStream handler

/-- A configuration that collects handlers. -/
structure MultiTriggerBuilder where
  config : StepConfig
  sound : config.problems = []
  handlers : KindHandlers

namespace MultiTriggerBuilder

def start (source : ConfigSource) : Except StepError MultiTriggerBuilder :=
  source.checked.map fun c => ⟨c.1, c.2, .none⟩

def on (b : MultiTriggerBuilder) (handler : KindHandler) : MultiTriggerBuilder :=
  { b with handlers := b.handlers.set handler }

/-- The definition with the handlers that were given. -/
def build (b : MultiTriggerBuilder) : StepDefinition :=
  ⟨b.config, b.handlers.dispatch, b.sound⟩

/-- The definition with further handlers in the place of those that were given. -/
def buildOver (b : MultiTriggerBuilder) (handlers : KindHandlers) : StepDefinition :=
  build { b with handlers := handlers.orElse b.handlers }

end MultiTriggerBuilder

end StepEngine
