import StepEngine.Handler.ByKind
import StepEngine.Step.Problem
/-!
# Definitions of steps

* `StepDefinition` : a configuration without problems and what the step does;
* `StepConfig.define` : the definition of a configuration, or the error that lists its problems;
* `StepConfig.defineByKind` : the same with a handler for each kind of trigger.
-/

namespace StepEngine

/-- A configuration without problems and what the step does. -/
structure StepDefinition where
  config : StepConfig
  handler : Handler
  sound : config.problems = []

namespace StepConfig

def define (c : StepConfig) (handler : Handler) : Except StepError StepDefinition :=
  if h : c.problems = [] then .ok ⟨c, handler, h⟩
  else .error (.invalidStep c.name c.problemTexts)

/-- The definition of a step with a handler for each kind of trigger. -/
def defineByKind (c : StepConfig) (handlers : KindHandlers) : Except StepError StepDefinition :=
  c.define handlers.dispatch

end StepConfig

end StepEngine
