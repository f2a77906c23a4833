import StepEngine.Cron
import StepEngine.Schema.Structure
import StepEngine.Step.Config
import StepEngine.Text.Blank
/-!
# What is wrong with a configuration

* `ConfigProblem` : the ways in which a configuration can be wrong, with their wording;
* `Trigger.problems` : the problems of a trigger at an index;
* `StepConfig.problems` : all problems of a configuration, in order;
* `StepConfig.validated` : a configuration without problems, or the error that lists them.

Only declarative schemas are looked into: a typed schema is sound by itself.
-/

namespace StepEngine

/-- A way in which a configuration is wrong. The index is that of a trigger. -/
inductive ConfigProblem where
  | blankName
  | relativePath (index : Nat) (path : String)
  | blankTopic (index : Nat)
  | badSchedule (index : Nat) (expression : String)
  | blankStream (index : Nat)
  /-- A problem of the schema in a field of a trigger. -/
  | schema (index : Nat) (field problem : String)
  | blankEnqueue
  deriving DecidableEq

namespace ConfigProblem

/-- Where a trigger stands in its step. -/
def place (index : Nat) : String := "triggers[" ++ toString index ++ "]"

def message : ConfigProblem → String
  | blankName => "Step name cannot be empty"
  | relativePath index path =>
    place index ++ ": HTTP path '" ++ path ++ "' must start with '/'"
  | blankTopic index => place index ++ ": queue topic cannot be empty"
  | badSchedule index expression =>
    place index ++ ": invalid cron expression '" ++ expression ++
      "': Invalid expression: Invalid cron expression."
  | blankStream index => place index ++ ": stream name cannot be empty"
  | schema index field problem => place index ++ "." ++ field ++ ": " ++ problem
  | blankEnqueue => "Enqueued topics cannot be empty"

end ConfigProblem

def Schema.problems : Schema → List String
  | .json v => Structure.problems v
  | .typed _ => []

namespace Trigger

def schemaProblems (index : Nat) (field : String) (s : Schema) : List ConfigProblem :=
  s.problems.map (.schema index field)

def problems (index : Nat) : Trigger → List ConfigProblem
  | http t =>
    (if t.path.toList.head? = some '/' then [] else [.relativePath index t.path]) ++
    t.bodySchema.toList.flatMap (schemaProblems index "bodySchema") ++
    t.responseSchemas.entries.flatMap fun (status, schema) =>
      schemaProblems index ("responseSchema." ++ Status.spell status) schema
  | queue t =>
    (if Text.isAllBlank t.topic then [.blankTopic index] else []) ++
    t.input.toList.flatMap (schemaProblems index "input")
  | cron t => if Cron.isValid t.expression then [] else [.badSchedule index t.expression]
  | state _ => []
  | stream t => if Text.isAllBlank t.streamName then [.blankStream index] else []

/-- The problems of triggers, the first of them at an index. -/
def allProblems : (index : Nat) → List Trigger → List ConfigProblem
  | _, [] => []
  | index, t :: rest => t.problems index ++ allProblems (index + 1) rest

end Trigger

namespace StepConfig

def problems (c : StepConfig) : List ConfigProblem :=
  (if Text.isAllBlank c.name then [.blankName] else []) ++
  Trigger.allProblems 0 c.triggers ++
  (c.enqueues ++ c.virtualEnqueues).flatMap fun t =>
    if Text.isAllBlank t.topic then [.blankEnqueue] else []

def problemTexts (c : StepConfig) : List String :=
  c.problems.map ConfigProblem.message

/-- The configuration itself when it has no problems. -/
def validated (c : StepConfig) : Except StepError StepConfig :=
  if c.problems.isEmpty then .ok c else .error (.invalidStep c.name c.problemTexts)

end StepConfig

end StepEngine
