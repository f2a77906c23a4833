import StepEngine.Files
import StepEngine.Schema.Basic
import StepEngine.Settings
import StepEngine.Transport.Call
/-!
# The state of an engine

* `StreamConfig` : a stream and the schema of its items;
* `StepSource` : where a registered step was defined;
* `Engine` : settings, interceptors, streams by name and step sources by id;
* `Engine.stepNames`, `streamNames` : the names, ascending and each once.
-/

namespace StepEngine

structure StreamConfig where
  name : String
  schema : Option Schema

/-- Where a registered step was defined. -/
structure StepSource where
  name : String
  filePath : String
  deriving DecidableEq

/-- Sources by the id of their step, written with hyphens; the order of these texts is that of the
ids. -/
abbrev StepSources := Dict StepSource

structure Engine where
  settings : Settings
  interceptors : List Interceptor
  streams : Dict StreamConfig
  sources : StepSources

namespace Engine

def streamNames (e : Engine) : List String := e.streams.keys

def stepNames (e : Engine) : List String :=
  (SortedMap.ofList (e.sources.values.map fun s => (s.name, ()))).keys

/-- Adds a stream in the place of one of its name. -/
def withStream (e : Engine) (c : StreamConfig) : Engine :=
  { e with streams := e.streams.insert c.name c }

def withSource (e : Engine) (source : StepSource) : Engine :=
  { e with sources := e.sources.insert (stepId source.filePath).hyphenated source }

def source? (e : Engine) (id : Uuid) : Option StepSource :=
  e.sources.find? id.hyphenated

end Engine

end StepEngine
