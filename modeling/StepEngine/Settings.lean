/-!
# Settings of an engine

* `Settings` : the name of the service, the address to connect to, the log filter, and whether the
  step endpoints are set up;
* `Settings.ofVariables` : settings from named variables; an absent one leaves the default.
-/

namespace StepEngine

structure Settings where
  serviceName : String
  engineUrl : String
  logFilter : String
  stepEndpoint : Bool
  deriving DecidableEq

namespace Settings

def standard : Settings := ⟨"kikkake", "ws://localhost:49134", "info", false⟩

instance : Inhabited Settings := ⟨standard⟩

/-- A text that turns something on, in any case. -/
def isOn (text : String) : Bool :=
  ["1", "true", "yes", "on"].contains text.toLower

def ofVariables (valueOf : String → Option String) : Settings where
  serviceName := (valueOf "KIKKAKE_SERVICE_NAME").getD standard.serviceName
  engineUrl := (valueOf "KIKKAKE_ENGINE_URL").getD standard.engineUrl
  logFilter := (valueOf "KIKKAKE_LOG").getD standard.logFilter
  stepEndpoint := ((valueOf "KIKKAKE_STEP_ENDPOINT").map isOn).getD standard.stepEndpoint

end Settings

end StepEngine
