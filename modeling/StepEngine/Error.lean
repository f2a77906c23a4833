import StepEngine.Decode.Error
import StepEngine.Json.Reader
import StepEngine.Trigger.Kind
import StepEngine.Schema.Compile
/-!
# Errors of steps

* `ConfigurationFault` : what is wrong with a configuration;
* `SerializationFault` : why a text or a value could not be decoded;
* `StepError` : everything that can go wrong in a step or in the engine;
* `StepError.message` : the wording of an error.
-/

namespace StepEngine

inductive ConfigurationFault where
  /-- A fault in words of its own. -/
  | other (details : String)
  | stepConfig (cause : DecodeError)
  | schema (label : String) (cause : CompileFault)
  | noTransport
  | unattached (operation : String)
  | unknownStream (name : String)
  | unknownFunction (id : String)
  deriving DecidableEq

def ConfigurationFault.message : ConfigurationFault → String
  | other details => details
  | stepConfig cause => "Invalid step config: " ++ cause.message
  | schema label cause => "invalid schema for " ++ label ++ ": " ++ cause.message
  | noTransport => "Transport must be specified"
  | unattached operation =>
    "'" ++ operation ++ "' is not available: context is not attached to a transport"
  | unknownStream name => "Stream '" ++ name ++ "' is not registered"
  | unknownFunction id => "Function '" ++ id ++ "' is not registered"

inductive SerializationFault where
  | text (cause : Json.ReadError)
  | value (cause : DecodeError)
  deriving DecidableEq

def SerializationFault.message : SerializationFault → String
  | text cause => cause.message
  | value cause => cause.message

inductive StepError where
  | configuration (fault : ConfigurationFault)
  | invalidStep (step : String) (problems : List String)
  | validation (label details : String)
  | noHandler (kind : TriggerKind) (available : List TriggerKind)
  | handler (step details : String)
  | transport (operation details : String)
  | serialization (fault : SerializationFault)
  deriving DecidableEq

namespace StepError

def message : StepError → String
  | configuration fault => "Invalid configuration: " ++ fault.message
  | invalidStep step problems =>
    "Invalid step config for " ++ step ++ ": " ++ ", ".intercalate problems
  | validation label details => "Validation failed for " ++ label ++ ": " ++ details
  | noHandler kind available =>
    "No handler defined for trigger type: " ++ kind.name ++ ". Available handlers: " ++
      ", ".intercalate (available.map TriggerKind.name)
  | handler step details => "Step failed: " ++ step ++ ", details: " ++ details
  | transport operation details =>
    "Transport call '" ++ operation ++ "' failed: " ++ details
  | serialization fault => "Serialization error: " ++ fault.message

/-- The payload or the body did not satisfy its schema. -/
def isValidation : StepError → Bool
  | validation _ _ => true
  | _ => false

def ofDecode (cause : DecodeError) : StepError :=
  serialization (.value cause)

/-- A decoder's answer as an answer of the engine. -/
def decoded (answer : Except DecodeError α) : Except StepError α :=
  answer.mapError ofDecode

end StepError

end StepEngine
