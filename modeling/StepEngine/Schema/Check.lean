import StepEngine.Activity
import StepEngine.Schema.Basic
import StepEngine.Schema.Compile
/-!
# Checking a payload

* `Refusal` : why a payload is refused, and the log line about it;
* `Schema.validate` : a payload as its schema gives it back, or its refusal;
* `Schema.refusal?` : the refusal alone.

A declarative schema that does not compile refuses every payload.
-/

namespace StepEngine

/-- Why a payload is refused, and the log line about it. -/
structure Refusal where
  error : StepError
  entry : LogEntry
  deriving DecidableEq

namespace Refusal

/-- The log line about a refusal. -/
def line (label schema cause message : String) : LogEntry :=
  ⟨.error, message,
    [("label", .string label), ("schema", .string schema), ("error", .string cause)]⟩

def ofType (label : String) (schema : TypedSchema) (cause : DecodeError) : Refusal :=
  ⟨.validation label cause.message,
    line label schema.typeName cause.message "Typed input validation failed"⟩

def ofFault (label : String) (schema : Json) (fault : CompileFault) : Refusal :=
  ⟨.configuration (.schema label fault),
    line label schema.render fault.message "JSON Schema does not compile"⟩

/-- Findings in words, one after the other. -/
def details (findings : List Finding) : String :=
  "; ".intercalate (findings.map Finding.message)

def ofFindings (label : String) (schema : Json) (findings : List Finding) : Refusal :=
  ⟨.validation label (details findings),
    line label schema.render (details findings) "JSON Schema validation failed"⟩

end Refusal

namespace Schema

/-- A payload as its schema gives it back, or why it is refused; the label says whose payload it is. -/
def validate (s : Schema) (label : String) (value : Json) : Except Refusal Json :=
  match s with
  | .typed schema =>
    match schema.decode value with
    | .ok () => .ok value
    | .error cause => .error (.ofType label schema cause)
  | .json schema =>
    match schema.compile with
    | .error fault => .error (.ofFault label schema fault)
    | .ok document =>
      match document.findings value with
      | [] => .ok value
      | findings => .error (.ofFindings label schema findings)

def refusal? (s : Schema) (label : String) (value : Json) : Option Refusal :=
  match s.validate label value with
  | .ok _ => none
  | .error refusal => some refusal

end Schema

end StepEngine
