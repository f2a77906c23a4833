import StepEngine.Step.Registration
import StepEngine.Transport.Call
/-!
# A transport that records

`Recorder φ` keeps everything that is registered with it and every call, and answers calls as it was
told to; `φ` is the type of the functions.

* `Recorder.registerFunction`, `registerTrigger` : registrations; a refused one changes nothing;
* `Recorder.call` : an answer, and the recorder with the call;
* `Recorder.respondWith`, `failWith`, `rejectRegistration` : what to answer from now on;
* `Recorder.function?` : the function of an id.
-/

namespace StepEngine

/-- Everything registered and called, and what to answer. -/
structure Recorder (φ : Type) where
  /-- The functions by id, in the order in which the ids came first. -/
  functions : List (String × φ)
  triggers : List TriggerRegistration
  calls : List OutboundCall
  responses : Dict Json
  failures : Dict String
  rejections : Dict String

namespace Recorder

variable {φ : Type}

def empty : Recorder φ := ⟨[], [], [], .empty, .empty, .empty⟩

instance : Inhabited (Recorder φ) := ⟨empty⟩

/-- Every later call of an operation is answered with a value. -/
def respondWith (r : Recorder φ) (operation : String) (value : Json) : Recorder φ :=
  { r with responses := r.responses.insert operation value }

/-- Every later call of an operation fails. -/
def failWith (r : Recorder φ) (operation details : String) : Recorder φ :=
  { r with failures := r.failures.insert operation details }

/-- Every later registration under an id fails. -/
def rejectRegistration (r : Recorder φ) (id details : String) : Recorder φ :=
  { r with rejections := r.rejections.insert id details }

def refusal? (r : Recorder φ) (operation id : String) : Option StepError :=
  (r.rejections.find? id).map (.transport operation)

/-- A function put in the place of one with the same id, or at the end. -/
def put (id : String) (f : φ) : List (String × φ) → List (String × φ)
  | [] => [(id, f)]
  | (other, g) :: rest =>
    if other = id then (id, f) :: rest else (other, g) :: put id f rest

/-- Registers a function; it takes the place of an earlier one with its id. -/
def registerFunction (r : Recorder φ) (id : String) (f : φ) : Except StepError (Recorder φ) :=
  match r.refusal? "register_function" id with
  | some error => .error error
  | none => .ok { r with functions := put id f r.functions }

/-- Registers a trigger after all others. -/
def registerTrigger (r : Recorder φ) (t : TriggerRegistration) : Except StepError (Recorder φ) :=
  match r.refusal? "register_trigger" t.functionId with
  | some error => .error error
  | none => .ok { r with triggers := r.triggers ++ [t] }

/-- The answer to a call of an operation: a failure first, then a value, then `null`. -/
def answer (r : Recorder φ) (operation : String) : Except StepError Json :=
  match r.failures.find? operation with
  | some details => .error (.transport operation details)
  | none => .ok ((r.responses.find? operation).getD .null)

def call (r : Recorder φ) (call : OutboundCall) : Except StepError Json × Recorder φ :=
  (r.answer call.operation, { r with calls := r.calls ++ [call] })

def functionIds (r : Recorder φ) : List String :=
  r.functions.map (·.1)

def function? (r : Recorder φ) (id : String) : Option φ :=
  r.functions.lookup id

/-- The first registration of a trigger for an id. -/
def triggerFor? (r : Recorder φ) (id : String) : Option TriggerRegistration :=
  r.triggers.find? fun t => t.functionId == id

def callsTo (r : Recorder φ) (operation : String) : List OutboundCall :=
  r.calls.filter fun c => c.operation == operation

end Recorder

end StepEngine
