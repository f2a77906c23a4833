import StepEngine.Engine.Dispatch
import StepEngine.Engine.StepEndpoint
/-!
# Functions of the engine

* `EngineFunction` : what the engine registers with a transport;
* `EngineFunction.invoke` : what a function does with an invocation, after all interceptors.
-/

namespace StepEngine

/-- What the engine registers with a transport. -/
inductive EngineFunction where
  | handler (h : TriggerHandler)
  | gate (g : TriggerGate)
  | stepContent
  | stepList

namespace EngineFunction

variable {τ : Type}

/-- What a function does with an invocation that reaches it. -/
def apply : EngineFunction → Invocation → Run τ Json
  | handler h, invocation => h.invoke invocation
  | gate g, invocation => g.evaluate invocation
  | stepContent, invocation => StepEndpoint.getFunction invocation
  | stepList, _ => StepEndpoint.listFunction

/-- Leaves the remarks of interceptors in the journal. -/
def remark : List Interceptor → Run τ Unit
  | [] => Run.done ()
  | i :: rest =>
    match i.remark with
    | some text => (Run.note text).bind fun _ => remark rest
    | none => remark rest

def invoke (f : EngineFunction) (invocation : Invocation) : Run τ Json :=
  Run.engine.bind fun engine =>
    (remark engine.interceptors).bind fun _ =>
      f.apply (Interceptor.inboundAll engine.interceptors invocation)

end EngineFunction

end StepEngine
