import StepEngine.Engine.Run
import StepEngine.Handler
import StepEngine.Schema.Check
import StepEngine.Trigger.Basic
/-!
# Dispatching an invocation

* `TriggerHandler` : the handler of a step, for one of its triggers;
* `TriggerHandler.invoke` : one invocation of it, inside a span: the payload is decoded, checked
  against the schema of the trigger and gated by the condition, unless the transport has evaluated
  it; then the handler runs, for a route with the middleware around it;
* `TriggerGate` : the condition of a trigger as a function of its own;
* `TriggerGate.evaluate` : the answer of the condition to a payload.
-/

namespace StepEngine

/-- The handler of a step, for one of its triggers. -/
structure TriggerHandler where
  step : String
  trigger : Trigger
  index : Nat
  handler : Handler

namespace TriggerHandler

variable {τ : Type}

/-- The method and the path of a route, as fields of a span. -/
def routeFields : Trigger → List (String × Json)
  | .http t => [("http.method", t.method.encode), ("http.route", .string t.path)]
  | _ => []

def spanFields (w : TriggerHandler) (trace : TraceContext) (parent : Option TraceContext) :
    List (String × Json) :=
  Span.openFields .step ("step:" ++ w.step) trace ++
    [("kikkake.step.name", .string w.step), ("kikkake.trigger.type", w.trigger.kind.encode)] ++
    routeFields w.trigger ++
    Span.textField "parent_span_id" (parent.map (·.spanId))

def failureEntry (w : TriggerHandler) (error : StepError) : LogEntry :=
  ⟨.error, "Step invocation failed",
    [("step", .string w.step), ("trigger", w.trigger.kind.encode),
      ("error", .string error.message)]⟩

/-- The log line about an input that the condition does not let through. -/
def skipEntry (w : TriggerHandler) : LogEntry :=
  ⟨.debug, "Condition not met, handler skipped", [("step", .string w.step)]⟩

/-- An input as a schema gives it back. The body of a request is taken out for the check, and what
the schema gives back is put in its place. -/
def validate (w : TriggerHandler) (schema : Schema) : TriggerInput → Except Refusal TriggerInput
  | .http request =>
    let taken := request.withBody .null
    (schema.validate ("http:" ++ w.step) request.body).map fun body => .http (taken.withBody body)
  | .queue payload => (schema.validate ("queue:" ++ w.step) payload).map .queue
  | other => .ok other

/-- An input as the schema of the trigger gives it back, if the trigger has one. -/
def check (w : TriggerHandler) (input : TriggerInput) : Run τ TriggerInput :=
  match w.trigger.inputSchema with
  | none => Run.done input
  | some schema =>
    match w.validate schema input with
    | .ok validated => Run.done validated
    | .error refusal => (Run.log refusal.entry).bind fun _ => Run.fail refusal.error

def context (w : TriggerHandler) (engine : Engine) (trace : TraceContext)
    (input : TriggerInput) : FlowContext :=
  .attached w.step (w.trigger.info w.index) trace engine.streamNames input

def letsThrough (w : TriggerHandler) (conditionsChecked : Bool) (input : TriggerInput)
    (ctx : FlowContext) : Activity Bool :=
  if conditionsChecked then .done true
  else
    match w.trigger.condition with
    | some condition => condition input ctx
    | none => .done true

/-- What is done with an input that was let through, and what the transport is told. -/
def work (w : TriggerHandler) (input : TriggerInput) (ctx : FlowContext) : Activity Json :=
  match w.trigger, input with
  | .http t, .http request =>
    if t.middleware.isEmpty then
      (w.handler (.http request) ctx).bind fun output => .done output.toResponse.encode
    else
      (Middleware.compose t.middleware ctx w.handler request).bind fun response =>
        .done response.encode
  | .http _, input => (w.handler input ctx).bind fun output => .done output.toResponse.encode
  | _, input => (w.handler input ctx).bind fun output => .done output.toJson

/-- The steps of an invocation inside its span. -/
def run (w : TriggerHandler) (invocation : Invocation) (trace : TraceContext) : Run τ Json :=
  (Run.ofExcept (TriggerInput.decode w.trigger.kind invocation.payload)).bind fun decoded =>
  (w.check decoded).bind fun input =>
  Run.engine.bind fun engine =>
  let ctx := w.context engine trace input
  (w.letsThrough invocation.conditionsChecked input ctx).run.bind fun admitted =>
  if admitted then (w.work input ctx).run
  else (Run.log w.skipEntry).bind fun _ => Run.done .null

def invoke (w : TriggerHandler) (invocation : Invocation) : Run τ Json :=
  (Run.continueTrace invocation.parent).bind fun trace =>
    Run.inSpan .step ("step:" ++ w.step) (w.spanFields trace invocation.parent)
      (fun error => some (w.failureEntry error)) (w.run invocation trace)

end TriggerHandler

structure TriggerGate where
  step : String
  trigger : TriggerInfo
  condition : Condition

namespace TriggerGate

variable {τ : Type}

def visibleMembers : List String :=
  ["path_params", "pathParams", "query_params", "queryParams", "body", "headers"]

/-- The request that a condition sees. A payload that is no object is its body. -/
def requestView : Json → Except StepError ApiRequest
  | .object members =>
    StepError.decoded (ApiRequest.decode
      (.object (members.filter fun m => visibleMembers.contains m.1)))
  | body => .ok (ApiRequest.empty.withBody body)

def inputView (kind : TriggerKind) (payload : Json) : Except StepError TriggerInput :=
  match kind with
  | .http => (requestView payload).map .http
  | kind => TriggerInput.decode kind payload

def answerEntry (g : TriggerGate) (passed : Bool) : LogEntry :=
  ⟨.debug, "Condition evaluated", [("step", .string g.step), ("passed", .bool passed)]⟩

def evaluate (g : TriggerGate) (invocation : Invocation) : Run τ Json :=
  (Run.ofExcept (inputView g.trigger.kind invocation.payload)).bind fun input =>
  (Run.continueTrace invocation.parent).bind fun trace =>
  Run.engine.bind fun engine =>
  let ctx := FlowContext.attached g.step g.trigger trace engine.streamNames input
  (g.condition input ctx).run.bind fun passed =>
  (Run.log (g.answerEntry passed)).bind fun _ => Run.done (.bool passed)

end TriggerGate

end StepEngine
