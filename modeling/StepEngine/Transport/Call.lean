import StepEngine.Json.Basic
import StepEngine.Trace
/-!
# What passes between the engine and a transport

* `OutboundCall` : a call to the transport;
* `Invocation` : the delivery of a payload to a function;
* `Interceptor` : what changes both on their way;
* `Interceptor.propagator` : the interceptor that writes the trace of a call into its headers, and
  reads the parent of an invocation from its headers unless it has one.
-/

namespace StepEngine

abbrev Headers := Dict String

structure OutboundCall where
  operation : String
  payload : Json
  headers : Headers
  /-- The trace context under which the call is made. -/
  trace : Option TraceContext
  deriving DecidableEq

def OutboundCall.new (operation : String) (payload : Json) (trace : Option TraceContext) :
    OutboundCall :=
  ⟨operation, payload, .empty, trace⟩

structure Invocation where
  payload : Json
  headers : Headers
  parent : Option TraceContext
  /-- The transport has evaluated the condition of the trigger. -/
  conditionsChecked : Bool
  deriving DecidableEq

/-- The delivery of a payload and nothing else. -/
def Invocation.new (payload : Json) : Invocation :=
  ⟨payload, .empty, none, false⟩

namespace TraceContext

/-- The headers with those of a trace context; a context without baggage leaves the baggage header
as it is. -/
def inject (t : TraceContext) (headers : Headers) : Headers :=
  let headers := headers.insert "traceparent" t.traceparent
  match t.baggageHeader with
  | some baggage => headers.insert "baggage" baggage
  | none => headers

def ofHeaders? (headers : Headers) : Option TraceContext :=
  extract? (headers.find? "traceparent") (headers.find? "baggage")

end TraceContext

/-- What changes calls and invocations on their way. -/
structure Interceptor where
  outbound : OutboundCall → OutboundCall
  inbound : Invocation → Invocation
  /-- The text that it leaves in the journal for each invocation. -/
  remark : Option String

namespace Interceptor

/-- The interceptor that changes nothing. -/
def idle : Interceptor := ⟨id, id, none⟩

instance : Inhabited Interceptor := ⟨idle⟩

/-- The interceptor that carries traces in headers. -/
def propagator : Interceptor where
  outbound call :=
    match call.trace with
    | some trace => { call with headers := trace.inject call.headers }
    | none => call
  inbound invocation :=
    match invocation.parent with
    | some _ => invocation
    | none => { invocation with parent := TraceContext.ofHeaders? invocation.headers }
  remark := none

/-- A call after all interceptors, in order. -/
def outboundAll (interceptors : List Interceptor) (call : OutboundCall) : OutboundCall :=
  interceptors.foldl (fun call i => i.outbound call) call

/-- An invocation after all interceptors, in order. -/
def inboundAll (interceptors : List Interceptor) (invocation : Invocation) : Invocation :=
  interceptors.foldl (fun invocation i => i.inbound invocation) invocation

end Interceptor

end StepEngine
