import StepEngine.Engine.Basic
import StepEngine.Telemetry
/-!
# What the engine does, step by step

A `Run τ α` is a computation of the engine over a transport in a state `τ`. It ends with a result,
with an error, or not at all: it can be dropped wherever it waits, which is where the transport
answers a call or a file is read. Whatever it has done by then stays done.

* `Surroundings` : what a run depends on and does not change;
* `Progress` : what a run has done so far;
* `Run.inSpan` : a run inside a new span, which its guard gives a status and closes;
* `Run.call` : a call to the transport, inside a span of its own;
* `Activity.run` : an activity, step by step.
-/

namespace StepEngine

/-- What a run depends on and does not change. -/
structure Surroundings (τ : Type) where
  engine : Engine
  /-- The answer to a call; none when the run is dropped while it waits for it. -/
  answer : τ → OutboundCall → Option (Except StepError Json) × τ
  /-- The text of a file; none when the run is dropped while it waits for it. -/
  readFile : String → Option (Except FileFault String)
  /-- A source of identifiers. -/
  identifiers : Nat → BitVec 128

/-- What a run has done so far. -/
structure Progress (τ : Type) where
  transport : τ
  events : List Event
  journal : List String
  /-- The number of spans opened. -/
  spans : Nat
  /-- The number of identifiers drawn. -/
  drawn : Nat

def Progress.start (transport : τ) : Progress τ := ⟨transport, [], [], 0, 0⟩

/-- How a run ended; none when it was dropped. -/
abbrev Outcome (α : Type) := Option (Except StepError α)

/-- A computation of the engine, inside the span that is current. -/
def Run (τ α : Type) := Surroundings τ → Option Span → Progress τ → Outcome α × Progress τ

namespace Run

variable {τ α β : Type}

def done (result : α) : Run τ α := fun _ _ p => (some (.ok result), p)

def fail (error : StepError) : Run τ α := fun _ _ p => (some (.error error), p)

def dropped : Run τ α := fun _ _ p => (none, p)

def bind (a : Run τ α) (next : α → Run τ β) : Run τ β := fun s within p =>
  match a s within p with
  | (some (.ok result), p) => next result s within p
  | (some (.error error), p) => (some (.error error), p)
  | (none, p) => (none, p)

def ofExcept : Except StepError α → Run τ α
  | .ok result => done result
  | .error error => fail error

/-- The run with its error, if it has one, as a result. -/
def attempt (a : Run τ α) : Run τ (Except StepError α) := fun s within p =>
  match a s within p with
  | (some answer, p) => (some (.ok answer), p)
  | (none, p) => (none, p)

def note (text : String) : Run τ Unit := fun _ _ p =>
  (some (.ok ()), { p with journal := p.journal ++ [text] })

def log (entry : LogEntry) : Run τ Unit := fun _ within p =>
  (some (.ok ()), { p with events := p.events ++ [.logged entry within] })

def engine : Run τ Engine := fun s _ p => (some (.ok s.engine), p)

def identifier : Run τ Uuid := fun s _ p =>
  (some (.ok (.random (s.identifiers p.drawn))), { p with drawn := p.drawn + 1 })

def readFile (path : String) : Run τ (Except FileFault String) := fun s _ p =>
  ((s.readFile path).map .ok, p)

/-- A new span of a trace, or a new trace when there is none to continue. -/
def continueTrace : Option TraceContext → Run τ TraceContext
  | some parent => identifier.bind fun span => done (parent.child span)
  | none => identifier.bind fun trace => identifier.bind fun span => done (.root trace span)

def answer (call : OutboundCall) : Run τ Json := fun s _ p =>
  let (answer, transport) := s.answer p.transport call
  (answer, { p with transport := transport })

/-- A run inside a new span. A result and an error each give the span its status; an error is logged
before that, if there is a line for it, outside the span. A run that is dropped drops the guard of
the span with it. -/
def inSpan (kind : SpanKind) (name : String) (fields : List (String × Json))
    (complaint : StepError → Option LogEntry) (body : Run τ α) : Run τ α := fun s within p =>
  let guard := SpanGuard.hold ⟨p.spans, kind, name⟩
  let opened := { p with
    spans := p.spans + 1
    events := p.events ++ [.opened guard.span within fields] }
  match body s (some guard.span) opened with
  | (some (.ok result), p) =>
    (some (.ok result), { p with events := p.events ++ guard.finish .ok })
  | (some (.error error), p) =>
    let complaints := (complaint error).toList.map fun entry => .logged entry within
    (some (.error error), { p with
      events := p.events ++ complaints ++ guard.finish (.failed error.message) })
  | (none, p) => (none, { p with events := p.events ++ guard.drop })

/-- A call to the transport, inside a span that is a child of the operation's parent. -/
def call (operation : Operation) : Run τ Json :=
  (continueTrace (some operation.parent)).bind fun trace =>
    inSpan .operation operation.name
      (Span.openFields .operation operation.name trace ++
        operation.attributes.map fun a => (a.1, .string a.2))
      (fun _ => none)
      (engine.bind fun r => answer
        (Interceptor.outboundAll r.interceptors
          (.new operation.name operation.payload (some trace))))

end Run

def Activity.run : Activity α → Run τ α
  | done result => Run.done result
  | fail error => Run.fail error
  | note text rest => (Run.note text).bind fun _ => rest.run
  | log entry rest => (Run.log entry).bind fun _ => rest.run
  | call operation rest => (Run.call operation).attempt.bind fun answer => (rest answer).run
  | stall => Run.dropped

end StepEngine
