import StepEngine.Activity
/-!
# Spans and events

* `Span` : a piece of work with a beginning and an end;
* `SpanStatus` : how it ended, and the fields that say so;
* `Event` : what can be watched while the engine works: spans that open, get a status and close,
  and log lines, each inside the span that was current;
* `SpanGuard` : what holds an open span; it records the status, and a span that has none when the
  guard is dropped was cancelled.
-/

namespace StepEngine

inductive SpanKind where
  | step
  | operation
  deriving DecidableEq

namespace SpanKind

def name : SpanKind → String
  | step => "step"
  | operation => "operation"

/-- The side of a conversation on which the work is done. -/
def side : SpanKind → String
  | step => "server"
  | operation => "client"

end SpanKind

/-- A piece of work. The serial number tells spans of one name apart. -/
structure Span where
  serial : Nat
  kind : SpanKind
  name : String
  deriving DecidableEq

inductive SpanStatus where
  | ok
  | failed (message : String)
  deriving DecidableEq

namespace SpanStatus

/-- The status of work that was dropped before it ended. -/
def cancelled : SpanStatus := failed "cancelled"

/-- The status of an outcome; there is none when the work was dropped. -/
def ofOutcome : Option (Except StepError α) → SpanStatus
  | some (.ok _) => ok
  | some (.error error) => failed error.message
  | none => cancelled

def fields : SpanStatus → List (String × Json)
  | ok => [("otel.status_code", .string "OK")]
  | failed message =>
    [("otel.status_code", .string "ERROR"), ("otel.status_message", .string message)]

end SpanStatus

/-- What can be watched while the engine works. -/
inductive Event where
  | opened (span : Span) (within : Option Span) (fields : List (String × Json))
  | ended (span : Span) (status : SpanStatus)
  | closed (span : Span)
  | logged (entry : LogEntry) (within : Option Span)
  deriving DecidableEq

/-- What holds an open span. -/
structure SpanGuard where
  span : Span
  /-- The span has got its status. -/
  finished : Bool

namespace SpanGuard

def hold (span : Span) : SpanGuard := ⟨span, false⟩

def record (g : SpanGuard) (status : SpanStatus) : SpanGuard × List Event :=
  ({ g with finished := true }, [.ended g.span status])

/-- What is left to do when the guard is dropped: work without a status was cancelled, and the span
closes. -/
def drop (g : SpanGuard) : List Event :=
  (if g.finished then [] else [.ended g.span .cancelled]) ++ [.closed g.span]

def finish (g : SpanGuard) (status : SpanStatus) : List Event :=
  let (g, recorded) := g.record status
  recorded ++ g.drop

@[simp] theorem finish_eq (g : SpanGuard) (status : SpanStatus) :
    g.finish status = [.ended g.span status, .closed g.span] := rfl

@[simp] theorem drop_hold (span : Span) :
    (hold span).drop = [.ended span .cancelled, .closed span] := rfl

end SpanGuard

namespace Span

def textField (key : String) (text : Option String) : List (String × Json) :=
  (text.map fun s => (key, Json.string s)).toList

/-- The fields that every span has when it opens: what it is, and its place in the trace. -/
def openFields (kind : SpanKind) (name : String) (trace : TraceContext) : List (String × Json) := [
  ("otel.kind", .string kind.side),
  ("otel.name", .string name),
  ("trace_id", .string trace.traceId),
  ("span_id", .string trace.spanId)]

end Span

end StepEngine
