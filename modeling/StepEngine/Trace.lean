import StepEngine.SortedMap
import StepEngine.Text.Blank
import StepEngine.Uuid
/-!
# Trace contexts

* `TraceContext` : the ids of a trace and a span, whether it is sampled, and its baggage;
* `TraceContext.root`, `child` : a new trace, a new span of one;
* `TraceContext.ofTraceparent?`, `traceparent` : the header `00-TRACE-SPAN-FLAGS`;
* `Baggage.parse`, `Baggage.render` : the header `key=value,key=value`;
* `TraceContext.extract?` : a context from both headers.
-/

namespace StepEngine

abbrev Baggage := Dict String

namespace Baggage

/-- An entry of a header: what comes before a semicolon, its key and value without blanks at their
ends. An entry without an equals sign or without a key is none. -/
def parseEntry (entry : List Char) : Option (String × String) :=
  let entry := Text.trimBlanks (entry.takeWhile (· != ';'))
  let key := entry.takeWhile (· != '=')
  match entry.drop key.length with
  | [] => none
  | _ :: value =>
    let key := Text.trimBlanks key
    if key.isEmpty then none
    else some (String.ofList key, String.ofList (Text.trimBlanks value))

/-- The entries of a header, the later of two with one key. -/
def parse (header : String) : Baggage :=
  SortedMap.ofList ((Text.split (· == ',') header.toList).filterMap parseEntry)

/-- The entries in the order of their keys, with commas between. -/
def render (b : Baggage) : String :=
  ",".intercalate (b.entries.map fun e => e.1 ++ "=" ++ e.2)

end Baggage

/-- The place of a piece of work in a trace. -/
structure TraceContext where
  traceId : String
  spanId : String
  sampled : Bool
  baggage : Baggage
  deriving DecidableEq

namespace TraceContext

/-- The span id that an identifier gives: its first sixteen digits. -/
def spanIdOf (u : Uuid) : String :=
  String.ofList (u.digits.take 16)

def root (trace span : Uuid) : TraceContext :=
  ⟨trace.simple, spanIdOf span, true, .empty⟩

/-- A new span of the same trace. -/
def child (t : TraceContext) (span : Uuid) : TraceContext :=
  { t with spanId := spanIdOf span }

@[simp] theorem traceId_child (t : TraceContext) (span : Uuid) :
    (t.child span).traceId = t.traceId := by
  rw [child]

@[simp] theorem spanId_child (t : TraceContext) (span : Uuid) :
    (t.child span).spanId = spanIdOf span := by
  rw [child]

@[simp] theorem sampled_child (t : TraceContext) (span : Uuid) :
    (t.child span).sampled = t.sampled := by
  rw [child]

@[simp] theorem baggage_child (t : TraceContext) (span : Uuid) :
    (t.child span).baggage = t.baggage := by
  rw [child]

def withBaggage (t : TraceContext) (key value : String) : TraceContext :=
  { t with baggage := t.baggage.insert key value }

/-- So many hexadecimal digits, not all of them zero. -/
def isId (length : Nat) (cs : List Char) : Bool :=
  cs.length == length && cs.all Hex.isDigit && !cs.all (· == '0')

/-- The context of a header, blanks around it apart; its ids come out in lower case. -/
def ofTraceparent? (header : String) : Option TraceContext :=
  match Text.split (· == '-') (Text.trimBlanks header.toList) with
  | [version, trace, span, flags] =>
    if version = ['0', '0'] ∧ isId 32 trace ∧ isId 16 span ∧ flags.length = 2 ∧
        flags.all Hex.isDigit then
      some {
        traceId := String.ofList (trace.map Char.toLower)
        spanId := String.ofList (span.map Char.toLower)
        sampled := Hex.number flags % 2 == 1
        baggage := .empty }
    else none
  | _ => none

def traceparent (t : TraceContext) : String :=
  "00-" ++ t.traceId ++ "-" ++ t.spanId ++ (if t.sampled then "-01" else "-00")

/-- The baggage header, if there is any baggage. -/
def baggageHeader (t : TraceContext) : Option String :=
  if t.baggage.isEmpty then none else some t.baggage.render

/-- The context of both headers. -/
def extract? (traceparent baggage : Option String) : Option TraceContext :=
  (traceparent.bind ofTraceparent?).map fun t =>
    match baggage with
    | some header => { t with baggage := .parse header }
    | none => t

end TraceContext

end StepEngine
