import StepEngine.Proofs.Dispatch

/-!
# How spans end

An invocation has a span of its own, and each call that it makes has one inside it. Whatever becomes
of the invocation, every span that it opens gets one status: the invocation's by its outcome, a
call's by the answer to that call.

* `openedSpans`, `statuses` : the spans that open, and the statuses that a span gets; `enclosed` : the
  events of work inside a span of its own;
* `EndsOnce` : a span gets one status, which tells how something ended;
* `Exchange` : a call, the span it is made in, and how the transport answers it; `Exchange.Chain` :
  calls one after the other, each in the state that the one before it left;
* `Transcript` : the events of a run inside a span: log lines, and the spans of its calls;
* `Progress.Proceeds` : a progress that a run leads to with such events. Every activity does
  (`Activity.proceeds`), and so do the stages of an invocation (`TriggerHandler.proceeds_run`);
* `TriggerHandler.spans_end_once` : so end all spans of an invocation.
-/

namespace StepEngine

variable {τ α β : Type}

/-! ## Statuses by outcomes -/

/-- The wording of an error begins with a capital letter. -/
theorem StepError.head?_message (error : StepError) :
    ∃ c, error.message.toList.head? = some c ∧ c.isUpper = true := by
  have happend {a : String} {c : Char} (h : a.toList.head? = some c) (b : String) :
      (a ++ b).toList.head? = some c := by
    rw [String.toList_append, List.head?_append, h]
    rfl
  cases error with
  | configuration fault => exact ⟨'I', happend rfl _, rfl⟩
  | invalidStep step problems => exact ⟨'I', happend (happend (happend rfl _) _) _, rfl⟩
  | validation label details => exact ⟨'V', happend (happend (happend rfl _) _) _, rfl⟩
  | noHandler kind available => exact ⟨'N', happend (happend (happend rfl _) _) _, rfl⟩
  | handler step details => exact ⟨'S', happend (happend (happend rfl _) _) _, rfl⟩
  | transport operation details => exact ⟨'T', happend (happend (happend rfl _) _) _, rfl⟩
  | serialization fault => exact ⟨'S', happend rfl _, rfl⟩

/-- No error reads like work that was dropped. -/
theorem StepError.message_ne_cancelled (error : StepError) : error.message ≠ "cancelled" := by
  intro h
  obtain ⟨c, hc, hupper⟩ := error.head?_message
  rw [h] at hc
  obtain rfl : 'c' = c := Option.some.inj hc
  exact absurd hupper (by decide)

namespace SpanStatus

theorem ofOutcome_eq_ok_iff {outcome : Outcome α} :
    ofOutcome outcome = ok ↔ ∃ result, outcome = some (.ok result) := by
  rcases outcome with _ | error | result
  · exact ⟨nofun, nofun⟩
  · exact ⟨nofun, nofun⟩
  · exact ⟨fun _ => ⟨result, rfl⟩, fun _ => rfl⟩

theorem ofOutcome_eq_failed_iff {outcome : Outcome α} {error : StepError} :
    ofOutcome outcome = failed error.message ↔
      ∃ e, outcome = some (.error e) ∧ e.message = error.message := by
  rcases outcome with _ | e | result
  · refine ⟨fun h => ?_, nofun⟩
    have hmessage : "cancelled" = error.message := failed.inj h
    exact absurd hmessage.symm error.message_ne_cancelled
  · constructor
    · intro h
      exact ⟨e, rfl, failed.inj h⟩
    · rintro ⟨e', he', hmessage⟩
      obtain rfl : e = e' := Except.error.inj (Option.some.inj he')
      exact congrArg failed hmessage
  · exact ⟨nofun, nofun⟩

theorem ofOutcome_eq_cancelled_iff {outcome : Outcome α} :
    ofOutcome outcome = cancelled ↔ outcome = none := by
  rcases outcome with _ | error | result
  · exact ⟨fun _ => rfl, fun _ => rfl⟩
  · refine ⟨fun h => ?_, nofun⟩
    exact absurd (failed.inj h) error.message_ne_cancelled
  · exact ⟨nofun, nofun⟩

end SpanStatus

/-! ## What is recorded of spans -/

namespace Event

def opened? : Event → Option Span
  | opened span _ _ => some span
  | _ => none

def statusOf? (span : Span) : Event → Option SpanStatus
  | ended other status => if other = span then some status else none
  | _ => none

end Event

def openedSpans (events : List Event) : List Span := events.filterMap Event.opened?

/-- The statuses that a span gets, in order. -/
def statuses (span : Span) (events : List Event) : List SpanStatus :=
  events.filterMap (Event.statusOf? span)

theorem openedSpans_append (events more : List Event) :
    openedSpans (events ++ more) = openedSpans events ++ openedSpans more :=
  List.filterMap_append

theorem statuses_append (span : Span) (events more : List Event) :
    statuses span (events ++ more) = statuses span events ++ statuses span more :=
  List.filterMap_append

/-- The log line about an error opens no span and gives no status. -/
theorem complaints_quiet {β : Type} {f : Event → Option β} (hlog : ∀ entry within,
    f (.logged entry within) = none) (complaint : StepError → Option LogEntry)
    (within : Option Span) (outcome : Outcome α) :
    (Run.complaints complaint within outcome).filterMap f = [] := by
  rcases outcome with _ | error | result
  · rfl
  · simp only [Run.complaints]
    cases complaint error with
    | none => rfl
    | some entry => simp only [Option.toList_some, List.map_cons, List.map_nil,
        List.filterMap_cons, List.filterMap_nil, hlog]
  · rfl

/-- The events of work inside a span of its own: the span opens, and after the work a complaint may be
logged before the span gets the status of the outcome and closes. -/
def enclosed (span : Span) (within : Option Span) (fields : List (String × Json))
    (complaint : StepError → Option LogEntry) (inner : List Event) (outcome : Outcome α) :
    List Event :=
  .opened span within fields :: (inner ++ Run.complaints complaint within outcome ++
    [.ended span (.ofOutcome outcome), .closed span])

section Enclosed

variable (span : Span) (within : Option Span) (fields : List (String × Json))
  (complaint : StepError → Option LogEntry) (inner : List Event) (outcome : Outcome α)

theorem openedSpans_enclosed :
    openedSpans (enclosed span within fields complaint inner outcome) =
      span :: openedSpans inner := by
  have hquiet : openedSpans (Run.complaints complaint within outcome) = [] :=
    complaints_quiet (fun _ _ => rfl) complaint within outcome
  change span :: openedSpans (inner ++ _ ++ _) = _
  rw [openedSpans_append, openedSpans_append, hquiet, List.append_nil]
  exact congrArg (span :: ·) (List.append_nil _)

theorem statuses_enclosed (other : Span) :
    statuses other (enclosed span within fields complaint inner outcome) =
      statuses other inner ++ if span = other then [.ofOutcome outcome] else [] := by
  have hquiet : statuses other (Run.complaints complaint within outcome) = [] :=
    complaints_quiet (fun _ _ => rfl) complaint within outcome
  change statuses other (inner ++ _ ++ _) = _
  rw [statuses_append, statuses_append, hquiet, List.append_nil]
  unfold statuses
  by_cases h : span = other
  · simp only [List.filterMap_cons, List.filterMap_nil, Event.statusOf?, if_pos h]
  · simp only [List.filterMap_cons, List.filterMap_nil, Event.statusOf?, if_neg h]

end Enclosed

/-- A span gets one status: it is that of a result, of an error in its words, or of work that was
dropped, exactly when the outcome is. -/
structure EndsOnce (events : List Event) (span : Span) (outcome : Outcome α) : Prop where
  once : statuses span events = [.ofOutcome outcome]
  ok_iff : statuses span events = [.ok] ↔ ∃ result, outcome = some (.ok result)
  failed_iff : ∀ error : StepError, statuses span events = [.failed error.message] ↔
    ∃ e, outcome = some (.error e) ∧ e.message = error.message
  cancelled_iff : statuses span events = [.cancelled] ↔ outcome = none

theorem EndsOnce.of_statuses {events : List Event} {span : Span} {outcome : Outcome α}
    (h : statuses span events = [.ofOutcome outcome]) : EndsOnce events span outcome where
  once := h
  ok_iff := by rw [h, List.singleton_inj, SpanStatus.ofOutcome_eq_ok_iff]
  failed_iff error := by rw [h, List.singleton_inj, SpanStatus.ofOutcome_eq_failed_iff]
  cancelled_iff := by rw [h, List.singleton_inj, SpanStatus.ofOutcome_eq_cancelled_iff]

/-! ## Calls and their answers -/

namespace Operation

def spanFields (operation : Operation) (trace : TraceContext) : List (String × Json) :=
  Span.openFields .operation operation.name trace ++
    operation.attributes.map fun a => (a.1, .string a.2)

/-- The call as the transport gets it. -/
def request (operation : Operation) (interceptors : List Interceptor) (trace : TraceContext) :
    OutboundCall :=
  Interceptor.outboundAll interceptors (.new operation.name operation.payload (some trace))

end Operation

/-- A call, the span it is made in, and how it ends: with the answer of the transport, or without
one when it is dropped. -/
structure Exchange (τ : Type) where
  operation : Operation
  trace : TraceContext
  /-- The serial number of the span. -/
  serial : Nat
  before : τ
  outcome : Outcome Json
  after : τ

namespace Exchange

def span (e : Exchange τ) : Span := ⟨e.serial, .operation, e.operation.name⟩

/-- The outcome is the answer of the transport to this call. -/
def Answered (s : Surroundings τ) (e : Exchange τ) : Prop :=
  s.answer e.before (e.operation.request s.engine.interceptors e.trace) = (e.outcome, e.after)

/-- The call of an operation by a run that has got so far. -/
def ofCall (operation : Operation) (s : Surroundings τ) (p : Progress τ) : Exchange τ :=
  let trace := Run.traceAt s p (some operation.parent)
  let answer := s.answer p.transport (operation.request s.engine.interceptors trace)
  ⟨operation, trace, p.spans, p.transport, answer.1, answer.2⟩

theorem answered_ofCall (operation : Operation) (s : Surroundings τ) (p : Progress τ) :
    (ofCall operation s p).Answered s := rfl

/-- The events of a call: its span opens inside the current one, gets the status of the answer, and
closes. -/
def events (e : Exchange τ) (within : Option Span) : List Event := [
  .opened e.span within (e.operation.spanFields e.trace),
  .ended e.span (.ofOutcome e.outcome),
  .closed e.span]

theorem statuses_events (e : Exchange τ) (within : Option Span) (span : Span) :
    statuses span (e.events within) =
      if e.span = span then [.ofOutcome e.outcome] else [] := by
  unfold statuses events
  by_cases h : e.span = span
  · simp only [List.filterMap_cons, List.filterMap_nil, Event.statusOf?, if_pos h]
  · simp only [List.filterMap_cons, List.filterMap_nil, Event.statusOf?, if_neg h]

/-- Calls one after the other: each is answered in the state that the one before it left. -/
inductive Chain (s : Surroundings τ) : τ → List (Exchange τ) → τ → Prop
  | nil (transport : τ) : Chain s transport [] transport
  | cons {e : Exchange τ} {exchanges : List (Exchange τ)} {last : τ} (he : e.Answered s)
      (rest : Chain s e.after exchanges last) : Chain s e.before (e :: exchanges) last

end Exchange

/-! ## The events of a run -/

/-- The events of a run inside a span, with the calls that it makes: log lines, and the spans of the
calls, numbered on. -/
inductive Transcript (s : Surroundings τ) (within : Option Span) :
    τ → Nat → List Event → List (Exchange τ) → τ → Nat → Prop
  | nil (transport : τ) (serial : Nat) :
      Transcript s within transport serial [] [] transport serial
  | log (entry : LogEntry) {first last : τ} {serial next : Nat} {events : List Event}
      {exchanges : List (Exchange τ)}
      (rest : Transcript s within first serial events exchanges last next) :
      Transcript s within first serial (.logged entry within :: events) exchanges last next
  | call {e : Exchange τ} (he : e.Answered s) {last : τ} {next : Nat} {events : List Event}
      {exchanges : List (Exchange τ)}
      (rest : Transcript s within e.after (e.serial + 1) events exchanges last next) :
      Transcript s within e.before e.serial (e.events within ++ events) (e :: exchanges) last next

namespace Transcript

variable {s : Surroundings τ} {within : Option Span} {first middle last : τ}
  {serial between next : Nat} {events more : List Event} {exchanges others : List (Exchange τ)}

theorem append (h : Transcript s within first serial events exchanges middle between)
    (h' : Transcript s within middle between more others last next) :
    Transcript s within first serial (events ++ more) (exchanges ++ others) last next := by
  induction h with
  | nil transport serial => exact h'
  | log entry _ ih => exact .log entry (ih h')
  | call he _ ih =>
    rw [List.append_assoc]
    exact .call he (ih h')

variable (h : Transcript s within first serial events exchanges last next)

include h

theorem chain : Exchange.Chain s first exchanges last := by
  induction h with
  | nil transport serial => exact .nil transport
  | log entry _ ih => exact ih
  | call he _ ih => exact .cons he ih

/-- The spans that open are those of the calls. -/
theorem openedSpans_eq : openedSpans events = exchanges.map Exchange.span := by
  induction h with
  | nil transport serial => rfl
  | log entry _ ih => exact ih
  | @call e _ _ _ events exchanges _ ih =>
    rw [openedSpans_append, ih]
    rfl

/-- The spans of the calls have the numbers from the first one on. -/
theorem serial_le : ∀ e ∈ exchanges, serial ≤ e.serial := by
  induction h with
  | nil transport serial => exact List.forall_mem_nil _
  | log entry _ ih => exact ih
  | @call e _ _ _ events exchanges _ ih =>
    refine List.forall_mem_cons.2 ⟨Nat.le_refl _, fun other hother => ?_⟩
    have hlater : e.serial + 1 ≤ other.serial := ih other hother
    omega

theorem nodup_spans : (exchanges.map Exchange.span).Nodup := by
  induction h with
  | nil transport serial => exact List.nodup_nil
  | log entry _ ih => exact ih
  | @call e _ _ _ events exchanges rest ih =>
    refine List.nodup_cons.2 ⟨fun hmem => ?_, ih⟩
    obtain ⟨other, hother, hspan⟩ := List.mem_map.1 hmem
    have hlater : e.serial + 1 ≤ other.serial := rest.serial_le other hother
    have hsame : other.serial = e.serial := congrArg Span.serial hspan
    omega

/-- A span that does not open gets no status. -/
theorem statuses_of_not_opened {span : Span} (hspan : span ∉ exchanges.map Exchange.span) :
    statuses span events = [] := by
  induction h with
  | nil transport serial => rfl
  | log entry _ ih => exact ih hspan
  | @call e _ _ _ events exchanges _ ih =>
    rw [List.map_cons, List.mem_cons, not_or] at hspan
    rw [statuses_append, e.statuses_events, if_neg (Ne.symm hspan.1), ih hspan.2, List.append_nil]

/-- The span of a call gets the status of the answer to this call, and no other. -/
theorem statuses_of_mem {e : Exchange τ} (he : e ∈ exchanges) :
    statuses e.span events = [.ofOutcome e.outcome] := by
  induction h with
  | nil transport serial => cases he
  | log entry _ ih => exact ih he
  | @call first hanswered last next events exchanges rest ih =>
    have hwhole : Transcript s within first.before first.serial _ (first :: exchanges) last next :=
      .call hanswered rest
    have hnodup := hwhole.nodup_spans
    rw [List.map_cons, List.nodup_cons] at hnodup
    rw [statuses_append, first.statuses_events]
    rcases List.mem_cons.1 he with rfl | he
    · rw [if_pos rfl, rest.statuses_of_not_opened hnodup.1, List.append_nil]
    · have hne : first.span ≠ e.span := fun heq =>
        hnodup.1 (heq ▸ List.mem_map_of_mem he)
      rw [if_neg hne, ih he, List.nil_append]

end Transcript

/-! ## Runs -/

/-- A progress that leads to another one with nothing but log lines and calls. -/
def Progress.Proceeds (s : Surroundings τ) (within : Option Span) (p q : Progress τ) : Prop :=
  ∃ events exchanges, q.events = p.events ++ events ∧
    Transcript s within p.transport p.spans events exchanges q.transport q.spans

namespace Progress.Proceeds

variable {s : Surroundings τ} {within : Option Span} {p q r : Progress τ}

theorem refl (p : Progress τ) : Proceeds s within p p :=
  ⟨[], [], (List.append_nil _).symm, .nil _ _⟩

theorem trans (h : Proceeds s within p q) (h' : Proceeds s within q r) :
    Proceeds s within p r := by
  obtain ⟨events, exchanges, hevents, htranscript⟩ := h
  obtain ⟨more, others, hmore, htranscript'⟩ := h'
  refine ⟨events ++ more, exchanges ++ others, ?_, htranscript.append htranscript'⟩
  rw [hmore, hevents, List.append_assoc]

end Progress.Proceeds

/-- A run that does nothing but log and call inside the current span. -/
def Run.Proceeds (a : Run τ α) : Prop :=
  ∀ (s : Surroundings τ) (within : Option Span) (p : Progress τ),
    p.Proceeds s within (a s within p).2

namespace Run

theorem proceeds_done (x : α) : (done x : Run τ α).Proceeds := fun _ _ p => .refl p

theorem proceeds_fail (error : StepError) : (fail error : Run τ α).Proceeds :=
  fun _ _ p => .refl p

theorem proceeds_dropped : (dropped : Run τ α).Proceeds := fun _ _ p => .refl p

theorem proceeds_ofExcept (answer : Except StepError α) : (ofExcept answer : Run τ α).Proceeds := by
  cases answer with
  | ok x => exact proceeds_done x
  | error error => exact proceeds_fail error

theorem proceeds_engine : (engine : Run τ Engine).Proceeds := fun _ _ p => .refl p

theorem proceeds_note (text : String) : (note text : Run τ Unit).Proceeds :=
  fun _ _ _ => ⟨[], [], (List.append_nil _).symm, .nil _ _⟩

theorem proceeds_log (entry : LogEntry) : (log entry : Run τ Unit).Proceeds :=
  fun _ within _ => ⟨[.logged entry within], [], rfl, .log entry (.nil _ _)⟩

theorem Proceeds.bind {a : Run τ α} {next : α → Run τ β} (ha : a.Proceeds)
    (hnext : ∀ x, (next x).Proceeds) : (a.bind next).Proceeds := by
  intro s within p
  have hfirst : p.Proceeds s within (a s within p).2 := ha s within p
  simp only [Run.bind]
  rcases hrun : a s within p with ⟨_ | _ | x, q⟩ <;> rw [hrun] at hfirst
  · exact hfirst
  · exact hfirst
  · exact hfirst.trans (hnext x s within q)

theorem Proceeds.attempt {a : Run τ α} (ha : a.Proceeds) : a.attempt.Proceeds := by
  intro s within p
  have hfirst : p.Proceeds s within (a s within p).2 := ha s within p
  simp only [Run.attempt]
  rcases hrun : a s within p with ⟨_ | _, q⟩ <;> rw [hrun] at hfirst <;> exact hfirst

/-- A call is one exchange, however it ends. -/
theorem call_apply (operation : Operation) (s : Surroundings τ) (within : Option Span)
    (p : Progress τ) {e : Exchange τ} (he : e = .ofCall operation s p) :
    call operation s within p = (e.outcome, { p with
      transport := e.after
      drawn := p.drawn + 1
      spans := p.spans + 1
      events := p.events ++ e.events within }) := by
  subst he
  have hquiet (outcome : Outcome Json) : complaints (fun _ => none) within outcome = [] := by
    rcases outcome with _ | _ | _ <;> rfl
  rw [call, bind_of_ok (continueTrace_apply _ s within p)]
  refine (inSpan_apply .operation operation.name _ _ _ s within _ rfl rfl).trans ?_
  rw [hquiet, List.append_nil]
  change (_, ({ p with
    transport := _
    drawn := _
    spans := _
    events := (p.events ++ [Event.opened _ _ _]) ++ [Event.ended _ _, Event.closed _] } :
      Progress τ)) = _
  rw [List.append_assoc]
  rfl

theorem proceeds_call (operation : Operation) : (call operation : Run τ Json).Proceeds := by
  intro s within p
  have hanswered : (Exchange.ofCall operation s p).Answered s :=
    Exchange.answered_ofCall operation s p
  rw [call_apply operation s within p rfl]
  refine ⟨(Exchange.ofCall operation s p).events within ++ [], [.ofCall operation s p], ?_, ?_⟩
  · rw [List.append_nil]
  · exact .call hanswered (.nil _ _)

end Run

/-- Whatever an activity does, it logs and calls inside the current span. -/
theorem Activity.proceeds (a : Activity α) : (a.run : Run τ α).Proceeds := by
  induction a with
  | done x => exact Run.proceeds_done x
  | fail error => exact Run.proceeds_fail error
  | note text _ ih => exact (Run.proceeds_note text).bind fun _ => ih
  | log entry _ ih => exact (Run.proceeds_log entry).bind fun _ => ih
  | call operation _ ih => exact (Run.proceeds_call operation).attempt.bind ih
  | stall => exact Run.proceeds_dropped

namespace TriggerHandler

/-- The stages of an invocation log and call inside its span. -/
theorem proceeds_run (w : TriggerHandler) (invocation : Invocation) (trace : TraceContext) :
    (w.run invocation trace : Run τ Json).Proceeds := by
  have hcheck (decoded : TriggerInput) : (w.check decoded : Run τ TriggerInput).Proceeds := by
    rcases w.check_cases decoded with ⟨input, h⟩ | ⟨refusal, h⟩
    · rw [h]
      exact Run.proceeds_done input
    · rw [h]
      exact (Run.proceeds_log _).bind fun _ => Run.proceeds_fail _
  refine (Run.proceeds_ofExcept _).bind fun decoded => (hcheck decoded).bind fun input =>
    Run.proceeds_engine.bind fun engine => (Activity.proceeds _).bind fun admitted => ?_
  split
  · exact Activity.proceeds _
  · exact (Run.proceeds_log _).bind fun _ => Run.proceeds_done _

/-- Every span that an invocation opens gets one status. The first is its own, which tells how the
invocation ended; the others are those of its calls, in order, and each tells how its own call was
answered, whatever became of the invocation. No other span gets a status. -/
theorem spans_end_once (w : TriggerHandler) (invocation : Invocation) (s : Surroundings τ)
    (within : Option Span) (p : Progress τ) :
    ∃ events exchanges,
      (w.invoke invocation s within p).2.events = p.events ++ events ∧
      Exchange.Chain s p.transport exchanges (w.invoke invocation s within p).2.transport ∧
      openedSpans events = w.span p :: exchanges.map Exchange.span ∧
      (openedSpans events).Nodup ∧
      EndsOnce events (w.span p) (w.invoke invocation s within p).1 ∧
      (∀ e ∈ exchanges, EndsOnce events e.span e.outcome) ∧
      ∀ span, span ∉ openedSpans events → statuses span events = [] := by
  rw [invoke_eq]
  obtain ⟨inner, exchanges, hinner, htranscript⟩ := w.proceeds_run invocation
    (Run.traceAt s p invocation.parent) s (some (w.span p)) (w.opened invocation s within p)
  generalize w.run invocation (Run.traceAt s p invocation.parent) s (some (w.span p))
    (w.opened invocation s within p) = result at hinner htranscript ⊢
  obtain ⟨outcome, q⟩ := result
  -- the span of the invocation is none of its calls
  have hown : w.span p ∉ exchanges.map Exchange.span := by
    intro hmem
    obtain ⟨e, he, hspan⟩ := List.mem_map.1 hmem
    have hkind : SpanKind.operation = SpanKind.step := congrArg Span.kind hspan
    cases hkind
  let events := enclosed (w.span p) within
    (w.spanFields (Run.traceAt s p invocation.parent) invocation.parent)
    (fun error => some (w.failureEntry error)) inner outcome
  have hspans : openedSpans events = w.span p :: exchanges.map Exchange.span := by
    rw [openedSpans_enclosed, htranscript.openedSpans_eq]
  have hstatuses (span : Span) : statuses span events =
      statuses span inner ++ if w.span p = span then [.ofOutcome outcome] else [] :=
    statuses_enclosed ..
  refine ⟨events, exchanges, ?_, htranscript.chain, hspans, ?_, .of_statuses ?_,
    fun e he => .of_statuses ?_, fun span hspan => ?_⟩
  · change q.events ++ _ ++ _ = _
    rw [hinner, opened]
    simp only [events, enclosed, List.append_assoc, List.cons_append, List.nil_append]
  · rw [hspans]
    exact List.nodup_cons.2 ⟨hown, htranscript.nodup_spans⟩
  · rw [hstatuses, htranscript.statuses_of_not_opened hown, if_pos rfl]
    rfl
  · have hne : w.span p ≠ e.span := fun heq => hown (heq ▸ List.mem_map_of_mem he)
    rw [hstatuses, htranscript.statuses_of_mem he, if_neg hne, List.append_nil]
  · rw [hspans, List.mem_cons, not_or] at hspan
    rw [hstatuses, htranscript.statuses_of_not_opened hspan.2, if_neg (Ne.symm hspan.1)]
    rfl

/-- A handler that does without the answer of its call. -/
example :
    let parent : TraceContext := ⟨"", "", true, .empty⟩
    let w : TriggerHandler := ⟨"Pay", .queue (.new "orders"), 0,
      fun _ _ => .call ⟨"enqueue", .null, [], parent⟩ fun _ => .done .complete⟩
    let s : Surroundings Unit := ⟨⟨.standard, [], .empty, .empty⟩,
      fun _ _ => (some (.error (.transport "enqueue" "down")), ()), fun _ => none, fun _ => 0⟩
    let events := (w.invoke (.new .null) s none (.start ())).2.events
    statuses ⟨0, .step, "step:Pay"⟩ events = [.ok] ∧
      statuses ⟨1, .operation, "enqueue"⟩ events =
        [.failed "Transport call 'enqueue' failed: down"] := by
  decide +kernel

end TriggerHandler

end StepEngine
