import StepEngine.Engine.Dispatch
import StepEngine.Proofs.Refusals
import StepEngine.Proofs.Run

/-!
# The stages of an invocation

An invocation opens its span, decodes its payload, checks it against the schema, asks the condition
and enters the handler; what goes wrong at one stage keeps all later ones from running.

* `TriggerHandler.opened`, `closed` : what has been done when the stages begin, and what is done
  after them (`invoke_eq`);
* `TriggerHandler.Admits` : the schema of the trigger, if it has one, accepts an input;
* `validate_eq` : the input that is rebuilt from what the schema gives back is the decoded one;
* `TriggerHandler.entry` : the handler of an input, for a request the middleware around it
  (`work_eq_entry`, `entry_route`);
* `run_of_undecoded`, `run_of_refused`, `run_of_condition`, `run_of_entry` : one lemma for each
  stage at which an invocation can go on or stop;
* `TriggerHandler.Outlines` : the same step, index and trigger but for activities.
-/

namespace StepEngine

variable {τ : Type}

/-! ## Inputs and triggers -/

theorem TriggerInput.kind_of_decode {kind : TriggerKind} {payload : Json} {input : TriggerInput}
    (h : decode kind payload = .ok input) : input.kind = kind := by
  cases kind with
  | queue | cron =>
    obtain rfl := Except.ok.inj h
    rfl
  | http | state | stream =>
    simp only [decode, StepError.decoded] at h
    revert h
    generalize Except.mapError StepError.ofDecode _ = answer
    cases answer with
    | error _ => nofun
    | ok _ => rintro ⟨⟩; rfl

theorem TriggerInput.serialization_of_decode {kind : TriggerKind} {payload : Json}
    {error : StepError} (h : decode kind payload = .error error) :
    ∃ fault, error = .serialization fault := by
  have decoded {α β : Type} {answer : Except DecodeError α} {f : α → β} {error : StepError}
      (h : (StepError.decoded answer).map f = .error error) :
      ∃ fault, error = .serialization fault := by
    cases answer with
    | ok _ => cases h
    | error cause => exact ⟨.value cause, (Except.error.inj h).symm⟩
  cases kind with
  | queue | cron => cases h
  | http | state | stream => exact decoded h

namespace Trigger

/-- A trigger without its activities. -/
def bare : Trigger → Trigger
  | http t => http { t with middleware := [], condition := none }
  | queue t => queue { t with condition := none }
  | cron t => cron { t with condition := none }
  | state t => state { t with condition := none }
  | stream t => stream { t with condition := none }

/-- The middleware of a trigger; only a route has any. -/
def middleware : Trigger → List Middleware
  | http t => t.middleware
  | _ => []

@[simp] theorem kind_bare (t : Trigger) : t.bare.kind = t.kind := by cases t <;> rfl

@[simp] theorem inputSchema_bare (t : Trigger) : t.bare.inputSchema = t.inputSchema := by
  cases t <;> rfl

@[simp] theorem info_bare (t : Trigger) (index : Nat) : t.bare.info index = t.info index := by
  cases t <;> rfl

@[simp] theorem routeFields_bare (t : Trigger) :
    TriggerHandler.routeFields t.bare = TriggerHandler.routeFields t := by
  cases t <;> rfl

end Trigger

def Progress.logged (p : Progress τ) (entry : LogEntry) (within : Option Span) : Progress τ :=
  { p with events := p.events ++ [.logged entry within] }

namespace TriggerHandler

/-! ## Before and after the stages -/

def span (w : TriggerHandler) (p : Progress τ) : Span :=
  ⟨p.spans, .step, "step:" ++ w.step⟩

/-- What has been done when the stages of an invocation begin: its trace context is drawn and its
span is open. -/
def opened (w : TriggerHandler) (invocation : Invocation) (s : Surroundings τ)
    (within : Option Span) (p : Progress τ) : Progress τ :=
  { p with
    drawn := p.drawn + Run.draws invocation.parent
    spans := p.spans + 1
    events := p.events ++ [.opened (w.span p) within
      (w.spanFields (Run.traceAt s p invocation.parent) invocation.parent)] }

/-- An outcome passed on unchanged, after the span has got its status. -/
def closed (w : TriggerHandler) (within : Option Span) (span : Span)
    (result : Outcome Json × Progress τ) : Outcome Json × Progress τ :=
  (result.1, { result.2 with
    events := result.2.events ++
      Run.complaints (fun error => some (w.failureEntry error)) within result.1 ++
      [.ended span (.ofOutcome result.1), .closed span] })

def contextAt (w : TriggerHandler) (invocation : Invocation) (s : Surroundings τ)
    (p : Progress τ) (input : TriggerInput) : FlowContext :=
  w.context s.engine (Run.traceAt s p invocation.parent) input

theorem invoke_eq (w : TriggerHandler) (invocation : Invocation) (s : Surroundings τ)
    (within : Option Span) (p : Progress τ) :
    w.invoke invocation s within p =
      w.closed within (w.span p)
        (w.run invocation (Run.traceAt s p invocation.parent) s (some (w.span p))
          (w.opened invocation s within p)) := by
  rw [invoke, Run.bind_of_ok (Run.continueTrace_apply _ _ _ _)]
  exact Run.inSpan_apply .step ("step:" ++ w.step) _ (fun error => some (w.failureEntry error))
    (w.run invocation (Run.traceAt s p invocation.parent)) s within _ rfl rfl

/-! ## The schema -/

def label (w : TriggerHandler) : String := w.trigger.kind.name ++ ":" ++ w.step

/-- The schema of the trigger, if it has one, accepts an input. -/
def Admits (w : TriggerHandler) (input : TriggerInput) : Prop :=
  ∀ schema, w.trigger.inputSchema = some schema → schema.Accepts input.data

section Schemas

variable {w : TriggerHandler} {schema : Schema} {input : TriggerInput}

theorem admits_iff_accepts (hschema : w.trigger.inputSchema = some schema) :
    w.Admits input ↔ schema.Accepts input.data := by
  rw [Admits, hschema]
  exact ⟨fun h => h schema rfl, fun h _ hsome => Option.some.inj hsome ▸ h⟩

/-- The schema is asked about the part of an input that the handler works on. What it gives back is
that part unchanged, so the input that is put together again is the same. -/
theorem validate_eq (hkind : input.kind = w.trigger.kind)
    (hschema : w.trigger.inputSchema = some schema) :
    w.validate schema input = (schema.validate w.label input.data).map fun _ => input := by
  obtain ⟨step, trigger, index, handler⟩ := w
  have hlabel (name : String) (hname : trigger.kind.name = name) :
      label ⟨step, trigger, index, handler⟩ = name ++ ":" ++ step := by
    rw [← hname]
    rfl
  have hput {put : Json → TriggerInput} (label : String) (value : Json) :
      (schema.validate label value).map put =
        (schema.validate label value).map fun _ => put value := by
    cases h : schema.validate label value with
    | error _ => rfl
    | ok validated =>
      obtain ⟨-, rfl⟩ := Schema.validate_eq_ok_iff.1 h
      rfl
  cases trigger <;> cases input <;> cases hkind
  case http.http t request =>
    rw [hlabel "http" rfl, show "http" ++ ":" = "http:" from rfl]
    exact hput ("http:" ++ step) request.body
  case queue.queue t payload =>
    rw [hlabel "queue" rfl, show "queue" ++ ":" = "queue:" from rfl]
    exact hput ("queue:" ++ step) payload
  -- the other triggers have no schema
  all_goals cases hschema

/-- The check comes to an input, or to a log line and an error. -/
theorem check_cases (w : TriggerHandler) (decoded : TriggerInput) :
    (∃ input, (w.check decoded : Run τ TriggerInput) = Run.done input) ∨
      ∃ refusal : Refusal, (w.check decoded : Run τ TriggerInput) =
        (Run.log refusal.entry).bind fun _ => Run.fail refusal.error := by
  unfold check
  split
  · exact .inl ⟨decoded, rfl⟩
  · split
    · exact .inl ⟨_, rfl⟩
    · exact .inr ⟨_, rfl⟩

theorem check_of_admits (hkind : input.kind = w.trigger.kind) (ha : w.Admits input) :
    (w.check input : Run τ TriggerInput) = Run.done input := by
  unfold check
  cases hschema : w.trigger.inputSchema with
  | none => rfl
  | some schema =>
    have haccepted : schema.validate w.label input.data = .ok input.data :=
      Schema.validate_eq_ok_iff.2 ⟨ha schema hschema, rfl⟩
    simp only [validate_eq hkind hschema, haccepted, Except.map]

theorem check_of_refuses {refusal : Refusal} (hkind : input.kind = w.trigger.kind)
    (hschema : w.trigger.inputSchema = some schema)
    (hr : schema.Refuses w.label input.data refusal) :
    (w.check input : Run τ TriggerInput) =
      (Run.log refusal.entry).bind fun _ => Run.fail refusal.error := by
  have hrefused : schema.validate w.label input.data = .error refusal :=
    Schema.validate_eq_error_iff.2 hr
  unfold check
  simp only [hschema, validate_eq hkind hschema, hrefused, Except.map]

/-- An input is let pass by the schema, if there is one, or refused by it. -/
theorem admits_or_refuses (w : TriggerHandler) (input : TriggerInput) :
    w.Admits input ∨ ∃ schema refusal, w.trigger.inputSchema = some schema ∧
      schema.Refuses w.label input.data refusal := by
  cases hschema : w.trigger.inputSchema with
  | none => exact .inl fun schema hsome => by cases hschema.symm.trans hsome
  | some schema =>
    rw [admits_iff_accepts hschema]
    rcases schema.validate_cases w.label input.data with ⟨haccepts, -⟩ | ⟨refusal, hrefuses, -⟩
    · exact .inl haccepts
    · exact .inr ⟨schema, refusal, rfl, hrefuses⟩

end Schemas

/-! ## The stages -/

/-- The handler of an input, for a request with the middleware around it, and its answer written
out. -/
def entry (w : TriggerHandler) (input : TriggerInput) (ctx : FlowContext) : Activity Json :=
  match w.trigger.kind, input with
  | .http, .http request =>
    (Middleware.compose w.trigger.middleware ctx w.handler request).bind fun response =>
      .done response.encode
  | _, input => (w.handler input ctx).bind fun output => .done output.toJson

theorem entry_route {w : TriggerHandler} (hk : w.trigger.kind = .http) (request : ApiRequest)
    (ctx : FlowContext) :
    w.entry (.http request) ctx =
      (Middleware.compose w.trigger.middleware ctx w.handler request).bind fun response =>
        .done response.encode := by
  unfold entry
  rw [hk]

theorem work_eq_entry {w : TriggerHandler} {input : TriggerInput}
    (h : input.kind = w.trigger.kind) (ctx : FlowContext) :
    w.work input ctx = w.entry input ctx := by
  obtain ⟨step, trigger, index, handler⟩ := w
  cases trigger <;> cases input <;> cases h
  case http.http t request =>
    unfold work entry
    cases hm : t.middleware with
    | nil =>
      simp only [hm, List.isEmpty_nil, if_true, Trigger.kind, Trigger.middleware,
        Middleware.compose, Middleware.around, List.foldr_nil, Middleware.last,
        Activity.bind_bind]
      rfl
    | cons layer layers =>
      simp only [hm, List.isEmpty_cons, Bool.false_eq_true, if_false, Trigger.kind,
        Trigger.middleware]
  all_goals rfl

section Stages

variable {w : TriggerHandler} {invocation : Invocation} {trace : TraceContext}
  {s : Surroundings τ} {within : Option Span} {p q : Progress τ} {input : TriggerInput}

theorem run_of_undecoded {error : StepError}
    (h : TriggerInput.decode w.trigger.kind invocation.payload = .error error) :
    w.run invocation trace s within p = (some (.error error), p) := by
  rw [run, h]
  rfl

theorem run_of_decoded
    (h : TriggerInput.decode w.trigger.kind invocation.payload = .ok input) :
    w.run invocation trace s within p =
      (w.check input).bind (fun input => Run.engine.bind fun engine =>
        (w.letsThrough invocation.conditionsChecked input
          (w.context engine trace input)).run.bind fun admitted =>
        if admitted then (w.work input (w.context engine trace input)).run
        else (Run.log w.skipEntry).bind fun _ => Run.done .null) s within p := by
  rw [run, h]
  rfl

theorem run_of_refused {schema : Schema} {refusal : Refusal}
    (h : TriggerInput.decode w.trigger.kind invocation.payload = .ok input)
    (hschema : w.trigger.inputSchema = some schema)
    (hr : schema.Refuses w.label input.data refusal) :
    w.run invocation trace s within p =
      (some (.error refusal.error), p.logged refusal.entry within) := by
  rw [run_of_decoded h, check_of_refuses (TriggerInput.kind_of_decode h) hschema hr]
  rfl

theorem run_of_admitted (h : TriggerInput.decode w.trigger.kind invocation.payload = .ok input)
    (ha : w.Admits input) :
    w.run invocation trace s within p =
      (w.letsThrough invocation.conditionsChecked input (w.context s.engine trace input)).run.bind
        (fun admitted =>
          if admitted then (w.work input (w.context s.engine trace input)).run
          else (Run.log w.skipEntry).bind fun _ => Run.done .null) s within p := by
  rw [run_of_decoded h, check_of_admits (TriggerInput.kind_of_decode h) ha]
  rfl

/-- An invocation whose condition has still to be asked. -/
theorem run_of_condition {condition : Condition}
    (h : TriggerInput.decode w.trigger.kind invocation.payload = .ok input)
    (ha : w.Admits input) (hc : w.trigger.condition = some condition)
    (hu : invocation.conditionsChecked = false) :
    w.run invocation trace s within p =
      (condition input (w.context s.engine trace input)).run.bind
        (fun admitted =>
          if admitted then (w.entry input (w.context s.engine trace input)).run
          else (Run.log w.skipEntry).bind fun _ => Run.done .null) s within p := by
  rw [run_of_admitted h ha, work_eq_entry (TriggerInput.kind_of_decode h), letsThrough, hu, hc]
  rfl

/-- An invocation whose condition was evaluated before, or that has none. -/
theorem run_of_entry (h : TriggerInput.decode w.trigger.kind invocation.payload = .ok input)
    (ha : w.Admits input)
    (hu : invocation.conditionsChecked = true ∨ w.trigger.condition = none) :
    w.run invocation trace s within p =
      (w.entry input (w.context s.engine trace input)).run s within p := by
  have hlets : w.letsThrough invocation.conditionsChecked input
      (w.context s.engine trace input) = .done true := by
    rcases hu with hu | hu
    · rw [letsThrough, hu]
      rfl
    · rw [letsThrough, hu, ite_self]
  rw [run_of_admitted h ha, work_eq_entry (TriggerInput.kind_of_decode h), hlets]
  rfl

theorem invoke_of_condition {condition : Condition}
    (h : TriggerInput.decode w.trigger.kind invocation.payload = .ok input)
    (ha : w.Admits input) (hc : w.trigger.condition = some condition)
    (hu : invocation.conditionsChecked = false) :
    w.invoke invocation s within p = w.closed within (w.span p)
      ((condition input (w.contextAt invocation s p input)).run.bind
        (fun admitted =>
          if admitted then (w.entry input (w.contextAt invocation s p input)).run
          else (Run.log w.skipEntry).bind fun _ => Run.done .null)
        s (some (w.span p)) (w.opened invocation s within p)) := by
  rw [invoke_eq, run_of_condition h ha hc hu]
  rfl

theorem invoke_of_entry
    (h : TriggerInput.decode w.trigger.kind invocation.payload = .ok input)
    (ha : w.Admits input)
    (hu : invocation.conditionsChecked = true ∨ w.trigger.condition = none) :
    w.invoke invocation s within p = w.closed within (w.span p)
      ((w.entry input (w.contextAt invocation s p input)).run s (some (w.span p))
        (w.opened invocation s within p)) := by
  rw [invoke_eq, run_of_entry h ha hu]
  rfl

end Stages

/-! ## The same but for activities -/

/-- The same step, index and trigger but for the activities: handler, middleware, condition. -/
structure Outlines (v w : TriggerHandler) : Prop where
  step : v.step = w.step
  index : v.index = w.index
  trigger : v.trigger.bare = w.trigger.bare

namespace Outlines

variable {v w : TriggerHandler} (h : v.Outlines w)

include h

theorem kind : v.trigger.kind = w.trigger.kind := by
  rw [← Trigger.kind_bare, h.trigger, Trigger.kind_bare]

theorem inputSchema : v.trigger.inputSchema = w.trigger.inputSchema := by
  rw [← Trigger.inputSchema_bare, h.trigger, Trigger.inputSchema_bare]

theorem info (index : Nat) : v.trigger.info index = w.trigger.info index := by
  rw [← Trigger.info_bare, h.trigger, Trigger.info_bare]

theorem routeFields : routeFields v.trigger = routeFields w.trigger := by
  rw [← Trigger.routeFields_bare, h.trigger, Trigger.routeFields_bare]

theorem label : v.label = w.label := by
  rw [TriggerHandler.label, TriggerHandler.label, h.kind, h.step]

theorem admits {input : TriggerInput} : v.Admits input ↔ w.Admits input := by
  rw [Admits, Admits, h.inputSchema]

theorem span (p : Progress τ) : v.span p = w.span p := by
  rw [TriggerHandler.span, TriggerHandler.span, h.step]

theorem spanFields (trace : TraceContext) (parent : Option TraceContext) :
    v.spanFields trace parent = w.spanFields trace parent := by
  rw [TriggerHandler.spanFields, TriggerHandler.spanFields, h.step, h.kind, h.routeFields]

theorem failureEntry (error : StepError) : v.failureEntry error = w.failureEntry error := by
  rw [TriggerHandler.failureEntry, TriggerHandler.failureEntry, h.step, h.kind]

theorem skipEntry : v.skipEntry = w.skipEntry := by
  rw [TriggerHandler.skipEntry, TriggerHandler.skipEntry, h.step]

theorem context (engine : Engine) (trace : TraceContext) (input : TriggerInput) :
    v.context engine trace input = w.context engine trace input := by
  rw [TriggerHandler.context, TriggerHandler.context, h.step, h.index, h.info]

theorem validate (schema : Schema) (input : TriggerInput) :
    v.validate schema input = w.validate schema input := by
  cases input <;> simp only [TriggerHandler.validate, h.step]

theorem check (input : TriggerInput) : (v.check input : Run τ TriggerInput) = w.check input := by
  unfold TriggerHandler.check
  simp only [h.inputSchema, h.validate]

theorem opened (invocation : Invocation) (s : Surroundings τ) (within : Option Span)
    (p : Progress τ) : v.opened invocation s within p = w.opened invocation s within p := by
  rw [TriggerHandler.opened, TriggerHandler.opened, h.span, h.spanFields]

theorem contextAt (invocation : Invocation) (s : Surroundings τ) (p : Progress τ)
    (input : TriggerInput) :
    v.contextAt invocation s p input = w.contextAt invocation s p input := by
  rw [TriggerHandler.contextAt, TriggerHandler.contextAt, h.context]

theorem closed (within : Option Span) (span : Span) (result : Outcome Json × Progress τ) :
    v.closed within span result = w.closed within span result := by
  rw [TriggerHandler.closed, TriggerHandler.closed,
    show v.failureEntry = w.failureEntry from funext h.failureEntry]

theorem entry (hm : v.trigger.middleware = w.trigger.middleware) (hh : v.handler = w.handler)
    (input : TriggerInput) (ctx : FlowContext) : v.entry input ctx = w.entry input ctx := by
  unfold TriggerHandler.entry
  rw [h.kind, hm, hh]

end Outlines

end TriggerHandler

end StepEngine
