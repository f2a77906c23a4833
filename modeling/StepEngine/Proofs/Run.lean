import StepEngine.Engine.Run

/-!
# How runs compose

* `Run.bind_of_ok`, `bind_of_error`, `bind_of_dropped` : a run and what comes after it, by how the
  first ends;
* `Run.continueTrace_apply` : the trace context that a run continues with;
* `Activity.run_bind` : one activity after another is one run after another;
* `Progress.Alike` : the same state of the transport and the same number of identifiers drawn;
* `Run.Steady` : the outcome, the transport and the identifiers drawn depend on nothing else: not on
  events, journal or spans. Every activity is steady (`Activity.steady_run`);
* `Activity.Quiet` : an activity that calls nothing; it ends with its `conclusion` and leaves a
  progress that is alike (`Activity.Quiet.run`).
-/

namespace StepEngine

variable {τ α β : Type}

namespace Run

/-! ## One run after another -/

variable {a : Run τ α} {next : α → Run τ β} {s : Surroundings τ} {within : Option Span}
  {p q : Progress τ}

theorem bind_of_ok {x : α} (h : a s within p = (some (.ok x), q)) :
    a.bind next s within p = next x s within q := by
  simp only [bind, h]

theorem bind_of_error {error : StepError} (h : a s within p = (some (.error error), q)) :
    a.bind next s within p = (some (.error error), q) := by
  simp only [bind, h]

theorem bind_of_dropped (h : a s within p = (none, q)) : a.bind next s within p = (none, q) := by
  simp only [bind, h]

theorem bind_assoc {γ : Type} (a : Run τ α) (f : α → Run τ β) (g : β → Run τ γ) :
    (a.bind f).bind g = a.bind fun x => (f x).bind g := by
  funext s within p
  simp only [bind]
  rcases a s within p with ⟨_ | _ | _, q⟩ <;> rfl

/-! ## Spans -/

/-- The log line about an outcome, if it is an error that has one. -/
def complaints (complaint : StepError → Option LogEntry) (within : Option Span) :
    Outcome α → List Event
  | some (.error error) => (complaint error).toList.map fun entry => .logged entry within
  | _ => []

theorem inSpan_apply (kind : SpanKind) (name : String) (fields : List (String × Json))
    (complaint : StepError → Option LogEntry) (body : Run τ α) (s : Surroundings τ)
    (within : Option Span) (p : Progress τ) {span : Span} (hspan : span = ⟨p.spans, kind, name⟩)
    {outcome : Outcome α} {q : Progress τ}
    (hbody : body s (some span) { p with
      spans := p.spans + 1
      events := p.events ++ [.opened span within fields] } = (outcome, q)) :
    inSpan kind name fields complaint body s within p =
      (outcome, { q with
        events := q.events ++ complaints complaint within outcome ++
          [.ended span (.ofOutcome outcome), .closed span] }) := by
  subst hspan
  unfold inSpan
  simp only [show (SpanGuard.hold ⟨p.spans, kind, name⟩).span = ⟨p.spans, kind, name⟩ from rfl, hbody]
  rcases outcome with _ | error | result
  · simp only [complaints, List.append_nil, SpanGuard.drop_hold]
    rfl
  · rfl
  · simp only [complaints, List.append_nil, SpanGuard.finish_eq]
    rfl

/-! ## The trace of a run -/

/-- The trace context of a run that continues a trace or starts one. -/
def traceAt (s : Surroundings τ) (p : Progress τ) : Option TraceContext → TraceContext
  | some parent => parent.child (.random (s.identifiers p.drawn))
  | none =>
    .root (.random (s.identifiers p.drawn)) (.random (s.identifiers (p.drawn + 1)))

/-- The number of identifiers that it takes. -/
def draws : Option TraceContext → Nat
  | some _ => 1
  | none => 2

theorem continueTrace_apply (parent : Option TraceContext) (s : Surroundings τ)
    (within : Option Span) (p : Progress τ) :
    continueTrace parent s within p =
      (some (.ok (traceAt s p parent)), { p with drawn := p.drawn + draws parent }) := by
  cases parent <;> rfl

end Run

/-! ## Activities -/

theorem Activity.run_bind (a : Activity α) (next : α → Activity β) :
    (a.bind next).run (τ := τ) = a.run.bind fun x => (next x).run := by
  induction a with
  | done _ | fail _ | stall => rfl
  | note text rest ih =>
    change (Run.note text).bind (fun _ => (rest.bind next).run) = _
    rw [ih]
    exact (Run.bind_assoc _ _ _).symm
  | log entry rest ih =>
    change (Run.log entry).bind (fun _ => (rest.bind next).run) = _
    rw [ih]
    exact (Run.bind_assoc _ _ _).symm
  | call operation rest ih =>
    change (Run.call operation).attempt.bind (fun answer => ((rest answer).bind next).run) = _
    simp only [ih]
    exact (Run.bind_assoc _ _ _).symm

/-! ## What an outcome depends on -/

/-- The same state of the transport and the same number of identifiers drawn. -/
structure Progress.Alike (p q : Progress τ) : Prop where
  transport : p.transport = q.transport
  drawn : p.drawn = q.drawn

theorem Progress.Alike.refl (p : Progress τ) : p.Alike p := ⟨rfl, rfl⟩

/-- Equal outcomes and progresses that are alike. -/
def SameEnd (r t : Outcome α × Progress τ) : Prop :=
  r.1 = t.1 ∧ r.2.Alike t.2

/-- A run whose outcome, transport and identifiers do not depend on what has been written to events
and journal, nor on spans. -/
def Run.Steady (a : Run τ α) : Prop :=
  ∀ s within within' p q, p.Alike q → SameEnd (a s within p) (a s within' q)

namespace Run

theorem steady_done (x : α) : (done x : Run τ α).Steady :=
  fun _ _ _ _ _ h => ⟨rfl, h⟩

theorem steady_fail (error : StepError) : (fail error : Run τ α).Steady :=
  fun _ _ _ _ _ h => ⟨rfl, h⟩

theorem steady_note (text : String) : (note text : Run τ Unit).Steady :=
  fun _ _ _ _ _ h => ⟨rfl, h.transport, h.drawn⟩

theorem steady_log (entry : LogEntry) : (log entry : Run τ Unit).Steady :=
  fun _ _ _ _ _ h => ⟨rfl, h.transport, h.drawn⟩

theorem steady_engine : (Run.engine : Run τ Engine).Steady :=
  fun _ _ _ _ _ h => ⟨rfl, h⟩

theorem steady_continueTrace (parent : Option TraceContext) :
    (continueTrace parent : Run τ TraceContext).Steady := by
  intro s within within' p q h
  have htrace : traceAt s p parent = traceAt s q parent := by
    cases parent <;> simp only [traceAt, h.drawn]
  rw [continueTrace_apply, continueTrace_apply, htrace]
  exact ⟨rfl, h.transport, congrArg (· + draws parent) h.drawn⟩

theorem steady_answer (call : OutboundCall) : (answer call : Run τ Json).Steady := by
  intro s within within' p q h
  refine ⟨?_, ?_, h.drawn⟩
  · simp only [answer, h.transport]
  · simp only [answer, h.transport]

theorem Steady.bind {a : Run τ α} {next : α → Run τ β} (ha : a.Steady)
    (hnext : ∀ x, (next x).Steady) : (a.bind next).Steady := by
  intro s within within' p q h
  obtain ⟨houtcome, halike⟩ := ha s within within' p q h
  simp only [Run.bind]
  rcases hp : a s within p with ⟨o, p'⟩
  rcases hq : a s within' q with ⟨o', q'⟩
  rw [hp, hq] at houtcome halike
  obtain rfl : o = o' := houtcome
  rcases o with _ | _ | x
  · exact ⟨rfl, halike⟩
  · exact ⟨rfl, halike⟩
  · exact hnext x s within within' p' q' halike

theorem Steady.attempt {a : Run τ α} (ha : a.Steady) : a.attempt.Steady := by
  intro s within within' p q h
  obtain ⟨houtcome, halike⟩ := ha s within within' p q h
  simp only [Run.attempt]
  rcases hp : a s within p with ⟨o, p'⟩
  rcases hq : a s within' q with ⟨o', q'⟩
  rw [hp, hq] at houtcome halike
  obtain rfl : o = o' := houtcome
  cases o <;> exact ⟨rfl, halike⟩

theorem Steady.inSpan {body : Run τ α} (h : body.Steady) (kind : SpanKind) (name : String)
    (fields : List (String × Json)) (complaint : StepError → Option LogEntry) :
    (inSpan kind name fields complaint body).Steady := by
  intro s within within' p q hpq
  obtain ⟨houtcome, halike⟩ := h s (some ⟨p.spans, kind, name⟩) (some ⟨q.spans, kind, name⟩)
    { p with
      spans := p.spans + 1
      events := p.events ++ [.opened ⟨p.spans, kind, name⟩ within fields] }
    { q with
      spans := q.spans + 1
      events := q.events ++ [.opened ⟨q.spans, kind, name⟩ within' fields] }
    ⟨hpq.transport, hpq.drawn⟩
  rw [inSpan_apply kind name fields complaint body s within p rfl rfl,
    inSpan_apply kind name fields complaint body s within' q rfl rfl]
  exact ⟨houtcome, halike.transport, halike.drawn⟩

theorem steady_call (operation : Operation) : (call operation : Run τ Json).Steady :=
  (steady_continueTrace _).bind fun _ =>
    (steady_engine.bind fun _ => steady_answer _).inSpan _ _ _ _

end Run

theorem Activity.steady_run (a : Activity α) : (a.run : Run τ α).Steady := by
  induction a with
  | done x => exact Run.steady_done x
  | fail error => exact Run.steady_fail error
  | note text _ ih => exact (Run.steady_note text).bind fun _ => ih
  | log entry _ ih => exact (Run.steady_log entry).bind fun _ => ih
  | call operation _ ih => exact (Run.steady_call operation).attempt.bind ih
  | stall => exact fun _ _ _ _ _ h => ⟨rfl, h⟩

/-! ## Activities that call nothing -/

/-- An activity that calls nothing. -/
def Activity.Quiet : Activity α → Prop
  | done _ | fail _ | stall => True
  | note _ rest | log _ rest => rest.Quiet
  | call _ _ => False

/-- How an activity that calls nothing ends; none when it never does. -/
def Activity.conclusion : Activity α → Outcome α
  | done result => some (.ok result)
  | fail error => some (.error error)
  | note _ rest | log _ rest => rest.conclusion
  | call _ _ | stall => none

theorem Activity.Quiet.run {a : Activity α} (h : a.Quiet) (s : Surroundings τ)
    (within : Option Span) (p : Progress τ) :
    ∃ q, a.run s within p = (a.conclusion, q) ∧ p.Alike q := by
  induction a generalizing p with
  | done _ | fail _ | stall => exact ⟨p, rfl, .refl p⟩
  | note text rest ih =>
    obtain ⟨q, hq, halike⟩ := ih h { p with journal := p.journal ++ [text] }
    exact ⟨q, hq, halike.transport, halike.drawn⟩
  | log entry rest ih =>
    obtain ⟨q, hq, halike⟩ := ih h { p with events := p.events ++ [.logged entry within] }
    exact ⟨q, hq, halike.transport, halike.drawn⟩
  | call _ _ => exact h.elim

end StepEngine
