import StepEngine.Engine.Function
import StepEngine.Proofs.Dispatch

/-!
# The calls of a run

What a transport is asked by the invocation of a step depends on the step only through the contexts
that its activities are given: they make their calls under the trace context of the invocation.

* `Run.Keeps` : a run keeps what holds of the transport; a lemma for each way to build a run;
* `Activity.CallsUnder` : an activity makes its calls under a trace context, as all that a context
  offers does (`FlowContext.callsUnder_enqueue`, `StateStore.callsUnder_get` and so on);
* `TriggerHandler.CallsThroughContext` : handler, condition and middleware call the transport
  through the contexts that they are given;
* `TriggerHandler.keeps_invoke`, `EngineFunction.keeps_invoke` : what the calls of one trace keep
  is kept by an invocation that continues the trace;
* `Surroundings.recording`, `Run.calls` : the calls that a run makes, in order.
-/

namespace StepEngine

variable {τ α β : Type}

/-! ## What a run keeps -/

/-- A run keeps what holds of the transport. -/
def Run.Keeps (s : Surroundings τ) (Holds : τ → Prop) (a : Run τ α) : Prop :=
  ∀ within p, Holds p.transport → Holds (a s within p).2.transport

namespace Run

variable {s : Surroundings τ} {Holds : τ → Prop}

theorem keeps_done (x : α) : (done x).Keeps s Holds := fun _ _ h => h

theorem keeps_fail (error : StepError) : (fail error : Run τ α).Keeps s Holds := fun _ _ h => h

theorem keeps_dropped : (dropped : Run τ α).Keeps s Holds := fun _ _ h => h

theorem keeps_ofExcept (answer : Except StepError α) : (ofExcept answer).Keeps s Holds := by
  cases answer with
  | ok x => exact keeps_done x
  | error error => exact keeps_fail error

theorem keeps_note (text : String) : (note text).Keeps s Holds := fun _ _ h => h

theorem keeps_log (entry : LogEntry) : (log entry).Keeps s Holds := fun _ _ h => h

theorem Keeps.bind {a : Run τ α} {next : α → Run τ β} (ha : a.Keeps s Holds)
    (hnext : ∀ x, (next x).Keeps s Holds) : (a.bind next).Keeps s Holds := by
  intro within p h
  have hafter : Holds (a s within p).2.transport := ha within p h
  simp only [Run.bind]
  rcases hrun : a s within p with ⟨_ | _ | x, q⟩ <;> rw [hrun] at hafter
  · exact hafter
  · exact hafter
  · exact hnext x within q hafter

theorem Keeps.attempt {a : Run τ α} (ha : a.Keeps s Holds) : a.attempt.Keeps s Holds := by
  intro within p h
  have hafter : Holds (a s within p).2.transport := ha within p h
  simp only [Run.attempt]
  rcases hrun : a s within p with ⟨_ | _, q⟩ <;> rw [hrun] at hafter <;> exact hafter

theorem Keeps.inSpan {body : Run τ α} (h : body.Keeps s Holds) (kind : SpanKind) (name : String)
    (fields : List (String × Json)) (complaint : StepError → Option LogEntry) :
    (inSpan kind name fields complaint body).Keeps s Holds := by
  intro within p hp
  rw [inSpan_apply kind name fields complaint body s within p rfl rfl]
  exact h _ _ hp

/-- The engine that a run goes on with is that of its surroundings. -/
theorem keeps_engine_bind {next : Engine → Run τ α} (h : (next s.engine).Keeps s Holds) :
    (Run.engine.bind next).Keeps s Holds :=
  fun within p hp => h within p hp

/-- The trace context that a run goes on with is a child of the one that it continues. -/
theorem keeps_continueTrace_bind {parent : TraceContext} {next : TraceContext → Run τ α}
    (h : ∀ k, (next (parent.child (.random (s.identifiers k)))).Keeps s Holds) :
    ((continueTrace (some parent)).bind next).Keeps s Holds := by
  intro within p hp
  rw [bind_of_ok (continueTrace_apply (some parent) s within p)]
  exact h p.drawn within _ hp

/-- A call is made under a child of the operation's parent. -/
theorem keeps_call {operation : Operation}
    (h : ∀ k transport, Holds transport →
      Holds (s.answer transport (Interceptor.outboundAll s.engine.interceptors
        (.new operation.name operation.payload
          (some (operation.parent.child (.random (s.identifiers k))))))).2) :
    (call operation).Keeps s Holds := by
  refine keeps_continueTrace_bind fun k => Keeps.inSpan ?_ _ _ _ _
  refine keeps_engine_bind fun within p hp => ?_
  exact h k p.transport hp

end Run

/-! ## Activities -/

namespace Activity

/-- Every call of an activity is made under a trace context. -/
def CallsUnder (trace : TraceContext) : Activity α → Prop
  | done _ | fail _ | stall => True
  | note _ rest | log _ rest => rest.CallsUnder trace
  | call operation rest => operation.parent = trace ∧ ∀ answer, (rest answer).CallsUnder trace

variable {trace : TraceContext} {a : Activity α}

theorem CallsUnder.bind {next : α → Activity β} (ha : a.CallsUnder trace)
    (hnext : ∀ x, (next x).CallsUnder trace) : (a.bind next).CallsUnder trace := by
  induction a with
  | done x => exact hnext x
  | fail _ | stall => trivial
  | note _ rest ih | log _ rest ih => exact ih ha
  | call operation rest ih => exact ⟨ha.1, fun answer => ih answer (ha.2 answer)⟩

theorem callsUnder_ofExcept (answer : Except StepError α) :
    (ofExcept answer).CallsUnder trace := by
  cases answer <;> trivial

theorem callsUnder_perform {operation : Operation} (h : operation.parent = trace) :
    (perform operation).CallsUnder trace :=
  ⟨h, callsUnder_ofExcept⟩

/-- What each call keeps, an activity keeps. -/
theorem CallsUnder.keeps {s : Surroundings τ} {Holds : τ → Prop} (h : a.CallsUnder trace)
    (hcall : ∀ operation, operation.parent = trace → (Run.call operation).Keeps s Holds) :
    a.run.Keeps s Holds := by
  induction a with
  | done x => exact Run.keeps_done x
  | fail error => exact Run.keeps_fail error
  | note text rest ih => exact (Run.keeps_note text).bind fun _ => ih h
  | log entry rest ih => exact (Run.keeps_log entry).bind fun _ => ih h
  | call operation rest ih =>
    exact (hcall operation h.1).attempt.bind fun answer => ih answer (h.2 answer)
  | stall => exact Run.keeps_dropped

end Activity

/-! ## What a context offers -/

section Offers

variable {trace : TraceContext}

theorem callsUnder_operate {parent : Option TraceContext} (h : parent = some trace) (name : String)
    (payload : List (String × Json)) (attributes : List (String × String)) :
    (operate parent name payload attributes).CallsUnder trace := by
  rw [h]
  exact Activity.callsUnder_perform rfl

theorem callsUnder_itemsOf (decode : Decoder α) (v : Json) :
    (itemsOf decode v).CallsUnder trace := by
  unfold itemsOf
  split
  · trivial
  · exact Activity.callsUnder_ofExcept _

theorem FlowContext.callsUnder_enqueue {ctx : FlowContext} (h : ctx.parent = some trace)
    (event : EnqueueEvent) : (ctx.enqueue event).CallsUnder trace := by
  rw [enqueue, h]
  exact (Activity.callsUnder_perform rfl).bind fun _ => trivial

namespace StateStore

variable {s : StateStore} (h : s.parent = some trace)

include h

theorem callsUnder_get (scope key : String) : (s.get scope key).CallsUnder trace :=
  (callsUnder_operate h _ _ _).bind fun _ => trivial

theorem callsUnder_set (scope key : String) (data : Json) :
    (s.set scope key data).CallsUnder trace :=
  callsUnder_operate h _ _ _

theorem callsUnder_update (scope key : String) (ops : List UpdateOp) :
    (s.update scope key ops).CallsUnder trace :=
  callsUnder_operate h _ _ _

theorem callsUnder_delete (scope key : String) : (s.delete scope key).CallsUnder trace :=
  (callsUnder_operate h _ _ _).bind fun _ => trivial

theorem callsUnder_list (scope : String) : (s.list scope).CallsUnder trace :=
  (callsUnder_operate h _ _ _).bind (callsUnder_itemsOf _)

theorem callsUnder_listGroups : s.listGroups.CallsUnder trace :=
  (callsUnder_operate h _ _ _).bind (callsUnder_itemsOf _)

theorem callsUnder_deleteAll (scope : String) (keys : List String) :
    (s.deleteAll scope keys).CallsUnder trace := by
  induction keys with
  | nil => trivial
  | cons key keys ih => exact (callsUnder_delete h scope key).bind fun _ => ih

theorem callsUnder_clear (scope : String) : (s.clear scope).CallsUnder trace :=
  (callsUnder_list h scope).bind fun _ => callsUnder_deleteAll h scope _

end StateStore

namespace StreamStore

variable (s : StreamStore)

theorem callsUnder_get (group item : String) : (s.get group item).CallsUnder s.parent :=
  (callsUnder_operate rfl _ _ _).bind fun _ => trivial

theorem callsUnder_set (group item : String) (data : Json) :
    (s.set group item data).CallsUnder s.parent :=
  callsUnder_operate rfl _ _ _

theorem callsUnder_update (group item : String) (ops : List UpdateOp) :
    (s.update group item ops).CallsUnder s.parent :=
  callsUnder_operate rfl _ _ _

theorem callsUnder_delete (group item : String) : (s.delete group item).CallsUnder s.parent :=
  (callsUnder_operate rfl _ _ _).bind fun _ => trivial

theorem callsUnder_list (group : String) : (s.list group).CallsUnder s.parent :=
  (callsUnder_operate rfl _ _ _).bind (callsUnder_itemsOf _)

theorem callsUnder_listGroups : s.listGroups.CallsUnder s.parent :=
  (callsUnder_operate rfl _ _ _).bind (callsUnder_itemsOf _)

end StreamStore

/-- The streams of a context call under the same trace context as the context itself. -/
theorem FlowContext.parent_of_stream {ctx : FlowContext} {name : String} {s : StreamStore}
    (h : ctx.stream name = .ok s) : ctx.parent = some s.parent := by
  unfold stream at h
  split at h
  · next a ha =>
    split at h
    · cases h
      rw [parent, ha]
      rfl
    · cases h
  · cases h

end Offers

/-! ## Invocations -/

/-- Handler, condition and middleware call the transport through the contexts they are given. -/
structure TriggerHandler.CallsThroughContext (w : TriggerHandler) : Prop where
  handler : ∀ input ctx trace, ctx.parent = some trace → (w.handler input ctx).CallsUnder trace
  condition : ∀ condition, w.trigger.condition = some condition → ∀ input ctx trace,
    ctx.parent = some trace → (condition input ctx).CallsUnder trace
  middleware : ∀ t, w.trigger = .http t → ∀ layer ∈ t.middleware, ∀ request ctx next trace,
    ctx.parent = some trace → (∀ r, (next r).CallsUnder trace) →
      (layer request ctx next).CallsUnder trace

theorem Middleware.callsUnder_around {layers : List Middleware} {ctx : FlowContext} {next : Next}
    {trace : TraceContext}
    (hlayers : ∀ layer ∈ layers, ∀ request next, (∀ r, (next r).CallsUnder trace) →
      (layer request ctx next).CallsUnder trace)
    (hnext : ∀ r, (next r).CallsUnder trace) (request : ApiRequest) :
    (around layers ctx next request).CallsUnder trace := by
  induction layers generalizing request with
  | nil => exact hnext request
  | cons layer layers ih =>
    refine hlayers layer List.mem_cons_self request _ fun r => ?_
    exact ih (fun l hl => hlayers l (List.mem_cons_of_mem _ hl)) r

namespace TriggerHandler

variable {w : TriggerHandler} (h : w.CallsThroughContext) {ctx : FlowContext} {trace : TraceContext}
  (hctx : ctx.parent = some trace)

include h hctx

theorem callsUnder_letsThrough (conditionsChecked : Bool) (input : TriggerInput) :
    (w.letsThrough conditionsChecked input ctx).CallsUnder trace := by
  unfold letsThrough
  split
  · trivial
  · split
    · next condition hcondition => exact h.condition condition hcondition input ctx trace hctx
    · trivial

theorem callsUnder_work (input : TriggerInput) : (w.work input ctx).CallsUnder trace := by
  have hhandler (input : TriggerInput) (f : StepOutput → Json) :
      ((w.handler input ctx).bind fun output => .done (f output)).CallsUnder trace :=
    (h.handler input ctx trace hctx).bind fun _ => trivial
  unfold work
  split
  · next t request ht =>
    split
    · exact hhandler _ _
    · refine Activity.CallsUnder.bind ?_ fun _ => trivial
      refine Middleware.callsUnder_around (fun layer hlayer request next hnext => ?_)
        (fun r => ?_) request
      · exact h.middleware t ht layer hlayer request ctx next trace hctx hnext
      · exact (h.handler _ ctx trace hctx).bind fun _ => trivial
  · exact hhandler _ _
  · exact hhandler _ _

end TriggerHandler

section Invocations

variable {s : Surroundings τ} {Holds : τ → Prop} {w : TriggerHandler} {parent : TraceContext}

/-- What is kept by all calls under children of a trace context, an invocation that continues it
keeps. -/
theorem TriggerHandler.keeps_invoke (h : w.CallsThroughContext) {invocation : Invocation}
    (hparent : invocation.parent = some parent)
    (hcall : ∀ k operation, operation.parent = parent.child (.random (s.identifiers k)) →
      (Run.call operation).Keeps s Holds) : (w.invoke invocation).Keeps s Holds := by
  rw [invoke, hparent]
  refine Run.keeps_continueTrace_bind fun k => Run.Keeps.inSpan ?_ _ _ _ _
  refine (Run.keeps_ofExcept _).bind fun decoded => Run.Keeps.bind ?_ fun input =>
    Run.keeps_engine_bind ?_
  · rcases w.check_cases decoded with ⟨input, h⟩ | ⟨refusal, h⟩
    · rw [h]
      exact Run.keeps_done input
    · rw [h]
      exact (Run.keeps_log _).bind fun _ => Run.keeps_fail _
  · refine ((callsUnder_letsThrough h rfl _ _).keeps (hcall k)).bind fun admitted => ?_
    split
    · exact (callsUnder_work h rfl _).keeps (hcall k)
    · exact (Run.keeps_log _).bind fun _ => Run.keeps_done _

theorem EngineFunction.keeps_remark (interceptors : List Interceptor) :
    (remark interceptors).Keeps s Holds := by
  induction interceptors with
  | nil => exact Run.keeps_done ()
  | cons i rest ih =>
    unfold remark
    split
    · exact (Run.keeps_note _).bind fun _ => ih
    · exact ih

theorem EngineFunction.keeps_invoke (h : w.CallsThroughContext) {invocation : Invocation}
    (hparent : (Interceptor.inboundAll s.engine.interceptors invocation).parent = some parent)
    (hcall : ∀ k operation, operation.parent = parent.child (.random (s.identifiers k)) →
      (Run.call operation).Keeps s Holds) : ((handler w).invoke invocation).Keeps s Holds :=
  Run.keeps_engine_bind ((keeps_remark _).bind fun _ => w.keeps_invoke h hparent hcall)

end Invocations

/-! ## Recorded calls -/

/-- Surroundings whose transport also keeps the calls that it is asked, the last one at the end. -/
def Surroundings.recording (s : Surroundings τ) : Surroundings (τ × List OutboundCall) where
  engine := s.engine
  answer kept call :=
    let (answer, transport) := s.answer kept.1 call
    (answer, transport, kept.2 ++ [call])
  readFile := s.readFile
  identifiers := s.identifiers

namespace Run

def calls (a : Run (τ × List OutboundCall) α) (s : Surroundings τ) (transport : τ) :
    List OutboundCall :=
  (a s.recording none (.start (transport, []))).2.transport.2

theorem forall_mem_calls {P : OutboundCall → Prop} {s : Surroundings τ}
    {a : Run (τ × List OutboundCall) α}
    (h : a.Keeps s.recording fun kept => ∀ call ∈ kept.2, P call) (transport : τ) :
    ∀ call ∈ a.calls s transport, P call :=
  h none (.start (transport, [])) (List.forall_mem_nil _)

theorem keeps_recorded_call {P : OutboundCall → Prop} {s : Surroundings τ} {operation : Operation}
    (h : ∀ k, P (Interceptor.outboundAll s.engine.interceptors
      (.new operation.name operation.payload
        (some (operation.parent.child (.random (s.identifiers k))))))) :
    (call operation).Keeps s.recording fun kept => ∀ call ∈ kept.2, P call :=
  keeps_call fun k _ hkept => List.forall_mem_append.2 ⟨hkept, List.forall_mem_singleton.2 (h k)⟩

end Run

end StepEngine
