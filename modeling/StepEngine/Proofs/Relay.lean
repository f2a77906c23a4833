import StepEngine.Engine.Setup
import StepEngine.Proofs.Calls
import StepEngine.Proofs.Dispatch
import StepEngine.Proofs.Propagation

/-!
# A trace from hop to hop

A step is delivered headers, and the calls that it makes carry headers of their own, which are
delivered to the next step, and so on.

* `TraceContext.Continues` : a context of the same trace, with the same flag and baggage;
* `Hop` : a step in an engine that carries traces; `Hop.calls`, `Hop.context` : the calls that it
  makes when it is delivered headers, and the context that its activities are given;
* `Hop.continues_of_mem_calls` : the headers of each call carry a context that continues the one
  that was delivered;
* `Relay` : a number of hops one after the other. However many there are, they keep the trace.
-/

namespace StepEngine

namespace TraceContext

/-- A context of the same trace, with the same flag and the same baggage. -/
structure Continues (t p : TraceContext) : Prop where
  traceId : t.traceId = p.traceId
  sampled : t.sampled = p.sampled
  baggage : t.baggage = p.baggage

theorem Continues.refl (p : TraceContext) : p.Continues p := ⟨rfl, rfl, rfl⟩

theorem Continues.trans {t u p : TraceContext} (h : t.Continues u) (h' : u.Continues p) :
    t.Continues p :=
  ⟨h.traceId.trans h'.traceId, h.sampled.trans h'.sampled, h.baggage.trans h'.baggage⟩

/-- Two spans further on, a context that was read from headers is read from new headers. -/
theorem ofHeaders?_inject_child_child {headers : Headers} {p : TraceContext}
    (h : ofHeaders? headers = some p) (step call : BitVec 128) :
    ofHeaders? (((p.child (.random step)).child (.random call)).inject .empty) =
      some ((p.child (.random step)).child (.random call)) := by
  obtain ⟨hids, hbaggage⟩ := hasHeaderIds_of_extract? h
  have hparse : Baggage.parse p.baggage.render = p.baggage := Baggage.parse_render hbaggage
  rw [ofHeaders?_inject ((hids.child step).child call) rfl]
  simp only [baggage_child, hparse]
  rw [child, child]

end TraceContext

/-! ## One hop -/

/-- An interceptor that changes neither the trace in the headers of a call nor the parent of an
invocation. -/
structure Interceptor.LeavesTraces (i : Interceptor) : Prop where
  outbound : ∀ call, TraceContext.ofHeaders? (i.outbound call).headers =
    TraceContext.ofHeaders? call.headers
  inbound : ∀ invocation, (i.inbound invocation).parent = invocation.parent

/-- Interceptors that carry traces in headers: the propagator, and after it others that leave them
alone. -/
def Interceptor.Instrumented (interceptors : List Interceptor) : Prop :=
  ∃ others, interceptors = propagator :: others ∧ ∀ i ∈ others, i.LeavesTraces

namespace Interceptor

theorem ofHeaders?_outboundAll {others : List Interceptor} (h : ∀ i ∈ others, i.LeavesTraces)
    (call : OutboundCall) : TraceContext.ofHeaders? (outboundAll others call).headers =
      TraceContext.ofHeaders? call.headers := by
  induction others generalizing call with
  | nil => rfl
  | cons i others ih =>
    have hrest := ih (fun j hj => h j (List.mem_cons_of_mem _ hj)) (i.outbound call)
    exact hrest.trans ((h i List.mem_cons_self).outbound call)

theorem parent_inboundAll {others : List Interceptor} (h : ∀ i ∈ others, i.LeavesTraces)
    (invocation : Invocation) : (inboundAll others invocation).parent = invocation.parent := by
  induction others generalizing invocation with
  | nil => rfl
  | cons i others ih =>
    have hrest := ih (fun j hj => h j (List.mem_cons_of_mem _ hj)) (i.inbound invocation)
    exact hrest.trans ((h i List.mem_cons_self).inbound invocation)

variable {interceptors : List Interceptor} (h : Instrumented interceptors)

include h

/-- A new call carries the trace context that it is made under. -/
theorem Instrumented.ofHeaders?_outboundAll (operation : String) (payload : Json)
    (trace : TraceContext) :
    TraceContext.ofHeaders?
        (outboundAll interceptors (.new operation payload (some trace))).headers =
      TraceContext.ofHeaders? (trace.inject .empty) := by
  obtain ⟨others, rfl, hothers⟩ := h
  exact Interceptor.ofHeaders?_outboundAll hothers _

/-- An invocation without a parent gets the one that its headers carry. -/
theorem Instrumented.parent_inboundAll {invocation : Invocation}
    (hparent : invocation.parent = none) :
    (inboundAll interceptors invocation).parent = TraceContext.ofHeaders? invocation.headers := by
  obtain ⟨others, rfl, hothers⟩ := h
  have hpropagated : (propagator.inbound invocation).parent =
      TraceContext.ofHeaders? invocation.headers := by
    simp only [propagator, hparent]
  exact (Interceptor.parent_inboundAll hothers _).trans hpropagated

end Interceptor

/-- A step in an engine that carries traces, with all that a delivery has besides its headers. -/
structure Hop where
  τ : Type
  surroundings : Surroundings τ
  transport : τ
  handler : TriggerHandler
  payload : Json
  conditionsChecked : Bool
  instrumented : Interceptor.Instrumented surroundings.engine.interceptors
  reaches : handler.CallsThroughContext

namespace Hop

/-- The delivery of headers, without a parent of its own. -/
def invocation (hop : Hop) (headers : Headers) : Invocation :=
  ⟨hop.payload, headers, none, hop.conditionsChecked⟩

/-- The delivery as it reaches the step. -/
def received (hop : Hop) (headers : Headers) : Invocation :=
  Interceptor.inboundAll hop.surroundings.engine.interceptors (hop.invocation headers)

def calls (hop : Hop) (headers : Headers) : List OutboundCall :=
  ((EngineFunction.handler hop.handler).invoke (hop.invocation headers)).calls hop.surroundings
    hop.transport

def context (hop : Hop) (headers : Headers) (input : TriggerInput) : FlowContext :=
  hop.handler.contextAt (hop.received headers) hop.surroundings (.start hop.transport) input

variable (hop : Hop) {headers : Headers} {p : TraceContext}

theorem parent_received : (hop.received headers).parent = TraceContext.ofHeaders? headers :=
  hop.instrumented.parent_inboundAll rfl

theorem traceId_context (h : TraceContext.ofHeaders? headers = some p) (input : TriggerInput) :
    (hop.context headers input).traceId = p.traceId := by
  have hparent : (hop.received headers).parent = some p := hop.parent_received.trans h
  change (Run.traceAt hop.surroundings _ (hop.received headers).parent).traceId = p.traceId
  rw [hparent, Run.traceAt, TraceContext.traceId_child]

/-- The headers of a call carry a context that continues the one that was delivered, with a span id
from the source of identifiers of the hop. -/
theorem continues_of_mem_calls (h : TraceContext.ofHeaders? headers = some p)
    {call : OutboundCall} (hcall : call ∈ hop.calls headers) :
    ∃ t k, TraceContext.ofHeaders? call.headers = some t ∧ t.Continues p ∧
      t.spanId = TraceContext.spanIdOf (.random (hop.surroundings.identifiers k)) := by
  have hparent : (hop.received headers).parent = some p := hop.parent_received.trans h
  let identifiers := hop.surroundings.identifiers
  let Carries (call : OutboundCall) : Prop :=
    ∃ t k, TraceContext.ofHeaders? call.headers = some t ∧ t.Continues p ∧
      t.spanId = TraceContext.spanIdOf (.random (identifiers k))
  have hkeeps : ((EngineFunction.handler hop.handler).invoke (hop.invocation headers)).Keeps
      hop.surroundings.recording fun kept => ∀ call ∈ kept.2, Carries call := by
    refine EngineFunction.keeps_invoke hop.reaches hparent fun step operation hoperation => ?_
    refine Run.keeps_recorded_call fun k => ?_
    rw [hoperation]
    let t := (p.child (.random (identifiers step))).child (.random (identifiers k))
    have hback : TraceContext.ofHeaders? (t.inject .empty) = some t :=
      TraceContext.ofHeaders?_inject_child_child h _ _
    have hcarried := hop.instrumented.ofHeaders?_outboundAll operation.name operation.payload t
    refine ⟨t, k, hcarried.trans hback, ⟨?_, ?_, ?_⟩, TraceContext.spanId_child _ _⟩
    · rw [TraceContext.traceId_child, TraceContext.traceId_child]
    · rw [TraceContext.sampled_child, TraceContext.sampled_child]
    · rw [TraceContext.baggage_child, TraceContext.baggage_child]
  exact Run.forall_mem_calls hkeeps hop.transport call hcall

end Hop

/-! ## Hops one after the other -/

/-- A number of hops, each of which is delivered the headers of a call that the one before it
made. -/
inductive Relay : Nat → Headers → Headers → Prop
  | start (headers : Headers) : Relay 0 headers headers
  | hop {n : Nat} {first last : Headers} (h : Relay n first last) (hop : Hop) {call : OutboundCall}
      (hcall : call ∈ hop.calls last) : Relay (n + 1) first call.headers

theorem Relay.of_mem {n : Nat} {first last next : Headers} (h : Relay n first last) (hop : Hop)
    (hnext : next ∈ (hop.calls last).map (·.headers)) : Relay (n + 1) first next := by
  obtain ⟨call, hcall, rfl⟩ := List.mem_map.1 hnext
  exact h.hop hop hcall

theorem Relay.continues {n : Nat} {first last : Headers} {p : TraceContext}
    (hp : TraceContext.ofHeaders? first = some p) (h : Relay n first last) :
    ∃ t, TraceContext.ofHeaders? last = some t ∧ t.Continues p := by
  induction h with
  | start headers => exact ⟨p, hp, .refl p⟩
  | hop _ hop hcall ih =>
    obtain ⟨t, ht, hcontinues⟩ := ih hp
    obtain ⟨u, _, hu, hnext, _⟩ := hop.continues_of_mem_calls ht hcall
    exact ⟨u, hu, hnext.trans hcontinues⟩

/-- After any number of hops the headers carry a context that continues the first one. A step that
they are delivered to works under its trace, and the headers of each call that it makes carry it on,
with a span id that headers can have. -/
theorem relay_keeps_trace {n : Nat} {first last : Headers} {p : TraceContext}
    (hp : TraceContext.ofHeaders? first = some p) (h : Relay n first last) :
    (∃ t, TraceContext.ofHeaders? last = some t ∧ t.Continues p) ∧
    ∀ hop : Hop,
      (∀ input, (hop.context last input).traceId = p.traceId) ∧
      ∀ call ∈ hop.calls last, ∃ t k, TraceContext.ofHeaders? call.headers = some t ∧
        t.Continues p ∧
        t.spanId = TraceContext.spanIdOf (.random (hop.surroundings.identifiers k)) := by
  obtain ⟨t, ht, hcontinues⟩ := h.continues hp
  refine ⟨⟨t, ht, hcontinues⟩, fun hop => ⟨fun input => ?_, fun call hcall => ?_⟩⟩
  · exact (hop.traceId_context ht input).trans hcontinues.traceId
  · obtain ⟨u, k, hu, hnext, hspan⟩ := hop.continues_of_mem_calls ht hcall
    exact ⟨u, k, hu, hnext.trans hcontinues, hspan⟩

/-- An engine that a trace passes through, on a transport that answers no call. -/
def passage : Surroundings Unit where
  engine := .new .standard [] []
  answer transport _ := (some (.ok .null), transport)
  readFile _ := none
  identifiers n := .ofNat 128 n

theorem instrumented_passage : Interceptor.Instrumented passage.engine.interceptors :=
  ⟨[], rfl, List.forall_mem_nil _⟩

/-- A step that puts what it gets on a topic. -/
def forwarding : Hop where
  τ := Unit
  surroundings := passage
  transport := ()
  handler := {
    step := "Forward"
    trigger := .queue (.new "orders")
    index := 0
    handler := fun input ctx =>
      (ctx.enqueue ⟨"orders.accepted", input.data, none⟩).bind fun _ => .done .complete }
  payload := .null
  conditionsChecked := false
  instrumented := instrumented_passage
  reaches := {
    handler := fun _ _ _ h => (FlowContext.callsUnder_enqueue h _).bind fun _ => trivial
    condition := nofun
    middleware := nofun }

/-- A step that stores what it gets. -/
def storing : Hop where
  τ := Unit
  surroundings := passage
  transport := ()
  handler := {
    step := "Store"
    trigger := .queue (.new "orders.accepted")
    index := 0
    handler := fun input ctx =>
      (ctx.state.set "orders" "last" input.data).bind fun v => .done (.value v) }
  payload := .null
  conditionsChecked := true
  instrumented := instrumented_passage
  reaches := {
    handler := fun _ _ _ h => (StateStore.callsUnder_set h _ _ _).bind fun _ => trivial
    condition := nofun
    middleware := nofun }

def foreignHeaders : Headers := .ofList [
  ("traceparent", " 00-4BF92F3577B34DA6A3CE929D0E0E4736-00F067AA0BA902B7-03"),
  ("baggage", "user = 42 , tenant=acme;ttl=3")]

/-- From foreign headers through a topic into the state store. -/
theorem relay_from_foreign_headers :
    let p : TraceContext := ⟨"4bf92f3577b34da6a3ce929d0e0e4736", "00f067aa0ba902b7", true,
      .ofList [("tenant", "acme"), ("user", "42")]⟩
    TraceContext.ofHeaders? foreignHeaders = some p ∧
    ∃ last, Relay 2 foreignHeaders last ∧
      ∃ t, TraceContext.ofHeaders? last = some t ∧ t.Continues p := by
  intro p
  have hp : TraceContext.ofHeaders? foreignHeaders = some p := by decide +kernel
  let between : Headers := .ofList [("baggage", "tenant=acme,user=42"),
    ("traceparent", "00-4bf92f3577b34da6a3ce929d0e0e4736-0000000000004000-01")]
  have hforwarded : (forwarding.calls foreignHeaders).map (·.headers) = [between] := by
    decide +kernel
  have hstored : (storing.calls between).map (·.headers) = [between] := by decide +kernel
  have hfirst : Relay 1 foreignHeaders between := (Relay.start _).of_mem forwarding <| by
    rw [hforwarded]
    exact List.mem_singleton_self between
  have hsecond : Relay 2 foreignHeaders between := hfirst.of_mem storing <| by
    rw [hstored]
    exact List.mem_singleton_self between
  exact ⟨hp, between, hsecond, (relay_keeps_trace hp hsecond).1⟩

end StepEngine
