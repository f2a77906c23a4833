import StepEngine.Proofs.Dispatch

/-!
# Middleware as an onion

A list of middleware is a list of layers around a handler. Lists can be split anywhere, a layer that
answers by itself hides all that it surrounds, and a layer that passes everything through is not
there at all.

* `Middleware.asHandler` : what comes after some layers, as a handler;
* `Middleware.HandsOn` : the requests that some layers can hand on to what comes after them;
* `Middleware.Answers` : a layer does not use what comes after it;
* `Middleware.PassesThrough` : a layer does nothing; `Middleware.Padded` : the same list with such
  layers in between;
* `Middleware.Onion` : how layers compose;
* `TriggerHandler.Outlines.invoke_congr` : invocations of triggers that differ in their middleware,
  with the same work to do;
* `TriggerHandler.layers_compose` : all of it, and that layers which pass everything through are the
  same as no middleware, for invocations as a whole.
-/

namespace StepEngine

namespace Middleware

variable {ctx : FlowContext}

/-! ## Layers one by one -/

theorem around_cons (layer : Middleware) (layers : List Middleware) (ctx : FlowContext)
    (next : Next) (request : ApiRequest) :
    around (layer :: layers) ctx next request = layer request ctx (around layers ctx next) := rfl

theorem around_append (outer inner : List Middleware) (ctx : FlowContext) (next : Next) :
    around (outer ++ inner) ctx next = around outer ctx (around inner ctx next) :=
  List.foldr_append

theorem compose_append (outer inner : List Middleware) (ctx : FlowContext) (handler : Handler) :
    compose (outer ++ inner) ctx handler = around outer ctx (compose inner ctx handler) :=
  around_append outer inner ctx (last handler ctx)

/-- What comes after some layers, as a handler of requests. There is nothing else to handle. -/
def asHandler (next : Next) : Handler
  | .http request, _ => (next request).bind fun response => .done (.response response)
  | _, _ => .done .complete

theorem last_asHandler (next : Next) (ctx : FlowContext) : last (asHandler next) ctx = next := by
  funext request
  show ((next request).bind fun response => .done (StepOutput.response response)).bind
    (fun output => .done output.toResponse) = next request
  rw [Activity.bind_bind]
  exact Activity.bind_done (next request)

/-! ## Layers that answer by themselves -/

/-- What some layers make of a request depends on what comes after them at certain requests only:
no others are handed on. -/
def HandsOn (layers : List Middleware) (ctx : FlowContext) (request : ApiRequest)
    (reached : ApiRequest → Prop) : Prop :=
  ∀ next next' : Next, (∀ inner, reached inner → next inner = next' inner) →
    around layers ctx next request = around layers ctx next' request

/-- A layer makes the same of a request whatever comes after it. -/
def Answers (layer : Middleware) (ctx : FlowContext) (request : ApiRequest) : Prop :=
  ∀ next next' : Next, layer request ctx next = layer request ctx next'

theorem handsOn_all (layers : List Middleware) (ctx : FlowContext) (request : ApiRequest) :
    HandsOn layers ctx request fun _ => True := by
  intro next next' h
  have hsame : next = next' := funext fun inner => h inner trivial
  rw [hsame]

theorem compose_of_answers {before after after' : List Middleware} {layer : Middleware}
    {handler handler' : Handler} {request : ApiRequest} {reached : ApiRequest → Prop}
    (hreached : HandsOn before ctx request reached)
    (hlayer : ∀ inner, reached inner → layer.Answers ctx inner) :
    compose (before ++ layer :: after) ctx handler request =
      compose (before ++ layer :: after') ctx handler' request := by
  rw [compose_append, compose_append]
  refine hreached _ _ ?_
  intro inner hinner
  show layer inner ctx (compose after ctx handler) = layer inner ctx (compose after' ctx handler')
  exact hlayer inner hinner _ _

/-! ## Layers that pass everything through -/

/-- A layer that hands every request on as it is, and the answer back. -/
def PassesThrough (layer : Middleware) : Prop :=
  ∀ (request : ApiRequest) (ctx : FlowContext) (next : Next),
    layer request ctx next = next request

/-- The second list is the first with layers put in that pass everything through. -/
inductive Padded : List Middleware → List Middleware → Prop where
  | nil : Padded [] []
  | keep (layer : Middleware) {layers padded : List Middleware} (h : Padded layers padded) :
    Padded (layer :: layers) (layer :: padded)
  | insert {layer : Middleware} (hlayer : layer.PassesThrough) {layers padded : List Middleware}
    (h : Padded layers padded) : Padded layers (layer :: padded)

theorem padded_of_all {layers : List Middleware}
    (h : ∀ layer ∈ layers, layer.PassesThrough) : Padded [] layers := by
  induction layers with
  | nil => exact .nil
  | cons layer layers ih =>
    obtain ⟨hlayer, hrest⟩ := List.forall_mem_cons.1 h
    exact .insert hlayer (ih hrest)

theorem Padded.around_eq {layers padded : List Middleware} (h : Padded layers padded)
    (ctx : FlowContext) (next : Next) : around padded ctx next = around layers ctx next := by
  induction h with
  | nil => rfl
  | keep layer _ ih =>
    funext request
    rw [around_cons, around_cons, ih]
  | insert hlayer _ ih =>
    funext request
    rw [around_cons, hlayer request ctx, ih]

/-! ## The onion -/

/-- How layers compose around a handler. -/
structure Onion (ctx : FlowContext) (handler : Handler) : Prop where
  /-- The chain is what a loop from the last layer to the first builds. -/
  built : ∀ layers : List Middleware, compose layers ctx handler =
    layers.reverse.foldl (fun inner layer request => layer request ctx inner) (last handler ctx)
  /-- A list is its first part around its second. -/
  append : ∀ outer inner : List Middleware,
    compose (outer ++ inner) ctx handler = around outer ctx (compose inner ctx handler) ∧
    compose (outer ++ inner) ctx handler = compose outer ctx (asHandler (compose inner ctx handler))
  /-- A layer that never uses what comes after it hides it. -/
  answers : ∀ (before after after' : List Middleware) (layer : Middleware) (handler' : Handler),
    (∀ request, layer.Answers ctx request) →
    compose (before ++ layer :: after) ctx handler =
      compose (before ++ layer :: after') ctx handler'
  /-- For that it is enough to look at the requests that can get to the layer. -/
  answers_reached : ∀ (before after after' : List Middleware) (layer : Middleware)
    (handler' : Handler) (request : ApiRequest) (reached : ApiRequest → Prop),
    HandsOn before ctx request reached → (∀ inner, reached inner → layer.Answers ctx inner) →
    compose (before ++ layer :: after) ctx handler request =
      compose (before ++ layer :: after') ctx handler' request
  /-- Layers that pass everything through change nothing. -/
  padded : ∀ layers padded : List Middleware, Padded layers padded →
    compose padded ctx handler = compose layers ctx handler

theorem onion (ctx : FlowContext) (handler : Handler) : Onion ctx handler where
  built layers := List.foldl_reverse.symm
  append outer inner := by
    have happend := compose_append outer inner ctx handler
    -- a chain as a handler stands at the end of the outer layers as it is
    have hchain : compose outer ctx (asHandler (compose inner ctx handler)) =
        around outer ctx (compose inner ctx handler) := by
      rw [compose, last_asHandler]
    exact ⟨happend, happend.trans hchain.symm⟩
  answers before after after' layer handler' hlayer := by
    funext request
    exact compose_of_answers (handsOn_all before ctx request) fun inner _ => hlayer inner
  answers_reached _ _ _ _ _ _ _ hreached hlayer := compose_of_answers hreached hlayer
  padded layers padded h := h.around_eq ctx (last handler ctx)

end Middleware

/-! ## Invocations -/

namespace TriggerHandler

variable {τ : Type}

/-- Two handlers at triggers that are the same but for activities, with the same condition, are
invoked alike when they have the same to do with each input, in the contexts of an invocation. -/
theorem Outlines.invoke_congr {v w : TriggerHandler} (h : v.Outlines w)
    (hcondition : v.trigger.condition = w.trigger.condition)
    (hwork : ∀ engine trace input, v.work input (w.context engine trace input) =
      w.work input (w.context engine trace input)) (invocation : Invocation) :
    (v.invoke invocation : Run τ Json) = w.invoke invocation := by
  -- besides the work, an invocation goes by the outlines and by the condition
  have hlets (checked : Bool) (input : TriggerInput) (ctx : FlowContext) :
      v.letsThrough checked input ctx = w.letsThrough checked input ctx := by
    rw [letsThrough, letsThrough, hcondition]
  have hrun (trace : TraceContext) :
      (v.run invocation trace : Run τ Json) = w.run invocation trace := by
    simp only [run, h.kind, h.check, h.context, h.skipEntry, hlets, hwork]
  simp only [invoke, h.step, h.spanFields, h.failureEntry, hrun]

def withLayers (w : TriggerHandler) (t : HttpTrigger) (layers : List Middleware) :
    TriggerHandler :=
  { w with trigger := .http { t with middleware := layers } }

/-- A route with any middleware does with a request what its layers make of it, with or without the
chain. -/
theorem work_withLayers (w : TriggerHandler) (t : HttpTrigger) (layers : List Middleware)
    (request : ApiRequest) (ctx : FlowContext) :
    (w.withLayers t layers).work (.http request) ctx =
      (Middleware.compose layers ctx w.handler request).bind fun response =>
        .done response.encode := by
  have hkind : (TriggerInput.http request).kind = (w.withLayers t layers).trigger.kind := rfl
  exact work_eq_entry hkind ctx

/-- Layers that pass everything through change nothing about an invocation. -/
theorem invoke_withLayers_padded (w : TriggerHandler) (t : HttpTrigger)
    {layers padded : List Middleware} (h : Middleware.Padded layers padded)
    (invocation : Invocation) :
    ((w.withLayers t padded).invoke invocation : Run τ Json) =
      (w.withLayers t layers).invoke invocation := by
  have houtlines : (w.withLayers t padded).Outlines (w.withLayers t layers) := ⟨rfl, rfl, rfl⟩
  refine houtlines.invoke_congr rfl ?_ invocation
  intro engine trace input
  cases input with
  | http request =>
    rw [work_withLayers, work_withLayers,
      (Middleware.onion _ w.handler).padded layers padded h]
  | queue _ | cron | state _ | stream _ => rfl

/-- Layers compose as an onion does, around every handler. An invocation of a route does not show
layers that pass everything through: when all do, it is the one of the route without middleware,
with the same answer or error and all that is done on the way. -/
theorem layers_compose :
    (∀ (ctx : FlowContext) (handler : Handler), Middleware.Onion ctx handler) ∧
    (∀ (w : TriggerHandler) (t : HttpTrigger) (padded : List Middleware) (invocation : Invocation),
      w.trigger = .http t → Middleware.Padded t.middleware padded →
      ((w.withLayers t padded).invoke invocation : Run τ Json) = w.invoke invocation) ∧
    ∀ (w : TriggerHandler) (t : HttpTrigger) (invocation : Invocation), w.trigger = .http t →
      (∀ layer ∈ t.middleware, layer.PassesThrough) →
      (w.invoke invocation : Run τ Json) = (w.withLayers t []).invoke invocation := by
  have hself (w : TriggerHandler) (t : HttpTrigger) (h : w.trigger = .http t) :
      w.withLayers t t.middleware = w := by
    obtain ⟨step, trigger, index, handler⟩ := w
    obtain rfl : trigger = .http t := h
    rfl
  refine ⟨Middleware.onion, ?_, ?_⟩
  · intro w t padded invocation ht hpadded
    rw [invoke_withLayers_padded w t hpadded, hself w t ht]
  · intro w t invocation ht hlayers
    have hpadded := Middleware.padded_of_all hlayers
    calc (w.invoke invocation : Run τ Json)
        = (w.withLayers t t.middleware).invoke invocation := by rw [hself w t ht]
      _ = (w.withLayers t []).invoke invocation := invoke_withLayers_padded w t hpadded invocation

def naming (user : String) : Middleware := fun request _ next =>
  next (request.withHeader "x-user" (.one user))

def refusing : Middleware := fun _ _ _ => .done (.new 401)

def handingOn : Middleware := fun request _ next => (next request).bind .done

theorem handingOn_passesThrough : handingOn.PassesThrough :=
  fun request _ next => Activity.bind_done (next request)

/-- A chain that ends at a layer in its middle, and routes with layers that hand requests on. -/
theorem layers_compose_at_route :
    let ctx := FlowContext.detached .http
    let handler : Handler := fun _ _ => .done (.value (.string "ran"))
    let route := HttpTrigger.new .get "/a"
    let w (layers : List Middleware) : TriggerHandler :=
      ⟨"A", .http { route with middleware := layers }, 0, handler⟩
    Middleware.compose [naming "alice", refusing, handingOn] ctx handler =
      Middleware.compose [naming "alice", refusing] ctx (fun _ _ => .stall) ∧
    ((w [handingOn, naming "alice", handingOn]).invoke (.new .null) : Run Unit Json) =
      (w [naming "alice"]).invoke (.new .null) ∧
    ((w [handingOn, handingOn]).invoke (.new .null) : Run Unit Json) =
      (w []).invoke (.new .null) := by
  intro ctx handler route w
  obtain ⟨honion, hpadded, hpass⟩ := @layers_compose Unit
  refine ⟨?_, ?_, ?_⟩
  · exact (honion ctx handler).answers [naming "alice"] [handingOn] [] refusing _ fun _ _ _ => rfl
  · have hlayers : Middleware.Padded [naming "alice"] [handingOn, naming "alice", handingOn] :=
      .insert handingOn_passesThrough <| .keep _ <| .insert handingOn_passesThrough .nil
    exact hpadded (w [naming "alice"]) { route with middleware := [naming "alice"] } _ _ rfl hlayers
  · refine hpass (w [handingOn, handingOn]) { route with middleware := [handingOn, handingOn] } _
      rfl ?_
    simp [handingOn_passesThrough]

end TriggerHandler

end StepEngine
