import StepEngine.Proofs.Gating
import StepEngine.Proofs.PayloadCodec

/-!
# The response of a route and the value that a transport gets

The response of a route is written as a value. Who reads this value as a response gets the status,
the headers and the body back, except for a body that is `null`: it is written out, and read as no
body.

* `ApiResponse.decode_encode_iff`, `StepOutput.body_eq_null_iff` : which responses are read as they
  were, and which outputs of a handler are not;
* `TriggerHandler.Decides` : an invocation gets past the schema to the answer of the condition;
* `TriggerHandler.Produces` : the response that comes of it;
* `TriggerHandler.exists_decides_of_ok`, `produces_of_ok` : an invocation that succeeds has produced
  one, or its condition did not let the request pass;
* `TriggerHandler.envelope_restores` : what is read from the value of an invocation.
-/

namespace StepEngine

variable {τ : Type}

/-! ## Responses -/

theorem ApiResponse.settled_eq_iff {r : ApiResponse} : r.settled = r ↔ r.body ≠ some .null := by
  obtain ⟨status, headers, body⟩ := r
  rw [settled, ApiResponse.mk.injEq]
  simp only [true_and]
  cases body with
  | none => exact ⟨nofun, fun _ => rfl⟩
  | some v => cases v <;> simp [Json.nonNull?]

theorem ApiResponse.decode_encode_iff {r : ApiResponse} :
    decode r.encode = .ok r ↔ r.body ≠ some .null := by
  rw [r.decode_encode, Except.ok.injEq, settled_eq_iff]

/-- The outputs of a handler whose response has a body that is `null`. -/
theorem StepOutput.body_eq_null_iff {output : StepOutput} :
    output.toResponse.body = some .null ↔
      output = .value .null ∨ ∃ r, output = .response r ∧ r.body = some .null := by
  cases output with
  | complete => exact ⟨nofun, fun h => by rcases h with h | ⟨r, h, -⟩ <;> cases h⟩
  | value v => simp [toResponse, ApiResponse.ok, ApiResponse.json, ApiResponse.withBody]
  | response r => simp [toResponse]

namespace TriggerHandler

/-! ## What an invocation of a route comes to -/

section Responses

variable (w : TriggerHandler) (invocation : Invocation) (s : Surroundings τ)
  (within : Option Span) (p : Progress τ)

/-- The answer of the condition to a request that the schema admits. Where there is no condition, or
it was asked before, a request passes. -/
structure Decides (request : ApiRequest) (passed : Bool) (reached : Progress τ) : Prop where
  decoded : TriggerInput.decode w.trigger.kind invocation.payload = .ok (.http request)
  admitted : w.Admits (.http request)
  decided : (w.letsThrough invocation.conditionsChecked (.http request)
    (w.contextAt invocation s p (.http request))).run s (some (w.span p))
      (w.opened invocation s within p) = (some (.ok passed), reached)

/-- The response that the middleware around the handler gives to the request of an invocation. -/
def Produces (response : ApiResponse) : Prop :=
  ∃ request reached q, w.Decides invocation s within p request true reached ∧
    (Middleware.compose w.trigger.middleware (w.contextAt invocation s p (.http request)) w.handler
      request).run s (some (w.span p)) reached = (some (.ok response), q)

/-- What can be read from the value that an invocation of a route answers. -/
structure RestoresResponse : Prop where
  /-- A response that is produced is written as the value. What is read from it is the response, but
  for a body that is `null`. -/
  produced : ∀ response, w.Produces invocation s within p response →
    ∃ v, (w.invoke invocation s within p).1 = some (.ok v) ∧
      ApiResponse.decode v = .ok response.settled ∧
      (ApiResponse.decode v = .ok response ↔ response.body ≠ some .null)
  /-- Without middleware it is the response of what the handler gives back. -/
  handled : ∀ request reached output q, w.trigger.middleware = [] →
    w.Decides invocation s within p request true reached →
    (w.handler (.http request) (w.contextAt invocation s p (.http request))).run s
      (some (w.span p)) reached = (some (.ok output), q) →
    w.Produces invocation s within p output.toResponse ∧
    (ApiResponse.decode output.toResponse.encode = .ok output.toResponse ↔
      output ≠ .value .null ∧ ∀ r, output = .response r → r.body ≠ some .null)
  /-- There is no other value, except for a request that the condition does not let pass. -/
  only : ∀ v, (w.invoke invocation s within p).1 = some (.ok v) →
    (∃ response, w.Produces invocation s within p response ∧ v = response.encode) ∨
    v = .null ∧ ∃ request q, w.Decides invocation s within p request false q

end Responses

section Responses

variable {w : TriggerHandler} {invocation : Invocation} {s : Surroundings τ}
  {within : Option Span} {p : Progress τ}

theorem value_of_admitted {input : TriggerInput}
    (h : TriggerInput.decode w.trigger.kind invocation.payload = .ok input)
    (ha : w.Admits input) :
    (w.invoke invocation s within p).1 =
      ((w.letsThrough invocation.conditionsChecked input
        (w.contextAt invocation s p input)).run.bind (fun admitted =>
          if admitted then (w.entry input (w.contextAt invocation s p input)).run
          else (Run.log w.skipEntry).bind fun _ => Run.done .null)
        s (some (w.span p)) (w.opened invocation s within p)).1 := by
  rw [invoke_eq, run_of_admitted h ha, work_eq_entry (TriggerInput.kind_of_decode h)]
  rfl

theorem value_of_decides {request : ApiRequest} {passed : Bool} {reached : Progress τ}
    (h : w.Decides invocation s within p request passed reached) :
    (w.invoke invocation s within p).1 =
      ((if passed then (w.entry (.http request) (w.contextAt invocation s p (.http request))).run
        else (Run.log w.skipEntry).bind fun _ => Run.done .null)
          s (some (w.span p)) reached).1 := by
  rw [value_of_admitted h.decoded h.admitted, Run.bind_of_ok h.decided]

theorem outcome_of_produces (hk : w.trigger.kind = .http) {response : ApiResponse}
    (h : w.Produces invocation s within p response) :
    (w.invoke invocation s within p).1 = some (.ok response.encode) := by
  obtain ⟨request, reached, q, hreached, hrun⟩ := h
  rw [value_of_decides hreached, if_pos rfl, entry_route hk, Activity.run_bind, Run.bind_of_ok hrun]
  rfl

/-- An invocation that succeeds has got past its schema, and its condition gave an answer. -/
theorem exists_decides_of_ok (hk : w.trigger.kind = .http) {v : Json}
    (h : (w.invoke invocation s within p).1 = some (.ok v)) :
    ∃ request passed reached, w.Decides invocation s within p request passed reached := by
  cases hd : TriggerInput.decode w.trigger.kind invocation.payload with
  | error error =>
    rw [invoke_eq, run_of_undecoded hd] at h
    cases h
  | ok input =>
    have hkind := TriggerInput.kind_of_decode hd
    rcases w.admits_or_refuses input with ha | ⟨schema, refusal, hschema, hr⟩
    · rw [value_of_admitted hd ha] at h
      cases input with
      | http request =>
        rcases hlets : (w.letsThrough invocation.conditionsChecked (.http request)
            (w.contextAt invocation s p (.http request))).run s (some (w.span p))
              (w.opened invocation s within p) with ⟨_ | error | passed, q⟩
        · rw [Run.bind_of_dropped hlets] at h
          cases h
        · rw [Run.bind_of_error hlets] at h
          cases h
        · exact ⟨request, passed, q, hd, ha, hlets⟩
      | queue _ | cron | state _ | stream _ => cases hkind.trans hk
    · rw [invoke_eq, run_of_refused hd hschema hr] at h
      cases h

theorem produces_of_ok (hk : w.trigger.kind = .http) {v : Json}
    (h : (w.invoke invocation s within p).1 = some (.ok v)) :
    (∃ response, w.Produces invocation s within p response ∧ v = response.encode) ∨
    v = .null ∧ ∃ request q, w.Decides invocation s within p request false q := by
  obtain ⟨request, passed, reached, hdecides⟩ := exists_decides_of_ok hk h
  rw [value_of_decides hdecides] at h
  cases passed with
  | false =>
    cases h
    exact .inr ⟨rfl, request, reached, hdecides⟩
  | true =>
    rw [if_pos rfl, entry_route hk, Activity.run_bind] at h
    rcases hrun : (Middleware.compose w.trigger.middleware
        (w.contextAt invocation s p (.http request)) w.handler request).run s (some (w.span p))
          reached with ⟨_ | error | response, q⟩
    · rw [Run.bind_of_dropped hrun] at h
      cases h
    · rw [Run.bind_of_error hrun] at h
      cases h
    · rw [Run.bind_of_ok hrun] at h
      cases h
      exact .inl ⟨response, ⟨request, reached, q, hdecides, hrun⟩, rfl⟩

theorem produces_of_handler (hm : w.trigger.middleware = []) {request : ApiRequest}
    {reached q : Progress τ} {output : StepOutput}
    (h : w.Decides invocation s within p request true reached)
    (hrun : (w.handler (.http request) (w.contextAt invocation s p (.http request))).run s
      (some (w.span p)) reached = (some (.ok output), q)) :
    w.Produces invocation s within p output.toResponse := by
  refine ⟨request, reached, q, h, ?_⟩
  rw [hm]
  change ((w.handler _ _).bind fun output => .done output.toResponse).run s _ _ = _
  rw [Activity.run_bind, Run.bind_of_ok hrun]
  rfl

end Responses

/-- A response of a route is read from the value of the invocation exactly when its body is not
`null`, wherever it comes from. -/
theorem envelope_restores {w : TriggerHandler} (hk : w.trigger.kind = .http)
    (invocation : Invocation) (s : Surroundings τ) (within : Option Span) (p : Progress τ) :
    w.RestoresResponse invocation s within p where
  produced response h :=
    ⟨response.encode, outcome_of_produces hk h, response.decode_encode,
      ApiResponse.decode_encode_iff⟩
  handled request reached output q hm h hrun := by
    refine ⟨produces_of_handler hm h hrun, ?_⟩
    rw [ApiResponse.decode_encode_iff, ne_eq, StepOutput.body_eq_null_iff, not_or, not_exists]
    simp only [not_and]
  only v h := produces_of_ok hk h

def stamping : Middleware := fun request _ next =>
  (next request).bind fun response => .done (response.withHeader "x-served-by" "steps")

def answering (layers : List Middleware) (output : StepOutput) : TriggerHandler where
  step := "Answer"
  trigger := .http { HttpTrigger.new .get "/a" with middleware := layers }
  index := 0
  handler := fun _ _ => .done output

/-- A response with a body and with headers from the handler and from the middleware. -/
theorem envelope_restores_created :
    let created := (ApiResponse.json 201 (.object [("id", .ofNat 7)])).withHeader "location" "/a/7"
    let w := answering [stamping] (.response created)
    w.trigger.kind = .http ∧
    ∃ v, (w.invoke (.new (.object [])) silence none (.start ())).1 = some (.ok v) ∧
      ApiResponse.decode v = .ok (created.withHeader "x-served-by" "steps") := by
  intro created w
  have hrestores := envelope_restores (w := w) rfl (.new (.object [])) silence none (.start ())
  have hproduces : w.Produces (.new (.object [])) silence none (.start ())
      (created.withHeader "x-served-by" "steps") :=
    ⟨.new "" "", _, _, ⟨rfl, nofun, rfl⟩, rfl⟩
  obtain ⟨v, hv, -, hiff⟩ := hrestores.produced _ hproduces
  exact ⟨rfl, v, hv, hiff.2 (by decide)⟩

/-- A handler that gives `null` back: status 200 with a body, which is read as a response without
one. -/
theorem null_body_is_lost :
    let w := answering [] (.value .null)
    w.trigger.kind = .http ∧
    (w.invoke (.new (.object [])) silence none (.start ())).1 =
      some (.ok (.object [("body", .null), ("status_code", .ofNat 200)])) ∧
    StepOutput.toResponse (.value .null) = .ok .null ∧
    ApiResponse.decode (.object [("body", .null), ("status_code", .ofNat 200)]) =
      .ok (.new 200) ∧
    ApiResponse.new 200 ≠ .ok .null :=
  ⟨rfl, by rfl, rfl, by rfl, by decide⟩

end TriggerHandler

end StepEngine
