import StepEngine.Proofs.Dispatch
import StepEngine.Proofs.Multiples

/-!
# The order of an invocation

A payload that does not decode, or that the schema of the trigger refuses, gets no further; neither does
one that the condition does not let pass. Every other payload reaches the handler as it was decoded.

* `TriggerHandler.DispatchOrder` : what an invocation comes to, by the stage at which it ends;
* `TriggerHandler.dispatches_in_order` : so it is for every invocation.
-/

namespace StepEngine.TriggerHandler

variable {τ : Type}

/-- The stages of an invocation, in order. Where one of them stops it, the end is the same for all
handlers that differ in the activities of the stages after it: these have not run. -/
structure DispatchOrder (w : TriggerHandler) (invocation : Invocation) (s : Surroundings τ)
    (within : Option Span) (p : Progress τ) : Prop where
  /-- A payload that does not decode. -/
  undecoded : ∀ error,
    TriggerInput.decode w.trigger.kind invocation.payload = .error error →
    (∃ fault, error = .serialization fault) ∧
    ∀ v : TriggerHandler, v.Outlines w → v.invoke invocation s within p =
      w.closed within (w.span p) (some (.error error), w.opened invocation s within p)
  /-- A body or a message that the schema refuses, because it does not satisfy the schema or because
  the schema does not compile. -/
  refused : ∀ input schema refusal,
    TriggerInput.decode w.trigger.kind invocation.payload = .ok input →
    w.trigger.inputSchema = some schema →
    schema.Refuses w.label input.data refusal →
    ∀ v : TriggerHandler, v.Outlines w → v.invoke invocation s within p =
      w.closed within (w.span p) (some (.error refusal.error),
        (w.opened invocation s within p).logged refusal.entry (some (w.span p)))
  /-- Nothing else is refused. -/
  admitted : ∀ input, w.Admits input ↔ ∀ schema refusal,
    w.trigger.inputSchema = some schema → ¬schema.Refuses w.label input.data refusal
  /-- A condition that has to be asked and does not let the input pass. -/
  gated : ∀ input condition verdict q,
    TriggerInput.decode w.trigger.kind invocation.payload = .ok input → w.Admits input →
    w.trigger.condition = some condition → invocation.conditionsChecked = false →
    (condition input (w.contextAt invocation s p input)).run s (some (w.span p))
      (w.opened invocation s within p) = (verdict, q) →
    ∀ v : TriggerHandler, v.Outlines w → v.trigger.condition = some condition →
      (∀ error, verdict = some (.error error) →
        v.invoke invocation s within p = w.closed within (w.span p) (some (.error error), q)) ∧
      (verdict = some (.ok false) →
        v.invoke invocation s within p = w.closed within (w.span p)
          (some (.ok .null), q.logged w.skipEntry (some (w.span p)))) ∧
      (verdict = none → v.invoke invocation s within p = w.closed within (w.span p) (none, q))
  /-- A condition that has to be asked and lets the input pass: the handler is entered, once, with
  the input as it was decoded. -/
  passed : ∀ input condition q,
    TriggerInput.decode w.trigger.kind invocation.payload = .ok input → w.Admits input →
    w.trigger.condition = some condition → invocation.conditionsChecked = false →
    (condition input (w.contextAt invocation s p input)).run s (some (w.span p))
      (w.opened invocation s within p) = (some (.ok true), q) →
    w.invoke invocation s within p = w.closed within (w.span p)
      ((w.entry input (w.contextAt invocation s p input)).run s (some (w.span p)) q)
  /-- No condition has to be asked: the handler is entered at once, whatever the condition is. -/
  unasked : ∀ input,
    TriggerInput.decode w.trigger.kind invocation.payload = .ok input → w.Admits input →
    ∀ v : TriggerHandler, v.Outlines w → v.trigger.middleware = w.trigger.middleware →
      v.handler = w.handler →
      invocation.conditionsChecked = true ∨ v.trigger.condition = none →
      v.invoke invocation s within p = w.closed within (w.span p)
        ((w.entry input (w.contextAt invocation s p input)).run s (some (w.span p))
          (w.opened invocation s within p))

/-- An invocation goes through its stages in order and stops at the first that fails. -/
theorem dispatches_in_order (w : TriggerHandler) (invocation : Invocation) (s : Surroundings τ)
    (within : Option Span) (p : Progress τ) : w.DispatchOrder invocation s within p where
  undecoded error h := by
    refine ⟨TriggerInput.serialization_of_decode h, fun v hv => ?_⟩
    rw [← hv.kind] at h
    rw [invoke_eq, run_of_undecoded h, hv.closed, hv.span, hv.opened]
  refused input schema refusal h hschema hr v hv := by
    rw [← hv.kind] at h
    rw [← hv.inputSchema] at hschema
    rw [← hv.label] at hr
    rw [invoke_eq, run_of_refused h hschema hr, hv.closed, hv.span, hv.opened]
  admitted input := by
    refine ⟨fun ha schema refusal hschema => ?_, fun h schema hschema => ?_⟩
    · exact Schema.not_refuses_of_accepts (ha schema hschema) refusal
    · exact Schema.accepts_iff.2 fun refusal => h schema refusal hschema
  gated input condition verdict q h ha hc hu hrun v hv hvc := by
    rw [← hv.kind] at h
    rw [invoke_of_condition h (hv.admits.2 ha) hvc hu, hv.closed, hv.span, hv.opened,
      hv.contextAt]
    refine ⟨?_, ?_, ?_⟩
    · rintro error rfl
      rw [Run.bind_of_error hrun]
    · rintro rfl
      rw [Run.bind_of_ok hrun, show w.skipEntry = v.skipEntry by rw [skipEntry, skipEntry, hv.step]]
      rfl
    · rintro rfl
      rw [Run.bind_of_dropped hrun]
  passed input condition q h ha hc hu hrun := by
    rw [invoke_of_condition h ha hc hu, Run.bind_of_ok hrun]
    rfl
  unasked input h ha v hv hm hh hu := by
    rw [← hv.kind] at h
    rw [invoke_of_entry h (hv.admits.2 ha) hu, hv.closed, hv.span, hv.opened, hv.contextAt,
      hv.entry hm hh]

/-- A route that takes orders with a schema for their body; those for later are put aside. -/
def orderDesk (schema : Schema) : TriggerHandler where
  step := "Desk"
  trigger := .http { HttpTrigger.new .post "/orders" with
    bodySchema := some schema
    condition := some fun input _ => .done (input.data != .string "later") }
  index := 0
  handler := fun input _ => .done (.value input.data)

/-- Texts, as a type. -/
def anyText : Schema :=
  .typed ⟨"String", .object [("type", .string "string")], fun v => (Decode.text v).map fun _ => ()⟩

/-- Multiples of five, as a declarative schema. -/
def fives : Schema := .json (.multipleOf (.int 5))

/-- A declarative schema in a draft that nobody knows. -/
def strange : Schema := .json (.object [("$schema", .string "urn:none")])

def order (body : Json) : ApiRequest := (ApiRequest.new "POST" "").withBody body

def ordering (body : Json) : Invocation :=
  .new (.object [("body", body), ("method", .string "POST")])

/-- What an order at the desk comes to. -/
def DeskAnswers (schema : Schema) (body : Json) (outcome : Outcome Json) : Prop :=
  ∀ (s : Surroundings Unit) (within : Option Span) (p : Progress Unit),
    ((orderDesk schema).invoke (ordering body) s within p).1 = outcome

/-- An order that the schema refuses, one that is no text, one that meets a schema which does not
compile, one for later and one for now. -/
theorem orderDesk_dispatches_in_order :
    DeskAnswers fives (.number (.int 12))
      (some (.error (.validation "http:Desk" "$: 12 is not a multiple of 5"))) ∧
    DeskAnswers anyText (.bool true)
      (some (.error (.validation "http:Desk" "invalid type: boolean `true`, expected a string"))) ∧
    DeskAnswers strange (.string "now")
      (some (.error (.configuration (.schema "http:Desk" (.unknownDraft "urn:none"))))) ∧
    DeskAnswers anyText (.string "later") (some (.ok .null)) ∧
    DeskAnswers anyText (.string "now") (some (.ok (ApiResponse.ok (.string "now")).encode)) := by
  have horder (schema : Schema) (body : Json) (s : Surroundings Unit) within p :=
    dispatches_in_order (orderDesk schema) (ordering body) s within p
  have hrefused {schema : Schema} {body : Json} {refusal : Refusal}
      (hdecode : TriggerInput.decode .http (ordering body).payload = .ok (.http (order body)))
      (hrefuses : schema.Refuses "http:Desk" body refusal) :
      DeskAnswers schema body (some (.error refusal.error)) := by
    intro s within p
    rw [(horder schema body s within p).refused _ _ _ hdecode rfl hrefuses _ ⟨rfl, rfl, rfl⟩]
    rfl
  have hadmits (text : String) : (orderDesk anyText).Admits (.http (order (.string text))) := by
    rintro _ ⟨⟩
    rfl
  refine ⟨?_, ?_, ?_, fun s within p => ?_, fun s within p => ?_⟩
  · have hrefusal := Schema.refusal?_multipleOf (show 0 < (Number.int 5).units by decide +kernel)
      (by decide +kernel) "http:Desk" (.int 12)
    have hcomputed : ¬(Number.int 12).toDouble.isMultipleOf (Number.int 5).toDouble = true := by
      decide +kernel
    rw [if_neg hcomputed] at hrefusal
    have hmessage : Refusal.details
        [⟨[], .notMultiple (.number (.int 12)) (Number.int 5).toDouble⟩] =
          "$: 12 is not a multiple of 5" := by decide +kernel
    rw [← hmessage]
    exact hrefused rfl (Schema.refusal?_eq_some_iff.1 hrefusal)
  · have hrefuses : anyText.Refuses "http:Desk" (.bool true) _ := .undecoded rfl
    exact hrefused rfl hrefuses
  · have hrefuses : strange.Refuses "http:Desk" (.string "now") _ := .uncompiled rfl
    exact hrefused rfl hrefuses
  · have hgated := (horder anyText (.string "later") s within p).gated
      (.http (order (.string "later"))) _ _ _ rfl (hadmits "later") rfl rfl rfl _ ⟨rfl, rfl, rfl⟩ rfl
    rw [hgated.2.1 rfl]
    rfl
  · rw [(horder anyText (.string "now") s within p).passed (.http (order (.string "now"))) _ _
      rfl (hadmits "now") rfl rfl rfl]
    rfl

end StepEngine.TriggerHandler
