import StepEngine.Proofs.Dispatch
import StepEngine.Proofs.RequestView
import StepEngine.Proofs.Setup

/-!
# Who asks the condition

A transport can ask the condition of a trigger through the condition function and tell the function
of the trigger that it has, or leave it to the function of the trigger.

* `Condition.AnswersBy` : what a condition answers depends on its input and its trigger only;
* `TriggerHandler.direct` : the function of the trigger asks;
* `TriggerHandler.asked` : the transport asks;
* `TriggerHandler.answered` : what comes of an answer, whoever asked (`direct_eq`,
  `asked_eq_of_view`): a request gets the same outcome both ways when the condition answers its view
  as it answers the request itself;
* `TriggerHandler.inputView_of_ne_http` : off routes the condition function sees the whole input, so
  both ways always agree.
-/

namespace StepEngine

variable {τ : Type}

theorem Trigger.kind_info (t : Trigger) (index : Nat) : (t.info index).kind = t.kind := by
  cases t <;> rfl

/-- A condition that calls nothing, and whose answer is the verdict on its input and its trigger. -/
structure Condition.AnswersBy (condition : Condition)
    (verdict : TriggerInput → TriggerInfo → Outcome Bool) : Prop where
  quiet : ∀ input ctx, ctx.input = some input → (condition input ctx).Quiet
  answers : ∀ input ctx, ctx.input = some input →
    (condition input ctx).conclusion = verdict input ctx.trigger

namespace TriggerHandler

/-! ## The two ways -/

/-- How an invocation ends, and how it leaves the transport. -/
def delivery (w : TriggerHandler) (invocation : Invocation) (s : Surroundings τ) (transport : τ) :
    Outcome Json × τ :=
  let result := w.invoke invocation s none (.start transport)
  (result.1, result.2.transport)

/-- The function of the trigger asks its condition. -/
def direct (w : TriggerHandler) (invocation : Invocation) (s : Surroundings τ) (transport : τ) :
    Outcome Json × τ :=
  w.delivery { invocation with conditionsChecked := false } s transport

/-- The transport asks the condition function, in surroundings of its own, and then the function of
the trigger only if the answer is yes. -/
def asked (w : TriggerHandler) (condition : Condition) (invocation : Invocation)
    (before s : Surroundings τ) (transport : τ) : Outcome Json × τ :=
  match (w.gate condition).evaluate invocation before none (.start transport) with
  | (some (.ok (.bool true)), p) =>
    w.delivery { invocation with conditionsChecked := true } s p.transport
  | (some (.ok _), p) => (some (.ok .null), p.transport)
  | (outcome, p) => (outcome, p.transport)

def answered (w : TriggerHandler) (invocation : Invocation) (s : Surroundings τ) (transport : τ) :
    Outcome Bool → Outcome Json × τ
  | some (.ok true) => w.delivery { invocation with conditionsChecked := true } s transport
  | some (.ok false) => (some (.ok .null), transport)
  | some (.error error) => (some (.error error), transport)
  | none => (none, transport)

variable {w : TriggerHandler} {condition : Condition}
  {verdict : TriggerInput → TriggerInfo → Outcome Bool} {invocation : Invocation}
  {input : TriggerInput} {r : ApiRequest}

/-! ## What comes of an answer -/

theorem direct_eq (h : condition.AnswersBy verdict) (hc : w.trigger.condition = some condition)
    (hd : TriggerInput.decode w.trigger.kind invocation.payload = .ok input)
    (ha : w.Admits input) (s : Surroundings τ) (transport : τ) :
    w.direct invocation s transport =
      w.answered invocation s transport (verdict input (w.trigger.info w.index)) := by
  let unchecked := { invocation with conditionsChecked := false }
  let p := Progress.start transport
  have hin : (w.contextAt unchecked s p input).input = some input := rfl
  obtain ⟨q, hq, halike⟩ := (h.quiet input _ hin).run s (some (w.span p))
    (w.opened unchecked s none p)
  rw [h.answers input _ hin,
    show (w.contextAt unchecked s p input).trigger = w.trigger.info w.index from rfl] at hq
  have hinvoke : w.invoke unchecked s none p = _ := invoke_of_condition hd ha hc rfl
  rcases hv : verdict input (w.trigger.info w.index) with _ | error | _ | _
  · rw [hv] at hq
    rw [Run.bind_of_dropped hq] at hinvoke
    rw [direct, delivery, hinvoke]
    exact congrArg (Prod.mk none) halike.transport.symm
  · rw [hv] at hq
    rw [Run.bind_of_error hq] at hinvoke
    rw [direct, delivery, hinvoke]
    exact congrArg (Prod.mk _) halike.transport.symm
  · rw [hv] at hq
    rw [Run.bind_of_ok hq] at hinvoke
    rw [direct, delivery, hinvoke]
    exact congrArg (Prod.mk _) halike.transport.symm
  · rw [hv] at hq
    rw [Run.bind_of_ok hq] at hinvoke
    have hchecked : w.invoke { invocation with conditionsChecked := true } s none p = _ :=
      invoke_of_entry hd ha (.inl rfl)
    obtain ⟨houtcome, hend⟩ := (w.entry input (w.contextAt unchecked s p input)).steady_run s
      (some (w.span p)) (some (w.span p)) _ _ halike
    rw [direct, answered, delivery, delivery, hinvoke, hchecked]
    exact Prod.ext houtcome.symm hend.transport.symm

/-- The condition function answers as the condition answers the view of the payload. -/
theorem evaluate_gate (h : condition.AnswersBy verdict) {view : TriggerInput}
    (hview : TriggerGate.inputView w.trigger.kind invocation.payload = .ok view)
    (s : Surroundings τ) (transport : τ) :
    ∃ q, (w.gate condition).evaluate invocation s none (.start transport) =
        ((verdict view (w.trigger.info w.index)).map (·.map .bool), q) ∧
      q.transport = transport := by
  let p := Progress.start transport
  let ctx := FlowContext.attached w.step (w.trigger.info w.index)
    (Run.traceAt s p invocation.parent) s.engine.streamNames view
  have heval : (w.gate condition).evaluate invocation s none p =
      (condition view ctx).run.bind (fun passed =>
        (Run.log ((w.gate condition).answerEntry passed)).bind fun _ => Run.done (.bool passed))
        s none { p with drawn := p.drawn + Run.draws invocation.parent } := by
    have hkind : (w.gate condition).trigger.kind = w.trigger.kind := Trigger.kind_info _ _
    rw [TriggerGate.evaluate, hkind, hview]
    exact Run.bind_of_ok (Run.continueTrace_apply _ _ _ _)
  obtain ⟨q, hq, halike⟩ := (h.quiet view ctx rfl).run s none
    { p with drawn := p.drawn + Run.draws invocation.parent }
  rw [h.answers view ctx rfl, show ctx.trigger = w.trigger.info w.index from rfl] at hq
  rcases hv : verdict view (w.trigger.info w.index) with _ | error | passed
  · rw [hv] at hq
    exact ⟨q, heval.trans (Run.bind_of_dropped hq), halike.transport.symm⟩
  · rw [hv] at hq
    exact ⟨q, heval.trans (Run.bind_of_error hq), halike.transport.symm⟩
  · rw [hv] at hq
    exact ⟨_, heval.trans (Run.bind_of_ok hq), halike.transport.symm⟩

theorem asked_eq_of_view (h : condition.AnswersBy verdict) {view : TriggerInput}
    (hview : TriggerGate.inputView w.trigger.kind invocation.payload = .ok view)
    (before s : Surroundings τ) (transport : τ) :
    w.asked condition invocation before s transport =
      w.answered invocation s transport (verdict view (w.trigger.info w.index)) := by
  obtain ⟨q, hq, htransport⟩ := evaluate_gate h hview before transport
  rw [asked, hq]
  rcases verdict view (w.trigger.info w.index) with _ | _ | _ | _
  · exact congrArg (Prod.mk none) htransport
  · exact congrArg (Prod.mk _) htransport
  · exact congrArg (Prod.mk _) htransport
  · exact congrArg (w.delivery _ s) htransport

theorem asked_eq (h : condition.AnswersBy verdict) (hk : w.trigger.kind = .http)
    (hd : ApiRequest.decode invocation.payload = .ok r) (before s : Surroundings τ)
    (transport : τ) :
    w.asked condition invocation before s transport =
      w.answered invocation s transport
        (verdict (.http (.shown invocation.payload r)) (w.trigger.info w.index)) := by
  have hview : TriggerGate.inputView w.trigger.kind invocation.payload =
      .ok (.http (.shown invocation.payload r)) := by
    rw [hk, TriggerGate.inputView, TriggerGate.requestView_of_decode hd]
    rfl
  exact asked_eq_of_view h hview before s transport

/-! ## Where the two ways agree -/

theorem entry_ne_null (hk : w.trigger.kind = .http) (r : ApiRequest) (ctx : FlowContext)
    (s : Surroundings τ) (within : Option Span) (p : Progress τ) :
    ((w.entry (.http r) ctx).run s within p).1 ≠ some (.ok .null) := by
  rw [entry_route hk, Activity.run_bind]
  rcases hrun : (Middleware.compose w.trigger.middleware ctx w.handler r).run s within p with
    ⟨_ | error | response, q⟩
  · rw [Run.bind_of_dropped hrun]
    nofun
  · rw [Run.bind_of_error hrun]
    nofun
  · rw [Run.bind_of_ok hrun]
    nofun

/-- An answer is what makes the outcome of a request: no other answer has the same. -/
theorem answered_inj (hk : w.trigger.kind = .http)
    (hd : TriggerInput.decode w.trigger.kind invocation.payload = .ok (.http r))
    (ha : w.Admits (.http r)) (s : Surroundings τ) (transport : τ) {a b : Bool}
    (h : (w.answered invocation s transport (some (.ok a))).1 =
      (w.answered invocation s transport (some (.ok b))).1) : a = b := by
  have hne : (w.answered invocation s transport (some (.ok true))).1 ≠ some (.ok .null) := by
    have hchecked : w.invoke { invocation with conditionsChecked := true } s none
        (.start transport) = _ := invoke_of_entry hd ha (.inl rfl)
    rw [answered, delivery, hchecked]
    exact entry_ne_null hk r _ s _ _
  cases a <;> cases b
  · rfl
  · exact absurd h.symm hne
  · exact absurd h hne
  · rfl

/-- The two ways agree on a request when the condition's verdict on the view is its verdict on the
request; where both verdicts are answers, only then. -/
theorem asked_agrees (h : condition.AnswersBy verdict) (hk : w.trigger.kind = .http)
    (hc : w.trigger.condition = some condition)
    (hd : ApiRequest.decode invocation.payload = .ok r) (ha : w.Admits (.http r))
    (before s : Surroundings τ) (transport : τ) :
    (verdict (.http (.shown invocation.payload r)) (w.trigger.info w.index) =
        verdict (.http r) (w.trigger.info w.index) →
      w.asked condition invocation before s transport = w.direct invocation s transport) ∧
    ∀ a b, verdict (.http (.shown invocation.payload r)) (w.trigger.info w.index) =
        some (.ok a) →
      verdict (.http r) (w.trigger.info w.index) = some (.ok b) →
      ((w.asked condition invocation before s transport).1 =
        (w.direct invocation s transport).1 ↔ a = b) := by
  have hd' : TriggerInput.decode w.trigger.kind invocation.payload = .ok (.http r) := by
    rw [hk, TriggerInput.decode, hd]
    rfl
  rw [asked_eq h hk hd before s transport, direct_eq h hc hd' ha s transport]
  refine ⟨fun hverdict => by rw [hverdict], fun a b hview hrequest => ?_⟩
  rw [hview, hrequest]
  refine ⟨answered_inj hk hd' ha s transport, ?_⟩
  rintro rfl
  rfl

/-- A condition that puts a request to a test. -/
def testing (test : ApiRequest → Bool) : Condition := fun input _ =>
  match input with
  | .http r => .done (test r)
  | _ => .done false

def testVerdict (test : ApiRequest → Bool) (input : TriggerInput) (_ : TriggerInfo) :
    Outcome Bool :=
  match input with
  | .http r => some (.ok (test r))
  | _ => some (.ok false)

theorem testing_answersBy (test : ApiRequest → Bool) :
    (testing test).AnswersBy (testVerdict test) where
  quiet input _ _ := by cases input <;> trivial
  answers input _ _ := by cases input <;> rfl

def tested (test : ApiRequest → Bool) : TriggerHandler where
  step := "View"
  trigger := .http { HttpTrigger.new .get "/v" with condition := some (testing test) }
  index := 0
  handler := fun _ _ => .done (.value (.string "ran"))

theorem admits_tested (test : ApiRequest → Bool) (input : TriggerInput) :
    (tested test).Admits input := nofun

/-- A new engine and a transport that answers no call. -/
def silence : Surroundings Unit where
  engine := .new .standard [] []
  answer transport _ := (none, transport)
  readFile _ := none
  identifiers _ := 0

/-- A condition about the body, asked about a request with a body. -/
theorem asked_agrees_of_body :
    (tested fun r => r.body == .bool true).asked (testing fun r => r.body == .bool true)
        (.new (.object [("method", .string "GET"), ("body", .bool true)])) silence silence () =
      (tested fun r => r.body == .bool true).direct
        (.new (.object [("method", .string "GET"), ("body", .bool true)])) silence () :=
  (asked_agrees (r := { ApiRequest.new "GET" "" with body := .bool true })
    (testing_answersBy fun r => r.body == .bool true) rfl rfl (by rfl)
    (admits_tested _ _) silence silence ()).1 rfl

/-- A condition about the method, asked about a request with a method. -/
theorem asked_disagrees :
    let w := tested fun r => r.method == "GET"
    let invocation := Invocation.new (.object [("method", .string "GET")])
    (testing fun r => r.method == "GET").AnswersBy (testVerdict fun r => r.method == "GET") ∧
    w.trigger.kind = .http ∧ w.trigger.condition = some (testing fun r => r.method == "GET") ∧
    ApiRequest.decode invocation.payload = .ok (.new "GET" "") ∧
    w.Admits (.http (.new "GET" "")) ∧
    (w.asked (testing fun r => r.method == "GET") invocation silence silence ()).1 =
      some (.ok .null) ∧
    (w.direct invocation silence ()).1 =
      some (.ok (ApiResponse.ok (.string "ran")).encode) := by
  refine ⟨testing_answersBy _, rfl, rfl, by rfl, admits_tested _ _, by rfl, by rfl⟩

/-! ## Triggers other than routes -/

/-- A condition function decodes a payload as the function of the trigger does, but for requests. -/
theorem inputView_of_ne_http {kind : TriggerKind} (hk : kind ≠ .http) (payload : Json) :
    TriggerGate.inputView kind payload = TriggerInput.decode kind payload := by
  cases kind with
  | http => exact absurd rfl hk
  | queue | cron | state | stream => rfl

theorem evaluate_of_undecoded {error : StepError}
    (h : TriggerGate.inputView w.trigger.kind invocation.payload = .error error)
    (s : Surroundings τ) (within : Option Span) (p : Progress τ) :
    (w.gate condition).evaluate invocation s within p = (some (.error error), p) := by
  have hkind : (w.gate condition).trigger.kind = w.trigger.kind := Trigger.kind_info _ _
  rw [TriggerGate.evaluate, hkind, h]
  rfl

theorem invoke_of_undecoded {error : StepError}
    (h : TriggerInput.decode w.trigger.kind invocation.payload = .error error)
    (s : Surroundings τ) (within : Option Span) (p : Progress τ) :
    (w.invoke invocation s within p).1 = some (.error error) := by
  rw [invoke_eq, run_of_undecoded h]
  rfl

/-- Off routes a payload that does not decode fails both functions with one error, and the two ways
agree on every other payload that the schema admits. -/
theorem asked_agrees_off_routes (h : condition.AnswersBy verdict)
    (hk : w.trigger.kind ≠ .http) (hc : w.trigger.condition = some condition)
    (before s : Surroundings τ) (transport : τ) :
    (∀ error, TriggerInput.decode w.trigger.kind invocation.payload = .error error →
      (∃ fault, error = .serialization fault) ∧
      ∀ within p q,
        ((w.gate condition).evaluate invocation before within p).1 = some (.error error) ∧
        (w.invoke invocation s within q).1 = some (.error error)) ∧
    ∀ input, TriggerInput.decode w.trigger.kind invocation.payload = .ok input →
      w.Admits input →
      w.asked condition invocation before s transport = w.direct invocation s transport := by
  have hview := inputView_of_ne_http hk invocation.payload
  refine ⟨fun error hd => ?_, fun input hd ha => ?_⟩
  · refine ⟨TriggerInput.serialization_of_decode hd, fun within p q => ?_⟩
    have hgate : (w.gate condition).evaluate invocation before within p =
        (some (.error error), p) := evaluate_of_undecoded (hview.trans hd) before within p
    exact ⟨congrArg Prod.fst hgate, invoke_of_undecoded hd s within q⟩
  · rw [asked_eq_of_view h (hview.trans hd) before s transport, direct_eq h hc hd ha s transport]

def judging (test : TriggerInput → TriggerInfo → Bool) : Condition := fun input ctx =>
  .done (test input ctx.trigger)

theorem judging_answersBy (test : TriggerInput → TriggerInfo → Bool) :
    (judging test).AnswersBy fun input trigger => some (.ok (test input trigger)) where
  quiet _ _ _ := trivial
  answers _ _ _ := rfl

def watching (group : String) : TriggerHandler where
  step := "Watch"
  trigger := .state ⟨some (judging fun input _ => input.state?.any (·.groupId == group))⟩
  index := 0
  handler := fun input _ => .done (.value input.data)

/-- A change of the group, a change of another group, and a payload that is no change. -/
theorem asked_agrees_of_change :
    let w := watching "orders"
    let condition := judging fun input _ => input.state?.any (·.groupId == "orders")
    let change (group : String) : Invocation :=
      .new (.object [("group_id", .string group), ("item_id", .string "7")])
    w.asked condition (change "orders") silence silence () =
      w.direct (change "orders") silence () ∧
    w.asked condition (change "users") silence silence () =
      w.direct (change "users") silence () ∧
    ∃ error, TriggerInput.decode .state (.string "orders") = .error error ∧
      (w.invoke (.new (.string "orders")) silence none (.start ())).1 = some (.error error) := by
  intro w condition change
  have agrees (invocation : Invocation) := @asked_agrees_off_routes _ w condition _ invocation
    (judging_answersBy fun input _ => input.state?.any (·.groupId == "orders")) (by decide) rfl
    silence silence ()
  have changed (group : String) : TriggerInput.decode w.trigger.kind (change group).payload =
      .ok (.state ⟨group, "7", none, none⟩) := rfl
  refine ⟨(agrees _).2 _ (changed "orders") nofun, (agrees _).2 _ (changed "users") nofun, ?_⟩
  exact ⟨_, rfl, (((agrees (.new (.string "orders"))).1 _ rfl).2 none (.start ()) (.start ())).2⟩

end TriggerHandler

end StepEngine
