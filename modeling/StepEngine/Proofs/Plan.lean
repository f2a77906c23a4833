import StepEngine.Proofs.Setup

/-!
# Registrations as a plan

Whatever is set up makes its registrations with the transport in an order that is known beforehand,
and stops at the first that is refused.

* `Registration` : a function or a trigger that is registered;
* `Recorder.carryOut` : registrations made in order, up to the first refusal; `carryOut_cases` says
  where this ends, and with which error;
* `Setup.Follows` : a setup makes the registrations of a plan, fails when one of them is refused, and
  leaves the engine as it is; plans are joined as setups are (`Follows.bind`);
* `Setup.endpointPlan` : the plan of the endpoints that show steps (`follows_stepEndpoint`);
* `StepDefinition.plan` : the plan of a step. `Setup.addStep_of_accepted`, `addStep_of_refused` : a
  step is recorded when its plan has been carried out, and otherwise the engine does not change.
-/

namespace StepEngine

inductive Registration where
  | function (id : String) (f : EngineFunction)
  | trigger (t : TriggerRegistration)

namespace Registration

def id : Registration → String
  | function id _ => id
  | trigger t => t.functionId

def operation : Registration → String
  | function _ _ => "register_function"
  | trigger _ => "register_trigger"

def applyTo (transport : Recorder EngineFunction) : Registration → Recorder EngineFunction
  | function id f => transport.withFunctions [(id, f)]
  | trigger t => transport.withTriggers [t]

/-- What several leave, all of them accepted. -/
def applyAll (transport : Recorder EngineFunction) (plan : List Registration) :
    Recorder EngineFunction :=
  plan.foldl applyTo transport

/-- A registration does not change which ids are refused. -/
@[simp] theorem rejections_applyTo (r : Registration) (transport : Recorder EngineFunction) :
    (r.applyTo transport).rejections = transport.rejections := by
  cases r <;> rfl

theorem applyAll_functions (transport : Recorder EngineFunction)
    (fs : List (String × EngineFunction)) :
    applyAll transport (fs.map fun f => function f.1 f.2) = transport.withFunctions fs := by
  induction fs generalizing transport with
  | nil => rfl
  | cons f fs ih =>
    change applyAll (transport.withFunctions [f]) (fs.map fun f => function f.1 f.2) = _
    rw [ih]
    rfl

end Registration

namespace Recorder

/-- Registrations made in order, up to the first refusal. -/
def carryOut (transport : Recorder EngineFunction) :
    List Registration → Option StepError × Recorder EngineFunction
  | [] => (none, transport)
  | r :: rest =>
    match transport.refusal? r.operation r.id with
    | some error => (some error, transport)
    | none => (r.applyTo transport).carryOut rest

@[simp] theorem carryOut_nil (transport : Recorder EngineFunction) :
    transport.carryOut [] = (none, transport) := rfl

theorem refusal?_of_accepts {transport : Recorder EngineFunction} {id : String}
    (h : transport.Accepts id) (operation : String) : transport.refusal? operation id = none := by
  rw [refusal?, h]
  rfl

theorem refusal?_of_find? {transport : Recorder EngineFunction} {id details : String}
    (h : transport.rejections.find? id = some details) (operation : String) :
    transport.refusal? operation id = some (.transport operation details) := by
  rw [refusal?, h]
  rfl

theorem carryOut_cons_of_accepts {transport : Recorder EngineFunction} {r : Registration}
    (h : transport.Accepts r.id) (rest : List Registration) :
    transport.carryOut (r :: rest) = (r.applyTo transport).carryOut rest := by
  rw [carryOut, refusal?_of_accepts h]

theorem carryOut_cons_of_refused {transport : Recorder EngineFunction} {r : Registration}
    {details : String} (h : transport.rejections.find? r.id = some details)
    (rest : List Registration) :
    transport.carryOut (r :: rest) = (some (.transport r.operation details), transport) := by
  rw [carryOut, refusal?_of_find? h]

theorem carryOut_append_of_none {transport after : Recorder EngineFunction}
    {plan : List Registration} (h : transport.carryOut plan = (none, after))
    (more : List Registration) : transport.carryOut (plan ++ more) = after.carryOut more := by
  induction plan generalizing transport with
  | nil =>
    obtain rfl : transport = after := (Prod.mk.inj h).2
    rfl
  | cons r rest ih =>
    rw [carryOut] at h
    rw [List.cons_append, carryOut]
    cases hr : transport.refusal? r.operation r.id with
    | some error =>
      rw [hr] at h
      cases h
    | none =>
      rw [hr] at h
      exact ih h

theorem carryOut_append_of_some {transport after : Recorder EngineFunction}
    {plan : List Registration} {error : StepError}
    (h : transport.carryOut plan = (some error, after)) (more : List Registration) :
    transport.carryOut (plan ++ more) = (some error, after) := by
  induction plan generalizing transport with
  | nil => cases h
  | cons r rest ih =>
    rw [carryOut] at h
    rw [List.cons_append, carryOut]
    cases hr : transport.refusal? r.operation r.id with
    | some error =>
      rw [hr] at h
      exact h
    | none =>
      rw [hr] at h
      exact ih h

/-- The registration at which a plan ends before its time. -/
structure StopsAt (transport : Recorder EngineFunction) (plan before : List Registration)
    (r : Registration) (details : String) : Prop where
  split : ∃ after, plan = before ++ r :: after
  accepted : ∀ other ∈ before, transport.Accepts other.id
  refused : transport.rejections.find? r.id = some details

/-- A plan is carried out in full, or up to the first registration that is refused. -/
theorem carryOut_cases (transport : Recorder EngineFunction) (plan : List Registration) :
    (∀ r ∈ plan, transport.Accepts r.id) ∧
      transport.carryOut plan = (none, Registration.applyAll transport plan) ∨
    ∃ before r details, transport.StopsAt plan before r details ∧
      transport.carryOut plan =
        (some (.transport r.operation details), Registration.applyAll transport before) := by
  induction plan generalizing transport with
  | nil => exact .inl ⟨List.forall_mem_nil _, rfl⟩
  | cons r rest ih =>
    cases hr : transport.rejections.find? r.id with
    | some details =>
      right
      exact ⟨[], r, details, ⟨⟨rest, rfl⟩, List.forall_mem_nil _, hr⟩,
        carryOut_cons_of_refused hr rest⟩
    | none =>
      have haccepts (id : String) : (r.applyTo transport).Accepts id ↔ transport.Accepts id := by
        rw [Accepts, Accepts, Registration.rejections_applyTo]
      rw [carryOut_cons_of_accepts hr]
      rcases ih (r.applyTo transport) with ⟨hall, hrest⟩ | ⟨before, q, details, hstop, hrest⟩
      · left
        refine ⟨List.forall_mem_cons.2 ⟨hr, fun q hq => (haccepts q.id).1 (hall q hq)⟩, ?_⟩
        rw [hrest]
        rfl
      · right
        obtain ⟨⟨after, rfl⟩, hbefore, hq⟩ := hstop
        refine ⟨r :: before, q, details, ⟨⟨after, rfl⟩, ?_, ?_⟩, ?_⟩
        · exact List.forall_mem_cons.2 ⟨hr, fun b hb => (haccepts b.id).1 (hbefore b hb)⟩
        · rwa [Registration.rejections_applyTo] at hq
        · rw [hrest]
          rfl

end Recorder

namespace Setup

variable {α β γ : Type}

theorem bind_assoc (a : Setup α) (next : α → Setup β) (last : β → Setup γ) :
    (a.bind next).bind last = a.bind fun x => (next x).bind last := by
  funext site
  simp only [Setup.bind]
  rcases a site with ⟨error | x, between⟩ <;> rfl

/-! ## Setups that follow a plan -/

/-- The error of a setup, if it fails. -/
def failure? : Except StepError α → Option StepError
  | .ok _ => none
  | .error error => some error

/-- A setup makes the registrations of a plan, in order, fails when one of them is refused, and
leaves the engine as it is. -/
structure Follows (a : Setup α) (plan : List Registration) : Prop where
  ends : ∀ site : Site, (failure? (a site).1, (a site).2.transport) = site.transport.carryOut plan
  engine : ∀ site : Site, (a site).2.engine = site.engine

theorem Follows.bind {a : Setup α} {next : α → Setup β} {plan more : List Registration}
    (ha : a.Follows plan) (hnext : ∀ x, (next x).Follows more) :
    (a.bind next).Follows (plan ++ more) := by
  constructor
  · intro site
    have hfirst := ha.ends site
    simp only [Setup.bind]
    rcases h : a site with ⟨error | x, between⟩
    · rw [h] at hfirst
      exact (Recorder.carryOut_append_of_some hfirst.symm more).symm
    · rw [h] at hfirst
      rw [Recorder.carryOut_append_of_none hfirst.symm more]
      exact (hnext x).ends between
  · intro site
    have hfirst := ha.engine site
    simp only [Setup.bind]
    rcases h : a site with ⟨error | x, between⟩
    · rw [h] at hfirst
      exact hfirst
    · rw [h] at hfirst
      exact ((hnext x).engine between).trans hfirst

theorem follows_done (result : α) : (done result).Follows [] := ⟨fun _ => rfl, fun _ => rfl⟩

theorem follows_log (entry : LogEntry) : (log entry).Follows [] := ⟨fun _ => rfl, fun _ => rfl⟩

theorem follows_logAll (entries : List LogEntry) : (logAll entries).Follows [] := by
  induction entries with
  | nil => exact follows_done ()
  | cons entry rest ih => exact (follows_log entry).bind fun _ => ih

theorem follows_registerFunction (id : String) (f : EngineFunction) :
    (registerFunction id f).Follows [.function id f] := by
  constructor
  all_goals
    intro site
    simp only [registerFunction, register, Recorder.registerFunction, Recorder.carryOut,
      Registration.operation, Registration.id]
    cases site.transport.refusal? "register_function" id <;> rfl

theorem follows_registerTrigger (t : TriggerRegistration) :
    (registerTrigger t).Follows [.trigger t] := by
  constructor
  all_goals
    intro site
    simp only [registerTrigger, register, Recorder.registerTrigger, Recorder.carryOut,
      Registration.operation, Registration.id]
    cases site.transport.refusal? "register_trigger" t.functionId <;> rfl

theorem follows_registerFunctions (fs : List (String × EngineFunction)) :
    (registerFunctions fs).Follows (fs.map fun f => .function f.1 f.2) := by
  induction fs with
  | nil => exact follows_done ()
  | cons f fs ih => exact (follows_registerFunction f.1 f.2).bind fun _ => ih

theorem follows_registerTriggers (ts : List TriggerRegistration) :
    (registerTriggers ts).Follows (ts.map .trigger) := by
  induction ts with
  | nil => exact follows_done ()
  | cons t ts ih => exact (follows_registerTrigger t).bind fun _ => ih

theorem follows_registerStepFunctions (d : StepDefinition) (index : Nat)
    (triggers : List (Trigger × RegistrationRecord)) :
    (registerStepFunctions d index triggers).Follows
      ((d.functionsFrom index triggers).map fun f => .function f.1 f.2) := by
  induction triggers generalizing index with
  | nil => exact follows_done ()
  | cons entry rest ih =>
    obtain ⟨t, r⟩ := entry
    rw [StepDefinition.functionsFrom, List.map_append]
    refine (follows_log _).bind fun _ => ?_
    exact (follows_registerFunctions _).bind fun _ => ih (index + 1)

/-! ## The endpoints -/

/-- The registrations of an endpoint: a function and the route that asks for it. -/
def routePlan (id path : String) (f : EngineFunction) : List Registration :=
  [.function id f, .trigger ⟨.http, id, .ofList (KindConfig.http path .get).members⟩]

def endpointPlan : List Registration :=
  routePlan "kikkake::step::get" "__kikkake/step/:stepId" .stepContent ++
    routePlan "kikkake::steps::list" "__kikkake/steps" .stepList

theorem follows_registerEndpoint (id path label : String) (f : EngineFunction) :
    (registerEndpoint id path label f).Follows (routePlan id path f) :=
  (follows_registerFunction id f).bind fun _ =>
    (follows_registerTrigger _).bind fun _ => follows_log _

theorem follows_stepEndpoint : stepEndpoint.Follows endpointPlan :=
  (follows_registerEndpoint _ _ _ _).bind fun _ => follows_registerEndpoint _ _ _ _

end Setup

/-! ## Steps -/

/-- The registrations of a step: all its functions, then all its triggers. -/
def StepDefinition.plan (d : StepDefinition) (filePath : String) : List Registration :=
  (d.functions filePath).map (fun f => .function f.1 f.2) ++
    (d.config.registrations filePath).map fun r => .trigger r.toTriggerRegistration

namespace Setup

def registerStep (d : StepDefinition) (filePath : String) : Setup Unit :=
  (logAll d.config.duplicateWarnings).bind fun _ =>
  (registerStepFunctions d 0 (d.config.triggers.zip (d.config.registrations filePath))).bind fun _ =>
  registerTriggers ((d.config.registrations filePath).map RegistrationRecord.toTriggerRegistration)

/-- The record of a step, after everything has been registered for it. -/
def recordStep (d : StepDefinition) (filePath : String) : Setup (List RegistrationRecord) :=
  let records := d.config.registrations filePath
  (modifyEngine fun r => r.withSource ⟨d.config.name, filePath⟩).bind fun _ =>
  (log (stepEntry d.config.name filePath records.length)).bind fun _ =>
  done records

theorem addStep_eq (d : StepDefinition) (filePath : String) :
    addStep d filePath = (registerStep d filePath).bind fun _ => recordStep d filePath := by
  rw [registerStep, bind_assoc]
  simp only [bind_assoc]
  rfl

theorem follows_registerStep (d : StepDefinition) (filePath : String) :
    (registerStep d filePath).Follows (d.plan filePath) := by
  have htriggers := follows_registerTriggers
    ((d.config.registrations filePath).map RegistrationRecord.toTriggerRegistration)
  rw [List.map_map] at htriggers
  refine (follows_logAll _).bind fun _ => ?_
  exact (follows_registerStepFunctions d 0 _).bind fun _ => htriggers

/-- A step whose registrations are all accepted is added, and its source is recorded. -/
theorem addStep_of_accepted {d : StepDefinition} {filePath : String} {site : Site}
    {transport : Recorder EngineFunction}
    (h : site.transport.carryOut (d.plan filePath) = (none, transport)) :
    ∃ events, addStep d filePath site = (.ok (d.config.registrations filePath),
      ⟨site.engine.withSource ⟨d.config.name, filePath⟩, transport, events⟩) := by
  have hends := (follows_registerStep d filePath).ends site
  have hengine := (follows_registerStep d filePath).engine site
  rw [h] at hends
  rw [addStep_eq, Setup.bind]
  rcases hstep : registerStep d filePath site with ⟨error | ⟨⟩, ⟨engine, after, events⟩⟩
  · rw [hstep] at hends
    cases (Prod.mk.inj hends).1
  · rw [hstep] at hends hengine
    obtain rfl : after = transport := (Prod.mk.inj hends).2
    obtain rfl : engine = site.engine := hengine
    exact ⟨_, rfl⟩

/-- A step with a registration that is refused is not added, and the engine is as it was. -/
theorem addStep_of_refused {d : StepDefinition} {filePath : String} {site : Site}
    {error : StepError} {transport : Recorder EngineFunction}
    (h : site.transport.carryOut (d.plan filePath) = (some error, transport)) :
    ∃ events, addStep d filePath site = (.error error, ⟨site.engine, transport, events⟩) := by
  have hends := (follows_registerStep d filePath).ends site
  have hengine := (follows_registerStep d filePath).engine site
  rw [h] at hends
  rw [addStep_eq, Setup.bind]
  rcases hstep : registerStep d filePath site with ⟨cause | ⟨⟩, ⟨engine, after, events⟩⟩
  · rw [hstep] at hends hengine
    obtain ⟨hcause, hafter⟩ := Prod.mk.inj hends
    obtain rfl : cause = error := Option.some.inj hcause
    obtain rfl : after = transport := hafter
    obtain rfl : engine = site.engine := hengine
    exact ⟨_, rfl⟩
  · rw [hstep] at hends
    cases (Prod.mk.inj hends).1

end Setup

end StepEngine
