import StepEngine.Proofs.Plan
import StepEngine.Proofs.Registration

/-!
# Triggers refer to functions that are there

A transport can invoke what a registered trigger names: the function of the trigger and, where there
is one, that of its condition are registered before the trigger is.

* `TriggerRegistration.RefersTo` : the functions that a trigger names are among some ids;
* `Founded` : a plan registers functions before the triggers that name them; the plan of a step does
  (`founded_plan`), and so does that of the endpoints (`founded_endpointPlan`);
* `SetupCall` : what is done with a transport while engines are set up on it. `SetupCall.during` is the
  transport in the middle of a call, after some of its registrations;
* `Sound` : every trigger refers to functions that are there, and is known to be derived from a trigger
  of a step or to be one of the endpoints;
* `SetupCall.triggers_stay_sound` : so it is at every point of every run.
-/

namespace StepEngine

/-! ## What a trigger names -/

/-- The functions that a trigger names are among some ids. -/
structure TriggerRegistration.RefersTo (t : TriggerRegistration) (ids : List String) : Prop where
  function : t.functionId ∈ ids
  condition : ∀ v, t.config.find? RegistrationRecord.conditionKey = some v →
    ∃ id ∈ ids, v = .string id

theorem TriggerRegistration.RefersTo.mono {t : TriggerRegistration} {ids more : List String}
    (h : t.RefersTo ids) (hmore : ∀ id ∈ ids, id ∈ more) : t.RefersTo more where
  function := hmore _ h.function
  condition v hv := by
    obtain ⟨id, hid, rfl⟩ := h.condition v hv
    exact ⟨id, hmore id hid, rfl⟩

theorem KindConfig.ne_conditionKey {kind : KindConfig} {e : String × Json} (h : e ∈ kind.members) :
    e.1 ≠ RegistrationRecord.conditionKey := by
  have htext {key : String} {text : Option String} (hkey : key ≠ RegistrationRecord.conditionKey)
      (he : e ∈ TriggerInfo.textMember key text) : e.1 ≠ RegistrationRecord.conditionKey := by
    cases text with
    | none => cases he
    | some text =>
      rw [List.mem_singleton.1 he]
      exact hkey
  cases kind with
  | http apiPath method =>
    simp only [KindConfig.members, List.mem_cons, List.not_mem_nil, or_false] at h
    rcases h with rfl | rfl
    · show "api_path" ≠ "condition_function_id"
      decide
    · show "http_method" ≠ "condition_function_id"
      decide
  | queue topic =>
    rw [List.mem_singleton.1 h]
    show "topic" ≠ "condition_function_id"
    decide
  | cron expression =>
    rw [List.mem_singleton.1 h]
    show "expression" ≠ "condition_function_id"
    decide
  | state => cases h
  | stream streamName groupId itemId =>
    simp only [KindConfig.members, List.mem_append, List.mem_singleton] at h
    rcases h with (rfl | h) | h
    · show "stream_name" ≠ "condition_function_id"
      decide
    · exact htext (by decide) h
    · exact htext (by decide) h

namespace RegistrationRecord

/-- The registration of a record names the function of its condition, if it has one. -/
theorem find?_conditionKey (r : RegistrationRecord) :
    r.toTriggerRegistration.config.find? conditionKey = r.conditionId.map .string := by
  have hkind : r.kindConfig.members.reverse.lookup conditionKey = none := by
    rw [List.lookup_eq_none_iff]
    intro e he
    have hne := KindConfig.ne_conditionKey (List.mem_reverse.1 he)
    simpa using hne.symm
  change (SortedMap.ofList r.members).find? conditionKey = _
  rw [SortedMap.find?_ofList, members, List.reverse_append, List.reverse_append]
  cases r.conditionId with
  | none =>
    change List.lookup conditionKey (("metadata", r.metadata) :: r.kindConfig.members.reverse) = none
    rw [SortedMap.lookup_cons_eq, if_neg (by decide), hkind]
  | some id =>
    change List.lookup conditionKey ((conditionKey, Json.string id) :: _) = _
    rw [List.lookup_cons_self]
    rfl

theorem refersTo_ids {d : StepDefinition} {filePath : String} {r : RegistrationRecord}
    (h : r ∈ d.config.registrations filePath) :
    r.toTriggerRegistration.RefersTo (d.config.ids filePath) := by
  have hids (id : String) (hid : id ∈ r.ids) : id ∈ d.config.ids filePath :=
    List.mem_flatMap.2 ⟨r, h, hid⟩
  refine ⟨hids _ List.mem_cons_self, fun v hv => ?_⟩
  rw [find?_conditionKey, Option.map_eq_some_iff] at hv
  obtain ⟨id, hid, rfl⟩ := hv
  refine ⟨id, hids id (List.mem_cons_of_mem _ ?_), rfl⟩
  rw [hid]
  exact List.mem_singleton_self id

end RegistrationRecord

/-! ## Plans that register functions first -/

/-- Each trigger of a plan names functions that are known, or that the plan registers before it. -/
def Founded : (known : List String) → List Registration → Prop
  | _, [] => True
  | known, .function id _ :: rest => Founded (id :: known) rest
  | known, .trigger t :: rest => t.RefersTo known ∧ Founded known rest

theorem Founded.take {known : List String} {plan : List Registration} (h : Founded known plan)
    (k : Nat) : Founded known (plan.take k) := by
  induction plan generalizing known k with
  | nil => rwa [List.take_nil]
  | cons r rest ih =>
    cases k with
    | zero => trivial
    | succ k =>
      cases r with
      | function id f => exact ih h k
      | trigger t => exact ⟨h.1, ih h.2 k⟩

theorem founded_functions {known : List String} {fs : List (String × EngineFunction)}
    {plan : List Registration} (h : Founded ((fs.map (·.1)).reverse ++ known) plan) :
    Founded known ((fs.map fun f => .function f.1 f.2) ++ plan) := by
  induction fs generalizing known with
  | nil => exact h
  | cons f fs ih =>
    rw [List.map_cons, List.reverse_cons, List.append_assoc] at h
    exact ih h

theorem founded_triggers {known : List String} {ts : List TriggerRegistration}
    (h : ∀ t ∈ ts, t.RefersTo known) : Founded known (ts.map .trigger) := by
  induction ts with
  | nil => trivial
  | cons t ts ih =>
    obtain ⟨ht, hts⟩ := List.forall_mem_cons.1 h
    exact ⟨ht, ih hts⟩

theorem founded_plan (d : StepDefinition) (filePath : String) : Founded [] (d.plan filePath) := by
  have htriggers : ∀ t ∈ (d.config.registrations filePath).map
      RegistrationRecord.toTriggerRegistration,
      t.RefersTo (((d.functions filePath).map (·.1)).reverse ++ []) := by
    intro t ht
    obtain ⟨r, hr, rfl⟩ := List.mem_map.1 ht
    refine (RegistrationRecord.refersTo_ids hr).mono fun id hid => ?_
    rwa [List.append_nil, List.mem_reverse, map_fst_functions]
  have hplan := founded_functions (founded_triggers htriggers)
  rwa [List.map_map] at hplan

/-- The route of an endpoint has no condition. -/
theorem find?_conditionKey_route (path : String) :
    (SortedMap.ofList (KindConfig.http path .get).members).find? RegistrationRecord.conditionKey =
      none := by
  rw [SortedMap.find?_ofList, List.lookup_eq_none_iff]
  intro e he
  have hne := KindConfig.ne_conditionKey (List.mem_reverse.1 he)
  simpa using hne.symm

theorem founded_routePlan {known : List String} {plan : List Registration} (id path : String)
    (f : EngineFunction) (h : Founded (id :: known) plan) :
    Founded known (Setup.routePlan id path f ++ plan) := by
  refine ⟨⟨List.mem_cons_self, fun v hv => ?_⟩, h⟩
  rw [find?_conditionKey_route] at hv
  cases hv

theorem founded_endpointPlan : Founded [] Setup.endpointPlan := by
  have hlast (known : List String) : Founded known
      (Setup.routePlan "kikkake::steps::list" "__kikkake/steps" .stepList ++ []) :=
    founded_routePlan _ _ _ trivial
  exact founded_routePlan _ _ _ (hlast _)

/-! ## Calls -/

/-- What is done with a transport while engines are set up on it. The engine of a call is any engine:
one that is new, or one that has been set up on the transport before and knows some steps. -/
inductive SetupCall where
  | construct (engine : Engine)
  | addStep (engine : Engine) (d : StepDefinition) (filePath : String)
  | stepEndpoint (engine : Engine)
  | reject (id details : String)

namespace SetupCall

variable {transport : Recorder EngineFunction}

/-- The transport after a call, whether the call succeeds or fails. -/
def after (transport : Recorder EngineFunction) : SetupCall → Recorder EngineFunction
  | construct engine => (Setup.construct ⟨engine, transport, []⟩).2.transport
  | addStep engine d filePath => (Setup.addStep d filePath ⟨engine, transport, []⟩).2.transport
  | stepEndpoint engine => (Setup.stepEndpoint ⟨engine, transport, []⟩).2.transport
  | reject id details => transport.rejectRegistration id details

def afterAll (transport : Recorder EngineFunction) (calls : List SetupCall) :
    Recorder EngineFunction :=
  calls.foldl after transport

def prepare (transport : Recorder EngineFunction) : SetupCall → Recorder EngineFunction
  | reject id details => transport.rejectRegistration id details
  | _ => transport

def plan : SetupCall → List Registration
  | construct engine => if engine.settings.stepEndpoint then Setup.endpointPlan else []
  | addStep _ d filePath => d.plan filePath
  | stepEndpoint _ => Setup.endpointPlan
  | reject _ _ => []

/-- The transport in a call, after its first `k` registrations or the first refusal. -/
def during (transport : Recorder EngineFunction) (c : SetupCall) (k : Nat) :
    Recorder EngineFunction :=
  ((c.prepare transport).carryOut (c.plan.take k)).2

theorem transport_addStep (d : StepDefinition) (filePath : String) (site : Site) :
    (Setup.addStep d filePath site).2.transport =
      (site.transport.carryOut (d.plan filePath)).2 := by
  rcases h : site.transport.carryOut (d.plan filePath) with ⟨_ | error, transport⟩
  · obtain ⟨events, hadd⟩ := Setup.addStep_of_accepted h
    rw [hadd]
  · obtain ⟨events, hadd⟩ := Setup.addStep_of_refused h
    rw [hadd]

theorem transport_stepEndpoint (site : Site) :
    (Setup.stepEndpoint site).2.transport = (site.transport.carryOut Setup.endpointPlan).2 :=
  congrArg Prod.snd (Setup.follows_stepEndpoint.ends site)

theorem transport_construct (site : Site) :
    (Setup.construct site).2.transport = (site.transport.carryOut
      (if site.engine.settings.stepEndpoint then Setup.endpointPlan else [])).2 := by
  rw [Setup.construct]
  split
  · have hfollows := Setup.follows_stepEndpoint.bind fun _ => Setup.follows_log
      ⟨.info, "Runtime initialized", [("service", .string site.engine.settings.serviceName)]⟩
    rw [List.append_nil] at hfollows
    exact congrArg Prod.snd (hfollows.ends site)
  · rfl

/-- A call is over when all its registrations have been made. -/
theorem during_of_length_le (transport : Recorder EngineFunction) (c : SetupCall) {k : Nat}
    (h : c.plan.length ≤ k) : during transport c k = after transport c := by
  rw [during, List.take_of_length_le h]
  cases c with
  | construct engine => exact (transport_construct ⟨engine, transport, []⟩).symm
  | addStep engine d filePath => exact (transport_addStep d filePath ⟨engine, transport, []⟩).symm
  | stepEndpoint engine => exact (transport_stepEndpoint ⟨engine, transport, []⟩).symm
  | reject id details => rfl

theorem founded (c : SetupCall) : Founded [] c.plan := by
  cases c with
  | construct engine =>
    rw [plan]
    split
    · exact founded_endpointPlan
    · trivial
  | addStep engine d filePath => exact founded_plan d filePath
  | stepEndpoint engine => exact founded_endpointPlan
  | reject id details => trivial

/-! ## Every point of a run -/

/-- A trigger is derived from a trigger of a step that was added in one of the calls, and names a
condition exactly when that one has a condition; or it is the route of an endpoint. -/
inductive Derived (calls : List SetupCall) (t : TriggerRegistration) : Prop where
  | step (engine : Engine) (d : StepDefinition) (filePath : String) (i : Nat) (u : Trigger)
      (r : RegistrationRecord) (call : addStep engine d filePath ∈ calls)
      (trigger : d.config.triggers[i]? = some u)
      (record : (d.config.registrations filePath)[i]? = some r)
      (registration : t = r.toTriggerRegistration)
      (condition : (t.config.find? RegistrationRecord.conditionKey).isSome = u.condition.isSome)
  | route (planned : .trigger t ∈ Setup.endpointPlan)
      (condition : t.config.find? RegistrationRecord.conditionKey = none)

/-- Every trigger of a transport names functions that are registered, and it is known what it is
derived from. -/
structure Sound (calls : List SetupCall) (transport : Recorder EngineFunction) : Prop where
  refers : ∀ t ∈ transport.triggers, t.RefersTo transport.functionIds
  derived : ∀ t ∈ transport.triggers, Derived calls t

theorem Derived.mono {calls more : List SetupCall} {t : TriggerRegistration} (h : Derived calls t) :
    Derived (calls ++ more) t := by
  cases h with
  | step engine d filePath i u r call trigger record registration condition =>
    exact .step engine d filePath i u r (List.mem_append_left _ call) trigger record registration
      condition
  | route planned condition => exact .route planned condition

/-- The triggers of the endpoints are routes. -/
theorem exists_of_mem_endpointPlan {t : TriggerRegistration}
    (h : .trigger t ∈ Setup.endpointPlan) :
    ∃ id path, t = ⟨.http, id, .ofList (KindConfig.http path .get).members⟩ := by
  simp only [Setup.endpointPlan, Setup.routePlan, List.cons_append, List.nil_append, List.mem_cons,
    List.not_mem_nil, or_false, reduceCtorEq, false_or, Registration.trigger.injEq] at h
  rcases h with rfl | rfl
  · exact ⟨_, _, rfl⟩
  · exact ⟨_, _, rfl⟩

theorem derived_of_mem_endpointPlan {calls : List SetupCall} {t : TriggerRegistration}
    (h : .trigger t ∈ Setup.endpointPlan) : Derived calls t := by
  refine .route h ?_
  obtain ⟨id, path, rfl⟩ := exists_of_mem_endpointPlan h
  exact find?_conditionKey_route path

theorem derived_of_mem_plan {calls : List SetupCall} {c : SetupCall} {t : TriggerRegistration}
    (hc : c ∈ calls) (h : .trigger t ∈ c.plan) : Derived calls t := by
  cases c with
  | construct engine =>
    rw [plan] at h
    split at h
    · exact derived_of_mem_endpointPlan h
    · cases h
  | addStep engine d filePath =>
    rcases List.mem_append.1 h with h | h
    · obtain ⟨f, -, heq⟩ := List.mem_map.1 h
      cases heq
    · obtain ⟨r, hr, heq⟩ := List.mem_map.1 h
      obtain rfl := Registration.trigger.inj heq
      obtain ⟨i, hi⟩ := List.mem_iff_getElem?.1 hr
      have hrecord := hi
      rw [StepConfig.getElem?_registrations, Option.map_eq_some_iff] at hi
      obtain ⟨u, hu, rfl⟩ := hi
      refine .step engine d filePath i u _ hc hu hrecord rfl ?_
      rw [RegistrationRecord.find?_conditionKey, Option.isSome_map]
      exact Option.isSome_map
  | stepEndpoint engine => exact derived_of_mem_endpointPlan h
  | reject id details => cases h

/-- A registration that is accepted keeps a transport sound: a function only adds to what triggers
may name, and a trigger comes after the functions that it names. -/
theorem Sound.applyTo {calls : List SetupCall} {known : List String} {r : Registration}
    {rest : List Registration} (h : Sound calls transport) (hplan : Founded known (r :: rest))
    (hknown : ∀ id ∈ known, id ∈ transport.functionIds)
    (hderived : ∀ t, r = .trigger t → Derived calls t) :
    Sound calls (r.applyTo transport) ∧ ∃ more, Founded more rest ∧
      ∀ id ∈ more, id ∈ (r.applyTo transport).functionIds := by
  cases r with
  | function id f =>
    have hids (other : String) : other ∈ (transport.withFunctions [(id, f)]).functionIds ↔
        other = id ∨ other ∈ transport.functionIds := Recorder.mem_ids_put
    refine ⟨⟨fun t ht => ?_, h.derived⟩, id :: known, hplan, fun other hother => ?_⟩
    · exact (h.refers t ht).mono fun other hother => (hids other).2 (.inr hother)
    · refine (hids other).2 ?_
      rcases List.mem_cons.1 hother with rfl | hother
      · exact .inl rfl
      · exact .inr (hknown other hother)
  | trigger t =>
    refine ⟨⟨fun u hu => ?_, fun u hu => ?_⟩, known, hplan.2, hknown⟩
    · rcases List.mem_append.1 hu with hu | hu
      · exact h.refers u hu
      · rw [List.mem_singleton.1 hu]
        exact hplan.1.mono hknown
    · rcases List.mem_append.1 hu with hu | hu
      · exact h.derived u hu
      · rw [List.mem_singleton.1 hu]
        exact hderived t rfl

/-- A plan keeps a transport sound, however far it gets. -/
theorem Sound.carryOut {calls : List SetupCall} {known : List String} {plan : List Registration}
    (h : Sound calls transport) (hplan : Founded known plan)
    (hknown : ∀ id ∈ known, id ∈ transport.functionIds)
    (hderived : ∀ t, .trigger t ∈ plan → Derived calls t) :
    Sound calls (transport.carryOut plan).2 := by
  induction plan generalizing known transport with
  | nil => exact h
  | cons r rest ih =>
    cases hr : transport.rejections.find? r.id with
    | some details =>
      rw [Recorder.carryOut_cons_of_refused hr]
      exact h
    | none =>
      rw [Recorder.carryOut_cons_of_accepts hr]
      obtain ⟨hsound, more, hrest, hmore⟩ := h.applyTo hplan hknown fun t heq =>
        hderived t (heq ▸ List.mem_cons_self)
      exact ih hsound hrest hmore fun t ht => hderived t (List.mem_cons_of_mem _ ht)

theorem Sound.during {calls : List SetupCall} (h : Sound calls transport) (c : SetupCall) (k : Nat) :
    Sound (calls ++ [c]) (during transport c k) := by
  have hprepared : Sound (calls ++ [c]) (c.prepare transport) := by
    have hmore : Sound (calls ++ [c]) transport := ⟨h.refers, fun t ht => (h.derived t ht).mono⟩
    cases c with
    | reject id details => exact ⟨hmore.refers, hmore.derived⟩
    | construct engine => exact hmore
    | addStep engine d filePath => exact hmore
    | stepEndpoint engine => exact hmore
  refine hprepared.carryOut (c.founded.take k) (fun _ hid => absurd hid List.not_mem_nil) ?_
  intro t ht
  have hc : c ∈ calls ++ [c] := List.mem_append_right _ (List.mem_singleton_self c)
  exact derived_of_mem_plan hc (List.mem_of_mem_take ht)

theorem Sound.afterAll {done : List SetupCall} (h : Sound done transport)
    (calls : List SetupCall) : Sound (done ++ calls) (afterAll transport calls) := by
  induction calls generalizing done transport with
  | nil => rwa [List.append_nil]
  | cons c calls ih =>
    have hc := h.during c c.plan.length
    rw [during_of_length_le transport c (Nat.le_refl _)] at hc
    have hrest := ih hc
    rwa [List.append_assoc, List.singleton_append] at hrest

/-- At every point of every run on a transport that starts without triggers, also in the middle of a
call, all triggers name functions that are registered; the condition of a trigger is named exactly
when the trigger of the step has one. -/
theorem triggers_stay_sound (start : Recorder EngineFunction) (h : start.triggers = [])
    (calls : List SetupCall) :
    Sound calls (afterAll start calls) ∧
      ∀ c k, Sound (calls ++ [c]) (during (afterAll start calls) c k) := by
  have hstart : Sound [] start := by
    constructor
    all_goals
      rw [h]
      exact List.forall_mem_nil _
  have hcalls := hstart.afterAll calls
  exact ⟨hcalls, fun c k => hcalls.during c k⟩

def gated (name : String) (sound : ((StepConfig.new name).withTrigger
    (Trigger.withCondition (fun _ _ => .done true) (.queue (.new "t")))).problems = []) :
    StepDefinition :=
  ⟨_, fun _ _ => .done .complete, sound⟩

def refusedOnce : List SetupCall :=
  let engine := Engine.new { Settings.standard with stepEndpoint := true } [] []
  [.construct engine,
    .reject "steps::A::trigger::queue(t)::conditions::0" "no",
    .addStep engine (gated "A" (by decide)) "steps/a.rs",
    .addStep engine (gated "B" (by decide)) "steps/b.rs"]

theorem triggers_stay_sound_after_refusal :
    (Recorder.empty : Recorder EngineFunction).triggers = [] ∧
      (afterAll .empty refusedOnce).functionIds =
        ["kikkake::step::get", "kikkake::steps::list", "steps::A::trigger::queue(t)",
          "steps::B::trigger::queue(t)", "steps::B::trigger::queue(t)::conditions::0"] ∧
      (afterAll .empty refusedOnce).triggers.length = 3 ∧
      Sound refusedOnce (afterAll .empty refusedOnce) ∧
      ∀ c k, Sound (refusedOnce ++ [c]) (during (afterAll .empty refusedOnce) c k) :=
  ⟨rfl, by decide +kernel, by decide +kernel, triggers_stay_sound .empty rfl refusedOnce⟩

end SetupCall

end StepEngine
