import StepEngine.Engine.Setup
import StepEngine.Proofs.Recorder

/-!
# What setting up a step does

* `Setup.bind_ok_iff` : one thing after another succeeds when each does;
* `Setup.registerFunctions_ok_iff`, `registerTriggers_ok_iff` : registrations succeed when no id of
  theirs is refused, and this is what they leave;
* `TriggerHandler.gate` : the condition function of a trigger (`Setup.functionsOf_of_condition`);
* `RegistrationRecord.ids` : the ids of a record: that of the trigger, that of the condition;
* `StepDefinition.functions` : the functions of a step, in the order in which they are registered
  (`map_fst_functions`);
* `Setup.addStep_ok_iff` : a step is added when no id of its records is refused, and
  `StepDefinition.addedTo` is what that leaves.
-/

namespace StepEngine

variable {α : Type}

/-! ## Sites -/

namespace Site

def withLogged (site : Site) (entries : List LogEntry) : Site :=
  { site with events := site.events ++ entries.map fun entry => .logged entry none }

def withFunctions (site : Site) (added : List (String × EngineFunction)) : Site :=
  { site with transport := site.transport.withFunctions added }

def withTriggers (site : Site) (added : List TriggerRegistration) : Site :=
  { site with transport := site.transport.withTriggers added }

def withSource (site : Site) (source : StepSource) : Site :=
  { site with engine := site.engine.withSource source }

theorem withLogged_nil (site : Site) : site.withLogged [] = site := by
  rw [withLogged, List.map_nil, List.append_nil]

theorem withLogged_append (site : Site) (entries more : List LogEntry) :
    site.withLogged (entries ++ more) = (site.withLogged entries).withLogged more := by
  simp only [withLogged, List.map_append, List.append_assoc]

theorem withLogged_withFunctions (site : Site) (entries : List LogEntry)
    (added : List (String × EngineFunction)) :
    (site.withLogged entries).withFunctions added = (site.withFunctions added).withLogged entries :=
  rfl

theorem withFunctions_append (site : Site) (added more : List (String × EngineFunction)) :
    site.withFunctions (added ++ more) = (site.withFunctions added).withFunctions more := by
  simp only [withFunctions, Recorder.withFunctions, Recorder.putAll_append]

theorem withTriggers_nil (site : Site) : site.withTriggers [] = site := by
  rw [withTriggers, Recorder.withTriggers, List.append_nil]

theorem withTriggers_append (site : Site) (added more : List TriggerRegistration) :
    site.withTriggers (added ++ more) = (site.withTriggers added).withTriggers more := by
  simp only [withTriggers, Recorder.withTriggers, List.append_assoc]

end Site

namespace Setup

/-! ## One thing after another -/

theorem bind_ok_iff {a : Setup Unit} {next : Unit → Setup α} {site site' : Site} {x : α} :
    a.bind next site = (.ok x, site') ↔
      ∃ between, a site = (.ok (), between) ∧ next () between = (.ok x, site') := by
  rcases h : a site with ⟨error | _, between⟩
  · simp only [bind, h]
    refine ⟨fun heq => (by cases heq), ?_⟩
    rintro ⟨_, heq, -⟩
    cases heq
  · simp only [bind, h]
    refine ⟨fun heq => ⟨between, rfl, heq⟩, ?_⟩
    rintro ⟨_, heq, hnext⟩
    cases heq
    exact hnext

theorem done_ok_iff {site site' : Site} : done () site = (.ok (), site') ↔ site = site' := by
  rw [done, Prod.mk.injEq, eq_self, true_and]

theorem log_ok_iff {entry : LogEntry} {site site' : Site} :
    log entry site = (.ok (), site') ↔ site' = site.withLogged [entry] := by
  rw [log, Prod.mk.injEq, eq_self, true_and, eq_comm]
  rfl

theorem modifyEngine_ok_iff {change : Engine → Engine} {site site' : Site} :
    modifyEngine change site = (.ok (), site') ↔
      site' = { site with engine := change site.engine } := by
  rw [modifyEngine, Prod.mk.injEq, eq_self, true_and, eq_comm]

theorem logAll_ok_iff {entries : List LogEntry} {site site' : Site} :
    logAll entries site = (.ok (), site') ↔ site' = site.withLogged entries := by
  induction entries generalizing site with
  | nil => rw [logAll, done_ok_iff, eq_comm, Site.withLogged_nil]
  | cons entry rest ih =>
    simp only [logAll, bind_ok_iff, log_ok_iff, ih]
    rw [exists_eq_left, ← Site.withLogged_append, List.singleton_append]

/-! ## Registrations -/

theorem register_ok_iff {change : Recorder EngineFunction → Except StepError
    (Recorder EngineFunction)} {site site' : Site} :
    register change site = (.ok (), site') ↔
      ∃ transport, change site.transport = .ok transport ∧
        site' = { site with transport := transport } := by
  rcases h : change site.transport with error | transport
  · simp only [register, h]
    refine ⟨fun heq => (by cases heq), ?_⟩
    rintro ⟨_, heq, -⟩
    cases heq
  · simp only [register, h]
    refine ⟨fun heq => ⟨transport, rfl, (Prod.mk.inj heq).2.symm⟩, ?_⟩
    rintro ⟨_, heq, rfl⟩
    cases heq
    rfl

theorem registerFunction_ok_iff {id : String} {f : EngineFunction} {site site' : Site} :
    registerFunction id f site = (.ok (), site') ↔
      site.transport.Accepts id ∧ site' = site.withFunctions [(id, f)] := by
  rw [registerFunction, register_ok_iff]
  simp only [Recorder.registerFunction_ok_iff, and_assoc, exists_and_left, exists_eq_left]
  rfl

theorem registerTrigger_ok_iff {t : TriggerRegistration} {site site' : Site} :
    registerTrigger t site = (.ok (), site') ↔
      site.transport.Accepts t.functionId ∧ site' = site.withTriggers [t] := by
  rw [registerTrigger, register_ok_iff]
  simp only [Recorder.registerTrigger_ok_iff, and_assoc, exists_and_left, exists_eq_left]
  rfl

theorem registerFunctions_ok_iff {fs : List (String × EngineFunction)} {site site' : Site} :
    registerFunctions fs site = (.ok (), site') ↔
      (∀ f ∈ fs, site.transport.Accepts f.1) ∧ site' = site.withFunctions fs := by
  induction fs generalizing site with
  | nil =>
    rw [registerFunctions, done_ok_iff]
    exact ⟨fun h => ⟨List.forall_mem_nil _, h.symm⟩, fun h => h.2.symm⟩
  | cons f fs ih =>
    rw [registerFunctions, bind_ok_iff, List.forall_mem_cons]
    simp only [registerFunction_ok_iff, ih]
    constructor
    · rintro ⟨_, ⟨hf, rfl⟩, hfs, rfl⟩
      exact ⟨⟨hf, hfs⟩, rfl⟩
    · rintro ⟨⟨hf, hfs⟩, rfl⟩
      exact ⟨_, ⟨hf, rfl⟩, hfs, rfl⟩

theorem registerTriggers_ok_iff {ts : List TriggerRegistration} {site site' : Site} :
    registerTriggers ts site = (.ok (), site') ↔
      (∀ t ∈ ts, site.transport.Accepts t.functionId) ∧ site' = site.withTriggers ts := by
  induction ts generalizing site with
  | nil =>
    rw [registerTriggers, done_ok_iff, Site.withTriggers_nil]
    exact ⟨fun h => ⟨List.forall_mem_nil _, h.symm⟩, fun h => h.2.symm⟩
  | cons t ts ih =>
    rw [registerTriggers, bind_ok_iff, List.forall_mem_cons, ← List.singleton_append,
      Site.withTriggers_append]
    simp only [registerTrigger_ok_iff, ih]
    constructor
    · rintro ⟨_, ⟨ht, rfl⟩, hts, rfl⟩
      exact ⟨⟨ht, hts⟩, rfl⟩
    · rintro ⟨⟨ht, hts⟩, rfl⟩
      exact ⟨_, ⟨ht, rfl⟩, hts, rfl⟩

end Setup

/-! ## The functions of a step -/

def RegistrationRecord.ids (r : RegistrationRecord) : List String :=
  r.functionId :: r.conditionId.toList

/-- The ids of a step, in the order of its triggers. -/
def StepConfig.ids (c : StepConfig) (filePath : String) : List String :=
  (c.registrations filePath).flatMap RegistrationRecord.ids

/-- The condition of the trigger as a function of its own. -/
def TriggerHandler.gate (w : TriggerHandler) (condition : Condition) : TriggerGate :=
  ⟨w.step, w.trigger.info w.index, condition⟩

/-- These are the functions that are registered for a trigger with a condition. -/
theorem Setup.functionsOf_of_condition (d : StepDefinition) (index : Nat) (t : Trigger)
    (r : RegistrationRecord) {condition : Condition} {id : String} (hc : t.condition = some condition)
    (hr : r.conditionId = some id) :
    functionsOf d index t r =
      [(r.functionId, .handler ⟨d.config.name, t, index, d.handler⟩),
        (id, .gate (TriggerHandler.gate ⟨d.config.name, t, index, d.handler⟩ condition))] := by
  rw [functionsOf, hc, hr]
  rfl

namespace StepDefinition

def functionsFrom (d : StepDefinition) : (index : Nat) → List (Trigger × RegistrationRecord) →
    List (String × EngineFunction)
  | _, [] => []
  | index, (t, r) :: rest => Setup.functionsOf d index t r ++ d.functionsFrom (index + 1) rest

def functions (d : StepDefinition) (filePath : String) : List (String × EngineFunction) :=
  d.functionsFrom 0 (d.config.triggers.zip (d.config.registrations filePath))

end StepDefinition

theorem map_fst_functionsOf (d : StepDefinition) (metadata : Json) (seen : List String)
    (index : Nat) (t : Trigger) :
    (Setup.functionsOf d index t
      (StepConfig.recordOf d.config.name metadata seen index t)).map (·.1) =
      (StepConfig.recordOf d.config.name metadata seen index t).ids := by
  rw [Setup.functionsOf, StepConfig.recordOf, RegistrationRecord.ids]
  cases t.condition <;> rfl

theorem map_fst_functionsFrom (d : StepDefinition) (metadata : Json) (seen : List String)
    (index : Nat) (ts : List Trigger) :
    (d.functionsFrom index
      (ts.zip (StepConfig.recordsFrom d.config.name metadata seen index ts))).map (·.1) =
      (StepConfig.recordsFrom d.config.name metadata seen index ts).flatMap
        RegistrationRecord.ids := by
  induction ts generalizing seen index with
  | nil => rfl
  | cons t ts ih =>
    rw [StepConfig.recordsFrom, List.zip_cons_cons, StepDefinition.functionsFrom, List.map_append,
      map_fst_functionsOf, ih, List.flatMap_cons]

theorem map_fst_functions (d : StepDefinition) (filePath : String) :
    (d.functions filePath).map (·.1) = d.config.ids filePath :=
  map_fst_functionsFrom d _ _ _ _

namespace StepDefinition

def addedTo (d : StepDefinition) (filePath : String) (site : Site) : Site :=
  let records := d.config.registrations filePath
  let registered := ((site.withLogged d.config.duplicateWarnings).withFunctions
    (d.functions filePath)).withLogged ((d.config.triggers.zip records).map fun t =>
      Setup.triggerEntry d.config.name t.2)
  ((registered.withTriggers (records.map RegistrationRecord.toTriggerRegistration)).withSource
    ⟨d.config.name, filePath⟩).withLogged
      [Setup.stepEntry d.config.name filePath records.length]

end StepDefinition

namespace Setup

theorem registerStepFunctions_ok_iff {d : StepDefinition} {index : Nat}
    {triggers : List (Trigger × RegistrationRecord)} {site site' : Site} :
    registerStepFunctions d index triggers site = (.ok (), site') ↔
      (∀ f ∈ d.functionsFrom index triggers, site.transport.Accepts f.1) ∧
      site' = (site.withFunctions (d.functionsFrom index triggers)).withLogged
        (triggers.map fun t => triggerEntry d.config.name t.2) := by
  induction triggers generalizing index site with
  | nil =>
    rw [registerStepFunctions, done_ok_iff, List.map_nil, Site.withLogged_nil]
    exact ⟨fun h => ⟨List.forall_mem_nil _, h.symm⟩, fun h => h.2.symm⟩
  | cons t rest ih =>
    obtain ⟨t, r⟩ := t
    rw [registerStepFunctions, StepDefinition.functionsFrom, List.forall_mem_append,
      Site.withFunctions_append, List.map_cons, ← List.singleton_append, Site.withLogged_append]
    simp only [bind_ok_iff, log_ok_iff, registerFunctions_ok_iff, ih, exists_eq_left, and_assoc,
      exists_and_left, Site.withLogged_withFunctions]
    rfl

theorem addStep_ok_iff {d : StepDefinition} {filePath : String} {site site' : Site}
    {records : List RegistrationRecord} :
    addStep d filePath site = (.ok records, site') ↔
      records = d.config.registrations filePath ∧
      (∀ id ∈ d.config.ids filePath, site.transport.Accepts id) ∧
      site' = d.addedTo filePath site := by
  have hids : (∀ f ∈ d.functions filePath, site.transport.Accepts f.1) ↔
      ∀ id ∈ d.config.ids filePath, site.transport.Accepts id := by
    rw [← map_fst_functions, List.forall_mem_map]
  have htriggers (h : ∀ id ∈ d.config.ids filePath, site.transport.Accepts id) :
      ∀ t ∈ (d.config.registrations filePath).map RegistrationRecord.toTriggerRegistration,
        site.transport.Accepts t.functionId := by
    intro t ht
    obtain ⟨r, hr, rfl⟩ := List.mem_map.1 ht
    exact h _ (List.mem_flatMap.2 ⟨r, hr, List.mem_cons_self⟩)
  simp only [addStep, bind_ok_iff, logAll_ok_iff, registerStepFunctions_ok_iff,
    registerTriggers_ok_iff, modifyEngine_ok_iff, log_ok_iff, exists_eq_left, and_assoc,
    exists_and_left]
  constructor
  · rintro ⟨hfs, -, hdone⟩
    obtain ⟨hrecords, hsite⟩ := Prod.mk.inj hdone
    exact ⟨(Except.ok.inj hrecords).symm, hids.1 hfs, hsite.symm⟩
  · rintro ⟨rfl, haccepts, rfl⟩
    exact ⟨hids.2 haccepts, htriggers haccepts, rfl⟩

end Setup

end StepEngine
