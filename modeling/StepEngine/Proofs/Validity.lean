import StepEngine.Proofs.Integrity
import StepEngine.Proofs.Routes
import StepEngine.Step.Builder

/-!
# Valid steps

What a configuration has to be, said without the check that looks for its problems; the check finds
none exactly then. A definition has such a configuration, however it is made, so whatever a step
registers has a topic, the name of a stream or a schedule to fire on.

* `StepConfig.Valid` : what a configuration has to be; `StepConfig.problems_eq_nil_iff`,
  `validated_eq_ok_iff` : it is checked for exactly that;
* `Construction` : the ways to make a definition; all of them come to the same
  (`Construction.make_eq`);
* `TriggerRegistration.Actionable` : the transport can fire the trigger;
* `Recorder.mem_triggers_carryOut`, `SetupCall.mem_triggers_afterAll` : triggers of a transport were
  there before, or a call has registered them; then they are actionable
  (`SetupCall.Derived.actionable`);
* `SetupCall.only_valid_steps_register` : all of it, for every run.
-/

namespace StepEngine

/-! ## What a configuration has to be -/

/-- A text with a character that is not blank. -/
def Text.HasMark (s : String) : Prop := ∃ c ∈ s.toList, isBlank c = false

theorem Text.isAllBlank_eq_false_iff {s : String} : isAllBlank s = false ↔ HasMark s := by
  rw [isAllBlank, List.all_eq_false, HasMark]
  simp

/-- The structural check has nothing to say about a declarative schema. A typed schema is not
checked. -/
def Schema.WellShaped (s : Schema) : Prop := ∀ v, s = .json v → Structure.problems v = []

theorem Schema.problems_eq_nil_iff {s : Schema} : s.problems = [] ↔ s.WellShaped := by
  cases s with
  | json v =>
    constructor
    · intro h _ heq
      rw [← Schema.json.inj heq]
      exact h
    · intro h
      exact h v rfl
  | typed _ =>
    refine ⟨?_, fun _ => rfl⟩
    intro _ v heq
    cases heq

namespace ConfigProblem

variable {p : Prop} [Decidable p] {problem : ConfigProblem}

theorem unless_eq_nil_iff : (if p then [] else [problem]) = [] ↔ p := by
  by_cases h : p <;> simp [h]

theorem when_eq_nil_iff : (if p then [problem] else []) = [] ↔ ¬ p := by
  by_cases h : p <;> simp [h]

theorem when_blank_eq_nil_iff {s : String} :
    (if Text.isAllBlank s then [problem] else []) = [] ↔ Text.HasMark s := by
  rw [when_eq_nil_iff, Bool.not_eq_true, Text.isAllBlank_eq_false_iff]

end ConfigProblem

namespace Trigger

/-- What a trigger has to be. -/
def Valid : Trigger → Prop
  | http t => (∃ rest, t.path = "/" ++ rest) ∧ (∀ s, t.bodySchema = some s → s.WellShaped) ∧
      ∀ status s, t.responseSchemas.find? status = some s → s.WellShaped
  | queue t => Text.HasMark t.topic ∧ ∀ s, t.input = some s → s.WellShaped
  | cron t => Cron.isSchedule (Cron.normalize t.expression) = true
  | state _ => True
  | stream t => Text.HasMark t.streamName

theorem schemaProblems_eq_nil_iff {index : Nat} {field : String} {s : Schema} :
    schemaProblems index field s = [] ↔ s.WellShaped := by
  rw [schemaProblems, List.map_eq_nil_iff, Schema.problems_eq_nil_iff]

theorem flatMap_schemaProblems_eq_nil_iff {index : Nat} {field : String} {s : Option Schema} :
    s.toList.flatMap (schemaProblems index field) = [] ↔
      ∀ schema, s = some schema → schema.WellShaped := by
  cases s with
  | none => simp
  | some schema => simp [schemaProblems_eq_nil_iff]

/-- The schemas of answers stand in a map, so they are those that can be looked up. -/
theorem flatMap_entries_schemaProblems_eq_nil_iff {index : Nat} {d : SortedMap UInt16 Schema} :
    (d.entries.flatMap fun (status, schema) =>
      schemaProblems index ("responseSchema." ++ Status.spell status) schema) = [] ↔
      ∀ status s, d.find? status = some s → s.WellShaped := by
  simp only [List.flatMap_eq_nil_iff, schemaProblems_eq_nil_iff, Prod.forall,
    SortedMap.find?_eq_some_iff]

theorem head?_eq_slash_iff {path : String} :
    path.toList.head? = some '/' ↔ ∃ rest, path = "/" ++ rest := by
  constructor
  · intro h
    obtain ⟨rest, hrest⟩ := List.head?_eq_some_iff.1 h
    refine ⟨String.ofList rest, String.toList_inj.1 ?_⟩
    simp [String.toList_append, hrest]
  · rintro ⟨rest, rfl⟩
    rw [String.toList_append]
    rfl

theorem problems_eq_nil_iff (t : Trigger) (index : Nat) : t.problems index = [] ↔ t.Valid := by
  cases t with
  | http t =>
    rw [problems, List.append_eq_nil_iff, List.append_eq_nil_iff, ConfigProblem.unless_eq_nil_iff,
      flatMap_entries_schemaProblems_eq_nil_iff, flatMap_schemaProblems_eq_nil_iff,
      head?_eq_slash_iff, Valid, and_assoc]
  | queue t =>
    rw [problems, List.append_eq_nil_iff, ConfigProblem.when_blank_eq_nil_iff,
      flatMap_schemaProblems_eq_nil_iff, Valid]
  | cron t => exact ConfigProblem.unless_eq_nil_iff
  | state t => simp [problems, Valid]
  | stream t => exact ConfigProblem.when_blank_eq_nil_iff

theorem allProblems_eq_nil_iff (index : Nat) (ts : List Trigger) :
    allProblems index ts = [] ↔ ∀ t ∈ ts, t.Valid := by
  induction ts generalizing index with
  | nil => simp [allProblems]
  | cons t ts ih =>
    rw [allProblems, List.append_eq_nil_iff, problems_eq_nil_iff, ih, List.forall_mem_cons]

end Trigger

namespace StepConfig

/-- What a configuration has to be. -/
structure Valid (c : StepConfig) : Prop where
  name : Text.HasMark c.name
  triggers : ∀ t ∈ c.triggers, t.Valid
  enqueues : ∀ t ∈ c.enqueues, Text.HasMark t.topic
  virtualEnqueues : ∀ t ∈ c.virtualEnqueues, Text.HasMark t.topic

theorem problems_eq_nil_iff (c : StepConfig) : c.problems = [] ↔ c.Valid := by
  have htopics : ((c.enqueues ++ c.virtualEnqueues).flatMap fun t =>
      if Text.isAllBlank t.topic then [ConfigProblem.blankEnqueue] else []) = [] ↔
      ∀ t ∈ c.enqueues ++ c.virtualEnqueues, Text.HasMark t.topic := by
    simp only [List.flatMap_eq_nil_iff, ConfigProblem.when_blank_eq_nil_iff]
  rw [problems, List.append_eq_nil_iff, List.append_eq_nil_iff,
    ConfigProblem.when_blank_eq_nil_iff, htopics, Trigger.allProblems_eq_nil_iff,
    List.forall_mem_append]
  constructor
  · rintro ⟨⟨hname, htriggers⟩, henqueues, hvirtual⟩
    exact ⟨hname, htriggers, henqueues, hvirtual⟩
  · rintro ⟨hname, htriggers, henqueues, hvirtual⟩
    exact ⟨⟨hname, htriggers⟩, henqueues, hvirtual⟩

theorem validated_eq_ok_iff {c d : StepConfig} : c.validated = .ok d ↔ d = c ∧ c.Valid := by
  rw [validated, ← problems_eq_nil_iff]
  by_cases h : c.problems = []
  · simp [h, eq_comm]
  · simp [h]

theorem define_eq_ok_iff {c : StepConfig} {handler : Handler} {d : StepDefinition} :
    c.define handler = .ok d ↔ d.config = c ∧ d.handler = handler := by
  rw [define]
  constructor
  · intro h
    split at h
    · obtain rfl := Except.ok.inj h
      exact ⟨rfl, rfl⟩
    · cases h
  · rintro ⟨rfl, rfl⟩
    rw [dif_pos d.sound]

end StepConfig

/-! ## All ways to make a definition -/

/-- A way to make a definition of a source. -/
inductive Construction : Type 1 where
  /-- At once. -/
  | direct (handler : Handler)
  /-- With the handler given later. -/
  | deferred (handler : Handler)
  /-- With a function given later whose results can be read as outputs. -/
  | function {α : Type} (toOutput : α → StepOutput)
    (f : TriggerInput → FlowContext → Activity α)
  /-- With handlers for kinds, given one after the other. -/
  | byKind (given : List KindHandler)
  /-- The same, with further handlers at the end. -/
  | byKindOver (given : List KindHandler) (handlers : KindHandlers)

namespace Construction

/-- The definition that is made of a source. -/
def make (source : ConfigSource) : Construction → Except StepError StepDefinition
  | direct handler => StepDefinition.new source handler
  | deferred handler => (StepBuilder.start source).map fun b => b.handler handler
  | function toOutput f => (StepBuilder.start source).map fun b => b.handle toOutput f
  | byKind given => (MultiTriggerBuilder.start source).map fun b =>
      (given.foldl MultiTriggerBuilder.on b).build
  | byKindOver given handlers => (MultiTriggerBuilder.start source).map fun b =>
      (given.foldl MultiTriggerBuilder.on b).buildOver handlers

def handler : Construction → Handler
  | direct handler => handler
  | deferred handler => handler
  | function toOutput f => fun input ctx => (f input ctx).bind fun result => .done (toOutput result)
  | byKind given => (given.foldl KindHandlers.set .none).dispatch
  | byKindOver given handlers => (handlers.orElse (given.foldl KindHandlers.set .none)).dispatch

/-- Handlers that are given do not touch the configuration. -/
theorem foldl_on (given : List KindHandler) (b : MultiTriggerBuilder) :
    given.foldl MultiTriggerBuilder.on b =
      { b with handlers := given.foldl KindHandlers.set b.handlers } := by
  induction given generalizing b with
  | nil => rfl
  | cons handler given ih =>
    rw [List.foldl_cons, ih, List.foldl_cons]
    rfl

/-- What is checked gets its handler. -/
theorem make_eq_checked (source : ConfigSource) (k : Construction) :
    k.make source = source.checked.map fun c => ⟨c.1, k.handler, c.2⟩ := by
  cases k with
  | direct handler => rfl
  | deferred handler =>
    rw [make, StepBuilder.start]
    cases source.checked <;> rfl
  | function toOutput f =>
    rw [make, StepBuilder.start]
    cases source.checked <;> rfl
  | byKind given =>
    rw [make, MultiTriggerBuilder.start]
    cases source.checked with
    | error error => rfl
    | ok c =>
      show Except.ok (given.foldl MultiTriggerBuilder.on ⟨c.1, c.2, .none⟩).build = _
      rw [foldl_on]
      rfl
  | byKindOver given handlers =>
    rw [make, MultiTriggerBuilder.start]
    cases source.checked with
    | error error => rfl
    | ok c =>
      show Except.ok ((given.foldl MultiTriggerBuilder.on ⟨c.1, c.2, .none⟩).buildOver handlers) = _
      rw [foldl_on]
      rfl

/-- All ways come to the same: the configuration is read and checked, and gets its handler. -/
theorem make_eq (source : ConfigSource) (k : Construction) :
    k.make source = source.toConfig.bind fun c => c.define k.handler := by
  rw [make_eq_checked, ConfigSource.checked]
  cases source.toConfig with
  | error error => rfl
  | ok c =>
    show Except.map _ (if h : c.problems = [] then _ else _) = c.define k.handler
    rw [StepConfig.define]
    by_cases h : c.problems = []
    · rw [dif_pos h, dif_pos h]
      rfl
    · rw [dif_neg h, dif_neg h]
      rfl

/-- A way to make a definition of a source goes by the configuration of the source. -/
structure Checks (k : Construction) (source : ConfigSource) : Prop where
  valid : ∀ c, source.toConfig = .ok c → c.Valid →
    ∃ d, k.make source = .ok d ∧ d.config = c ∧ d.handler = k.handler
  /-- The error lists all problems. -/
  invalid : ∀ c, source.toConfig = .ok c → ¬ c.Valid →
    k.make source = .error (.invalidStep c.name c.problemTexts)
  unread : ∀ error, source.toConfig = .error error →
    k.make source = .error error ∧ ∃ cause, error = .configuration (.stepConfig cause)
  made : ∀ d, k.make source = .ok d → source.toConfig = .ok d.config ∧ d.config.Valid

theorem checks (k : Construction) (source : ConfigSource) : k.Checks source where
  valid c hc hvalid := by
    have hsound := (StepConfig.problems_eq_nil_iff c).2 hvalid
    refine ⟨⟨c, k.handler, hsound⟩, ?_, rfl, rfl⟩
    rw [make_eq, hc]
    exact StepConfig.define_eq_ok_iff.2 ⟨rfl, rfl⟩
  invalid c hc hvalid := by
    have hproblems : c.problems ≠ [] := fun h => hvalid ((StepConfig.problems_eq_nil_iff c).1 h)
    rw [make_eq, hc]
    show c.define k.handler = _
    rw [StepConfig.define, dif_neg hproblems]
  unread error herror := by
    refine ⟨?_, ?_⟩
    · rw [make_eq, herror]
      rfl
    · cases source with
      | config c => cases herror
      | json v =>
        change StepConfig.ofJson v = .error error at herror
        rw [StepConfig.ofJson] at herror
        cases hv : StepConfig.decode v with
        | ok c =>
          rw [hv] at herror
          cases herror
        | error cause =>
          rw [hv] at herror
          exact ⟨cause, (Except.error.inj herror).symm⟩
  made d hd := by
    refine ⟨?_, (StepConfig.problems_eq_nil_iff _).1 d.sound⟩
    rw [make_eq] at hd
    cases hc : source.toConfig with
    | error error =>
      rw [hc] at hd
      cases hd
    | ok c =>
      rw [hc] at hd
      obtain ⟨rfl, -⟩ := StepConfig.define_eq_ok_iff.1 hd
      rfl

/-- There are no other definitions. -/
theorem exists_make (d : StepDefinition) :
    ∃ (k : Construction) (source : ConfigSource), k.make source = .ok d := by
  refine ⟨.direct d.handler, .config d.config, ?_⟩
  rw [make_eq]
  exact StepConfig.define_eq_ok_iff.2 ⟨rfl, rfl⟩

end Construction

/-! ## What steps leave on a transport -/

/-- The transport can fire the trigger: there is a topic, the name of a stream or a schedule. -/
def TriggerRegistration.Actionable (g : TriggerRegistration) : Prop :=
  match g.kind with
  | .queue => ∃ topic, g.config.find? "topic" = some (.string topic) ∧ Text.HasMark topic
  | .stream => ∃ name, g.config.find? "stream_name" = some (.string name) ∧ Text.HasMark name
  | .cron => ∃ expression, g.config.find? "expression" = some (.string expression) ∧
      Cron.isSchedule (Cron.normalize expression) = true
  | .http | .state => True

theorem RegistrationRecord.actionable_of_valid {t : Trigger} {r : RegistrationRecord}
    (h : t.Valid) (hr : r.kindConfig = .ofTrigger t) : r.toTriggerRegistration.Actionable := by
  have hkind : r.toTriggerRegistration.kind = t.kind := by
    show r.kindConfig.kind = t.kind
    rw [hr]
    cases t <;> rfl
  have hentry {key : String} (hmetadata : key ≠ "metadata") (hcondition : key ≠ conditionKey) :
      r.toTriggerRegistration.config.find? key = (KindConfig.ofTrigger t).valueOf? key := by
    rw [find?_entry r hmetadata hcondition, hr]
  rw [TriggerRegistration.Actionable, hkind]
  cases t with
  | http t => trivial
  | queue t => exact ⟨t.topic, hentry (by decide) (by decide), h.1⟩
  | cron t => exact ⟨t.expression, hentry (by decide) (by decide), h⟩
  | state t => trivial
  | stream t =>
    refine ⟨t.streamName, ?_, h⟩
    rw [hentry (by decide) (by decide)]
    exact KindConfig.valueOf_streamName _ _ _

theorem StepDefinition.actionable {d : StepDefinition} {filePath : String}
    {r : RegistrationRecord} (h : r ∈ d.config.registrations filePath) :
    r.toTriggerRegistration.Actionable := by
  obtain ⟨i, hi⟩ := List.mem_iff_getElem?.1 h
  rw [StepConfig.getElem?_registrations, Option.map_eq_some_iff] at hi
  obtain ⟨t, ht, rfl⟩ := hi
  have hvalid := (StepConfig.problems_eq_nil_iff d.config).1 d.sound
  exact RegistrationRecord.actionable_of_valid
    (hvalid.triggers t (List.mem_of_getElem? ht)) rfl

/-- A registered trigger was there before, or it is one of the plan. -/
theorem Recorder.mem_triggers_carryOut {transport : Recorder EngineFunction}
    {plan : List Registration} {t : TriggerRegistration}
    (h : t ∈ (transport.carryOut plan).2.triggers) :
    t ∈ transport.triggers ∨ .trigger t ∈ plan := by
  induction plan generalizing transport with
  | nil => exact .inl h
  | cons r rest ih =>
    cases hr : transport.rejections.find? r.id with
    | some details =>
      rw [carryOut_cons_of_refused hr] at h
      exact .inl h
    | none =>
      rw [carryOut_cons_of_accepts hr] at h
      rcases ih h with hbefore | hplan
      · cases r with
        | function id f => exact .inl hbefore
        | trigger u =>
          rcases List.mem_append.1 hbefore with hbefore | hnew
          · exact .inl hbefore
          · rw [List.mem_singleton.1 hnew]
            exact .inr List.mem_cons_self
      · exact .inr (List.mem_cons_of_mem _ hplan)

namespace SetupCall

theorem mem_triggers_during {transport : Recorder EngineFunction} {c : SetupCall} {k : Nat}
    {t : TriggerRegistration} (h : t ∈ (during transport c k).triggers) :
    t ∈ transport.triggers ∨ .trigger t ∈ c.plan := by
  have hprepare : (c.prepare transport).triggers = transport.triggers := by
    cases c <;> rfl
  rcases Recorder.mem_triggers_carryOut h with hbefore | hplan
  · rw [hprepare] at hbefore
    exact .inl hbefore
  · exact .inr (List.mem_of_mem_take hplan)

/-- A trigger of a transport was there at the start, or it is in the plan of a call. -/
theorem mem_triggers_afterAll {start : Recorder EngineFunction} {calls : List SetupCall}
    {t : TriggerRegistration} (h : t ∈ (afterAll start calls).triggers) :
    t ∈ start.triggers ∨ ∃ c ∈ calls, .trigger t ∈ c.plan := by
  induction calls generalizing start with
  | nil => exact .inl h
  | cons c calls ih =>
    rcases ih h with hafter | ⟨c', hc', hplan⟩
    · rw [← during_of_length_le start c (Nat.le_refl _)] at hafter
      rcases mem_triggers_during hafter with hstart | hplan
      · exact .inl hstart
      · exact .inr ⟨c, List.mem_cons_self, hplan⟩
    · exact .inr ⟨c', List.mem_cons_of_mem _ hc', hplan⟩

/-- What the triggers of a run come from makes them actionable. -/
theorem Derived.actionable {calls : List SetupCall} {t : TriggerRegistration}
    (h : Derived calls t) : t.Actionable := by
  cases h with
  | step engine d filePath i u r call trigger record registration condition =>
    rw [registration]
    exact d.actionable (List.mem_of_getElem? record)
  | route planned condition =>
    obtain ⟨id, path, rfl⟩ := exists_of_mem_endpointPlan planned
    trivial

/-- A configuration is validated exactly when it is valid, and then it is what it was. However a
definition is made, it has the configuration of its source, and this one is valid. At every point of
every run, also in the middle of a call that fails, all triggers that the run has registered have
what it takes to fire them. -/
theorem only_valid_steps_register :
    (∀ c : StepConfig, ((∃ d, c.validated = .ok d) ↔ c.Valid) ∧
      ∀ d, c.validated = .ok d → d = c) ∧
    (∀ (k : Construction) (source : ConfigSource), k.Checks source) ∧
    (∀ d : StepDefinition, ∃ (k : Construction) (source : ConfigSource), k.make source = .ok d) ∧
    ∀ (start : Recorder EngineFunction) (calls : List SetupCall) (t : TriggerRegistration),
      (t ∈ (afterAll start calls).triggers → t ∈ start.triggers ∨ t.Actionable) ∧
      ∀ (c : SetupCall) (k : Nat), t ∈ (during (afterAll start calls) c k).triggers →
        t ∈ start.triggers ∨ t.Actionable := by
  have hrun (start : Recorder EngineFunction) (calls : List SetupCall) (t : TriggerRegistration)
      (h : t ∈ (afterAll start calls).triggers) : t ∈ start.triggers ∨ t.Actionable := by
    rcases mem_triggers_afterAll h with hstart | ⟨c, hc, hplan⟩
    · exact .inl hstart
    · exact .inr (derived_of_mem_plan hc hplan).actionable
  refine ⟨?_, Construction.checks, Construction.exists_make, ?_⟩
  · intro c
    refine ⟨?_, fun d hd => (StepConfig.validated_eq_ok_iff.1 hd).1⟩
    constructor
    · rintro ⟨d, hd⟩
      exact (StepConfig.validated_eq_ok_iff.1 hd).2
    · intro hvalid
      exact ⟨c, StepConfig.validated_eq_ok_iff.2 ⟨rfl, hvalid⟩⟩
  · intro start calls t
    refine ⟨hrun start calls t, ?_⟩
    intro c k h
    rcases mem_triggers_during h with hbefore | hplan
    · exact hrun start calls t hbefore
    · exact .inr (derived_of_mem_plan (List.mem_singleton_self c) hplan).actionable

def syncing : Json := Json.ofMembers
  [("name", .string "Sync"), ("triggers", .array [
    Json.ofMembers [("type", .string "event"), ("topic", .string "records.changed")],
    Json.ofMembers [("type", .string "cron"), ("expression", .string "0 * * * *")]])]

/-- The step is made of loose JSON, with handlers for its kinds. A blank name is refused. -/
theorem only_valid_steps_register_sync :
    let k := Construction.byKindOver [.queue fun _ _ => .done .complete]
      { KindHandlers.none with cron := some fun _ => .done .complete }
    let engine := Engine.new .standard [] []
    ∃ d, k.make (.json syncing) = .ok d ∧ d.config.Valid ∧ d.config.triggers.length = 2 ∧
      (∀ c n t, t ∈ (during (afterAll .empty [.addStep engine d "sync.rs"]) c n).triggers →
        t.Actionable) ∧
      k.make (.config (.new " ")) =
        .error (.invalidStep " " ["Step name cannot be empty"]) := by
  intro k engine
  obtain ⟨-, hchecks, -, hrun⟩ := only_valid_steps_register
  have hread : (ConfigSource.json syncing).toConfig = .ok { StepConfig.new "Sync" with
      triggers := [.queue (.new "records.changed"), .cron ⟨"0 * * * *", none⟩] } := rfl
  have hvalid := (StepConfig.problems_eq_nil_iff { StepConfig.new "Sync" with
      triggers := [.queue (.new "records.changed"), .cron ⟨"0 * * * *", none⟩] }).1 (by decide)
  obtain ⟨d, hd, hconfig, -⟩ := (hchecks k (.json syncing)).valid _ hread hvalid
  have hblank : ¬ (StepConfig.new " ").Valid := by
    rw [← StepConfig.problems_eq_nil_iff]
    decide
  refine ⟨d, hd, ((hchecks k _).made d hd).2, by rw [hconfig]; rfl, ?_, ?_⟩
  · intro c n t ht
    rcases (hrun .empty [.addStep engine d "sync.rs"] t).2 c n ht with hstart | hactionable
    · cases hstart
    · exact hactionable
  · exact (hchecks k (.config (.new " "))).invalid _ rfl hblank

end SetupCall

end StepEngine
