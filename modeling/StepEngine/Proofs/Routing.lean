import StepEngine.Proofs.Registration
import StepEngine.Proofs.Shadow

/-!
# Steps on one transport

* `StepConfig.Apart` : names that are different and do not shadow each other; the ids of steps with
  such names have nothing in common (`disjoint_ids`);
* `Addition` : a step that was added;
* `Site.Run` : steps that are added one after the other, and whatever else happens in between and
  leaves the functions of steps as they are;
* `Site.Routes` : every id of every step that was added reaches this step;
* `Site.Run.routes` : so it is when the names are apart;
* `Setup.KeepsSteps`, `Site.Run.setup` : what else is set up can come between two steps.
-/

namespace StepEngine

/-! ## Ids of different steps -/

namespace StepConfig

/-- Names that are different and do not shadow each other. -/
structure Apart (m n : String) : Prop where
  ne : m ≠ n
  left : ¬ Shadows m n
  right : ¬ Shadows n m

theorem disjoint_ids {d e : StepDefinition} (h : Apart d.config.name e.config.name)
    {filePath filePath' id : String} (hd : id ∈ d.config.ids filePath) :
    id ∉ e.config.ids filePath' := by
  intro he
  obtain ⟨t, ht, hid⟩ := exists_trigger_of_mem_ids hd
  obtain ⟨u, hu, hid'⟩ := exists_trigger_of_mem_ids he
  have hbase := hid.base_eq (endsOpen_baseId _ t) (endsOpen_baseId _ u) hid'
  rcases eq_or_shadows_of_baseId_eq (d.trigger_sound t ht) (e.trigger_sound u hu) hbase with
    heq | hshadows | hshadows
  · exact h.ne heq
  · exact h.left hshadows
  · exact h.right hshadows

theorem mem_ids {d : StepDefinition} {filePath id : String} {f : EngineFunction}
    (h : (id, f) ∈ d.functions filePath) : id ∈ d.config.ids filePath := by
  rw [← map_fst_functions]
  exact List.mem_map.2 ⟨_, h, rfl⟩

theorem exists_text_of_mem_ids {c : StepConfig} {filePath id : String}
    (h : id ∈ c.ids filePath) : ∃ text, id = "steps::" ++ text := by
  obtain ⟨t, -, hid⟩ := exists_trigger_of_mem_ids h
  have hbase : ∃ text, baseId c.name t.descriptor = "steps::" ++ text := by
    rw [baseId, String.append_assoc, String.append_assoc]
    exact ⟨_, rfl⟩
  obtain ⟨text, hbase⟩ := hbase
  have hfunction {f : String} (hf : IsFunctionId (baseId c.name t.descriptor) f) :
      ∃ text, f = "steps::" ++ text := by
    rcases hf with rfl | ⟨n, rfl⟩
    · exact ⟨text, hbase⟩
    · rw [hbase, String.append_assoc, String.append_assoc]
      exact ⟨_, rfl⟩
  rcases hid with hid | ⟨f, n, hf, rfl⟩
  · exact hfunction hid
  · obtain ⟨text, rfl⟩ := hfunction hf
    rw [conditionId, String.append_assoc, String.append_assoc]
    exact ⟨_, rfl⟩

end StepConfig

/-! ## Runs -/

/-- A step that was added, and the file in which it is defined. -/
structure Addition where
  definition : StepDefinition
  filePath : String

namespace Addition

def name (a : Addition) : String := a.definition.config.name

def ids (a : Addition) : List String := a.definition.config.ids a.filePath

def records (a : Addition) : List RegistrationRecord :=
  a.definition.config.registrations a.filePath

end Addition

namespace Site

/-- Every function whose id could be one of a step is the same. -/
def SameSteps (site site' : Site) : Prop :=
  ∀ text, site'.transport.function? ("steps::" ++ text) =
    site.transport.function? ("steps::" ++ text)

/-- Steps are added, and other things happen that leave the functions of steps as they are. -/
inductive Run (site : Site) : List Addition → Site → Prop where
  | start : Run site [] site
  | add {added : List Addition} {between site' : Site} {records : List RegistrationRecord}
      (run : Run site added between) (a : Addition)
      (succeeds : Setup.addStep a.definition a.filePath between = (.ok records, site')) :
      Run site (added ++ [a]) site'
  | other {added : List Addition} {between site' : Site} (run : Run site added between)
      (same : between.SameSteps site') : Run site added site'

variable {site site' : Site} {added : List Addition}

/-- What was registered for a step stays registered. -/
theorem Run.function?_of_mem (h : Run site added site')
    (hapart : added.Pairwise fun a b => StepConfig.Apart a.name b.name) :
    ∀ a ∈ added, ∀ id f, (id, f) ∈ a.definition.functions a.filePath →
      site'.transport.function? id = some f := by
  induction h with
  | start => nofun
  | @add added between site' records run a succeeds ih =>
    obtain ⟨-, -, rfl⟩ := Setup.addStep_ok_iff.1 succeeds
    obtain ⟨hadded, -, hlast⟩ := List.pairwise_append.1 hapart
    intro b hb id f hf
    rcases List.mem_append.1 hb with hb | hb
    · have hnot : id ∉ a.definition.config.ids a.filePath :=
        StepConfig.disjoint_ids (hlast b hb a (List.mem_singleton_self a)) (StepConfig.mem_ids hf)
      rw [StepDefinition.function?_addedTo_of_notMem hnot]
      exact ih hadded b hb id f hf
    · obtain rfl := List.mem_singleton.1 hb
      exact StepDefinition.function?_addedTo_of_mem hf _
  | @other added between site' run same ih =>
    intro b hb id f hf
    obtain ⟨text, rfl⟩ := StepConfig.exists_text_of_mem_ids (StepConfig.mem_ids hf)
    rw [same text]
    exact ih hapart b hb _ f hf

/-- Every id of every step reaches this step: the id of a trigger the handler at this trigger, the
id of a condition the condition. -/
structure Routes (site : Site) (added : List Addition) : Prop where
  disjoint : added.Pairwise fun a b => ∀ id ∈ a.ids, id ∉ b.ids
  handler : ∀ a ∈ added, ∀ (i : Nat) (t : Trigger) (r : RegistrationRecord),
    a.definition.config.triggers[i]? = some t → a.records[i]? = some r →
    ∀ readFile identifiers invocation,
      site.invoke readFile identifiers r.functionId invocation =
        (EngineFunction.handler ⟨a.name, t, i, a.definition.handler⟩).invoke invocation
          (site.surroundings readFile identifiers) none (.start site.transport)
  gate : ∀ a ∈ added, ∀ (i : Nat) (t : Trigger) (r : RegistrationRecord) (condition : Condition)
    (id : String), a.definition.config.triggers[i]? = some t → a.records[i]? = some r →
    t.condition = some condition → r.conditionId = some id →
    ∀ readFile identifiers invocation,
      site.invoke readFile identifiers id invocation =
        (EngineFunction.gate ⟨a.name, t.info i, condition⟩).invoke invocation
          (site.surroundings readFile identifiers) none (.start site.transport)

theorem Run.routes (h : Run site added site')
    (hapart : added.Pairwise fun a b => StepConfig.Apart a.name b.name) : site'.Routes added where
  disjoint := hapart.imp fun hab _ hid => StepConfig.disjoint_ids hab hid
  handler a ha i t r ht hr readFile identifiers invocation := by
    have hmem := StepDefinition.mem_functions ht hr _ List.mem_cons_self
    rw [invoke, h.function?_of_mem hapart a ha _ _ hmem]
    rfl
  gate a ha i t r condition id ht hr hc hid readFile identifiers invocation := by
    have hmem : (id, EngineFunction.gate ⟨a.name, t.info i, condition⟩) ∈
        a.definition.functions a.filePath := by
      refine StepDefinition.mem_functions ht hr _ ?_
      rw [Setup.functionsOf_of_condition a.definition i t r hc hid]
      exact List.mem_cons_of_mem _ (List.mem_singleton_self _)
    rw [invoke, h.function?_of_mem hapart a ha _ _ hmem]

end Site

/-! ## What else can happen -/

/-- Whatever is set up, all functions of steps are the same afterwards, also when it fails. -/
def Setup.KeepsSteps {α : Type} (a : Setup α) : Prop := ∀ site : Site, site.SameSteps (a site).2

namespace Setup

variable {α β : Type}

theorem KeepsSteps.bind {a : Setup α} {next : α → Setup β} (ha : a.KeepsSteps)
    (hnext : ∀ x, (next x).KeepsSteps) : (a.bind next).KeepsSteps := by
  intro site text
  have hfirst := ha site text
  simp only [Setup.bind]
  rcases h : a site with ⟨_ | x, between⟩
  · rw [h] at hfirst
    exact hfirst
  · rw [h] at hfirst
    exact (hnext x between text).trans hfirst

theorem keepsSteps_log (entry : LogEntry) : (log entry).KeepsSteps := fun _ _ => rfl

theorem keepsSteps_modifyEngine (change : Engine → Engine) : (modifyEngine change).KeepsSteps :=
  fun _ _ => rfl

theorem keepsSteps_registerTrigger (t : TriggerRegistration) : (registerTrigger t).KeepsSteps := by
  intro site text
  simp only [registerTrigger, register, Recorder.registerTrigger]
  cases site.transport.refusal? "register_trigger" t.functionId <;> rfl

theorem keepsSteps_registerFunction {id : String} (h : ∀ text, "steps::" ++ text ≠ id)
    (f : EngineFunction) : (registerFunction id f).KeepsSteps := by
  intro site text
  simp only [registerFunction, register, Recorder.registerFunction]
  cases site.transport.refusal? "register_function" id with
  | some _ => rfl
  | none => exact Recorder.lookup_put_of_ne (h text) f _

theorem keepsSteps_addStream (c : StreamConfig) : (addStream c).KeepsSteps :=
  (keepsSteps_log _).bind fun _ => keepsSteps_modifyEngine _

theorem keepsSteps_stepEndpoint : stepEndpoint.KeepsSteps := by
  have hfirst {first : String} {rest : List Char} (hrest : first.toList = 'k' :: rest)
      (text : String) : "steps::" ++ text ≠ first := by
    rintro rfl
    rw [String.toList_append] at hrest
    exact absurd (List.cons.inj hrest).1 (by decide)
  have hendpoint {id : String} {rest : List Char} (hid : id.toList = 'k' :: rest)
      (path label : String) (f : EngineFunction) : (registerEndpoint id path label f).KeepsSteps :=
    (keepsSteps_registerFunction (hfirst hid) f).bind fun _ =>
      (keepsSteps_registerTrigger _).bind fun _ => keepsSteps_log _
  exact (hendpoint rfl _ _ _).bind fun _ => hendpoint rfl _ _ _

end Setup

/-- Whatever keeps the functions of steps can happen between two steps, and may fail. -/
theorem Site.Run.setup {α : Type} {site between : Site} {added : List Addition}
    (run : Run site added between) {a : Setup α} (h : a.KeepsSteps) :
    Run site added (a between).2 := .other run (h between)

/-! ## All steps -/

namespace Site

/-- Steps whose names are apart are routed, whatever their triggers. A name that shadows another one
cannot be allowed: some steps with these names have an id in common. -/
theorem apart_steps_are_routed :
    (∀ (site site' : Site) (added : List Addition), Run site added site' →
      added.Pairwise (fun a b => StepConfig.Apart a.name b.name) → site'.Routes added) ∧
    ∀ long short : String, Text.isAllBlank short = false → StepConfig.Shadows long short →
      ∃ d e : StepDefinition, d.config.name = short ∧ e.config.name = long ∧
        ∀ filePath filePath', ∃ id ∈ d.config.ids filePath, id ∈ e.config.ids filePath' := by
  refine ⟨fun site site' added run hapart => run.routes hapart, fun long short hname hshadows => ?_⟩
  obtain ⟨t, u, ht, hu, hbase⟩ := StepConfig.exists_common_of_shadows hname hshadows
  have hids (name : String) (v : Trigger) (filePath : String) :
      StepConfig.baseId name v.descriptor ∈ (StepConfig.single name v).ids filePath :=
    List.mem_cons_self
  refine ⟨⟨.single short t, fun _ _ => .done .complete, ht⟩,
    ⟨.single long u, fun _ _ => .done .complete, hu⟩, rfl, rfl, fun filePath filePath' => ?_⟩
  exact ⟨_, hids short t filePath, hbase ▸ hids long u filePath'⟩

def fresh : Site := ⟨.new .standard [] [], .empty, []⟩

def onTopic (name topic answer : String)
    (sound : (StepConfig.single name (.queue (.new topic))).problems = []) : StepDefinition :=
  ⟨.single name (.queue (.new topic)), fun _ _ => .done (.value (.string answer)), sound⟩

/-- A step is added where nothing is refused. -/
theorem Run.addedTo {site between : Site} {added : List Addition} (run : Run site added between)
    (a : Addition) (accepts : ∀ id, between.transport.Accepts id) :
    Run site (added ++ [a]) (a.definition.addedTo a.filePath between) :=
  run.add a (Setup.addStep_ok_iff.2 ⟨rfl, fun id _ => accepts id, rfl⟩)

def extras : Setup Unit := Setup.stepEndpoint.bind fun _ => Setup.addStream ⟨"audit", none⟩

/-- Two steps on one topic, and between them what is no step. -/
theorem two_steps_are_routed :
    let d := onTopic "A" "t" "first" (by decide)
    let e := onTopic "B" "t" "second" (by decide)
    let site' := e.addedTo "steps/b.rs" (extras (d.addedTo "steps/a.rs" fresh)).2
    Run fresh [⟨d, "steps/a.rs"⟩, ⟨e, "steps/b.rs"⟩] site' ∧
      site'.Routes [⟨d, "steps/a.rs"⟩, ⟨e, "steps/b.rs"⟩] := by
  intro d e site'
  have hshort (long short : String) (h : long.length ≤ short.length) :
      ¬ StepConfig.Shadows long short := by
    rintro ⟨start, -, rest, rfl⟩
    simp only [String.length_append, show "::trigger::".length = 11 from rfl] at h
    omega
  have hextras : extras.KeepsSteps :=
    Setup.keepsSteps_stepEndpoint.bind fun _ => Setup.keepsSteps_addStream _
  have hfirst : Run fresh [⟨d, "steps/a.rs"⟩] (d.addedTo "steps/a.rs" fresh) :=
    Run.start.addedTo ⟨d, "steps/a.rs"⟩ fun _ => rfl
  have hrun : Run fresh [⟨d, "steps/a.rs"⟩, ⟨e, "steps/b.rs"⟩] site' :=
    (hfirst.setup hextras).addedTo ⟨e, "steps/b.rs"⟩ fun _ => rfl
  refine ⟨hrun, apart_steps_are_routed.1 _ _ _ hrun ?_⟩
  refine List.pairwise_pair.2 ⟨by decide, hshort "A" "B" (by decide), hshort "B" "A" (by decide)⟩

/-- The second step takes the function of the first: their names are different, but the second
shadows the first. -/
theorem shadowed_step_is_replaced :
    let d := onTopic "A" "z::trigger::queue(y" "first" (by decide)
    let e := onTopic "A::trigger::queue(z" "y" "second" (by decide)
    let id := "steps::A::trigger::queue(z::trigger::queue(y)"
    d.config.name ≠ e.config.name ∧
    ∃ site', Run fresh [⟨d, "steps/a.rs"⟩, ⟨e, "steps/b.rs"⟩] site' ∧
      id ∈ d.config.ids "steps/a.rs" ∧ id ∈ e.config.ids "steps/b.rs" ∧
      site'.transport.function? id = some (.handler
        ⟨"A::trigger::queue(z", .queue (.new "y"), 0, e.handler⟩) := by
  intro d e id
  have hd : id = StepConfig.baseId "A" "queue(z::trigger::queue(y)" := by decide
  have he : id = StepConfig.baseId "A::trigger::queue(z" "queue(y)" := by decide
  have hfirst : Run fresh [⟨d, "steps/a.rs"⟩] (d.addedTo "steps/a.rs" fresh) :=
    Run.start.addedTo ⟨d, "steps/a.rs"⟩ fun _ => rfl
  have hrun := hfirst.addedTo ⟨e, "steps/b.rs"⟩ fun _ => rfl
  refine ⟨by decide, _, hrun, ?_, ?_, ?_⟩
  · rw [hd]
    exact List.mem_cons_self
  · rw [he]
    exact List.mem_cons_self
  · rw [he]
    exact StepDefinition.function?_addedTo_of_mem List.mem_cons_self _

end Site

end StepEngine
