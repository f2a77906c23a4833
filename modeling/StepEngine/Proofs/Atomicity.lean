import StepEngine.Proofs.Plan
import StepEngine.Proofs.Registration

/-!
# A step is added whole or not at all

* `Recorder.carryOut_plan` : the plan of a step ends at the first of its ids that is refused, while
  its functions are registered, or not at all: once they are there its triggers cannot be refused;
* `StepDefinition.RefusedAt` : what a step leaves that is not added: some of its functions, no trigger
  and no source;
* `StepDefinition.Added` : what a step leaves that is added;
* `StepDefinition.AllOrNothing` : one or the other, for any state of the transport and the engine.
-/

namespace StepEngine

theorem RegistrationRecord.functionId_mem_ids {d : StepDefinition} {filePath : String}
    {r : RegistrationRecord} (h : r ∈ d.config.registrations filePath) :
    r.functionId ∈ d.config.ids filePath :=
  List.mem_flatMap.2 ⟨r, h, List.mem_cons_self⟩

namespace Recorder

/-- Functions registered up to the first refusal. -/
theorem carryOut_functions (transport : Recorder EngineFunction)
    (fs : List (String × EngineFunction)) :
    (∀ id ∈ fs.map (·.1), transport.Accepts id) ∧
      transport.carryOut (fs.map fun f => .function f.1 f.2) = (none, transport.withFunctions fs) ∨
    ∃ before id after details, fs.map (·.1) = before ++ id :: after ∧
      (∀ other ∈ before, transport.Accepts other) ∧
      transport.rejections.find? id = some details ∧
      transport.carryOut (fs.map fun f => .function f.1 f.2) =
        (some (.transport "register_function" details),
          transport.withFunctions (fs.take before.length)) := by
  rcases transport.carryOut_cases (fs.map fun f => .function f.1 f.2) with
    ⟨hall, hends⟩ | ⟨before, r, details, ⟨⟨after, hsplit⟩, haccepted, hrefused⟩, hends⟩
  · left
    rw [Registration.applyAll_functions] at hends
    refine ⟨?_, hends⟩
    intro id hid
    obtain ⟨f, hf, rfl⟩ := List.mem_map.1 hid
    exact hall _ (List.mem_map.2 ⟨f, hf, rfl⟩)
  · right
    obtain ⟨first, rest, rfl, rfl, hrest⟩ := List.map_eq_append_iff.1 hsplit
    obtain ⟨f, last, rfl, rfl, rfl⟩ := List.map_eq_cons_iff.1 hrest
    refine ⟨first.map (·.1), f.1, last.map (·.1), details, ?_, ?_, hrefused, ?_⟩
    · rw [List.map_append, List.map_cons]
    · intro other hother
      obtain ⟨g, hg, rfl⟩ := List.mem_map.1 hother
      exact haccepted _ (List.mem_map.2 ⟨g, hg, rfl⟩)
    · rw [hends, Registration.applyAll_functions, List.length_map, List.take_left]
      rfl

/-- Triggers registered under ids that are all accepted. -/
theorem carryOut_triggers (transport : Recorder EngineFunction) {ts : List TriggerRegistration}
    (h : ∀ t ∈ ts, transport.Accepts t.functionId) :
    transport.carryOut (ts.map .trigger) = (none, transport.withTriggers ts) := by
  induction ts generalizing transport with
  | nil => rw [List.map_nil, carryOut_nil, withTriggers, List.append_nil]
  | cons t ts ih =>
    obtain ⟨ht, hts⟩ := List.forall_mem_cons.1 h
    have hfirst : transport.Accepts (Registration.trigger t).id := ht
    have hrest := ih (transport.withTriggers [t]) hts
    rw [List.map_cons, carryOut_cons_of_accepts hfirst, Registration.applyTo, hrest]
    simp only [withTriggers, List.append_assoc, List.singleton_append]

/-- The plan of a step ends while its functions are registered, or not at all. -/
theorem carryOut_plan (transport : Recorder EngineFunction) (d : StepDefinition)
    (filePath : String) :
    (∀ id ∈ d.config.ids filePath, transport.Accepts id) ∧
      transport.carryOut (d.plan filePath) = (none,
        (transport.withFunctions (d.functions filePath)).withTriggers
          ((d.config.registrations filePath).map RegistrationRecord.toTriggerRegistration)) ∨
    ∃ before id after details, d.config.ids filePath = before ++ id :: after ∧
      (∀ other ∈ before, transport.Accepts other) ∧
      transport.rejections.find? id = some details ∧
      transport.carryOut (d.plan filePath) =
        (some (.transport "register_function" details),
          transport.withFunctions ((d.functions filePath).take before.length)) := by
  have hcases := transport.carryOut_functions (d.functions filePath)
  rw [map_fst_functions] at hcases
  rcases hcases with ⟨hall, hends⟩ | ⟨before, id, after, details, hsplit, hbefore, hid, hends⟩
  · left
    refine ⟨hall, ?_⟩
    -- the ids of the triggers are among those of the functions, which have been accepted
    have htriggers : ∀ t ∈ (d.config.registrations filePath).map
        RegistrationRecord.toTriggerRegistration,
        (transport.withFunctions (d.functions filePath)).Accepts t.functionId := by
      intro t ht
      obtain ⟨r, hr, rfl⟩ := List.mem_map.1 ht
      exact hall _ (RegistrationRecord.functionId_mem_ids hr)
    have hrest := carryOut_triggers _ htriggers
    rw [List.map_map] at hrest
    rw [StepDefinition.plan, carryOut_append_of_none hends]
    exact hrest
  · right
    exact ⟨before, id, after, details, hsplit, hbefore, hid, carryOut_append_of_some hends _⟩

end Recorder

namespace StepDefinition

variable {d : StepDefinition} {filePath : String} {site site' : Site}

/-- What is left of a step that is refused at an id: the functions of the ids before it. -/
structure RefusedAt (d : StepDefinition) (filePath : String) (site : Site) (before : List String)
    (id : String) (error : StepError) (site' : Site) : Prop where
  /-- The ids of a step go by its triggers: that of a trigger, then that of its condition. -/
  split : ∃ after, d.config.ids filePath = before ++ id :: after
  accepted : ∀ other ∈ before, site.transport.Accepts other
  /-- It is a function whose registration is refused, never a trigger. -/
  error : ∃ details, site.transport.rejections.find? id = some details ∧
    error = .transport "register_function" details
  /-- No source is recorded, so the names and the list of the steps are as before. -/
  engine : site'.engine = site.engine
  /-- Nothing but functions has changed. -/
  transport : site'.transport =
    { site.transport with functions := site'.transport.functions }
  registered : ∀ other f, (other, f) ∈ d.functions filePath → other ∈ before →
    site'.transport.function? other = some f
  unchanged : ∀ other ∉ before, site'.transport.function? other = site.transport.function? other

/-- What a step leaves that is added. -/
structure Added (d : StepDefinition) (filePath : String) (site : Site)
    (records : List RegistrationRecord) (site' : Site) : Prop where
  derived : records = d.config.registrations filePath
  /-- One trigger for each trigger of the step, in order, after all others. -/
  triggers : site'.transport.triggers =
    site.transport.triggers ++ records.map RegistrationRecord.toTriggerRegistration
  one_each : records.length = d.config.triggers.length ∧
    ∀ (i : Nat) (t : Trigger) (r : RegistrationRecord), d.config.triggers[i]? = some t →
      records[i]? = some r → r.kindConfig = .ofTrigger t
  registered : (∀ id ∈ d.config.ids filePath, id ∈ site'.transport.functionIds) ∧
    ∀ id f, (id, f) ∈ d.functions filePath → site'.transport.function? id = some f
  unchanged : ∀ other ∉ d.config.ids filePath,
    site'.transport.function? other = site.transport.function? other
  /-- The source is recorded, and nothing else of the engine changes. -/
  source : site'.engine = site.engine.withSource ⟨d.config.name, filePath⟩ ∧
    site'.engine.source? (stepId filePath) = some ⟨d.config.name, filePath⟩

/-- A step is added whole, or no trigger and no source of it is left. -/
structure AllOrNothing (d : StepDefinition) (filePath : String) (site : Site) : Prop where
  fails_iff : (∃ error site', Setup.addStep d filePath site = (.error error, site')) ↔
    ∃ id ∈ d.config.ids filePath, ¬ site.transport.Accepts id
  failed : ∀ error site', Setup.addStep d filePath site = (.error error, site') →
    ∃ before id, d.RefusedAt filePath site before id error site'
  added : ∀ records site', Setup.addStep d filePath site = (.ok records, site') →
    d.Added filePath site records site'

/-! ## Both ways -/

theorem mem_functionIds_of_function? {φ : Type} {transport : Recorder φ} {id : String} {f : φ}
    (h : transport.function? id = some f) : id ∈ transport.functionIds := by
  rw [Recorder.functionIds]
  rw [Recorder.function?, List.lookup_eq_some_iff] at h
  obtain ⟨before, after, hsplit, -⟩ := h
  rw [hsplit, List.map_append, List.map_cons]
  exact List.mem_append_right _ List.mem_cons_self

theorem nodup_functions_take (d : StepDefinition) (filePath : String) (n : Nat) :
    (((d.functions filePath).take n).map (·.1)).Nodup := by
  rw [List.map_take]
  exact (d.nodup_functions filePath).sublist (List.take_sublist _ _)

theorem map_fst_take_functions {before after : List String} {id : String}
    (h : d.config.ids filePath = before ++ id :: after) :
    ((d.functions filePath).take before.length).map (·.1) = before := by
  rw [List.map_take, map_fst_functions, h, List.take_left]

theorem refusedAt {before after : List String} {id details : String} {events : List Event}
    (hsplit : d.config.ids filePath = before ++ id :: after)
    (hbefore : ∀ other ∈ before, site.transport.Accepts other)
    (hid : site.transport.rejections.find? id = some details) :
    d.RefusedAt filePath site before id (.transport "register_function" details)
      ⟨site.engine, site.transport.withFunctions ((d.functions filePath).take before.length),
        events⟩ where
  split := ⟨after, hsplit⟩
  accepted := hbefore
  error := ⟨details, hid, rfl⟩
  engine := rfl
  transport := rfl
  registered other f hf hother := by
    refine Recorder.lookup_putAll_of_mem (d.nodup_functions_take filePath _) ?_ _
    -- ids are different, so the function of an early id is one of the first functions
    rw [← map_fst_take_functions hsplit] at hother
    obtain ⟨⟨_, g⟩, hg, rfl⟩ := List.mem_map.1 hother
    have hsame : f = g := by
      have hboth := d.nodup_functions filePath
      have hf' := Recorder.lookup_putAll_of_mem hboth hf []
      have hg' := Recorder.lookup_putAll_of_mem hboth (List.mem_of_mem_take hg) []
      exact Option.some.inj (hf'.symm.trans hg')
    rwa [hsame]
  unchanged other hother := by
    refine Recorder.lookup_putAll_of_notMem ?_ _
    rwa [map_fst_take_functions hsplit]

theorem added_of_addStep {records : List RegistrationRecord}
    (h : Setup.addStep d filePath site = (.ok records, site')) :
    d.Added filePath site records site' := by
  obtain ⟨rfl, -, rfl⟩ := Setup.addStep_ok_iff.1 h
  refine ⟨rfl, rfl, ⟨StepConfig.length_recordsFrom _ _ _ _ _, ?_⟩, ⟨?_, ?_⟩, ?_, rfl, ?_⟩
  · intro i t r ht hr
    rw [StepConfig.getElem?_registrations, ht] at hr
    obtain rfl := Option.some.inj hr
    rfl
  · intro id hid
    rw [← map_fst_functions] at hid
    obtain ⟨⟨_, f⟩, hf, rfl⟩ := List.mem_map.1 hid
    exact mem_functionIds_of_function? (function?_addedTo_of_mem hf site)
  · intro id f hf
    exact function?_addedTo_of_mem hf site
  · intro other hother
    exact function?_addedTo_of_notMem hother site
  · change (site.engine.sources.insert _ _).find? _ = _
    rw [SortedMap.find?_insert, if_pos rfl]

/-- Whatever the transport holds and refuses, and whatever the engine knows, a step is added whole or
leaves nothing but the functions before the first that is refused. -/
theorem added_whole_or_not_at_all (d : StepDefinition) (filePath : String) (site : Site) :
    d.AllOrNothing filePath site := by
  rcases site.transport.carryOut_plan d filePath with
    ⟨hall, hends⟩ | ⟨before, id, after, details, hsplit, hbefore, hid, hends⟩
  · obtain ⟨events, hadd⟩ := Setup.addStep_of_accepted hends
    refine ⟨⟨?_, ?_⟩, ?_, fun records site' => added_of_addStep⟩
    · rintro ⟨error, site', hfails⟩
      rw [hadd] at hfails
      cases (Prod.mk.inj hfails).1
    · rintro ⟨id, hid, hrefused⟩
      exact absurd (hall id hid) hrefused
    · intro error site' hfails
      rw [hadd] at hfails
      cases (Prod.mk.inj hfails).1
  · obtain ⟨events, hadd⟩ := Setup.addStep_of_refused hends
    refine ⟨⟨?_, ?_⟩, ?_, ?_⟩
    · intro _
      refine ⟨id, ?_, ?_⟩
      · rw [hsplit]
        exact List.mem_append_right _ List.mem_cons_self
      · rw [Recorder.Accepts, hid]
        exact Option.some_ne_none details
    · intro _
      exact ⟨_, _, hadd⟩
    · intro error site' hfails
      rw [hadd] at hfails
      obtain ⟨herror, rfl⟩ := Prod.mk.inj hfails
      obtain rfl := Except.error.inj herror
      exact ⟨before, id, refusedAt hsplit hbefore hid⟩
    · intro records site' h
      rw [hadd] at h
      cases (Prod.mk.inj h).1

end StepDefinition

end StepEngine
