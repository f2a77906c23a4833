import StepEngine.Proofs.FunctionId
import StepEngine.Proofs.Setup

/-!
# The ids of a step

* `StepConfig.getElem?_registrations` : the record of each trigger of a step, by its index;
* `StepConfig.IsLaterId` : what the ids of triggers look like that come after others;
* `StepConfig.nodup_ids` : no id of a step occurs twice;
* `StepConfig.Identified` : all of it, and what it means for a transport without functions: each id
  reaches the trigger that it was made for.
-/

namespace StepEngine

namespace StepConfig

variable {step : String} {metadata : Json} {seen : List String} {index : Nat}

/-! ## One record for each trigger -/

theorem getElem?_recordsFrom (step : String) (metadata : Json) (seen : List String) (index : Nat)
    (ts : List Trigger) (i : Nat) :
    (recordsFrom step metadata seen index ts)[i]? = ts[i]?.map
      (recordOf step metadata (((ts.take i).map Trigger.descriptor).reverse ++ seen)
        (index + i)) := by
  induction ts generalizing seen index i with
  | nil => rfl
  | cons t ts ih =>
    cases i with
    | zero => rfl
    | succ i =>
      rw [recordsFrom, List.getElem?_cons_succ, ih, List.getElem?_cons_succ]
      simp only [List.take_succ_cons, List.map_cons, List.reverse_cons, List.append_assoc,
        List.singleton_append, Nat.add_assoc, Nat.add_comm 1]

theorem length_recordsFrom (step : String) (metadata : Json) (seen : List String) (index : Nat)
    (ts : List Trigger) : (recordsFrom step metadata seen index ts).length = ts.length := by
  induction ts generalizing seen index with
  | nil => rfl
  | cons t ts ih => rw [recordsFrom, List.length_cons, List.length_cons, ih]

theorem getElem?_registrations (c : StepConfig) (filePath : String) (i : Nat) :
    (c.registrations filePath)[i]? = c.triggers[i]?.map
      (recordOf c.name (c.metadata filePath)
        ((c.triggers.take i).map Trigger.descriptor).reverse i) := by
  rw [registrations, getElem?_recordsFrom]
  simp only [List.append_nil, Nat.zero_add]

/-- An earlier trigger of the step has the key of a trigger. -/
def Repeats (c : StepConfig) (i : Nat) (t : Trigger) : Prop :=
  ∃ j u, j < i ∧ c.triggers[j]? = some u ∧ u.key = t.key

theorem mem_earlier_iff (c : StepConfig) (i : Nat) (t : Trigger) :
    t.descriptor ∈ ((c.triggers.take i).map Trigger.descriptor).reverse ↔ c.Repeats i t := by
  rw [List.mem_reverse, List.mem_map]
  simp only [Trigger.descriptor_eq_iff, List.mem_iff_getElem?, List.getElem?_take]
  constructor
  · rintro ⟨u, ⟨j, hj⟩, hkey⟩
    split at hj
    · next hlt => exact ⟨j, u, hlt, hj, hkey⟩
    · cases hj
  · rintro ⟨j, u, hlt, hj, hkey⟩
    exact ⟨u, ⟨j, by rw [if_pos hlt, hj]⟩, hkey⟩

/-! ## What the ids are made from -/

theorem isFunctionId_functionId (step : String) (seen : List String) (index : Nat)
    (descriptor : String) :
    IsFunctionId (baseId step descriptor) (functionId step seen index descriptor) := by
  unfold functionId
  split
  · exact .inr ⟨index, rfl⟩
  · exact .inl rfl

theorem exists_trigger_of_mem_ids {c : StepConfig} {filePath id : String}
    (h : id ∈ c.ids filePath) :
    ∃ t ∈ c.triggers, IsIdFrom (baseId c.name t.descriptor) id := by
  obtain ⟨r, hr, hid⟩ := List.mem_flatMap.1 h
  obtain ⟨i, hr⟩ := List.mem_iff_getElem?.1 hr
  rw [getElem?_registrations, Option.map_eq_some_iff] at hr
  obtain ⟨t, ht, rfl⟩ := hr
  refine ⟨t, List.mem_of_getElem? ht, ?_⟩
  have hfunction := isFunctionId_functionId c.name
    ((c.triggers.take i).map Trigger.descriptor).reverse i t.descriptor
  rcases List.mem_cons.1 hid with rfl | hid
  · exact .inl hfunction
  · obtain ⟨condition, -, rfl⟩ := Option.map_eq_some_iff.1 (Option.mem_toList.1 hid)
    exact .inr ⟨_, i, hfunction, rfl⟩

/-! ## No id twice -/

/-- The id of a trigger whose descriptor is new, or one with a number from an index on. -/
def IsLaterId (step : String) (seen : List String) (index : Nat) (id : String) : Prop :=
  (∃ t : Trigger, t.descriptor ∉ seen ∧ id = baseId step t.descriptor) ∨
    ∃ stem n, index ≤ n ∧ id = stem ++ "::" ++ toString n

theorem functionId_of_mem {t : Trigger} (h : t.descriptor ∈ seen) :
    functionId step seen index t.descriptor =
      baseId step t.descriptor ++ "::" ++ toString index := by
  rw [functionId, if_pos (List.contains_iff_mem.2 h)]

theorem functionId_of_notMem {t : Trigger} (h : t.descriptor ∉ seen) :
    functionId step seen index t.descriptor = baseId step t.descriptor := by
  rw [functionId, if_neg (mt List.contains_iff_mem.1 h)]

theorem not_isLaterId_numbered (step : String) (seen : List String) (index : Nat)
    (stem : String) : ¬ IsLaterId step seen (index + 1) (stem ++ "::" ++ toString index) := by
  rintro (⟨t, -, heq⟩ | ⟨_, n, hle, heq⟩)
  · exact (endsOpen_baseId step t).ne_numbered stem index heq.symm
  · obtain rfl := (numbered_inj heq).2
    exact Nat.lt_irrefl _ hle

/-- The id of a trigger is none of those that come after it. -/
theorem isLaterId_functionId (step : String) (seen : List String) (index : Nat) (t : Trigger) :
    IsLaterId step seen index (functionId step seen index t.descriptor) ∧
      ¬ IsLaterId step (t.descriptor :: seen) (index + 1)
        (functionId step seen index t.descriptor) := by
  by_cases h : t.descriptor ∈ seen
  · rw [functionId_of_mem h]
    exact ⟨.inr ⟨_, index, Nat.le_refl _, rfl⟩, not_isLaterId_numbered _ _ _ _⟩
  · rw [functionId_of_notMem h]
    refine ⟨.inl ⟨t, h, rfl⟩, ?_⟩
    rintro (⟨u, hu, heq⟩ | ⟨stem, n, -, heq⟩)
    · rw [baseId_inj.1 heq] at hu
      exact hu List.mem_cons_self
    · exact (endsOpen_baseId step t).ne_numbered stem n heq

/-- Nor is the id of its condition. -/
theorem isLaterId_conditionId (step : String) (seen : List String) (index : Nat) (id : String)
    (descriptor : String) :
    IsLaterId step seen index (conditionId id index) ∧
      ¬ IsLaterId step (descriptor :: seen) (index + 1) (conditionId id index) := by
  rw [conditionId_eq]
  exact ⟨.inr ⟨_, index, Nat.le_refl _, rfl⟩, not_isLaterId_numbered _ _ _ _⟩

theorem recordOf_ids (step : String) (metadata : Json) (seen : List String) (index : Nat)
    (t : Trigger) :
    (recordOf step metadata seen index t).ids.Nodup ∧
    ∀ id ∈ (recordOf step metadata seen index t).ids, IsLaterId step seen index id ∧
      ¬ IsLaterId step (t.descriptor :: seen) (index + 1) id := by
  have hfunction := isLaterId_functionId step seen index t
  have hcondition := isLaterId_conditionId step seen index
    (functionId step seen index t.descriptor) t.descriptor
  rw [RegistrationRecord.ids, recordOf]
  cases t.condition with
  | none =>
    refine ⟨List.pairwise_singleton _ _, fun id hid => ?_⟩
    rw [List.mem_singleton.1 hid]
    exact hfunction
  | some condition =>
    refine ⟨?_, fun id hid => ?_⟩
    · rw [List.nodup_cons]
      refine ⟨fun hid => conditionId_ne _ index (List.mem_singleton.1 hid).symm, ?_⟩
      exact List.pairwise_singleton _ _
    · rcases List.mem_cons.1 hid with rfl | hid
      · exact hfunction
      · rw [List.mem_singleton.1 hid]
        exact hcondition

theorem IsLaterId.mono {id : String} {descriptor : String}
    (h : IsLaterId step (descriptor :: seen) (index + 1) id) : IsLaterId step seen index id := by
  rcases h with ⟨t, hnew, rfl⟩ | ⟨stem, n, hle, rfl⟩
  · exact .inl ⟨t, mt (List.mem_cons_of_mem _) hnew, rfl⟩
  · exact .inr ⟨stem, n, Nat.le_of_succ_le hle, rfl⟩

theorem isLaterId_of_mem {ts : List Trigger} {id : String}
    (h : id ∈ (recordsFrom step metadata seen index ts).flatMap RegistrationRecord.ids) :
    IsLaterId step seen index id := by
  induction ts generalizing seen index with
  | nil => cases h
  | cons t ts ih =>
    rw [recordsFrom, List.flatMap_cons, List.mem_append] at h
    rcases h with h | h
    · exact ((recordOf_ids step metadata seen index t).2 id h).1
    · exact (ih h).mono

theorem nodup_recordsFrom (step : String) (metadata : Json) (seen : List String) (index : Nat)
    (ts : List Trigger) :
    ((recordsFrom step metadata seen index ts).flatMap RegistrationRecord.ids).Nodup := by
  induction ts generalizing seen index with
  | nil => exact List.nodup_nil
  | cons t ts ih =>
    obtain ⟨hnodup, hlater⟩ := recordOf_ids step metadata seen index t
    rw [recordsFrom, List.flatMap_cons, List.nodup_append]
    refine ⟨hnodup, ih _ _, ?_⟩
    rintro id hid _ hmem rfl
    exact (hlater id hid).2 (isLaterId_of_mem hmem)

theorem nodup_ids (c : StepConfig) (filePath : String) : (c.ids filePath).Nodup :=
  nodup_recordsFrom _ _ _ _ _

end StepConfig

/-! ## The functions of a step by their ids -/

namespace StepDefinition

theorem mem_functionsFrom {d : StepDefinition} {index i : Nat}
    {triggers : List (Trigger × RegistrationRecord)} {t : Trigger} {r : RegistrationRecord}
    (h : triggers[i]? = some (t, r)) (entry : String × EngineFunction)
    (hentry : entry ∈ Setup.functionsOf d (index + i) t r) :
    entry ∈ d.functionsFrom index triggers := by
  induction triggers generalizing index i with
  | nil => cases h
  | cons pair rest ih =>
    obtain ⟨u, q⟩ := pair
    rw [functionsFrom, List.mem_append]
    cases i with
    | zero =>
      cases h
      exact .inl hentry
    | succ i =>
      refine .inr (ih h ?_)
      rwa [Nat.add_assoc, Nat.add_comm 1]

theorem mem_functions {d : StepDefinition} {filePath : String} {i : Nat} {t : Trigger}
    {r : RegistrationRecord} (ht : d.config.triggers[i]? = some t)
    (hr : (d.config.registrations filePath)[i]? = some r) (entry : String × EngineFunction)
    (hentry : entry ∈ Setup.functionsOf d i t r) : entry ∈ d.functions filePath := by
  refine mem_functionsFrom (i := i) ?_ entry (by rwa [Nat.zero_add])
  rw [List.getElem?_zip_eq_some]
  exact ⟨ht, hr⟩

theorem nodup_functions (d : StepDefinition) (filePath : String) :
    ((d.functions filePath).map (·.1)).Nodup := by
  rw [map_fst_functions]
  exact d.config.nodup_ids filePath

/-- A step that has been added has all its functions. -/
theorem function?_addedTo_of_mem {d : StepDefinition} {filePath id : String} {f : EngineFunction}
    (h : (id, f) ∈ d.functions filePath) (site : Site) :
    (d.addedTo filePath site).transport.function? id = some f :=
  Recorder.lookup_putAll_of_mem (d.nodup_functions filePath) h _

/-- The functions of other ids are as before. -/
theorem function?_addedTo_of_notMem {d : StepDefinition} {filePath id : String}
    (h : id ∉ d.config.ids filePath) (site : Site) :
    (d.addedTo filePath site).transport.function? id = site.transport.function? id := by
  rw [← map_fst_functions] at h
  exact Recorder.lookup_putAll_of_notMem h _

end StepDefinition

namespace StepConfig

/-- The ids of a step tell its triggers and their conditions apart. -/
structure Identified (c : StepConfig) (filePath : String) : Prop where
  /-- One record for each trigger, in order. -/
  length : (c.registrations filePath).length = c.triggers.length
  /-- The index stands at the end of an id when an earlier trigger has the same key, and only
  then. -/
  functionId : ∀ (i : Nat) (t : Trigger) (r : RegistrationRecord), c.triggers[i]? = some t →
    (c.registrations filePath)[i]? = some r →
    (c.Repeats i t → r.functionId = baseId c.name t.descriptor ++ "::" ++ toString i) ∧
    (¬ c.Repeats i t → r.functionId = baseId c.name t.descriptor)
  suffix : ∀ (i : Nat) (t : Trigger) (r : RegistrationRecord), c.triggers[i]? = some t →
    (c.registrations filePath)[i]? = some r →
    ((∃ stem, r.functionId = stem ++ "::" ++ toString i) ↔ c.Repeats i t)
  conditionId : ∀ (i : Nat) (t : Trigger) (r : RegistrationRecord), c.triggers[i]? = some t →
    (c.registrations filePath)[i]? = some r → r.conditionId = t.condition.map fun _ =>
      r.functionId ++ "::conditions::" ++ toString i
  /-- All ids are different, those of triggers and those of conditions. -/
  nodup : ((c.registrations filePath).flatMap fun r =>
    r.functionId :: r.conditionId.toList).Nodup
  /-- A transport that refuses none of the ids takes the step. -/
  accepted : ∀ (d : StepDefinition) (site : Site), d.config = c →
    (∀ id ∈ c.ids filePath, site.transport.Accepts id) →
    ∃ site', Setup.addStep d filePath site = (.ok (c.registrations filePath), site')
  /-- On a transport without functions the functions have these ids, in this order, and the id of
  a trigger reaches the handler at this trigger. -/
  reached : ∀ (d : StepDefinition) (site site' : Site) (records : List RegistrationRecord),
    d.config = c → site.transport.functions = [] →
    Setup.addStep d filePath site = (.ok records, site') →
    site'.transport.functionIds =
      records.flatMap (fun r => r.functionId :: r.conditionId.toList) ∧
    ∀ (i : Nat) (t : Trigger) (r : RegistrationRecord), c.triggers[i]? = some t →
      records[i]? = some r → ∀ readFile identifiers invocation,
        site'.invoke readFile identifiers r.functionId invocation =
          (EngineFunction.handler ⟨c.name, t, i, d.handler⟩).invoke invocation
            (site'.surroundings readFile identifiers) none (.start site'.transport)

theorem ids_tell_triggers_apart (c : StepConfig) (filePath : String) : c.Identified filePath where
  length := length_recordsFrom _ _ _ _ _
  functionId i t r ht hr := by
    rw [getElem?_registrations, ht] at hr
    obtain rfl := Option.some.inj hr
    exact ⟨fun h => functionId_of_mem ((c.mem_earlier_iff i t).2 h),
      fun h => functionId_of_notMem (mt (c.mem_earlier_iff i t).1 h)⟩
  suffix i t r ht hr := by
    rw [getElem?_registrations, ht] at hr
    obtain rfl := Option.some.inj hr
    rw [← mem_earlier_iff]
    refine ⟨fun ⟨stem, hstem⟩ => ?_, fun h => ⟨_, functionId_of_mem h⟩⟩
    by_cases h : t.descriptor ∈ ((c.triggers.take i).map Trigger.descriptor).reverse
    · exact h
    · exact absurd ((functionId_of_notMem h).symm.trans hstem)
        ((endsOpen_baseId c.name t).ne_numbered stem i)
  conditionId i t r ht hr := by
    rw [getElem?_registrations, ht] at hr
    obtain rfl := Option.some.inj hr
    rfl
  nodup := c.nodup_ids filePath
  accepted d site hd haccepts := by
    subst hd
    exact ⟨_, Setup.addStep_ok_iff.2 ⟨rfl, haccepts, rfl⟩⟩
  reached d site site' records hd hempty h := by
    subst hd
    obtain ⟨rfl, -, rfl⟩ := Setup.addStep_ok_iff.1 h
    have hfunctions : (d.addedTo filePath site).transport.functions = d.functions filePath := by
      change Recorder.putAll (d.functions filePath) site.transport.functions = _
      rw [hempty, Recorder.putAll_of_fresh (d.nodup_functions filePath)
        (fun _ _ => List.not_mem_nil), List.nil_append]
    refine ⟨?_, fun i t r ht hr readFile identifiers invocation => ?_⟩
    · rw [Recorder.functionIds, hfunctions, map_fst_functions]
      rfl
    · have hmem := StepDefinition.mem_functions ht hr _ List.mem_cons_self
      rw [Site.invoke, StepDefinition.function?_addedTo_of_mem hmem]

example :
    let c := ((new "S").withTrigger (.queue (.new "t"))).withTrigger (.queue (.new "t"))
    (c.registrations "s.rs").map (·.functionId) =
      ["steps::S::trigger::queue(t)", "steps::S::trigger::queue(t)::1"] := by
  decide

end StepConfig

end StepEngine
