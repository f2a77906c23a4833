import StepEngine.Transport.Recorder

/-!
# What a recording transport keeps

* `Recorder.lookup_put_self`, `lookup_put_of_ne` : the function of an id is the one that was
  registered last;
* `Recorder.putAll` : functions registered one after the other: other ids keep theirs
  (`lookup_putAll_of_notMem`), ids that occur once get theirs (`lookup_putAll_of_mem`), and new ids
  stand at the end in order (`putAll_of_fresh`);
* `Recorder.Accepts` : no registration under an id is refused; `registerFunction_ok_iff` and
  `registerTrigger_ok_iff` say what a registration then leaves.
-/

namespace StepEngine.Recorder

variable {φ : Type}

/-! ## One function -/

theorem lookup_put_self (id : String) (f : φ) (functions : List (String × φ)) :
    (put id f functions).lookup id = some f := by
  induction functions with
  | nil => rw [put, List.lookup_cons_self]
  | cons entry rest ih =>
    obtain ⟨other, g⟩ := entry
    rw [put]
    split
    · rw [List.lookup_cons_self]
    · next h => rw [List.lookup_cons, beq_eq_false_iff_ne.2 (Ne.symm h), ih]

theorem lookup_put_of_ne {id other : String} (h : other ≠ id) (f : φ)
    (functions : List (String × φ)) :
    (put id f functions).lookup other = functions.lookup other := by
  induction functions with
  | nil => rw [put, List.lookup_cons, beq_eq_false_iff_ne.2 h]
  | cons entry rest ih =>
    obtain ⟨key, g⟩ := entry
    rw [put]
    split
    · next hkey => rw [hkey, List.lookup_cons, List.lookup_cons, beq_eq_false_iff_ne.2 h]
    · rw [List.lookup_cons, List.lookup_cons, ih]

theorem put_of_fresh {id : String} {functions : List (String × φ)}
    (h : id ∉ functions.map (·.1)) (f : φ) : put id f functions = functions ++ [(id, f)] := by
  induction functions with
  | nil => rfl
  | cons entry rest ih =>
    obtain ⟨other, g⟩ := entry
    rw [List.map_cons, List.mem_cons, not_or] at h
    rw [put, if_neg (Ne.symm h.1), ih h.2, List.cons_append]

theorem mem_ids_put {id other : String} {f : φ} {functions : List (String × φ)} :
    other ∈ (put id f functions).map (·.1) ↔ other = id ∨ other ∈ functions.map (·.1) := by
  induction functions with
  | nil => rw [put, List.map_singleton, List.mem_singleton, List.map_nil, List.mem_nil_iff, or_false]
  | cons entry rest ih =>
    obtain ⟨key, g⟩ := entry
    rw [put, List.map_cons, List.mem_cons]
    split
    · next hkey => rw [hkey, List.map_cons, List.mem_cons, ← or_assoc, or_self]
    · rw [List.map_cons, List.mem_cons, ih, or_left_comm]

/-! ## Functions one after the other -/

def putAll (added functions : List (String × φ)) : List (String × φ) :=
  added.foldl (fun functions entry => put entry.1 entry.2 functions) functions

@[simp] theorem putAll_nil (functions : List (String × φ)) : putAll [] functions = functions := rfl

@[simp] theorem putAll_cons (entry : String × φ) (added functions : List (String × φ)) :
    putAll (entry :: added) functions = putAll added (put entry.1 entry.2 functions) := rfl

theorem putAll_append (added more functions : List (String × φ)) :
    putAll (added ++ more) functions = putAll more (putAll added functions) :=
  List.foldl_append

theorem lookup_putAll_of_notMem {id : String} {added : List (String × φ)}
    (h : id ∉ added.map (·.1)) (functions : List (String × φ)) :
    (putAll added functions).lookup id = functions.lookup id := by
  induction added generalizing functions with
  | nil => rfl
  | cons entry added ih =>
    rw [List.map_cons, List.mem_cons, not_or] at h
    rw [putAll_cons, ih h.2, lookup_put_of_ne h.1]

theorem lookup_putAll_of_mem {id : String} {f : φ} {added : List (String × φ)}
    (hnodup : (added.map (·.1)).Nodup) (h : (id, f) ∈ added) (functions : List (String × φ)) :
    (putAll added functions).lookup id = some f := by
  induction added generalizing functions with
  | nil => cases h
  | cons entry added ih =>
    rw [List.map_cons, List.nodup_cons] at hnodup
    rw [putAll_cons]
    rcases List.mem_cons.1 h with rfl | h
    · rw [lookup_putAll_of_notMem hnodup.1, lookup_put_self]
    · exact ih hnodup.2 h _

theorem putAll_of_fresh {added functions : List (String × φ)}
    (hnodup : (added.map (·.1)).Nodup)
    (h : ∀ id ∈ added.map (·.1), id ∉ functions.map (·.1)) :
    putAll added functions = functions ++ added := by
  induction added generalizing functions with
  | nil => rw [putAll_nil, List.append_nil]
  | cons entry added ih =>
    rw [List.map_cons, List.nodup_cons] at hnodup
    rw [putAll_cons, put_of_fresh (h _ List.mem_cons_self), ih hnodup.2, List.append_assoc]
    · rfl
    · intro id hid hmem
      rw [List.map_append, List.mem_append] at hmem
      rcases hmem with hmem | hmem
      · exact h id (List.mem_cons_of_mem _ hid) hmem
      · obtain rfl : id = entry.1 := List.mem_singleton.1 hmem
        exact hnodup.1 hid

/-! ## Refusals -/

/-- No registration under an id is refused. -/
def Accepts (r : Recorder φ) (id : String) : Prop := r.rejections.find? id = none

def withFunctions (r : Recorder φ) (added : List (String × φ)) : Recorder φ :=
  { r with functions := putAll added r.functions }

def withTriggers (r : Recorder φ) (added : List TriggerRegistration) : Recorder φ :=
  { r with triggers := r.triggers ++ added }

theorem registerFunction_ok_iff {r r' : Recorder φ} {id : String} {f : φ} :
    r.registerFunction id f = .ok r' ↔ r.Accepts id ∧ r' = r.withFunctions [(id, f)] := by
  unfold registerFunction refusal? Accepts
  cases r.rejections.find? id with
  | none => exact ⟨fun h => ⟨rfl, (Except.ok.inj h).symm⟩, fun h => by rw [h.2]; rfl⟩
  | some details => exact ⟨nofun, nofun⟩

theorem registerTrigger_ok_iff {r r' : Recorder φ} {t : TriggerRegistration} :
    r.registerTrigger t = .ok r' ↔ r.Accepts t.functionId ∧ r' = r.withTriggers [t] := by
  unfold registerTrigger refusal? Accepts
  cases r.rejections.find? t.functionId with
  | none => exact ⟨fun h => ⟨rfl, (Except.ok.inj h).symm⟩, fun h => by rw [h.2]; rfl⟩
  | some details => exact ⟨nofun, nofun⟩

end StepEngine.Recorder
