import StepEngine.Proofs.FunctionId
import StepEngine.Proofs.Schedule

/-!
# Names that shadow others

Nothing in an id is escaped. A name can go on where another one ends, with the separator and the
start of a descriptor, and then the texts of the two steps can meet.

* `IdText.mark` : the separator between a name and a descriptor;
* `IdText.gap_of_append` : two names before a separator are the same, or one goes on with it;
* `StepConfig.Shadows` : a name goes on where another one ends;
* `Trigger.Sound` : what a trigger without problems has that matters here;
* `StepConfig.eq_or_shadows_of_baseId_eq` : steps whose ids meet have one name, or names that
  shadow;
* `StepConfig.exists_common_of_shadows` : where a name shadows another one, some ids do meet.
-/

namespace StepEngine

/-! ## Separators -/

namespace IdText

/-- What stands between a name and a descriptor. -/
def mark : List Char := [':', ':', 't', 'r', 'i', 'g', 'g', 'e', 'r', ':', ':']

theorem toList_mark : "::trigger::".toList = mark := by decide

/-- Where an end of the separator is a start of it as well, the next character of the separator is
a colon or a `t`. -/
theorem overlap_mark : ∀ k < mark.length + 1, mark.drop k <+: mark →
    k = 0 ∨ mark[mark.length - k]? = some ':' ∨ mark[mark.length - k]? = some 't' := by
  decide

/-- A descriptor starts with neither. -/
theorem gap_of_append {x : Char} {a d e : List Char} (hcolon : x ≠ ':') (ht : x ≠ 't')
    (h : mark ++ x :: d = a ++ (mark ++ e)) :
    a = [] ∨ ∃ b, a = mark ++ b ∧ x :: d = b ++ (mark ++ e) := by
  rcases List.append_eq_append_iff.1 h with ⟨b, ha, hd⟩ | ⟨c, hmark, hrest⟩
  · exact .inr ⟨b, ha, hd⟩
  · refine .inl ?_
    have hlength := congrArg List.length hmark
    rw [List.length_append] at hlength
    have hc : c = mark.drop a.length := by rw [hmark, List.drop_left]
    have hprefix : mark.drop a.length <+: mark := by
      rw [← hc]
      exact List.prefix_of_prefix_length_le ⟨x :: d, hrest.symm⟩ ⟨e, rfl⟩ (by omega)
    rcases Nat.eq_zero_or_pos a.length with hzero | hpos
    · exact List.length_eq_zero_iff.1 hzero
    · have hnext : (mark ++ e)[c.length]? = (c ++ x :: d)[c.length]? := by rw [hrest]
      rw [List.getElem?_append_left (by omega), List.getElem?_append_right (Nat.le_refl _),
        Nat.sub_self, show c.length = mark.length - a.length by omega] at hnext
      rcases overlap_mark a.length (by omega) hprefix with h | h | h
      · exact absurd h (by omega)
      · exact absurd (Option.some.inj (hnext.symm.trans h)) hcolon
      · exact absurd (Option.some.inj (hnext.symm.trans h)) ht

/-- A text without colons before one that has a colon. -/
theorem append_colon {a b s e : List Char} (ha : ':' ∉ a) (h : a ++ s = b ++ ':' :: e) :
    ∃ c, b = a ++ c ∧ s = c ++ ':' :: e := by
  rcases List.append_eq_append_iff.1 h with ⟨c, hb, hs⟩ | ⟨c, ha', hs⟩
  · exact ⟨c, hb, hs⟩
  · cases c with
    | nil => exact ⟨[], by rw [ha', List.append_nil, List.append_nil], hs.symm⟩
    | cons y c =>
      obtain ⟨rfl, -⟩ := List.cons.inj hs
      exact absurd (by rw [ha']; simp) ha

end IdText

/-! ## Triggers without problems -/

namespace Trigger

/-- A path starts with a slash, an expression is a schedule. -/
def Sound : Trigger → Prop
  | http t => t.path.toList.head? = some '/'
  | cron t => Cron.isValid t.expression = true
  | _ => True

theorem sound_of_problems {t : Trigger} {index : Nat} (h : t.problems index = []) : t.Sound := by
  cases t with
  | http t =>
    simp only [problems, List.append_eq_nil_iff] at h
    have hpath := h.1.1
    split at hpath
    · assumption
    · cases hpath
  | cron t =>
    simp only [problems] at h
    split at h
    · assumption
    · cases h
  | queue _ | state _ | stream _ => trivial

theorem problems_of_allProblems {ts : List Trigger} {index : Nat} (h : allProblems index ts = []) :
    ∀ t ∈ ts, ∃ index, t.problems index = [] := by
  induction ts generalizing index with
  | nil => nofun
  | cons t ts ih =>
    rw [allProblems, List.append_eq_nil_iff] at h
    exact List.forall_mem_cons.2 ⟨⟨index, h.1⟩, ih h.2⟩

end Trigger

theorem StepConfig.trigger_problems {c : StepConfig} (h : c.problems = []) :
    ∀ t ∈ c.triggers, ∃ index, t.problems index = [] := by
  rw [problems, List.append_eq_nil_iff, List.append_eq_nil_iff] at h
  exact Trigger.problems_of_allProblems h.1.2

theorem StepDefinition.trigger_sound (d : StepDefinition) : ∀ t ∈ d.config.triggers, t.Sound := by
  intro t ht
  obtain ⟨index, hproblems⟩ := StepConfig.trigger_problems d.sound t ht
  exact Trigger.sound_of_problems hproblems

/-! ## Shadows -/

namespace StepConfig

/-- The starts of descriptors that can go on with anything. -/
def starts : List String :=
  HttpMethod.all.map (fun m => "http(" ++ m.name ++ " /") ++ ["queue(", "stream("]

/-- A name goes on where another one ends, with the separator and the start of a descriptor. -/
def Shadows (long short : String) : Prop :=
  ∃ start ∈ starts, ∃ rest, long = short ++ "::trigger::" ++ start ++ rest

end StepConfig

namespace Trigger

open StepConfig IdText

theorem colon_notMem_opening : ∀ form ∈ TriggerForm.all, ':' ∉ form.opening.toList := by
  decide

theorem toList_descriptor (t : Trigger) :
    t.descriptor.toList =
      t.key.form.opening.toList ++ (t.key.subject.toList ++ t.key.form.closing.toList) := by
  rw [descriptor_eq, String.toList_append, String.toList_append]

theorem head?_opening : ∀ form ∈ TriggerForm.all,
    form.opening.toList.head? ∈ [some 'h', some 'q', some 'c', some 's'] := by
  decide

/-- The first character is none that could be part of a separator. -/
theorem descriptor_head (t : Trigger) :
    ∃ x d, t.descriptor.toList = x :: d ∧ x ≠ ':' ∧ x ≠ 't' := by
  have hhead (x : Char) (hx : t.key.form.opening.toList.head? = some x) :
      ∃ d, t.descriptor.toList = x :: d := by
    obtain ⟨d, hopening⟩ := List.head?_eq_some_iff.1 hx
    exact ⟨_, by rw [toList_descriptor, hopening, List.cons_append]⟩
  have hmem := head?_opening t.key.form t.key.form.mem_all
  simp only [List.mem_cons, List.not_mem_nil, or_false] at hmem
  rcases hmem with hx | hx | hx | hx <;>
    · obtain ⟨d, hd⟩ := hhead _ hx
      exact ⟨_, d, hd, by decide, by decide⟩

/-- What comes before a separator in a descriptor starts as a name that shadows goes on. -/
theorem Sound.descriptor_before_mark {t : Trigger} (ht : t.Sound) {b e : List Char}
    (h : t.descriptor.toList = b ++ (mark ++ e)) :
    ∃ start ∈ starts, ∃ rest, b = start.toList ++ rest := by
  rw [toList_descriptor] at h
  obtain ⟨c, rfl, hsubject⟩ :=
    append_colon (colon_notMem_opening t.key.form t.key.form.mem_all) h
  cases t with
  | queue t => exact ⟨"queue(", by simp [starts], c, rfl⟩
  | stream t => exact ⟨"stream(", by simp [starts], c, rfl⟩
  | state t =>
    have hnil := congrArg List.length hsubject
    rw [List.length_append] at hnil
    exact absurd hnil (by simp [key, TriggerForm.closing])
  | cron t =>
    change t.expression.toList ++ ")".toList = _ at hsubject
    have hcolon : ':' ∈ t.expression.toList ++ ")".toList := by
      rw [hsubject]
      simp
    rcases List.mem_append.1 hcolon with hcolon | hcolon
    · exact absurd (Cron.isMark_of_isValid ht _ hcolon) (by decide)
    · exact absurd hcolon (by decide)
  | http t =>
    obtain ⟨p, hp⟩ := List.head?_eq_some_iff.1 ht
    change t.path.toList ++ ")".toList = _ at hsubject
    rw [hp, List.cons_append] at hsubject
    cases c with
    | nil => exact absurd (List.cons.inj hsubject).1 (by decide)
    | cons y c =>
      obtain ⟨rfl, -⟩ := List.cons.inj hsubject
      refine ⟨"http(" ++ t.method.name ++ " /", ?_, c, ?_⟩
      · cases t.method <;> simp [starts, HttpMethod.all]
      · cases hm : t.method <;> simp [key, TriggerForm.opening, hm]

end Trigger

namespace StepConfig

open IdText

theorem toList_baseId (step descriptor : String) :
    (baseId step descriptor).toList =
      "steps::".toList ++ (step.toList ++ (mark ++ descriptor.toList)) := by
  rw [baseId, String.toList_append, String.toList_append, String.toList_append, toList_mark,
    List.append_assoc, List.append_assoc]

/-- A name that goes on where another one ends, before descriptors that then meet. -/
theorem eq_or_shadows_of_append {long short : String} {t : Trigger} (ht : t.Sound)
    {a e : List Char} (hlong : long.toList = short.toList ++ a)
    (h : mark ++ t.descriptor.toList = a ++ (mark ++ e)) : long = short ∨ Shadows long short := by
  obtain ⟨x, d, hd, hcolon, hx⟩ := t.descriptor_head
  rw [hd] at h
  rcases gap_of_append hcolon hx h with rfl | ⟨b, rfl, hb⟩
  · rw [List.append_nil] at hlong
    exact .inl (String.toList_inj.1 hlong)
  · rw [← hd] at hb
    obtain ⟨start, hstart, rest, rfl⟩ := ht.descriptor_before_mark hb
    refine .inr ⟨start, hstart, String.ofList rest, String.toList_inj.1 ?_⟩
    rw [hlong, String.toList_append, String.toList_append, String.toList_append, toList_mark,
      String.toList_ofList, List.append_assoc, List.append_assoc]

theorem eq_or_shadows_of_baseId_eq {m n : String} {t u : Trigger} (ht : t.Sound) (hu : u.Sound)
    (h : baseId m t.descriptor = baseId n u.descriptor) :
    m = n ∨ Shadows m n ∨ Shadows n m := by
  have h := congrArg String.toList h
  rw [toList_baseId, toList_baseId] at h
  rcases List.append_eq_append_iff.1 (List.append_cancel_left h) with ⟨a, hn, h⟩ | ⟨a, hm, h⟩
  · rcases eq_or_shadows_of_append ht hn h with heq | hshadows
    · exact .inl heq.symm
    · exact .inr (.inr hshadows)
  · rcases eq_or_shadows_of_append hu hm h with heq | hshadows
    · exact .inl heq
    · exact .inr (.inl hshadows)

/-! ## Names that do -/

theorem not_isAllBlank_append (a : String) {b : String} (h : Text.isAllBlank b = false) :
    Text.isAllBlank (a ++ b) = false := by
  unfold Text.isAllBlank at h ⊢
  rw [String.toList_append, List.all_append, h, Bool.and_false]

/-- A trigger whose descriptor carries the rest of a name and the descriptor of the topic `y`. -/
theorem exists_trigger_of_start {start : String} (h : start ∈ starts) (rest : String) :
    ∃ t : Trigger, t.problems 0 = [] ∧
      t.descriptor = start ++ (rest ++ ("::trigger::" ++ "queue(y)")) := by
  have hblank : Text.isAllBlank (rest ++ "::trigger::queue(y") = false :=
    not_isAllBlank_append rest (by decide)
  have htail : "::trigger::" ++ "queue(y)" = "::trigger::queue(y" ++ ")" := by decide
  rw [htail]
  rcases List.mem_append.1 h with h | h
  · obtain ⟨m, -, rfl⟩ := List.mem_map.1 h
    refine ⟨.http (.new m ("/" ++ (rest ++ "::trigger::queue(y"))), ?_, ?_⟩
    · have hpath : ("/" ++ (rest ++ "::trigger::queue(y")).toList.head? = some '/' := by
        rw [String.toList_append]
        rfl
      rw [Trigger.problems, HttpTrigger.new, if_pos hpath]
      rfl
    · simp only [Trigger.descriptor, HttpTrigger.new, String.append_assoc,
        show " /" = " " ++ "/" from rfl]
  · rcases List.mem_cons.1 h with rfl | h
    · refine ⟨.queue (.new (rest ++ "::trigger::queue(y")), ?_, ?_⟩
      · rw [Trigger.problems, QueueTrigger.new, hblank]
        rfl
      · simp only [Trigger.descriptor, QueueTrigger.new, String.append_assoc]
    · obtain rfl := List.mem_singleton.1 h
      refine ⟨.stream (.new (rest ++ "::trigger::queue(y")), ?_, ?_⟩
      · rw [Trigger.problems, StreamTrigger.new, hblank]
        rfl
      · simp only [Trigger.descriptor, StreamTrigger.new, String.append_assoc]

/-- A step with one trigger. -/
def single (name : String) (t : Trigger) : StepConfig :=
  { StepConfig.new name with triggers := [t] }

theorem problems_single {name : String} {t : Trigger} (hname : Text.isAllBlank name = false)
    (ht : t.problems 0 = []) : (single name t).problems = [] := by
  simp only [problems, single, StepConfig.new, hname, Trigger.allProblems, ht]
  rfl

/-- A name that shadows another one lets steps without problems share an id. -/
theorem exists_common_of_shadows {long short : String} (hname : Text.isAllBlank short = false)
    (h : Shadows long short) :
    ∃ t u, (single short t).problems = [] ∧ (single long u).problems = [] ∧
      baseId short t.descriptor = baseId long u.descriptor := by
  obtain ⟨start, hstart, rest, rfl⟩ := h
  obtain ⟨t, ht, hdescriptor⟩ := exists_trigger_of_start hstart rest
  have hlong : Text.isAllBlank (short ++ "::trigger::" ++ start ++ rest) = false := by
    unfold Text.isAllBlank at hname ⊢
    simp only [String.toList_append, List.all_append, hname, Bool.false_and]
  refine ⟨t, .queue (.new "y"), problems_single hname ht, problems_single hlong ?_, ?_⟩
  · decide
  · rw [hdescriptor, show (Trigger.queue (.new "y")).descriptor = "queue(y)" from rfl]
    simp only [baseId, String.append_assoc]

end StepConfig

end StepEngine
