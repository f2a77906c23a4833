import StepEngine.Step.Registration

/-!
# What an id says

The id of a function ends in a number after two colons, or it is the id of a trigger and does not
end in a digit at all. The number is the index of the trigger.

* `append_cons_inj` : a text splits in one way only before the last run of characters of a kind;
* `numbered_inj` : what stands before the number and the number;
* `Trigger.key` : what defines a trigger for the transport; triggers have the same descriptor when
  they have the same key (`Trigger.descriptor_eq_iff`);
* `EndsOpen` : how descriptors end, and the ids that are made from them: in no number, nor in what
  the id of a condition has before its number;
* `StepConfig.IsIdFrom` : an id made from that of a descriptor, which it tells
  (`StepConfig.IsIdFrom.base_eq`).
-/

namespace StepEngine

/-! ## Numbers at the end -/

/-- Characters of a kind at the end of a text, all of them. -/
theorem append_cons_inj {p : Char → Bool} {a b d e : List Char} {x y : Char}
    (hx : p x = false) (hy : p y = false) (hd : ∀ c ∈ d, p c = true) (he : ∀ c ∈ e, p c = true)
    (h : a ++ x :: d = b ++ y :: e) : a = b ∧ x = y ∧ d = e := by
  rcases List.append_eq_append_iff.1 h with ⟨m, hb, hm⟩ | ⟨m, ha, hm⟩
  · cases m with
    | nil =>
      obtain ⟨rfl, rfl⟩ := List.cons.inj hm
      exact ⟨by rw [hb, List.append_nil], rfl, rfl⟩
    | cons _ m =>
      obtain ⟨-, rfl⟩ := List.cons.inj hm
      exact absurd (hd y (by simp)) (by rw [hy]; decide)
  · cases m with
    | nil =>
      obtain ⟨rfl, rfl⟩ := List.cons.inj hm
      exact ⟨by rw [ha, List.append_nil], rfl, rfl⟩
    | cons _ m =>
      obtain ⟨-, rfl⟩ := List.cons.inj hm
      exact absurd (he x (by simp)) (by rw [hx]; decide)

theorem toList_toString (n : Nat) : (toString n).toList = Nat.toDigits 10 n := by
  rw [Nat.toString_eq_repr, Nat.toList_repr]

theorem isDigit_of_mem_toString {n : Nat} {c : Char} (h : c ∈ (toString n).toList) :
    c.isDigit = true :=
  Nat.isDigit_of_mem_toDigits (by decide) (by decide) (toList_toString n ▸ h)

theorem toList_numbered (stem : String) (n : Nat) :
    (stem ++ "::" ++ toString n).toList =
      (stem.toList ++ [':']) ++ ':' :: (toString n).toList := by
  rw [String.toList_append, String.toList_append, show "::".toList = [':', ':'] from rfl,
    List.append_assoc, List.append_assoc]
  rfl

theorem numbered_inj {s t : String} {m n : Nat}
    (h : s ++ "::" ++ toString m = t ++ "::" ++ toString n) : s = t ∧ m = n := by
  have h := congrArg String.toList h
  rw [toList_numbered, toList_numbered] at h
  obtain ⟨hstem, -, hdigits⟩ := append_cons_inj (p := Char.isDigit) rfl rfl
    (fun _ => isDigit_of_mem_toString) (fun _ => isDigit_of_mem_toString) h
  refine ⟨String.toList_inj.1 (List.append_cancel_right hstem), ?_⟩
  rw [toList_toString, toList_toString] at hdigits
  have hvalue := congrArg (fun digits => Nat.ofDigitChars 10 digits 0) hdigits
  simpa only [Nat.ofDigitChars_ten_toDigits] using hvalue

/-- A text that ends as a descriptor does: in none of the characters of a number, and not in that of
what an id has between the id of a trigger and the index of its condition. -/
def EndsOpen (s : String) : Prop := ∃ front c, s.toList = front ++ [c] ∧ (c = ')' ∨ c = 'e')

namespace EndsOpen

variable {s : String}

theorem append {t : String} (h : EndsOpen t) : EndsOpen (s ++ t) := by
  obtain ⟨front, c, ht, hc⟩ := h
  exact ⟨s.toList ++ front, c, by rw [String.toList_append, ht, List.append_assoc], hc⟩

theorem ne_numbered (h : EndsOpen s) (t : String) (n : Nat) : s ≠ t ++ "::" ++ toString n := by
  rintro rfl
  obtain ⟨front, c, hs, hc⟩ := h
  rcases List.eq_nil_or_concat (toString n).toList with hn | ⟨ds, d, hn⟩
  · exact Nat.toDigits_ne_nil (toList_toString n ▸ hn)
  · rw [toList_numbered, hn, List.concat_eq_append, ← List.cons_append, ← List.append_assoc] at hs
    obtain ⟨-, hlast⟩ := List.append_inj' hs rfl
    have hd : d.isDigit = true := isDigit_of_mem_toString (n := n) (by rw [hn]; simp)
    rw [(List.cons.inj hlast).1] at hd
    rcases hc with rfl | rfl <;> exact absurd hd (by decide)

theorem ne_conditions (h : EndsOpen s) (t : String) : s ≠ t ++ "::conditions" := by
  rintro rfl
  obtain ⟨front, c, hs, hc⟩ := h
  rw [String.toList_append, show "::conditions".toList = "::condition".toList ++ ['s'] by decide,
    ← List.append_assoc] at hs
  obtain ⟨-, hlast⟩ := List.append_inj' hs rfl
  rw [← (List.cons.inj hlast).1] at hc
  exact absurd hc (by decide)

end EndsOpen

/-! ## Descriptors -/

/-- The kind of a trigger, and for a route its method. -/
inductive TriggerForm where
  | http (method : HttpMethod)
  | queue
  | cron
  | state
  | stream
  deriving DecidableEq

namespace TriggerForm

def all : List TriggerForm := HttpMethod.all.map http ++ [queue, cron, state, stream]

theorem mem_all (form : TriggerForm) : form ∈ all := by
  cases form with
  | http method => cases method <;> decide
  | queue | cron | state | stream => decide

/-- How a descriptor starts. -/
def opening : TriggerForm → String
  | http method => "http(" ++ method.name ++ " "
  | queue => "queue("
  | cron => "cron("
  | state => "state"
  | stream => "stream("

/-- How it ends. -/
def closing : TriggerForm → String
  | state => ""
  | _ => ")"

/-- No start of a descriptor is the start of another. -/
theorem opening_prefix_free :
    ∀ a ∈ all, ∀ b ∈ all, a.opening.toList <+: b.opening.toList → a = b := by
  decide

theorem eq_of_prefixes {a b : TriggerForm} (text : List Char) (ha : a.opening.toList <+: text)
    (hb : b.opening.toList <+: text) : a = b := by
  rcases List.prefix_or_prefix_of_prefix ha hb with h | h
  · exact opening_prefix_free a a.mem_all b b.mem_all h
  · exact (opening_prefix_free b b.mem_all a a.mem_all h).symm

end TriggerForm

/-- What defines a trigger for the transport: its form and the path, topic, expression or name;
triggers on state have no text of their own. -/
structure TriggerKey where
  form : TriggerForm
  subject : String
  deriving DecidableEq

namespace Trigger

def key : Trigger → TriggerKey
  | http t => ⟨.http t.method, t.path⟩
  | queue t => ⟨.queue, t.topic⟩
  | cron t => ⟨.cron, t.expression⟩
  | state _ => ⟨.state, ""⟩
  | stream t => ⟨.stream, t.streamName⟩

theorem descriptor_eq (t : Trigger) :
    t.descriptor = t.key.form.opening ++ (t.key.subject ++ t.key.form.closing) := by
  cases t <;>
    simp only [descriptor, key, TriggerForm.opening, TriggerForm.closing, String.append_assoc,
      String.append_empty]

theorem descriptor_eq_iff {t u : Trigger} : t.descriptor = u.descriptor ↔ t.key = u.key := by
  refine ⟨fun h => ?_, fun h => by rw [descriptor_eq, descriptor_eq, h]⟩
  rw [descriptor_eq, descriptor_eq] at h
  have hform : t.key.form = u.key.form :=
    TriggerForm.eq_of_prefixes t.descriptor.toList
      ⟨_, by rw [descriptor_eq, String.toList_append]⟩
      ⟨_, by rw [descriptor_eq, h, String.toList_append]⟩
  rw [hform, String.append_right_inj, String.append_left_inj] at h
  rcases ht : t.key with ⟨form, subject⟩
  rcases hu : u.key with ⟨form', subject'⟩
  rw [ht, hu] at hform h
  rw [show form = form' from hform, show subject = subject' from h]

theorem endsOpen_descriptor (t : Trigger) : EndsOpen t.descriptor := by
  cases t with
  | state _ => exact ⟨['s', 't', 'a', 't'], 'e', show "state".toList = _ by decide, .inr rfl⟩
  | http _ | queue _ | cron _ | stream _ => exact .append ⟨[], ')', rfl, .inl rfl⟩

end Trigger

/-! ## Ids -/

namespace StepConfig

theorem baseId_inj {step descriptor descriptor' : String} :
    baseId step descriptor = baseId step descriptor' ↔ descriptor = descriptor' :=
  String.append_right_inj _

theorem endsOpen_baseId (step : String) (t : Trigger) : EndsOpen (baseId step t.descriptor) :=
  t.endsOpen_descriptor.append

theorem conditionId_eq (id : String) (n : Nat) :
    conditionId id n = (id ++ "::conditions") ++ "::" ++ toString n := by
  rw [conditionId, show "::conditions::" = "::conditions" ++ "::" from rfl,
    ← String.append_assoc]

theorem conditionId_ne (id : String) (n : Nat) : conditionId id n ≠ id := by
  intro h
  have hlength := congrArg String.length h
  rw [conditionId, String.length_append, String.length_append,
    show "::conditions::".length = 14 from rfl] at hlength
  omega

theorem conditionId_inj {id id' : String} {m n : Nat} (h : conditionId id m = conditionId id' n) :
    id = id' := by
  rw [conditionId_eq, conditionId_eq] at h
  exact (String.append_left_inj _).1 (numbered_inj h).1

/-- The id of a trigger, made from the id that its descriptor gives. -/
def IsFunctionId (base id : String) : Prop :=
  id = base ∨ ∃ n : Nat, id = base ++ "::" ++ toString n

def IsIdFrom (base id : String) : Prop :=
  IsFunctionId base id ∨ ∃ f n, IsFunctionId base f ∧ id = conditionId f n

section Bases

variable {base base' id : String} (hbase : EndsOpen base) (hbase' : EndsOpen base')

include hbase

theorem IsFunctionId.ne_conditionId (h : IsFunctionId base id) (f : String) (n : Nat) :
    id ≠ conditionId f n := by
  rw [conditionId_eq]
  rcases h with rfl | ⟨m, rfl⟩
  · exact hbase.ne_numbered _ n
  · exact fun heq => hbase.ne_conditions _ (numbered_inj heq).1

include hbase'

theorem IsFunctionId.base_eq (h : IsFunctionId base id) (h' : IsFunctionId base' id) :
    base = base' := by
  rcases h with rfl | ⟨m, rfl⟩ <;> rcases h' with h' | ⟨n, h'⟩
  · exact h'
  · exact absurd h' (hbase.ne_numbered _ n)
  · exact absurd h'.symm (hbase'.ne_numbered _ m)
  · exact (numbered_inj h').1

/-- An id is made from one base only. -/
theorem IsIdFrom.base_eq (h : IsIdFrom base id) (h' : IsIdFrom base' id) : base = base' := by
  rcases h with h | ⟨f, m, hf, rfl⟩ <;> rcases h' with h' | ⟨f', n, hf', h'⟩
  · exact h.base_eq hbase hbase' h'
  · exact absurd h' (h.ne_conditionId hbase f' n)
  · exact absurd rfl (h'.ne_conditionId hbase' f m)
  · rw [conditionId_inj h'] at hf
    exact hf.base_eq hbase hbase' hf'

end Bases

end StepConfig

end StepEngine
