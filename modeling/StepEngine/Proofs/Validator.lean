import StepEngine.Schema.Validator

/-!
# Values that a validator has nothing against

* `Validator.Admits` : a validator finds nothing in any value with a property;
* one lemma for each way to build a validator says when the validator admits values, by what those it
  is built from admit.
-/

namespace StepEngine.Validator

/-- Nothing is found in any value with a property. -/
def Admits (s : Validator) (P : Json → Prop) : Prop :=
  ∀ value place, P value → s.findings value place = []

variable {P Q : Json → Prop}

theorem Admits.mono {s : Validator} (h : s.Admits Q) (hpq : ∀ v, P v → Q v) : s.Admits P :=
  fun value place hp => h value place (hpq value hp)

theorem Admits.accepts {s : Validator} (h : s.Admits P) {value : Json} (hp : P value) :
    s.accepts value = true := by
  rw [Validator.accepts, h value [] hp]
  rfl

theorem admits_anything : anything.Admits P := fun _ _ _ => rfl

/-- A property that no value has. -/
theorem admits_of_forall_not (s : Validator) (h : ∀ v, ¬P v) : s.Admits P :=
  fun value _ hp => absurd hp (h value)

theorem admits_ofViolations {violations : Json → List Violation}
    (h : ∀ v, P v → violations v = []) : (ofViolations violations).Admits P := by
  intro value place hp
  show (violations value).map (Finding.mk place) = []
  rw [h value hp]
  rfl

theorem admits_later {make : Unit → Validator} (h : (make ()).Admits P) : (later make).Admits P := h

theorem admits_all {schemas : List Validator} (h : ∀ s ∈ schemas, s.Admits P) :
    (all schemas).Admits P := by
  intro value place hp
  exact List.flatMap_eq_nil_iff.2 fun s hs => h s hs value place hp

theorem admits_anyOf {schemas : List Validator}
    (h : ∀ v, P v → ∃ s ∈ schemas, s.accepts v = true) : (anyOf schemas).Admits P := by
  intro value place hp
  exact if_pos (List.any_eq_true.2 (h value hp))

theorem admits_properties {schemas : List (String × Validator)}
    (h : ∀ e ∈ schemas, e.2.Admits fun v =>
      ∃ members, P (.object members) ∧ members.lookup e.1 = some v) :
    (properties schemas).Admits P := by
  intro value place hp
  cases value with
  | object members =>
    refine List.flatMap_eq_nil_iff.2 fun e he => ?_
    obtain ⟨name, s⟩ := e
    dsimp only
    split
    · next v hv =>
      show s.findings v (name :: place) ++ [] = []
      rw [h _ he v (name :: place) ⟨members, hp, hv⟩]
      rfl
    · rfl
  | null | bool _ | number _ | string _ | array _ => rfl

/-- A schema for all members. -/
theorem admits_additionalProperties {s : Validator}
    (h : s.Admits fun v => ∃ members name, P (.object members) ∧ (name, v) ∈ members) :
    (additionalProperties ⟨[], []⟩ s).Admits P := by
  intro value place hp
  cases value with
  | object members =>
    refine List.flatMap_eq_nil_iff.2 fun m hm => ?_
    show s.findings m.2 (m.1 :: place) ++ [] = []
    rw [h m.2 (m.1 :: place) ⟨members, m.1, hp, hm⟩]
    rfl
  | null | bool _ | number _ | string _ | array _ => rfl

theorem admits_propertyNames {s : Validator} (h : s.Admits fun _ => True) :
    (propertyNames s).Admits P := by
  intro value place hp
  cases value with
  | object members =>
    refine List.flatMap_eq_nil_iff.2 fun m _ => ?_
    rw [h (.string m.1) place trivial]
    rfl
  | null | bool _ | number _ | string _ | array _ => rfl

theorem itemsFrom_eq_nil {s : Validator} {place : Pointer} {index : Nat} {items : List Json}
    (h : ∀ v ∈ items, ∀ place, s.findings v place = []) : itemsFrom s place index items = [] := by
  induction items generalizing index with
  | nil => rfl
  | cons v rest ih =>
    obtain ⟨hv, hrest⟩ := List.forall_mem_cons.1 h
    rw [itemsFrom, hv, ih hrest]
    rfl

theorem admits_itemsAfter {s : Validator} (count : Nat)
    (h : s.Admits fun v => ∃ items, P (.array items) ∧ v ∈ items) :
    (itemsAfter count s).Admits P := by
  intro value place hp
  cases value with
  | array items =>
    exact itemsFrom_eq_nil fun v hv place => h v place ⟨items, hp, List.mem_of_mem_drop hv⟩
  | null | bool _ | number _ | string _ | object _ => rfl

end StepEngine.Validator
