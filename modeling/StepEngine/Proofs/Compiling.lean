import StepEngine.Schema.Compiler

/-!
# Steps of compiling, by how they end

* `Compiling.Ends` : whatever a step ends with satisfies a predicate; nothing is said of a step that
  finds a fault (partial correctness);
* `Compiling.Succeeds` : a step finds no fault, whatever references have been followed;
* both are closed under the ways to build a step.
-/

namespace StepEngine.Compiling

variable {α β : Type}

/-- Whatever a step ends with satisfies a predicate. -/
def Ends (a : Compiling α) (Q : α → Prop) : Prop :=
  ∀ followed x followed', a followed = .ok (x, followed') → Q x

/-- A step finds no fault. -/
def Succeeds (a : Compiling α) : Prop :=
  ∀ followed, ∃ x followed', a followed = .ok (x, followed')

theorem bind_apply (a : Compiling α) (next : α → Compiling β) (followed : List Uri) :
    (a >>= next) followed =
      match a followed with
      | .ok (x, followed) => next x followed
      | .error fault => .error fault := by
  show (a followed >>= fun p => next p.1 p.2) = _
  cases a followed <;> rfl

/-! ## What a step ends with -/

theorem ends_pure {Q : α → Prop} {x : α} (h : Q x) : (pure x : Compiling α).Ends Q := by
  intro followed y followed' hy
  obtain ⟨rfl, -⟩ := Prod.mk.inj (Except.ok.inj hy)
  exact h

theorem ends_fail {Q : α → Prop} (fault : CompileFault) : (fail fault : Compiling α).Ends Q := by
  intro followed y followed' hy
  cases hy

theorem Ends.mono {a : Compiling α} {P Q : α → Prop} (h : a.Ends P) (hpq : ∀ x, P x → Q x) :
    a.Ends Q :=
  fun followed x followed' hx => hpq x (h followed x followed' hx)

theorem ends_trivial (a : Compiling α) : a.Ends fun _ => True := fun _ _ _ _ => trivial

theorem Ends.bind {a : Compiling α} {next : α → Compiling β} {P : α → Prop} {Q : β → Prop}
    (ha : a.Ends P) (hnext : ∀ x, P x → (next x).Ends Q) : (a >>= next).Ends Q := by
  intro followed y followed' hy
  rw [bind_apply] at hy
  cases hx : a followed with
  | error fault =>
    rw [hx] at hy
    cases hy
  | ok p =>
    rw [hx] at hy
    exact hnext p.1 (ha _ _ _ hx) _ _ _ hy

theorem Ends.map {a : Compiling α} {f : α → β} {P : α → Prop} {Q : β → Prop} (ha : a.Ends P)
    (h : ∀ x, P x → Q (f x)) : (f <$> a).Ends Q := by
  rw [map_eq_pure_bind]
  exact ha.bind fun x hx => ends_pure (h x hx)

/-- What a list of steps ends with: a result of each, and no others. -/
theorem ends_mapM {f : α → Compiling β} {R : α → β → Prop} {items : List α}
    (h : ∀ x ∈ items, (f x).Ends (R x)) :
    (items.mapM f).Ends fun results =>
      (∀ y ∈ results, ∃ x ∈ items, R x y) ∧ ∀ x ∈ items, ∃ y ∈ results, R x y := by
  induction items with
  | nil => exact ends_pure ⟨List.forall_mem_nil _, List.forall_mem_nil _⟩
  | cons x items ih =>
    obtain ⟨hx, hitems⟩ := List.forall_mem_cons.1 h
    rw [List.mapM_cons]
    refine hx.bind fun y hy => (ih hitems).bind fun results hresults => ends_pure ?_
    constructor
    · intro z hz
      rcases List.mem_cons.1 hz with rfl | hz
      · exact ⟨x, List.mem_cons_self, hy⟩
      · obtain ⟨w, hw, hr⟩ := hresults.1 z hz
        exact ⟨w, List.mem_cons_of_mem _ hw, hr⟩
    · intro w hw
      rcases List.mem_cons.1 hw with rfl | hw
      · exact ⟨y, List.mem_cons_self, hy⟩
      · obtain ⟨z, hz, hr⟩ := hresults.2 w hw
        exact ⟨z, List.mem_cons_of_mem _ hz, hr⟩

/-- A list of steps finds a fault when one of them does. -/
theorem ends_mapM_of_mem {f : α → Compiling β} {items : List α} {x : α} (hx : x ∈ items)
    (h : (f x).Ends fun _ => False) : (items.mapM f).Ends fun _ => False := by
  have hother : ∀ y ∈ items, (f y).Ends fun _ => y ≠ x := by
    intro y _
    by_cases hyx : y = x
    · rw [hyx]
      exact h.mono fun _ hfalse => hfalse.elim
    · exact (ends_trivial _).mono fun _ _ => hyx
  refine (ends_mapM hother).mono fun results hresults => ?_
  obtain ⟨_, _, hne⟩ := hresults.2 x hx
  exact hne rfl

/-! ## Steps without a fault -/

theorem succeeds_pure (x : α) : (pure x : Compiling α).Succeeds :=
  fun followed => ⟨x, followed, rfl⟩

theorem succeeds_check {fault? : Option CompileFault} (h : fault? = none) :
    (check fault?).Succeeds := by
  rw [h]
  exact succeeds_pure ()

theorem Succeeds.bind {a : Compiling α} {next : α → Compiling β} (ha : a.Succeeds)
    (hnext : ∀ x, (next x).Succeeds) : (a >>= next).Succeeds := by
  intro followed
  obtain ⟨x, between, hx⟩ := ha followed
  obtain ⟨y, followed', hy⟩ := hnext x between
  refine ⟨y, followed', ?_⟩
  rw [bind_apply, hx]
  exact hy

theorem Succeeds.map {a : Compiling α} (ha : a.Succeeds) (f : α → β) : (f <$> a).Succeeds := by
  rw [map_eq_pure_bind]
  exact ha.bind fun x => succeeds_pure (f x)

theorem succeeds_mapM {f : α → Compiling β} {items : List α} (h : ∀ x ∈ items, (f x).Succeeds) :
    (items.mapM f).Succeeds := by
  induction items with
  | nil => exact succeeds_pure []
  | cons x items ih =>
    obtain ⟨hx, hitems⟩ := List.forall_mem_cons.1 h
    rw [List.mapM_cons]
    exact hx.bind fun y => (ih hitems).bind fun results => succeeds_pure (y :: results)

end StepEngine.Compiling
