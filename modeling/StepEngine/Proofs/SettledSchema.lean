import StepEngine.Proofs.SettledKeywords
import StepEngine.Schema.Compile

/-!
# Settled schemas have no fault of their own

* `Structure.Settled.succeeds` : a settled schema makes a validator, with all schemas inside it;
* `Registry.process_of_settled` : it refers to no other resource, so none has to be there;
* `Structure.Settled.locus` : it stands alone, is of the newest draft and has no identity.
-/

namespace StepEngine

open Structure

/-! ## What a settled schema does not have -/

namespace Structure

theorem Settled.get?_eq_none {schema : Json} (h : Settled schema) {keyword : String}
    (hkeyword : keyword ∈ absentKeywords) : schema.get? keyword = none := by
  rcases h.cases with ⟨b, rfl⟩ | ⟨members, rfl⟩
  · rfl
  · exact h.keywords.lookup_absent hkeyword

theorem Settled.detect {schema : Json} (h : Settled schema) (d : Draft) :
    d.detect schema = .ok d := by
  rw [Draft.detect, h.get?_eq_none (by decide)]

theorem Settled.idOf {schema : Json} (h : Settled schema) :
    Draft.draft2020.idOf schema = none := by
  rw [Draft.idOf, show Draft.idKeyword .draft2020 = "$id" from rfl, h.get?_eq_none (by decide)]

theorem Settled.uri_enter {schema : Json} (h : Settled schema) (base : Uri) :
    base.enter .draft2020 schema = .ok base := by
  rw [Uri.enter, h.idOf]

theorem Settled.identify {schema : Json} (h : Settled schema) {s : Locus}
    (hs : s.draft = .draft2020) : s.identify schema = .ok s := by
  obtain ⟨registry, draft, vocabularies, base, scope⟩ := s
  obtain rfl : draft = .draft2020 := hs
  rw [Locus.identify, h.uri_enter]
  rfl

theorem Settled.enter {schema : Json} (h : Settled schema) {s : Locus}
    (hs : s.draft = .draft2020) : s.enter schema = .ok s := by
  have hinner : s.draft.inner schema = s.draft := by rw [Draft.inner, h.detect]
  rw [Locus.enter, hinner]
  exact h.identify hs

end Structure

/-! ## Compiling -/

namespace Structure

/-- The keywords that count are those of the draft. -/
theorem SettledKeywords.mem_effective {keywords : List (String × Json)} (h : SettledKeywords keywords)
    {s : Locus} (hs : s.draft = .draft2020) {e : String × Json}
    (he : e ∈ s.draft.effective s.vocabularies keywords) :
    e ∈ keywords ∧ Draft.draft2020.knows e.1 = true := by
  rw [hs, Draft.effective, h.lookup_absent (show "$ref" ∈ absentKeywords by decide)] at he
  obtain ⟨hmem, hcounts⟩ := List.mem_filter.1 he
  rw [Draft.counts, Bool.and_eq_true] at hcounts
  exact ⟨hmem, hcounts.1⟩

/-- A settled schema makes a validator. -/
theorem Settled.succeeds {schema : Json} (h : Settled schema) (alone : Locus → Json → Validator)
    (steps fuel : Nat) {s : Locus} (hs : s.draft = .draft2020) :
    (s.compileWith alone steps fuel schema).Succeeds := by
  induction fuel generalizing schema with
  | zero => exact Compiling.succeeds_pure _
  | succ fuel ih =>
    rcases h.cases with ⟨b, rfl⟩ | ⟨keywords, rfl⟩
    · cases b <;> exact Compiling.succeeds_pure _
    · rw [Locus.compileWith]
      refine (Compiling.succeeds_mapM fun e he => ?_).map _
      have hk := h.keywords
      obtain ⟨hmem, hknows⟩ := hk.mem_effective hs he
      refine Compiler.keyword_succeeds hk (fun inside hinside => ?_) hs
        (SortedMap.lookup_of_mem hk.distinct hmem) hknows
      show (Compiling.found (s.enter inside) >>= fun there =>
        there.compileWith alone steps fuel inside).Succeeds
      rw [hinside.enter hs]
      exact ih hinside

/-- So it has no fault of its own. -/
theorem Settled.fault?_eq_none {schema : Json} (h : Settled schema) {s : Locus}
    (hs : s.draft = .draft2020) : (Document.mk s schema).fault? = none := by
  obtain ⟨v, followed, hv⟩ := h.succeeds (fun _ _ => .anything) s.steps s.steps hs []
  rw [Document.fault?]
  simp only [StateT.run, hv]

/-! ## The registry -/

/-- What stands under a keyword of the newest draft. -/
theorem mem_schemasUnder {keyword : String} {arg v : Json}
    (h : v ∈ Draft.draft2020.schemasUnder keyword arg) :
    (∃ schemas, arg = .array schemas ∧ keyword ∈ Draft.draft2020.listKeywords ∧ v ∈ schemas) ∨
    (∃ schemas, arg = .object schemas ∧ keyword ∈ Draft.draft2020.mapKeywords ∧
      ∃ e ∈ schemas, e.2 = v) ∨
    (∃ members, arg = .object members ∧ keyword ∈ Draft.draft2020.schemaKeywords ∧ v = arg) := by
  have hunder (keywords : Draft → List String) :
      Draft.draft2020.looksUnder keywords keyword = (keywords .draft2020).contains keyword := rfl
  cases arg with
  | array schemas =>
    simp only [Draft.schemasUnder, hunder, Draft.mixedKeywords, List.contains_nil, Bool.and_false,
      Bool.or_false] at h
    split at h
    · next hkeyword => exact .inl ⟨schemas, rfl, List.contains_iff_mem.1 hkeyword, h⟩
    · cases h
  | object schemas =>
    simp only [Draft.schemasUnder, hunder, Draft.mixedKeywords, List.contains_nil, Bool.and_false,
      Bool.or_false] at h
    split at h
    · next hkeyword =>
      exact .inr (.inl ⟨schemas, rfl, List.contains_iff_mem.1 hkeyword, List.mem_map.1 h⟩)
    · split at h
      · next hkeyword =>
        exact .inr (.inr ⟨schemas, rfl, List.contains_iff_mem.1 hkeyword, List.mem_singleton.1 h⟩)
      · cases h
  | null | bool _ | number _ | string _ => cases h

/-- The schemas that are looked at for identities and references are settled as well. -/
theorem Settled.of_mem_subschemas {schema : Json} (h : Settled schema) {v : Json}
    (hv : v ∈ Draft.draft2020.subschemas schema) : Settled v := by
  rcases h.cases with ⟨b, rfl⟩ | ⟨keywords, rfl⟩
  · cases hv
  · have hk := h.keywords
    obtain ⟨⟨keyword, arg⟩, he, hv⟩ := List.mem_flatMap.1 hv
    have harg : keywords.lookup keyword = some arg := SortedMap.lookup_of_mem hk.distinct he
    rcases mem_schemasUnder hv with
      ⟨schemas, rfl, hkeyword, hv⟩ | ⟨schemas, rfl, hkeyword, s, hs, rfl⟩ |
        ⟨members, rfl, hkeyword, rfl⟩
    · obtain ⟨-, settled⟩ := hk.lists keyword hkeyword _ harg
      exact settled v hv
    · obtain ⟨settled⟩ := hk.maps keyword hkeyword _ harg
      exact settled s hs
    · exact hk.schemas keyword hkeyword _ harg

end Structure

namespace Registry

theorem addSchema_of_settled {schema : Json} (h : Settled schema) (fuel : Nat) (base : Uri)
    (harvest : Harvest) : Harvest.addSchema fuel base schema harvest = .ok harvest := by
  have hreference := h.get?_eq_none (show "$ref" ∈ absentKeywords by decide)
  have hdraft := h.get?_eq_none (show "$schema" ∈ absentKeywords by decide)
  cases fuel with
  | zero => rfl
  | succ fuel =>
    rw [Harvest.addSchema]
    split
    · rfl
    · simp only [List.foldlM_cons, List.foldlM_nil, hreference, hdraft]
      rfl

theorem foldlM_addSchema_of_settled (fuel : Nat) (base : Uri) (harvest : Harvest)
    {inside : List Resource}
    (h : ∀ sub ∈ inside, sub.draft = .draft2020 ∧ Settled sub.contents) :
    inside.foldlM (fun h sub => do
      let base ← base.enter sub.draft sub.contents
      Harvest.addSchema fuel base sub.contents h) harvest = .ok harvest := by
  induction inside with
  | nil => rfl
  | cons sub inside ih =>
    obtain ⟨⟨hdraft, hsub⟩, hinside⟩ := List.forall_mem_cons.1 h
    rw [List.foldlM_cons, hdraft, hsub.uri_enter]
    show (Harvest.addSchema fuel base sub.contents harvest >>= _) = _
    rw [addSchema_of_settled hsub]
    exact ih hinside

/-- Settled schemas refer to nothing, so nothing has to be in the registry for them. -/
theorem process_of_settled (fuel : Nat) (queue : List (Uri × Resource))
    (h : ∀ e ∈ queue, e.2.draft = .draft2020 ∧ Settled e.2.contents) (r : Registry)
    (harvest : Harvest) : ∃ r', process fuel queue r harvest = .ok (r', harvest) := by
  induction fuel generalizing queue r with
  | zero => exact ⟨r, rfl⟩
  | succ fuel ih =>
    cases queue with
    | nil => exact ⟨r, rfl⟩
    | cons e queue =>
      obtain ⟨around, draft, schema⟩ := e
      obtain ⟨⟨hdraft, hschema⟩, hqueue⟩ := List.forall_mem_cons.1 h
      obtain rfl : draft = .draft2020 := hdraft
      change Settled schema at hschema
      have hinside : ∀ sub ∈ (Draft.draft2020.subschemas schema).map (Resource.mk .draft2020),
          sub.draft = .draft2020 ∧ Settled sub.contents := by
        intro sub hsub
        obtain ⟨v, hv, rfl⟩ := List.mem_map.1 hsub
        exact ⟨rfl, hschema.of_mem_subschemas hv⟩
      have hfold := foldlM_addSchema_of_settled (fuel + 1) around harvest hinside
      rw [process]
      simp only [hschema.uri_enter, hschema.idOf, addSchema_of_settled hschema, bind, Except.bind]
        at hfold ⊢
      rw [hfold]
      refine ih _ (fun e he => ?_) _
      rcases List.mem_append.1 he with he | he
      · exact hqueue e he
      · obtain ⟨sub, hsub, rfl⟩ := List.mem_map.1 he
        exact hinside sub hsub

theorem ofRoot_of_settled {schema : Json} (h : Settled schema) (standard : Registry) (base : Uri) :
    ∃ registry, ofRoot standard base ⟨.draft2020, schema⟩ = .ok registry := by
  obtain ⟨registry, hprocess⟩ := process_of_settled (schema.weight + 1)
    [(base, ⟨.draft2020, schema⟩)] (List.forall_mem_singleton.2 ⟨rfl, h⟩)
    ⟨[(base, ⟨.draft2020, schema⟩)], []⟩ .empty
  refine ⟨registry, ?_⟩
  rw [ofRoot]
  show (process (schema.weight + 1) _ _ _ >>= _) = _
  rw [hprocess]
  rfl

end Registry

/-- A settled schema is of the newest draft. -/
theorem Structure.Settled.locus {schema : Json} (h : Settled schema) :
    ∃ s : Locus, schema.locus = .ok s ∧ s.draft = .draft2020 := by
  obtain ⟨registry, hregistry⟩ := Registry.ofRoot_of_settled h MetaSchema.standard Uri.nowhere
  refine ⟨⟨registry, .draft2020, registry.vocabularies .draft2020 schema, Uri.nowhere, []⟩, ?_, rfl⟩
  rw [Json.locus, h.detect]
  simp only [h.uri_enter]
  show (CompileFault.ofReference (Registry.ofRoot _ Uri.nowhere _) >>= _) = _
  rw [hregistry]
  rfl

end StepEngine
