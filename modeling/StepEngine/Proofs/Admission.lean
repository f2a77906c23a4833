import StepEngine.Proofs.MetaParts
import StepEngine.Schema.Compile

/-!
# The schema of schemas admits settled schemas

* `MetaSchema.documents_allow` : nothing in the whole and in its parts is against a settled schema;
* `MetaSchema.ends_compileWith` : what is compiled for a schema inside them admits what the schema
  allows, whatever references have been followed;
* `MetaSchema.admits_settled` : so the schema of schemas finds nothing in a settled schema.
-/

namespace StepEngine.MetaSchema

open Structure

variable {base : Uri} {P : Json → Prop}

/-! ## The documents -/

/-- The schemas of properties in a document. -/
theorem allowsKeyword_properties {keywords properties : List (String × Json)}
    (h : ∀ e ∈ properties, Allows base e.2 (Argument e.1)) :
    AllowsKeyword base keywords "properties" (.ofMembers properties) Settled := by
  refine .properties Argument (fun e he => h e (SortedMap.mem_of_mem_ofList he)) ?_
  intro members hp e _ v hv
  exact ⟨members, hp.keywords, hv⟩

theorem allowsKeyword_objectOrBoolean {keywords : List (String × Json)} :
    AllowsKeyword base keywords "type" objectOrBoolean Settled := by
  refine .assertion (by decide) fun v hv => ?_
  rcases hv.cases with ⟨b, rfl⟩ | ⟨members, rfl⟩
  · rfl
  · rfl

theorem effective_part : ∀ p ∈ pieces, (Later.part .draft2020 p).asObject?.map
    (Draft.draft2020.effective Draft.draft2020.vocabularies) =
      some [("properties", .ofMembers p.properties), ("type", objectOrBoolean)] := by
  decide +kernel

theorem effective_whole : (contents .draft2020).asObject?.map
    (Draft.draft2020.effective Draft.draft2020.vocabularies) =
      some [("allOf", .array (pieces.map fun p => refer ("meta/" ++ p.name))),
        ("properties", .ofMembers (Later.former .draft2020)), ("type", objectOrBoolean)] := by
  decide +kernel

theorem allows_piece {p : Part} (hp : p ∈ pieces) :
    Allows root (refer ("meta/" ++ p.name)) Settled :=
  allows_one rfl rfl rfl (.piece hp rfl fun _ hv => hv)

/-- Nothing in a document is against a settled schema. -/
theorem documents_allow {e : Uri × Json} (he : e ∈ documents) : ∃ keywords, e.2 = .object keywords ∧
    ∀ k ∈ Draft.draft2020.effective Draft.draft2020.vocabularies keywords,
      AllowsKeyword e.1 keywords k.1 k.2 Settled := by
  have hobject {m : Json} {counted : List (String × Json)}
      (hm : m.asObject?.map (Draft.draft2020.effective Draft.draft2020.vocabularies) = some counted) :
      ∃ keywords, m = .object keywords ∧
        Draft.draft2020.effective Draft.draft2020.vocabularies keywords = counted := by
    obtain ⟨keywords, hkeywords, hcounted⟩ := Option.map_eq_some_iff.1 hm
    cases m with
    | object members =>
      obtain rfl := Option.some.inj hkeywords
      exact ⟨members, rfl, hcounted⟩
    | null | bool _ | number _ | string _ | array _ => cases hkeywords
  rcases List.mem_cons.1 he with rfl | he
  · obtain ⟨keywords, hkeywords, heffective⟩ := hobject effective_whole
    refine ⟨keywords, hkeywords, ?_⟩
    rw [heffective]
    simp only [List.forall_mem_cons, List.not_mem_nil, false_implies, implies_true, and_true]
    refine ⟨.allOf fun m hm => ?_, allowsKeyword_properties ?_, allowsKeyword_objectOrBoolean⟩
    · obtain ⟨p, hp, rfl⟩ := List.mem_map.1 hm
      exact allows_piece hp
    · exact allows_former
  · obtain ⟨p, hp, rfl⟩ := List.mem_map.1 he
    obtain ⟨keywords, hkeywords, heffective⟩ := hobject (effective_part p hp)
    refine ⟨keywords, hkeywords, ?_⟩
    rw [heffective]
    simp only [List.forall_mem_cons, List.not_mem_nil, false_implies, implies_true, and_true]
    exact ⟨allowsKeyword_properties (allows_part p hp), allowsKeyword_objectOrBoolean⟩

/-! ## The validator -/

variable {alone : Locus → Json → Validator} {steps : Nat}

/-- Schemas inside a document stand where the document stands. -/
theorem enter_of_none {s : Locus} (hs : Standing s) {m : Json} (hid : m.get? "$id" = none)
    (hschema : m.get? "$schema" = none) : s.enter m = .ok s := by
  have hinner : s.draft.inner m = s.draft := by rw [Draft.inner, Draft.detect, hschema]
  rw [Locus.enter, hinner]
  exact identify_of_none hs.draft hid

theorem Allows.ends_inside {s : Locus} {m : Json} (hs : Standing s) (h : Allows s.base m P)
    {here : Locus → Json → Compiling Validator}
    (hhere : Allows s.base m P → (here s m).Ends (·.Admits P)) :
    (Compiling.found (s.enter m) >>= fun there => here there m).Ends (·.Admits P) := by
  have hgo (henter : s.enter m = .ok s) :
      (Compiling.found (s.enter m) >>= fun there => here there m).Ends (·.Admits P) := by
    rw [henter]
    exact hhere h
  cases h with
  | anything => exact hgo (enter_of_none hs rfl rfl)
  | unasked hnone =>
    exact (Compiling.ends_trivial _).mono fun v _ => Validator.admits_of_forall_not v hnone
  | object id schema _ => exact hgo (enter_of_none hs id schema)

/-- What is compiled for a schema in a document admits the values that the schema allows. -/
theorem ends_compileWith (halone : ∀ s m P, Standing s → Described s.base m P → (alone s m).Admits P)
    (fuel : Nat) (s : Locus) (m : Json) (P : Json → Prop) (hs : Standing s)
    (hm : Described s.base m P) : (s.compileWith alone steps fuel m).Ends (·.Admits P) := by
  induction fuel generalizing s m P with
  | zero => exact Compiling.ends_pure Validator.admits_anything
  | succ fuel ih =>
    have hobject {keywords : List (String × Json)} {Q : Json → Prop}
        (h : ∀ k ∈ Draft.draft2020.effective Draft.draft2020.vocabularies keywords,
          AllowsKeyword s.base keywords k.1 k.2 Q) :
        (s.compileWith alone steps (fuel + 1) (.object keywords)).Ends (·.Admits Q) := by
      rw [Locus.compileWith]
      refine (Compiling.ends_mapM (R := fun _ v => v.Admits Q) fun k hk => ?_).map
        fun vs hvs => Validator.admits_all fun v hv => ?_
      · rw [hs.draft, hs.vocabularies] at hk
        exact (h k hk).ends hs.draft
          (fun inside R hinside => hinside.ends_inside hs fun hallows => ih s inside R hs (.inl hallows))
          fun name reference R hrefers hname => hrefers.ends_referWith hs hname ih halone
      · obtain ⟨_, _, hadmits⟩ := hvs.1 v hv
        exact hadmits
    rcases hm with hallows | ⟨hmem, hsettled⟩
    · cases hallows with
      | anything => exact Compiling.ends_pure Validator.admits_anything
      | unasked h =>
        exact (Compiling.ends_trivial _).mono fun v _ => Validator.admits_of_forall_not v h
      | object id schema h => exact hobject h
    · obtain ⟨keywords, heq, h⟩ := documents_allow hmem
      obtain rfl : m = .object keywords := heq
      exact (hobject h).mono fun v hv => hv.mono hsettled

/-- So does the validator of the schema by itself, in any number of rounds. -/
theorem admits_validator (rounds : Nat) (s : Locus) (m : Json) (P : Json → Prop) (hs : Standing s)
    (hm : Described s.base m P) : (s.validator steps rounds m).Admits P := by
  induction rounds generalizing s m P with
  | zero => exact Validator.admits_anything
  | succ rounds ih =>
    have hends : (s.compileWith (Locus.validator steps rounds) steps steps m).Ends (·.Admits P) :=
      ends_compileWith ih steps s m P hs hm
    rw [Locus.validator]
    split
    · next v followed hv => exact hends _ _ _ hv
    · exact Validator.admits_anything

/-- The place of the whole. -/
def outset : Locus := ⟨standard, .draft2020, Draft.draft2020.vocabularies, root, []⟩

theorem standing_outset : Standing outset where
  registry := rfl
  draft := rfl
  vocabularies := rfl
  document := ⟨_, whole_mem⟩
  scope := List.forall_mem_nil _
  outermost := .inl ⟨rfl, rfl⟩

/-- The schema of schemas admits settled schemas. -/
theorem admits_settled : (validator .draft2020).Admits Settled := by
  have hlookup : validators.lookup .draft2020 =
      some (outset.validator outset.steps rounds (contents .draft2020)) := rfl
  rw [validator, hlookup, Option.getD_some]
  exact admits_validator rounds _ _ _ standing_outset (.inr ⟨whole_mem, fun _ hv => hv⟩)

end StepEngine.MetaSchema

namespace StepEngine

/-- So a settled schema is a schema of the newest draft. -/
theorem Structure.Settled.draft_fault? {schema : Json} (h : Structure.Settled schema) :
    Draft.draft2020.fault? schema = none := by
  rw [Draft.fault?, MetaSchema.admits_settled schema [] h]
  rfl

end StepEngine
