import StepEngine.Proofs.MetaSchema

/-!
# The parts of the schema of schemas

* `MetaSchema.allows_aString`, `allows_aCount`, `allows_aSchemaMap`, … : what the schemas of the values
  of keywords allow;
* `MetaSchema.Argument` : what a settled schema can hold under a keyword;
* `MetaSchema.allows_part`, `allows_former` : the parts, and the whole for the keywords of earlier
  drafts, have nothing against it.
-/

namespace StepEngine.MetaSchema

open Structure

variable {base : Uri} {P : Json → Prop}

/-! ## Schemas of the values of keywords -/

/-- A schema without a name and an identity allows what its keywords allow. -/
theorem allows_object {keywords counted : List (String × Json)}
    (id : (Json.object keywords).get? "$id" = none)
    (schema : (Json.object keywords).get? "$schema" = none)
    (heffective : Draft.draft2020.effective Draft.draft2020.vocabularies keywords = counted)
    (h : ∀ e ∈ counted, AllowsKeyword base keywords e.1 e.2 P) : Allows base (.object keywords) P := by
  refine .object id schema fun e he => h e ?_
  rwa [heffective] at he

theorem allows_one {keywords : List (String × Json)} {k : String × Json}
    (id : (Json.object keywords).get? "$id" = none)
    (schema : (Json.object keywords).get? "$schema" = none)
    (heffective : Draft.draft2020.effective Draft.draft2020.vocabularies keywords = [k])
    (h : AllowsKeyword base keywords k.1 k.2 P) : Allows base (.object keywords) P :=
  allows_object id schema heffective (List.forall_mem_singleton.2 h)

theorem allows_two {keywords : List (String × Json)} {j k : String × Json}
    (id : (Json.object keywords).get? "$id" = none)
    (schema : (Json.object keywords).get? "$schema" = none)
    (heffective : Draft.draft2020.effective Draft.draft2020.vocabularies keywords = [j, k])
    (hj : AllowsKeyword base keywords j.1 j.2 P) (hk : AllowsKeyword base keywords k.1 k.2 P) :
    Allows base (.object keywords) P :=
  allows_object id schema heffective
    (List.forall_mem_cons.2 ⟨hj, List.forall_mem_singleton.2 hk⟩)

theorem ofName?_name (t : TypeName) : TypeName.ofName? t.name = some t := by
  cases t <;> decide

theorem allowsKeyword_type {keywords : List (String × Json)} (t : TypeName)
    (h : ∀ v, P v → t.admits v = true) : AllowsKeyword base keywords "type" (.string t.name) P := by
  refine .assertion (by decide) fun v hp => ?_
  show Keyword.assertType .draft2020 (.string t.name) v = []
  simp only [Keyword.assertType, ofName?_name]
  exact if_pos (h v hp)

theorem allowsKeyword_nonempty {keywords : List (String × Json)} (h : ∀ v, P v → v ≠ .array []) :
    AllowsKeyword base keywords "minItems" (.ofNat 1) P := by
  refine .assertion (by decide) fun v hp => ?_
  cases v with
  | array items =>
    have hitems : items ≠ [] := fun hnil => h _ hp (congrArg Json.array hnil)
    exact if_pos (decide_eq_true (List.length_pos_iff.2 hitems))
  | null | bool _ | number _ | string _ | object _ => rfl

theorem allowsKeyword_distinct {keywords : List (String × Json)}
    (h : ∀ v, P v → repeatsNothing v = true) :
    AllowsKeyword base keywords "uniqueItems" (.bool true) P := by
  refine .assertion (by decide) fun v hp => ?_
  cases v with
  | array items => exact if_pos (h _ hp)
  | null | bool _ | number _ | string _ | object _ => rfl

theorem allows_of_type {keywords : List (String × Json)} (t : TypeName)
    (id : (Json.object keywords).get? "$id" = none)
    (schema : (Json.object keywords).get? "$schema" = none)
    (heffective : Draft.draft2020.effective Draft.draft2020.vocabularies keywords =
      [("type", .string t.name)])
    (h : ∀ v, P v → t.admits v = true) : Allows base (.object keywords) P :=
  allows_one id schema heffective (allowsKeyword_type t h)

theorem allows_aString (h : ∀ v, P v → TypeName.string.admits v = true) : Allows base aString P :=
  allows_of_type .string rfl rfl rfl h

theorem allows_aText {format : String} (h : ∀ v, P v → TypeName.string.admits v = true) :
    Allows base (aText format) P :=
  allows_of_type .string rfl rfl rfl h

/-- What the newest draft says about a schema inside a schema. -/
abbrev aSchema : Json := Later.innerSchema .draft2020

theorem allows_aSchema (h : ∀ v, P v → Settled v) : Allows base aSchema P :=
  allows_one rfl rfl rfl (.inner h)

theorem allows_either {a b : Json} {A B : Json → Prop} (hne : b ≠ a) (ha : Allows base a A)
    (hb : Allows base b B) (h : ∀ v, P v → A v ∨ B v) : Allows base (either a b) P := by
  refine allows_one rfl rfl rfl ?_
  refine .anyOf (fun m v => if m = a then A v else B v) ?_ fun v hp => ?_
  · simpa only [List.forall_mem_cons, if_pos, if_neg hne, List.not_mem_nil, false_implies, implies_true,
      and_true] using And.intro ha hb
  · rcases h v hp with hv | hv
    · exact ⟨a, List.mem_cons_self, by rwa [if_pos rfl]⟩
    · exact ⟨b, by simp, by rwa [if_neg hne]⟩

theorem allows_aListOf_anything (h : ∀ v, P v → TypeName.array.admits v = true) :
    Allows base (aListOf (.bool true)) P := by
  refine allows_two rfl rfl rfl ?_ ?_
  · exact .items (fun _ => True) .anything rfl fun _ _ _ _ => trivial
  · exact allowsKeyword_type .array h

theorem allowsKeyword_schemaMap {keywords : List (String × Json)}
    (alone : keywords.lookup "properties" = none ∧ keywords.lookup "patternProperties" = none)
    (h : ∀ v, P v → SettledMap v) :
    AllowsKeyword base keywords "additionalProperties" aSchema P := by
  refine .additionalProperties Settled (allows_aSchema fun _ hv => hv) alone ?_
  intro members hp m hm
  obtain ⟨settled⟩ := h _ hp
  exact settled m hm

theorem allowsKeyword_typeOfMap {keywords : List (String × Json)} (h : ∀ v, P v → SettledMap v) :
    AllowsKeyword base keywords "type" (.string "object") P := by
  refine allowsKeyword_type .object fun v hp => ?_
  obtain ⟨-⟩ := h v hp
  rfl

theorem allows_aSchemaMap (h : ∀ v, P v → SettledMap v) :
    Allows base (aSchemaMap aSchema) P :=
  allows_two rfl rfl rfl (allowsKeyword_schemaMap ⟨rfl, rfl⟩ h) (allowsKeyword_typeOfMap h)

theorem allows_aSchemaMapOrNone (h : ∀ v, P v → SettledMap v) :
    Allows base (aSchemaMapOrNone aSchema) P :=
  allows_two rfl rfl rfl (allowsKeyword_schemaMap ⟨rfl, rfl⟩ h) (allowsKeyword_typeOfMap h)

theorem allows_aPatternMap (h : ∀ v, P v → SettledMap v) :
    Allows base (aPatternMap aSchema) P := by
  refine allows_object rfl rfl rfl (List.forall_mem_cons.2 ⟨allowsKeyword_schemaMap ⟨rfl, rfl⟩ h,
    List.forall_mem_cons.2 ⟨.propertyNames ?_,
      List.forall_mem_singleton.2 (allowsKeyword_typeOfMap h)⟩⟩)
  -- the newest draft takes a format as a remark
  exact allows_object rfl rfl rfl (List.forall_mem_nil _)

theorem allows_aSchemaList (h : ∀ v, P v → SettledList v) :
    Allows base (aSchemaList aSchema) P := by
  refine allows_object rfl rfl rfl
    (List.forall_mem_cons.2 ⟨?_, List.forall_mem_cons.2 ⟨?_, List.forall_mem_singleton.2 ?_⟩⟩)
  · refine .items Settled (allows_aSchema fun _ hv => hv) rfl ?_
    intro items hp v hv
    obtain ⟨-, settled⟩ := h _ hp
    exact settled v hv
  · refine allowsKeyword_nonempty fun v hp hnil => ?_
    subst hnil
    obtain ⟨nonempty, -⟩ := h _ hp
    exact nonempty rfl
  · refine allowsKeyword_type .array fun v hp => ?_
    obtain ⟨-, -⟩ := h v hp
    rfl

theorem allows_aNameListOrNone (h : ∀ v, P v → NameList v) : Allows base aNameListOrNone P := by
  refine allows_object rfl rfl rfl
    (List.forall_mem_cons.2 ⟨?_, List.forall_mem_cons.2 ⟨?_, List.forall_mem_singleton.2 ?_⟩⟩)
  · refine .items (fun v => v.isString) (allows_aString fun v hv => ?_) rfl ?_
    · cases v with
      | string _ => rfl
      | null | bool _ | number _ | array _ | object _ => cases hv
    · intro items hp v hv
      obtain ⟨texts, -⟩ := h _ hp
      exact texts v hv
  · refine allowsKeyword_type .array fun v hp => ?_
    obtain ⟨-, -⟩ := h v hp
    rfl
  · refine allowsKeyword_distinct fun v hp => ?_
    obtain ⟨-, distinct⟩ := h v hp
    exact distinct

theorem allows_aCount (h : ∀ v, P v → Count v) : Allows base aCount P := by
  refine allows_two rfl rfl rfl ?_ ?_
  · refine .assertion (by decide) fun v hp => ?_
    obtain ⟨hi⟩ := h v hp
    refine if_pos (decide_eq_true ?_)
    show (0 : Int) * Double.unitsPerOne ≤ _ * Double.unitsPerOne
    exact Int.mul_le_mul_of_nonneg_right hi (Int.natCast_nonneg _)
  · refine allowsKeyword_type .integer fun v hp => ?_
    obtain ⟨-⟩ := h v hp
    rfl

theorem allows_aPositiveNumber (h : ∀ v, P v → isDivisor v = true) :
    Allows base aPositiveNumber P := by
  have hpositive (v : Json) (hp : P v) : ∃ n, v = .number n ∧ 0 < n.units := by
    have hdivisor := h v hp
    cases v with
    | number n =>
      rw [isDivisor, Bool.and_eq_true, decide_eq_true_eq] at hdivisor
      exact ⟨n, rfl, hdivisor.1⟩
    | null | bool _ | string _ | array _ | object _ => cases hdivisor
  refine allows_two rfl rfl rfl ?_ ?_
  · refine .assertion (by decide) fun v hp => ?_
    obtain ⟨n, rfl, hn⟩ := hpositive v hp
    have hzero : (Number.int 0).units = 0 := Int.zero_mul _
    refine if_pos (decide_eq_true ?_)
    show (Number.int 0).units < n.units
    rw [hzero]
    exact hn
  · refine allowsKeyword_type .number fun v hp => ?_
    obtain ⟨n, rfl, -⟩ := hpositive v hp
    rfl

def IsTypeName (v : Json) : Prop := ∃ name ∈ typeNames, v = .string name

theorem allows_aTypeName (h : ∀ v, P v → IsTypeName v) : Allows base aTypeName P := by
  refine allows_one rfl rfl rfl (.assertion (by decide) fun v hp => ?_)
  obtain ⟨name, hname, rfl⟩ := h v hp
  have hlisted : ∀ name ∈ typeNames, (["array", "boolean", "integer", "null", "number", "object",
      "string"].map Json.string).any (·.sameValue (.string name)) = true := by decide +kernel
  exact if_pos (hlisted name hname)

/-- Names of types, none of them twice. -/
def AreTypeNames (v : Json) : Prop :=
  ∃ names, v = .array names ∧ names ≠ [] ∧ (∀ n ∈ names, IsTypeName n) ∧
    Json.allDistinct names = true

theorem allows_typeOrTypes {reference : String} (hname : Allows base (refer reference) IsTypeName)
    (h : ∀ v, P v → TypeArgument v) : Allows base (typeOrTypes (refer reference)) P := by
  refine allows_either (B := AreTypeNames) (by simp [refer]) hname ?_ ?_
  · refine allows_object rfl rfl rfl (List.forall_mem_cons.2 ⟨.items IsTypeName hname rfl ?_,
      List.forall_mem_cons.2 ⟨allowsKeyword_nonempty ?_, List.forall_mem_cons.2
        ⟨allowsKeyword_type .array ?_, List.forall_mem_singleton.2 (allowsKeyword_distinct ?_)⟩⟩⟩)
    · rintro items ⟨names, heq, -, known, -⟩
      obtain rfl := Json.array.inj heq
      exact known
    · rintro v ⟨names, rfl, nonempty, -, -⟩ hnil
      exact nonempty (Json.array.inj hnil)
    · rintro v ⟨names, rfl, -⟩
      rfl
    · rintro v ⟨names, rfl, -, -, distinct⟩
      exact distinct
  · intro v hp
    cases h v hp with
    | name hknown => exact .inl ⟨_, hknown, rfl⟩
    | names nonempty known distinct => exact .inr ⟨_, rfl, nonempty, known, distinct⟩

/-! ## The parts -/

/-- What a settled schema can hold under a keyword. -/
def Argument (keyword : String) (v : Json) : Prop :=
  ∃ members, SettledKeywords members ∧ members.lookup keyword = some v

/-- The keywords that a settled schema can have, of a list of keywords with their schemas. -/
def present (properties : List (String × Json)) : List (String × Json) :=
  properties.filter fun e => e.1 ∉ absentKeywords

theorem allows_properties {properties : List (String × Json)}
    (h : ∀ e ∈ present properties, Allows base e.2 (Argument e.1)) :
    ∀ e ∈ properties, Allows base e.2 (Argument e.1) := by
  intro e he
  by_cases hpresent : e.1 ∈ absentKeywords
  · refine .unasked fun v hv => ?_
    obtain ⟨members, hk, hlookup⟩ := hv
    rw [hk.lookup_absent hpresent] at hlookup
    cases hlookup
  · exact h e (List.mem_filter.2 ⟨he, decide_eq_true hpresent⟩)

namespace Argument

variable {keyword : String}

theorem typed {t : TypeName} (hk : (keyword, t) ∈ typedKeywords) (v : Json)
    (h : Argument keyword v) : t.admits v = true := by
  obtain ⟨members, hmembers, hlookup⟩ := h
  exact hmembers.typed hk hlookup

theorem count (hk : keyword ∈ limitKeywords ++ countKeywords) (v : Json)
    (h : Argument keyword v) : Count v := by
  obtain ⟨members, hmembers, hlookup⟩ := h
  exact hmembers.counts keyword hk v hlookup

theorem schema (hk : keyword ∈ Draft.schemaKeywords .draft2020) (v : Json)
    (h : Argument keyword v) : Settled v := by
  obtain ⟨members, hmembers, hlookup⟩ := h
  exact hmembers.schemas keyword hk v hlookup

theorem map (hk : keyword ∈ Draft.mapKeywords .draft2020) (v : Json) (h : Argument keyword v) :
    SettledMap v := by
  obtain ⟨members, hmembers, hlookup⟩ := h
  exact hmembers.maps keyword hk v hlookup

theorem list (hk : keyword ∈ Draft.listKeywords .draft2020) (v : Json) (h : Argument keyword v) :
    SettledList v := by
  obtain ⟨members, hmembers, hlookup⟩ := h
  exact hmembers.lists keyword hk v hlookup

theorem fits (v : Json) (h : Argument keyword v) : fits keyword v = true := by
  obtain ⟨members, hmembers, hlookup⟩ := h
  exact hmembers.fits keyword v hlookup

end Argument

/-! One lemma for each shape that the schemas of keywords have. -/

theorem allows_text {keyword : String} (h : (keyword, .string) ∈ typedKeywords) :
    Allows base aString (Argument keyword) :=
  allows_aString (Argument.typed h)

theorem allows_switch {keyword : String} (h : (keyword, .boolean) ∈ typedKeywords) :
    Allows base aSwitch (Argument keyword) :=
  allows_of_type .boolean rfl rfl rfl (Argument.typed h)

theorem allows_number {keyword : String} (h : (keyword, .number) ∈ typedKeywords) :
    Allows base aNumber (Argument keyword) :=
  allows_of_type .number rfl rfl rfl (Argument.typed h)

theorem allows_schema {keyword : String} (h : keyword ∈ Draft.schemaKeywords .draft2020) :
    Allows base aSchema (Argument keyword) :=
  allows_aSchema (Argument.schema h)

theorem allows_defined {p : Part} {d : String × Json} (p_mem : p ∈ pieces) (base_eq : base = home p)
    (d_mem : d ∈ p.definitions) (h : Allows base d.2 P) : Allows base (Part.defined d.1) P :=
  allows_one rfl rfl rfl (.definition p_mem base_eq d_mem h)

/-! Part by part. -/

theorem allows_core : ∀ e ∈ (Part.core2020 aSchema).properties,
    Allows base e.2 (Argument e.1) := by
  have hpresent : present (Part.core2020 aSchema).properties =
    [("$comment", aString), ("$defs", aSchemaMap aSchema)] := by decide +kernel
  refine allows_properties ?_
  rw [hpresent]
  simp only [List.forall_mem_cons, List.not_mem_nil, false_implies, implies_true, and_true]
  exact ⟨allows_text (by decide), allows_aSchemaMap (Argument.map (by decide))⟩

def applicator : Part := Part.applicator2020 aSchema

theorem allows_applicator : ∀ e ∈ applicator.properties,
    Allows (home applicator) e.2 (Argument e.1) := by
  have hmem : applicator ∈ pieces := by simp [pieces, Later.parts, Part.all2020, applicator]
  have hlist {keyword : String} (hkeyword : keyword ∈ Draft.listKeywords .draft2020) :
      Allows (home applicator) (Part.defined "schemaArray") (Argument keyword) :=
    allows_defined (d := ("schemaArray", aSchemaList aSchema)) hmem rfl
      (List.mem_singleton_self _) (allows_aSchemaList (Argument.list hkeyword))
  simp only [applicator, Part.applicator2020, Part.appliers, List.cons_append, List.nil_append,
    List.forall_mem_cons, List.not_mem_nil, false_implies, implies_true, and_true]
  exact ⟨allows_schema (by decide), hlist (by decide), hlist (by decide), allows_schema (by decide),
    allows_schema (by decide), allows_schema (by decide), allows_schema (by decide), hlist (by decide),
    allows_aPatternMap (Argument.map (by decide)), allows_aSchemaMapOrNone (Argument.map (by decide)),
    allows_schema (by decide), allows_schema (by decide),
    allows_aSchemaMapOrNone (Argument.map (by decide)), allows_schema (by decide), hlist (by decide)⟩

theorem validation_mem : Part.validation ∈ pieces := by simp [pieces, Later.parts, Part.all2020]

theorem allowsKeyword_count {keywords : List (String × Json)} (h : ∀ v, P v → Count v) :
    AllowsKeyword (home .validation) keywords "$ref" (.string "#/$defs/nonNegativeInteger") P :=
  .definition (d := ("nonNegativeInteger", aCount)) validation_mem rfl (by simp [Part.validation])
    (allows_aCount h)

theorem allows_count (h : ∀ v, P v → Count v) :
    Allows (home .validation) (Part.defined "nonNegativeInteger") P :=
  allows_one rfl rfl rfl (allowsKeyword_count h)

theorem allows_countOrOne (h : ∀ v, P v → Count v) :
    Allows (home .validation) (byDefault (.ofNat 1) (Part.defined "nonNegativeInteger")) P :=
  allows_one rfl rfl rfl (allowsKeyword_count h)

theorem allows_countOrZero (h : ∀ v, P v → Count v) :
    Allows (home .validation) (Part.defined "nonNegativeIntegerDefault0") P :=
  allows_defined (d := ("nonNegativeIntegerDefault0",
      byDefault (.ofNat 0) (Part.defined "nonNegativeInteger"))) validation_mem rfl
    (by simp [Part.validation])
    (allows_one rfl rfl rfl (allowsKeyword_count h))

theorem allows_names (h : ∀ v, P v → NameList v) :
    Allows (home .validation) (Part.defined "stringArray") P :=
  allows_defined (d := ("stringArray", aNameListOrNone)) validation_mem rfl
    (by simp [Part.validation]) (allows_aNameListOrNone h)

theorem allows_typeName : Allows (home .validation) (Part.defined "simpleTypes") IsTypeName :=
  allows_defined (d := ("simpleTypes", aTypeName)) validation_mem rfl (by simp [Part.validation])
    (allows_aTypeName fun _ hv => hv)

theorem allows_dependents (h : ∀ v, P v → isNameListMap v = true) :
    Allows (home .validation) (aSchemaMap (Part.defined "stringArray")) P := by
  refine allows_two rfl rfl rfl ?_ ?_
  · refine .additionalProperties NameList (allows_names fun _ hv => hv) ⟨rfl, rfl⟩ ?_
    intro members hp m hm
    exact Keyword.isNameList_iff.1 (List.all_eq_true.1 (h _ hp) m hm)
  · refine allowsKeyword_type .object fun v hp => ?_
    have hmap := h v hp
    cases v with
    | object _ => rfl
    | null | bool _ | number _ | string _ | array _ => cases hmap

theorem allows_validation : ∀ e ∈ Part.validation.properties,
    Allows (home .validation) e.2 (Argument e.1) := by
  simp only [Part.validation, List.forall_mem_cons, List.not_mem_nil, false_implies, implies_true,
    and_true]
  refine ⟨.anything, allows_dependents Argument.fits, allows_aListOf_anything ?_,
    allows_number (by decide), allows_number (by decide), allows_count (Argument.count (by decide)),
    allows_count (Argument.count (by decide)), allows_count (Argument.count (by decide)),
    allows_count (Argument.count (by decide)), allows_number (by decide),
    allows_countOrOne (Argument.count (by decide)), allows_countOrZero (Argument.count (by decide)),
    allows_countOrZero (Argument.count (by decide)), allows_countOrZero (Argument.count (by decide)),
    allows_number (by decide), allows_aPositiveNumber Argument.fits, allows_aText ?_, allows_names ?_,
    allows_typeOrTypes allows_typeName ?_, allows_switch (by decide)⟩
  · rintro v ⟨members, hmembers, hlookup⟩
    exact Compiler.admits_array (hmembers.enum v hlookup)
  · intro v hv
    have hpattern : isPattern v = true := hv.fits
    cases v with
    | string _ => rfl
    | null | bool _ | number _ | array _ | object _ => cases hpattern
  · rintro v ⟨members, hmembers, hlookup⟩
    exact hmembers.required v hlookup
  · rintro v ⟨members, hmembers, hlookup⟩
    exact hmembers.type v hlookup

theorem allows_annotation : ∀ e ∈ Part.annotation.properties, Allows base e.2 (Argument e.1) := by
  simp only [Part.annotation, List.forall_mem_cons, List.not_mem_nil, false_implies, implies_true,
    and_true]
  exact ⟨.anything, allows_switch (by decide), allows_text (by decide),
    allows_aListOf_anything (Argument.typed (by decide)), allows_switch (by decide),
    allows_text (by decide), allows_switch (by decide)⟩

theorem allows_unevaluated : ∀ e ∈ (Part.unevaluated aSchema).properties,
    Allows base e.2 (Argument e.1) := by
  simp only [Part.unevaluated, List.forall_mem_cons, List.not_mem_nil, false_implies, implies_true,
    and_true]
  exact ⟨allows_schema (by decide), allows_schema (by decide)⟩

theorem allows_content : ∀ e ∈ (Part.content aSchema).properties,
    Allows base e.2 (Argument e.1) := by
  simp only [Part.content, List.forall_mem_cons, List.not_mem_nil, false_implies, implies_true,
    and_true]
  exact ⟨allows_text (by decide), allows_text (by decide), allows_schema (by decide)⟩

/-- No part has anything against what a settled schema holds under a keyword. -/
theorem allows_part : ∀ p ∈ pieces, ∀ e ∈ p.properties, Allows (home p) e.2 (Argument e.1) := by
  show ∀ p ∈ Part.all2020 aSchema, _
  rw [Part.all2020]
  simp only [List.forall_mem_cons, List.not_mem_nil, false_implies, implies_true, and_true]
  exact ⟨allows_core, allows_applicator, allows_unevaluated, allows_validation, allows_annotation,
    List.forall_mem_singleton.2 (allows_text (by decide)), allows_content⟩

/-- The whole has a schema for a keyword of earlier drafts that is still in use. -/
theorem allows_former : ∀ e ∈ Later.former .draft2020, Allows base e.2 (Argument e.1) := by
  have hpresent : present (Later.former .draft2020) = [("definitions",
      Later.kept "\"definitions\" has been replaced by \"$defs\"."
        (aSchemaMapOrNone aSchema))] := by
    decide +kernel
  have hmap : ∀ v, Argument "definitions" v → SettledMap v := Argument.map (by decide)
  refine allows_properties ?_
  rw [hpresent, List.forall_mem_singleton]
  exact allows_two rfl rfl rfl (allowsKeyword_schemaMap ⟨rfl, rfl⟩ hmap)
    (allowsKeyword_typeOfMap hmap)

end StepEngine.MetaSchema
