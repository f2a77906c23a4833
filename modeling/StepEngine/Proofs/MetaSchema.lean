import StepEngine.Proofs.MetaDocuments
import StepEngine.Proofs.SettledKeywords
import StepEngine.Proofs.Validator

/-!
# What the schema of schemas lets pass

* `MetaSchema.Allows` : a schema inside the schema of schemas has nothing against the values with a
  property, as far as its keywords tell; references to the whole are not followed;
* `MetaSchema.AllowsKeyword` : the same for one keyword of a schema;
* `MetaSchema.AllowsKeyword.ends` : what is compiled for the keyword admits these values;
* `MetaSchema.AllowsKeyword.refers` : every reference leads to a place inside the schema of schemas.
-/

namespace StepEngine.MetaSchema

open Structure

mutual

/-- A schema of a document has nothing against the values with a property. -/
inductive Allows (base : Uri) : Json → (Json → Prop) → Prop where
  | anything {P : Json → Prop} : Allows base (.bool true) P
  /-- No value has the property. -/
  | unasked {m : Json} {P : Json → Prop} (h : ∀ v, ¬P v) : Allows base m P
  | object {keywords : List (String × Json)} {P : Json → Prop}
      (id : (Json.object keywords).get? "$id" = none)
      (schema : (Json.object keywords).get? "$schema" = none)
      (h : ∀ e ∈ Draft.draft2020.effective Draft.draft2020.vocabularies keywords,
        AllowsKeyword base keywords e.1 e.2 P) : Allows base (.object keywords) P

/-- A keyword of a schema has nothing against the values with a property. -/
inductive AllowsKeyword (base : Uri) : List (String × Json) → String → Json → (Json → Prop) → Prop where
  | assertion {keywords : List (String × Json)} {name : String} {arg : Json} {P : Json → Prop}
      (name_mem : name ∈ Compiler.asserting)
      (h : ∀ v, P v → Keyword.assert .draft2020 keywords name arg v = []) :
      AllowsKeyword base keywords name arg P
  /-- The schemas inside a schema are settled themselves. -/
  | inner {keywords : List (String × Json)} {P : Json → Prop} (h : ∀ v, P v → Settled v) :
      AllowsKeyword base keywords "$dynamicRef" (.string "#meta") P
  | piece {keywords : List (String × Json)} {p : Part} {P : Json → Prop} (p_mem : p ∈ pieces)
      (base_eq : base = root) (h : ∀ v, P v → Settled v) :
      AllowsKeyword base keywords "$ref" (.string ("meta/" ++ p.name)) P
  | definition {keywords : List (String × Json)} {p : Part} {d : String × Json} {P : Json → Prop}
      (p_mem : p ∈ pieces) (base_eq : base = home p) (d_mem : d ∈ p.definitions)
      (h : Allows base d.2 P) : AllowsKeyword base keywords "$ref" (.string ("#/$defs/" ++ d.1)) P
  | allOf {keywords : List (String × Json)} {schemas : List Json} {P : Json → Prop}
      (h : ∀ m ∈ schemas, Allows base m P) : AllowsKeyword base keywords "allOf" (.array schemas) P
  | anyOf {keywords : List (String × Json)} {schemas : List Json} {P : Json → Prop}
      (Q : Json → Json → Prop) (h : ∀ m ∈ schemas, Allows base m (Q m))
      (one : ∀ v, P v → ∃ m ∈ schemas, Q m v) : AllowsKeyword base keywords "anyOf" (.array schemas) P
  | properties {keywords schemas : List (String × Json)} {P : Json → Prop}
      (Q : String → Json → Prop) (h : ∀ e ∈ schemas, Allows base e.2 (Q e.1))
      (each : ∀ members, P (.object members) → ∀ e ∈ schemas, ∀ v, members.lookup e.1 = some v →
        Q e.1 v) : AllowsKeyword base keywords "properties" (.object schemas) P
  | additionalProperties {keywords members : List (String × Json)} {P : Json → Prop}
      (Q : Json → Prop) (h : Allows base (.object members) Q)
      (alone : keywords.lookup "properties" = none ∧ keywords.lookup "patternProperties" = none)
      (each : ∀ members, P (.object members) → ∀ m ∈ members, Q m.2) :
      AllowsKeyword base keywords "additionalProperties" (.object members) P
  | propertyNames {keywords members : List (String × Json)} {P : Json → Prop}
      (h : Allows base (.object members) fun _ => True) :
      AllowsKeyword base keywords "propertyNames" (.object members) P
  | items {keywords : List (String × Json)} {m : Json} {P : Json → Prop} (Q : Json → Prop)
      (h : Allows base m Q) (one : m.isArray = false)
      (each : ∀ items, P (.array items) → ∀ v ∈ items, Q v) : AllowsKeyword base keywords "items" m P

end

/-! ## Compiling -/

variable {s : Locus} {P : Json → Prop}

theorem ends_named {c : Compiler} {schemas : List (String × Json)} {Q : String → Json → Prop}
    (h : ∀ e ∈ schemas, (c.schema e.2).Ends (·.Admits (Q e.1))) :
    (c.named schemas).Ends fun vs => ∀ v ∈ vs, ∃ e ∈ schemas, v.1 = e.1 ∧ v.2.Admits (Q e.1) := by
  refine (Compiling.ends_mapM (R := fun e v => v.1 = e.1 ∧ v.2.Admits (Q e.1)) ?_).mono
    fun vs hvs => hvs.1
  intro e he
  exact (h e he).bind fun v hv => Compiling.ends_pure ⟨rfl, hv⟩

/-- What is compiled for a keyword admits the values that the keyword allows. -/
theorem AllowsKeyword.ends {c : Compiler} {steps : Nat} {keywords : List (String × Json)}
    {name : String} {arg : Json} (hs : s.draft = .draft2020)
    (hschema : ∀ m P, Allows s.base m P → (c.schema m).Ends (·.Admits P))
    (hrefer : ∀ name reference P, AllowsKeyword s.base keywords name (.string reference) P →
      name = "$ref" ∨ name = "$dynamicRef" → (c.refer name reference).Ends (·.Admits P))
    (h : AllowsKeyword s.base keywords name arg P) :
    (c.keyword s steps keywords name arg).Ends (·.Admits P) := by
  have hcheck {α : Type} {fault? : Option CompileFault} {next : Compiling α} {Q : α → Prop}
      (hnext : next.Ends Q) : (Compiling.check fault? >>= fun _ => next).Ends Q :=
    (Compiling.ends_trivial _).bind fun _ _ => hnext
  cases h with
  | assertion name_mem h =>
    rw [Compiler.keyword_of_asserting name_mem, hs]
    exact hcheck (Compiling.ends_pure (Validator.admits_ofViolations h))
  | inner h => exact hcheck (hrefer _ _ _ (.inner h) (.inr rfl))
  | piece p_mem base_eq h => exact hcheck (hrefer _ _ _ (.piece p_mem base_eq h) (.inl rfl))
  | definition p_mem base_eq d_mem h =>
    exact hcheck (hrefer _ _ _ (.definition p_mem base_eq d_mem h) (.inl rfl))
  | allOf h =>
    have hall := Compiling.ends_mapM (f := c.schema) fun m hm => hschema m P (h m hm)
    refine hcheck (hall.map fun vs hvs => Validator.admits_all fun v hv => ?_)
    obtain ⟨m, hm, hadmits⟩ := hvs.1 v hv
    exact hadmits
  | @anyOf _ schemas _ Q h one =>
    have hall := Compiling.ends_mapM (f := c.schema) fun m hm => hschema m (Q m) (h m hm)
    refine hcheck (hall.map fun vs hvs => Validator.admits_anyOf fun value hp => ?_)
    obtain ⟨m, hm, hq⟩ := one value hp
    obtain ⟨v, hv, hadmits⟩ := hvs.2 m hm
    exact ⟨v, hv, hadmits.accepts hq⟩
  | @properties _ schemas _ Q h each =>
    refine hcheck ?_
    show Compiling.Ends (if Compiler.takesOver keywords then _ else _) _
    split
    · exact Compiling.ends_pure Validator.admits_anything
    · refine (ends_named fun e he => hschema e.2 (Q e.1) (h e he)).map fun vs hvs => ?_
      refine Validator.admits_properties fun v hv => ?_
      obtain ⟨e, he, hname, hadmits⟩ := hvs v hv
      refine hadmits.mono ?_
      rintro value ⟨members, hp, hlookup⟩
      rw [hname] at hlookup
      exact each members hp e he value hlookup
  | @additionalProperties _ members _ Q h alone each =>
    refine hcheck ?_
    show (c.additionalProperties keywords (.object members)).Ends _
    have hnone : Compiler.ownProperties keywords = pure [] := by
      rw [Compiler.ownProperties, alone.1]
    unfold Compiler.additionalProperties
    simp only [alone.2, hnone, pure_bind, Compiler.named, List.mapM_nil]
    refine (hschema (.object members) Q h).bind fun v hv => Compiling.ends_pure ?_
    refine Validator.admits_additionalProperties (hv.mono ?_)
    rintro value ⟨members, name, hp, hmem⟩
    exact each members hp (name, value) hmem
  | propertyNames h =>
    exact hcheck ((hschema _ _ h).map fun v hv => Validator.admits_propertyNames hv)
  | items Q h one each =>
    refine hcheck ?_
    show (c.items keywords arg).Ends _
    have hone := hschema arg Q h
    have hafter (count : Nat) : Compiling.Ends (Validator.itemsAfter count <$> c.schema arg)
        (·.Admits P) := by
      refine hone.map fun v hv => Validator.admits_itemsAfter count (hv.mono ?_)
      rintro value ⟨items, hp, hmem⟩
      exact each items hp value hmem
    cases arg with
    | array _ => cases one
    | object _ | bool _ => exact hafter _
    | null | number _ | string _ => exact Compiling.ends_pure Validator.admits_anything

/-! ## References -/

/-- What is known of a schema in a document: what it allows, or that it is a whole or a part. -/
def Described (base : Uri) (m : Json) (P : Json → Prop) : Prop :=
  Allows base m P ∨ (base, m) ∈ documents ∧ ∀ v, P v → Settled v

theorem vocabularies_eq {there : Locus} (hthere : Standing there) {m : Json}
    (h : m.get? "$schema" = none ∨ m.get? "$schema" = some (.string (Draft.name .draft2020)))
    (r : Registry) : r.vocabularies there.draft m = there.vocabularies := by
  have hdetect : Draft.draft2020.detect m = .ok .draft2020 := by
    rcases h with h | h
    · rw [Draft.detect, h]
    · rw [Draft.detect, h]
      rfl
  rw [hthere.draft, hthere.vocabularies, Registry.vocabularies, hdetect]

/-- A reference to a document. -/
theorem refers_document {there : Locus} (hthere : Standing there) {m : Json}
    (hm : (there.base, m) ∈ documents) (h : ∀ v, P v → Settled v) :
    Described there.base m P ∧ there.identify m = .ok there ∧
      ∀ r : Registry, r.vocabularies there.draft m = there.vocabularies :=
  ⟨.inr ⟨hm, h⟩, hthere.identify hm,
    vocabularies_eq hthere (.inr (members_documents _ hm).2.2)⟩

/-- Every reference inside the schema of schemas leads to a locus inside it. -/
theorem AllowsKeyword.refers (hs : Standing s) {keywords : List (String × Json)}
    {name reference : String} (hname : name = "$ref" ∨ name = "$dynamicRef")
    (h : AllowsKeyword s.base keywords name (.string reference) P) :
    ∃ there target, s.refer name (.string reference) = .ok (there, target) ∧ Standing there ∧
      Described there.base target P ∧ there.identify target = .ok there ∧
      ∀ r : Registry, r.vocabularies there.draft target = there.vocabularies := by
  cases h with
  | inner h =>
    obtain ⟨there, hrefer, hthere, hbase⟩ := hs.refer_inner
    have hwhole : (there.base, contents .draft2020) ∈ documents := by
      rw [hbase]
      exact whole_mem
    exact ⟨there, _, hrefer, hthere, refers_document hthere hwhole h⟩
  | @piece _ p _ p_mem base_eq h =>
    obtain ⟨hthere, hbase, -⟩ := hs.goTo (piece_mem p_mem)
    have hpart : ((s.goTo (home p) .draft2020).base, Later.part .draft2020 p) ∈ documents := by
      rw [hbase]
      exact piece_mem p_mem
    exact ⟨_, _, hs.refer_piece base_eq p_mem, hthere, refers_document hthere hpart h⟩
  | @definition _ p d _ p_mem base_eq d_mem h =>
    obtain ⟨hthere, hbase, -⟩ := hs.goTo (piece_mem p_mem)
    obtain ⟨-, -, -, hid, hschema⟩ := get?_definition p p_mem d d_mem
    refine ⟨_, _, hs.refer_definition p_mem base_eq d_mem, hthere, .inl ?_,
      identify_of_none hthere.draft hid, vocabularies_eq hthere (.inl hschema)⟩
    rw [hbase, ← base_eq]
    exact h
  | assertion name_mem _ =>
    rcases hname with rfl | rfl
    · exact absurd name_mem (by decide)
    · exact absurd name_mem (by decide)
  | items _ _ _ _ => exact absurd hname (by decide)

/-- What is compiled for a reference admits the values that the keyword allows, also when it has been
followed before. -/
theorem AllowsKeyword.ends_referWith (hs : Standing s) {keywords : List (String × Json)}
    {name reference : String} (hname : name = "$ref" ∨ name = "$dynamicRef")
    {here : Locus → Json → Compiling Validator} {alone : Locus → Json → Validator}
    (hhere : ∀ s m P, Standing s → Described s.base m P → (here s m).Ends (·.Admits P))
    (halone : ∀ s m P, Standing s → Described s.base m P → (alone s m).Admits P)
    (h : AllowsKeyword s.base keywords name (.string reference) P) :
    (s.referWith here alone name reference).Ends (·.Admits P) := by
  obtain ⟨there, target, hrefer, hthere, htarget, hidentify, hvocabularies⟩ := h.refers hs hname
  have hdraft : { there with draft := s.draft } = there := by
    rw [hs.draft, ← hthere.draft]
  unfold Locus.referWith
  rw [hrefer]
  refine (Compiling.ends_trivial _).bind fun meaning _ =>
    (Compiling.ends_trivial _).bind fun met _ => ?_
  generalize (name == "$recursiveRef" || met.contains meaning) = followed
  cases followed with
  | false =>
    refine (Compiling.ends_trivial _).bind fun _ _ => ?_
    show (here { there with vocabularies := s.registry.vocabularies there.draft target }
      target).Ends _
    rw [hvocabularies]
    exact hhere there target P hthere htarget
  | true =>
    show Compiling.Ends (if _ then _ else Compiling.found ({ there with draft := s.draft }.identify
      target) >>= _) _
    split
    · exact Compiling.ends_pure Validator.admits_anything
    · rw [hdraft, hidentify, hs.vocabularies, ← hthere.vocabularies]
      refine Compiling.ends_pure (Validator.admits_later ?_)
      simp only [hidentify]
      exact halone there target P hthere htarget

end StepEngine.MetaSchema
