import StepEngine.Proofs.Compiling
import StepEngine.Proofs.PlainSchema

/-!
# The keywords of a settled schema make sense

* `Compiler.asserting`, `applying` : the keywords that a settled schema can have and that constrain
  values, by whether they look at the value alone or apply other schemas;
* `Compiler.keyword_succeeds` : each of them makes sense, when the schemas inside the schema do.
-/

namespace StepEngine

open Structure

namespace Keyword

theorem ofType_eq_none {expected : TypeName} {value : Json} (h : expected.admits value = true) :
    ofType expected value = none := by
  rw [ofType, if_pos h]

theorem firstFault_eq_none {α : Type} {test : α → Option CompileFault} {values : List α}
    (h : ∀ v ∈ values, test v = none) : firstFault test values = none :=
  List.findSome?_eq_none_iff.2 h

theorem isSome_ofName? {name : String} (h : name ∈ typeNames) : (TypeName.ofName? name).isSome := by
  revert name
  decide

theorem typeFault?_eq_none {v : Json} (h : TypeArgument v) : typeFault? v = none := by
  cases h with
  | name h => exact if_pos (isSome_ofName? h)
  | @names names nonempty known distinct =>
    have hname : ∀ n ∈ names, typeNameFault? n = none := by
      intro n hn
      obtain ⟨name, hname, rfl⟩ := known n hn
      rw [typeNameFault?, if_pos (isSome_ofName? hname)]
    unfold typeFault?
    split
    · next heq => cases heq
    · next s heq =>
      obtain rfl := Json.array.inj heq
      obtain ⟨name, hname, hs⟩ := known _ List.mem_cons_self
      obtain rfl := Json.string.inj hs
      exact if_pos (isSome_ofName? hname)
    · next heq =>
      obtain rfl := Json.array.inj heq
      exact firstFault_eq_none hname
    · next hnames => exact absurd rfl (hnames names)

theorem namesFault?_eq_none {v : Json} (h : NameList v) : namesFault? v = none := by
  obtain ⟨texts, -⟩ := h
  refine firstFault_eq_none fun n hn => ?_
  have htext := texts n hn
  cases n with
  | string s => rfl
  | null | bool _ | number _ | array _ | object _ => cases htext

theorem limitFault?_eq_none {v : Json} (h : Count v) : limitFault? .draft2020 v = none := by
  obtain ⟨h⟩ := h
  rfl

theorem divisor?_isSome {v : Json} (h : isDivisor v = true) : (divisor? v).isSome := by
  cases v with
  | number n =>
    rw [isDivisor, Bool.and_eq_true, decide_eq_true_eq, decide_eq_true_eq] at h
    rw [divisor?, if_pos h.2]
    rfl
  | null | bool _ | string _ | array _ | object _ => cases h

theorem isNameList_iff {v : Json} : isNameList v = true ↔ NameList v := by
  cases v with
  | array names =>
    rw [isNameList, Bool.and_eq_true, List.all_eq_true]
    constructor
    · rintro ⟨texts, distinct⟩
      exact .names texts distinct
    · rintro ⟨texts, distinct⟩
      exact ⟨texts, distinct⟩
  | null | bool _ | number _ | string _ | object _ => exact ⟨nofun, nofun⟩

theorem dependentFault?_eq_none {v : Json} (h : NameList v) : dependentFault? v = none := by
  have hnames := namesFault?_eq_none h
  obtain ⟨-, distinct⟩ := h
  rw [dependentFault?, if_pos distinct]
  exact hnames

theorem containsFault?_eq_none {keywords : List (String × Json)} {keyword : String}
    (h : ∀ v, keywords.lookup keyword = some v → Count v) :
    containsFault? keywords keyword = none := by
  unfold containsFault?
  cases hv : keywords.lookup keyword with
  | none => rfl
  | some v =>
    obtain ⟨hi⟩ := h v hv
    exact if_neg (Int.not_lt.2 hi)

end Keyword

namespace Compiler

variable {c : Compiler} {locus : Locus} {steps : Nat} {keywords : List (String × Json)}
  {name : String} {arg : Json}

/-! ## Keywords that look at the value alone -/

/-- The keywords that a settled schema can have and that apply no other schema. -/
def asserting : List String :=
  ["type", "enum", "const", "required", "minLength", "maxLength", "minItems", "maxItems",
    "minProperties", "maxProperties", "minimum", "maximum", "exclusiveMinimum", "exclusiveMaximum",
    "uniqueItems", "multipleOf"]

theorem keyword_of_asserting (h : name ∈ asserting) :
    c.keyword locus steps keywords name arg =
      (Compiling.check (Keyword.fault? locus.draft keywords name arg) >>= fun _ =>
        pure (.ofViolations (Keyword.assert locus.draft keywords name arg))) := by
  simp only [asserting, List.mem_cons, List.not_mem_nil, or_false] at h
  rcases h with rfl | rfl | rfl | rfl | rfl | rfl | rfl | rfl | rfl | rfl | rfl | rfl | rfl | rfl |
    rfl | rfl <;> rfl

theorem admits_array {v : Json} (h : v.isArray) : TypeName.array.admits v = true := by
  cases v with
  | array _ => rfl
  | null | bool _ | number _ | string _ | object _ => cases h

theorem fault?_of_asserting (h : SettledKeywords keywords) (hname : name ∈ asserting)
    (harg : keywords.lookup name = some arg) :
    Keyword.fault? .draft2020 keywords name arg = none := by
  have hcount (hcount : name ∈ limitKeywords ++ countKeywords) :
      Keyword.limitFault? .draft2020 arg = none :=
    Keyword.limitFault?_eq_none (h.counts name hcount arg harg)
  have hbound (hbound : (name, .number) ∈ typedKeywords) : Keyword.ofType .number arg = none :=
    Keyword.ofType_eq_none (h.typed hbound harg)
  simp only [asserting, List.mem_cons, List.not_mem_nil, or_false] at hname
  rcases hname with rfl | rfl | rfl | rfl | rfl | rfl | rfl | rfl | rfl | rfl | rfl | rfl | rfl |
    rfl | rfl | rfl
  · exact Keyword.typeFault?_eq_none (h.type arg harg)
  · exact Keyword.ofType_eq_none (admits_array (h.enum arg harg))
  · rfl
  · exact Keyword.namesFault?_eq_none (h.required arg harg)
  · exact hcount (by decide)
  · exact hcount (by decide)
  · exact hcount (by decide)
  · exact hcount (by decide)
  · exact hcount (by decide)
  · exact hcount (by decide)
  · exact hbound (by decide)
  · exact hbound (by decide)
  · exact hbound (by decide)
  · exact hbound (by decide)
  · rfl
  · exact if_pos (Keyword.divisor?_isSome (h.fits _ arg harg))

/-- A text that can be read as a pattern. -/
theorem pattern_succeeds (h : SettledKeywords keywords)
    (harg : keywords.lookup "pattern" = some arg) :
    (c.keyword locus steps keywords "pattern" arg).Succeeds := by
  have hfits : isPattern arg = true := h.fits _ arg harg
  cases arg with
  | string text =>
    obtain ⟨p, hp⟩ := Option.isSome_iff_exists.1 hfits
    refine (Compiling.succeeds_check rfl).bind fun _ => ?_
    show (pattern text).Succeeds
    rw [pattern, hp]
    exact Compiling.succeeds_pure _
  | null | bool _ | number _ | array _ | object _ => cases hfits

/-- Lists of names, each name once. -/
theorem dependentRequired_succeeds (h : SettledKeywords keywords)
    (harg : keywords.lookup "dependentRequired" = some arg) :
    (c.keyword locus steps keywords "dependentRequired" arg).Succeeds := by
  have hfits : isNameListMap arg = true := h.fits _ arg harg
  cases arg with
  | object lists =>
    have hlists : ∀ l ∈ lists, NameList l.2 := fun l hl =>
      Keyword.isNameList_iff.1 (List.all_eq_true.1 hfits l hl)
    refine (Compiling.succeeds_check ?_).bind fun _ => Compiling.Succeeds.map ?_ _
    · exact Keyword.firstFault_eq_none fun l hl => Keyword.dependentFault?_eq_none (hlists l hl)
    · refine Compiling.succeeds_mapM fun l hl => ?_
      obtain ⟨name, list⟩ := l
      have hlist := hlists _ hl
      have hnames := Keyword.namesFault?_eq_none hlist
      obtain ⟨-, -⟩ := hlist
      exact (Compiling.succeeds_check hnames).bind fun _ => Compiling.succeeds_pure _
  | null | bool _ | number _ | string _ | array _ => cases hfits

/-! ## Keywords that apply other schemas -/

/-- The keywords that a settled schema can have beside those. -/
def applying : List String :=
  ["additionalProperties", "allOf", "anyOf", "contains", "dependentRequired", "dependentSchemas",
    "if", "items", "not", "oneOf", "pattern", "patternProperties", "prefixItems", "properties",
    "propertyNames", "unevaluatedItems", "unevaluatedProperties"]

/-- A keyword that constrains values in the newest draft is one that a settled schema can have, or one
that it cannot have. -/
theorem mem_of_knows (h : Draft.draft2020.knows name = true) :
    name ∈ asserting ∨ name ∈ applying ∨ name ∈ absentKeywords := by
  unfold Draft.knows Draft.span? at h
  split at h
  all_goals first
    | decide
    | cases h

theorem named_succeeds {schemas : List (String × Json)}
    (h : ∀ e ∈ schemas, (c.schema e.2).Succeeds) : (c.named schemas).Succeeds :=
  Compiling.succeeds_mapM fun e he => (h e he).bind fun _ => Compiling.succeeds_pure _

theorem matching_succeeds {blamed : Option Json} {schemas : List (String × Json)}
    (hpatterns : isPatternMap (.object schemas) = true)
    (h : ∀ e ∈ schemas, (c.schema e.2).Succeeds) : (c.matching blamed schemas).Succeeds := by
  refine Compiling.succeeds_mapM fun e he => ?_
  obtain ⟨p, hp⟩ := Option.isSome_iff_exists.1 (List.all_eq_true.1 hpatterns e he)
  simp only [hp]
  exact (h e he).bind fun _ => Compiling.succeeds_pure _

section Applying

variable (h : SettledKeywords keywords) (hc : ∀ schema, Settled schema → (c.schema schema).Succeeds)

include h hc

/-- The keywords that hold lists of schemas. -/
theorem list_succeeds (hname : name ∈ Draft.listKeywords .draft2020)
    (harg : keywords.lookup name = some arg) :
    (c.keyword locus steps keywords name arg).Succeeds := by
  obtain ⟨-, settled⟩ := h.lists name hname arg harg
  have hschemas := Compiling.succeeds_mapM fun s hs => hc s (settled s hs)
  simp only [Draft.listKeywords, List.mem_cons, List.not_mem_nil, or_false] at hname
  rcases hname with rfl | rfl | rfl | rfl
  all_goals exact (Compiling.succeeds_check rfl).bind fun _ => hschemas.map _

theorem properties_succeeds (harg : keywords.lookup "properties" = some arg) :
    (c.keyword locus steps keywords "properties" arg).Succeeds := by
  obtain ⟨settled⟩ := h.maps "properties" (by decide) arg harg
  refine (Compiling.succeeds_check rfl).bind fun _ => ?_
  show Compiling.Succeeds (if takesOver keywords then _ else _)
  split
  · exact Compiling.succeeds_pure _
  · exact (named_succeeds fun e he => hc _ (settled e he)).map _

theorem patternProperties_succeeds (harg : keywords.lookup "patternProperties" = some arg) :
    (c.keyword locus steps keywords "patternProperties" arg).Succeeds := by
  have hpatterns := h.fits _ arg harg
  obtain ⟨settled⟩ := h.maps "patternProperties" (by decide) arg harg
  refine (Compiling.succeeds_check rfl).bind fun _ => ?_
  show Compiling.Succeeds (if takesOver keywords then _ else _)
  split
  · exact Compiling.succeeds_pure _
  · exact (matching_succeeds hpatterns fun e he => hc _ (settled e he)).map _

theorem dependentSchemas_succeeds (harg : keywords.lookup "dependentSchemas" = some arg) :
    (c.keyword locus steps keywords "dependentSchemas" arg).Succeeds := by
  obtain ⟨settled⟩ := h.maps "dependentSchemas" (by decide) arg harg
  exact (Compiling.succeeds_check rfl).bind fun _ =>
    (named_succeeds fun e he => hc _ (settled e he)).map _

omit hc in
theorem ownProperties_eq :
    ∃ schemas, ownProperties keywords = pure schemas ∧ ∀ e ∈ schemas, Settled e.2 := by
  unfold ownProperties
  cases hv : keywords.lookup "properties" with
  | none => exact ⟨[], rfl, List.forall_mem_nil _⟩
  | some v =>
    obtain ⟨settled⟩ := h.maps "properties" (by decide) v hv
    exact ⟨_, rfl, settled⟩

theorem additionalProperties_succeeds (harg : keywords.lookup "additionalProperties" = some arg) :
    (c.keyword locus steps keywords "additionalProperties" arg).Succeeds := by
  have hsettled := h.schemas "additionalProperties" (by decide) arg harg
  obtain ⟨schemas, hown, hschemas⟩ := ownProperties_eq h
  have hnamed : (c.named schemas).Succeeds := named_succeeds fun e he => hc _ (hschemas e he)
  refine (Compiling.succeeds_check rfl).bind fun _ => ?_
  show (c.additionalProperties keywords arg).Succeeds
  unfold additionalProperties
  cases hv : keywords.lookup "patternProperties" with
  | none =>
    rcases hsettled.cases with ⟨b, rfl⟩ | ⟨members, rfl⟩
    · cases b with
      | true => exact Compiling.succeeds_pure _
      | false =>
        simp only [hown, pure_bind]
        exact hnamed.bind fun _ => Compiling.succeeds_pure _
    · simp only [hown, pure_bind]
      exact hnamed.bind fun _ => (hc _ hsettled).bind fun _ => Compiling.succeeds_pure _
  | some patterns =>
    have hpatterns := h.fits _ patterns hv
    obtain ⟨settled⟩ := h.maps "patternProperties" (by decide) patterns hv
    unfold additionalBesidePatterns
    refine (matching_succeeds hpatterns fun e he => hc _ (settled e he)).bind fun _ => ?_
    rcases hsettled.cases with ⟨b, rfl⟩ | ⟨members, rfl⟩
    · cases b with
      | true => exact Compiling.succeeds_pure _
      | false =>
        simp only [hown, pure_bind]
        exact hnamed.bind fun _ => Compiling.succeeds_pure _
    · simp only [hown, pure_bind]
      exact (hc _ hsettled).bind fun _ => hnamed.bind fun _ => Compiling.succeeds_pure _

theorem items_succeeds (harg : keywords.lookup "items" = some arg) :
    (c.keyword locus steps keywords "items" arg).Succeeds := by
  have hsettled := h.schemas "items" (by decide) arg harg
  refine (Compiling.succeeds_check rfl).bind fun _ => ?_
  show (c.items keywords arg).Succeeds
  rcases hsettled.cases with ⟨b, rfl⟩ | ⟨members, rfl⟩
  · exact (hc _ hsettled).map _
  · exact (hc _ hsettled).map _

theorem contains_succeeds (hl : locus.draft = .draft2020)
    (harg : keywords.lookup "contains" = some arg) :
    (c.keyword locus steps keywords "contains" arg).Succeeds := by
  have hfault : Keyword.fault? locus.draft keywords "contains" arg = none := by
    rw [hl]
    refine Keyword.firstFault_eq_none fun keyword hkeyword => ?_
    have hcounts : ∀ k ∈ ["minContains", "maxContains"], k ∈ limitKeywords ++ countKeywords := by
      decide
    exact Keyword.containsFault?_eq_none (h.counts keyword (hcounts keyword hkeyword))
  exact (Compiling.succeeds_check hfault).bind fun _ =>
    (hc arg (h.schemas "contains" (by decide) arg harg)).map _

theorem not_succeeds (harg : keywords.lookup "not" = some arg) :
    (c.keyword locus steps keywords "not" arg).Succeeds :=
  (Compiling.succeeds_check rfl).bind fun _ =>
    (hc arg (h.schemas "not" (by decide) arg harg)).map _

theorem propertyNames_succeeds (harg : keywords.lookup "propertyNames" = some arg) :
    (c.keyword locus steps keywords "propertyNames" arg).Succeeds := by
  have hsettled := h.schemas "propertyNames" (by decide) arg harg
  refine (Compiling.succeeds_check rfl).bind fun _ => ?_
  rcases hsettled.cases with ⟨b, rfl⟩ | ⟨members, rfl⟩
  · cases b with
    | true => exact Compiling.succeeds_pure _
    | false => exact Compiling.succeeds_pure _
  · exact (hc _ hsettled).map _

theorem condition_succeeds (harg : keywords.lookup "if" = some arg) :
    (c.keyword locus steps keywords "if" arg).Succeeds := by
  have hif := hc arg (h.schemas "if" (by decide) arg harg)
  refine (Compiling.succeeds_check rfl).bind fun _ => ?_
  show (c.condition keywords arg).Succeeds
  unfold condition
  cases hyes : keywords.lookup "then" with
  | none =>
    cases hno : keywords.lookup "else" with
    | none => exact Compiling.succeeds_pure _
    | some no =>
      have helse := hc no (h.schemas "else" (by decide) no hno)
      exact hif.bind fun _ => (Compiling.succeeds_pure _).bind fun _ => helse.bind fun _ =>
        Compiling.succeeds_pure _
  | some yes =>
    have hthen := hc yes (h.schemas "then" (by decide) yes hyes)
    cases hno : keywords.lookup "else" with
    | none =>
      exact hif.bind fun _ => hthen.bind fun _ => (Compiling.succeeds_pure _).bind fun _ =>
        Compiling.succeeds_pure _
    | some no =>
      have helse := hc no (h.schemas "else" (by decide) no hno)
      exact hif.bind fun _ => hthen.bind fun _ => helse.bind fun _ => Compiling.succeeds_pure _

theorem leftOver_succeeds (hname : name ∈ Draft.schemaKeywords .draft2020)
    (harg : keywords.lookup name = some arg) : (c.leftOver keywords arg).Succeeds := by
  have hschema := hc arg (h.schemas name hname arg harg)
  unfold leftOver
  cases hv : keywords.lookup "if" with
  | none => exact hschema
  | some test =>
    have htest := h.schemas "if" (by decide) test hv
    rcases htest.cases with ⟨b, rfl⟩ | ⟨members, rfl⟩
    · exact hschema
    · exact (hc _ htest).bind fun _ => hschema

/-- All keywords of a settled schema make sense, when the schemas inside it do. -/
theorem keyword_succeeds (hl : locus.draft = .draft2020) (harg : keywords.lookup name = some arg)
    (hknows : Draft.draft2020.knows name = true) :
    (c.keyword locus steps keywords name arg).Succeeds := by
  rcases mem_of_knows hknows with hname | hname | hname
  · rw [keyword_of_asserting hname, hl]
    exact (Compiling.succeeds_check (fault?_of_asserting h hname harg)).bind fun _ =>
      Compiling.succeeds_pure _
  · have hlist (hname : name ∈ Draft.listKeywords .draft2020) :
        (c.keyword locus steps keywords name arg).Succeeds := list_succeeds h hc hname harg
    have hleft (hname : name ∈ Draft.schemaKeywords .draft2020) := leftOver_succeeds h hc hname harg
    simp only [applying, List.mem_cons, List.not_mem_nil, or_false] at hname
    rcases hname with rfl | rfl | rfl | rfl | rfl | rfl | rfl | rfl | rfl | rfl | rfl | rfl | rfl |
      rfl | rfl | rfl | rfl
    · exact additionalProperties_succeeds h hc harg
    · exact hlist (by decide)
    · exact hlist (by decide)
    · exact contains_succeeds h hc hl harg
    · exact dependentRequired_succeeds h harg
    · exact dependentSchemas_succeeds h hc harg
    · exact condition_succeeds h hc harg
    · exact items_succeeds h hc harg
    · exact not_succeeds h hc harg
    · exact hlist (by decide)
    · exact pattern_succeeds h harg
    · exact patternProperties_succeeds h hc harg
    · exact hlist (by decide)
    · exact properties_succeeds h hc harg
    · exact propertyNames_succeeds h hc harg
    · exact (Compiling.succeeds_check rfl).bind fun _ => (hleft (by decide)).map _
    · exact (Compiling.succeeds_check rfl).bind fun _ => (hleft (by decide)).map _
  · rw [h.lookup_absent hname] at harg
    cases harg

end Applying

end Compiler

end StepEngine
