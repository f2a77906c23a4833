import StepEngine.Proofs.Admission
import StepEngine.Proofs.Dispatch
import StepEngine.Proofs.Metadata
import StepEngine.Proofs.SettledSchema

/-!
# Schemas of an accepted step

A configuration is accepted when the structural check finds nothing in its declarative schemas; they
are compiled when a payload arrives. That the check finds nothing does not make a schema compile.

* `Structure.CheckSuffices` : for some schemas it does: they refuse a payload for what it is, and so
  does a step that was accepted with them;
* `Structure.Settled.compile` : a settled schema compiles;
* `Structure.check_suffices_for_plain` : so the check suffices for plain schemas;
* `Json.not_compile_of_pattern` : a pattern that cannot be read keeps a schema from compiling, and
  the check does not look at patterns.
-/

namespace StepEngine

open Structure

/-! ## Compiling a settled schema -/

/-- A settled schema compiles. -/
theorem Structure.Settled.compile {schema : Json} (h : Settled schema) :
    ∃ document, schema.compile = .ok document := by
  obtain ⟨s, hlocus, hdraft⟩ := h.locus
  refine ⟨⟨s, schema⟩, ?_⟩
  rw [Json.compile, hlocus]
  simp only [bind, Except.bind, hdraft, h.draft_fault?, h.identify hdraft,
    CompileFault.ofReference, Except.mapError, h.fault?_eq_none hdraft]

theorem settled_of_problems {schema : Json} (hproblems : problems schema = [])
    (hplain : isPlain schema = true) : Settled schema :=
  ⟨⟨"schema", onlyShapeless_of_eq_nil (List.map_eq_nil_iff.1 hproblems)⟩, hplain⟩

/-! ## Schemas that do not compile -/

theorem Locus.steps_pos (s : Locus) : 0 < s.steps := by
  have hweight (resources : List (Uri × Resource)) (n : Nat) (hn : 0 < n) :
      0 < resources.foldl (fun sum r => sum + r.2.contents.weight) n := by
    induction resources generalizing n with
    | nil => exact hn
    | cons r rest ih => exact ih _ (Nat.add_pos_left hn _)
  exact Nat.mul_pos (hweight _ 1 Nat.one_pos) (hweight _ 1 Nat.one_pos)

theorem Json.locus_eq_ok {schema : Json} {s : Locus} (h : schema.locus = .ok s)
    (hdraft : Draft.draft2020.detect schema = .ok .draft2020) :
    s.draft = .draft2020 ∧ s.vocabularies = Draft.draft2020.vocabularies := by
  rw [Json.locus, hdraft] at h
  simp only [bind, Except.bind] at h
  split at h
  · cases h
  · split at h
    · cases h
    · obtain rfl := Except.ok.inj h
      refine ⟨rfl, ?_⟩
      show Registry.vocabularies _ .draft2020 schema = _
      rw [Registry.vocabularies, hdraft]

/-- A document stands where its schema stands, and has been looked through. -/
theorem Json.compile_eq_ok {schema : Json} {document : Document}
    (h : schema.compile = .ok document) (hdraft : Draft.draft2020.detect schema = .ok .draft2020) :
    document.root = schema ∧ document.locus.draft = .draft2020 ∧
      document.locus.vocabularies = Draft.draft2020.vocabularies ∧ document.fault? = none := by
  rw [Json.compile] at h
  cases hlocus : schema.locus with
  | error fault =>
    rw [hlocus] at h
    cases h
  | ok s =>
    obtain ⟨hs, hvocabularies⟩ := Json.locus_eq_ok hlocus hdraft
    rw [hlocus] at h
    simp only [bind, Except.bind] at h
    split at h
    · cases h
    · split at h
      · cases h
      · next inside hinside =>
        have hidentify : ∃ base, inside = { s with base := base } := by
          rw [Locus.identify] at hinside
          cases hbase : s.base.enter s.draft schema with
          | error fault =>
            rw [hbase] at hinside
            cases hinside
          | ok base =>
            rw [hbase] at hinside
            exact ⟨base, (Except.ok.inj hinside).symm⟩
        obtain ⟨base, rfl⟩ := hidentify
        split at h
        · cases h
        · next hfault =>
          obtain rfl := Except.ok.inj h
          exact ⟨rfl, hs, hvocabularies, hfault⟩

/-- A pattern that cannot be read keeps a schema from compiling. -/
theorem Json.not_compile_of_pattern {keywords : List (String × Json)} {text : String}
    (hpattern : ("pattern", .string text) ∈ keywords) (hread : Pattern.read? text = none)
    (hdraft : keywords.lookup "$schema" = none) (document : Document) :
    (Json.object keywords).compile ≠ .ok document := by
  intro hcompile
  have hdetect : Draft.draft2020.detect (.object keywords) = .ok .draft2020 := by
    rw [Draft.detect, Json.get?, hdraft]
  obtain ⟨hroot, hdraft, hvocabularies, hfault⟩ := Json.compile_eq_ok hcompile hdetect
  have heffective : ("pattern", Json.string text) ∈
      document.locus.draft.effective document.locus.vocabularies keywords := by
    have hmem : ("pattern", Json.string text) ∈ keywords.filter fun k =>
        Draft.draft2020.counts Draft.draft2020.vocabularies k.1 :=
      List.mem_filter.2 ⟨hpattern, rfl⟩
    rw [hdraft, hvocabularies, Draft.effective]
    cases keywords.lookup "$ref" with
    | none => exact hmem
    | some _ => exact hmem
  have hpatternFails {c : Compiler} {locus : Locus} {steps : Nat} :
      (c.keyword locus steps keywords "pattern" (.string text)).Ends fun _ => False := by
    refine (Compiling.ends_trivial _).bind fun _ _ => ?_
    show (Compiler.pattern text).Ends _
    rw [Compiler.pattern, hread]
    exact Compiling.ends_fail _
  obtain ⟨steps, hsteps⟩ := Nat.exists_eq_succ_of_ne_zero (Nat.ne_of_gt document.locus.steps_pos)
  have hends : (document.locus.compileWith (fun _ _ => .anything) document.locus.steps
      document.locus.steps document.root).Ends fun _ => False := by
    rw [hroot, hsteps, Locus.compileWith]
    exact (Compiling.ends_mapM_of_mem heffective hpatternFails).map fun _ hfalse => hfalse
  rw [Document.fault?] at hfault
  split at hfault
  · next v followed hv => exact hends _ _ _ hv
  · cases hfault

/-! ## Refusals -/

theorem Schema.refusal?_of_fault {schema : Json} {fault : CompileFault}
    (h : schema.compile = .error fault) (label : String) (value : Json) :
    (Schema.json schema).refusal? label value = some (.ofFault label schema fault) :=
  refusal?_eq_some_iff.2 (.uncompiled h)

/-- A schema that compiles refuses a payload for what it is. -/
theorem Schema.validation_of_refusal {schema : Schema} {label : String} {value : Json}
    {refusal : Refusal} (hcompile : ∀ rendering, schema = .json rendering →
      ∃ document, rendering.compile = .ok document)
    (h : schema.Refuses label value refusal) :
    ∃ details, refusal.error = .validation label details := by
  cases h with
  | undecoded _ => exact ⟨_, rfl⟩
  | uncompiled hfault =>
    obtain ⟨document, hdocument⟩ := hcompile _ rfl
    cases hfault.symm.trans hdocument
  | unsatisfied _ _ _ => exact ⟨_, rfl⟩

/-- The check of a configuration suffices for some schemas: those without problems compile, so they
refuse a payload for what it is, and so does a step that was accepted with them. -/
structure Structure.CheckSuffices (scope : Json → Prop) : Prop where
  compiles : ∀ schema, problems schema = [] → scope schema →
    ∃ document, schema.compile = .ok document
  refusals : ∀ schema, problems schema = [] → scope schema → ∀ label value refusal,
    (Schema.json schema).refusal? label value = some refusal →
      ∃ details, refusal.error = .validation label details
  /-- An invocation of an accepted step whose payload decodes. -/
  dispatches : ∀ {τ : Type} (c accepted : StepConfig) (w : TriggerHandler) (invocation : Invocation)
    (input : TriggerInput) (s : Surroundings τ) (within : Option Span) (p : Progress τ),
    c.validated = .ok accepted → w.trigger ∈ accepted.triggers →
    (∀ schema, w.trigger.inputSchema = some (.json schema) → scope schema) →
    TriggerInput.decode w.trigger.kind invocation.payload = .ok input →
    w.Admits input ∨ ∃ details entry, w.invoke invocation s within p =
      w.closed within (w.span p) (some (.error (.validation w.label details)),
        (w.opened invocation s within p).logged entry (some (w.span p)))

namespace Structure

theorem checkSuffices_of_compiles {scope : Json → Prop}
    (h : ∀ schema, problems schema = [] → scope schema → ∃ document, schema.compile = .ok document) :
    CheckSuffices scope where
  compiles := h
  refusals schema hproblems hscope label value refusal hrefusal := by
    have hrefuses := Schema.refusal?_eq_some_iff.1 hrefusal
    refine Schema.validation_of_refusal (fun rendering hjson => ?_) hrefuses
    obtain rfl := Schema.json.inj hjson
    exact h schema hproblems hscope
  dispatches c accepted w invocation input s within p hvalidated hmem hscope hdecode := by
    have hproblems : accepted.problems = [] := by
      rw [StepConfig.validated] at hvalidated
      split at hvalidated
      · next hempty =>
        obtain rfl := Except.ok.inj hvalidated
        exact List.isEmpty_iff.1 hempty
      · cases hvalidated
    obtain ⟨index, htrigger⟩ := StepConfig.trigger_problems hproblems w.trigger hmem
    rcases w.admits_or_refuses input with hadmits | ⟨schema, refusal, hinput, hrefuses⟩
    · exact .inl hadmits
    · have hcompile : ∀ rendering, schema = .json rendering →
          ∃ document, rendering.compile = .ok document := by
        rintro rendering rfl
        exact h rendering (Trigger.inputSchema_problems htrigger _ hinput) (hscope rendering hinput)
      obtain ⟨details, hdetails⟩ := Schema.validation_of_refusal hcompile hrefuses
      refine .inr ⟨details, refusal.entry, ?_⟩
      rw [TriggerHandler.invoke_eq, TriggerHandler.run_of_refused hdecode hinput hrefuses, hdetails]

/-- The check suffices for plain schemas. -/
theorem check_suffices_for_plain {scope : Json → Prop}
    (hplain : ∀ schema, scope schema → isPlain schema = true) : CheckSuffices scope := by
  refine checkSuffices_of_compiles fun schema hproblems hscope => ?_
  have hsettled := settled_of_problems hproblems (hplain schema hscope)
  exact hsettled.compile

def order : Json := .object [
  ("properties", .object [
    ("code", .object [("pattern", .string "^[A-Z]+-[0-9]+$"), ("type", .string "string")]),
    ("lines", .object [
      ("contains", .object [("const", .string "gift")]),
      ("items", .object [("enum", .ofStrings ["book", "gift"])]),
      ("maxItems", .ofNat 5),
      ("type", .string "array")])]),
  ("required", .ofStrings ["code"]),
  ("type", .string "object")]

theorem check_suffices_for_order : problems order = [] ∧
    (∀ schema, schema = order → isPlain schema = true) ∧
    CheckSuffices (fun schema => schema = order) ∧ ∃ document, order.compile = .ok document := by
  have hproblems : problems order = [] := by decide +kernel
  have hplain : ∀ schema, schema = order → isPlain schema = true := by
    rintro _ rfl
    decide +kernel
  have hsuffices := check_suffices_for_plain hplain
  exact ⟨hproblems, hplain, hsuffices, hsuffices.compiles order hproblems rfl⟩

def unreadable : Json := .object [("pattern", .string "["), ("type", .string "integer")]

/-- The check does not look at patterns: it passes a schema that refuses every payload. -/
theorem check_overlooks_patterns : problems unreadable = [] ∧
    (∀ label value, ∃ fault,
      (Schema.json unreadable).refusal? label value = some (.ofFault label unreadable fault)) ∧
    ¬CheckSuffices fun _ => True := by
  have hproblems : problems unreadable = [] := by decide +kernel
  have hpattern : Pattern.read? "[" = none := by decide +kernel
  have hcompile := Json.not_compile_of_pattern List.mem_cons_self hpattern
    (show ([("pattern", .string "["), ("type", .string "integer")] :
      List (String × Json)).lookup "$schema" = none from rfl)
  refine ⟨hproblems, fun label value => ?_, fun h => ?_⟩
  · cases hfault : unreadable.compile with
    | error fault => exact ⟨fault, Schema.refusal?_of_fault hfault label value⟩
    | ok document => exact absurd hfault (hcompile document)
  · obtain ⟨document, hdocument⟩ := h.compiles unreadable hproblems trivial
    exact hcompile document hdocument

end Structure

end StepEngine
