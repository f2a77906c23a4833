import StepEngine.Schema.Check

/-!
# What a schema refuses

A schema accepts a payload that decodes as its type, or in which the document that it compiles to
finds nothing. Every other payload it refuses, and how it does depends on the reason.

* `Schema.Accepts`, `Schema.Refuses` : what a schema accepts, and its refusals in words;
* `Schema.validate_eq_ok_iff`, `validate_eq_error_iff` : the check gives an accepted payload back as it
  is, and nothing else; every other payload it refuses in these words;
* `Schema.accepts_iff` : what is not refused is accepted.
-/

namespace StepEngine

namespace Schema

/-- A schema accepts a payload. -/
def Accepts (value : Json) : Schema → Prop
  | typed schema => schema.decode value = .ok ()
  | json schema => ∃ document, schema.compile = .ok document ∧ document.findings value = []

/-- A schema refuses a payload. The payload does not satisfy the schema, or the schema is no schema:
then no payload is let through. -/
inductive Refuses (label : String) (value : Json) : Schema → Refusal → Prop where
  | undecoded {schema : TypedSchema} {cause : DecodeError} (h : schema.decode value = .error cause) :
    Refuses label value (typed schema)
      ⟨.validation label cause.message,
        ⟨.error, "Typed input validation failed", [("label", .string label),
          ("schema", .string schema.typeName), ("error", .string cause.message)]⟩⟩
  | uncompiled {schema : Json} {fault : CompileFault} (h : schema.compile = .error fault) :
    Refuses label value (json schema)
      ⟨.configuration (.schema label fault),
        ⟨.error, "JSON Schema does not compile", [("label", .string label),
          ("schema", .string schema.render), ("error", .string fault.message)]⟩⟩
  | unsatisfied {schema : Json} {document : Document} {details : String}
      (hdocument : schema.compile = .ok document) (h : document.findings value ≠ [])
      (hdetails : details = "; ".intercalate ((document.findings value).map Finding.message)) :
    Refuses label value (json schema)
      ⟨.validation label details,
        ⟨.error, "JSON Schema validation failed", [("label", .string label),
          ("schema", .string schema.render), ("error", .string details)]⟩⟩

variable {s : Schema} {label : String} {value : Json}

/-- The check gives a payload back, unchanged, or refuses it. -/
theorem validate_cases (s : Schema) (label : String) (value : Json) :
    (s.Accepts value ∧ s.validate label value = .ok value) ∨
      ∃ refusal, s.Refuses label value refusal ∧ s.validate label value = .error refusal := by
  cases s with
  | typed schema =>
    cases h : schema.decode value with
    | ok _ => exact .inl ⟨h, by rw [validate, h]⟩
    | error cause => exact .inr ⟨_, .undecoded h, by rw [validate, h]; rfl⟩
  | json schema =>
    cases hdocument : schema.compile with
    | error fault => exact .inr ⟨_, .uncompiled hdocument, by rw [validate, hdocument]; rfl⟩
    | ok document =>
      cases h : document.findings value with
      | nil => exact .inl ⟨⟨document, hdocument, h⟩, by simp only [validate, hdocument, h]⟩
      | cons first rest =>
        have hsome : document.findings value ≠ [] := h ▸ List.cons_ne_nil first rest
        exact .inr ⟨_, .unsatisfied hdocument hsome rfl, by simp only [validate, hdocument, h]; rfl⟩

theorem not_refuses_of_accepts (h : s.Accepts value) (refusal : Refusal) :
    ¬s.Refuses label value refusal := by
  intro hrefuses
  cases hrefuses with
  | undecoded hdecode => cases hdecode.symm.trans h
  | uncompiled hcompile =>
    obtain ⟨document, hdocument, -⟩ := h
    cases hcompile.symm.trans hdocument
  | unsatisfied hcompile hsome _ =>
    obtain ⟨document, hdocument, hnone⟩ := h
    obtain rfl := Except.ok.inj (hcompile.symm.trans hdocument)
    exact hsome hnone

/-- A payload is refused in one way only. -/
theorem Refuses.unique {r r' : Refusal} (h : s.Refuses label value r)
    (h' : s.Refuses label value r') : r = r' := by
  cases h with
  | undecoded hdecode =>
    cases h' with
    | undecoded hdecode' => cases hdecode.symm.trans hdecode'; rfl
  | uncompiled hcompile =>
    cases h' with
    | uncompiled hcompile' => cases hcompile.symm.trans hcompile'; rfl
    | unsatisfied hcompile' _ _ => cases hcompile.symm.trans hcompile'
  | unsatisfied hcompile _ hdetails =>
    cases h' with
    | uncompiled hcompile' => cases hcompile.symm.trans hcompile'
    | unsatisfied hcompile' _ hdetails' =>
      obtain rfl := Except.ok.inj (hcompile.symm.trans hcompile')
      rw [hdetails, hdetails']

/-- What the check gives back is the payload that it was given. -/
theorem validate_eq_ok_iff {validated : Json} :
    s.validate label value = .ok validated ↔ s.Accepts value ∧ validated = value := by
  rcases validate_cases s label value with ⟨haccepts, h⟩ | ⟨refusal, hrefuses, h⟩
  · rw [h, Except.ok.injEq, eq_comm]
    exact ⟨fun heq => ⟨haccepts, heq⟩, And.right⟩
  · rw [h]
    exact ⟨nofun, fun hboth => absurd hrefuses (not_refuses_of_accepts hboth.1 refusal)⟩

theorem validate_eq_error_iff {refusal : Refusal} :
    s.validate label value = .error refusal ↔ s.Refuses label value refusal := by
  rcases validate_cases s label value with ⟨haccepts, h⟩ | ⟨actual, hrefuses, h⟩
  · rw [h]
    exact ⟨nofun, fun hrefuses => absurd hrefuses (not_refuses_of_accepts haccepts refusal)⟩
  · rw [h, Except.error.injEq]
    exact ⟨fun heq => heq ▸ hrefuses, hrefuses.unique⟩

/-- A schema accepts what it does not refuse. -/
theorem accepts_iff : s.Accepts value ↔ ∀ refusal, ¬s.Refuses label value refusal := by
  refine ⟨not_refuses_of_accepts, fun h => ?_⟩
  rcases validate_cases s label value with ⟨haccepts, -⟩ | ⟨refusal, hrefuses, -⟩
  · exact haccepts
  · exact absurd hrefuses (h refusal)

theorem refusal?_eq_none_iff : s.refusal? label value = none ↔ s.Accepts value := by
  rcases validate_cases s label value with ⟨haccepts, h⟩ | ⟨refusal, hrefuses, h⟩
  · rw [refusal?, h]
    exact iff_of_true rfl haccepts
  · rw [refusal?, h]
    exact iff_of_false nofun fun haccepts => not_refuses_of_accepts haccepts refusal hrefuses

theorem refusal?_eq_some_iff {refusal : Refusal} :
    s.refusal? label value = some refusal ↔ s.Refuses label value refusal := by
  rw [← validate_eq_error_iff, refusal?]
  cases s.validate label value with
  | ok _ => exact iff_of_false nofun nofun
  | error _ => rw [Option.some.injEq, Except.error.injEq]

end Schema

end StepEngine
