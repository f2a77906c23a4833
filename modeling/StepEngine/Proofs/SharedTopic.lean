import StepEngine.Proofs.InnerSchemas
import StepEngine.Schema.Compatibility

/-!
# Two schemas on one topic

What is said about two schemas on a topic is the same from both sides: types change places, and so do
the names that a side does not declare. A schema is not always compatible with itself: names that it
requires and does not declare are reported, as missing on both sides.

* `Compatibility.Requires`, `Compatibility.Declares` : what a schema says about the name of a property;
* `Compatibility.mem_missing_iff`, `pairwise_missing` : which names are missing, and their order;
* `Compatibility.issues_of_apart`, `issues_of_sameType` : types or names are reported, never both;
* `Compatibility.Issue.exchanged` : an issue as it reads from the other side;
* `Compatibility.issues_from_both_sides` : the issues of two schemas, either way round;
* `Compatibility.issues_with_itself` : the issues of a schema with itself.
-/

namespace StepEngine.Compatibility

/-! ## Names -/

/-- A schema requires a property. What is no text in the list does not count. -/
def Requires (schema : Json) (name : String) : Prop :=
  ∃ names, schema.get? "required" = some (.array names) ∧ .string name ∈ names

def Declares (schema : Json) (name : String) : Prop :=
  ∃ properties, schema.get? "properties" = some (.object properties) ∧
    name ∈ properties.map (·.1)

theorem mem_required_iff {schema : Json} {name : String} :
    name ∈ required schema ↔ Requires schema name := by
  rw [required, Requires]
  cases schema.get? "required" with
  | none => simp
  | some v =>
    cases v with
    | array names =>
      have hstring (v : Json) : v.asString? = some name ↔ v = .string name := by
        cases v <;> simp [Json.asString?]
      simp [Json.asArray?, hstring]
    | null | bool _ | number _ | string _ | object _ => simp [Json.asArray?]

theorem mem_declared_iff {schema : Json} {name : String} :
    name ∈ declared schema ↔ Declares schema name := by
  rw [declared, Declares]
  cases schema.get? "properties" with
  | none => simp
  | some v => cases v <;> simp [Json.asObject?]

theorem mem_sortedNames {names : List String} {name : String} :
    name ∈ sortedNames names ↔ name ∈ names := by
  rw [sortedNames, SortedMap.mem_keys_ofList, List.map_map]
  simp

theorem mem_missing_iff {a b : Json} {name : String} :
    name ∈ missing a b ↔ Requires a name ∧ ¬ Declares b name := by
  rw [missing, mem_sortedNames, List.mem_filter, mem_required_iff, ← mem_declared_iff]
  simp

/-- Names that are missing ascend, so none is reported twice. -/
theorem pairwise_missing (a b : Json) : (missing a b).Pairwise (· < ·) :=
  SortedMap.pairwise_keys _

/-! ## Types -/

def BothObjects (a b : Json) : Prop :=
  a.get? "type" = some (.string "object") ∧ b.get? "type" = some (.string "object")

theorem isObjectSchema_and_iff {a b : Json} :
    (isObjectSchema a && isObjectSchema b) = true ↔ BothObjects a b := by
  rw [Bool.and_eq_true, isObjectSchema, isObjectSchema, beq_iff_eq, beq_iff_eq, BothObjects]

theorem BothObjects.sameType {a b : Json} (h : BothObjects a b) :
    sameType (a.get? "type") (b.get? "type") = true := by
  rw [h.1, h.2]
  rfl

theorem sameType_comm {a b : Option Json} (ha : ∀ v, a = some v → v.DistinctKeys)
    (hb : ∀ v, b = some v → v.DistinctKeys) : sameType a b = sameType b a := by
  cases a with
  | none => cases b <;> rfl
  | some v =>
    cases b with
    | none => rfl
    | some w => exact Json.equal_comm (ha v rfl) (hb w rfl)

/-! ## Issues -/

theorem mem_undeclaredOn {side : Side} {names : List String} {issue : Issue} :
    issue ∈ undeclaredOn side names ↔ names ≠ [] ∧ issue = .undeclared side names := by
  cases names <;> simp [undeclaredOn]

/-- Of schemas of different types nothing else is reported. -/
theorem issues_of_apart {a b : Json} (h : sameType (a.get? "type") (b.get? "type") = false) :
    issues a b = [.typeMismatch ((a.get? "type").getD .null) ((b.get? "type").getD .null)] := by
  have hobjects : ¬ (isObjectSchema a && isObjectSchema b) = true := by
    rw [isObjectSchema_and_iff]
    intro hboth
    rw [hboth.sameType] at h
    cases h
  simp only [issues]
  rw [if_neg hobjects, h]
  rfl

/-- Of schemas of one type names are reported, when it is the type of objects. -/
theorem issues_of_sameType {a b : Json} (h : sameType (a.get? "type") (b.get? "type") = true) :
    issues a b = if isObjectSchema a && isObjectSchema b then
      undeclaredOn .second (missing a b) ++ undeclaredOn .first (missing b a) else [] := by
  simp only [issues]
  rw [if_pos h, List.nil_append]

/-- The names that are missing on a side. -/
def missingOn : Side → Json → Json → List String
  | .first, a, b => missing b a
  | .second, a, b => missing a b

theorem mem_issues_undeclared {a b : Json} {side : Side} {names : List String} :
    .undeclared side names ∈ issues a b ↔
      BothObjects a b ∧ names ≠ [] ∧ names = missingOn side a b := by
  cases hsame : sameType (a.get? "type") (b.get? "type") with
  | false =>
    rw [issues_of_apart hsame, List.mem_singleton]
    refine iff_of_false nofun fun h => ?_
    rw [h.1.sameType] at hsame
    cases hsame
  | true =>
    rw [issues_of_sameType hsame, ← isObjectSchema_and_iff]
    split
    · next hobjects =>
      rw [List.mem_append, mem_undeclaredOn, mem_undeclaredOn, and_iff_right hobjects]
      cases side <;> simp +contextual [missingOn]
    · next hobjects => exact iff_of_false List.not_mem_nil fun h => hobjects h.1

/-! ## From both sides -/

def Side.other : Side → Side
  | first => second
  | second => first

theorem Side.other_other (side : Side) : side.other.other = side := by
  cases side <;> rfl

/-- An issue as it reads when the two schemas change places. -/
def Issue.exchanged : Issue → Issue
  | typeMismatch first second => typeMismatch second first
  | undeclared side names => undeclared side.other names

theorem Issue.exchanged_exchanged (issue : Issue) : issue.exchanged.exchanged = issue := by
  cases issue with
  | typeMismatch first second => rfl
  | undeclared side names => rw [exchanged, exchanged, Side.other_other]

theorem map_exchanged_undeclaredOn (side : Side) (names : List String) :
    (undeclaredOn side names).map Issue.exchanged = undeclaredOn side.other names := by
  cases names <;> rfl

theorem reverse_undeclaredOn (side : Side) (names : List String) :
    (undeclaredOn side names).reverse = undeclaredOn side names := by
  cases names <;> rfl

/-- The issues of two schemas that change places: each is exchanged, and of names missing on both
sides those missing in the second are told first again. -/
theorem issues_exchanged {a b : Json} (ha : a.DistinctKeys) (hb : b.DistinctKeys) :
    issues b a = ((issues a b).map Issue.exchanged).reverse := by
  have hcomm : sameType (b.get? "type") (a.get? "type") = sameType (a.get? "type") (b.get? "type") :=
    sameType_comm (fun _ hv => hb.of_get? hv) (fun _ hv => ha.of_get? hv)
  cases hsame : sameType (a.get? "type") (b.get? "type") with
  | false =>
    rw [issues_of_apart hsame, issues_of_apart (hcomm.trans hsame)]
    rfl
  | true =>
    rw [issues_of_sameType hsame, issues_of_sameType (hcomm.trans hsame), Bool.and_comm]
    split
    · rw [List.map_append, List.reverse_append, map_exchanged_undeclaredOn,
        map_exchanged_undeclaredOn, reverse_undeclaredOn, reverse_undeclaredOn]
      rfl
    · rfl

/-- What is said about two schemas does not depend on which comes first. -/
structure Mirrored (a b : Json) : Prop where
  exchanged : issues b a = ((issues a b).map Issue.exchanged).reverse
  types : ∀ x y, .typeMismatch x y ∈ issues b a ↔ .typeMismatch y x ∈ issues a b
  names : ∀ side names,
    .undeclared side names ∈ issues b a ↔ .undeclared side.other names ∈ issues a b
  /-- Names are missing in the second schema that the first requires and the second does not
  declare. They ascend. -/
  missing : ∀ names, .undeclared .second names ∈ issues a b →
    names.Pairwise (· < ·) ∧ ∀ n, n ∈ names ↔ Requires a n ∧ ¬ Declares b n
  silent_iff : issues b a = [] ↔ issues a b = []

theorem issues_from_both_sides {a b : Json} (ha : a.DistinctKeys) (hb : b.DistinctKeys) :
    Mirrored a b := by
  have hexchanged := issues_exchanged ha hb
  have hmem (issue : Issue) : issue ∈ issues b a ↔ issue.exchanged ∈ issues a b := by
    rw [hexchanged, List.mem_reverse, List.mem_map]
    constructor
    · rintro ⟨other, hother, rfl⟩
      rwa [Issue.exchanged_exchanged]
    · exact fun h => ⟨_, h, issue.exchanged_exchanged⟩
  refine ⟨hexchanged, fun x y => hmem _, fun side names => hmem _, ?_, ?_⟩
  · intro names h
    obtain ⟨-, -, rfl⟩ := mem_issues_undeclared.1 h
    exact ⟨pairwise_missing a b, fun n => mem_missing_iff⟩
  · rw [hexchanged, List.reverse_eq_nil_iff, List.map_eq_nil_iff]

/-- Two schemas of objects that were read from texts. -/
theorem issues_from_both_sides_of_read :
    ∃ a b, Json.read "\x7b\"type\":\"object\",\"required\":[\"id\",\"at\"]\x7d" = .ok a ∧
      Json.read "\x7b\"type\":\"object\",\"properties\":\x7b\"at\":\x7b\x7d\x7d\x7d" = .ok b ∧
      issues a b = [.undeclared .second ["id"]] ∧ Mirrored a b := by
  have ha : Json.read "\x7b\"type\":\"object\",\"required\":[\"id\",\"at\"]\x7d" =
      .ok (.object [("required", .array [.string "id", .string "at"]), ("type", .string "object")]) :=
    rfl
  have hb : Json.read "\x7b\"type\":\"object\",\"properties\":\x7b\"at\":\x7b\x7d\x7d\x7d" =
      .ok (.object [("properties", .object [("at", .object [])]), ("type", .string "object")]) :=
    rfl
  refine ⟨_, _, ha, hb, by decide, ?_⟩
  exact issues_from_both_sides (Json.distinctKeys_of_read ha) (Json.distinctKeys_of_read hb)

/-! ## With itself -/

/-- In a schema that the check has nothing against, only texts stand under `type`. -/
theorem distinctKeys_type {s v : Json} (h : Structure.problems s = [])
    (hv : s.get? "type" = some v) : v.DistinctKeys := by
  have htext : ∀ found ∈ v.asArray?.getD [v], ∃ name, found = .string name := by
    intro found hfound
    by_contra hnone
    refine Structure.problems_eq_nil_iff.1 h [] s (.unknownType found) (.here s) (.unknownType ?_ ?_)
    · exact Structure.mem_typeEntries.2 ⟨v, hv, hfound⟩
    · exact fun name _ heq => hnone ⟨name, heq⟩
  cases v with
  | array entries =>
    refine .array fun entry hentry => ?_
    obtain ⟨name, rfl⟩ := htext entry hentry
    exact .string name
  | null | bool _ | number _ | string _ | object _ =>
    obtain ⟨name, heq⟩ := htext _ (List.mem_singleton_self _)
    rw [heq]
    exact .string name

theorem sameType_self {v : Option Json} (h : ∀ w, v = some w → w.DistinctKeys) :
    sameType v v = true := by
  cases v with
  | none => rfl
  | some w => exact Json.equal_self (h w rfl)

/-- The names that a schema of objects requires and does not declare itself. -/
def unsupported (s : Json) : List String :=
  if isObjectSchema s then missing s s else []

theorem mem_unsupported_iff {s : Json} {name : String} : name ∈ unsupported s ↔
    s.get? "type" = some (.string "object") ∧ Requires s name ∧ ¬ Declares s name := by
  rw [unsupported, isObjectSchema]
  split
  · next h => rw [mem_missing_iff, and_iff_right (beq_iff_eq.1 h)]
  · next h => exact iff_of_false List.not_mem_nil fun hname => h (beq_iff_eq.2 hname.1)

/-- What is said about a schema beside itself: the names that it does not support are missing, on both
sides. -/
structure SelfReport (s : Json) (names : List String) : Prop where
  issues_eq : issues s s = undeclaredOn .second names ++ undeclaredOn .first names
  ascending : names.Pairwise (· < ·)
  mem_iff : ∀ n, n ∈ names ↔
    s.get? "type" = some (.string "object") ∧ Requires s n ∧ ¬ Declares s n
  silent_iff : issues s s = [] ↔
    (s.get? "type" = some (.string "object") → ∀ n, Requires s n → Declares s n)

/-- A schema without problems is compatible with itself up to the names that it requires and does not
declare. -/
theorem issues_with_itself {s : Json} (h : Structure.problems s = []) :
    ∃ names, SelfReport s names := by
  have hissues : issues s s =
      undeclaredOn .second (unsupported s) ++ undeclaredOn .first (unsupported s) := by
    rw [issues_of_sameType (sameType_self fun _ => distinctKeys_type h), Bool.and_self, unsupported]
    split <;> rfl
  have hsilent : issues s s = [] ↔ unsupported s = [] := by
    rw [hissues]
    cases unsupported s <;> simp [undeclaredOn]
  refine ⟨unsupported s, hissues, ?_, fun n => mem_unsupported_iff, ?_⟩
  · unfold unsupported
    split
    · exact pairwise_missing s s
    · exact .nil
  · rw [hsilent, List.eq_nil_iff_forall_not_mem]
    simp only [mem_unsupported_iff, not_and, not_not]
    exact forall_comm

/-- A schema that declares only one of the names that it requires. -/
theorem issues_with_itself_of_order :
    let s := Json.object [("properties", .object [("at", .object [("type", .string "string")])]),
      ("required", .array [.string "id", .string "at"]), ("type", .string "object")]
    Structure.problems s = [] ∧ (∃ names, SelfReport s names) ∧
      issues s s = [.undeclared .second ["id"], .undeclared .first ["id"]] :=
  ⟨by decide, issues_with_itself (by decide), by decide⟩

/-- A schema without problems that has two issues with itself. -/
theorem undeclared_name_is_missing_twice :
    ∃ s, Json.read "\x7b\"required\":[\"id\"],\"type\":\"object\"\x7d" = .ok s ∧
      Structure.problems s = [] ∧
      (issues s s).map Issue.message = ["Required fields missing in second schema: id",
        "Required fields missing in first schema: id"] :=
  ⟨.object [("required", .array [.string "id"]), ("type", .string "object")], rfl, by decide,
    by decide⟩

end StepEngine.Compatibility
