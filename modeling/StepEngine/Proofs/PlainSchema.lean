import StepEngine.Pattern
import StepEngine.Schema.Draft
import StepEngine.Schema.Equality
import StepEngine.Schema.Structure
import StepEngine.Schema.Violation

/-!
# Schemas that the structural check settles

The structural check looks at some keywords only. It passes over the others, and over some of what the
values of its own keywords have to be.

* `Structure.fits` : what the check passes over, keyword by keyword;
* `Structure.isPlain` : all of it holds, in a schema and in the schemas inside it, and the schemas that
  the check does not come to pass it as well;
* `Structure.Passes` : a schema passes the check; that it has no shape does not count, since this keeps
  no schema from compiling;
* `Structure.Settled` : a schema that is plain and passes the check;
* `Structure.SettledKeywords` : what the keywords of such a schema are (`Settled.keywords`).
-/

namespace StepEngine.Structure

/-! ## What the check passes over -/

/-- Keywords that a plain schema does not have: names of schemas, of places and of drafts, references,
and keywords that the newest draft gave up. -/
def absentKeywords : List String :=
  ["$anchor", "$dynamicAnchor", "$dynamicRef", "$id", "$recursiveAnchor", "$recursiveRef", "$ref",
    "$schema", "$vocabulary", "additionalItems", "dependencies"]

/-- Keywords that ask for no more than the type of their value. -/
def typedKeywords : List (String × TypeName) :=
  [("$comment", .string), ("contentEncoding", .string), ("contentMediaType", .string),
    ("deprecated", .boolean), ("description", .string), ("examples", .array),
    ("exclusiveMaximum", .number), ("exclusiveMinimum", .number), ("format", .string),
    ("maximum", .number), ("minimum", .number), ("readOnly", .boolean), ("title", .string),
    ("uniqueItems", .boolean), ("writeOnly", .boolean)]

/-- Keywords whose value is a count, beside those that the check looks at. -/
def countKeywords : List String :=
  ["maxContains", "maxProperties", "minContains", "minProperties"]

/-- The keywords whose value is a list of schemas, one of which or all of which have to accept. -/
def combinators : List String := ["anyOf", "oneOf", "allOf"]

/-- A list without repetitions; any other value. -/
def repeatsNothing : Json → Bool
  | .array items => Json.allDistinct items
  | _ => true

/-- Names, none of them twice. -/
def isNameList : Json → Bool
  | .array names => names.all Json.isString && Json.allDistinct names
  | _ => false

def isNameListMap : Json → Bool
  | .object lists => lists.all fun l => isNameList l.2
  | _ => false

/-- A number above zero, also as a double. -/
def isDivisor : Json → Bool
  | .number n => 0 < n.units && 0 < n.toDouble.units
  | _ => false

def isPattern : Json → Bool
  | .string text => (Pattern.read? text).isSome
  | _ => false

/-- All keys can be read as patterns. -/
def isPatternMap : Json → Bool
  | .object schemas => schemas.all fun s => isPattern (.string s.1)
  | _ => false

/-- What the check passes over holds for the value of a keyword. -/
def fits (keyword : String) (v : Json) : Bool :=
  if keyword ∈ absentKeywords then false
  else if keyword ∈ countKeywords then v.asWord?.isSome
  else
    match typedKeywords.lookup keyword with
    | some t => t.admits v
    | none =>
      match keyword with
      | "dependentRequired" => isNameListMap v
      | "items" => !v.isArray
      | "multipleOf" => isDivisor v
      | "pattern" => isPattern v
      | "patternProperties" => isPatternMap v
      | "required" => repeatsNothing v
      | "type" => v != .array [] && repeatsNothing v
      | _ => true

theorem not_fits_of_absent {keyword : String} (h : keyword ∈ absentKeywords) (v : Json) :
    fits keyword v = false :=
  if_pos h

theorem fits_of_count {keyword : String} (h : keyword ∈ countKeywords) (v : Json) :
    fits keyword v = v.asWord?.isSome := by
  have hpresent : ∀ k ∈ countKeywords, k ∉ absentKeywords := by decide
  unfold fits
  rw [if_neg (hpresent keyword h), if_pos h]

theorem fits_of_typed {keyword : String} {t : TypeName} (h : (keyword, t) ∈ typedKeywords)
    (v : Json) : fits keyword v = t.admits v := by
  have htyped : ∀ k ∈ typedKeywords, k.1 ∉ absentKeywords ∧ k.1 ∉ countKeywords ∧
      typedKeywords.lookup k.1 = some k.2 := by decide
  obtain ⟨hpresent, hcount, hlookup⟩ := htyped _ h
  unfold fits
  rw [if_neg hpresent, if_neg hcount, hlookup]

/-! ## Schemas inside a schema -/

/-- The check goes into the schemas under a keyword. -/
def looksInto (keyword : String) : Bool :=
  keyword ∈ "properties" :: "items" :: combinators

/-- No problems but that schemas have no shape. -/
def OnlyShapeless (problems : List Located) : Prop := ∀ l ∈ problems, l.problem = .noShape

theorem onlyShapeless_of_eq_nil {problems : List Located} (h : problems = []) :
    OnlyShapeless problems := by
  rw [h]
  exact List.forall_mem_nil _

/-- A schema passes the check, wherever it stands, but for its shape. -/
def Passes (schema : Json) : Prop := ∃ path, OnlyShapeless (problemsAt path schema)

/-- A schema under a keyword that the check does not come to passes it as well. -/
def passesUnder (keyword : String) (schema : Json) : Bool :=
  looksInto keyword || (problemsAt "" schema).isEmpty

theorem passes_of_passesUnder {keyword : String} {schema : Json}
    (h : passesUnder keyword schema = true) (hkeyword : looksInto keyword = false) :
    Passes schema := by
  rw [passesUnder, hkeyword, Bool.false_or, List.isEmpty_iff] at h
  exact ⟨"", onlyShapeless_of_eq_nil h⟩

mutual

/-- What the check passes over holds, in a schema and in the schemas inside it. -/
def isPlain : Json → Bool
  | .object members => (members.map (·.1)).Nodup && plainUnder members
  | _ => true

/-- The members of a schema fit, and the schemas under them are plain. -/
def plainUnder : List (String × Json) → Bool
  | [] => true
  | (keyword, v) :: rest =>
    let inside :=
      if keyword ∈ Draft.schemaKeywords .draft2020 then passesUnder keyword v && isPlain v
      else if keyword ∈ Draft.mapKeywords .draft2020 then
        match v with
        | .object schemas => plainMap keyword schemas
        | _ => false
      else if keyword ∈ Draft.listKeywords .draft2020 then
        match v with
        | .array schemas => !schemas.isEmpty && plainList keyword schemas
        | _ => false
      else true
    fits keyword v && inside && plainUnder rest

def plainMap (keyword : String) : List (String × Json) → Bool
  | [] => true
  | (_, schema) :: rest => passesUnder keyword schema && isPlain schema && plainMap keyword rest

def plainList (keyword : String) : List Json → Bool
  | [] => true
  | schema :: rest => passesUnder keyword schema && isPlain schema && plainList keyword rest

end

/-- A schema under a keyword is plain, and passes where the check does not come to it. -/
def PlainUnder (keyword : String) (schema : Json) : Prop :=
  passesUnder keyword schema = true ∧ isPlain schema = true

theorem plain_of_mem_map {keyword : String} {schemas : List (String × Json)}
    (h : plainMap keyword schemas = true) : ∀ s ∈ schemas, PlainUnder keyword s.2 := by
  induction schemas with
  | nil => exact List.forall_mem_nil _
  | cons s rest ih =>
    rw [plainMap, Bool.and_eq_true, Bool.and_eq_true] at h
    exact List.forall_mem_cons.2 ⟨h.1, ih h.2⟩

theorem plain_of_mem_list {keyword : String} {schemas : List Json}
    (h : plainList keyword schemas = true) : ∀ s ∈ schemas, PlainUnder keyword s := by
  induction schemas with
  | nil => exact List.forall_mem_nil _
  | cons s rest ih =>
    rw [plainList, Bool.and_eq_true, Bool.and_eq_true] at h
    exact List.forall_mem_cons.2 ⟨h.1, ih h.2⟩

/-- What a member of a plain schema is, by its keyword. -/
structure PlainMember (keyword : String) (v : Json) : Prop where
  fits : fits keyword v = true
  schema : keyword ∈ Draft.schemaKeywords .draft2020 → PlainUnder keyword v
  map : keyword ∈ Draft.mapKeywords .draft2020 →
    ∃ schemas, v = .object schemas ∧ ∀ s ∈ schemas, PlainUnder keyword s.2
  list : keyword ∈ Draft.listKeywords .draft2020 →
    ∃ schemas, v = .array schemas ∧ schemas ≠ [] ∧ ∀ s ∈ schemas, PlainUnder keyword s

def plainInside (keyword : String) (v : Json) : Bool :=
  if keyword ∈ Draft.schemaKeywords .draft2020 then passesUnder keyword v && isPlain v
  else if keyword ∈ Draft.mapKeywords .draft2020 then
    match v with
    | .object schemas => plainMap keyword schemas
    | _ => false
  else if keyword ∈ Draft.listKeywords .draft2020 then
    match v with
    | .array schemas => !schemas.isEmpty && plainList keyword schemas
    | _ => false
  else true

theorem plainUnder_cons (keyword : String) (v : Json) (rest : List (String × Json)) :
    plainUnder ((keyword, v) :: rest) =
      (fits keyword v && plainInside keyword v && plainUnder rest) := by
  cases v <;> rfl

theorem plainMember {keyword : String} {v : Json} (hfits : fits keyword v = true)
    (hinside : plainInside keyword v = true) : PlainMember keyword v := by
  have hmap : ∀ k ∈ Draft.mapKeywords .draft2020, k ∉ Draft.schemaKeywords .draft2020 := by decide
  have hlist : ∀ k ∈ Draft.listKeywords .draft2020,
      k ∉ Draft.schemaKeywords .draft2020 ∧ k ∉ Draft.mapKeywords .draft2020 := by decide
  unfold plainInside at hinside
  refine ⟨hfits, fun hkeyword => ?_, fun hkeyword => ?_, fun hkeyword => ?_⟩
  · rw [if_pos hkeyword, Bool.and_eq_true] at hinside
    exact hinside
  · rw [if_neg (hmap _ hkeyword), if_pos hkeyword] at hinside
    cases v with
    | object schemas => exact ⟨schemas, rfl, plain_of_mem_map hinside⟩
    | null | bool _ | number _ | string _ | array _ => cases hinside
  · rw [if_neg (hlist _ hkeyword).1, if_neg (hlist _ hkeyword).2, if_pos hkeyword] at hinside
    cases v with
    | array schemas =>
      simp only [Bool.and_eq_true, Bool.not_eq_true', List.isEmpty_eq_false_iff] at hinside
      exact ⟨schemas, rfl, hinside.1, plain_of_mem_list hinside.2⟩
    | null | bool _ | number _ | string _ | object _ => cases hinside

theorem plainMember_of_mem {members : List (String × Json)} (h : plainUnder members = true) :
    ∀ m ∈ members, PlainMember m.1 m.2 := by
  induction members with
  | nil => exact List.forall_mem_nil _
  | cons m rest ih =>
    rw [plainUnder_cons, Bool.and_eq_true, Bool.and_eq_true] at h
    exact List.forall_mem_cons.2 ⟨plainMember h.1.1 h.1.2, ih h.2⟩

/-! ## What the check says -/

def problemsInside (path keyword : String) (v : Json) : List Located :=
  if keyword = "properties" then
    match v with
    | .object properties => problemsOfProperties path properties
    | _ => []
  else if keyword = "items" then
    match v with
    | .array schemas => problemsOfList (path ++ ".items") 0 schemas
    | schema => problemsAt (path ++ ".items") schema
  else if keyword ∈ combinators then
    match v with
    | .array schemas => problemsOfList (path ++ "." ++ keyword) 0 schemas
    | _ => []
  else []

theorem problemsUnder_cons (path keyword : String) (v : Json) (rest : List (String × Json)) :
    problemsUnder path ((keyword, v) :: rest) =
      (keyword, problemsInside path keyword v) :: problemsUnder path rest := by
  have hcombinators : keyword ∈ combinators ↔
      keyword = "anyOf" ∨ keyword = "oneOf" ∨ keyword = "allOf" := by
    rw [combinators, List.mem_cons, List.mem_cons, List.mem_singleton]
  cases v <;> simp only [problemsUnder, problemsInside, hcombinators]

theorem lookup_problemsUnder (path keyword : String) (members : List (String × Json)) :
    (problemsUnder path members).lookup keyword =
      (members.lookup keyword).map (problemsInside path keyword) := by
  induction members with
  | nil => rfl
  | cons m rest ih =>
    obtain ⟨k, v⟩ := m
    rw [problemsUnder_cons, SortedMap.lookup_cons_eq, SortedMap.lookup_cons_eq]
    split
    · next heq =>
      rw [heq]
      rfl
    · exact ih

theorem passes_of_mem_properties {path : String} {properties : List (String × Json)}
    (h : OnlyShapeless (problemsOfProperties path properties)) {p : String × Json}
    (hp : p ∈ properties) : Passes p.2 := by
  induction properties with
  | nil => cases hp
  | cons q rest ih =>
    rw [problemsOfProperties, OnlyShapeless, List.forall_mem_append] at h
    rcases List.mem_cons.1 hp with rfl | hp
    · exact ⟨_, h.1⟩
    · exact ih h.2 hp

theorem passes_of_mem_list {path : String} {index : Nat} {schemas : List Json}
    (h : OnlyShapeless (problemsOfList path index schemas)) {s : Json} (hs : s ∈ schemas) :
    Passes s := by
  induction schemas generalizing index with
  | nil => cases hs
  | cons t rest ih =>
    rw [problemsOfList, OnlyShapeless, List.forall_mem_append] at h
    rcases List.mem_cons.1 hs with rfl | hs
    · exact ⟨_, h.1⟩
    · exact ih h.2 hs

/-- The check asks something of a keyword that is there. What it asks is not about shapes. -/
theorem problems_of_ofKeyword {path keyword : String} {members : List (String × Json)}
    {problems : Json → List Problem}
    (h : OnlyShapeless (located path (ofKeyword members keyword problems))) {v : Json}
    (hv : members.lookup keyword = some v) (hshape : .noShape ∉ problems v) : problems v = [] := by
  rw [ofKeyword, hv] at h
  refine List.eq_nil_iff_forall_not_mem.2 fun p hp => hshape ?_
  have hproblem : p = .noShape := h ⟨path, p⟩ (List.mem_map_of_mem hp)
  rwa [hproblem] at hp

theorem noShape_notMem_typeProblems (v : Json) : .noShape ∉ typeProblems v := by
  intro h
  obtain ⟨_, _, hproblem⟩ := List.mem_map.1 h
  cases hproblem

theorem noShape_notMem_requiredProblems (v : Json) : .noShape ∉ requiredProblems v := by
  unfold requiredProblems
  split
  · exact List.not_mem_nil
  · decide

theorem noShape_notMem_enumProblems (v : Json) : .noShape ∉ enumProblems v := by
  unfold enumProblems
  split
  · exact List.not_mem_nil
  · decide

/-- What it means for the keywords of a schema to pass the check. -/
structure PassingKeywords (path : String) (members : List (String × Json)) : Prop where
  inside : ∀ keyword ∈ "properties" :: "items" :: combinators, ∀ v,
    members.lookup keyword = some v → OnlyShapeless (problemsInside path keyword v)
  type : ∀ v, members.lookup "type" = some v → typeProblems v = []
  required : ∀ v, members.lookup "required" = some v → requiredProblems v = []
  enum : ∀ v, members.lookup "enum" = some v → enumProblems v = []
  limits : ∀ keyword ∈ limitKeywords, ∀ v, members.lookup keyword = some v → v.asWord?.isSome

theorem passingKeywords {path : String} {members : List (String × Json)}
    (h : OnlyShapeless (problemsAt path (.object members))) : PassingKeywords path members := by
  simp only [problemsAt, OnlyShapeless, List.forall_mem_append, lookup_problemsUnder, and_assoc] at h
  obtain ⟨-, htype, -, hunder, hrequired, hitems, -, hanyUnder, -, honeUnder, -, hallUnder, henum,
    hlimits⟩ := h
  have hinside {keyword : String} {v : Json}
      (hpass : OnlyShapeless (((members.lookup keyword).map (problemsInside path keyword)).getD []))
      (hv : members.lookup keyword = some v) : OnlyShapeless (problemsInside path keyword v) := by
    rwa [hv] at hpass
  constructor
  case inside =>
    simp only [combinators, List.forall_mem_cons, List.not_mem_nil, false_implies, implies_true,
      and_true]
    exact ⟨fun _ => hinside hunder, fun _ => hinside hitems, fun _ => hinside hanyUnder,
      fun _ => hinside honeUnder, fun _ => hinside hallUnder⟩
  case type =>
    exact fun v hv => problems_of_ofKeyword htype hv (noShape_notMem_typeProblems v)
  case required =>
    exact fun v hv => problems_of_ofKeyword hrequired hv (noShape_notMem_requiredProblems v)
  case enum =>
    exact fun v hv => problems_of_ofKeyword henum hv (noShape_notMem_enumProblems v)
  case limits =>
    intro keyword hkeyword v hv
    by_cases hword : v.asWord?.isSome
    · exact hword
    · have hlimit : Problem.limitNotCount keyword ∈ limitProblems members := by
        refine List.mem_flatMap.2 ⟨keyword, hkeyword, ?_⟩
        rw [ofKeyword, hv]
        dsimp only
        rw [if_neg hword]
        exact List.mem_singleton_self _
      have hproblem : Problem.limitNotCount keyword = .noShape :=
        hlimits ⟨path, _⟩ (List.mem_map_of_mem hlimit)
      cases hproblem

/-! ## Settled schemas -/

/-- A schema that the check settles: it passes, and nothing that the check passes over matters. -/
structure Settled (schema : Json) : Prop where
  passes : Passes schema
  plain : isPlain schema = true

/-- The values of `type`: the name of a type, or a list of such names, none of them twice. -/
inductive TypeArgument : Json → Prop where
  | name {name : String} (h : name ∈ typeNames) : TypeArgument (.string name)
  | names {names : List Json} (nonempty : names ≠ [])
      (known : ∀ n ∈ names, ∃ name ∈ typeNames, n = .string name)
      (distinct : Json.allDistinct names = true) : TypeArgument (.array names)

inductive NameList : Json → Prop where
  | names {names : List Json} (texts : ∀ n ∈ names, n.isString)
      (distinct : Json.allDistinct names = true) : NameList (.array names)

inductive SettledMap : Json → Prop where
  | schemas {schemas : List (String × Json)} (settled : ∀ s ∈ schemas, Settled s.2) :
      SettledMap (.object schemas)

/-- Settled schemas, at least one. -/
inductive SettledList : Json → Prop where
  | schemas {schemas : List Json} (nonempty : schemas ≠ []) (settled : ∀ s ∈ schemas, Settled s) :
      SettledList (.array schemas)

/-- The integers that a limit can be. -/
inductive Count : Json → Prop where
  | int {i : Int} (h : 0 ≤ i) : Count (.number (.int i))

structure SettledKeywords (members : List (String × Json)) : Prop where
  /-- The keys of an object are distinct, as in every object that was read. -/
  distinct : (members.map (·.1)).Nodup
  fits : ∀ keyword v, members.lookup keyword = some v → fits keyword v = true
  type : ∀ v, members.lookup "type" = some v → TypeArgument v
  required : ∀ v, members.lookup "required" = some v → NameList v
  enum : ∀ v, members.lookup "enum" = some v → v.isArray
  counts : ∀ keyword ∈ limitKeywords ++ countKeywords, ∀ v, members.lookup keyword = some v → Count v
  schemas : ∀ keyword ∈ Draft.schemaKeywords .draft2020, ∀ v, members.lookup keyword = some v →
    Settled v
  maps : ∀ keyword ∈ Draft.mapKeywords .draft2020, ∀ v, members.lookup keyword = some v →
    SettledMap v
  lists : ∀ keyword ∈ Draft.listKeywords .draft2020, ∀ v, members.lookup keyword = some v →
    SettledList v

namespace SettledKeywords

variable {members : List (String × Json)} (h : SettledKeywords members)

include h

theorem lookup_absent {keyword : String} (hkeyword : keyword ∈ absentKeywords) :
    members.lookup keyword = none := by
  cases hv : members.lookup keyword with
  | none => rfl
  | some v =>
    have hfits := h.fits keyword v hv
    rw [not_fits_of_absent hkeyword] at hfits
    cases hfits

theorem typed {keyword : String} {t : TypeName} (hkeyword : (keyword, t) ∈ typedKeywords) {v : Json}
    (hv : members.lookup keyword = some v) : t.admits v = true := by
  rw [← fits_of_typed hkeyword]
  exact h.fits keyword v hv

end SettledKeywords

/-- A settled schema is a truth value or an object. -/
theorem Settled.cases {schema : Json} (h : Settled schema) :
    (∃ b, schema = .bool b) ∨ ∃ members, schema = .object members := by
  obtain ⟨path, hpath⟩ := h.passes
  cases schema with
  | bool b => exact .inl ⟨b, rfl⟩
  | object members => exact .inr ⟨members, rfl⟩
  | null | number _ | string _ | array _ => cases hpath _ (List.mem_singleton_self _)

theorem typeArgument_of_typeProblems {v : Json} (h : typeProblems v = [])
    (hplain : v ≠ .array [] ∧ repeatsNothing v = true) : TypeArgument v := by
  have hknown {n : Json} (hn : n ∈ v.asArray?.getD [v]) : ∃ name ∈ typeNames, n = .string name := by
    rw [typeProblems, List.map_eq_nil_iff, List.filter_eq_nil_iff] at h
    have hname := h n hn
    cases n with
    | string name => exact ⟨name, by simpa [Json.asString?] using hname, rfl⟩
    | null | bool _ | number _ | array _ | object _ => simp [Json.asString?] at hname
  cases v with
  | array names =>
    refine .names (fun hnil => hplain.1 (by rw [hnil])) (fun n hn => hknown hn) hplain.2
  | string name =>
    obtain ⟨other, hother, heq⟩ := hknown (List.mem_singleton_self _)
    obtain rfl := Json.string.inj heq
    exact .name hother
  | null | bool _ | number _ | object _ =>
    obtain ⟨_, _, heq⟩ := hknown (List.mem_singleton_self _)
    cases heq

theorem nameList_of_requiredProblems {v : Json} (h : requiredProblems v = [])
    (hplain : repeatsNothing v = true) : NameList v := by
  rw [requiredProblems] at h
  split at h
  · next hnames =>
    cases v with
    | array names => exact .names (by simpa [Json.asArray?] using hnames) hplain
    | null | bool _ | number _ | string _ | object _ => cases hnames
  · cases h

theorem count_of_asWord? {v : Json} (h : v.asWord?.isSome) : Count v := by
  cases v with
  | number n =>
    cases n with
    | int i =>
      rw [Json.asWord?, Number.asWord?] at h
      split at h
      · next hrange => exact .int hrange.1
      · cases h
    | double d => cases h
  | null | bool _ | string _ | array _ | object _ => cases h

theorem enum_of_enumProblems {v : Json} (h : enumProblems v = []) : v.isArray = true := by
  rw [enumProblems] at h
  by_cases harray : v.isArray = true
  · exact harray
  · rw [if_neg harray] at h
    cases h

/-- The check comes to some of the schemas inside a schema; the others pass it by assumption. -/
theorem settled_of_plainUnder {keyword : String} {schema : Json} (h : PlainUnder keyword schema)
    (hpasses : looksInto keyword = true → Passes schema) : Settled schema := by
  refine ⟨?_, h.2⟩
  cases hlooks : looksInto keyword with
  | true => exact hpasses hlooks
  | false => exact passes_of_passesUnder h.1 hlooks

section Inside

variable {path keyword : String} {v : Json} (hplain : PlainMember keyword v)
  (hinside : looksInto keyword = true → OnlyShapeless (problemsInside path keyword v))

include hplain hinside

theorem settled_of_mem_schemaKeywords (h : keyword ∈ Draft.schemaKeywords .draft2020) :
    Settled v := by
  refine settled_of_plainUnder (hplain.schema h) fun hlooks => ?_
  have hitems : ∀ k ∈ Draft.schemaKeywords .draft2020, looksInto k = true → k = "items" := by decide
  obtain rfl := hitems keyword h hlooks
  have hone : (!v.isArray) = true := hplain.fits
  have hproblems := hinside hlooks
  cases v with
  | array _ => cases hone
  | null | bool _ | number _ | string _ | object _ => exact ⟨path ++ ".items", hproblems⟩

theorem settledMap_of_mem_mapKeywords (h : keyword ∈ Draft.mapKeywords .draft2020) :
    SettledMap v := by
  obtain ⟨schemas, rfl, hschemas⟩ := hplain.map h
  refine .schemas fun s hs => settled_of_plainUnder (hschemas s hs) fun hlooks => ?_
  have hproperties : ∀ k ∈ Draft.mapKeywords .draft2020, looksInto k = true → k = "properties" := by
    decide
  obtain rfl := hproperties keyword h hlooks
  exact passes_of_mem_properties (hinside hlooks) hs

theorem settledList_of_mem_listKeywords (h : keyword ∈ Draft.listKeywords .draft2020) :
    SettledList v := by
  obtain ⟨schemas, rfl, nonempty, hschemas⟩ := hplain.list h
  refine .schemas nonempty fun s hs => settled_of_plainUnder (hschemas s hs) fun hlooks => ?_
  have hcombinator : ∀ k ∈ Draft.listKeywords .draft2020, looksInto k = true →
      k ≠ "properties" ∧ k ≠ "items" ∧ k ∈ combinators := by decide
  obtain ⟨hproperties, hitems, hcombinator⟩ := hcombinator keyword h hlooks
  have hproblems := hinside hlooks
  unfold problemsInside at hproblems
  rw [if_neg hproperties, if_neg hitems, if_pos hcombinator] at hproblems
  exact passes_of_mem_list hproblems hs

end Inside

/-- What the keywords of a settled schema are. -/
theorem Settled.keywords {members : List (String × Json)} (h : Settled (.object members)) :
    SettledKeywords members := by
  obtain ⟨⟨path, hpath⟩, hplain⟩ := h
  rw [isPlain, Bool.and_eq_true, decide_eq_true_eq] at hplain
  obtain ⟨hdistinct, hunder⟩ := hplain
  have hpass := passingKeywords hpath
  have hmember {keyword : String} {v : Json} (hv : members.lookup keyword = some v) :
      PlainMember keyword v := by
    obtain ⟨before, after, heq, -⟩ := List.lookup_eq_some_iff.1 hv
    exact plainMember_of_mem hunder (keyword, v) (by rw [heq]; simp)
  have hinside {keyword : String} {v : Json} (hv : members.lookup keyword = some v)
      (hlooks : looksInto keyword = true) : OnlyShapeless (problemsInside path keyword v) :=
    hpass.inside keyword (of_decide_eq_true hlooks) v hv
  constructor
  case distinct => exact hdistinct
  case fits => exact fun _ _ hv => (hmember hv).fits
  case type =>
    intro v hv
    have hfits : (v != .array [] && repeatsNothing v) = true := (hmember hv).fits
    rw [Bool.and_eq_true, bne_iff_ne] at hfits
    exact typeArgument_of_typeProblems (hpass.type v hv) hfits
  case required =>
    exact fun v hv => nameList_of_requiredProblems (hpass.required v hv) (hmember hv).fits
  case enum => exact fun v hv => enum_of_enumProblems (hpass.enum v hv)
  case counts =>
    intro keyword hkeyword v hv
    rcases List.mem_append.1 hkeyword with hkeyword | hkeyword
    · exact count_of_asWord? (hpass.limits keyword hkeyword v hv)
    · have hfits := (hmember hv).fits
      rw [fits_of_count hkeyword] at hfits
      exact count_of_asWord? hfits
  case schemas =>
    exact fun _ hkeyword _ hv => settled_of_mem_schemaKeywords (hmember hv) (hinside hv) hkeyword
  case maps =>
    exact fun _ hkeyword _ hv => settledMap_of_mem_mapKeywords (hmember hv) (hinside hv) hkeyword
  case lists =>
    exact fun _ hkeyword _ hv => settledList_of_mem_listKeywords (hmember hv) (hinside hv) hkeyword

end StepEngine.Structure
