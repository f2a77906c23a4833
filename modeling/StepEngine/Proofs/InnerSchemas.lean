import Mathlib.Data.List.Count
import Mathlib.Data.List.Nodup
import StepEngine.Proofs.DistinctKeys
import StepEngine.Proofs.PlainSchema

/-!
# All schemas inside a schema

The structural check goes down a schema and leaves a message for each problem it meets. What it comes
to is told here without the check: the schemas inside a schema by the steps to them, and what is wrong
with the keywords of one schema. The messages are those of all inner schemas, no more and no fewer.

* `Structure.Step`, `Structure.Child`, `Structure.Reaches` : from a schema to one right under it, and
  on to those at any depth;
* `Structure.children`, `Structure.places` : the same schemas, listed (`mem_children_iff`,
  `mem_places_iff`), each once (`nodup_places`);
* `Structure.Wrong` : what is wrong with the keywords of a schema;
* `Structure.ownProblems` : the same, listed (`mem_ownProblems_iff`, `count_ownProblems`);
* `Structure.problemsAt_perm` : the check finds the problems of a schema and those that it finds in the
  schemas right under it; `problemsAt_perm_places` : so it finds those of all inner schemas;
* `Structure.problems_eq_nil_iff` : when it finds none;
* `Structure.check_covers_inner_schemas` : all of it.
-/

namespace StepEngine.Structure

/-! ## From a schema to the schemas inside it -/

inductive Step where
  | property (name : String)
  | items
  | item (index : Nat)
  | branch (combinator : String) (index : Nat)
  deriving DecidableEq

/-- A step as a piece of a path. -/
def Step.text : Step → String
  | property name => ".properties." ++ name
  | items => ".items"
  | item index => ".items[" ++ toString index ++ "]"
  | branch combinator index => "." ++ combinator ++ "[" ++ toString index ++ "]"

/-- The path of the schema at the end of some steps. -/
def pathAfter (path : String) (steps : List Step) : String :=
  steps.foldl (fun path step => path ++ step.text) path

/-- A schema stands right under another. -/
inductive Child : Json → Step → Json → Prop where
  | property {s t : Json} {properties : List (String × Json)} {name : String}
    (keyword : s.get? "properties" = some (.object properties)) (mem : (name, t) ∈ properties) :
    Child s (.property name) t
  | items {s t : Json} (keyword : s.get? "items" = some t) (single : ∀ schemas, t ≠ .array schemas) :
    Child s .items t
  | item {s t : Json} {schemas : List Json} {index : Nat}
    (keyword : s.get? "items" = some (.array schemas)) (at_index : schemas[index]? = some t) :
    Child s (.item index) t
  | branch {s t : Json} {schemas : List Json} {combinator : String} {index : Nat}
    (known : combinator ∈ combinators) (keyword : s.get? combinator = some (.array schemas))
    (at_index : schemas[index]? = some t) : Child s (.branch combinator index) t

/-- A schema stands inside another, at the end of some steps. -/
inductive Reaches : Json → List Step → Json → Prop where
  | here (s : Json) : Reaches s [] s
  | under {s t u : Json} {step : Step} {steps : List Step} (child : Child s step t)
    (inside : Reaches t steps u) : Reaches s (step :: steps) u

def numbered (step : Nat → Step) (schemas : List Json) : List (Step × Json) :=
  schemas.zipIdx.map fun s => (step s.2, s.1)

def childrenUnder (keyword : String) (v : Json) : List (Step × Json) :=
  if keyword = "properties" then
    (v.asObject?.getD []).map fun p => (.property p.1, p.2)
  else if keyword = "items" then
    match v.asArray? with
    | some schemas => numbered .item schemas
    | none => [(.items, v)]
  else numbered (.branch keyword) (v.asArray?.getD [])

def innerKeywords : List String := "properties" :: "items" :: combinators

def children (s : Json) : List (Step × Json) :=
  innerKeywords.flatMap fun keyword => ((s.get? keyword).map (childrenUnder keyword)).getD []

theorem mem_numbered {step : Nat → Step} {schemas : List Json} {c : Step × Json} :
    c ∈ numbered step schemas ↔ ∃ index, schemas[index]? = some c.2 ∧ c.1 = step index := by
  obtain ⟨s, t⟩ := c
  rw [numbered, List.mem_map]
  constructor
  · rintro ⟨⟨u, index⟩, hmem, heq⟩
    obtain ⟨rfl, rfl⟩ := Prod.mk.inj heq
    exact ⟨index, List.mk_mem_zipIdx_iff_getElem?.1 hmem, rfl⟩
  · rintro ⟨index, hindex, rfl⟩
    exact ⟨(t, index), List.mk_mem_zipIdx_iff_getElem?.2 hindex, rfl⟩

theorem mem_innerKeywords_iff {keyword : String} : keyword ∈ innerKeywords ↔
    keyword = "properties" ∨ keyword = "items" ∨ keyword ∈ combinators := by
  rw [innerKeywords, List.mem_cons, List.mem_cons]

theorem ne_of_mem_combinators {keyword : String} (h : keyword ∈ combinators) :
    keyword ≠ "properties" ∧ keyword ≠ "items" := by
  have hne : ∀ k ∈ combinators, k ≠ "properties" ∧ k ≠ "items" := by decide
  exact hne keyword h

theorem childrenUnder_combinator {keyword : String} (h : keyword ∈ combinators) (v : Json) :
    childrenUnder keyword v = numbered (.branch keyword) (v.asArray?.getD []) := by
  obtain ⟨hproperties, hitems⟩ := ne_of_mem_combinators h
  rw [childrenUnder, if_neg hproperties, if_neg hitems]

theorem child_of_mem_childrenUnder {s v t : Json} {keyword : String} {step : Step}
    (hkeyword : keyword ∈ innerKeywords) (hv : s.get? keyword = some v)
    (h : (step, t) ∈ childrenUnder keyword v) : Child s step t := by
  rcases mem_innerKeywords_iff.1 hkeyword with rfl | rfl | hkeyword
  · obtain ⟨p, hp, heq⟩ := List.mem_map.1 h
    obtain ⟨rfl, rfl⟩ := Prod.mk.inj heq
    cases v with
    | object properties => exact .property hv hp
    | null | bool _ | number _ | string _ | array _ => cases hp
  · cases v with
    | array schemas =>
      obtain ⟨index, hindex, rfl⟩ := mem_numbered.1 h
      exact .item hv hindex
    | null | bool _ | number _ | string _ | object _ =>
      obtain ⟨rfl, rfl⟩ := Prod.mk.inj (List.mem_singleton.1 h)
      exact .items hv nofun
  · rw [childrenUnder_combinator hkeyword] at h
    obtain ⟨index, hindex, rfl⟩ := mem_numbered.1 h
    cases v with
    | array schemas => exact .branch hkeyword hv hindex
    | null | bool _ | number _ | string _ | object _ => cases hindex

theorem mem_childrenOf_iff {s : Json} {keyword : String} {c : Step × Json} :
    c ∈ ((s.get? keyword).map (childrenUnder keyword)).getD [] ↔
      ∃ v, s.get? keyword = some v ∧ c ∈ childrenUnder keyword v := by
  cases s.get? keyword <;> simp

theorem mem_children_of_keyword {s v : Json} {keyword : String} {c : Step × Json}
    (hkeyword : keyword ∈ innerKeywords) (hv : s.get? keyword = some v)
    (h : c ∈ childrenUnder keyword v) : c ∈ children s :=
  List.mem_flatMap.2 ⟨keyword, hkeyword, mem_childrenOf_iff.2 ⟨v, hv, h⟩⟩

theorem mem_children_iff {s t : Json} {step : Step} :
    (step, t) ∈ children s ↔ Child s step t := by
  constructor
  · intro h
    obtain ⟨keyword, hkeyword, hmem⟩ := List.mem_flatMap.1 h
    obtain ⟨v, hv, hunder⟩ := mem_childrenOf_iff.1 hmem
    exact child_of_mem_childrenUnder hkeyword hv hunder
  · intro h
    cases h with
    | property hv hmem =>
      exact mem_children_of_keyword (by decide) hv (List.mem_map.2 ⟨_, hmem, rfl⟩)
    | items hv hsingle =>
      refine mem_children_of_keyword (by decide) hv ?_
      cases t with
      | array schemas => exact absurd rfl (hsingle schemas)
      | null | bool _ | number _ | string _ | object _ => exact List.mem_singleton_self _
    | item hv hindex =>
      exact mem_children_of_keyword (by decide) hv (mem_numbered.2 ⟨_, hindex, rfl⟩)
    | branch hknown hv hindex =>
      refine mem_children_of_keyword (mem_innerKeywords_iff.2 (.inr (.inr hknown))) hv ?_
      rw [childrenUnder_combinator hknown]
      exact mem_numbered.2 ⟨_, hindex, rfl⟩

theorem sizeOf_lt_of_get? {s v : Json} {keyword : String} (h : s.get? keyword = some v) :
    sizeOf v < sizeOf s := by
  cases s with
  | object members =>
    have hmem := List.sizeOf_lt_of_mem (Json.mem_of_lookup h)
    simp only [Prod.mk.sizeOf_spec, Json.object.sizeOf_spec] at hmem ⊢
    omega
  | null | bool _ | number _ | string _ | array _ => cases h

theorem Child.sizeOf_lt {s t : Json} {step : Step} (h : Child s step t) : sizeOf t < sizeOf s := by
  cases h with
  | property hv hmem =>
    have hproperties := sizeOf_lt_of_get? hv
    have hproperty := List.sizeOf_lt_of_mem hmem
    simp only [Prod.mk.sizeOf_spec, Json.object.sizeOf_spec] at hproperties hproperty
    omega
  | items hv => exact sizeOf_lt_of_get? hv
  | item hv hindex | branch _ hv hindex =>
    have hschemas := sizeOf_lt_of_get? hv
    have hschema := List.sizeOf_lt_of_mem (List.mem_of_getElem? hindex)
    simp only [Json.array.sizeOf_spec] at hschemas
    omega

/-- A schema and all schemas inside it, with the steps to them. -/
def places (s : Json) : List (List Step × Json) :=
  ([], s) :: (children s).attach.flatMap fun c =>
    (places c.1.2).map fun place => (c.1.1 :: place.1, place.2)
termination_by sizeOf s
decreasing_by exact (mem_children_iff.1 c.2).sizeOf_lt

theorem places_eq (s : Json) :
    places s = ([], s) :: (children s).flatMap fun c =>
      (places c.2).map fun place => (c.1 :: place.1, place.2) := by
  rw [places, List.flatMap_subtype]
  · rw [List.unattach_attach]
  · exact fun _ _ => rfl

/-- To prove something of all schemas, the schemas right under a schema can be taken for settled. -/
theorem childInduction {motive : Json → Prop}
    (h : ∀ s, (∀ c ∈ children s, motive c.2) → motive s) (s : Json) : motive s := by
  induction s using places.induct with
  | case1 s ih => exact h s fun c hc => ih ⟨c, hc⟩

theorem mem_places_iff {s t : Json} {steps : List Step} :
    (steps, t) ∈ places s ↔ Reaches s steps t := by
  induction s using childInduction generalizing steps t with
  | h s ih =>
    rw [places_eq, List.mem_cons, List.mem_flatMap]
    constructor
    · rintro (heq | ⟨⟨step, u⟩, hchild, hmem⟩)
      · obtain ⟨rfl, rfl⟩ := Prod.mk.inj heq
        exact .here _
      · obtain ⟨⟨rest, v⟩, hplace, heq⟩ := List.mem_map.1 hmem
        obtain ⟨rfl, rfl⟩ := Prod.mk.inj heq
        exact .under (mem_children_iff.1 hchild) ((ih _ hchild).1 hplace)
    · intro h
      cases h with
      | here => exact .inl rfl
      | under hchild hinside =>
        have hmem := mem_children_iff.2 hchild
        exact .inr ⟨_, hmem, List.mem_map.2 ⟨_, (ih _ hmem).2 hinside, rfl⟩⟩

/-! ## Each place once -/

theorem nodup_numbered {step : Nat → Step} (hstep : ∀ m n, step m = step n → m = n)
    (schemas : List Json) : ((numbered step schemas).map (·.1)).Nodup := by
  have hmap : (numbered step schemas).map (·.1) = (schemas.zipIdx.map Prod.snd).map step := by
    rw [numbered, List.map_map, List.map_map]
    rfl
  rw [hmap, List.zipIdx_map_snd]
  exact List.Nodup.map (fun m n => hstep m n) List.nodup_range'

def Step.keyword : Step → String
  | property _ => "properties"
  | items | item _ => "items"
  | branch combinator _ => combinator

theorem keyword_of_mem_childrenUnder {keyword : String} (hkeyword : keyword ∈ innerKeywords)
    {v : Json} {c : Step × Json} (h : c ∈ childrenUnder keyword v) : c.1.keyword = keyword := by
  rcases mem_innerKeywords_iff.1 hkeyword with rfl | rfl | hkeyword
  · obtain ⟨p, hp, rfl⟩ := List.mem_map.1 h
    rfl
  · cases v with
    | array schemas =>
      obtain ⟨index, -, hstep⟩ := mem_numbered.1 h
      rw [hstep]
      rfl
    | null | bool _ | number _ | string _ | object _ =>
      rw [List.mem_singleton.1 h]
      rfl
  · rw [childrenUnder_combinator hkeyword] at h
    obtain ⟨index, -, hstep⟩ := mem_numbered.1 h
    rw [hstep]
    rfl

theorem nodup_childrenUnder {keyword : String} (hkeyword : keyword ∈ innerKeywords) {v : Json}
    (hv : v.DistinctKeys) : ((childrenUnder keyword v).map (·.1)).Nodup := by
  rcases mem_innerKeywords_iff.1 hkeyword with rfl | rfl | hkeyword
  · cases v with
    | object properties =>
      have hmap : (childrenUnder "properties" (.object properties)).map (·.1) =
          (properties.map (·.1)).map Step.property := by
        rw [childrenUnder, if_pos rfl, List.map_map, List.map_map]
        rfl
      rw [hmap]
      exact List.Nodup.map (fun _ _ => Step.property.inj) hv.nodup_keys
    | null | bool _ | number _ | string _ | array _ => exact List.nodup_nil
  · cases v with
    | array schemas => exact nodup_numbered (fun _ _ => Step.item.inj) schemas
    | null | bool _ | number _ | string _ | object _ => exact List.nodup_singleton _
  · rw [childrenUnder_combinator hkeyword]
    exact nodup_numbered (fun _ _ heq => (Step.branch.inj heq).2) _

theorem nodup_children {s : Json} (h : s.DistinctKeys) : ((children s).map (·.1)).Nodup := by
  rw [children, List.map_flatMap, List.nodup_flatMap]
  constructor
  · intro keyword hkeyword
    cases hv : s.get? keyword with
    | none => exact List.nodup_nil
    | some v => exact nodup_childrenUnder hkeyword (h.of_get? hv)
  · -- a step tells the keyword that it goes under
    have hkeywords : innerKeywords.Nodup := by decide
    refine hkeywords.imp_of_mem fun {k l} hk hl hne => ?_
    intro step hstep hstep'
    have hsame {keyword : String} (hkeyword : keyword ∈ innerKeywords)
        (hmem : step ∈ (((s.get? keyword).map (childrenUnder keyword)).getD []).map (·.1)) :
        step.keyword = keyword := by
      obtain ⟨c, hc, rfl⟩ := List.mem_map.1 hmem
      obtain ⟨v, -, hunder⟩ := mem_childrenOf_iff.1 hc
      exact keyword_of_mem_childrenUnder hkeyword hunder
    exact hne ((hsame hk hstep).symm.trans (hsame hl hstep'))

theorem Child.distinctKeys {s t : Json} {step : Step} (h : Child s step t) (hs : s.DistinctKeys) :
    t.DistinctKeys := by
  cases h with
  | property hv hmem => exact (hs.of_get? hv).of_mem_object hmem
  | items hv => exact hs.of_get? hv
  | item hv hindex | branch _ hv hindex =>
    exact (hs.of_get? hv).of_mem_array (List.mem_of_getElem? hindex)

theorem nodup_places {s : Json} (h : s.DistinctKeys) : ((places s).map (·.1)).Nodup := by
  induction s using childInduction with
  | h s ih =>
    have hsteps : (places s).map (·.1) =
        [] :: (children s).flatMap fun c => ((places c.2).map (·.1)).map (c.1 :: ·) := by
      rw [places_eq, List.map_cons, List.map_flatMap]
      simp only [List.map_map]
      rfl
    rw [hsteps, List.nodup_cons, List.mem_flatMap, List.nodup_flatMap]
    refine ⟨?_, ?_, ?_⟩
    · rintro ⟨c, -, hmem⟩
      obtain ⟨_, -, heq⟩ := List.mem_map.1 hmem
      cases heq
    · intro c hc
      have hchild := (mem_children_iff.1 hc).distinctKeys h
      exact List.Nodup.map (fun _ _ heq => (List.cons.inj heq).2) (ih c hc hchild)
    · refine (List.pairwise_map.1 (nodup_children h)).imp fun {c d} hne => ?_
      intro steps hc hd
      obtain ⟨_, -, rfl⟩ := List.mem_map.1 hc
      obtain ⟨_, -, heq⟩ := List.mem_map.1 hd
      exact hne (List.cons.inj heq).1.symm

/-! ## What is wrong with the keywords of one schema -/

/-- What stands under `type`: names of types, or one name. -/
def typeEntries (s : Json) : List Json :=
  match s.get? "type" with
  | some (.array entries) => entries
  | some entry => [entry]
  | none => []

def NoTypeName (found : Json) : Prop :=
  ∀ name ∈ ["array", "boolean", "integer", "null", "number", "object", "string"],
    found ≠ .string name

/-- What is wrong with the keywords of a schema. -/
inductive Wrong : Json → Problem → Prop where
  | notObject {s : Json} (not_bool : ∀ b, s ≠ .bool b) (not_object : ∀ members, s ≠ .object members) :
    Wrong s .notObject
  | noShape {members : List (String × Json)}
    (absent : ∀ k ∈ ["$ref", "allOf", "anyOf", "const", "enum", "oneOf", "type"],
      members.lookup k = none) : Wrong (.object members) .noShape
  | unknownType {s found : Json} (entry : found ∈ typeEntries s) (unknown : NoTypeName found) :
    Wrong s (.unknownType found)
  | propertiesNotObject {s v : Json} (keyword : s.get? "properties" = some v)
    (not_object : ∀ properties, v ≠ .object properties) : Wrong s .propertiesNotObject
  | requiredNotNames {s v : Json} (keyword : s.get? "required" = some v)
    (not_names : ∀ names : List String, v ≠ .array (names.map .string)) : Wrong s .requiredNotNames
  | combinatorNotList {s v : Json} {combinator : String} (known : combinator ∈ combinators)
    (keyword : s.get? combinator = some v) (not_list : ∀ first rest, v ≠ .array (first :: rest)) :
    Wrong s (.combinatorNotList combinator)
  | enumNotList {s v : Json} (keyword : s.get? "enum" = some v)
    (not_list : ∀ values, v ≠ .array values) : Wrong s .enumNotList
  | limitNotCount {s v : Json} {limit : String}
    (known : limit ∈ ["maxItems", "maxLength", "minItems", "minLength"]) (keyword : s.get? limit = some v) (not_count : ∀ n < UInt64.size, v ≠ .ofNat n) :
    Wrong s (.limitNotCount limit)

/-- The problems of the keywords of an object, those of `type` apart. -/
def untypedProblems (members : List (String × Json)) : List Problem :=
  shapeProblems members ++
    ofKeyword members "properties" propertiesProblems ++
    ofKeyword members "required" requiredProblems ++
    (combinators.flatMap fun k => ofKeyword members k (combinatorProblems k)) ++
    ofKeyword members "enum" enumProblems ++
    limitProblems members

def ownProblems : Json → List Problem
  | .bool _ => []
  | .object members => ofKeyword members "type" typeProblems ++ untypedProblems members
  | _ => [.notObject]

theorem mem_ofKeyword {members : List (String × Json)} {keyword : String}
    {problems : Json → List Problem} {p : Problem} :
    p ∈ ofKeyword members keyword problems ↔
      ∃ v, members.lookup keyword = some v ∧ p ∈ problems v := by
  rw [ofKeyword]
  cases members.lookup keyword <;> simp

theorem mem_shapeProblems {members : List (String × Json)} {p : Problem} :
    p ∈ shapeProblems members ↔ p = .noShape ∧
      ∀ k ∈ ["$ref", "allOf", "anyOf", "const", "enum", "oneOf", "type"],
        members.lookup k = none := by
  have hkeywords : shapeKeywords.Perm ["$ref", "allOf", "anyOf", "const", "enum", "oneOf", "type"] := by
    decide
  simp only [← hkeywords.mem_iff]
  rw [shapeProblems]
  split
  · next h =>
    obtain ⟨k, hk, hsome⟩ := List.any_eq_true.1 h
    simp only [List.not_mem_nil, false_iff, not_and, not_forall]
    exact fun _ => ⟨k, hk, Option.isSome_iff_ne_none.1 hsome⟩
  · next h =>
    rw [Bool.not_eq_true, List.any_eq_false] at h
    rw [List.mem_singleton]
    exact (and_iff_left fun k hk => Option.not_isSome_iff_eq_none.1 (h k hk)).symm

/-- A problem of the value of a keyword that depends on one question only. -/
theorem mem_unless {p problem : Problem} {b : Bool} :
    (p ∈ if b then [] else [problem]) ↔ p = problem ∧ b = false := by
  cases b <;> simp

theorem not_isTypeName_iff {found : Json} :
    (!(found.asString?.any typeNames.contains)) = true ↔ NoTypeName found := by
  have hnames : typeNames.Perm
      ["array", "boolean", "integer", "null", "number", "object", "string"] := by decide
  simp only [NoTypeName, ← hnames.mem_iff]
  cases found with
  | string text =>
    rw [Bool.not_eq_true', ← Bool.not_eq_true]
    show ¬ typeNames.contains text = true ↔ _
    rw [List.contains_iff_mem]
    constructor
    · rintro h name hname heq
      exact h (Json.string.inj heq ▸ hname)
    · exact fun h hmem => h text hmem rfl
  | null | bool _ | number _ | array _ | object _ =>
    exact iff_of_true rfl fun _ _ heq => by cases heq

theorem mem_typeProblems {v : Json} {p : Problem} :
    p ∈ typeProblems v ↔ ∃ found ∈ v.asArray?.getD [v],
      NoTypeName found ∧ p = .unknownType found := by
  simp only [typeProblems, List.mem_map, List.mem_filter, not_isTypeName_iff]
  constructor
  · rintro ⟨found, ⟨hfound, hname⟩, rfl⟩
    exact ⟨found, hfound, hname, rfl⟩
  · rintro ⟨found, hfound, hname, rfl⟩
    exact ⟨found, ⟨hfound, hname⟩, rfl⟩

theorem mem_propertiesProblems {v : Json} {p : Problem} :
    p ∈ propertiesProblems v ↔ p = .propertiesNotObject ∧ ∀ properties, v ≠ .object properties := by
  rw [propertiesProblems, mem_unless]
  cases v <;> simp [Json.asObject?]

theorem mem_requiredProblems {v : Json} {p : Problem} :
    p ∈ requiredProblems v ↔
      p = .requiredNotNames ∧ ∀ names : List String, v ≠ .array (names.map .string) := by
  have hnames (items : List Json) : items.all Json.isString = true ↔
      ∃ names : List String, items = names.map .string := by
    induction items with
    | nil => simp
    | cons item items ih =>
      rw [List.all_cons, Bool.and_eq_true, ih]
      constructor
      · rintro ⟨hitem, names, rfl⟩
        cases item with
        | string name => exact ⟨name :: names, rfl⟩
        | null | bool _ | number _ | array _ | object _ => cases hitem
      · rintro ⟨names, heq⟩
        cases names with
        | nil => cases heq
        | cons name names =>
          obtain ⟨rfl, rfl⟩ := List.cons.inj heq
          exact ⟨rfl, names, rfl⟩
  rw [requiredProblems, mem_unless]
  refine and_congr_right fun _ => ?_
  cases v with
  | array items =>
    show items.all Json.isString = false ↔ _
    rw [← Bool.not_eq_true, hnames, not_exists]
    exact forall_congr' fun names => not_congr ⟨congrArg _, Json.array.inj⟩
  | null | bool _ | number _ | string _ | object _ =>
    exact iff_of_true rfl fun _ heq => by cases heq

theorem mem_combinatorProblems {k : String} {v : Json} {p : Problem} :
    p ∈ combinatorProblems k v ↔
      p = .combinatorNotList k ∧ ∀ first rest, v ≠ .array (first :: rest) := by
  rw [combinatorProblems, mem_unless]
  cases v with
  | array items => cases items <;> simp [Json.asArray?]
  | null | bool _ | number _ | string _ | object _ => simp [Json.asArray?]

theorem mem_enumProblems {v : Json} {p : Problem} :
    p ∈ enumProblems v ↔ p = .enumNotList ∧ ∀ values, v ≠ .array values := by
  rw [enumProblems, mem_unless]
  cases v <;> simp [Json.isArray, Json.asArray?]

theorem mem_limitProblems {members : List (String × Json)} {p : Problem} :
    p ∈ limitProblems members ↔ ∃ limit ∈ ["maxItems", "maxLength", "minItems", "minLength"],
      ∃ v, members.lookup limit = some v ∧ p = .limitNotCount limit ∧
        ∀ n < UInt64.size, v ≠ .ofNat n := by
  have hkeywords : limitKeywords.Perm ["maxItems", "maxLength", "minItems", "minLength"] := by
    decide
  simp only [← hkeywords.mem_iff]
  have hcount (v : Json) : v.asWord?.isSome = false ↔ ∀ n < UInt64.size, v ≠ .ofNat n := by
    cases v with
    | number n =>
      cases n with
      | int i =>
        have hpow : Int.pow 2 64 = UInt64.size := rfl
        have hword : (Json.number (.int i)).asWord?.isSome = false ↔
            ¬ (0 ≤ i ∧ i < UInt64.size) := by
          rw [Json.asWord?, Number.asWord?, hpow]
          split <;> simp_all
        have hnat (n : Nat) : Json.number (.int i) = .ofNat n ↔ i = n := by
          rw [Json.ofNat, Json.number.injEq, Number.int.injEq]
        simp only [hword, ne_eq, hnat]
        constructor
        · intro h n hn heq
          exact h (by omega)
        · rintro h ⟨hpos, hlt⟩
          exact h i.toNat (by omega) (by omega)
      | double d => exact iff_of_true rfl fun _ _ heq => by cases heq
    | null | bool _ | string _ | array _ | object _ =>
      exact iff_of_true rfl fun _ _ heq => by cases heq
  simp only [limitProblems, List.mem_flatMap, mem_ofKeyword, mem_unless, hcount]

theorem typeEntries_eq (s : Json) :
    typeEntries s = ((s.get? "type").map fun v => v.asArray?.getD [v]).getD [] := by
  rw [typeEntries]
  cases s.get? "type" with
  | none => rfl
  | some v => cases v <;> rfl

theorem mem_typeEntries {s found : Json} :
    found ∈ typeEntries s ↔ ∃ v, s.get? "type" = some v ∧ found ∈ v.asArray?.getD [v] := by
  rw [typeEntries_eq]
  cases s.get? "type" <;> simp

/-- In a schema without keywords only the schema itself can be wrong. -/
theorem Wrong.not_bool_of_no_keywords {s : Json} {p : Problem} (h : Wrong s p)
    (hkeywords : ∀ k, s.get? k = none) (hobject : ∀ members, s ≠ .object members) :
    p = .notObject ∧ ∀ b, s ≠ .bool b := by
  have absent {q : Prop} {k : String} {v : Json} (hv : s.get? k = some v) : q := by
    rw [hkeywords k] at hv
    cases hv
  cases h with
  | notObject hbool _ => exact ⟨rfl, hbool⟩
  | noShape _ => exact absurd rfl (hobject _)
  | unknownType hentry _ =>
    obtain ⟨v, hv, -⟩ := mem_typeEntries.1 hentry
    exact absent hv
  | propertiesNotObject hv _ | requiredNotNames hv _ | combinatorNotList _ hv _ | enumNotList hv _
  | limitNotCount _ hv _ => exact absent hv

theorem mem_ownProblems_iff {s : Json} {p : Problem} : p ∈ ownProblems s ↔ Wrong s p := by
  cases s with
  | bool b =>
    refine iff_of_false List.not_mem_nil fun h => ?_
    exact (h.not_bool_of_no_keywords (fun _ => rfl) nofun).2 b rfl
  | null | number _ | string _ | array _ =>
    show p ∈ [Problem.notObject] ↔ _
    rw [List.mem_singleton]
    constructor
    · rintro rfl
      exact .notObject nofun nofun
    · exact fun h => (h.not_bool_of_no_keywords (fun _ => rfl) nofun).1
  | object members =>
    simp only [ownProblems, untypedProblems, List.mem_append, List.mem_flatMap, mem_ofKeyword,
      mem_typeProblems, mem_shapeProblems, mem_propertiesProblems, mem_requiredProblems,
      mem_combinatorProblems, mem_enumProblems, mem_limitProblems]
    constructor
    · rintro (⟨v, hv, found, hfound, hunknown, rfl⟩ | ((((⟨rfl, habsent⟩ | ⟨v, hv, rfl, h⟩) |
        ⟨v, hv, rfl, h⟩) | ⟨k, hk, v, hv, rfl, h⟩) | ⟨v, hv, rfl, h⟩) | ⟨k, hk, v, hv, rfl, h⟩)
      · exact .unknownType (mem_typeEntries.2 ⟨v, hv, hfound⟩) hunknown
      · exact .noShape habsent
      · exact .propertiesNotObject hv h
      · exact .requiredNotNames hv h
      · exact .combinatorNotList hk hv h
      · exact .enumNotList hv h
      · exact .limitNotCount hk hv h
    · intro h
      cases h with
      | notObject _ hobject => exact absurd rfl (hobject members)
      | unknownType hentry hunknown =>
        obtain ⟨v, hv, hfound⟩ := mem_typeEntries.1 hentry
        exact .inl ⟨v, hv, _, hfound, hunknown, rfl⟩
      | noShape habsent => exact .inr (.inl (.inl (.inl (.inl (.inl ⟨rfl, habsent⟩)))))
      | propertiesNotObject hv h => exact .inr (.inl (.inl (.inl (.inl (.inr ⟨_, hv, rfl, h⟩)))))
      | requiredNotNames hv h => exact .inr (.inl (.inl (.inl (.inr ⟨_, hv, rfl, h⟩))))
      | combinatorNotList hk hv h => exact .inr (.inl (.inl (.inr ⟨_, hk, _, hv, rfl, h⟩)))
      | enumNotList hv h => exact .inr (.inl (.inr ⟨_, hv, rfl, h⟩))
      | limitNotCount hk hv h => exact .inr (.inr ⟨_, hk, _, hv, rfl, h⟩)

/-! ## How often a problem is listed -/

/-- All problems that keywords other than `type` can have. -/
def untypedKinds : List Problem :=
  [.noShape, .propertiesNotObject, .requiredNotNames] ++ combinators.map .combinatorNotList ++
    [.enumNotList] ++ limitKeywords.map .limitNotCount

theorem unless_sublist (b : Bool) (problem : Problem) :
    (if b then [] else [problem]).Sublist [problem] := by
  cases b with
  | true => exact List.nil_sublist _
  | false => exact List.Sublist.refl _

theorem ofKeyword_sublist {members : List (String × Json)} {keyword : String}
    {problems : Json → List Problem} {kinds : List Problem}
    (h : ∀ v, (problems v).Sublist kinds) : (ofKeyword members keyword problems).Sublist kinds := by
  rw [ofKeyword]
  cases members.lookup keyword with
  | none => exact List.nil_sublist _
  | some v => exact h v

theorem flatMap_sublist_map {f : String → List Problem} {g : String → Problem}
    (h : ∀ k, (f k).Sublist [g k]) (keywords : List String) :
    (keywords.flatMap f).Sublist (keywords.map g) := by
  induction keywords with
  | nil => exact List.Sublist.refl _
  | cons k rest ih =>
    rw [List.flatMap_cons, List.map_cons, ← List.singleton_append]
    exact (h k).append ih

theorem untypedProblems_sublist (members : List (String × Json)) :
    (untypedProblems members).Sublist untypedKinds := by
  have hshape : (shapeProblems members).Sublist [.noShape] := by
    unfold shapeProblems
    split
    · exact List.nil_sublist _
    · exact List.Sublist.refl _
  have hlimits : (limitProblems members).Sublist (limitKeywords.map .limitNotCount) := by
    refine flatMap_sublist_map (fun k => ?_) limitKeywords
    exact ofKeyword_sublist fun v => unless_sublist _ _
  have hcombinators : (combinators.flatMap fun k =>
      ofKeyword members k (combinatorProblems k)).Sublist (combinators.map .combinatorNotList) := by
    refine flatMap_sublist_map (fun k => ?_) combinators
    exact ofKeyword_sublist fun v => unless_sublist _ _
  have hproperties : (ofKeyword members "properties" propertiesProblems).Sublist
      [.propertiesNotObject] := ofKeyword_sublist fun v => unless_sublist _ _
  have hrequired : (ofKeyword members "required" requiredProblems).Sublist [.requiredNotNames] :=
    ofKeyword_sublist fun v => unless_sublist _ _
  have henum : (ofKeyword members "enum" enumProblems).Sublist [.enumNotList] :=
    ofKeyword_sublist fun v => unless_sublist _ _
  exact ((((hshape.append hproperties).append hrequired).append hcombinators).append henum).append
    hlimits

/-- The problems of the keywords of a schema: each that there is, and each once, but for names of
types, which count as often as they stand there. -/
structure Owns (s : Json) (problems : List Problem) : Prop where
  mem_iff : ∀ p, p ∈ problems ↔ Wrong s p
  once : ∀ p, (∀ found, p ≠ .unknownType found) → problems.count p ≤ 1
  entries : ∀ found, NoTypeName found →
    problems.count (.unknownType found) = (typeEntries s).count found

theorem count_typeProblems {v found : Json} (h : NoTypeName found) :
    (typeProblems v).count (.unknownType found) = (v.asArray?.getD [v]).count found := by
  have hinj : Function.Injective Problem.unknownType := fun _ _ => Problem.unknownType.inj
  rw [typeProblems, List.count_map_of_injective _ _ hinj, List.count_filter]
  exact not_isTypeName_iff.2 h

theorem owns_ownProblems (s : Json) : Owns s (ownProblems s) where
  mem_iff p := mem_ownProblems_iff
  once p hp := by
    cases s with
    | bool b => exact Nat.zero_le _
    | null | number _ | string _ | array _ => exact Nat.le_trans List.count_le_length (Nat.le_refl 1)
    | object members =>
      have htyped : (ofKeyword members "type" typeProblems).count p = 0 := by
        refine List.count_eq_zero.2 fun hmem => ?_
        obtain ⟨v, -, hproblem⟩ := mem_ofKeyword.1 hmem
        obtain ⟨found, -, -, heq⟩ := mem_typeProblems.1 hproblem
        exact hp found heq
      have hkinds : untypedKinds.Nodup := by decide
      rw [ownProblems, List.count_append, htyped, Nat.zero_add]
      exact List.nodup_iff_count_le_one.1 ((untypedProblems_sublist members).nodup hkinds) p
  entries found hfound := by
    cases s with
    | bool b => rfl
    | null | number _ | string _ | array _ => rfl
    | object members =>
      have hkinds : .unknownType found ∉ untypedKinds := by simp [untypedKinds]
      have huntyped : (untypedProblems members).count (.unknownType found) = 0 :=
        List.count_eq_zero.2 fun hmem => hkinds ((untypedProblems_sublist members).subset hmem)
      rw [ownProblems, List.count_append, huntyped, Nat.add_zero, ofKeyword, typeEntries_eq]
      show _ = (((members.lookup "type").map _).getD []).count found
      cases members.lookup "type" with
      | none => rfl
      | some v => exact count_typeProblems hfound

/-! ## The check -/

theorem problemsOfProperties_eq (path : String) (properties : List (String × Json)) :
    problemsOfProperties path properties =
      properties.flatMap fun p => problemsAt (path ++ ".properties." ++ p.1) p.2 := by
  induction properties with
  | nil => rfl
  | cons p rest ih => rw [problemsOfProperties, ih, List.flatMap_cons]

theorem problemsOfList_eq (path : String) (index : Nat) (schemas : List Json) :
    problemsOfList path index schemas =
      (schemas.zipIdx index).flatMap fun s => problemsAt (path ++ "[" ++ toString s.2 ++ "]") s.1 := by
  induction schemas generalizing index with
  | nil => rfl
  | cons s rest ih => rw [problemsOfList, ih, List.zipIdx_cons, List.flatMap_cons]

/-- The problems of the schemas of a list, by the steps to them. -/
theorem problemsOfList_numbered {path : String} {step : Nat → Step} {stem : String}
    (htext : ∀ index, (step index).text = stem ++ ("[" ++ toString index ++ "]"))
    (schemas : List Json) : problemsOfList (path ++ stem) 0 schemas =
      (numbered step schemas).flatMap fun c => problemsAt (path ++ c.1.text) c.2 := by
  rw [problemsOfList_eq, numbered, List.flatMap_map]
  simp only [htext, String.append_assoc]

/-- The problems that the check finds under a keyword are those that it finds in the schemas there. -/
theorem problemsInside_eq {keyword : String} (hkeyword : keyword ∈ innerKeywords) (path : String)
    (v : Json) : problemsInside path keyword v =
      (childrenUnder keyword v).flatMap fun c => problemsAt (path ++ c.1.text) c.2 := by
  rcases mem_innerKeywords_iff.1 hkeyword with rfl | rfl | hkeyword
  · cases v with
    | object properties =>
      show problemsOfProperties path properties =
        (properties.map fun p => (Step.property p.1, p.2)).flatMap _
      rw [problemsOfProperties_eq, List.flatMap_map]
      simp only [Step.text, String.append_assoc]
    | null | bool _ | number _ | string _ | array _ => rfl
  · cases v with
    | array schemas =>
      refine problemsOfList_numbered (fun index => ?_) schemas
      rw [Step.text, String.append_assoc]
      rfl
    | null | bool _ | number _ | string _ | object _ => exact (List.append_nil _).symm
  · obtain ⟨hproperties, hitems⟩ := ne_of_mem_combinators hkeyword
    unfold problemsInside
    rw [childrenUnder_combinator hkeyword, if_neg hproperties, if_neg hitems, if_pos hkeyword]
    cases v with
    | array schemas =>
      show problemsOfList (path ++ "." ++ keyword) 0 schemas = _
      rw [String.append_assoc]
      refine problemsOfList_numbered (fun index => ?_) schemas
      simp only [Step.text, String.append_assoc]
    | null | bool _ | number _ | string _ | object _ => rfl

/-- The check finds the problems of a schema, and those that it finds in the schemas right under it. -/
theorem problemsAt_perm (path : String) (s : Json) :
    (problemsAt path s).Perm (located path (ownProblems s) ++
      (children s).flatMap fun c => problemsAt (path ++ c.1.text) c.2) := by
  cases s with
  | bool b => rfl
  | null | number _ | string _ | array _ => rfl
  | object members =>
    have hunder {keyword : String} (hkeyword : keyword ∈ innerKeywords) :
        (((members.lookup keyword).map (childrenUnder keyword)).getD []).flatMap
          (fun c => problemsAt (path ++ c.1.text) c.2) =
        ((members.lookup keyword).map (problemsInside path keyword)).getD [] := by
      cases members.lookup keyword with
      | none => rfl
      | some v => exact (problemsInside_eq hkeyword path v).symm
    have hchildren : ((children (.object members)).flatMap fun c =>
        problemsAt (path ++ c.1.text) c.2) =
        innerKeywords.flatMap fun keyword =>
          ((members.lookup keyword).map (problemsInside path keyword)).getD [] := by
      rw [children, List.flatMap_assoc]
      exact List.flatMap_congr fun keyword hkeyword => hunder hkeyword
    rw [hchildren, List.perm_iff_count]
    intro l
    simp only [problemsAt, lookup_problemsUnder, ownProblems, untypedProblems, innerKeywords,
      combinators, located, List.flatMap_cons, List.flatMap_nil, List.map_append, List.count_append,
      List.append_nil]
    omega

/-- The check finds the problems of all schemas inside a schema, the schema itself among them. -/
theorem problemsAt_perm_places (path : String) (s : Json) :
    (problemsAt path s).Perm ((places s).flatMap fun place =>
      located (pathAfter path place.1) (ownProblems place.2)) := by
  induction s using childInduction generalizing path with
  | h s ih =>
    have hplaces : ((places s).flatMap fun place =>
        located (pathAfter path place.1) (ownProblems place.2)) =
        located path (ownProblems s) ++ (children s).flatMap fun c =>
          (places c.2).flatMap fun place =>
            located (pathAfter (path ++ c.1.text) place.1) (ownProblems place.2) := by
      rw [places_eq, List.flatMap_cons, List.flatMap_assoc]
      simp only [List.flatMap_map]
      rfl
    rw [hplaces]
    refine (problemsAt_perm path s).trans (List.Perm.append_left _ ?_)
    exact List.Perm.flatMap_left _ fun c hc => ih c hc (path ++ c.1.text)

theorem problems_perm (s : Json) : (problems s).Perm ((places s).flatMap fun place =>
    (ownProblems place.2).map fun p => (Located.mk (pathAfter "schema" place.1) p).message) := by
  have hmap := (problemsAt_perm_places "schema" s).map Located.message
  simp only [List.map_flatMap, located, List.map_map] at hmap
  exact hmap

/-- The check finds nothing exactly when there is nothing wrong at any depth. -/
theorem problems_eq_nil_iff {s : Json} :
    problems s = [] ↔ ∀ steps t p, Reaches s steps t → ¬ Wrong t p := by
  constructor
  · intro h steps t p hreaches hwrong
    have hmessages := problems_perm s
    rw [h] at hmessages
    have hnone := List.flatMap_eq_nil_iff.1 (List.nil_perm.1 hmessages) _ (mem_places_iff.2 hreaches)
    rw [List.map_eq_nil_iff] at hnone
    have hmem := mem_ownProblems_iff.2 hwrong
    rw [hnone] at hmem
    cases hmem
  · intro h
    refine List.perm_nil.1 ((problems_perm s).trans (.of_eq ?_))
    refine List.flatMap_eq_nil_iff.2 fun place hplace => ?_
    rw [List.map_eq_nil_iff, List.eq_nil_iff_forall_not_mem]
    exact fun p hp => h _ _ p (mem_places_iff.1 hplace) (mem_ownProblems_iff.1 hp)

/-- A schema is checked as a whole: each schema inside it, and nothing else. -/
structure Covered (s : Json) : Prop where
  /-- The messages are those about the keywords of all schemas inside, each with its path. -/
  messages : (problems s).Perm ((places s).flatMap fun place =>
    (ownProblems place.2).map fun p => (Located.mk (pathAfter "schema" place.1) p).message)
  /-- These are the schemas that steps lead to, at any depth. -/
  reached : ∀ steps t, (steps, t) ∈ places s ↔ Reaches s steps t
  /-- No two of them are at the end of the same steps. -/
  once : s.DistinctKeys → ((places s).map (·.1)).Nodup
  own : ∀ t, Owns t (ownProblems t)
  silent_iff : problems s = [] ↔ ∀ steps t p, Reaches s steps t → ¬ Wrong t p

theorem check_covers_inner_schemas (s : Json) : Covered s where
  messages := problems_perm s
  reached _ _ := mem_places_iff
  once := nodup_places
  own := owns_ownProblems
  silent_iff := problems_eq_nil_iff

example : problems (.object [("type", .string "array"),
    ("items", .array [.object [("type", .string "objekt")], .bool true, .ofNat 3])]) =
    ["schema.items[0]: unknown type \"objekt\"", "schema.items[2]: schema must be an object"] := by
  decide

end StepEngine.Structure
