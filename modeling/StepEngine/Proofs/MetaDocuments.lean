import StepEngine.Schema.MetaSchema

/-!
# The documents of the schema of schemas

The schema of the schemas of the newest draft says what each keyword has to hold. It consists of a whole
and of parts that it refers to; all of them lead back to the whole for the schemas inside a schema.

* `MetaSchema.documents` : the whole and the parts, under their identities;
* `MetaSchema.Standing` : a locus inside them;
* `MetaSchema.Standing.refer_piece`, `refer_definition`, `refer_inner` : where the three kinds of
  references lead.
-/

namespace StepEngine

/-- A text that names a scheme means the same against any base. -/
theorem Uri.join?_of_scheme {base reference : Uri} {text : String} (hbase : base.fragment = none)
    (hread : Uri.read .ascii text = .ok reference) (hscheme : reference.scheme.isSome) :
    base.join? text = .ok reference.normalize := by
  rw [Uri.join?, Uri.join, hread]
  simp only [Uri.resolve, hbase, hscheme, Option.isSome_none, Bool.false_eq_true, if_false, if_true]

/-- The anchors under an identity are those of its resource, when no other has this identity. -/
theorem find?_anchors {resources : List (Uri × Resource)} (h : (resources.map (·.1)).Nodup)
    {uri : Uri} {resource : Resource} (hmem : (uri, resource) ∈ resources) (name : String) :
    (resources.flatMap fun e => (e.2.draft.anchorsOf e.2.contents).map fun n =>
      Anchor.mk e.1 n e.2).find? (fun a => a.base == uri && a.name.text == name) =
    ((resource.draft.anchorsOf resource.contents).find? fun n => n.text == name).map fun n =>
      Anchor.mk uri n resource := by
  have hother (es : List (Uri × Resource)) (hes : uri ∉ es.map (·.1)) :
      (es.flatMap fun e => (e.2.draft.anchorsOf e.2.contents).map fun n =>
        Anchor.mk e.1 n e.2).find? (fun a => a.base == uri && a.name.text == name) = none := by
    rw [List.find?_eq_none]
    intro a ha
    obtain ⟨e, he, ha⟩ := List.mem_flatMap.1 ha
    obtain ⟨n, -, rfl⟩ := List.mem_map.1 ha
    have hne : e.1 ≠ uri := by
      rintro rfl
      exact hes (List.mem_map.2 ⟨e, he, rfl⟩)
    simp [hne]
  induction resources with
  | nil => cases hmem
  | cons e rest ih =>
    obtain ⟨hnot, hrest⟩ := List.nodup_cons.1 h
    rw [List.flatMap_cons, List.find?_append]
    rcases List.mem_cons.1 hmem with rfl | hmem
    · rw [hother rest hnot, Option.or_none, List.find?_map]
      congr 2
      funext n
      simp
    · have hne : uri ∉ [e].map (·.1) := by
        intro huri
        rw [List.mem_singleton.1 huri] at hmem
        exact hnot (List.mem_map.2 ⟨_, hmem, rfl⟩)
      have hfirst := hother [e] hne
      rw [List.flatMap_singleton] at hfirst
      rw [hfirst, Option.none_or]
      exact ih hrest hmem

namespace MetaSchema

/-! ## The whole and its parts -/

/-- The identity of the whole. -/
def root : Uri := identityOf .draft2020

/-- The identity of a part. -/
def home (p : Part) : Uri := identity "https" ("/draft/2020-12/meta/" ++ p.name)

/-- The parts of the newest draft. -/
def pieces : List Part := Later.parts .draft2020

def documents : List (Uri × Json) :=
  (root, contents .draft2020) :: pieces.map fun p => (home p, Later.part .draft2020 p)

theorem nodup_resources : (resources.map (·.1)).Nodup := by decide +kernel

theorem mem_resources {e : Uri × Json} (h : e ∈ documents) :
    (e.1, Resource.mk .draft2020 e.2) ∈ resources := by
  rw [resources, List.mem_append, List.mem_append]
  rcases List.mem_cons.1 h with rfl | h
  · exact .inl (.inl (List.mem_map.2 ⟨.draft2020, by decide, rfl⟩))
  · obtain ⟨p, hp, rfl⟩ := List.mem_map.1 h
    exact .inr (List.mem_map.2 ⟨p, hp, rfl⟩)

theorem find?_document {e : Uri × Json} (h : e ∈ documents) :
    standard.find? e.1 = some ⟨.draft2020, e.2⟩ :=
  SortedMap.lookup_of_mem nodup_resources (mem_resources h)

/-- Each document has the anchor that references to the whole use, and names the newest draft. -/
theorem members_documents : ∀ e ∈ documents, e.2.get? "$anchor" = none ∧
    e.2.get? "$dynamicAnchor" = some (.string "meta") ∧
    e.2.get? "$schema" = some (.string (Draft.name .draft2020)) := by
  decide +kernel

theorem anchorAt?_document {e : Uri × Json} (h : e ∈ documents) :
    standard.anchorAt? e.1 "meta" = some ⟨e.1, ⟨"meta", true⟩, ⟨.draft2020, e.2⟩⟩ := by
  have hanchors : Draft.draft2020.anchorsOf e.2 = [⟨"meta", true⟩] := by
    obtain ⟨hplain, hdynamic, -⟩ := members_documents e h
    rw [Draft.anchorsOf, Draft.anchorUnder, Draft.anchorUnder, hplain, hdynamic]
    rfl
  have hfind := find?_anchors nodup_resources (mem_resources h) "meta"
  rw [hanchors] at hfind
  exact hfind

/-- The identity that a document gives itself is absolute, and the one that it is found under. -/
theorem identity_documents : ∀ e ∈ documents,
    ((Draft.draft2020.idOf e.2).bind fun id => (Uri.read .ascii id).toOption).any (fun reference =>
      reference.scheme.isSome && reference.normalize == e.1) = true := by
  decide +kernel

theorem enter_document {base : Uri} (hbase : base.fragment = none) {e : Uri × Json}
    (h : e ∈ documents) : base.enter .draft2020 e.2 = .ok e.1 := by
  have hidentity := identity_documents e h
  rw [Uri.enter]
  cases hid : Draft.draft2020.idOf e.2 with
  | none =>
    rw [hid] at hidentity
    cases hidentity
  | some id =>
    rw [hid, Option.bind_some] at hidentity
    cases hread : Uri.read .ascii id with
    | error fault =>
      rw [hread] at hidentity
      cases hidentity
    | ok reference =>
      rw [hread] at hidentity
      have hboth : (reference.scheme.isSome && reference.normalize == e.1) = true := hidentity
      rw [Bool.and_eq_true, beq_iff_eq] at hboth
      show base.join? id = _
      rw [Uri.join?_of_scheme hbase hread hboth.1, hboth.2]

/-- The whole refers to its parts by their names. -/
theorem join?_piece : ∀ p ∈ pieces, (root.join? ("meta/" ++ p.name)).toOption = some (home p) ∧
    Locus.cut ("meta/" ++ p.name) = ("meta/" ++ p.name, "") ∧
    Draft.isHashed ("meta/" ++ p.name) = false := by
  decide +kernel

/-- A part refers to its definitions by pointers of two keys. -/
theorem pointer_definition : ∀ p ∈ pieces, ∀ d ∈ p.definitions,
    Draft.isHashed ("#/$defs/" ++ d.1) = true ∧
    ("#/$defs/" ++ d.1).toList.drop 1 = '/' :: ("$defs/" ++ d.1).toList ∧
    (Locus.percentDecode? ("$defs/" ++ d.1).toList).map (Text.split (· == '/')) =
      some ["$defs".toList, d.1.toList] ∧
    String.ofList (Harvest.unescapeKey d.1.toList) = d.1 := by
  decide +kernel

theorem get?_definition : ∀ p ∈ pieces, ∀ d ∈ p.definitions,
    (Later.part .draft2020 p).get? "$defs" = some (.ofMembers p.definitions) ∧
    (Json.ofMembers p.definitions).get? "$id" = none ∧
    (Json.ofMembers p.definitions).get? d.1 = some d.2 ∧
    d.2.get? "$id" = none ∧ d.2.get? "$schema" = none := by
  decide +kernel

/-! ## Loci inside the schema of schemas -/

/-- A locus inside the schema of schemas: the way to it began at the whole. -/
structure Standing (s : Locus) : Prop where
  registry : s.registry = standard
  draft : s.draft = .draft2020
  vocabularies : s.vocabularies = Draft.draft2020.vocabularies
  document : ∃ m, (s.base, m) ∈ documents
  scope : ∀ uri ∈ s.scope, ∃ m, (uri, m) ∈ documents
  outermost : s.scope = [] ∧ s.base = root ∨ s.scope.getLast? = some root

theorem whole_mem : (root, contents .draft2020) ∈ documents := List.mem_cons_self

theorem piece_mem {p : Part} (h : p ∈ pieces) : (home p, Later.part .draft2020 p) ∈ documents :=
  List.mem_cons_of_mem _ (List.mem_map.2 ⟨p, h, rfl⟩)

theorem fragment_document {e : Uri × Json} (h : e ∈ documents) : e.1.fragment = none := by
  rcases List.mem_cons.1 h with rfl | h
  · rfl
  · obtain ⟨p, -, rfl⟩ := List.mem_map.1 h
    rfl

variable {s : Locus}

/-- A resource that is a document is entered by the way that began at the whole. -/
theorem Standing.goTo (hs : Standing s) {e : Uri × Json} (he : e ∈ documents) :
    Standing (s.goTo e.1 .draft2020) ∧ (s.goTo e.1 .draft2020).base = e.1 ∧
      (s.goTo e.1 .draft2020).scope.getLast? = some root := by
  obtain ⟨registry, draft, vocabularies, document, scope, outermost⟩ := hs
  unfold Locus.goTo
  split
  · next hmoves =>
    have hlast : (s.base :: s.scope).getLast? = some root := by
      rcases outermost with ⟨hempty, hbase⟩ | hlast
      · rw [hempty, hbase]
        rfl
      · rw [List.getLast?_cons, hlast]
        rfl
    refine ⟨⟨registry, rfl, vocabularies, ⟨e.2, he⟩, ?_, .inr hlast⟩, rfl, hlast⟩
    exact List.forall_mem_cons.2 ⟨document, scope⟩
  · next hstays =>
    rw [Bool.or_eq_true, not_or, List.isEmpty_iff, bne_iff_ne, Decidable.not_not] at hstays
    have hlast := outermost.resolve_left fun hempty => hstays.1 hempty.1
    exact ⟨⟨registry, rfl, vocabularies, document, scope, .inr hlast⟩, hstays.2.symm, hlast⟩

theorem Standing.identify (hs : Standing s) {m : Json} (hm : (s.base, m) ∈ documents) :
    s.identify m = .ok s := by
  obtain ⟨registry, draft, vocabularies, base, scope⟩ := s
  obtain rfl : draft = .draft2020 := hs.draft
  rw [Locus.identify]
  show (base.enter .draft2020 m >>= _) = _
  rw [enter_document (fragment_document hm) hm]
  rfl

/-! ## References -/

theorem eq_ok_of_toOption {ε α : Type} {result : Except ε α} {x : α} (h : result.toOption = some x) :
    result = .ok x := by
  cases result with
  | error _ => cases h
  | ok y => rw [Option.some.inj h]

/-- A reference to a part. -/
theorem Standing.refer_piece (hs : Standing s) (hbase : s.base = root) {p : Part} (hp : p ∈ pieces) :
    s.refer "$ref" (.string ("meta/" ++ p.name)) =
      .ok (s.goTo (home p) .draft2020, Later.part .draft2020 p) := by
  obtain ⟨hjoin, hcut, hhashed⟩ := join?_piece p hp
  have hne : "meta/" ++ p.name ≠ "#" := by
    intro heq
    rw [heq] at hhashed
    exact absurd hhashed (by decide)
  have hmeaning : s.base.join? ("meta/" ++ p.name) = .ok (home p) := by
    rw [hbase]
    exact eq_ok_of_toOption hjoin
  have hresolve : s.resolve (home p) "" =
      .ok (s.goTo (home p) .draft2020, Later.part .draft2020 p) := by
    rw [Locus.resolve, hs.registry, find?_document (piece_mem hp)]
    rfl
  show s.lookup ("meta/" ++ p.name) = _
  rw [Locus.lookup, if_neg hne, Locus.split, if_neg (by rw [hhashed]; decide), hcut]
  simp only [hmeaning, bind, Except.bind]
  exact hresolve

/-- A value without an identity leaves the locus as it is. -/
theorem identify_of_none (hs : s.draft = .draft2020) {m : Json} (hid : m.get? "$id" = none) :
    s.identify m = .ok s := by
  obtain ⟨registry, draft, vocabularies, base, scope⟩ := s
  obtain rfl : draft = .draft2020 := hs
  rw [Locus.identify, Uri.enter, Draft.idOf, show Draft.idKeyword .draft2020 = "$id" from rfl, hid]
  rfl

/-- A key of a pointer that leads to a member without an identity. -/
theorem follow_member (hs : s.draft = .draft2020) (pointer : String) {key : List Char}
    {name : String} (hname : String.ofList (Harvest.unescapeKey key) = name)
    (keys : List (List Char)) (way : List String) {v next : Json} (hnext : v.get? name = some next)
    (hid : next.get? "$id" = none) :
    Locus.follow pointer (key :: keys) way s v =
      Locus.follow pointer keys (name :: way) s next := by
  have hinside := identify_of_none hs hid
  cases v with
  | object members =>
    rw [Locus.follow]
    · simp only [hname, hnext, bind, Except.bind, hinside, ite_self, beq_self_eq_true, if_true]
    · exact nofun
  | null | bool _ | number _ | string _ | array _ => cases hnext

/-- A reference to a definition of the part at hand. -/
theorem Standing.refer_definition (hs : Standing s) {p : Part} (hp : p ∈ pieces)
    (hbase : s.base = home p) {d : String × Json} (hd : d ∈ p.definitions) :
    s.refer "$ref" (.string ("#/$defs/" ++ d.1)) = .ok (s.goTo (home p) .draft2020, d.2) := by
  obtain ⟨hhashed, hfragment, hkeys, hkey⟩ := pointer_definition p hp d hd
  obtain ⟨hdefs, hnoId, hget, hid, -⟩ := get?_definition p hp d hd
  obtain ⟨decoded, hdecode, hsplit⟩ := Option.map_eq_some_iff.1 hkeys
  have hne : "#/$defs/" ++ d.1 ≠ "#" := by
    intro heq
    rw [heq] at hfragment
    exact absurd hfragment (by simp)
  have hdraft : (s.goTo (home p) .draft2020).draft = .draft2020 := by
    unfold Locus.goTo
    split <;> rfl
  have hpointer : (s.goTo (home p) .draft2020).atPointer
      (String.ofList ('/' :: ("$defs/" ++ d.1).toList)) (Later.part .draft2020 p) =
      .ok (s.goTo (home p) .draft2020, d.2) := by
    rw [Locus.atPointer, String.toList_ofList, List.drop_one, List.tail_cons, hdecode]
    show Locus.follow _ (Text.split (· == '/') decoded) [] _ _ = _
    rw [hsplit, follow_member hdraft _ (by decide) _ _ hdefs hnoId,
      follow_member hdraft _ hkey _ _ hget hid]
    rfl
  show s.lookup ("#/$defs/" ++ d.1) = _
  rw [Locus.lookup, if_neg hne, Locus.split, if_pos hhashed, hfragment]
  show s.resolve s.base _ = _
  rw [Locus.resolve, hs.registry, hbase, find?_document (piece_mem hp)]
  simp only [String.toList_ofList]
  exact hpointer

/-! The whole is the outermost document on every way. -/

theorem anchorIn_document (hs : Standing s) {e : Uri × Json} (he : e ∈ documents) :
    s.anchorIn e.1 "meta" = .ok ⟨e.1, ⟨"meta", true⟩, ⟨.draft2020, e.2⟩⟩ := by
  rw [Locus.anchorIn, hs.registry, anchorAt?_document he]

theorem outermost_document (hs : Standing s) {scope : List Uri}
    (hscope : ∀ uri ∈ scope, ∃ m, (uri, m) ∈ documents) (hlast : scope.getLast? = some root)
    (last : Resource) :
    s.outermost "meta" scope last = .ok ⟨.draft2020, contents .draft2020⟩ := by
  induction scope generalizing last with
  | nil => cases hlast
  | cons uri scope ih =>
    obtain ⟨⟨m, hm⟩, hrest⟩ := List.forall_mem_cons.1 hscope
    rw [Locus.outermost, anchorIn_document hs hm]
    show s.outermost "meta" scope ⟨.draft2020, m⟩ = _
    cases scope with
    | nil =>
      obtain rfl : uri = root := Option.some.inj hlast
      have hwhole := find?_document whole_mem
      rw [find?_document hm] at hwhole
      exact congrArg Except.ok (Option.some.inj hwhole)
    | cons next scope => exact ih hrest (by rwa [List.getLast?_cons_cons] at hlast) _

/-- A reference to the schema that is read leads back to the whole. -/
theorem Standing.refer_inner (hs : Standing s) : ∃ there,
    s.refer "$dynamicRef" (.string "#meta") = .ok (there, contents .draft2020) ∧ Standing there ∧
      there.base = root := by
  obtain ⟨m, hm⟩ := hs.document
  obtain ⟨hthere, hbase, hlast⟩ := hs.goTo hm
  change Standing (s.goTo s.base .draft2020) at hthere
  let there : Locus := { s.goTo s.base .draft2020 with draft := .draft2020, base := root }
  have hidentify : Locus.identify { s.goTo s.base .draft2020 with draft := .draft2020 }
      (contents .draft2020) = .ok there := by
    rw [Locus.identify]
    show ((s.goTo s.base .draft2020).base.enter .draft2020 _ >>= _) = _
    rw [hbase, enter_document (fragment_document hm) whole_mem]
    rfl
  have hlookup : s.lookup "#meta" = .ok (there, contents .draft2020) := by
    rw [Locus.lookup, if_neg (by decide), Locus.split, if_pos (by decide)]
    show s.resolve s.base "meta" = _
    rw [Locus.resolve, hs.registry, find?_document hm]
    show s.atAnchor s.base "meta" = _
    rw [Locus.atAnchor, anchorIn_document hs hm]
    show ((s.goTo s.base .draft2020).outermost "meta" _ _ >>= _) = _
    rw [outermost_document hthere hthere.scope hlast]
    show (Locus.identify _ _ >>= _) = _
    rw [hidentify]
    rfl
  refine ⟨there, hlookup, ?_, rfl⟩
  exact ⟨hthere.registry, rfl, hthere.vocabularies, ⟨_, whole_mem⟩, hthere.scope, .inr hlast⟩

end MetaSchema

end StepEngine
