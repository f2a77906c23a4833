import StepEngine.Proofs.Members

/-!
# Spellings of fields

A shape says which fields a value can have, how each is spelled, and what is inside of it. A value
whose fields are spelled in older ways is read as the one with the spellings of today. A field that
is given twice, in whatever spellings, is refused.

* `Spelling` : a shape, as the value with the spellings of today, and whether it gives no field
  twice; `Spelling.same`, `list`, `record`, `tagged` build shapes from shapes;
* `Spelling.Faithful` : a decoder makes the same of both values, and refuses what is not clear;
  there is a lemma for each way to build a decoder;
* `FieldSpelling.under_respelled` : the members for a field, before and after;
* `Fields.Spelled` : the fields of a record have the spellings of a shape;
* `Spelling.faithful_record`, `faithful_tagged` : records, and values that go by a tag.
-/

namespace StepEngine

/-- A shape: the value with the spellings of today, and whether no field is given twice. -/
structure Spelling where
  modern : Json → Json
  clear : Json → Bool

structure FieldSpelling where
  name : String
  older : List String
  inside : Spelling

namespace FieldSpelling

def spells (f : FieldSpelling) (key : String) : Bool :=
  key == f.name || f.older.contains key

/-- The field is given once at most, and what is inside is clear. -/
def clearIn (f : FieldSpelling) (members : List (String × Json)) : Bool :=
  (Json.under f.spells members).length ≤ 1 &&
    (Json.under f.spells members).all fun m => f.inside.clear m.2

/-- A member with the spelling of today. What is spelled like no field stays as it is. -/
def respell : List FieldSpelling → String × Json → String × Json
  | [], m => m
  | f :: fs, m => if f.spells m.1 then (f.name, f.inside.modern m.2) else respell fs m

def respellItems : List FieldSpelling → List Json → List Json
  | f :: fs, v :: items => f.inside.modern v :: respellItems fs items
  | _, items => items

def clearItems : List FieldSpelling → List Json → Bool
  | f :: fs, v :: items => f.inside.clear v && clearItems fs items
  | _, _ => true

end FieldSpelling

namespace Spelling

/-- A value in which nothing has an older spelling. -/
def same : Spelling := ⟨id, fun _ => true⟩

def list (s : Spelling) : Spelling where
  modern
    | .array items => .array (items.map s.modern)
    | v => v
  clear
    | .array items => items.all s.clear
    | _ => true

/-- A record, as an object or as a list of its fields. -/
def record (fs : List FieldSpelling) : Spelling where
  modern
    | .object members => .ofMembers (members.map (FieldSpelling.respell fs))
    | .array items => .array (FieldSpelling.respellItems fs items)
    | v => v
  clear
    | .object members => fs.all fun f => f.clearIn members
    | .array items => FieldSpelling.clearItems fs items
    | _ => true

def modernTag (older : List (String × String)) (tag : String) : String :=
  (older.lookup tag).getD tag

/-- A value whose fields go by its tag. -/
def tagged (older : List (String × String)) (fields : String → List FieldSpelling) :
    Spelling where
  modern
    | .object members =>
      match members.lookup "type" with
      | some (.string tag) =>
        ((record (fields (modernTag older tag))).modern
          (.object (members.filter fun m => m.1 != "type"))).withMember "type"
            (.string (modernTag older tag))
      | _ => .object members
    | .array (.string tag :: items) =>
      .array (.string (modernTag older tag) ::
        FieldSpelling.respellItems (fields (modernTag older tag)) items)
    | v => v
  clear
    | .object members =>
      match members.lookup "type" with
      | some (.string tag) => (record (fields (modernTag older tag))).clear
          (.object (members.filter fun m => m.1 != "type"))
      | _ => true
    | .array (.string tag :: items) =>
      FieldSpelling.clearItems (fields (modernTag older tag)) items
    | _ => true

variable {α β κ : Type} {types : List Type}

/-- A decoder makes the same of a value and of the value with the spellings of today, and it does
not read a value that gives a field twice. -/
structure Faithful (s : Spelling) (decode : Decoder α) : Prop where
  refuses : ∀ v a, decode v = .ok a → s.clear v = true
  reads : ∀ v, s.clear v = true → ∀ a, decode (s.modern v) = .ok a ↔ decode v = .ok a
  null : ∀ v, s.modern v = .null ↔ v = .null
  clear_null : s.clear .null = true

/-! ## Decoders made from decoders -/

theorem faithful_same (decode : Decoder α) : same.Faithful decode where
  refuses _ _ _ := rfl
  reads _ _ _ := Iff.rfl
  null _ := Iff.rfl
  clear_null := rfl

theorem Faithful.bind {s : Spelling} {decode : Decoder α} (h : s.Faithful decode)
    (next : α → Except DecodeError β) : s.Faithful fun v => (decode v).bind next where
  refuses v b hb := by
    obtain ⟨a, ha, -⟩ := Decode.bind_eq_ok_iff.1 hb
    exact h.refuses v a ha
  reads v hv b := by
    rw [Decode.bind_eq_ok_iff, Decode.bind_eq_ok_iff]
    simp only [h.reads v hv]
  null := h.null
  clear_null := h.clear_null

theorem Faithful.map {s : Spelling} {decode : Decoder α} (h : s.Faithful decode) (f : α → β) :
    s.Faithful fun v => (decode v).map f := by
  have hbind : (fun v => (decode v).map f) = fun v => (decode v).bind fun a => .ok (f a) := by
    funext v
    cases decode v <;> rfl
  rw [hbind]
  exact h.bind _

theorem optional_of_ne_null (decode : Decoder α) {v : Json} (h : v ≠ .null) :
    Decode.optional decode v = (decode v).map some := by
  unfold Decode.optional
  split
  · contradiction
  · rfl

theorem Faithful.optional {s : Spelling} {decode : Decoder α} (h : s.Faithful decode) :
    s.Faithful (Decode.optional decode) where
  refuses v b hb := by
    by_cases hv : v = .null
    · rw [hv]
      exact h.clear_null
    · rw [optional_of_ne_null decode hv] at hb
      exact (h.map some).refuses v b hb
  reads v hclear b := by
    by_cases hv : v = .null
    · rw [(h.null v).2 hv, hv]
    · have hmodern : s.modern v ≠ .null := mt (h.null v).1 hv
      rw [optional_of_ne_null decode hv, optional_of_ne_null decode hmodern]
      exact (h.map some).reads v hclear b
  null := h.null
  clear_null := h.clear_null

theorem items_cons_eq_ok_iff {decode : Decoder α} {v : Json} {items : List Json} {as : List α} :
    Decode.items decode (v :: items) = .ok as ↔
      ∃ a, decode v = .ok a ∧ ∃ rest, Decode.items decode items = .ok rest ∧ as = a :: rest := by
  change (decode v).bind _ = _ ↔ _
  rw [Decode.bind_eq_ok_iff]
  refine exists_congr fun a => and_congr_right fun _ => ?_
  change (Decode.items decode items).bind _ = _ ↔ _
  rw [Decode.bind_eq_ok_iff]
  refine exists_congr fun rest => and_congr_right fun _ => ?_
  rw [Except.ok.injEq, eq_comm]

theorem Faithful.list {s : Spelling} {decode : Decoder α} (h : s.Faithful decode) :
    (Spelling.list s).Faithful (Decode.list decode) where
  refuses v as has := by
    cases v with
    | array items =>
      show items.all s.clear = true
      replace has : Decode.items decode items = .ok as := has
      induction items generalizing as with
      | nil => rfl
      | cons v items ih =>
        obtain ⟨a, ha, rest, hrest, -⟩ := items_cons_eq_ok_iff.1 has
        rw [List.all_cons, h.refuses v a ha, ih rest hrest]
        rfl
    | _ => rfl
  reads v hclear as := by
    cases v with
    | array items =>
      show Decode.items decode (items.map s.modern) = .ok as ↔ Decode.items decode items = .ok as
      replace hclear : items.all s.clear = true := hclear
      induction items generalizing as with
      | nil => rfl
      | cons v items ih =>
        rw [List.all_cons, Bool.and_eq_true] at hclear
        rw [List.map_cons, items_cons_eq_ok_iff, items_cons_eq_ok_iff]
        simp only [h.reads v hclear.1, ih _ hclear.2]
    | _ => rfl
  null v := by
    cases v <;> simp [Spelling.list]
  clear_null := rfl

end Spelling

/-! ## The members for a field -/

namespace FieldSpelling

variable {fs : List FieldSpelling} {f : FieldSpelling}

theorem spells_name (f : FieldSpelling) : f.spells f.name = true := by
  simp [spells]

/-- No key is a spelling of two fields. -/
def Apart (fs : List FieldSpelling) : Prop :=
  fs.Pairwise fun f g => ∀ key, f.spells key = true → g.spells key = false

/-- A member keeps its key or gets the name of a field. -/
theorem respell_fst (fs : List FieldSpelling) (m : String × Json) :
    (respell fs m).1 = m.1 ∨ ∃ f ∈ fs, (respell fs m).1 = f.name := by
  induction fs with
  | nil => exact .inl rfl
  | cons f fs ih =>
    rw [respell]
    by_cases h : f.spells m.1 = true
    · rw [if_pos h]
      exact .inr ⟨f, List.mem_cons_self, rfl⟩
    · rw [if_neg h]
      rcases ih with hkey | ⟨g, hg, hname⟩
      · exact .inl hkey
      · exact .inr ⟨g, List.mem_cons_of_mem _ hg, hname⟩

theorem respell_of_spells (h : Apart fs) (hf : f ∈ fs) {m : String × Json}
    (hm : f.spells m.1 = true) : respell fs m = (f.name, f.inside.modern m.2) := by
  induction fs with
  | nil => cases hf
  | cons g fs ih =>
    obtain ⟨hhead, hrest⟩ := List.pairwise_cons.1 h
    rw [respell]
    rcases List.mem_cons.1 hf with rfl | hf
    · rw [if_pos hm]
    · have hother : ¬ g.spells m.1 = true := by
        intro hg
        rw [hhead f hf m.1 hg] at hm
        cases hm
      rw [if_neg hother]
      exact ih hrest hf

/-- A member is for the same field as before. -/
theorem spells_respell (h : Apart fs) (hf : f ∈ fs) (m : String × Json) :
    f.spells (respell fs m).1 = f.spells m.1 := by
  by_cases hm : f.spells m.1 = true
  · rw [respell_of_spells h hf hm, hm, spells_name]
  · induction fs with
    | nil => cases hf
    | cons g fs ih =>
      obtain ⟨hhead, hrest⟩ := List.pairwise_cons.1 h
      rw [respell]
      rcases List.mem_cons.1 hf with rfl | hf
      · rw [if_neg hm]
        -- the new name is that of a later field, if it is new at all
        rcases respell_fst fs m with hkey | ⟨g, hg, hname⟩
        · rw [hkey]
        · rw [hname, Bool.eq_false_iff.2 hm]
          refine Bool.eq_false_iff.2 fun hspells => ?_
          have hname := hhead g hg g.name hspells
          rw [spells_name] at hname
          cases hname
      · by_cases hg : g.spells m.1 = true
        · rw [if_pos hg, hhead f hf g.name g.spells_name, hhead f hf m.1 hg]
        · rw [if_neg hg]
          exact ih hrest hf

theorem under_respelled (h : Apart fs) (hf : f ∈ fs) (members : List (String × Json)) :
    Json.under f.spells (members.map (respell fs)) =
      (Json.under f.spells members).map fun m => (f.name, f.inside.modern m.2) := by
  rw [Json.under, List.filter_map]
  have hfilter : members.filter ((fun m => f.spells m.1) ∘ respell fs) =
      Json.under f.spells members :=
    List.filter_congr fun m _ => spells_respell h hf m
  rw [hfilter]
  refine List.map_congr_left fun m hm => ?_
  exact respell_of_spells h hf (List.mem_filter.1 hm).2

theorem length_under_of_clearIn {members : List (String × Json)} (h : f.clearIn members = true) :
    (Json.under f.spells members).length ≤ 1 := by
  rw [clearIn, Bool.and_eq_true, decide_eq_true_eq] at h
  exact h.1

/-- The members for a field in the object of today. -/
theorem under_ofList_respelled (h : Apart fs) (hf : f ∈ fs) {members : List (String × Json)}
    (hclear : f.clearIn members = true) :
    Json.under f.spells (SortedMap.ofList (members.map (respell fs))).entries =
      (Json.under f.spells members).map fun m => (f.name, f.inside.modern m.2) := by
  have hunder := under_respelled h hf members
  have hlength := length_under_of_clearIn hclear
  rw [Json.under_ofList (by rw [hunder, List.length_map]; exact hlength), hunder]

end FieldSpelling

/-! ## Records -/

section Records

variable {α : Type} {types : List Type}

namespace Field

variable {field : Field α} {members : List (String × Json)} {a : α}
  {f : FieldSpelling} (hnamed : field.isNamed = f.spells)
  (hinside : f.inside.Faithful field.decode)

include hnamed hinside

theorem clearIn_of_given (h : field.Given members a) : f.clearIn members = true := by
  rw [FieldSpelling.clearIn, ← hnamed]
  cases h with
  | member key hunder hdecode =>
    have hclear := hinside.refuses _ a hdecode
    simp [hunder, hclear]
  | missing hunder _ => simp [hunder]

theorem given_respelled_iff {members' : List (String × Json)}
    (hunder : Json.under f.spells members' =
      (Json.under f.spells members).map fun m => (f.name, f.inside.modern m.2))
    (hclear : f.clearIn members = true) : field.Given members' a ↔ field.Given members a := by
  rw [FieldSpelling.clearIn, Bool.and_eq_true, decide_eq_true_eq] at hclear
  obtain ⟨hlength, hclear⟩ := hclear
  rw [← hnamed] at hunder hlength hclear
  rcases hold : Json.under field.isNamed members with _ | ⟨⟨key, v⟩, _ | ⟨m, rest⟩⟩
  · rw [hold] at hunder
    rw [given_iff_of_under_nil hold, given_iff_of_under_nil hunder]
  · rw [hold] at hunder hclear
    have hv : f.inside.clear v = true := by simpa using hclear
    rw [given_iff_of_under_singleton hold, given_iff_of_under_singleton hunder]
    exact hinside.reads v hv a
  · rw [hold] at hlength
    simp at hlength

end Field

namespace Fields

/-- The fields have the spellings of a shape, in order, and their decoders make the same of what is
inside. -/
def Spelled : {types : List Type} → Fields types → List FieldSpelling → Prop
  | _, nil, fs => fs = []
  | _, cons _ _, [] => False
  | _, cons field rest, f :: fs =>
    (field.name = f.name ∧ field.aliases = f.older) ∧ f.inside.Faithful field.decode ∧
      rest.Spelled fs

theorem isNamed_of_spelled {field : Field α} {f : FieldSpelling}
    (h : field.name = f.name ∧ field.aliases = f.older) : field.isNamed = f.spells := by
  funext key
  rw [Field.isNamed, FieldSpelling.spells, h.1, h.2]

theorem Spelled.knows {fields : Fields types} {fs : List FieldSpelling} (h : fields.Spelled fs)
    (key : String) : fields.knows key = fs.any fun f => f.spells key := by
  induction fields generalizing fs with
  | nil =>
    rw [show fs = [] from h]
    rfl
  | cons field rest ih =>
    cases fs with
    | nil => exact h.elim
    | cons f fs =>
      obtain ⟨hnames, -, hrest⟩ := h
      rw [Fields.knows, List.any_cons, isNamed_of_spelled hnames, ih hrest]

theorem Spelled.apart {fields : Fields types} {fs : List FieldSpelling} (h : fields.Spelled fs)
    (hapart : fields.apart = true) : FieldSpelling.Apart fs := by
  induction fields generalizing fs with
  | nil =>
    rw [show fs = [] from h]
    exact .nil
  | cons field rest ih =>
    cases fs with
    | nil => exact h.elim
    | cons f fs =>
      obtain ⟨hnames, -, hrest⟩ := h
      have hrestApart : rest.apart = true := (Bool.and_eq_true _ _ ▸ hapart).2
      refine .cons ?_ (ih hrest hrestApart)
      intro g hg key hkey
      rw [← isNamed_of_spelled hnames] at hkey
      have hunknown := not_knows_of_apart hapart hkey
      rw [hrest.knows, List.any_eq_false] at hunknown
      exact Bool.eq_false_iff.2 (hunknown g hg)

/-- Fields that are given make an object clear. -/
theorem Spelled.clear_of_given {fields : Fields types} {fs : List FieldSpelling}
    (h : fields.Spelled fs) {members : List (String × Json)} {values : Values types}
    (hgiven : fields.Given members values) : (fs.all fun f => f.clearIn members) = true := by
  induction fields generalizing fs with
  | nil =>
    rw [show fs = [] from h]
    rfl
  | cons field rest ih =>
    cases fs with
    | nil => exact h.elim
    | cons f fs =>
      obtain ⟨a, values⟩ := values
      obtain ⟨hnames, hinside, hrest⟩ := h
      have hclear := Field.clearIn_of_given (isNamed_of_spelled hnames) hinside hgiven.1
      rw [List.all_cons, hclear, ih hrest hgiven.2]
      rfl

theorem Spelled.given_iff {fields : Fields types} {fs : List FieldSpelling}
    (h : fields.Spelled fs) {members members' : List (String × Json)} {values : Values types}
    (hclear : ∀ f ∈ fs, f.clearIn members = true)
    (hunder : ∀ f ∈ fs, Json.under f.spells members' =
      (Json.under f.spells members).map fun m => (f.name, f.inside.modern m.2)) :
    fields.Given members' values ↔ fields.Given members values := by
  induction fields generalizing fs with
  | nil => exact Iff.rfl
  | cons field rest ih =>
    cases fs with
    | nil => exact h.elim
    | cons f fs =>
      obtain ⟨a, values⟩ := values
      obtain ⟨hnames, hinside, hrest⟩ := h
      obtain ⟨hclear, hclears⟩ := List.forall_mem_cons.1 hclear
      obtain ⟨hunder, hunders⟩ := List.forall_mem_cons.1 hunder
      have hfield := Field.given_respelled_iff (a := a) (isNamed_of_spelled hnames) hinside hunder
        hclear
      exact and_congr hfield (ih hrest hclears hunders)

theorem Spelled.clear_of_ofItems {fields : Fields types} {fs : List FieldSpelling}
    (h : fields.Spelled fs) {description : String} {total position : Nat} {items left : List Json}
    {values : Values types}
    (hitems : fields.ofItems description total position items = .ok (values, left)) :
    FieldSpelling.clearItems fs items = true := by
  induction fields generalizing fs position items with
  | nil =>
    rw [show fs = [] from h]
    rfl
  | cons field rest ih =>
    cases fs with
    | nil => exact h.elim
    | cons f fs =>
      cases items with
      | nil => rfl
      | cons v items =>
        obtain ⟨a, values⟩ := values
        obtain ⟨-, hinside, hrest⟩ := h
        obtain ⟨hdecode, hothers⟩ := ofItems_cons_eq_ok_iff.1 hitems
        rw [FieldSpelling.clearItems, hinside.refuses v a hdecode, ih hrest hothers]
        rfl

theorem Spelled.ofItems_iff {fields : Fields types} {fs : List FieldSpelling}
    (h : fields.Spelled fs) {description : String} {total position : Nat} {items left : List Json}
    {values : Values types} (hclear : FieldSpelling.clearItems fs items = true) :
    fields.ofItems description total position (FieldSpelling.respellItems fs items) =
        .ok (values, left) ↔
      fields.ofItems description total position items = .ok (values, left) := by
  induction fields generalizing fs position items with
  | nil =>
    rw [show fs = [] from h]
    rfl
  | cons field rest ih =>
    cases fs with
    | nil => exact h.elim
    | cons f fs =>
      cases items with
      | nil => rfl
      | cons v items =>
        obtain ⟨a, values⟩ := values
        obtain ⟨-, hinside, hrest⟩ := h
        rw [FieldSpelling.clearItems, Bool.and_eq_true] at hclear
        rw [FieldSpelling.respellItems, ofItems_cons_eq_ok_iff, ofItems_cons_eq_ok_iff,
          hinside.reads v hclear.1, ih hrest hclear.2]

end Fields

theorem Spelling.faithful_record {r : Record types} {fs : List FieldSpelling}
    (h : r.fields.Spelled fs) (hopen : r.closed = false) (hapart : r.fields.apart = true)
    (origin : Origin) : (Spelling.record fs).Faithful (r.decode origin) where
  refuses v values hv := by
    cases v with
    | object members =>
      replace hv : r.fields.ofMembers r.closed members = .ok values := hv
      rw [hopen, Fields.ofMembers_eq_ok_iff hapart] at hv
      exact h.clear_of_given hv
    | array items => exact h.clear_of_ofItems (Record.decode_array_eq_ok_iff.1 hv)
    | _ => rfl
  reads v hclear values := by
    cases v with
    | object members =>
      replace hclear : (fs.all fun f => f.clearIn members) = true := hclear
      rw [List.all_eq_true] at hclear
      have hunder (f : FieldSpelling) (hf : f ∈ fs) :=
        FieldSpelling.under_ofList_respelled (h.apart hapart) hf (hclear f hf)
      show r.fields.ofMembers r.closed _ = .ok values ↔ r.fields.ofMembers r.closed members = _
      rw [hopen, Fields.ofMembers_eq_ok_iff hapart, Fields.ofMembers_eq_ok_iff hapart]
      exact h.given_iff hclear hunder
    | array items =>
      show r.decode origin (.array _) = .ok values ↔ _
      rw [Record.decode_array_eq_ok_iff, Record.decode_array_eq_ok_iff]
      exact h.ofItems_iff hclear
    | _ => rfl
  null v := by
    cases v <;> simp [Spelling.record, Json.ofMembers]
  clear_null := rfl

end Records

/-! ## Tags -/

def Decode.byTag {α κ : Type} (description : String) (names : List (String × κ))
    (fields : κ → Decoder α) : Decoder α := fun v =>
  (Decode.splitTag description names v).bind fun (kind, rest) => fields kind rest

namespace Spelling

variable {α κ : Type} {description : String} {names : List (String × κ)}
  {decodeFields : κ → Decoder α} {tag : String} {a : α}

theorem named_eq_ok_iff {rest : Json} :
    ((Decode.nameIn names tag).bind fun kind => .ok (kind, rest)).bind
        (fun (kind, rest) => decodeFields kind rest) = .ok a ↔
      ∃ kind, Decode.nameIn names tag = .ok kind ∧ decodeFields kind rest = .ok a := by
  rw [Decode.bind_eq_ok_iff]
  constructor
  · rintro ⟨named, hnamed, hrest⟩
    obtain ⟨kind, hkind, heq⟩ := Decode.bind_eq_ok_iff.1 hnamed
    obtain rfl := Except.ok.inj heq
    exact ⟨kind, hkind, hrest⟩
  · rintro ⟨kind, hkind, hrest⟩
    exact ⟨(kind, rest), Decode.bind_eq_ok_iff.2 ⟨kind, hkind, rfl⟩, hrest⟩

theorem byTag_object_eq_ok_iff {members : List (String × Json)}
    (htag : members.lookup "type" = some (.string tag)) :
    Decode.byTag description names decodeFields (.object members) = .ok a ↔
      ∃ kind, Decode.nameIn names tag = .ok kind ∧
        decodeFields kind (.object (members.filter fun m => m.1 != "type")) = .ok a := by
  rw [Decode.byTag, Decode.splitTag, htag]
  exact named_eq_ok_iff

theorem byTag_array_eq_ok_iff {items : List Json} :
    Decode.byTag description names decodeFields (.array (.string tag :: items)) = .ok a ↔
      ∃ kind, Decode.nameIn names tag = .ok kind ∧ decodeFields kind (.array items) = .ok a :=
  named_eq_ok_iff

/-- The members beside a tag of today have no tag among them. -/
theorem filter_tagged {fs : List FieldSpelling} (hfs : ∀ f ∈ fs, f.name ≠ "type")
    {members : List (String × Json)} (hmembers : ∀ m ∈ members, m.1 ≠ "type") (v : Json) :
    (SortedMap.insertEntry "type" v
      (SortedMap.ofList (members.map (FieldSpelling.respell fs))).entries).filter
        (fun m => m.1 != "type") =
      (SortedMap.ofList (members.map (FieldSpelling.respell fs))).entries := by
  have hinsert (entries : List (String × Json)) :
      (SortedMap.insertEntry "type" v entries).filter (fun m => m.1 != "type") =
        entries.filter fun m => m.1 != "type" :=
    Json.under_insertEntry (p := (· != "type")) rfl v
  refine (hinsert _).trans (List.filter_eq_self.2 ?_)
  intro e he
  obtain ⟨m, hm, rfl⟩ := List.mem_map.1 (SortedMap.mem_of_mem_ofList he)
  rw [bne_iff_ne]
  rcases FieldSpelling.respell_fst fs m with hkey | ⟨f, hf, hname⟩
  · rw [hkey]
    exact hmembers m hm
  · rw [hname]
    exact hfs f hf

/-- Objects stay objects and lists stay lists. -/
theorem tagged_null (older : List (String × String)) (fields : String → List FieldSpelling)
    (v : Json) : (tagged older fields).modern v = .null ↔ v = .null := by
  cases v with
  | object members =>
    simp only [tagged, reduceCtorEq, iff_false]
    split
    · show Json.object _ ≠ .null
      exact Json.noConfusion
    · exact Json.noConfusion
  | array items =>
    simp only [tagged, reduceCtorEq, iff_false]
    split
    · next heq => cases heq
    · exact Json.noConfusion
    · exact Json.noConfusion
  | _ => exact Iff.rfl

section Tagged

variable {older : List (String × String)} {fields : String → List FieldSpelling}
  (hnames : ∀ tag, Decode.nameIn names (modernTag older tag) = Decode.nameIn names tag)
  (hfields : ∀ tag kind, Decode.nameIn names tag = .ok kind →
    (∀ f ∈ fields (modernTag older tag), f.name ≠ "type") ∧
      (record (fields (modernTag older tag))).Faithful (decodeFields kind))

include hfields

theorem tagged_refuses (v : Json)
    (h : Decode.byTag description names decodeFields v = .ok a) :
    (tagged older fields).clear v = true := by
  cases v with
  | object members =>
    simp only [tagged]
    split
    · next tag htag =>
      obtain ⟨kind, hkind, hrest⟩ := (byTag_object_eq_ok_iff htag).1 h
      exact (hfields tag kind hkind).2.refuses _ a hrest
    · rfl
  | array items =>
    simp only [tagged]
    split
    · next heq => cases heq
    · next tag items heq =>
      cases heq
      obtain ⟨kind, hkind, hrest⟩ := byTag_array_eq_ok_iff.1 h
      exact (hfields tag kind hkind).2.refuses _ a hrest
    · rfl
  | _ => rfl

include hnames

theorem tagged_reads (v : Json) (hclear : (tagged older fields).clear v = true) (a : α) :
    Decode.byTag description names decodeFields ((tagged older fields).modern v) = .ok a ↔
      Decode.byTag description names decodeFields v = .ok a := by
  cases v with
  | object members =>
    simp only [tagged] at hclear ⊢
    cases htag : members.lookup "type" with
    | none => rfl
    | some t =>
      cases t with
      | string tag =>
        simp only [htag] at hclear ⊢
        have hmembers : ∀ m ∈ members.filter (fun m => m.1 != "type"), m.1 ≠ "type" := by
          intro m hm
          exact bne_iff_ne.1 (List.mem_filter.1 hm).2
        -- the new tag is found in the new object, and the fields in what is left of it
        have hmodern (entries : List (String × Json)) (v : Json) :
            (SortedMap.insertEntry "type" v entries).lookup "type" = some v := by
          rw [SortedMap.lookup_insertEntry, if_pos rfl]
        show Decode.byTag _ _ _ (.object (SortedMap.insertEntry "type" _ _)) = _ ↔ _
        rw [byTag_object_eq_ok_iff (hmodern _ _), byTag_object_eq_ok_iff htag, hnames]
        refine exists_congr fun kind => and_congr_right fun hkind => ?_
        obtain ⟨hfs, hfaithful⟩ := hfields tag kind hkind
        rw [filter_tagged hfs hmembers]
        exact hfaithful.reads (.object (members.filter fun m => m.1 != "type")) hclear a
      | _ => rfl
  | array items =>
    cases items with
    | nil => rfl
    | cons t items =>
      cases t with
      | string tag =>
        show Decode.byTag _ _ _ (.array (.string (modernTag older tag) :: _)) = _ ↔ _
        rw [byTag_array_eq_ok_iff, byTag_array_eq_ok_iff, hnames]
        refine exists_congr fun kind => and_congr_right fun hkind => ?_
        exact (hfields tag kind hkind).2.reads (.array items) hclear a
      | _ => rfl
  | _ => rfl

/-- A value that goes by its tag is read as with the tag and the spellings of today, if these mean
the same as the tag and the spellings it has. -/
theorem faithful_tagged :
    (tagged older fields).Faithful (Decode.byTag description names decodeFields) where
  refuses v _ h := tagged_refuses hfields v h
  reads := tagged_reads hnames hfields
  null := tagged_null older fields
  clear_null := rfl

end Tagged

end Spelling

end StepEngine
