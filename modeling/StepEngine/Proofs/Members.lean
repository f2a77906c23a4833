import StepEngine.Step.Config

/-!
# Records from members

An encoder writes a record as pieces, each with a key of its own. A piece of an absent or an empty
field is left out.

* `Json.under` : the members with certain keys, piece by piece; `Json.under_ofList` : in the object
  that is made from the pieces;
* `Fields.knows` : a key is a spelling of one of the fields; `Fields.readAll_tail`,
  `readAll_cons_of_absent` : what the fields after the first read, and what they read when no member
  is for the first;
* `Field.Given` : the members give a field a value, by one member or by its default;
* `Fields.apart` : no key is a spelling of two fields;
* `Fields.ofMembers_eq_ok_iff` : an object is read exactly when its fields are given, whatever else
  stands there; `Record.decode_of_given` : so is a record;
* `Record.decode_array_eq_ok_iff` : a record that came as a list is read item by item;
* `Decode.natural_of_lt`, `list_map`, `members_map` : numbers, lists and objects as they are written;
* `Field.Given.required`, `optional`, `list`, `defaulted_unless` : what the usual pieces give;
* `Decode.splitTag_object`, `Fields.Given.beside_tag` : a tag and the fields beside it.
-/

namespace StepEngine

variable {α β : Type} {types : List Type}

theorem Decode.bind_eq_ok_iff {ε : Type} {result : Except ε α} {next : α → Except ε β} {b : β} :
    result.bind next = .ok b ↔ ∃ a, result = .ok a ∧ next a = .ok b := by
  cases result with
  | error cause =>
    constructor
    · intro h
      cases h
    · rintro ⟨a, h, -⟩
      cases h
  | ok a =>
    constructor
    · intro h
      exact ⟨a, rfl, h⟩
    · rintro ⟨a, ha, h⟩
      cases ha
      exact h

/-! ## The members with certain keys -/

namespace Json

/-- The members whose keys satisfy `p`. -/
def under (p : String → Bool) (members : List (String × Json)) : List (String × Json) :=
  members.filter fun m => p m.1

variable {p q : String → Bool} {members : List (String × Json)}

@[simp] theorem under_nil : under p [] = [] := rfl

@[simp] theorem under_append (l m : List (String × Json)) :
    under p (l ++ m) = under p l ++ under p m :=
  List.filter_append l m

@[simp] theorem under_cons (key : String) (v : Json) (m : List (String × Json)) :
    under p ((key, v) :: m) = if p key then (key, v) :: under p m else under p m :=
  List.filter_cons

/-- An optional piece. -/
@[simp] theorem under_toList (key : String) (encode : β → Json) (o : Option β) :
    under p (o.map fun a => (key, encode a)).toList =
      if p key then (o.map fun a => (key, encode a)).toList else [] := by
  cases o with
  | none => exact (ite_self _).symm
  | some a => exact under_cons key (encode a) []

/-- An optional piece that is written as it is. -/
@[simp] theorem under_toList_same (key : String) (o : Option Json) :
    under p (o.map fun v => (key, v)).toList =
      if p key then (o.map fun v => (key, v)).toList else [] :=
  under_toList key id o

@[simp] theorem under_textMember (key : String) (text : Option String) :
    under p (TriggerInfo.textMember key text) =
      if p key then TriggerInfo.textMember key text else [] :=
  under_toList key Json.string text

@[simp] theorem under_schemaMember (key : String) (s : Option Schema) :
    under p (schemaMember key s) = if p key then schemaMember key s else [] :=
  under_toList key Schema.toJson s

/-- A piece that is left out when there is nothing in it. -/
@[simp] theorem under_unless (empty : Prop) [Decidable empty] (key : String) (v : Json) :
    under p (if empty then [] else [(key, v)]) =
      if p key then (if empty then [] else [(key, v)]) else [] := by
  by_cases h : empty
  · rw [if_pos h]
    exact (ite_self _).symm
  · rw [if_neg h]
    exact under_cons key v []

@[simp] theorem under_listMember (key : String) (encode : β → Json) (items : List β) :
    under p (StepConfig.listMember key encode items) =
      if p key then StepConfig.listMember key encode items else [] :=
  under_unless (items.isEmpty = true) key _

theorem under_insertEntry {key : String} (h : p key = false) (v : Json) :
    under p (SortedMap.insertEntry key v members) = under p members := by
  induction members with
  | nil => simp [SortedMap.insertEntry, h]
  | cons m members ih =>
    obtain ⟨k, w⟩ := m
    rw [SortedMap.insertEntry]
    split
    · rw [under_cons, if_neg (by simp [h])]
    · split
      · next heq => simp [← heq, h]
      · rw [under_cons, ih, under_cons]

/-- The first entry with one of the keys. -/
theorem under_insertEntry_of_nil {key : String} (h : p key = true) (hnone : under p members = [])
    (v : Json) : under p (SortedMap.insertEntry key v members) = [(key, v)] := by
  induction members with
  | nil => simp [SortedMap.insertEntry, h]
  | cons m members ih =>
    obtain ⟨k, w⟩ := m
    obtain ⟨hk, hrest⟩ := List.filter_eq_nil_iff.1 hnone |> List.forall_mem_cons.1
    have hmembers : under p members = [] := List.filter_eq_nil_iff.2 hrest
    rw [SortedMap.insertEntry]
    split
    · rw [under_cons, if_pos h, hnone]
    · split
      · rw [under_cons, if_pos h, hmembers]
      · rw [under_cons, if_neg hk, ih hmembers]

theorem under_foldl_insert {d : Dict Json}
    (h : (under p d.entries ++ under p members).length ≤ 1) :
    under p (members.foldl (fun d e => d.insert e.1 e.2) d).entries =
      under p d.entries ++ under p members := by
  induction members generalizing d with
  | nil => simp
  | cons m members ih =>
    obtain ⟨key, v⟩ := m
    have hentries : (d.insert key v).entries = SortedMap.insertEntry key v d.entries := rfl
    rw [under_cons] at h ⊢
    rw [List.foldl_cons]
    by_cases hkey : p key = true
    · rw [if_pos hkey, List.length_append, List.length_cons] at h
      have hbefore : under p d.entries = [] := List.length_eq_zero_iff.1 (by omega)
      have hafter : under p members = [] := List.length_eq_zero_iff.1 (by omega)
      have hinsert : under p (d.insert key v).entries = [(key, v)] := by
        rw [hentries, under_insertEntry_of_nil hkey hbefore]
      rw [if_pos hkey, ih (by simp [hinsert, hafter]), hinsert, hbefore]
      rfl
    · have hinsert : under p (d.insert key v).entries = under p d.entries := by
        rw [hentries, under_insertEntry (Bool.eq_false_iff.2 hkey)]
      rw [if_neg hkey] at h ⊢
      rw [ih (by rw [hinsert]; exact h), hinsert]

/-- A map that is made from members shows those with certain keys, if there is one at most. -/
theorem under_ofList (h : (under p members).length ≤ 1) :
    under p (SortedMap.ofList members).entries = under p members :=
  under_foldl_insert (d := SortedMap.empty) h

/-- Members with other keys may go first. -/
theorem under_filter (h : ∀ key, p key = true → q key = true) :
    under p (members.filter fun m => q m.1) = under p members := by
  rw [under, List.filter_filter]
  refine List.filter_congr fun m _ => ?_
  cases hp : p m.1 with
  | false => rfl
  | true => exact h m.1 hp

theorem lookup_of_under {key : String} {v : Json} (h : under (· == key) members = [(key, v)]) :
    members.lookup key = some v := by
  obtain ⟨before, after, hmembers, hbefore, -, -⟩ := List.filter_eq_cons_iff.1 h
  refine List.lookup_eq_some_iff.2 ⟨before, after, hmembers, fun m hm => ?_⟩
  rw [bne_iff_ne]
  rintro rfl
  exact hbefore m hm (beq_self_eq_true _)

end Json

namespace Fields

/-! ## Members without a field -/

/-- A key is a spelling of one of the fields. -/
def knows : {types : List Type} → Fields types → (key : String) → Bool
  | _, nil, _ => false
  | _, cons field rest, key => field.isNamed key || rest.knows key

theorem read_of_not_knows {fields : Fields types} {key : String} (h : fields.knows key = false)
    (slots : Slots types) (v : Json) : fields.read slots key v = .ok none := by
  induction fields with
  | nil => rfl
  | cons field rest ih =>
    obtain ⟨slot, slots⟩ := slots
    rw [knows, Bool.or_eq_false_iff] at h
    simp only [read, h.1, Bool.false_eq_true, if_false, ih h.2]
    rfl

/-- Reading one more member of a record that passes over what it does not know. -/
theorem readAll_cons (fields : Fields types) (slots : Slots types) (key : String) (v : Json)
    (members : List (String × Json)) :
    fields.readAll false slots ((key, v) :: members) =
      (fields.read slots key v).bind fun read =>
        fields.readAll false (read.getD slots) members := by
  rw [readAll]
  rcases fields.read slots key v with _ | _ | _ <;> rfl

theorem readAll_cons_of_not_knows {fields : Fields types} {key : String}
    (h : fields.knows key = false) (slots : Slots types) (v : Json)
    (members : List (String × Json)) :
    fields.readAll false slots ((key, v) :: members) = fields.readAll false slots members := by
  rw [readAll_cons, read_of_not_knows h]
  rfl

/-! ## The first field and the others -/

theorem read_cons_of_not_named {field : Field α} {key : String} (h : field.isNamed key = false)
    (rest : Fields types) (slot : Option α) (slots : Slots types) (v : Json) :
    (cons field rest).read (slot, slots) key v =
      (rest.read slots key v).map fun read => read.map (slot, ·) := by
  simp only [read, h, Bool.false_eq_true, if_false]
  rcases rest.read slots key v with _ | _ | _ <;> rfl

/-- What the fields after the first have read, when no member is for the first. -/
theorem readAll_cons_of_absent {field : Field α} (rest : Fields types) (slot : Option α)
    (slots : Slots types) {members : List (String × Json)}
    (h : ∀ m ∈ members, field.isNamed m.1 = false) :
    (cons field rest).readAll false (slot, slots) members =
      (rest.readAll false slots members).map (slot, ·) := by
  induction members generalizing slots with
  | nil => rfl
  | cons m members ih =>
    obtain ⟨key, v⟩ := m
    have ih (slots : Slots types) := ih slots fun m hm => h m (List.mem_cons_of_mem _ hm)
    refine (readAll_cons (cons field rest) _ key v members).trans ?_
    simp only [read_cons_of_not_named (h (key, v) List.mem_cons_self), readAll_cons]
    rcases rest.read slots key v with _ | _ | read
    · rfl
    · exact ih slots
    · exact ih read

/-- The fields after the first read what is left without the members of the first. -/
theorem readAll_tail {field : Field α} {rest : Fields types} {members : List (String × Json)}
    {slot slot' : Option α} {slots slots' : Slots types}
    (h : (cons field rest).readAll false (slot, slots) members = .ok (slot', slots')) :
    rest.readAll false slots (members.filter fun m => !field.isNamed m.1) = .ok slots' := by
  induction members generalizing slot slots with
  | nil =>
    obtain ⟨-, rfl⟩ := Prod.mk.inj (Except.ok.inj h)
    rfl
  | cons m members ih =>
    obtain ⟨key, v⟩ := m
    replace h := (readAll_cons (cons field rest) _ key v members).symm.trans h
    cases hn : field.isNamed key with
    | true =>
      rw [List.filter_cons_of_neg (by simp [hn])]
      simp only [read, hn, if_true] at h
      cases slot with
      | some _ => cases h
      | none =>
        rcases hd : field.decode v with cause | a
        · rw [hd] at h
          cases h
        · rw [hd] at h
          exact ih h
    | false =>
      rw [List.filter_cons_of_pos (by simp [hn]), readAll_cons]
      simp only [read_cons_of_not_named hn] at h
      rcases hr : rest.read slots key v with cause | _ | read
      · rw [hr] at h
        cases h
      · rw [hr] at h
        exact ih h
      · rw [hr] at h
        exact ih h

theorem complete_cons_of_default {field : Field α} {a : α} (h : field.default? = some a)
    (rest : Fields types) (slot : Option α) (slots : Slots types) :
    (cons field rest).complete (slot, slots) =
      (rest.complete slots).map fun values => (slot.getD a, values) := by
  simp only [complete, h]
  cases slot <;> rfl

end Fields

/-! ## Fields that are given -/

/-- The members give the field a value: one of them is for it, or none and it has a default. -/
inductive Field.Given (field : Field α) (members : List (String × Json)) (a : α) : Prop
  | member (key : String) {v : Json} (hunder : Json.under field.isNamed members = [(key, v)])
      (hdecode : field.decode v = .ok a)
  | missing (hunder : Json.under field.isNamed members = []) (hdefault : field.default? = some a)

namespace Field

variable {field : Field α} {members : List (String × Json)} {a : α}

theorem given_iff_of_under_nil (h : Json.under field.isNamed members = []) :
    field.Given members a ↔ field.default? = some a := by
  constructor
  · intro hgiven
    cases hgiven with
    | member key hunder _ =>
      rw [h] at hunder
      cases hunder
    | missing _ hdefault => exact hdefault
  · intro hdefault
    exact .missing h hdefault

theorem given_iff_of_under_singleton {key : String} {v : Json}
    (h : Json.under field.isNamed members = [(key, v)]) :
    field.Given members a ↔ field.decode v = .ok a := by
  constructor
  · intro hgiven
    cases hgiven with
    | member key hunder hdecode =>
      rw [h] at hunder
      cases hunder
      exact hdecode
    | missing hunder _ =>
      rw [h] at hunder
      cases hunder
  · intro hdecode
    exact .member key h hdecode

end Field

namespace Fields

/-- The members give each field a value. -/
def Given : {types : List Type} → Fields types → (members : List (String × Json)) →
    Values types → Prop
  | _, nil, _, () => True
  | _, cons field rest, members, (a, values) => field.Given members a ∧ rest.Given members values

/-- No key is a spelling of two fields. -/
def apart : {types : List Type} → Fields types → Bool
  | _, nil => true
  | _, cons field rest =>
    (field.name :: field.aliases).all (fun key => !rest.knows key) && rest.apart

/-- Members that no field knows do not matter. -/
theorem Given.of_under {fields : Fields types} {members members' : List (String × Json)}
    {values : Values types} (h : fields.Given members values)
    (hsame : ∀ p : String → Bool, (∀ key, p key = true → fields.knows key = true) →
      Json.under p members' = Json.under p members) : fields.Given members' values := by
  induction fields with
  | nil => trivial
  | cons field rest ih =>
    obtain ⟨a, values⟩ := values
    obtain ⟨hfield, hrest⟩ := h
    have hunder := hsame field.isNamed fun key hkey => by rw [knows, hkey, Bool.true_or]
    have hothers (p : String → Bool) (hp : ∀ key, p key = true → rest.knows key = true) :=
      hsame p fun key hkey => by rw [knows, hp key hkey, Bool.or_true]
    refine ⟨?_, ih hrest hothers⟩
    cases hfield with
    | member key hone hdecode => exact .member key (hunder.trans hone) hdecode
    | missing hnone hdefault => exact .missing (hunder.trans hnone) hdefault

/-- The members of an object with one more member that no field knows. -/
theorem Given.insertEntry {fields : Fields types} {members : List (String × Json)}
    {values : Values types} (h : fields.Given members values) {key : String}
    (hkey : fields.knows key = false) (v : Json) :
    fields.Given (SortedMap.insertEntry key v members) values := by
  refine h.of_under fun p hp => Json.under_insertEntry (Bool.eq_false_iff.2 fun hnamed => ?_) v
  rw [hp key hnamed] at hkey
  cases hkey

/-- The members beside a tag. -/
theorem Given.beside_tag {fields : Fields types} {members : List (String × Json)}
    {values : Values types} (h : fields.Given members values)
    (htag : fields.knows "type" = false) :
    fields.Given (members.filter fun m => m.1 != "type") values := by
  refine h.of_under fun p hp => Json.under_filter (q := (· != "type")) fun key hnamed => ?_
  rw [bne_iff_ne]
  rintro rfl
  rw [hp "type" hnamed] at htag
  cases htag

theorem not_knows_of_apart {field : Field α} {rest : Fields types}
    (h : (cons field rest).apart = true) {key : String} (hkey : field.isNamed key = true) :
    rest.knows key = false := by
  rw [apart, Bool.and_eq_true, List.all_eq_true] at h
  rw [Field.isNamed, Bool.or_eq_true, beq_iff_eq, List.contains_iff_mem] at hkey
  simpa using h.1 key (List.mem_cons.2 hkey)

theorem readAll_append (fields : Fields types) (slots : Slots types)
    (l m : List (String × Json)) :
    fields.readAll false slots (l ++ m) =
      (fields.readAll false slots l).bind fun slots => fields.readAll false slots m := by
  induction l generalizing slots with
  | nil => rfl
  | cons e l ih =>
    obtain ⟨key, v⟩ := e
    rw [List.cons_append, readAll_cons, readAll_cons]
    simp only [ih]
    cases fields.read slots key v <;> rfl

/-- The first field is read from its one member, the others from the rest. -/
theorem readAll_cons_of_member {field : Field α} {rest : Fields types}
    (hapart : (cons field rest).apart = true) {members : List (String × Json)} {key : String}
    {v : Json} {a : α} (hunder : Json.under field.isNamed members = [(key, v)])
    (hdecode : field.decode v = .ok a) (slots : Slots types) :
    (cons field rest).readAll false (none, slots) members =
      (rest.readAll false slots members).map (some a, ·) := by
  obtain ⟨before, after, rfl, hbefore, hnamed, hafter⟩ := List.filter_eq_cons_iff.1 hunder
  have hunknown := not_knows_of_apart hapart hnamed
  have habsent : ∀ m ∈ after, field.isNamed m.1 = false := fun m hm =>
    Bool.eq_false_iff.2 (List.filter_eq_nil_iff.1 hafter m hm)
  refine (readAll_append (cons field rest) _ before _).trans ?_
  rw [readAll_append rest, readAll_cons_of_absent rest none slots
    fun m hm => Bool.eq_false_iff.2 (hbefore m hm)]
  rcases rest.readAll false slots before with cause | slots
  · rfl
  · refine (readAll_cons (cons field rest) (none, slots) key v after).trans ?_
    simp only [read, hnamed, if_true, hdecode]
    refine (readAll_cons_of_absent rest (some a) slots habsent).trans ?_
    exact congrArg (Except.map (some a, ·)) (readAll_cons_of_not_knows hunknown slots v after).symm

theorem ofMembers_cons {field : Field α} {rest : Fields types}
    (hapart : (cons field rest).apart = true) {members : List (String × Json)} {a : α}
    (h : field.Given members a) :
    (cons field rest).ofMembers false members = (rest.ofMembers false members).map (a, ·) := by
  change ((cons field rest).readAll false (none, rest.unread) members).bind _ =
    ((rest.readAll false rest.unread members).bind rest.complete).map (a, ·)
  cases h with
  | member key hunder hdecode =>
    rw [readAll_cons_of_member hapart hunder hdecode]
    cases rest.readAll false rest.unread members <;> rfl
  | missing hunder hdefault =>
    rw [readAll_cons_of_absent rest none rest.unread
      fun m hm => Bool.eq_false_iff.2 (List.filter_eq_nil_iff.1 hunder m hm)]
    rcases rest.readAll false rest.unread members with cause | slots
    · rfl
    · exact complete_cons_of_default hdefault rest none slots

theorem ofMembers_of_given {fields : Fields types} (hapart : fields.apart = true)
    {members : List (String × Json)} {values : Values types} (h : fields.Given members values) :
    fields.ofMembers false members = .ok values := by
  induction fields with
  | nil =>
    induction members with
    | nil => rfl
    | cons m members ih => exact ih h
  | cons field rest ih =>
    obtain ⟨a, values⟩ := values
    obtain ⟨hfield, hrest⟩ := h
    have hrestApart : rest.apart = true := (Bool.and_eq_true _ _ ▸ hapart).2
    rw [ofMembers_cons hapart hfield, ih hrestApart hrest]
    rfl

/-- What the first field has read: nothing when no member is for it, its one member otherwise. -/
theorem readAll_head {field : Field α} {rest : Fields types} {members : List (String × Json)}
    {slot slot' : Option α} {slots slots' : Slots types}
    (h : (cons field rest).readAll false (slot, slots) members = .ok (slot', slots')) :
    (Json.under field.isNamed members = [] ∧ slot' = slot) ∨
    ∃ key v a, Json.under field.isNamed members = [(key, v)] ∧ field.decode v = .ok a ∧
      slot = none ∧ slot' = some a := by
  induction members generalizing slot slots with
  | nil =>
    obtain ⟨hslot, -⟩ := Prod.mk.inj (Except.ok.inj h)
    exact .inl ⟨rfl, hslot.symm⟩
  | cons m members ih =>
    obtain ⟨key, v⟩ := m
    replace h := (readAll_cons (cons field rest) _ key v members).symm.trans h
    rw [Json.under_cons]
    cases hn : field.isNamed key with
    | true =>
      simp only [read, hn, if_true] at h
      cases slot with
      | some _ => cases h
      | none =>
        cases hd : field.decode v with
        | error cause =>
          rw [hd] at h
          cases h
        | ok a =>
          rw [hd] at h
          rcases ih h with ⟨hunder, hslot⟩ | ⟨_, _, _, -, -, hslot, -⟩
          · refine .inr ⟨key, v, a, ?_, hd, rfl, hslot⟩
            rw [if_pos rfl, hunder]
          · cases hslot
    | false =>
      rw [if_neg Bool.false_ne_true]
      simp only [read_cons_of_not_named hn] at h
      rcases hr : rest.read slots key v with cause | _ | read
      · rw [hr] at h
        cases h
      · rw [hr] at h
        exact ih h
      · rw [hr] at h
        exact ih h

theorem of_complete_cons {field : Field α} {rest : Fields types} {slot : Option α}
    {slots : Slots types} {a : α} {values : Values types}
    (h : (cons field rest).complete (slot, slots) = .ok (a, values)) :
    (slot = some a ∨ slot = none ∧ field.default? = some a) ∧ rest.complete slots = .ok values := by
  cases slot with
  | some b =>
    obtain ⟨others, hrest, h⟩ := Decode.bind_eq_ok_iff.1 h
    cases h
    exact ⟨.inl rfl, hrest⟩
  | none =>
    simp only [complete] at h
    cases hdefault : field.default? with
    | none =>
      rw [hdefault] at h
      cases h
    | some b =>
      rw [hdefault] at h
      obtain ⟨others, hrest, h⟩ := Decode.bind_eq_ok_iff.1 h
      cases h
      exact ⟨.inr ⟨rfl, rfl⟩, hrest⟩

theorem given_of_ofMembers {fields : Fields types} (hapart : fields.apart = true)
    {members : List (String × Json)} {values : Values types}
    (h : fields.ofMembers false members = .ok values) : fields.Given members values := by
  induction fields generalizing members with
  | nil => trivial
  | cons field rest ih =>
    obtain ⟨a, values⟩ := values
    have hrestApart : rest.apart = true := (Bool.and_eq_true _ _ ▸ hapart).2
    change ((cons field rest).readAll false (none, rest.unread) members).bind _ = _ at h
    obtain ⟨⟨slot, slots⟩, hread, hcomplete⟩ := Decode.bind_eq_ok_iff.1 h
    obtain ⟨hslot, hcomplete⟩ := of_complete_cons hcomplete
    -- the other fields have read what is left without the members of the first
    have hrest : rest.ofMembers false (members.filter fun m => !field.isNamed m.1) =
        .ok values := by
      change (rest.readAll false rest.unread _).bind _ = _
      rw [readAll_tail hread]
      exact hcomplete
    refine ⟨?_, (ih hrestApart hrest).of_under ?_⟩
    · rcases readAll_head hread with ⟨hunder, rfl⟩ | ⟨key, v, b, hunder, hdecode, -, rfl⟩
      · rcases hslot with hslot | ⟨-, hdefault⟩
        · cases hslot
        · exact .missing hunder hdefault
      · rcases hslot with hslot | ⟨hslot, -⟩
        · rw [Option.some.inj hslot] at hdecode
          exact .member key hunder hdecode
        · cases hslot
    · intro p hp
      refine (Json.under_filter (q := fun key => !field.isNamed key) ?_).symm
      intro key hkey
      rw [Bool.not_eq_true']
      refine Bool.eq_false_iff.2 fun hnamed => ?_
      have hunknown := not_knows_of_apart hapart hnamed
      rw [hp key hkey] at hunknown
      cases hunknown

/-- An object is read exactly when its members give each field a value. -/
theorem ofMembers_eq_ok_iff {fields : Fields types} (hapart : fields.apart = true)
    {members : List (String × Json)} {values : Values types} :
    fields.ofMembers false members = .ok values ↔ fields.Given members values :=
  ⟨given_of_ofMembers hapart, ofMembers_of_given hapart⟩

end Fields

theorem Record.decode_of_given {r : Record types} (hopen : r.closed = false)
    (hapart : r.fields.apart = true) {members : List (String × Json)} {values : Values types}
    (h : r.fields.Given members values) (origin : Origin) :
    r.decode origin (.object members) = .ok values := by
  rw [Record.decode, hopen]
  exact Fields.ofMembers_of_given hapart h

/-- What is made of the values of a record whose fields are given. -/
theorem Record.bind_of_given {r : Record types} (hopen : r.closed = false)
    (hapart : r.fields.apart = true) {members : List (String × Json)} {values : Values types}
    (h : r.fields.Given members values) (origin : Origin)
    (make : Values types → Except DecodeError β) :
    (r.decode origin (.object members)).bind make = make values := by
  rw [decode_of_given hopen hapart h]
  rfl

/-! ## Records from lists -/

theorem Fields.ofItems_cons_eq_ok_iff {field : Field α} {rest : Fields types}
    {description : String} {total position : Nat} {v : Json} {items left : List Json} {a : α}
    {values : Values types} :
    (cons field rest).ofItems description total position (v :: items) = .ok ((a, values), left) ↔
      field.decode v = .ok a ∧
        rest.ofItems description total (position + 1) items = .ok (values, left) := by
  change (field.decode v).bind _ = _ ↔ _
  rw [Decode.bind_eq_ok_iff]
  constructor
  · rintro ⟨b, hb, h⟩
    obtain ⟨⟨others, left'⟩, hothers, h⟩ := Decode.bind_eq_ok_iff.1 h
    cases h
    exact ⟨hb, hothers⟩
  · rintro ⟨ha, hrest⟩
    exact ⟨a, ha, Decode.bind_eq_ok_iff.2 ⟨_, hrest, rfl⟩⟩

theorem Record.decode_array_eq_ok_iff {r : Record types} {origin : Origin} {items : List Json}
    {values : Values types} :
    r.decode origin (.array items) = .ok values ↔
      r.fields.ofItems r.description r.fields.count 0 items = .ok (values, []) := by
  change (r.fields.ofItems r.description r.fields.count 0 items).bind _ = _ ↔ _
  rw [Decode.bind_eq_ok_iff]
  constructor
  · rintro ⟨⟨others, left⟩, hitems, h⟩
    cases left with
    | nil =>
      cases h
      exact hitems
    | cons _ _ => cases h
  · intro h
    exact ⟨_, h, rfl⟩

/-! ## The usual pieces -/

namespace Field

variable (name key : String) (decode : Decoder α) (aliases : List String)

@[simp] theorem isNamed_required :
    (required name decode aliases).isNamed key = (key == name || aliases.contains key) := rfl

@[simp] theorem isNamed_defaulted (default : α) :
    (defaulted name decode default aliases).isNamed key =
      (key == name || aliases.contains key) := rfl

@[simp] theorem isNamed_optional :
    (optional name decode aliases).isNamed key = (key == name || aliases.contains key) := rfl

end Field

theorem Decode.integer_of_range (type : String) {low high i : Int} (hlow : low ≤ i)
    (hhigh : i ≤ high) : Decode.integer type low high (.number (.int i)) = .ok i :=
  if_pos ⟨hlow, hhigh⟩

/-- A natural number that fits into a width. -/
theorem Decode.natural_of_lt (type : String) (width : Nat) {n : Nat} (h : n < Nat.pow 2 width) :
    Decode.integer type 0 (Int.pow 2 width - 1) (.ofNat n) = .ok (n : Int) := by
  have hpow : Int.pow 2 width = (Nat.pow 2 width : Int) := (Int.natCast_pow 2 width).symm
  exact Decode.integer_of_range type (by omega) (by omega)

theorem Decode.list_map {decode : Decoder α} {encode : β → Json} {read : β → α} {items : List β}
    (h : ∀ b ∈ items, decode (encode b) = .ok (read b)) :
    Decode.list decode (.array (items.map encode)) = .ok (items.map read) := by
  change Decode.items decode (items.map encode) = .ok (items.map read)
  induction items with
  | nil => rfl
  | cons b items ih =>
    obtain ⟨hb, hitems⟩ := List.forall_mem_cons.1 h
    rw [List.map_cons, Decode.items, hb, ih hitems]
    rfl

theorem Decode.members_map {decode : Decoder α} {encode : β → Json} {read : β → α}
    (h : ∀ b, decode (encode b) = .ok (read b)) (entries : List (String × β)) :
    Decode.members decode (entries.map fun e => (e.1, encode e.2)) =
      .ok (entries.map fun e => (e.1, read e.2)) := by
  induction entries with
  | nil => rfl
  | cons e entries ih =>
    rw [List.map_cons, Decode.members, h, ih]
    rfl

namespace Field.Given

variable {name : String} {decode : Decoder α} {aliases : List String}
  {members : List (String × Json)} {encode : β → Json} {read : β → α} (key : String)

/-- A field that has to be there. -/
theorem required {v : Json} {a : α}
    (hunder : Json.under (Field.required name decode aliases).isNamed members = [(key, v)])
    (hcodec : decode v = .ok a) : (Field.required name decode aliases).Given members a :=
  .member key hunder hcodec

/-- A field that has a default and is there nevertheless. -/
theorem defaulted {v : Json} {a default : α}
    (hunder : Json.under (Field.defaulted name decode default aliases).isNamed members = [(key, v)])
    (hcodec : decode v = .ok a) : (Field.defaulted name decode default aliases).Given members a :=
  .member key hunder hcodec

/-- A field that is left out when it has its default. -/
theorem defaulted_unless {absent : Bool} {v : Json} {a default : α}
    (hunder : Json.under (Field.defaulted name decode default aliases).isNamed members =
      if absent then [] else [(key, v)])
    (hdefault : absent = true → default = a) (hcodec : decode v = .ok a) :
    (Field.defaulted name decode default aliases).Given members a := by
  cases absent with
  | true => exact .missing hunder (congrArg some (hdefault rfl))
  | false => exact .member key hunder hcodec

/-- A text that has to be there. -/
theorem text {s : String}
    (hunder : Json.under (Field.required name Decode.text aliases).isNamed members =
      [(key, .string s)]) : (Field.required name Decode.text aliases).Given members s :=
  .member key hunder rfl

/-- A boolean that has a default and is there nevertheless. -/
theorem boolean {b default : Bool}
    (hunder : Json.under (Field.defaulted name Decode.boolean default aliases).isNamed members =
      [(key, .bool b)]) :
    (Field.defaulted name Decode.boolean default aliases).Given members b :=
  .member key hunder rfl

/-- A field that is left out when there is nothing for it. A `null` would be read as nothing. -/
theorem optional {o : Option β}
    (hunder : Json.under (Field.optional name decode aliases).isNamed members =
      (o.map fun b => (key, encode b)).toList)
    (hcodec : ∀ b ∈ o, decode (encode b) = .ok (read b)) (hnull : ∀ b ∈ o, encode b ≠ .null) :
    (Field.optional name decode aliases).Given members (o.map read) := by
  cases o with
  | none => exact .missing hunder rfl
  | some b =>
    refine .member key hunder ?_
    change Decode.optional decode (encode b) = .ok (some (read b))
    have hdecode := hcodec b rfl
    have hencode := hnull b rfl
    unfold Decode.optional
    split
    · contradiction
    · rw [hdecode]
      rfl

/-- An optional field that is read as it was. -/
theorem optional_same {encode : α → Json} {o : Option α}
    (hunder : Json.under (Field.optional name decode aliases).isNamed members =
      (o.map fun a => (key, encode a)).toList)
    (hcodec : ∀ a, decode (encode a) = .ok a) (hnull : ∀ a, encode a ≠ .null) :
    (Field.optional name decode aliases).Given members o := by
  have h := optional key hunder (fun a _ => hcodec a) fun a _ => hnull a
  rwa [Option.map_id'] at h

/-- An optional text. -/
theorem optional_text {o : Option String}
    (hunder : Json.under (Field.optional name Decode.text aliases).isNamed members =
      TriggerInfo.textMember key o) :
    (Field.optional name Decode.text aliases).Given members o :=
  optional_same key hunder (fun _ => rfl) nofun

/-- A list that is left out when it is empty. -/
theorem list {items : List β}
    (hunder : Json.under (Field.defaulted name (Decode.list decode) [] aliases).isNamed members =
      StepConfig.listMember key encode items)
    (hcodec : ∀ b ∈ items, decode (encode b) = .ok (read b)) :
    (Field.defaulted name (Decode.list decode) [] aliases).Given members (items.map read) :=
  .defaulted_unless key hunder
    (fun hempty => (List.map_eq_nil_iff.2 (List.isEmpty_iff.1 hempty)).symm)
    (Decode.list_map hcodec)

/-- A list that is read as it was. -/
theorem list_same {encode : α → Json} {items : List α}
    (hunder : Json.under (Field.defaulted name (Decode.list decode) [] aliases).isNamed members =
      StepConfig.listMember key encode items)
    (hcodec : ∀ a, decode (encode a) = .ok a) :
    (Field.defaulted name (Decode.list decode) [] aliases).Given members items := by
  have h := list key hunder fun a _ => hcodec a
  rwa [List.map_id'] at h

/-- A list of texts. -/
theorem texts {items : List String}
    (hunder : Json.under
      (Field.defaulted name (Decode.list Decode.text) [] aliases).isNamed members =
        StepConfig.listMember key Json.string items) :
    (Field.defaulted name (Decode.list Decode.text) [] aliases).Given members items :=
  list_same key hunder fun _ => rfl

end Field.Given

/-! ## Tags -/

theorem Decode.splitTag_object {names : List (String × α)} {name : String} {a : α}
    {members : List (String × Json)}
    (htag : Json.under (· == "type") members = [("type", .string name)])
    (hname : Decode.nameIn names name = .ok a) (description : String) :
    Decode.splitTag description names (.object members) =
      .ok (a, .object (members.filter fun m => m.1 != "type")) := by
  rw [Decode.splitTag, Json.lookup_of_under htag]
  change (Decode.nameIn names name).bind _ = _
  rw [hname]
  rfl

end StepEngine
