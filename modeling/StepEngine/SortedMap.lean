/-!
# Maps with sorted keys

`SortedMap κ α` is a list of entries whose keys ascend strictly. Two maps with the same entries are
equal, and the order of the entries is the order in which they are shown. `Dict α` has texts for
keys, in the order of their code points.

* `SortedMap.insertEntry` : an entry put in its place in a list, over one of the same key;
* `SortedMap.insert`, `find?`, `ofList` : on maps; of two entries with one key given to `ofList`,
  the later stays;
* `SortedMap.find?_insert` : what a look-up finds after an insertion;
* `SortedMap.ofList_entries`, `ofList_eq_of_perm` : a map is rebuilt from its entries, in any order;
* `SortedMap.mem_of_mem_ofList` : a map made from a list has no entries but those of the list;
* `SortedMap.find?_eq_some_iff`, `find?_ofList` : look-ups by the entries of a map, and by those of
  the list that it was made from;
* `SortedMap.keys_eq_iff` : two maps have the same keys when each key of one is in the other;
* `SortedMap.filter_eq_of_find?` : they have the same entries of certain keys when these are looked
  up alike.
-/

namespace StepEngine

namespace SortedMap

variable {κ : Type} [LT κ] [DecidableLT κ] [DecidableEq κ] {α β : Type}

/-- An entry put before the first entry of a greater key, in the place of one of the same key. -/
def insertEntry (key : κ) (value : α) : List (κ × α) → List (κ × α)
  | [] => [(key, value)]
  | (k, v) :: rest =>
    if key < k then (key, value) :: (k, v) :: rest
    else if key = k then (key, value) :: rest
    else (k, v) :: insertEntry key value rest

def Ascending (entries : List (κ × α)) : Prop :=
  entries.Pairwise (fun a b => a.1 < b.1)

theorem mem_insertEntry {key : κ} {value : α} {entries : List (κ × α)}
    {e : κ × α} (h : e ∈ insertEntry key value entries) : e = (key, value) ∨ e ∈ entries := by
  induction entries with
  | nil => simpa [insertEntry] using h
  | cons head rest ih =>
    obtain ⟨k, v⟩ := head
    simp only [insertEntry] at h
    split at h
    · simpa using h
    · split at h
      · simp only [List.mem_cons] at h ⊢
        rcases h with h | h
        · exact .inl h
        · exact .inr (.inr h)
      · simp only [List.mem_cons] at h ⊢
        rcases h with h | h
        · exact .inr (.inl h)
        · rcases ih h with h | h
          · exact .inl h
          · exact .inr (.inr h)

omit [LT κ] [DecidableLT κ] in
theorem lookup_cons_eq (name k : κ) (v : α) (rest : List (κ × α)) :
    ((k, v) :: rest).lookup name = if name = k then some v else rest.lookup name := by
  rw [List.lookup_cons]
  by_cases h : name = k
  · simp [h]
  · simp [h, beq_eq_false_iff_ne.2 h]

omit [LT κ] [DecidableLT κ] in
/-- Of entries with different keys each is found. -/
theorem lookup_of_mem {entries : List (κ × α)} (h : (entries.map (·.1)).Nodup) {e : κ × α}
    (he : e ∈ entries) : entries.lookup e.1 = some e.2 := by
  induction entries with
  | nil => cases he
  | cons head rest ih =>
    obtain ⟨k, v⟩ := head
    rw [List.map_cons, List.nodup_cons] at h
    rw [lookup_cons_eq]
    rcases List.mem_cons.1 he with rfl | hrest
    · rw [if_pos rfl]
    · have hne : e.1 ≠ k := fun heq => h.1 (List.mem_map.2 ⟨e, hrest, heq⟩)
      rw [if_neg hne]
      exact ih h.2 hrest

theorem lookup_insertEntry (entries : List (κ × α)) (key name : κ) (value : α) :
    (insertEntry key value entries).lookup name =
      if name = key then some value else entries.lookup name := by
  induction entries with
  | nil => rw [insertEntry, lookup_cons_eq]
  | cons head rest ih =>
    obtain ⟨k, v⟩ := head
    simp only [insertEntry]
    split
    · rw [lookup_cons_eq]
    · split
      · next heq =>
        subst heq
        rw [lookup_cons_eq, lookup_cons_eq]
        split <;> rfl
      · next hne =>
        rw [lookup_cons_eq, lookup_cons_eq, ih]
        by_cases hn : name = k
        · subst hn
          simp [Ne.symm hne]
        · simp [hn]

section LinearOrder

variable [LE κ] [Std.IsLinearOrder κ] [Std.LawfulOrderLT κ]

omit [DecidableLT κ] [DecidableEq κ] in
theorem lt_of_not_lt_of_ne {a b : κ} (h : ¬a < b) (hne : a ≠ b) : b < a :=
  Std.lt_of_le_of_ne (Std.not_lt.1 h) (Ne.symm hne)

theorem Ascending.insertEntry {entries : List (κ × α)} (h : Ascending entries)
    (key : κ) (value : α) : Ascending (insertEntry key value entries) := by
  induction entries with
  | nil => simp [SortedMap.insertEntry, Ascending]
  | cons head rest ih =>
    obtain ⟨k, v⟩ := head
    obtain ⟨hk, hrest⟩ := List.pairwise_cons.1 h
    simp only [SortedMap.insertEntry]
    split
    · next hlt =>
      refine List.pairwise_cons.2 ⟨fun e he => ?_, h⟩
      rcases List.mem_cons.1 he with rfl | he
      · exact hlt
      · exact Std.lt_trans hlt (hk e he)
    · next hlt =>
      split
      · next heq =>
        subst heq
        exact List.pairwise_cons.2 ⟨hk, hrest⟩
      · next hne =>
        refine List.pairwise_cons.2 ⟨fun e he => ?_, ih hrest⟩
        rcases mem_insertEntry he with rfl | he
        · exact lt_of_not_lt_of_ne hlt hne
        · exact hk e he

end LinearOrder

end SortedMap

/-- Entries in ascending order of their keys, no key twice. -/
structure SortedMap (κ : Type) [LT κ] (α : Type) where
  entries : List (κ × α)
  ascending : SortedMap.Ascending entries

namespace SortedMap

variable {κ : Type} [LT κ] {α β : Type}

@[ext] theorem ext {d e : SortedMap κ α} (h : d.entries = e.entries) : d = e := by
  cases d; cases e; simp_all

instance [DecidableEq κ] [DecidableEq α] : DecidableEq (SortedMap κ α) := fun d e =>
  decidable_of_iff (d.entries = e.entries) ⟨ext, congrArg entries⟩

def empty : SortedMap κ α := ⟨[], List.Pairwise.nil⟩

instance : EmptyCollection (SortedMap κ α) := ⟨empty⟩

instance : Inhabited (SortedMap κ α) := ⟨empty⟩

def keys (d : SortedMap κ α) : List κ :=
  d.entries.map (·.1)

def values (d : SortedMap κ α) : List α :=
  d.entries.map (·.2)

def isEmpty (d : SortedMap κ α) : Bool :=
  d.entries.isEmpty

def map (f : α → β) (d : SortedMap κ α) : SortedMap κ β :=
  ⟨d.entries.map (fun e => (e.1, f e.2)), by
    have h := d.ascending
    unfold Ascending at h ⊢
    rw [List.pairwise_map]
    exact h⟩

@[simp] theorem entries_empty : (empty : SortedMap κ α).entries = [] := rfl

variable [DecidableLT κ] [DecidableEq κ]

def find? (d : SortedMap κ α) (key : κ) : Option α :=
  d.entries.lookup key

variable [LE κ] [Std.IsLinearOrder κ] [Std.LawfulOrderLT κ]

def insert (d : SortedMap κ α) (key : κ) (value : α) : SortedMap κ α :=
  ⟨insertEntry key value d.entries, d.ascending.insertEntry key value⟩

/-- The entries of a list, the later of two with one key. -/
def ofList (entries : List (κ × α)) : SortedMap κ α :=
  entries.foldl (fun d e => d.insert e.1 e.2) empty

theorem insertEntry_append {entries : List (κ × α)} {key : κ}
    (h : ∀ e ∈ entries, e.1 < key) (value : α) :
    insertEntry key value entries = entries ++ [(key, value)] := by
  induction entries with
  | nil => rfl
  | cons head rest ih =>
    obtain ⟨k, v⟩ := head
    have hk : k < key := h (k, v) (by simp)
    have hlt : ¬key < k := fun hlt => Std.lt_irrefl (Std.lt_trans hk hlt)
    have hne : key ≠ k := by rintro rfl; exact Std.lt_irrefl hk
    simp only [insertEntry, hlt, hne, if_false, List.cons_append]
    rw [ih fun e he => h e (List.mem_cons_of_mem _ he)]

theorem find?_insert (d : SortedMap κ α) (key name : κ) (value : α) :
    (d.insert key value).find? name = if name = key then some value else d.find? name :=
  lookup_insertEntry d.entries key name value

theorem entries_foldl_insert (entries : List (κ × α)) (d : SortedMap κ α)
    (h : Ascending (d.entries ++ entries)) :
    (entries.foldl (fun d e => d.insert e.1 e.2) d).entries = d.entries ++ entries := by
  induction entries generalizing d with
  | nil => simp
  | cons e rest ih =>
    have hd : (d.insert e.1 e.2).entries = d.entries ++ [e] :=
      insertEntry_append (fun x hx => (List.pairwise_append.1 h).2.2 x hx e (by simp)) e.2
    rw [List.foldl_cons, ih _ (by rw [hd]; simpa using h), hd]
    simp

/-- A map that is made from a list has no other entries. -/
theorem mem_of_mem_ofList {entries : List (κ × α)} {e : κ × α}
    (h : e ∈ (ofList entries).entries) : e ∈ entries := by
  have hfold (d : SortedMap κ α) : e ∈ (entries.foldl (fun d e => d.insert e.1 e.2) d).entries →
      e ∈ d.entries ∨ e ∈ entries := by
    clear h
    induction entries generalizing d with
    | nil => exact .inl
    | cons f entries ih =>
      intro he
      rcases ih (d.insert f.1 f.2) he with he | he
      · rcases mem_insertEntry he with rfl | he
        · exact .inr List.mem_cons_self
        · exact .inl he
      · exact .inr (List.mem_cons_of_mem _ he)
  rcases hfold empty h with h | h
  · cases h
  · exact h

/-- A map is rebuilt from its entries. -/
theorem ofList_entries (d : SortedMap κ α) : ofList d.entries = d :=
  ext (by simpa [ofList] using entries_foldl_insert d.entries empty (by simpa using d.ascending))

omit [LE κ] [Std.IsLinearOrder κ] [Std.LawfulOrderLT κ] in
theorem insertEntry_perm {entries : List (κ × α)} {key : κ}
    (h : ∀ e ∈ entries, e.1 ≠ key) (value : α) :
    (insertEntry key value entries).Perm ((key, value) :: entries) := by
  induction entries with
  | nil => rfl
  | cons head rest ih =>
    obtain ⟨k, v⟩ := head
    have hne : key ≠ k := fun heq => h (k, v) (by simp) heq.symm
    simp only [insertEntry, hne, if_false]
    split
    · rfl
    · exact ((ih fun e he => h e (List.mem_cons_of_mem _ he)).cons (k, v)).trans
        (List.Perm.swap _ _ _)

theorem entries_foldl_insert_perm (entries : List (κ × α)) (d : SortedMap κ α)
    (h : ((d.entries ++ entries).map (·.1)).Nodup) :
    (entries.foldl (fun d e => d.insert e.1 e.2) d).entries.Perm (d.entries ++ entries) := by
  induction entries generalizing d with
  | nil => simp
  | cons e rest ih =>
    have hd : (d.insert e.1 e.2).entries.Perm (e :: d.entries) := by
      refine insertEntry_perm (fun f hf heq => ?_) e.2
      rw [List.map_append, List.nodup_append] at h
      exact h.2.2 _ (List.mem_map_of_mem hf) _ (List.mem_map_of_mem List.mem_cons_self) heq
    have hall : ((d.insert e.1 e.2).entries ++ rest).Perm (d.entries ++ e :: rest) :=
      (hd.append_right rest).trans List.perm_middle.symm
    exact (ih _ (((hall.map _).nodup_iff).2 h)).trans hall

/-- A list without a key twice has the entries of the map that is made from it. -/
theorem ofList_perm {entries : List (κ × α)} (h : (entries.map (·.1)).Nodup) :
    (ofList entries).entries.Perm entries :=
  entries_foldl_insert_perm entries empty h

/-- A map is made from its entries in any order. -/
theorem ofList_eq_of_perm {entries : List (κ × α)} {d : SortedMap κ α}
    (h : entries.Perm d.entries) : ofList entries = d := by
  have hnodup : (entries.map (·.1)).Nodup := by
    refine ((h.map _).nodup_iff).2 (List.pairwise_map.2 (d.ascending.imp fun hlt heq => ?_))
    rw [heq] at hlt
    exact Std.lt_irrefl hlt
  refine ext (((ofList_perm hnodup).trans h).eq_of_pairwise (fun a b _ _ hab hba => ?_)
    (ofList entries).ascending d.ascending)
  exact absurd (Std.lt_trans hab hba) Std.lt_irrefl

/-! ## Look-ups by entries -/

omit [DecidableLT κ] [LE κ] [Std.IsLinearOrder κ] [Std.LawfulOrderLT κ] in
theorem find?_eq_none_iff {d : SortedMap κ α} {key : κ} : d.find? key = none ↔ key ∉ d.keys := by
  rw [find?, List.lookup_eq_none_iff, keys, List.mem_map]
  constructor
  · rintro h ⟨e, he, rfl⟩
    simpa using h e he
  · intro h e he
    have hne : key ≠ e.1 := fun heq => h ⟨e, he, heq.symm⟩
    simpa using hne

omit [DecidableLT κ] [Std.IsLinearOrder κ] in
theorem find?_eq_some_iff {d : SortedMap κ α} {key : κ} {value : α} :
    d.find? key = some value ↔ (key, value) ∈ d.entries := by
  rw [find?, List.lookup_eq_some_iff]
  constructor
  · rintro ⟨before, after, hsplit, -⟩
    rw [hsplit]
    exact List.mem_append_right _ List.mem_cons_self
  · intro h
    obtain ⟨before, after, hsplit⟩ := List.append_of_mem h
    refine ⟨before, after, hsplit, fun e he => ?_⟩
    have hascending := d.ascending
    rw [hsplit] at hascending
    have hlt := (List.pairwise_append.1 hascending).2.2 e he (key, value) List.mem_cons_self
    have hne : key ≠ e.1 := by
      rintro rfl
      exact Std.lt_irrefl hlt
    simpa using hne

theorem find?_foldl_insert (entries : List (κ × α)) (d : SortedMap κ α) (key : κ) :
    (entries.foldl (fun d e => d.insert e.1 e.2) d).find? key =
      (entries.reverse.lookup key).or (d.find? key) := by
  induction entries generalizing d with
  | nil => rfl
  | cons e rest ih =>
    rw [List.foldl_cons, ih, find?_insert, List.reverse_cons, List.lookup_append, lookup_cons_eq]
    by_cases h : key = e.1
    · rw [if_pos h, if_pos h, Option.or_assoc]
      rfl
    · rw [if_neg h, if_neg h, List.lookup_nil, Option.or_none]

/-- Of the entries of a list with one key the last is found. -/
theorem find?_ofList (entries : List (κ × α)) (key : κ) :
    (ofList entries).find? key = entries.reverse.lookup key := by
  rw [ofList, find?_foldl_insert, find?, entries_empty, List.lookup_nil, Option.or_none]

theorem mem_keys_ofList {entries : List (κ × α)} {key : κ} :
    key ∈ (ofList entries).keys ↔ key ∈ entries.map (·.1) := by
  have habsent : key ∉ (ofList entries).keys ↔ key ∉ entries.map (·.1) := by
    rw [← find?_eq_none_iff, find?_ofList, List.lookup_eq_none_iff, List.mem_map]
    constructor
    · rintro h ⟨e, he, rfl⟩
      simpa using h e (List.mem_reverse.2 he)
    · intro h e he
      have hne : key ≠ e.1 := fun heq => h ⟨e, List.mem_reverse.1 he, heq.symm⟩
      simpa using hne
  exact Decidable.not_iff_not.1 habsent

omit [DecidableLT κ] [DecidableEq κ] [LE κ] [Std.IsLinearOrder κ] [Std.LawfulOrderLT κ] in
/-- The keys ascend, so none occurs twice. -/
theorem pairwise_keys (d : SortedMap κ α) : d.keys.Pairwise (· < ·) := by
  rw [keys, List.pairwise_map]
  exact d.ascending

omit [DecidableLT κ] [DecidableEq κ] [Std.IsLinearOrder κ] in
theorem nodup_keys (d : SortedMap κ α) : d.keys.Nodup := by
  refine d.pairwise_keys.imp fun hlt heq => ?_
  rw [heq] at hlt
  exact Std.lt_irrefl hlt

omit [DecidableLT κ] [DecidableEq κ] in
/-- Keys are in order, so they are the same when they have the same members. -/
theorem keys_eq_iff {d : SortedMap κ α} {e : SortedMap κ β} :
    d.keys = e.keys ↔ ∀ key, key ∈ d.keys ↔ key ∈ e.keys := by
  constructor
  · intro h key
    rw [h]
  · intro h
    have hperm := (List.perm_ext_iff_of_nodup d.nodup_keys e.nodup_keys).2 h
    refine hperm.eq_of_pairwise (fun a b _ _ hab hba => ?_) d.pairwise_keys e.pairwise_keys
    exact absurd (Std.lt_trans hab hba) Std.lt_irrefl

omit [DecidableLT κ] in
/-- The entries of certain keys are the same when these keys are looked up alike. -/
theorem filter_eq_of_find? {d e : SortedMap κ α} {p : κ → Bool}
    (h : ∀ key, p key = true → d.find? key = e.find? key) :
    d.entries.filter (fun entry => p entry.1) = e.entries.filter fun entry => p entry.1 := by
  have hmem (entry : κ × α) : entry ∈ d.entries.filter (fun entry => p entry.1) ↔
      entry ∈ e.entries.filter fun entry => p entry.1 := by
    rw [List.mem_filter, List.mem_filter, and_congr_left_iff]
    intro hkey
    rw [← find?_eq_some_iff, ← find?_eq_some_iff, h entry.1 hkey]
  have hnodup (d : SortedMap κ α) : (d.entries.filter fun entry => p entry.1).Nodup := by
    refine (d.ascending.imp fun hlt heq => ?_).filter _
    rw [heq] at hlt
    exact Std.lt_irrefl hlt
  have hperm := (List.perm_ext_iff_of_nodup (hnodup d) (hnodup e)).2 hmem
  refine hperm.eq_of_pairwise (fun a b _ _ hab hba => ?_) (d.ascending.filter _)
    (e.ascending.filter _)
  exact absurd (Std.lt_trans hab hba) Std.lt_irrefl

end SortedMap

abbrev Dict (α : Type) := SortedMap String α

end StepEngine
