import StepEngine.Request

/-!
# Setting a header

A header is set under the spelling that is given, and looked up under any: the first spelling in the
order of the keys counts. So a header that a request brings along under an earlier spelling hides the one
that is set.

* `SortedMap.find?_insertEntry_of_first`, `_of_earlier`, `_of_other` : the first entry of a kind of keys,
  after an entry is put in;
* `ApiRequest.sameName_iff` : names are compared without the case of their letters;
* `ApiRequest.hasEarlier` : a request has a header under a spelling that comes before a name;
* `ApiRequest.SetsHeader` : what is found after a header is set, under its name and under others
  (`withHeader_sets`).
-/

namespace StepEngine

/-! ## The first entry of a kind -/

namespace SortedMap

variable {κ α : Type} {p : κ → Bool}

theorem find?_cons_of_kind {key : κ} (h : p key = true) (value : α) (rest : List (κ × α)) :
    ((key, value) :: rest).find? (fun e => p e.1) = some (key, value) :=
  List.find?_cons_of_pos h

theorem find?_cons_of_other {key : κ} (h : p key = false) (value : α) (rest : List (κ × α)) :
    ((key, value) :: rest).find? (fun e => p e.1) = rest.find? fun e => p e.1 :=
  List.find?_cons_of_neg (Bool.eq_false_iff.1 h)

variable [LT κ] [DecidableLT κ] [DecidableEq κ]

/-- An entry of another kind makes no difference. -/
theorem find?_insertEntry_of_other {key : κ} (hkey : p key = false) (value : α)
    (entries : List (κ × α)) :
    (insertEntry key value entries).find? (fun e => p e.1) = entries.find? fun e => p e.1 := by
  induction entries with
  | nil => exact find?_cons_of_other hkey value []
  | cons e rest ih =>
    obtain ⟨k, v⟩ := e
    unfold insertEntry
    split
    · exact find?_cons_of_other hkey value _
    · split
      · next heq =>
        subst heq
        rw [find?_cons_of_other hkey, find?_cons_of_other hkey]
      · rw [List.find?_cons, List.find?_cons, ih]

variable [LE κ] [Std.IsLinearOrder κ] [Std.LawfulOrderLT κ]

/-- An entry of the kind is found unless there is one with a smaller key. -/
theorem find?_insertEntry_of_first {key : κ} (hkey : p key = true) (value : α)
    {entries : List (κ × α)} (hfirst : ∀ e ∈ entries, p e.1 = true → ¬e.1 < key) :
    (insertEntry key value entries).find? (fun e => p e.1) = some (key, value) := by
  induction entries with
  | nil => exact find?_cons_of_kind hkey value []
  | cons e rest ih =>
    obtain ⟨k, v⟩ := e
    obtain ⟨hhead, hrest⟩ := List.forall_mem_cons.1 hfirst
    unfold insertEntry
    split
    · exact find?_cons_of_kind hkey value _
    · next hlt =>
      split
      · exact find?_cons_of_kind hkey value _
      · next hne =>
        have hother : p k = false :=
          Bool.eq_false_iff.2 fun hk => hhead hk (lt_of_not_lt_of_ne hlt hne)
        rw [find?_cons_of_other hother]
        exact ih hrest

/-- An entry of the kind is hidden by one with a smaller key. -/
theorem find?_insertEntry_of_earlier {key : κ} (value : α) {entries : List (κ × α)}
    (hascending : Ascending entries) (hearlier : ∃ e ∈ entries, p e.1 = true ∧ e.1 < key) :
    (insertEntry key value entries).find? (fun e => p e.1) = entries.find? fun e => p e.1 := by
  induction entries with
  | nil =>
    obtain ⟨e, he, -⟩ := hearlier
    cases he
  | cons e rest ih =>
    obtain ⟨k, v⟩ := e
    obtain ⟨hk, hrest⟩ := List.pairwise_cons.1 hascending
    obtain ⟨found, hfound, hkind, hless⟩ := hearlier
    have hhead : k < key := by
      rcases List.mem_cons.1 hfound with rfl | hfound
      · exact hless
      · exact Std.lt_trans (hk found hfound) hless
    have hlt : ¬key < k := fun h => Std.lt_irrefl (Std.lt_trans h hhead)
    have hne : key ≠ k := by
      rintro rfl
      exact Std.lt_irrefl hhead
    rw [insertEntry, if_neg hlt, if_neg hne]
    cases hp : p k with
    | true => rw [find?_cons_of_kind hp, find?_cons_of_kind hp]
    | false =>
      rw [find?_cons_of_other hp, find?_cons_of_other hp]
      refine ih hrest ⟨found, ?_, hkind, hless⟩
      rcases List.mem_cons.1 hfound with rfl | hfound
      · rw [hp] at hkind
        cases hkind
      · exact hfound

end SortedMap

/-! ## Headers -/

namespace ApiRequest

theorem sameName_iff {a b : String} : sameName a b = true ↔
    a.toList.map Char.toLower = b.toList.map Char.toLower := by
  rw [sameName, beq_iff_eq, ← String.toList_inj]
  change (a.map Char.toLower).toList = (b.map Char.toLower).toList ↔ _
  rw [String.toList_map, String.toList_map]

theorem sameName_refl (a : String) : sameName a a = true := sameName_iff.2 rfl

theorem sameName_comm (a b : String) : sameName a b = sameName b a := by
  rw [Bool.eq_iff_iff, sameName_iff, sameName_iff]
  exact eq_comm

theorem sameName_congr {a b : String} (h : sameName a b = true) (key : String) :
    sameName key a = sameName key b := by
  rw [Bool.eq_iff_iff, sameName_iff, sameName_iff, sameName_iff.1 h]

/-- The request has a header of the name under a spelling that comes before it. -/
def hasEarlier (r : ApiRequest) (name : String) : Bool :=
  r.headers.entries.any fun h => sameName h.1 name && decide (h.1 < name)

section Set

variable {r : ApiRequest} {name : String}

theorem hasEarlier_eq_true_iff : r.hasEarlier name = true ↔
    ∃ h ∈ r.headers.entries, sameName h.1 name = true ∧ h.1 < name := by
  simp only [hasEarlier, List.any_eq_true, Bool.and_eq_true, decide_eq_true_eq]

variable (r) (value : ParamValue) {spelling : String}

theorem header_withHeader (name spelling : String) : (r.withHeader name value).header spelling =
    ((SortedMap.insertEntry name value r.headers.entries).find? fun h =>
      sameName h.1 spelling).bind (·.2.first) := rfl

/-- A header without an earlier spelling is found under every spelling. -/
theorem header_withHeader_of_first (hnone : r.hasEarlier name = false)
    (h : sameName spelling name = true) :
    (r.withHeader name value).header spelling = value.first := by
  have hfirst : ∀ e ∈ r.headers.entries, sameName e.1 name = true → ¬e.1 < name := by
    intro e he hname hless
    have hearlier := hasEarlier_eq_true_iff.2 ⟨e, he, hname, hless⟩
    rw [hnone] at hearlier
    cases hearlier
  rw [header_withHeader]
  simp only [sameName_congr h]
  rw [SortedMap.find?_insertEntry_of_first (p := (sameName · name)) (sameName_refl name) value
    hfirst]
  rfl

/-- An earlier spelling hides it. -/
theorem header_withHeader_of_earlier (hearlier : r.hasEarlier name = true)
    (h : sameName spelling name = true) :
    (r.withHeader name value).header spelling = r.header spelling := by
  rw [header_withHeader, header]
  simp only [sameName_congr h]
  rw [SortedMap.find?_insertEntry_of_earlier (p := (sameName · name)) value r.headers.ascending
    (hasEarlier_eq_true_iff.1 hearlier)]

theorem header_withHeader_of_other (h : sameName spelling name = false) :
    (r.withHeader name value).header spelling = r.header spelling := by
  rw [sameName_comm] at h
  rw [header_withHeader, header,
    SortedMap.find?_insertEntry_of_other (p := (sameName · spelling)) h value r.headers.entries]

end Set

/-- Setting a header takes effect, under every spelling, unless the request has it under an earlier
spelling: then nothing changes. Other headers are left alone. -/
structure SetsHeader (r : ApiRequest) (name : String) : Prop where
  found : r.hasEarlier name = false → ∀ value spelling, sameName spelling name = true →
    (r.withHeader name value).header spelling = value.first
  hidden : r.hasEarlier name = true → ∀ value spelling, sameName spelling name = true →
    (r.withHeader name value).header spelling = r.header spelling
  others : ∀ value other, sameName other name = false →
    (r.withHeader name value).header other = r.header other
  /-- So every text that is set is found exactly when there is no earlier spelling. -/
  found_iff : (∀ text spelling, sameName spelling name = true →
    (r.withHeader name (.one text)).header spelling = some text) ↔ r.hasEarlier name = false

theorem withHeader_sets (r : ApiRequest) (name : String) : r.SetsHeader name where
  found hnone value _ h := header_withHeader_of_first r value hnone h
  hidden hearlier value _ h := header_withHeader_of_earlier r value hearlier h
  others value _ h := header_withHeader_of_other r value h
  found_iff := by
    refine ⟨fun hfound => ?_, fun hnone text _ h => header_withHeader_of_first r _ hnone h⟩
    rw [Bool.eq_false_iff]
    intro hearlier
    -- what the request has anyway cannot be two texts
    have hself := sameName_refl name
    have hone := hfound "alice" name hself
    have hother := hfound "bob" name hself
    rw [header_withHeader_of_earlier r _ hearlier hself] at hone hother
    exact absurd (Option.some.inj (hone.symm.trans hother)) (by decide)

def ofMallory : ApiRequest :=
  ⟨"GET", "/me", .empty, .empty, .null, ⟨[("X-User", .one "mallory")], List.pairwise_singleton _ _⟩⟩

/-- The client keeps its own text when the header is set. -/
theorem withHeader_leaves_capitals :
    (ofMallory.withHeader "x-user" (.one "alice")).header "x-user" = some "mallory" := by
  have hname : sameName "X-User" "x-user" = true := sameName_iff.2 (by decide)
  have hearlier : ofMallory.hasEarlier "x-user" = true :=
    hasEarlier_eq_true_iff.2 ⟨("X-User", .one "mallory"), List.mem_singleton_self _, hname,
      by decide⟩
  rw [header_withHeader_of_earlier ofMallory _ hearlier (sameName_refl _), header]
  show (([("X-User", ParamValue.one "mallory")]).find? fun h => sameName h.1 "x-user").bind _ = _
  rw [SortedMap.find?_cons_of_kind (p := (sameName · "x-user")) hname]
  rfl

end ApiRequest

end StepEngine
