import Mathlib.Data.List.Perm.Basic
import StepEngine.Proofs.FunctionId
import StepEngine.Proofs.Members
import StepEngine.Trigger.Codec

/-!
# Schemas by status

In a value a status is a key, so it is a text and stands where the order of the texts puts it.

* `Status.read_spell` : a status is read from its own key;
* `Status.decodeSchemas_encodeSchemas` : schemas by status are read from their value, each as its
  rendering.
-/

namespace StepEngine.Status

/-! ## One key -/

theorem le_ofDigitChars (digits : List Char) (n : Nat) : n ≤ Nat.ofDigitChars 10 digits n := by
  rw [Nat.ofDigitChars_eq_ofDigitChars_zero]
  exact Nat.le_trans (Nat.le_mul_of_pos_left n (Nat.pow_pos (by decide))) (Nat.le_add_right _ _)

theorem readDigits_eq {digits : List Char} (hdigits : ∀ c ∈ digits, c.isDigit = true) {n : Nat}
    (hfits : Nat.ofDigitChars 10 digits n < Nat.pow 2 16) :
    readDigits n digits = .ok (.ofNat (Nat.ofDigitChars 10 digits n)) := by
  induction digits generalizing n with
  | nil => rw [readDigits, Nat.ofDigitChars_nil]
  | cons c digits ih =>
    obtain ⟨hc, hdigits⟩ := List.forall_mem_cons.1 hdigits
    rw [Nat.ofDigitChars_cons, Nat.mul_comm] at hfits ⊢
    have hlt := Nat.lt_of_le_of_lt (le_ofDigitChars digits _) hfits
    rw [readDigits, if_pos hc, if_pos hlt, ih hdigits hfits]

/-- Only a text that starts with a plus sign, or is empty, is not read as digits. -/
theorem read_of_isDigit {key : String} {c : Char} {digits : List Char}
    (hkey : key.toList = c :: digits) (hc : c.isDigit = true) :
    read key = readDigits 0 key.toList := by
  have hne : c ≠ '+' := by
    rintro rfl
    exact absurd hc (by decide)
  rw [read]
  split
  · next h => exact absurd (hkey.symm.trans h) (List.cons_ne_nil _ _)
  · next h => exact absurd (List.cons.inj (hkey.symm.trans h)).1 hne
  · next h => exact absurd (List.cons.inj (hkey.symm.trans h)).1 hne
  · rfl

theorem read_spell (status : UInt16) : read (spell status) = .ok status := by
  have hdigits : ∀ c ∈ (spell status).toList, c.isDigit = true := fun _ hc =>
    isDigit_of_mem_toString hc
  have hvalue : Nat.ofDigitChars 10 (spell status).toList 0 = status.toNat := by
    rw [spell, toList_toString, Nat.ofDigitChars_ten_toDigits]
  obtain ⟨c, digits, hkey⟩ : ∃ c digits, (spell status).toList = c :: digits := by
    refine List.exists_cons_of_ne_nil ?_
    rw [spell, toList_toString]
    exact Nat.toDigits_ne_nil
  have hfits : Nat.ofDigitChars 10 (spell status).toList 0 < Nat.pow 2 16 := by
    rw [hvalue]
    exact status.toNat_lt
  rw [read_of_isDigit hkey (hdigits c (hkey ▸ List.mem_cons_self)), readDigits_eq hdigits hfits,
    hvalue, UInt16.ofNat_toNat]

theorem spell_inj {s t : UInt16} (h : spell s = spell t) : s = t :=
  Except.ok.inj ((read_spell s).symm.trans ((congrArg read h).trans (read_spell t)))

/-! ## All of them -/

theorem members_decode (members : List (String × Json)) :
    Decode.members Schema.decode members = .ok (members.map fun m => (m.1, Schema.json m.2)) := by
  have hread : Decode.members Schema.decode (members.map fun m => (m.1, id m.2)) =
      .ok (members.map fun m => (m.1, Schema.json m.2)) :=
    Decode.members_map (fun v => show Schema.decode (id v) = .ok (Schema.json v) from rfl) members
  rwa [show (fun m : String × Json => (m.1, id m.2)) = id from rfl, List.map_id] at hread

/-- Entries whose keys are spelled are read one by one. -/
theorem readEntries_map (entries : List (UInt16 × Schema)) :
    readEntries (entries.map fun e => (spell e.1, e.2)) = .ok entries := by
  induction entries with
  | nil => rfl
  | cons e entries ih =>
    rw [List.map_cons, readEntries, read_spell, ih]
    rfl

/-- The entries of schemas, with texts for keys. -/
def spelled (schemas : SortedMap UInt16 Schema) : List (String × Json) :=
  schemas.entries.map fun e => (spell e.1, e.2.toJson)

theorem nodup_spelled (schemas : SortedMap UInt16 Schema) :
    ((spelled schemas).map (·.1)).Nodup := by
  rw [spelled, List.map_map]
  refine List.pairwise_map.2 (schemas.ascending.imp fun hlt heq => ?_)
  rw [spell_inj heq] at hlt
  exact Std.lt_irrefl hlt

theorem decodeSchemas_encodeSchemas (schemas : SortedMap UInt16 Schema) :
    decodeSchemas (encodeSchemas schemas) = .ok (schemas.map Schema.plain) := by
  have hdict : Decode.dict Schema.decode (encodeSchemas schemas) =
      .ok ((SortedMap.ofList (spelled schemas)).map Schema.json) := by
    change (Decode.members Schema.decode (SortedMap.ofList (spelled schemas)).entries).map
      SortedMap.ofList = _
    rw [members_decode]
    exact congrArg Except.ok (SortedMap.ofList_entries (SortedMap.map Schema.json _))
  -- The order of the texts is another one than the order of the statuses.
  have hperm : ((SortedMap.ofList (spelled schemas)).map Schema.json).entries.Perm
      ((schemas.map Schema.plain).entries.map fun e => (spell e.1, e.2)) := by
    refine ((SortedMap.ofList_perm (nodup_spelled schemas)).map _).trans (.of_eq ?_)
    simp only [spelled, SortedMap.map, List.map_map]
    rfl
  obtain ⟨entries, hentries, hsame⟩ :=
    (congrFun₂ (List.eq_map_comp_perm fun e : UInt16 × Schema => (spell e.1, e.2)) _ _).mpr hperm
  change (Decode.dict Schema.decode (encodeSchemas schemas)).bind
    (fun schemas => (readEntries schemas.entries).map SortedMap.ofList) = _
  rw [hdict]
  change (readEntries ((SortedMap.ofList (spelled schemas)).map Schema.json).entries).map _ = _
  rw [hentries, readEntries_map]
  exact congrArg Except.ok (SortedMap.ofList_eq_of_perm hsame)

end StepEngine.Status
