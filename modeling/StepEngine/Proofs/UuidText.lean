import StepEngine.Proofs.Propagation

/-!
# The texts of an identifier

* `Hex.number_spell`, `Hex.spell_number` : the number of spelled digits, and the digits of a number
  that was spelled by hand, in lower case;
* `Uuid.grouped` : 32 digits in groups of 8, 4, 4, 4 and 12;
* `Uuid.Spells` : the texts of an identifier: its digits, each in either case, without hyphens or in
  groups, and the groups in braces or after `urn:uuid:`;
* `Uuid.parse?_eq_some_iff` : the reader takes these texts and no others;
* `Uuid.hyphenated_injective` : different identifiers are written differently.
-/

namespace StepEngine

/-! ## Numbers in digits -/

namespace Hex

theorem value_lt {c : Char} (h : isDigit c = true) : value c < 16 :=
  forall_digit (P := fun c => value c < 16) (by decide) h

theorem digit_value {c : Char} (h : isDigit c = true) : digit (value c) = c.toLower :=
  forall_digit (P := fun c => digit (value c) = c.toLower) (by decide) h

theorem value_digit : ∀ n < 16, value (digit n) = n := by decide

theorem number_concat (cs : List Char) (c : Char) :
    number (cs ++ [c]) = 16 * number cs + value c := by
  rw [number, List.foldl_append]
  rfl

theorem number_lt {cs : List Char} (h : ∀ c ∈ cs, isDigit c = true) :
    number cs < 16 ^ cs.length := by
  induction cs using List.reverseRecOn with
  | nil => decide
  | append_singleton cs c ih =>
    rw [List.forall_mem_append] at h
    have hfront := ih h.1
    have hlast := value_lt (h.2 c List.mem_cons_self)
    rw [number_concat, List.length_append, List.length_singleton, Nat.pow_succ]
    omega

/-- The number of spelled digits is what they keep of the number. -/
theorem number_spell (width n : Nat) : number (spell width n) = n % 16 ^ width := by
  induction width generalizing n with
  | zero => rw [Nat.pow_zero, Nat.mod_one, spell, number, List.foldl_nil]
  | succ width ih =>
    rw [spell, number_concat, ih, value_digit _ (Nat.mod_lt n (by decide)), Nat.pow_succ,
      Nat.mul_comm (16 ^ width), Nat.mod_mul, Nat.add_comm]

/-- The digits of a number that was spelled by hand are those of the hand, in lower case. -/
theorem spell_number {cs : List Char} (h : ∀ c ∈ cs, isDigit c = true) :
    spell cs.length (number cs) = cs.map Char.toLower := by
  -- numbers are read and spelled with the last digit last, so the induction is from the end
  induction cs using List.reverseRecOn with
  | nil => rfl
  | append_singleton cs c ih =>
    rw [List.forall_mem_append] at h
    have hlast : isDigit c = true := h.2 c List.mem_cons_self
    have hlt := value_lt hlast
    have hdiv : (16 * number cs + value c) / 16 = number cs := by omega
    have hmod : (16 * number cs + value c) % 16 = value c := by omega
    rw [List.length_append, List.length_singleton, spell, number_concat, hdiv, hmod, ih h.1,
      digit_value hlast, List.map_append, List.map_singleton]

/-- A character is a digit when it is one in lower case. -/
theorem isDigit_of_toLower {c : Char} (h : isDigit c.toLower = true) : isDigit c = true := by
  -- only the capitals of ASCII are other characters in lower case
  by_cases hupper : c.val ≥ 'A'.val ∧ c.val ≤ 'Z'.val
  · have hbound : c.toNat < 91 := by
      have hle : c.val.toNat ≤ 'Z'.val.toNat := UInt32.le_iff_toNat_le.1 hupper.2
      have hz : 'Z'.val.toNat = 90 := rfl
      have hc : c.toNat = c.val.toNat := rfl
      omega
    have hall : ∀ n < 91,
        isDigit (Char.ofNat n).toLower = true → isDigit (Char.ofNat n) = true := by decide
    rw [← Char.ofNat_toNat c] at h ⊢
    exact hall _ hbound h
  · have hsame : c.toLower = c := dif_neg hupper
    rwa [hsame] at h

end Hex

namespace Uuid

/-! ## Digits -/

variable {u : Uuid} {ds : List Char}

theorem length_digits (u : Uuid) : u.digits.length = 32 := Hex.length_spell _ _

theorem map_toLower_digits (u : Uuid) : u.digits.map Char.toLower = u.digits :=
  Hex.map_toLower_spell _ _

theorem number_digits (u : Uuid) : Hex.number u.digits = u.toNat := by
  have hlt : u.toNat < 16 ^ 32 := u.bits.isLt
  rw [digits, Hex.number_spell, Nat.mod_eq_of_lt hlt]

theorem toNat_ofNat {n : Nat} (h : n < 16 ^ 32) : (ofNat n).toNat = n :=
  Nat.mod_eq_of_lt h

/-- Different identifiers have different digits. -/
theorem digits_injective {v : Uuid} (h : u.digits = v.digits) : u = v := by
  have hnumber : u.toNat = v.toNat := by rw [← number_digits, h, number_digits]
  obtain ⟨bits⟩ := u
  obtain ⟨bits'⟩ := v
  exact congrArg Uuid.mk (BitVec.eq_of_toNat_eq hnumber)

theorem ofDigits?_eq_some_iff : ofDigits? ds = some u ↔ ds.map Char.toLower = u.digits := by
  unfold ofDigits?
  constructor
  · intro h
    split at h
    · next hds =>
      obtain ⟨hlength, hall⟩ := hds
      have hdigit := List.all_eq_true.1 hall
      have hlt := Hex.number_lt hdigit
      rw [hlength] at hlt
      rw [← Option.some.inj h, digits, toNat_ofNat hlt, ← hlength, Hex.spell_number hdigit]
    · cases h
  · intro h
    have hlength : ds.length = 32 := by
      rw [← length_digits u, ← h, List.length_map]
    have hdigit : ∀ c ∈ ds, Hex.isDigit c = true := by
      intro c hc
      have hmem : c.toLower ∈ u.digits := by
        rw [← h]
        exact List.mem_map_of_mem hc
      exact Hex.isDigit_of_toLower (Hex.isDigit_of_mem_spell hmem)
    have hlt := Hex.number_lt hdigit
    rw [hlength] at hlt
    rw [if_pos ⟨hlength, List.all_eq_true.2 hdigit⟩]
    refine congrArg some (digits_injective ?_)
    rw [digits, toNat_ofNat hlt, ← hlength, Hex.spell_number hdigit, h]

/-! ## Groups -/

/-- Digits in groups of 8, 4, 4, 4 and the rest. -/
def grouped (ds : List Char) : List Char :=
  ds.take 8 ++ '-' :: (ds.drop 8).take 4 ++ '-' :: (ds.drop 12).take 4 ++
    '-' :: (ds.drop 16).take 4 ++ '-' :: ds.drop 20

/-- The digits of groups, without what stands between them. -/
def ungrouped (cs : List Char) : List Char :=
  cs.take 8 ++ (cs.drop 9).take 4 ++ (cs.drop 14).take 4 ++ (cs.drop 19).take 4 ++ cs.drop 24

section Groups

variable {a b c d : List Char} (ha : a.length = 8) (hb : b.length = 4) (hc : c.length = 4)
  (hd : d.length = 4) (e : List Char)

include ha hb hc hd

theorem grouped_append :
    grouped (a ++ b ++ c ++ d ++ e) = a ++ '-' :: b ++ '-' :: c ++ '-' :: d ++ '-' :: e := by
  simp (disch := omega) [grouped, List.drop_append, List.drop_eq_nil_of_le, ha, hb, hc]

theorem ungrouped_append :
    ungrouped (a ++ '-' :: b ++ '-' :: c ++ '-' :: d ++ '-' :: e) = a ++ b ++ c ++ d ++ e := by
  simp (disch := omega) [ungrouped, List.drop_append, List.drop_eq_nil_of_le, ha, hb, hc, hd]

end Groups

/-- A list at a hyphen. -/
theorem cut_at_hyphen {cs : List Char} {n : Nat} (h : cs[n]? = some '-') :
    cs = cs.take n ++ '-' :: cs.drop (n + 1) := by
  obtain ⟨hlt, hget⟩ := List.getElem?_eq_some_iff.1 h
  rw [← hget, ← List.drop_eq_getElem_cons hlt, List.take_append_drop]

/-- A text with hyphens in the places where groups have them is made of groups. -/
theorem grouped_ungrouped {cs : List Char} (hlength : cs.length = 36)
    (h8 : cs[8]? = some '-') (h13 : cs[13]? = some '-') (h18 : cs[18]? = some '-')
    (h23 : cs[23]? = some '-') : grouped (ungrouped cs) = cs := by
  have hparts : cs = cs.take 8 ++ '-' :: (cs.drop 9).take 4 ++ '-' :: (cs.drop 14).take 4 ++
      '-' :: (cs.drop 19).take 4 ++ '-' :: cs.drop 24 := by
    have hcut (n : Nat) (h : cs[n + 4]? = some '-') :
        cs.drop n = (cs.drop n).take 4 ++ '-' :: cs.drop (n + 5) := by
      have hat : (cs.drop n)[4]? = some '-' := by rw [List.getElem?_drop, h]
      have hcut := cut_at_hyphen hat
      rwa [List.drop_drop] at hcut
    calc cs = cs.take 8 ++ '-' :: cs.drop 9 := cut_at_hyphen h8
      _ = cs.take 8 ++ '-' :: ((cs.drop 9).take 4 ++ '-' :: ((cs.drop 14).take 4 ++
            '-' :: ((cs.drop 19).take 4 ++ '-' :: cs.drop 24))) := by
          rw [← hcut 19 h23, ← hcut 14 h18, ← hcut 9 h13]
      _ = _ := by simp only [List.append_assoc, List.cons_append]
  have hlengthTake (n : Nat) (h : n ≤ 32) : ((cs.drop n).take 4).length = 4 := by
    rw [List.length_take, List.length_drop]
    omega
  have hfirst : (cs.take 8).length = 8 := by
    rw [List.length_take]
    omega
  rw [ungrouped, grouped_append hfirst (hlengthTake 9 (by decide)) (hlengthTake 14 (by decide))
    (hlengthTake 19 (by decide)), ← hparts]

/-- 32 digits are four groups and the rest. -/
theorem exists_groups (h : ds.length = 32) : ∃ a b c d e : List Char,
    a.length = 8 ∧ b.length = 4 ∧ c.length = 4 ∧ d.length = 4 ∧ e.length = 12 ∧
      ds = a ++ b ++ c ++ d ++ e := by
  have hcut (n : Nat) : ds.drop n = (ds.drop n).take 4 ++ ds.drop (n + 4) := by
    rw [← List.drop_drop, List.take_append_drop]
  have hparts : ds = ds.take 8 ++ (ds.drop 8).take 4 ++ (ds.drop 12).take 4 ++
      (ds.drop 16).take 4 ++ ds.drop 20 := by
    calc ds = ds.take 8 ++ ds.drop 8 := (List.take_append_drop 8 ds).symm
      _ = ds.take 8 ++ ((ds.drop 8).take 4 ++ ((ds.drop 12).take 4 ++ ((ds.drop 16).take 4 ++
            ds.drop 20))) := by rw [← hcut 16, ← hcut 12, ← hcut 8]
      _ = _ := by simp only [List.append_assoc]
  exact ⟨_, _, _, _, _, by simp [h], by simp [h], by simp [h], by simp [h], by simp [h], hparts⟩

/-- Groups of 32 digits have hyphens in four places, and without them the digits are left. -/
theorem grouped_spec (h : ds.length = 32) :
    (grouped ds).length = 36 ∧ ([8, 13, 18, 23].all fun i => (grouped ds)[i]? == some '-') = true ∧
      ungrouped (grouped ds) = ds := by
  obtain ⟨a, b, c, d, e, ha, hb, hc, hd, he, rfl⟩ := exists_groups h
  rw [grouped_append ha hb hc hd, ungrouped_append ha hb hc hd]
  refine ⟨?_, ?_, rfl⟩
  · simp [ha, hb, hc, hd, he]
  · simp [List.getElem?_append, List.getElem?_cons, ha, hb, hc, hd]

theorem length_of_map_toLower (h : ds.map Char.toLower = u.digits) : ds.length = 32 := by
  rw [← length_digits u, ← h, List.length_map]

theorem ofHyphenated?_eq_some_iff {cs : List Char} :
    ofHyphenated? cs = some u ↔ ∃ ds, ds.map Char.toLower = u.digits ∧ cs = grouped ds := by
  have hread : ofHyphenated? cs =
      if cs.length = 36 ∧ ([8, 13, 18, 23].all fun i => cs[i]? == some '-') = true then
        ofDigits? (ungrouped cs)
      else none := rfl
  rw [hread]
  constructor
  · intro h
    split at h
    · next hcs =>
      obtain ⟨hlength, hhyphens⟩ := hcs
      simp only [List.all_cons, List.all_nil, Bool.and_true, Bool.and_eq_true,
        beq_iff_eq] at hhyphens
      obtain ⟨h8, h13, h18, h23⟩ := hhyphens
      exact ⟨ungrouped cs, ofDigits?_eq_some_iff.1 h,
        (grouped_ungrouped hlength h8 h13 h18 h23).symm⟩
    · cases h
  · rintro ⟨ds, hds, rfl⟩
    obtain ⟨hlength, hhyphens, hungrouped⟩ := grouped_spec (length_of_map_toLower hds)
    rw [if_pos ⟨hlength, hhyphens⟩, hungrouped]
    exact ofDigits?_eq_some_iff.2 hds

/-! ## Texts -/

/-- The texts of an identifier: its digits, each in either case, without hyphens or in groups, and
the groups in braces or after `urn:uuid:`. -/
inductive Spells (u : Uuid) : String → Prop where
  | simple {ds : List Char} (h : ds.map Char.toLower = u.digits) : Spells u (String.ofList ds)
  | hyphenated {ds : List Char} (h : ds.map Char.toLower = u.digits) :
      Spells u (String.ofList (grouped ds))
  | braced {ds : List Char} (h : ds.map Char.toLower = u.digits) :
      Spells u (String.ofList ('\x7b' :: grouped ds ++ ['\x7d']))
  | urn {ds : List Char} (h : ds.map Char.toLower = u.digits) :
      Spells u (String.ofList ("urn:uuid:".toList ++ grouped ds))

/-- An identifier is read from its texts. -/
theorem Spells.parse? {s : String} (h : u.Spells s) : Uuid.parse? s = some u := by
  unfold Uuid.parse?
  cases h with
  | @simple ds h =>
    have hlength := length_of_map_toLower h
    simp only [String.toList_ofList]
    rw [if_pos hlength]
    exact ofDigits?_eq_some_iff.2 h
  | @hyphenated ds h =>
    obtain ⟨hlength, -, -⟩ := grouped_spec (length_of_map_toLower h)
    simp only [String.toList_ofList]
    rw [if_neg (by omega), if_pos hlength]
    exact ofHyphenated?_eq_some_iff.2 ⟨ds, h, rfl⟩
  | @braced ds h =>
    obtain ⟨hlength, -, -⟩ := grouped_spec (length_of_map_toLower h)
    have hwhole : ('\x7b' :: grouped ds ++ ['\x7d']).length = 38 := by simp [hlength]
    have hinside : (('\x7b' :: grouped ds ++ ['\x7d']).drop 1).take 36 = grouped ds := by
      rw [← hlength]
      simp
    simp only [String.toList_ofList]
    rw [if_neg (by omega), if_neg (by omega), if_pos ⟨hwhole, rfl, List.getLast?_concat⟩, hinside]
    exact ofHyphenated?_eq_some_iff.2 ⟨ds, h, rfl⟩
  | @urn ds h =>
    obtain ⟨hlength, -, -⟩ := grouped_spec (length_of_map_toLower h)
    have hfront : "urn:uuid:".toList.length = 9 := rfl
    have hwhole : ("urn:uuid:".toList ++ grouped ds).length = 45 := by
      rw [List.length_append, hlength, hfront]
    simp only [String.toList_ofList]
    rw [if_neg (by omega), if_neg (by omega), if_neg (by omega),
      if_pos ⟨hwhole, List.take_left' hfront⟩, List.drop_left' hfront]
    exact ofHyphenated?_eq_some_iff.2 ⟨ds, h, rfl⟩

/-- Only a text of an identifier is read as this identifier. -/
theorem spells_of_parse? {s : String} (h : parse? s = some u) : u.Spells s := by
  obtain ⟨cs, rfl⟩ : ∃ cs, s = String.ofList cs := ⟨s.toList, String.ofList_toList.symm⟩
  simp only [parse?, String.toList_ofList] at h
  split at h
  · exact .simple (ofDigits?_eq_some_iff.1 h)
  split at h
  · obtain ⟨ds, hds, rfl⟩ := ofHyphenated?_eq_some_iff.1 h
    exact .hyphenated hds
  split at h
  · next hbraces =>
    obtain ⟨hlength, hhead, hlast⟩ := hbraces
    obtain ⟨rest, rfl⟩ := List.head?_eq_some_iff.1 hhead
    obtain ⟨front, hfront⟩ := List.getLast?_eq_some_iff.1 hlast
    cases front with
    | nil =>
      rw [hfront] at hlength
      cases hlength
    | cons first inside =>
      rw [List.cons_append] at hfront
      obtain ⟨rfl, rfl⟩ := List.cons.inj hfront
      have hinside : inside.length = 36 := by simpa using hlength
      rw [List.drop_succ_cons, List.drop_zero, ← hinside, List.take_left] at h
      obtain ⟨ds, hds, rfl⟩ := ofHyphenated?_eq_some_iff.1 h
      exact .braced hds
  split at h
  · next hurn =>
    obtain ⟨-, hfront⟩ := hurn
    obtain ⟨ds, hds, hrest⟩ := ofHyphenated?_eq_some_iff.1 h
    rw [← List.take_append_drop 9 cs, hfront, hrest]
    exact .urn hds
  · cases h

/-- The reader takes the texts of an identifier, and no others. -/
theorem parse?_eq_some_iff {s : String} : parse? s = some u ↔ u.Spells s :=
  ⟨spells_of_parse?, Spells.parse?⟩

theorem spells_hyphenated (u : Uuid) : u.Spells u.hyphenated :=
  .hyphenated (map_toLower_digits u)

/-- Different identifiers are written differently. -/
theorem hyphenated_injective {v : Uuid} (h : u.hyphenated = v.hyphenated) : u = v := by
  have hu := (spells_hyphenated u).parse?
  rw [h, (spells_hyphenated v).parse?] at hu
  exact (Option.some.inj hu).symm

end Uuid

end StepEngine
