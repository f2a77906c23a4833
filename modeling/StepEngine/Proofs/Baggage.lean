import StepEngine.Trace
import Mathlib.Data.List.DropRight

/-!
# What a baggage header carries

Entries are written as `key=value` with commas between, and nothing is escaped. An entry comes back
from a header when no separator stands in it and no blank at its ends.

* `Text.split_intercalate` : pieces with separators between split into the same pieces;
* `Text.Bare` : no blank at either end, as after trimming (`Text.bare_trimBlanks`);
* `Baggage.Portable` : an entry that a header can carry; `Baggage.parseEntry_text` reads it back,
  and whatever is read is one (`Baggage.portable_of_parseEntry`);
* `Baggage.parse_render_iff` : baggage comes back from its header exactly when every entry is
  portable; what has come from a header does (`Baggage.portable_of_parse`).
-/

namespace StepEngine

namespace Text

/-! ## Pieces between separators -/

theorem split_of_not_mem {p : Char → Bool} {cs : List Char} (h : ∀ c ∈ cs, p c = false) :
    split p cs = [cs] := by
  induction cs with
  | nil => rfl
  | cons c cs ih =>
    have hc : p c = false := h c List.mem_cons_self
    have hcs : split p cs = [cs] := ih fun d hd => h d (List.mem_cons_of_mem _ hd)
    simp only [split, hc, hcs, Bool.false_eq_true, if_false]

theorem split_append_cons {p : Char → Bool} {piece : List Char} {d : Char}
    (hpiece : ∀ c ∈ piece, p c = false) (hd : p d = true) (rest : List Char) :
    split p (piece ++ d :: rest) = piece :: split p rest := by
  induction piece with
  | nil => simp only [List.nil_append, split, hd, if_true]
  | cons c piece ih =>
    have hc : p c = false := hpiece c List.mem_cons_self
    have hsplit := ih fun e he => hpiece e (List.mem_cons_of_mem _ he)
    simp only [List.cons_append, split, hc, hsplit, Bool.false_eq_true, if_false]

theorem not_sep_of_mem_split {p : Char → Bool} {cs piece : List Char} (h : piece ∈ split p cs) :
    ∀ c ∈ piece, p c = false := by
  induction cs generalizing piece with
  | nil =>
    obtain rfl : piece = [] := List.mem_singleton.1 h
    exact fun _ hc => nomatch hc
  | cons d cs ih =>
    rw [split] at h
    split at h
    · rcases List.mem_cons.1 h with rfl | h
      · exact fun _ hc => nomatch hc
      · exact ih h
    · next hd =>
      have hd : p d = false := Bool.eq_false_iff.2 hd
      split at h
      · obtain rfl : piece = [d] := List.mem_singleton.1 h
        intro c hc
        rw [List.mem_singleton.1 hc, hd]
      · next first rest hsplit =>
        rcases List.mem_cons.1 h with rfl | h
        · intro c hc
          rcases List.mem_cons.1 hc with rfl | hc
          · exact hd
          · exact ih (hsplit ▸ List.mem_cons_self) c hc
        · exact ih (hsplit ▸ List.mem_cons_of_mem _ h)

theorem split_intercalate {d : Char} {piece : List Char} {pieces : List (List Char)}
    (h : ∀ q ∈ piece :: pieces, ∀ c ∈ q, c ≠ d) :
    split (· == d) ([d].intercalate (piece :: pieces)) = piece :: pieces := by
  have hplain : ∀ q ∈ piece :: pieces, ∀ c ∈ q, (c == d) = false := fun q hq c hc =>
    beq_eq_false_iff_ne.2 (h q hq c hc)
  clear h
  induction pieces generalizing piece with
  | nil =>
    rw [List.intercalate_singleton]
    exact split_of_not_mem (hplain piece List.mem_cons_self)
  | cons next pieces ih =>
    rw [List.intercalate_cons_cons, List.append_assoc, List.singleton_append,
      split_append_cons (hplain piece List.mem_cons_self) (beq_self_eq_true d)]
    exact congrArg (piece :: ·) (ih fun q hq => hplain q (List.mem_cons_of_mem _ hq))

/-! ## Blanks at the ends -/

/-- No blank at either end. -/
structure Bare (cs : List Char) : Prop where
  head : ∀ c, cs.head? = some c → isBlank c = false
  last : ∀ c, cs.getLast? = some c → isBlank c = false

theorem bare_of_not_blank {cs : List Char} (h : ∀ c ∈ cs, isBlank c = false) : Bare cs where
  head c hc := h c (List.mem_of_head? hc)
  last c hc := h c (List.mem_of_getLast? hc)

theorem dropWhile_of_head {p : Char → Bool} {cs : List Char}
    (h : ∀ c, cs.head? = some c → p c = false) : cs.dropWhile p = cs := by
  cases cs with
  | nil => rfl
  | cons c cs => rw [List.dropWhile_cons, h c rfl, if_neg Bool.false_ne_true]

theorem head_dropWhile {p : Char → Bool} {cs : List Char} {c : Char}
    (h : (cs.dropWhile p).head? = some c) : p c = false := by
  have := List.head?_dropWhile_not p cs
  rw [h] at this
  simpa using this

theorem trimBlanks_of_bare {cs : List Char} (h : Bare cs) : trimBlanks cs = cs := by
  have hlast : cs.reverse.dropWhile isBlank = cs.reverse :=
    dropWhile_of_head fun c hc => h.last c (List.head?_reverse ▸ hc)
  rw [trimBlanks, dropWhile_of_head h.head, hlast, List.reverse_reverse]

/-- What trimming leaves has no blank at either end. -/
theorem bare_trimBlanks (cs : List Char) : Bare (trimBlanks cs) where
  head c hc := by
    -- a start of the text without leading blanks, and so with the same first character
    have hprefix : trimBlanks cs <+: cs.dropWhile isBlank :=
      List.rdropWhile_prefix isBlank (cs.dropWhile isBlank)
    obtain ⟨rest, hrest⟩ := hprefix
    have hfirst : (cs.dropWhile isBlank).head? = some c := by
      rw [← hrest, List.head?_append, hc]
      rfl
    exact head_dropWhile hfirst
  last c hc := by
    rw [trimBlanks, List.getLast?_reverse] at hc
    exact head_dropWhile hc

theorem Bare.append_cons {front back : List Char} {d : Char} (hfront : Bare front)
    (hne : front ≠ []) (hd : isBlank d = false) (hback : Bare back) :
    Bare (front ++ d :: back) where
  head c hc := by
    obtain ⟨x, xs, rfl⟩ := List.exists_cons_of_ne_nil hne
    exact hfront.head c hc
  last c hc := by
    rw [List.getLast?_append, List.getLast?_cons] at hc
    obtain rfl : back.getLast?.getD d = c := Option.some.inj hc
    cases hb : back.getLast? with
    | none => exact hd
    | some e => exact hback.last e hb

end Text

/-! ## Entries -/

namespace Baggage

/-- An entry that a header can carry: it has a key, no separator stands in its texts, and no blank
at their ends. A value may hold equals signs. -/
structure Portable (entry : String × String) : Prop where
  key_ne_nil : entry.1.toList ≠ []
  key_bare : Text.Bare entry.1.toList
  key_plain : ∀ c ∈ entry.1.toList, c ≠ ',' ∧ c ≠ ';' ∧ c ≠ '='
  value_bare : Text.Bare entry.2.toList
  value_plain : ∀ c ∈ entry.2.toList, c ≠ ',' ∧ c ≠ ';'

/-- The text of an entry. -/
def text (entry : String × String) : List Char := entry.1.toList ++ '=' :: entry.2.toList

theorem Portable.text_plain {entry : String × String} (h : Portable entry) :
    ∀ c ∈ text entry, c ≠ ',' ∧ c ≠ ';' := by
  intro c hc
  rcases List.mem_append.1 hc with hc | hc
  · exact ⟨(h.key_plain c hc).1, (h.key_plain c hc).2.1⟩
  · rcases List.mem_cons.1 hc with rfl | hc
    · decide
    · exact h.value_plain c hc

theorem parseEntry_text {entry : String × String} (h : Portable entry) :
    parseEntry (text entry) = some entry := by
  have hproperties : (text entry).takeWhile (· != ';') = text entry :=
    List.takeWhile_eq_self_iff.2 fun c hc => bne_iff_ne.2 (h.text_plain c hc).2
  have htrim : Text.trimBlanks (text entry) = text entry :=
    Text.trimBlanks_of_bare (h.key_bare.append_cons h.key_ne_nil (by decide) h.value_bare)
  have hkey : (text entry).takeWhile (· != '=') = entry.1.toList := by
    rw [text, List.takeWhile_append_of_pos fun c hc => bne_iff_ne.2 (h.key_plain c hc).2.2]
    simp
  have hvalue : (text entry).drop entry.1.toList.length = '=' :: entry.2.toList :=
    List.drop_left
  have hne : entry.1.toList.isEmpty = false := List.isEmpty_eq_false_iff.2 h.key_ne_nil
  simp only [parseEntry, hproperties, htrim, hkey, hvalue, Text.trimBlanks_of_bare h.key_bare,
    Text.trimBlanks_of_bare h.value_bare, hne, Bool.false_eq_true, if_false, String.ofList_toList]

theorem mem_of_mem_trimBlanks {cs : List Char} {c : Char} (h : c ∈ Text.trimBlanks cs) :
    c ∈ cs := by
  rw [Text.trimBlanks, List.mem_reverse] at h
  exact (List.dropWhile_suffix _).mem (List.mem_reverse.1 ((List.dropWhile_suffix _).mem h))

theorem portable_of_parseEntry {cs : List Char} {entry : String × String}
    (hcs : ∀ c ∈ cs, c ≠ ',') (h : parseEntry cs = some entry) : Portable entry := by
  obtain ⟨body, hbody⟩ : ∃ body, body = Text.trimBlanks (cs.takeWhile (· != ';')) := ⟨_, rfl⟩
  have hplain : ∀ c ∈ body, c ≠ ',' ∧ c ≠ ';' := by
    intro c hc
    have hc : c ∈ cs.takeWhile (· != ';') := mem_of_mem_trimBlanks (hbody ▸ hc)
    refine ⟨hcs c ((List.takeWhile_prefix _).mem hc), ?_⟩
    simpa using List.mem_takeWhile_imp hc
  simp only [parseEntry, ← hbody] at h
  split at h
  · cases h
  · next sign value hdrop =>
    split at h
    · cases h
    · next hne =>
      obtain rfl := Option.some.inj h
      have hkey : ∀ c ∈ Text.trimBlanks (body.takeWhile (· != '=')), c ∈ body ∧ c ≠ '=' := by
        intro c hc
        have hc := mem_of_mem_trimBlanks hc
        exact ⟨(List.takeWhile_prefix _).mem hc, by simpa using List.mem_takeWhile_imp hc⟩
      have hvalue : ∀ c ∈ Text.trimBlanks value, c ∈ body := by
        intro c hc
        have hc : c ∈ sign :: value := List.mem_cons_of_mem _ (mem_of_mem_trimBlanks hc)
        exact (List.drop_suffix _ _).mem (hdrop ▸ hc)
      constructor <;> simp only [String.toList_ofList]
      · simpa using hne
      · exact Text.bare_trimBlanks _
      · exact fun c hc => ⟨(hplain c (hkey c hc).1).1, (hplain c (hkey c hc).1).2, (hkey c hc).2⟩
      · exact Text.bare_trimBlanks _
      · exact fun c hc => hplain c (hvalue c hc)

/-! ## Headers -/

theorem toList_render (b : Baggage) : b.render.toList = [','].intercalate (b.entries.map text) := by
  rw [render, String.toList_intercalate, List.map_map]
  refine congrArg _ (List.map_congr_left fun entry _ => ?_)
  simp [text]

theorem parse_render {b : Baggage} (h : ∀ e ∈ b.entries, Portable e) : parse b.render = b := by
  have hread : (b.entries.map text).filterMap parseEntry = b.entries := by
    calc (b.entries.map text).filterMap parseEntry
        = b.entries.filterMap (parseEntry ∘ text) := List.filterMap_map
      _ = b.entries.filterMap some :=
        List.filterMap_congr fun e he => parseEntry_text (h e he)
      _ = b.entries := List.filterMap_some
  rw [parse, toList_render]
  cases hb : b.entries with
  | nil =>
    rw [← SortedMap.ofList_entries b, hb]
    rfl
  | cons e rest =>
    rw [List.map_cons, Text.split_intercalate, ← List.map_cons, ← hb, hread,
      SortedMap.ofList_entries]
    intro q hq c hc
    rw [← List.map_cons, ← hb] at hq
    obtain ⟨e, he, rfl⟩ := List.mem_map.1 hq
    exact ((h e he).text_plain c hc).1

theorem portable_of_parse {header : String} {entry : String × String}
    (h : entry ∈ (parse header).entries) : Portable entry := by
  obtain ⟨piece, hpiece, hentry⟩ := List.mem_filterMap.1 (SortedMap.mem_of_mem_ofList h)
  refine portable_of_parseEntry (fun c hc => ?_) hentry
  exact beq_eq_false_iff_ne.1 (Text.not_sep_of_mem_split hpiece c hc)

/-- Baggage comes back from its header exactly when the header can carry each of its entries. -/
theorem parse_render_iff {b : Baggage} : parse b.render = b ↔ ∀ e ∈ b.entries, Portable e := by
  refine ⟨fun h e he => ?_, parse_render⟩
  rw [← h] at he
  exact portable_of_parse he

end Baggage

end StepEngine
