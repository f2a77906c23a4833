import StepEngine.Cron

/-!
# The characters of schedules

* `Cron.isMark` : a character that can stand in a schedule;
* `Cron.Reads` : what is left of a text after such characters; every reader of a part of a schedule
  reads so;
* `Cron.isMark_of_isValid` : a cron expression has no other characters.
-/

namespace StepEngine.Cron

/-- A character that can stand in a schedule. -/
def isMark (c : Char) : Bool :=
  isGap c || c.isDigit || c.isAlpha || ['*', '?', '-', '/', ',', '@'].contains c

/-- What is left of a text after characters that can stand in a schedule. -/
def Reads (cs rest : List Char) : Prop :=
  ∃ read, cs = read ++ rest ∧ ∀ c ∈ read, isMark c = true

namespace Reads

variable {cs ds rest : List Char}

theorem refl (cs : List Char) : Reads cs cs := ⟨[], rfl, nofun⟩

theorem trans (h : Reads cs ds) (h' : Reads ds rest) : Reads cs rest := by
  obtain ⟨read, rfl, hread⟩ := h
  obtain ⟨more, rfl, hmore⟩ := h'
  refine ⟨read ++ more, (List.append_assoc _ _ _).symm, fun c hc => ?_⟩
  rcases List.mem_append.1 hc with hc | hc
  · exact hread c hc
  · exact hmore c hc

theorem cons {c : Char} (hc : isMark c = true) (h : Reads cs rest) : Reads (c :: cs) rest := by
  obtain ⟨read, rfl, hread⟩ := h
  exact ⟨c :: read, rfl, List.forall_mem_cons.2 ⟨hc, hread⟩⟩

theorem dropWhile {p : Char → Bool} (h : ∀ c, p c = true → isMark c = true) (cs : List Char) :
    Reads cs (cs.dropWhile p) :=
  ⟨cs.takeWhile p, List.takeWhile_append_dropWhile.symm,
    fun c hc => h c (List.all_eq_true.1 List.all_takeWhile c hc)⟩

theorem skipGaps (cs : List Char) : Reads cs (skipGaps cs) :=
  dropWhile (fun c hc => by rw [isMark, hc]; rfl) cs

/-- All of a text that is read to its end. -/
theorem isMark (h : Reads cs []) : ∀ c ∈ cs, Cron.isMark c = true := by
  obtain ⟨read, rfl, hread⟩ := h
  rwa [List.append_nil]

end Reads

section Parts

variable {cs rest : List Char}

theorem drop_length_takeWhile (p : Char → Bool) (cs : List Char) :
    cs.drop (cs.takeWhile p).length = cs.dropWhile p :=
  calc cs.drop (cs.takeWhile p).length
      = (cs.takeWhile p ++ cs.dropWhile p).drop (cs.takeWhile p).length := by
        rw [List.takeWhile_append_dropWhile]
    _ = cs.dropWhile p := List.drop_left

theorem reads_number {n : Nat} (h : number? cs = some (n, rest)) : Reads cs rest := by
  simp only [number?] at h
  split at h
  · cases h
  · obtain ⟨-, rfl⟩ := Prod.mk.inj (Option.some.inj h)
    rw [drop_length_takeWhile]
    exact (Reads.skipGaps cs).trans
      ((Reads.dropWhile (fun c hc => by simp [isMark, hc]) _).trans (Reads.skipGaps _))

theorem reads_name {name : List Char} (h : name? cs = some (name, rest)) : Reads cs rest := by
  simp only [name?] at h
  split at h
  · cases h
  · obtain ⟨-, rfl⟩ := Prod.mk.inj (Option.some.inj h)
    rw [drop_length_takeWhile]
    exact (Reads.skipGaps cs).trans
      ((Reads.dropWhile (fun c hc => by simp [isMark, hc]) _).trans (Reads.skipGaps _))

theorem reads_range {α : Type} {part : List Char → Option (α × List Char)}
    (hpart : ∀ {cs a rest}, part cs = some (a, rest) → Reads cs rest) {low high : α}
    (h : range? part cs = some ((low, high), rest)) : Reads cs rest := by
  simp only [range?, Option.bind_eq_bind, Option.bind_eq_some_iff] at h
  obtain ⟨⟨low', middle⟩, hlow, h⟩ := h
  simp only at h
  split at h
  · obtain ⟨⟨high', last⟩, hhigh, h⟩ := Option.bind_eq_some_iff.1 h
    obtain ⟨-, rfl⟩ := Prod.mk.inj (Option.some.inj h)
    exact (hpart hlow).trans ((hpart hhigh).cons rfl)
  · cases h

theorem reads_specifier {u : Unit} {found : Specifier} (h : specifier? u cs = some (found, rest)) :
    Reads cs rest := by
  unfold specifier? at h
  split at h
  · obtain ⟨-, rfl⟩ := Prod.mk.inj (Option.some.inj h)
    exact (Reads.refl _).cons rfl
  · next c cs _ =>
    split at h
    · next hany =>
      obtain ⟨-, rfl⟩ := Prod.mk.inj (Option.some.inj h)
      rw [Bool.and_eq_true, decide_eq_true_eq] at hany
      rw [hany.1]
      exact (Reads.refl _).cons rfl
    · split at h
      · next hrange =>
        obtain ⟨-, rfl⟩ := Prod.mk.inj (Option.some.inj h)
        exact reads_range reads_number hrange
      · split at h
        · next hnumber =>
          obtain ⟨-, rfl⟩ := Prod.mk.inj (Option.some.inj h)
          exact reads_number hnumber
        · obtain ⟨⟨⟨low, high⟩, last⟩, hnames, h⟩ := Option.map_eq_some_iff.1 h
          obtain ⟨-, rfl⟩ := Prod.mk.inj h
          exact reads_range reads_name hnames
  · cases h

theorem reads_period {u : Unit} {found : Root} (h : period? u cs = some (found, rest)) :
    Reads cs rest := by
  simp only [period?, Option.bind_eq_bind, Option.bind_eq_some_iff] at h
  obtain ⟨⟨s, middle⟩, hs, h⟩ := h
  simp only at h
  split at h
  · obtain ⟨⟨step, last⟩, hstep, h⟩ := Option.bind_eq_some_iff.1 h
    obtain ⟨-, rfl⟩ := Prod.mk.inj (Option.some.inj h)
    exact (reads_specifier hs).trans ((reads_number hstep).cons rfl)
  · cases h

theorem reads_root {u : Unit} {found : Root} (h : root? u cs = some (found, rest)) :
    Reads cs rest := by
  unfold root? at h
  split at h
  · next hperiod =>
    cases h
    exact reads_period hperiod
  · split at h
    · next hspecifier =>
      obtain ⟨-, rfl⟩ := Prod.mk.inj (Option.some.inj h)
      exact reads_specifier hspecifier
    · obtain ⟨⟨name, last⟩, hname, h⟩ := Option.map_eq_some_iff.1 h
      obtain ⟨-, rfl⟩ := Prod.mk.inj h
      exact reads_name hname

theorem reads_moreRoots (u : Unit) (fuel : Nat) (cs : List Char) :
    Reads cs (moreRoots u fuel cs).2 := by
  induction fuel generalizing cs with
  | zero => exact .refl cs
  | succ fuel ih =>
    unfold moreRoots
    split
    · split
      · next hroot => exact ((reads_root hroot).trans (ih _)).cons rfl
      · exact .refl _
    · exact .refl _

theorem reads_field {u : Unit} {roots : List Root} (h : field u cs = some (roots, rest)) :
    Reads cs rest := by
  simp only [field, Option.bind_eq_bind, Option.bind_eq_some_iff] at h
  obtain ⟨⟨first, middle⟩, hfirst, h⟩ := h
  simp only at h
  split at h
  · obtain ⟨-, rfl⟩ := Prod.mk.inj (Option.some.inj h)
    exact (Reads.skipGaps cs).trans ((reads_root hfirst).trans
      ((reads_moreRoots u _ middle).trans (Reads.skipGaps _)))
  · cases h

theorem reads_fields {units : List Unit} {found : List (List Root)}
    (h : fields units cs = some (found, rest)) : Reads cs rest := by
  induction units generalizing cs found with
  | nil =>
    cases h
    exact .refl _
  | cons u units ih =>
    simp only [fields, Option.bind_eq_bind, Option.bind_eq_some_iff] at h
    obtain ⟨⟨roots, middle⟩, hfield, ⟨others, last⟩, hfields, h⟩ := h
    obtain ⟨-, rfl⟩ := Prod.mk.inj (Option.some.inj h)
    exact (reads_field hfield).trans (ih hfields)

end Parts

/-! ## Whole expressions -/

theorem isMark_of_isShorthand {cs : List Char} (h : isShorthand cs = true) :
    ∀ c ∈ cs, isMark c = true := by
  obtain ⟨s, hs, h⟩ := List.any_eq_true.1 h
  rw [Bool.and_eq_true, List.isPrefixOf_iff_prefix, List.isEmpty_iff] at h
  obtain ⟨⟨rest, hrest⟩, hend⟩ := h
  have hmarks : (shorthands.all fun s => s.toList.all isMark) = true := by decide
  have hread : Reads (skipGaps cs) rest :=
    ⟨s.toList, hrest.symm, List.all_eq_true.1 (List.all_eq_true.1 hmarks s hs)⟩
  have hdrop : (skipGaps cs).drop s.length = rest := by
    rw [← hrest, ← String.length_toList, List.drop_left]
  rw [hdrop] at hend
  exact Reads.isMark ((Reads.skipGaps cs).trans (hread.trans (hend ▸ Reads.skipGaps rest)))

theorem isMark_of_isLonghand {cs : List Char} (h : isLonghand cs = true) :
    ∀ c ∈ cs, isMark c = true := by
  unfold isLonghand at h
  split at h
  · cases h
  · next hfields =>
    split at h
    · next hyear =>
      obtain rfl := List.isEmpty_iff.1 h
      exact Reads.isMark ((reads_fields hfields).trans (reads_field hyear))
    · obtain rfl := List.isEmpty_iff.1 h
      exact Reads.isMark (reads_fields hfields)

theorem isMark_of_isValid {expression : String} (h : isValid expression = true) :
    ∀ c ∈ expression.toList, isMark c = true := by
  have hnormal : ∀ c ∈ (normalize expression).toList, isMark c = true := by
    rcases Bool.or_eq_true_iff.1 h with h | h
    · exact isMark_of_isShorthand h
    · exact isMark_of_isLonghand h
  intro c hc
  refine hnormal c ?_
  unfold normalize
  split
  · rw [String.toList_append]
    exact List.mem_append_right _ hc
  · exact hc

end StepEngine.Cron
