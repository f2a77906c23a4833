import StepEngine.Proofs.Propagation

/-!
# The grammar of a traceparent

A header is read exactly when it is `00-TRACE-SPAN-FLAGS`, blanks around it apart. The ids come out in
lower case, and of the flags the lowest bit is left.

* `Text.intercalate_split` : the pieces of a text, with separators between, are the text;
* `Text.trimBlanks_eq_iff` : a text without the blanks around it;
* `TraceContext.line` : the text `00-TRACE-SPAN-FLAGS`; `TraceContext.Header` : a header of this form;
* `ofTraceparent?_isSome_iff` : these are read, and no others;
* `TraceContext.Normalizes` : what is read of a header, and what is written of that
  (`reads_traceparent`).
-/

namespace StepEngine

namespace Text

/-- The pieces of a text, with separators between, are the text. -/
theorem intercalate_split (d : Char) (cs : List Char) :
    [d].intercalate (split (· == d) cs) = cs := by
  induction cs with
  | nil => rfl
  | cons c cs ih =>
    rw [split]
    cases hsplit : split (· == d) cs with
    | nil => exact absurd hsplit (split_ne_nil _ cs)
    | cons piece rest =>
      rw [hsplit] at ih
      by_cases hc : (c == d) = true
      · obtain rfl : c = d := beq_iff_eq.1 hc
        rw [if_pos hc, List.intercalate_cons_cons, ih]
        rfl
      · rw [if_neg hc]
        cases rest with
        | nil =>
          rw [List.intercalate_singleton] at ih ⊢
          rw [ih]
        | cons next rest =>
          rw [List.intercalate_cons_cons] at ih ⊢
          rw [← ih]
          rfl

/-- Trimming takes blanks away at both ends. -/
theorem exists_trimBlanks (cs : List Char) : ∃ before after,
    (∀ c ∈ before ++ after, isBlank c = true) ∧ cs = before ++ trimBlanks cs ++ after := by
  have hblank {c : Char} {ds : List Char} (h : c ∈ ds.takeWhile isBlank) : isBlank c = true :=
    List.all_eq_true.1 List.all_takeWhile c h
  let middle := (cs.dropWhile isBlank).reverse
  refine ⟨cs.takeWhile isBlank, (middle.takeWhile isBlank).reverse, ?_, ?_⟩
  · refine List.forall_mem_append.2 ⟨fun c => hblank, fun c hc => hblank (List.mem_reverse.1 hc)⟩
  · have hmiddle : trimBlanks cs ++ (middle.takeWhile isBlank).reverse = cs.dropWhile isBlank := by
      rw [trimBlanks, ← List.reverse_append, List.takeWhile_append_dropWhile, List.reverse_reverse]
    rw [List.append_assoc, hmiddle, List.takeWhile_append_dropWhile]

/-- A text without the blanks around it, if it has none at its own ends. -/
theorem trimBlanks_eq_iff {cs line : List Char} (hbare : Bare line) (hne : line ≠ []) :
    trimBlanks cs = line ↔ ∃ before after,
      (∀ c ∈ before ++ after, isBlank c = true) ∧ cs = before ++ line ++ after := by
  constructor
  · rintro rfl
    exact exists_trimBlanks cs
  · rintro ⟨before, after, hblank, rfl⟩
    obtain ⟨hbefore, hafter⟩ := List.forall_mem_append.1 hblank
    have hfront : (before ++ line ++ after).dropWhile isBlank = line ++ after := by
      rw [List.append_assoc, List.dropWhile_append_of_pos hbefore]
      refine dropWhile_of_head fun c hc => hbare.head c ?_
      rwa [List.head?_append_of_ne_nil _ hne] at hc
    have hback : (line ++ after).reverse.dropWhile isBlank = line.reverse := by
      rw [List.reverse_append,
        List.dropWhile_append_of_pos fun c hc => hafter c (List.mem_reverse.1 hc)]
      exact dropWhile_of_head fun c hc => hbare.last c (List.head?_reverse ▸ hc)
    rw [trimBlanks, hfront, hback, List.reverse_reverse]

end Text

namespace TraceContext

/-- A header of the form `00-TRACE-SPAN-FLAGS`, blanks around it apart. -/
structure Header (header : String) (traceDigits spanDigits flagDigits : List Char) : Prop where
  /-- 32 hexadecimal digits in either case, not all of them zero. -/
  trace : traceDigits.length = 32 ∧ (∀ c ∈ traceDigits, Hex.isDigit c = true) ∧
    ¬∀ c ∈ traceDigits, c = '0'
  /-- 16 such digits. -/
  span : spanDigits.length = 16 ∧ (∀ c ∈ spanDigits, Hex.isDigit c = true) ∧
    ¬∀ c ∈ spanDigits, c = '0'
  /-- Two digits. -/
  flags : flagDigits.length = 2 ∧ ∀ c ∈ flagDigits, Hex.isDigit c = true
  spelled : ∃ before after, (∀ c ∈ before ++ after, Text.isBlank c = true) ∧
    header.toList = before ++ line traceDigits spanDigits flagDigits ++ after

theorem line_ne_nil (trace span flags : List Char) : line trace span flags ≠ [] := nofun

/-- A header of this form is read. -/
theorem Header.read {header : String} {trace span flags : List Char}
    (h : Header header trace span flags) : ofTraceparent? header =
      some ⟨String.ofList (trace.map Char.toLower), String.ofList (span.map Char.toLower),
        Hex.number flags % 2 == 1, .empty⟩ := by
  have hbare := bare_line h.trace.2.1 h.span.2.1 h.flags.2
  exact ofTraceparent?_of_line (isId_iff.2 h.trace) (isId_iff.2 h.span) h.flags.1 h.flags.2
    ((Text.trimBlanks_eq_iff hbare (line_ne_nil trace span flags)).2 h.spelled)

/-- A header that is read is of this form. -/
theorem exists_header_of_isSome {header : String} (h : (ofTraceparent? header).isSome = true) :
    ∃ trace span flags, Header header trace span flags := by
  unfold ofTraceparent? at h
  split at h
  · next version trace span flags hsplit =>
    split at h
    · next hwell =>
      obtain ⟨rfl, htrace, hspan, hlength, hall⟩ := hwell
      have hflags : ∀ c ∈ flags, Hex.isDigit c = true := List.all_eq_true.1 hall
      have hjoined := Text.intercalate_split '-' (Text.trimBlanks header.toList)
      rw [hsplit] at hjoined
      have htrimmed : Text.trimBlanks header.toList = line trace span flags := by
        rw [← hjoined]
        simp only [List.intercalate_cons_cons, List.intercalate_singleton, line, List.append_assoc,
          List.singleton_append]
      have hbare := bare_line (isId_iff.1 htrace).2.1 (isId_iff.1 hspan).2.1 hflags
      exact ⟨trace, span, flags, isId_iff.1 htrace, isId_iff.1 hspan, ⟨hlength, hflags⟩,
        (Text.trimBlanks_eq_iff hbare (line_ne_nil trace span flags)).1 htrimmed⟩
    · cases h
  · cases h

/-- What is read of a header, and what is written of that: the header in lower case, without the
blanks around it, and with no more of its flags than the lowest bit. -/
structure Normalizes (header : String) (trace span flags : List Char) (t : TraceContext) : Prop where
  read : ofTraceparent? header = some t
  traceId : t.traceId = String.ofList (trace.map Char.toLower)
  spanId : t.spanId = String.ofList (span.map Char.toLower)
  sampled : t.sampled = (Hex.number flags).testBit 0
  baggage : t.baggage = .empty
  written : t.traceparent.toList =
    (line trace span (if (Hex.number flags).testBit 0 then ['0', '1'] else ['0', '0'])).map
      Char.toLower
  /-- What is written is read as the same context. -/
  again : ofTraceparent? t.traceparent = some t

theorem Header.normalizes {header : String} {trace span flags : List Char}
    (h : Header header trace span flags) : ∃ t, Normalizes header trace span flags t := by
  have hread := h.read
  have hsampled : (Hex.number flags % 2 == 1) = (Hex.number flags).testBit 0 := by
    rw [Nat.testBit_zero]
    rfl
  rw [hsampled] at hread
  obtain ⟨hids, -⟩ := hasHeaderIds_of_ofTraceparent? hread
  refine ⟨_, hread, rfl, rfl, rfl, rfl, ?_, ofTraceparent?_traceparent hids⟩
  rw [toList_traceparent]
  simp only [line, String.toList_ofList]
  cases (Hex.number flags).testBit 0
  · simp [TraceContext.flags, List.map_append]
  · simp [TraceContext.flags, List.map_append]

/-- The headers that are read are those of the form `00-TRACE-SPAN-FLAGS`, and they are normalized. -/
theorem reads_traceparent (header : String) :
    ((ofTraceparent? header).isSome = true ↔
      ∃ trace span flags, Header header trace span flags) ∧
    ∀ trace span flags, Header header trace span flags →
      ∃ t, Normalizes header trace span flags t := by
  refine ⟨⟨exists_header_of_isSome, ?_⟩, fun _ _ _ h => h.normalizes⟩
  rintro ⟨trace, span, flags, h⟩
  rw [h.read]
  rfl

/-- Capitals, blanks that are not in the first characters, and flags with more than one bit. -/
theorem reads_traceparent_in_capitals :
    let header := "\u3000 00-4BF92F3577B34DA6A3CE929D0E0E4736-00F067AA0BA902B7-03\n"
    Header header "4BF92F3577B34DA6A3CE929D0E0E4736".toList "00F067AA0BA902B7".toList ['0', '3'] ∧
      ofTraceparent? header =
        some ⟨"4bf92f3577b34da6a3ce929d0e0e4736", "00f067aa0ba902b7", true, .empty⟩ := by
  intro header
  have hheader : Header header "4BF92F3577B34DA6A3CE929D0E0E4736".toList
      "00F067AA0BA902B7".toList ['0', '3'] :=
    ⟨isId_iff.1 (by decide), isId_iff.1 (by decide), ⟨rfl, List.all_eq_true.1 (by decide)⟩,
      ['\u3000', ' '], ['\n'], List.all_eq_true.1 (by decide), by decide⟩
  obtain ⟨t, ht⟩ := (reads_traceparent header).2 _ _ _ hheader
  refine ⟨hheader, ?_⟩
  rw [ht.read]
  obtain ⟨trace, span, sampled, baggage⟩ := t
  obtain ⟨-, rfl, rfl, rfl, rfl, -, -⟩ := ht
  decide

end TraceContext

end StepEngine
