import Mathlib.Algebra.Group.Nat.Defs
import StepEngine.Proofs.Baggage
import StepEngine.Transport.Call

/-!
# Trace contexts in headers

A trace context that is written into headers is read back with its ids and its flag. Its baggage is
what a header can carry of it.

* `TraceContext.IsHeaderId` : an id as headers have it: digits in lower case, not all of them zero;
* `Uuid.isHeaderId_simple`, `isHeaderId_spanIdOf` : random identifiers always give such ids, because
  the digit of their version is not zero;
* `TraceContext.line` : the text of a traceparent, which is read when its parts are sound
  (`ofTraceparent?_of_line`);
* `TraceContext.HasHeaderIds` : both ids of a context are such, as in every context that is read
  (`hasHeaderIds_of_extract?`);
* `TraceContext.ofHeaders?_inject` : what is read back of such a context;
* `TraceContext.Obtained` : the contexts that a program can come by.
-/

namespace StepEngine

/-! ## Hexadecimal digits -/

namespace Hex

/-- What holds of the digits among the first characters holds of all digits. -/
theorem forall_digit {P : Char → Prop}
    (h : ∀ n < 103, isDigit (Char.ofNat n) = true → P (Char.ofNat n)) {c : Char}
    (hc : isDigit c = true) : P c := by
  have hbound : c.toNat < 103 := by
    simp only [isDigit, Bool.or_eq_true, Bool.and_eq_true, decide_eq_true_eq, Char.le_def,
      UInt32.le_iff_toNat_le] at hc
    have : c.toNat = c.val.toNat := rfl
    rcases hc with (⟨_, hc⟩ | ⟨_, hc⟩) | ⟨_, hc⟩
    all_goals
      simp only [show '9'.val.toNat = 57 from rfl, show 'f'.val.toNat = 102 from rfl,
        show 'F'.val.toNat = 70 from rfl] at hc
      omega
  rw [← Char.ofNat_toNat c] at hc ⊢
  exact h _ hbound hc

theorem not_blank_of_isDigit {c : Char} (h : isDigit c = true) : Text.isBlank c = false :=
  forall_digit (P := fun c => Text.isBlank c = false) (by decide) h

theorem ne_hyphen_of_isDigit {c : Char} (h : isDigit c = true) : c ≠ '-' :=
  forall_digit (P := (· ≠ '-')) (by decide) h

theorem isDigit_toLower {c : Char} (h : isDigit c = true) : isDigit c.toLower = true :=
  forall_digit (P := fun c => isDigit c.toLower = true) (by decide) h

theorem toLower_toLower {c : Char} (h : isDigit c = true) : c.toLower.toLower = c.toLower :=
  forall_digit (P := fun c => c.toLower.toLower = c.toLower) (by decide) h

theorem eq_zero_of_toLower {c : Char} (h : isDigit c = true) : c.toLower = '0' → c = '0' :=
  forall_digit (P := fun c => c.toLower = '0' → c = '0') (by decide) h

theorem isDigit_digit : ∀ n < 16, isDigit (digit n) = true := by decide

theorem toLower_digit : ∀ n < 16, (digit n).toLower = digit n := by decide

theorem digit_eq_zero : ∀ n < 16, digit n = '0' → n = 0 := by decide

/-! ## Spelled numbers -/

theorem exists_digit_of_mem_spell {width n : Nat} {c : Char} (h : c ∈ spell width n) :
    ∃ k < 16, c = digit k := by
  induction width generalizing n with
  | zero => cases h
  | succ width ih =>
    rw [spell, List.mem_append, List.mem_singleton] at h
    rcases h with h | rfl
    · exact ih h
    · exact ⟨n % 16, Nat.mod_lt n (by decide), rfl⟩

theorem isDigit_of_mem_spell {width n : Nat} {c : Char} (h : c ∈ spell width n) :
    isDigit c = true := by
  obtain ⟨k, hk, rfl⟩ := exists_digit_of_mem_spell h
  exact isDigit_digit k hk

theorem map_toLower_spell (width n : Nat) : (spell width n).map Char.toLower = spell width n := by
  have hlower : ∀ c ∈ spell width n, c.toLower = id c := by
    intro c hc
    obtain ⟨k, hk, rfl⟩ := exists_digit_of_mem_spell hc
    exact toLower_digit k hk
  rw [List.map_congr_left hlower, List.map_id]

/-- The first digits of a number are those of what is left without the others. -/
theorem take_spell (width more n : Nat) :
    (spell (width + more) n).take width = spell width (n / 16 ^ more) := by
  induction more generalizing n with
  | zero =>
    rw [Nat.add_zero, Nat.pow_zero, Nat.div_one]
    exact List.take_of_length_le (Nat.le_of_eq (length_spell width n))
  | succ more ih =>
    have hlength : width ≤ (spell (width + more) (n / 16)).length := by
      rw [length_spell]
      omega
    rw [← Nat.add_assoc, spell, List.take_append_of_le_length hlength, ih, Nat.div_div_eq_div_mul,
      Nat.pow_succ, Nat.mul_comm]

theorem mod_of_spell_zero {width n : Nat} (h : ∀ c ∈ spell width n, c = '0') :
    n % 16 ^ width = 0 := by
  induction width generalizing n with
  | zero => rw [Nat.pow_zero, Nat.mod_one]
  | succ width ih =>
    rw [spell, List.forall_mem_append] at h
    have hfront : n / 16 % 16 ^ width = 0 := ih h.1
    have hlast : n % 16 = 0 :=
      digit_eq_zero _ (Nat.mod_lt n (by decide)) (h.2 _ List.mem_cons_self)
    rw [Nat.pow_succ, Nat.mul_comm, Nat.mod_mul, hlast, hfront]

end Hex

/-! ## Ids -/

namespace TraceContext

/-- An id as headers have it: so many hexadecimal digits in lower case, not all of them zero. -/
structure IsHeaderId (length : Nat) (id : String) : Prop where
  isId : isId length id.toList = true
  lower : id.toList.map Char.toLower = id.toList

theorem isId_iff {length : Nat} {cs : List Char} :
    isId length cs = true ↔
      cs.length = length ∧ (∀ c ∈ cs, Hex.isDigit c = true) ∧ ¬∀ c ∈ cs, c = '0' := by
  simp only [isId, Bool.and_eq_true, beq_iff_eq, List.all_eq_true, Bool.not_eq_true', and_assoc,
    ← Bool.not_eq_true]

theorem IsHeaderId.isDigit {length : Nat} {id : String} (h : IsHeaderId length id) :
    ∀ c ∈ id.toList, Hex.isDigit c = true :=
  (isId_iff.1 h.isId).2.1

/-- What is read of an id is an id as headers have it. -/
theorem isHeaderId_toLower {length : Nat} {cs : List Char} (h : isId length cs = true) :
    IsHeaderId length (String.ofList (cs.map Char.toLower)) := by
  obtain ⟨hlength, hdigit, hzero⟩ := isId_iff.1 h
  constructor <;> rw [String.toList_ofList]
  · refine isId_iff.2 ⟨by rw [List.length_map, hlength], ?_, ?_⟩
    · exact List.forall_mem_map.2 fun c hc => Hex.isDigit_toLower (hdigit c hc)
    · intro hall
      exact hzero fun c hc => Hex.eq_zero_of_toLower (hdigit c hc) (List.forall_mem_map.1 hall c hc)
  · rw [List.map_map]
    exact List.map_congr_left fun c hc => Hex.toLower_toLower (hdigit c hc)

theorem isHeaderId_spell {width n : Nat} (h : n % 16 ^ width ≠ 0) :
    IsHeaderId width (String.ofList (Hex.spell width n)) := by
  constructor <;> rw [String.toList_ofList]
  · refine isId_iff.2 ⟨Hex.length_spell width n, fun c hc => Hex.isDigit_of_mem_spell hc, ?_⟩
    exact fun hall => h (Hex.mod_of_spell_zero hall)
  · exact Hex.map_toLower_spell width n

end TraceContext

namespace Uuid

/-- The upper half of a random identifier holds the digit of its version. -/
theorem upper_random_ne_zero (bits : BitVec 128) :
    (random bits).toNat / 16 ^ 16 % 16 ^ 16 ≠ 0 := by
  simp only [random, stamp, ofNat, toNat, BitVec.toNat_ofNat,
    show Nat.pow 2 80 = 2 ^ 80 from rfl, show Nat.pow 2 76 = 2 ^ 76 from rfl,
    show Nat.pow 2 64 = 2 ^ 64 from rfl, show Nat.pow 2 63 = 2 ^ 63 from rfl,
    show Nat.pow 2 62 = 2 ^ 62 from rfl, show Nat.pow 2 48 = 2 ^ 48 from rfl,
    show Nat.pow 2 12 = 2 ^ 12 from rfl]
  omega

theorem isHeaderId_spanIdOf (bits : BitVec 128) :
    TraceContext.IsHeaderId 16 (TraceContext.spanIdOf (random bits)) := by
  rw [TraceContext.spanIdOf, digits, Hex.take_spell 16 16]
  exact TraceContext.isHeaderId_spell (upper_random_ne_zero bits)

theorem isHeaderId_simple (bits : BitVec 128) :
    TraceContext.IsHeaderId 32 (random bits).simple := by
  refine TraceContext.isHeaderId_spell fun h => upper_random_ne_zero bits ?_
  omega

end Uuid

namespace TraceContext

/-! ## The traceparent header -/

/-- Both ids are as headers have them. -/
structure HasHeaderIds (t : TraceContext) : Prop where
  trace : IsHeaderId 32 t.traceId
  span : IsHeaderId 16 t.spanId

/-- The text `00-TRACE-SPAN-FLAGS`. -/
def line (trace span flags : List Char) : List Char :=
  ['0', '0'] ++ '-' :: (trace ++ '-' :: (span ++ '-' :: flags))

section Line

variable {trace span flags : List Char} (htrace : ∀ c ∈ trace, Hex.isDigit c = true)
  (hspan : ∀ c ∈ span, Hex.isDigit c = true) (hflags : ∀ c ∈ flags, Hex.isDigit c = true)

include htrace hspan hflags

theorem split_line : Text.split (· == '-') (line trace span flags) =
    [['0', '0'], trace, span, flags] := by
  have plain {cs : List Char} (h : ∀ c ∈ cs, Hex.isDigit c = true) :
      ∀ c ∈ cs, (c == '-') = false := fun c hc =>
    beq_eq_false_iff_ne.2 (Hex.ne_hyphen_of_isDigit (h c hc))
  have hversion : ∀ c ∈ ['0', '0'], Hex.isDigit c = true := List.all_eq_true.1 (by decide)
  rw [line, Text.split_append_cons (plain hversion) (by decide),
    Text.split_append_cons (plain htrace) (by decide),
    Text.split_append_cons (plain hspan) (by decide), Text.split_of_not_mem (plain hflags)]

theorem bare_line : Text.Bare (line trace span flags) := by
  have digits {cs : List Char} (h : ∀ c ∈ cs, Hex.isDigit c = true) :
      ∀ c ∈ cs, Text.isBlank c = false := fun c hc => Hex.not_blank_of_isDigit (h c hc)
  refine Text.bare_of_not_blank ?_
  simp only [line, List.forall_mem_append, List.forall_mem_cons]
  exact ⟨⟨by decide, by decide, List.forall_mem_nil _⟩, by decide, digits htrace, by decide,
    digits hspan, by decide, digits hflags⟩

end Line

/-- A text of this form is read: its ids in lower case, and the lowest bit of its flags. -/
theorem ofTraceparent?_of_line {header : String} {trace span flags : List Char}
    (htrace : isId 32 trace = true) (hspan : isId 16 span = true) (hlength : flags.length = 2)
    (hflags : ∀ c ∈ flags, Hex.isDigit c = true)
    (h : Text.trimBlanks header.toList = line trace span flags) :
    ofTraceparent? header = some ⟨String.ofList (trace.map Char.toLower),
      String.ofList (span.map Char.toLower), Hex.number flags % 2 == 1, .empty⟩ := by
  have hsplit := split_line (isId_iff.1 htrace).2.1 (isId_iff.1 hspan).2.1 hflags
  have hwell : isId 32 trace = true ∧ isId 16 span = true ∧ flags.length = 2 ∧
      flags.all Hex.isDigit = true := ⟨htrace, hspan, hlength, List.all_eq_true.2 hflags⟩
  simp only [ofTraceparent?, h, hsplit, true_and, if_pos hwell]

def flags (sampled : Bool) : List Char := ['0', if sampled then '1' else '0']

theorem isDigit_flags (sampled : Bool) : ∀ c ∈ flags sampled, Hex.isDigit c = true :=
  List.all_eq_true.1 (by cases sampled <;> decide)

theorem toList_traceparent (t : TraceContext) :
    t.traceparent.toList = line t.traceId.toList t.spanId.toList (flags t.sampled) := by
  obtain ⟨trace, span, sampled, baggage⟩ := t
  cases sampled <;> simp [traceparent, line, flags]

theorem ofTraceparent?_traceparent {t : TraceContext} (h : t.HasHeaderIds) :
    ofTraceparent? t.traceparent = some { t with baggage := .empty } := by
  have hbare : Text.trimBlanks t.traceparent.toList =
      line t.traceId.toList t.spanId.toList (flags t.sampled) := by
    rw [toList_traceparent]
    exact Text.trimBlanks_of_bare (bare_line h.trace.isDigit h.span.isDigit (isDigit_flags _))
  have hnumber : (Hex.number (flags t.sampled) % 2 == 1) = t.sampled := by
    cases t.sampled <;> decide
  rw [ofTraceparent?_of_line h.trace.isId h.span.isId rfl (isDigit_flags _) hbare, h.trace.lower,
    h.span.lower, String.ofList_toList, String.ofList_toList, hnumber]

theorem hasHeaderIds_of_ofTraceparent? {header : String} {t : TraceContext}
    (h : ofTraceparent? header = some t) : t.HasHeaderIds ∧ t.baggage = .empty := by
  simp only [ofTraceparent?] at h
  split at h
  · split at h
    · next hwell =>
      obtain rfl := Option.some.inj h
      exact ⟨⟨isHeaderId_toLower hwell.2.1, isHeaderId_toLower hwell.2.2.1⟩, rfl⟩
    · cases h
  · cases h

/-! ## Both headers -/

/-- What is read back of a context: its ids and its flag, and the baggage that its header gives. -/
theorem ofHeaders?_inject {t : TraceContext} (h : t.HasHeaderIds) {headers : Headers}
    (hheaders : headers.find? "baggage" = none) :
    ofHeaders? (t.inject headers) = some { t with baggage := .parse t.baggage.render } := by
  have hparent : (t.inject headers).find? "traceparent" = some t.traceparent := by
    unfold inject
    split
    · rw [SortedMap.find?_insert, if_neg (by decide), SortedMap.find?_insert, if_pos rfl]
    · rw [SortedMap.find?_insert, if_pos rfl]
  have hbaggage : (t.inject headers).find? "baggage" = t.baggageHeader := by
    unfold inject
    split
    · next header hheader => rw [SortedMap.find?_insert, if_pos rfl, hheader]
    · next hheader => rw [SortedMap.find?_insert, if_neg (by decide), hheaders, hheader]
  rw [ofHeaders?, hparent, hbaggage, extract?, Option.bind_some, ofTraceparent?_traceparent h,
    Option.map_some, baggageHeader]
  by_cases hempty : t.baggage.isEmpty = true
  · -- without baggage there is no header, and the header of no entries would give none either
    have hnone : t.baggage = .empty := SortedMap.ext (List.isEmpty_iff.1 hempty)
    rw [if_pos hempty, hnone]
    rfl
  · rw [if_neg hempty]

theorem hasHeaderIds_of_extract? {traceparent baggage : Option String} {t : TraceContext}
    (h : extract? traceparent baggage = some t) :
    t.HasHeaderIds ∧ ∀ e ∈ t.baggage.entries, Baggage.Portable e := by
  obtain ⟨plain, hplain, rfl⟩ := Option.map_eq_some_iff.1 h
  obtain ⟨header, -, hheader⟩ := Option.bind_eq_some_iff.1 hplain
  obtain ⟨hids, hempty⟩ := hasHeaderIds_of_ofTraceparent? hheader
  cases baggage with
  | none =>
    refine ⟨hids, fun e he => ?_⟩
    rw [hempty] at he
    cases he
  | some header => exact ⟨⟨hids.trace, hids.span⟩, fun e => Baggage.portable_of_parse⟩

/-! ## The contexts of a program -/

theorem hasHeaderIds_root (trace span : BitVec 128) :
    (root (.random trace) (.random span)).HasHeaderIds :=
  ⟨Uuid.isHeaderId_simple trace, Uuid.isHeaderId_spanIdOf span⟩

theorem HasHeaderIds.child {t : TraceContext} (h : t.HasHeaderIds) (span : BitVec 128) :
    (t.child (.random span)).HasHeaderIds where
  trace := by
    rw [traceId_child]
    exact h.trace
  span := by
    rw [spanId_child]
    exact Uuid.isHeaderId_spanIdOf span

/-- The contexts that a program can come by: new ones, children, those that it reads from headers,
and what adding baggage makes of them. -/
inductive Obtained : TraceContext → Prop
  | root (trace span : BitVec 128) : Obtained (.root (.random trace) (.random span))
  | child {t : TraceContext} (h : Obtained t) (span : BitVec 128) :
      Obtained (t.child (.random span))
  | extract {traceparent baggage : Option String} {t : TraceContext}
      (h : extract? traceparent baggage = some t) : Obtained t
  | withBaggage {t : TraceContext} (h : Obtained t) {key : String} (hkey : key ≠ "")
      (value : String) : Obtained (t.withBaggage key value)

theorem Obtained.hasHeaderIds {t : TraceContext} (h : t.Obtained) : t.HasHeaderIds := by
  induction h with
  | root trace span => exact hasHeaderIds_root trace span
  | child _ span ih => exact ih.child span
  | extract h => exact (hasHeaderIds_of_extract? h).1
  | withBaggage _ _ _ ih => exact ⟨ih.trace, ih.span⟩

/-- A context that goes through new headers keeps its ids and its flag, and it is the same context
exactly when each entry of its baggage is one that a header can carry. -/
theorem passes_headers_iff {t : TraceContext} (h : t.Obtained) :
    ofHeaders? (t.inject .empty) = some { t with baggage := .parse t.baggage.render } ∧
    (ofHeaders? (t.inject .empty) = some t ↔ ∀ e ∈ t.baggage.entries, Baggage.Portable e) := by
  have hback : ofHeaders? (t.inject .empty) = some { t with baggage := .parse t.baggage.render } :=
    ofHeaders?_inject h.hasHeaderIds rfl
  refine ⟨hback, ?_⟩
  rw [hback, Option.some.injEq, ← Baggage.parse_render_iff]
  exact ⟨fun heq => congrArg TraceContext.baggage heq, fun heq => by rw [heq]⟩

/-- A context that was read from a header and then got an entry. -/
theorem passes_headers_of_tenant :
    let t : TraceContext := ⟨"4bf92f3577b34da6a3ce929d0e0e4736", "00f067aa0ba902b7", false, .empty⟩
    (t.withBaggage "tenant" "acme=1").Obtained ∧
      ofHeaders? ((t.withBaggage "tenant" "acme=1").inject .empty) =
        some (t.withBaggage "tenant" "acme=1") := by
  intro t
  have hread : extract? (some "00-4BF92F3577B34DA6A3CE929D0E0E4736-00F067AA0BA902B7-02") none =
      some t := by rfl
  have h : (t.withBaggage "tenant" "acme=1").Obtained := .withBaggage (.extract hread) (by decide) _
  refine ⟨h, (passes_headers_iff h).2.2 fun e he => ?_⟩
  obtain rfl : e = ("tenant", "acme=1") := List.mem_singleton.1 he
  exact ⟨by decide, Text.bare_of_not_blank (by simp; decide), by simp,
    Text.bare_of_not_blank (by simp; decide), by simp⟩

/-- A comma in a value ends its entry: what comes back is another context. -/
theorem value_is_cut_at_comma :
    let t : TraceContext := ⟨"4bf92f3577b34da6a3ce929d0e0e4736", "00f067aa0ba902b7", true, .empty⟩
    (t.withBaggage "route" "a,b").Obtained ∧
      ofHeaders? ((t.withBaggage "route" "a,b").inject .empty) =
        some (t.withBaggage "route" "a") ∧
      t.withBaggage "route" "a" ≠ t.withBaggage "route" "a,b" := by
  intro t
  have hread : extract? (some "00-4bf92f3577b34da6a3ce929d0e0e4736-00f067aa0ba902b7-01") none =
      some t := by rfl
  exact ⟨.withBaggage (.extract hread) (by decide) _, by decide, by decide⟩

end TraceContext

end StepEngine
