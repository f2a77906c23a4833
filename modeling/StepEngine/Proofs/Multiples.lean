import Mathlib.Algebra.Order.Round
import Mathlib.Tactic.FieldSimp
import StepEngine.Number.Multiple
import StepEngine.Proofs.Rounding
import StepEngine.Proofs.Usable

/-!
# Multiples up to rounding

A value is taken for a multiple when the quotient lies near enough to an integer, and how near that is
grows with the quotient. So a multiple is always accepted, and a number that is none is accepted as well
once it is large enough.

* `NearInteger` : a ratio lies within a tolerance, relative to its size, of an integer;
* `nearInteger_div_iff` : for a ratio of integers, by the remainder of the division;
* `Double.isMultipleOf_eq_true_iff` : what is computed, in terms of values;
* `Double.isMultipleOf_of_nearInteger`, `nearInteger_of_isMultipleOf` : what is computed is a billionth as
  the tolerance, but for two units in the last place of one;
* `Structure.Settled.findings_of_asserting` : what a schema finds whose keywords apply no other schemas;
* `Schema.refusal?_multipleOf` : so a schema with this keyword alone refuses a number exactly when it is
  not taken for a multiple;
* `Schema.multipleOf_within_billionth` : all of it, for integers.
-/

namespace StepEngine

/-! ## Near an integer -/

/-- A ratio lies within a tolerance of an integer; the tolerance is for one, and for a larger ratio
larger in proportion. -/
def NearInteger (tolerance x : ℚ) : Prop := |x - round x| ≤ tolerance * max |x| 1

/-- How far a ratio is from the integers does not change by more than the ratio. -/
theorem abs_sub_round_le_add (x y : ℚ) : |x - round x| ≤ |y - round y| + |x - y| := by
  calc |x - round x| ≤ |x - round y| := round_le x (round y)
    _ = |(y - round y) + (x - y)| := by congr 1; ring
    _ ≤ |y - round y| + |x - y| := abs_add_le _ _

/-- The integers lie the same way on both sides of zero. -/
theorem abs_sub_round_abs (x : ℚ) : |(abs x) - round (abs x)| = |x - round x| := by
  have hneg (y : ℚ) : |-y - round (-y)| ≤ |y - round y| := by
    have h := round_le (-y) (-round y)
    rwa [Int.cast_neg, neg_sub_neg, abs_sub_comm (round y : ℚ)] at h
  rcases abs_choice x with h | h
  · rw [h]
  · rw [h]
    refine le_antisymm (hneg x) ?_
    have hback := hneg (-x)
    rwa [neg_neg] at hback

theorem nearInteger_abs (tolerance x : ℚ) :
    NearInteger tolerance (abs x) ↔ NearInteger tolerance x := by
  rw [NearInteger, NearInteger, abs_sub_round_abs, abs_abs]

/-- The distance of an integer to the nearest multiple. -/
def multipleDistance (n : Int) (d : Nat) : Nat := min (n.natAbs % d) (d - n.natAbs % d)

theorem abs_div_natCast (n : Int) (d : Nat) : |(n : ℚ) / d| = n.natAbs / d := by
  rw [abs_div, Nat.abs_cast, Nat.cast_natAbs, Int.cast_abs]

section Ratio

variable (n : Int) {d : Nat} (hd : 0 < d)

include hd

theorem multipleDistance_eq_zero_iff : multipleDistance n d = 0 ↔ (d : Int) ∣ n := by
  have hrest : n.natAbs % d < d := Nat.mod_lt _ hd
  rw [Int.natCast_dvd, Nat.dvd_iff_mod_eq_zero, multipleDistance]
  omega

/-- A ratio of integers is near an integer when the numerator is near a multiple of the denominator. -/
theorem nearInteger_div_iff (tolerance : ℚ) : NearInteger tolerance (n / d) ↔
    (multipleDistance n d : ℚ) ≤ tolerance * max (n.natAbs : ℚ) d := by
  have hd' : (0 : ℚ) < d := Nat.cast_pos.2 hd
  have hmax : max ((n.natAbs : ℚ) / d) 1 = max (n.natAbs : ℚ) d / d := by
    rw [← div_self hd'.ne', max_div_div_right hd'.le]
  rw [← nearInteger_abs, NearInteger, abs_abs, abs_div_natCast n d, abs_sub_round_div_natCast_eq,
    hmax, ← mul_div_assoc, div_le_div_iff_of_pos_right hd']
  rfl

/-- A multiple is near an integer, whatever the tolerance. -/
theorem nearInteger_of_dvd {tolerance : ℚ} (htolerance : 0 ≤ tolerance) (h : (d : Int) ∣ n) :
    NearInteger tolerance (n / d) := by
  rw [nearInteger_div_iff n hd, (multipleDistance_eq_zero_iff n hd).2 h, Nat.cast_zero]
  exact mul_nonneg htolerance (le_max_of_le_left (Nat.cast_nonneg _))

/-- Small numbers are near an integer only as multiples. -/
theorem nearInteger_iff_dvd {tolerance : ℚ} (htolerance : 0 ≤ tolerance)
    (h : tolerance * max (n.natAbs : ℚ) d < 1) : NearInteger tolerance (n / d) ↔ (d : Int) ∣ n := by
  refine ⟨fun hnear => ?_, nearInteger_of_dvd n hd htolerance⟩
  rw [nearInteger_div_iff n hd] at hnear
  have hless : (multipleDistance n d : ℚ) < 1 := lt_of_le_of_lt hnear h
  rw [← multipleDistance_eq_zero_iff n hd]
  exact Nat.lt_one_iff.1 (by exact_mod_cast hless)

end Ratio

/-! ## What is computed -/

namespace Double

theorem round_absValue (d : Double) : round d.absValue = d.roundedMagnitude := by
  have hunits : (unitsPerOne : ℚ) ≠ 0 := Nat.cast_ne_zero.2 unitsPerOne_pos.ne'
  have hhalf : d.absValue + 1 / 2 =
      ((2 * d.magnitude + unitsPerOne : Nat) : ℚ) / ((2 * unitsPerOne : Nat) : ℚ) := by
    rw [absValue]
    push_cast
    field_simp
  rw [round_eq, hhalf, Rat.floor_natCast_div_natCast, roundedMagnitude]
  rfl

/-- The distance of two counts of units. -/
theorem distance_le_iff (m whole tolerance : Nat) :
    (m - whole) + (whole - m) ≤ tolerance ↔ |(m : ℚ) - whole| ≤ tolerance := by
  rw [abs_le]
  constructor
  · intro h
    have hlow : whole ≤ m + tolerance := by omega
    have hhigh : m ≤ whole + tolerance := by omega
    qify at hlow hhigh
    constructor
    · linarith
    · linarith
  · rintro ⟨hlow, hhigh⟩
    have hlow' : whole ≤ m + tolerance := by
      qify
      linarith
    have hhigh' : m ≤ whole + tolerance := by
      qify
      linarith
    omega

/-- A quotient is near enough to an integer. -/
theorem isMultipleOf_eq_true_iff (n divisor : Double) : n.isMultipleOf divisor = true ↔
    ∃ q, n.quotient divisor = some q ∧
      |q.absValue - round q.absValue| ≤ q.multipleTolerance / unitsPerOne := by
  have hunits : (0 : ℚ) < unitsPerOne := Nat.cast_pos.2 unitsPerOne_pos
  have hdistance (q : Double) :
      |(q.magnitude : ℚ) - (q.roundedMagnitude * unitsPerOne : Nat)| ≤ q.multipleTolerance ↔
      |q.absValue - round q.absValue| ≤ q.multipleTolerance / unitsPerOne := by
    have hscaled : (q.magnitude : ℚ) - (q.roundedMagnitude * unitsPerOne : Nat) =
        (q.absValue - round q.absValue) * unitsPerOne := by
      rw [round_absValue, sub_mul, ← q.magnitude_eq, Int.cast_natCast, Nat.cast_mul]
    rw [hscaled, abs_mul, abs_of_pos hunits, le_div_iff₀ hunits]
  unfold isMultipleOf
  cases n.quotient divisor with
  | none => simp only [reduceCtorEq, false_and, exists_false, Bool.false_eq_true]
  | some q =>
    simp only [decide_eq_true_eq, Option.some.injEq, exists_eq_left', distance_le_iff, hdistance]

/-- A quotient in range is computed with an error of less than one part in `2 ^ 53`. -/
theorem exists_quotient {a b : Double} (hb : 0 < b.magnitude) {k : Nat} (hk : k ≤ 1023)
    (hrange : a.magnitude < b.magnitude * 2 ^ k)
    (hnormal : a.magnitude = 0 ∨ 2 ^ 52 * b.magnitude ≤ a.magnitude * unitsPerOne) :
    ∃ q, a.quotient b = some q ∧
      |q.absValue - a.absValue / b.absValue| ≤ a.absValue / b.absValue / 2 ^ 53 := by
  have hunits : (unitsPerOne : ℚ) ≠ 0 := Nat.cast_ne_zero.2 unitsPerOne_pos.ne'
  obtain ⟨q, hq, -, hmagnitude⟩ := exists_nearest (a.negative != b.negative) hk hrange
  have hratio : a.absValue / b.absValue = a.magnitude / b.magnitude := by
    rw [absValue, absValue, div_div_div_cancel_right₀ hunits]
  refine ⟨q, by rw [quotient, if_neg hb.ne', hq], ?_⟩
  rw [hratio]
  rcases hnormal with hzero | hnormal
  · rw [hzero, ← Nat.zero_mul b.magnitude] at hmagnitude
    rw [absValue_of_nearest_int (Nat.zero_le _) hb hmagnitude, hzero]
    simp only [Nat.cast_zero, zero_div, sub_zero, abs_zero, le_refl]
  · exact abs_absValue_sub_le hb hnormal hmagnitude

/-! ## The tolerance -/

theorem two_pow_le_unitsPerOne {k : Nat} (hk : k ≤ 1074) : 2 ^ k ≤ unitsPerOne := by
  obtain ⟨u, hu⟩ : ∃ u, u = 1074 := ⟨_, rfl⟩
  rw [unitsPerOne_eq hu]
  exact Nat.pow_le_pow_right Nat.two_pos (by omega)

/-- The double nearest a billionth is as near to it as doubles are. -/
theorem abs_billionth_sub_le : |billionth.absValue - 1 / 10 ^ 9| ≤ 1 / 10 ^ 9 / 2 ^ 53 := by
  have hunits : (0 : ℚ) < unitsPerOne := Nat.cast_pos.2 unitsPerOne_pos
  have hnear : 2 ^ 53 * (10 ^ 9 * billionth.magnitude) ≤ 2 ^ 53 * unitsPerOne + unitsPerOne ∧
      2 ^ 53 * unitsPerOne ≤ 2 ^ 53 * (10 ^ 9 * billionth.magnitude) + unitsPerOne := by
    decide +kernel
  obtain ⟨hhigh, hlow⟩ := hnear
  qify at hhigh hlow
  rw [billionth.magnitude_eq] at hhigh hlow
  rw [abs_le]
  constructor
  · refine le_of_mul_le_mul_right ?_ hunits
    linarith
  · refine le_of_mul_le_mul_right ?_ hunits
    linarith

/-- The tolerance is in range: it is no more than the quotient, or than one. -/
theorem tolerance_range {bound m u : Nat} (hu : 0 < u) (hbound : bound ≤ u) (hm : m ≤ 2 ^ 60 * u) :
    bound * max m u < u * u * 2 ^ 61 := by
  have hmost : max m u < u * 2 ^ 61 := by omega
  calc bound * max m u ≤ u * max m u := Nat.mul_le_mul_right _ hbound
    _ < u * (u * 2 ^ 61) := Nat.mul_lt_mul_of_pos_left hmost hu
    _ = u * u * 2 ^ 61 := (Nat.mul_assoc _ _ _).symm

/-- The tolerance is not subnormal. -/
theorem tolerance_normal {bound m u : Nat} (hbound : 2 ^ 52 ≤ bound) :
    2 ^ 52 * (u * u) ≤ bound * max m u * u := by
  rw [← Nat.mul_assoc]
  exact Nat.mul_le_mul_right _ (Nat.mul_le_mul hbound (Nat.le_max_right _ _))

/-- Two roundings, of the billionth and of the product with it. -/
theorem abs_sub_le_of_roundings {bound t m : ℚ} (hm : 0 < m)
    (hbound : |bound - 1 / 10 ^ 9| ≤ 1 / 10 ^ 9 / 2 ^ 53)
    (ht : |t - bound * m| ≤ bound * m / 2 ^ 53) : |t - m / 10 ^ 9| ≤ m / 10 ^ 9 / 2 ^ 51 := by
  rw [abs_le] at hbound ht ⊢
  have hlow : (1 / 10 ^ 9 - 1 / 10 ^ 9 / 2 ^ 53) * m ≤ bound * m :=
    mul_le_mul_of_nonneg_right (by linarith) hm.le
  have hhigh : bound * m ≤ (1 / 10 ^ 9 + 1 / 10 ^ 9 / 2 ^ 53) * m :=
    mul_le_mul_of_nonneg_right (by linarith) hm.le
  constructor
  · linarith
  · linarith

/-- The tolerance is a billionth of the quotient, or of one. -/
theorem abs_multipleTolerance_sub_le {q : Double} (hq : q.magnitude ≤ 2 ^ 60 * unitsPerOne) :
    |q.multipleTolerance / unitsPerOne - max q.absValue 1 / 10 ^ 9| ≤
      max q.absValue 1 / 10 ^ 9 / 2 ^ 51 := by
  have hunits : (0 : ℚ) < unitsPerOne := Nat.cast_pos.2 unitsPerOne_pos
  have hden : 0 < unitsPerOne * unitsPerOne := Nat.mul_pos unitsPerOne_pos unitsPerOne_pos
  have hsize : billionth.magnitude ≤ unitsPerOne ∧ 2 ^ 52 ≤ billionth.magnitude := by decide +kernel
  have hrange := tolerance_range unitsPerOne_pos hsize.1 hq
  have hnormal := tolerance_normal (m := q.magnitude) (u := unitsPerOne) hsize.2
  obtain ⟨bound, hbound, -, hmagnitude⟩ := exists_nearest false (by decide) hrange
  have hvalue : q.multipleTolerance / (unitsPerOne : ℚ) = bound.absValue := by
    unfold multipleTolerance
    rw [hbound, Option.map_some, Option.getD_some, absValue]
  have hratio : ((billionth.magnitude * max q.magnitude unitsPerOne : Nat) : ℚ) /
      ((unitsPerOne * unitsPerOne : Nat) : ℚ) = billionth.absValue * max q.absValue 1 := by
    have hmax : max q.absValue 1 = max (q.magnitude : ℚ) unitsPerOne / unitsPerOne := by
      rw [← max_div_div_right hunits.le, div_self hunits.ne', absValue]
    rw [hmax, absValue, div_mul_div_comm, Nat.cast_mul, Nat.cast_mul, Nat.cast_max]
  have herror := abs_absValue_sub_le hden hnormal hmagnitude
  rw [hratio] at herror
  rw [hvalue]
  exact abs_sub_le_of_roundings (lt_max_of_lt_right one_pos) abs_billionth_sub_le herror

/-! ## The computed verdict -/

section Rounded

variable {x q t : ℚ} (hq : |q - x| ≤ x / 2 ^ 53)

include hq

/-- A quotient and its rounding have nearly the same tolerance. -/
theorem max_bounds_of_rounded :
    (1 - 1 / 2 ^ 53) * max x 1 ≤ max q 1 ∧ max q 1 ≤ (1 + 1 / 2 ^ 53) * max x 1 := by
  rw [abs_le] at hq
  have hx1 : x ≤ max x 1 := le_max_left x 1
  have h1 : 1 ≤ max x 1 := le_max_right x 1
  constructor
  · rcases le_total x 1 with hle | hle
    · rw [max_eq_right hle]
      refine le_max_of_le_right ?_
      norm_num
    · rw [max_eq_left hle]
      refine le_max_of_le_left ?_
      linarith
  · refine max_le ?_ ?_
    · linarith
    · linarith

variable (hx : 0 ≤ x) (ht : |t - max q 1 / 10 ^ 9| ≤ max q 1 / 10 ^ 9 / 2 ^ 51)

include hx ht

theorem nearInteger_of_rounded (h : |q - round q| ≤ t) : NearInteger (1 / 10 ^ 9 + 1 / 2 ^ 52) x := by
  obtain ⟨-, hmax⟩ := max_bounds_of_rounded hq
  have hmove : |x - round x| ≤ |q - round q| + |q - x| := by
    rw [abs_sub_comm q x]
    exact abs_sub_round_le_add x q
  have hx1 : x ≤ max x 1 := le_max_left x 1
  have h1 : 1 ≤ max x 1 := le_max_right x 1
  rw [abs_le] at ht
  rw [NearInteger, abs_of_nonneg hx]
  linarith

theorem rounded_of_nearInteger (h : NearInteger (1 / 10 ^ 9 - 1 / 2 ^ 52) x) :
    |q - round q| ≤ t := by
  obtain ⟨hmax, -⟩ := max_bounds_of_rounded hq
  have hmove : |q - round q| ≤ |x - round x| + |q - x| := abs_sub_round_le_add q x
  have hx1 : x ≤ max x 1 := le_max_left x 1
  have h1 : 1 ≤ max x 1 := le_max_right x 1
  rw [abs_le] at ht
  rw [NearInteger, abs_of_nonneg hx] at h
  linarith

end Rounded

section Integers

variable {a b : Double} {n : Int} {d : Nat} (ha : a.units = n * unitsPerOne)
  (hb : b.units = d * unitsPerOne) (hn : n.natAbs ≤ 2 ^ 53) (hd : 0 < d) (hsmall : d ≤ 2 ^ 53)

include ha hb hn hd hsmall

/-- The quotient of integers of at most 53 bits. -/
theorem exists_quotient_of_integers : ∃ q, a.quotient b = some q ∧
    |q.absValue - n.natAbs / d| ≤ n.natAbs / d / 2 ^ 53 ∧ q.magnitude ≤ 2 ^ 60 * unitsPerOne := by
  have hunits := unitsPerOne_pos
  have hd1 : (1 : ℚ) ≤ d := Nat.one_le_cast.2 hd
  have hmagnitude : a.magnitude = n.natAbs * unitsPerOne := by
    have hcast := a.magnitude_eq
    rw [absValue_of_units ha] at hcast
    exact_mod_cast hcast
  have hdivisor : b.magnitude = d * unitsPerOne := by
    have hcast := b.magnitude_eq
    rw [absValue_of_units hb, Int.natAbs_natCast] at hcast
    exact_mod_cast hcast
  have hrange : a.magnitude < b.magnitude * 2 ^ 54 := by
    rw [hmagnitude, hdivisor]
    calc n.natAbs * unitsPerOne < 2 ^ 54 * unitsPerOne :=
          Nat.mul_lt_mul_of_pos_right (by omega) hunits
      _ ≤ 2 ^ 54 * (d * unitsPerOne) := Nat.mul_le_mul_left _ (Nat.le_mul_of_pos_left _ hd)
      _ = d * unitsPerOne * 2 ^ 54 := Nat.mul_comm _ _
  have hnormal : a.magnitude = 0 ∨ 2 ^ 52 * b.magnitude ≤ a.magnitude * unitsPerOne := by
    rw [hmagnitude, hdivisor]
    rcases Nat.eq_zero_or_pos n.natAbs with hzero | hpos
    · rw [hzero, Nat.zero_mul]
      exact .inl rfl
    · refine .inr ?_
      calc 2 ^ 52 * (d * unitsPerOne) = 2 ^ 52 * d * unitsPerOne := (Nat.mul_assoc _ _ _).symm
        _ ≤ unitsPerOne * unitsPerOne := Nat.mul_le_mul_right _ ?_
        _ ≤ n.natAbs * unitsPerOne * unitsPerOne :=
          Nat.mul_le_mul_right _ (Nat.le_mul_of_pos_left _ hpos)
      have hpower : 2 ^ 105 ≤ unitsPerOne := two_pow_le_unitsPerOne (by decide)
      omega
  obtain ⟨q, hq, herror⟩ := exists_quotient (hdivisor ▸ Nat.mul_pos hd hunits) (by decide) hrange
    hnormal
  rw [absValue_of_units ha, absValue_of_units hb, Int.natAbs_natCast] at herror
  refine ⟨q, hq, herror, ?_⟩
  have hratio : (n.natAbs : ℚ) / d ≤ 2 ^ 53 := by
    refine (div_le_self (Nat.cast_nonneg _) hd1).trans ?_
    exact_mod_cast hn
  rw [abs_le] at herror
  have hvalue : q.absValue ≤ 2 ^ 60 := by linarith
  qify
  rw [q.magnitude_eq]
  exact mul_le_mul_of_nonneg_right hvalue (Nat.cast_nonneg _)

/-- What is taken for a multiple lies near one. -/
theorem nearInteger_of_isMultipleOf (h : a.isMultipleOf b = true) :
    NearInteger (1 / 10 ^ 9 + 1 / 2 ^ 52) (n / d) := by
  obtain ⟨q, hq, herror, hsize⟩ := exists_quotient_of_integers ha hb hn hd hsmall
  obtain ⟨q', hq', hnear⟩ := (isMultipleOf_eq_true_iff a b).1 h
  obtain rfl : q = q' := Option.some.inj (hq.symm.trans hq')
  rw [← nearInteger_abs, abs_div_natCast]
  exact nearInteger_of_rounded herror (div_nonneg (Nat.cast_nonneg _) (Nat.cast_nonneg _))
    (abs_multipleTolerance_sub_le hsize) hnear

/-- What lies near a multiple is taken for one. -/
theorem isMultipleOf_of_nearInteger (h : NearInteger (1 / 10 ^ 9 - 1 / 2 ^ 52) (n / d)) :
    a.isMultipleOf b = true := by
  obtain ⟨q, hq, herror, hsize⟩ := exists_quotient_of_integers ha hb hn hd hsmall
  rw [← nearInteger_abs, abs_div_natCast] at h
  rw [isMultipleOf_eq_true_iff]
  exact ⟨q, hq, rounded_of_nearInteger herror (div_nonneg (Nat.cast_nonneg _) (Nat.cast_nonneg _))
    (abs_multipleTolerance_sub_le hsize) h⟩

end Integers

end Double

/-! ## Schemas of assertions -/

/-- Keywords that each make a validator make a schema at once. -/
theorem Compiling.mapM_eq_pure {α β : Type} {items : List α} {f : α → Compiling β} {g : α → β}
    (h : ∀ x ∈ items, f x = pure (g x)) : items.mapM f = pure (items.map g) := by
  induction items with
  | nil => rfl
  | cons x items ih =>
    obtain ⟨hx, hitems⟩ := List.forall_mem_cons.1 h
    rw [List.mapM_cons, hx, ih hitems]
    rfl

/-- A schema whose keywords apply no other schemas finds what each of them finds, in order. -/
theorem Structure.Settled.findings_of_asserting {keywords : List (String × Json)}
    (h : Settled (.object keywords)) (hasserting : ∀ k ∈ keywords, k.1 ∈ Compiler.asserting)
    {document : Document} (hdocument : (Json.object keywords).compile = .ok document)
    (value : Json) : document.findings value = keywords.flatMap fun k =>
      (Keyword.assert .draft2020 keywords k.1 k.2 value).map (Finding.mk []) := by
  obtain ⟨hroot, hdraft, hvocabularies, -⟩ :=
    Json.compile_eq_ok hdocument (h.detect .draft2020)
  have hk := h.keywords
  have heffective : document.locus.draft.effective document.locus.vocabularies keywords =
      keywords := by
    have hcounts : ∀ name ∈ Compiler.asserting,
        Draft.draft2020.counts Draft.draft2020.vocabularies name = true := by decide
    have hreference : keywords.lookup "$ref" = none := hk.lookup_absent (by decide)
    rw [hdraft, hvocabularies, Draft.effective, hreference]
    exact List.filter_eq_self.2 fun k hmem => hcounts k.1 (hasserting k hmem)
  have hkeyword (c : Compiler) (steps : Nat) : ∀ k ∈ keywords,
      c.keyword document.locus steps keywords k.1 k.2 =
        pure (.ofViolations (Keyword.assert .draft2020 keywords k.1 k.2)) := by
    intro k hmem
    have hlookup : keywords.lookup k.1 = some k.2 := SortedMap.lookup_of_mem hk.distinct hmem
    rw [Compiler.keyword_of_asserting (hasserting k hmem), hdraft,
      Compiler.fault?_of_asserting hk (hasserting k hmem) hlookup]
    rfl
  have hcompile (alone : Locus → Json → Validator) : ∃ validator,
      (document.locus.compileWith alone document.locus.steps document.locus.steps
        document.root).run [] = .ok (validator, []) ∧
      validator = .all (keywords.map fun k =>
        .ofViolations (Keyword.assert .draft2020 keywords k.1 k.2)) := by
    obtain ⟨steps, hsteps⟩ :=
      Nat.exists_eq_succ_of_ne_zero (Nat.ne_of_gt document.locus.steps_pos)
    refine ⟨_, ?_, rfl⟩
    rw [hroot, hsteps, Locus.compileWith, heffective]
    rw [Compiling.mapM_eq_pure fun k hmem => hkeyword _ _ k hmem]
    rfl
  obtain ⟨rounds, hrounds⟩ : ∃ rounds, document.rounds value = rounds + 1 := by
    refine Nat.exists_eq_succ_of_ne_zero (Nat.ne_of_gt ?_)
    exact Nat.mul_pos document.locus.steps_pos (Nat.succ_pos _)
  obtain ⟨validator, hvalidator, rfl⟩ :=
    hcompile (Locus.validator document.locus.steps rounds)
  rw [Document.findings, hrounds, Locus.validator, hvalidator]
  show ((keywords.map fun k => Validator.ofViolations
    (Keyword.assert .draft2020 keywords k.1 k.2)).flatMap fun s => s.findings value []) = _
  rw [List.flatMap_map]
  rfl

/-! ## Schemas with one keyword -/

/-- The schema that asks for a multiple, and for nothing else. -/
def Json.multipleOf (divisor : Number) : Json := .object [("multipleOf", .number divisor)]

section Keyword

open Structure

/-- The check misses a shape, and nothing else. -/
theorem passes_multipleOf (divisor : Number) : Passes (.multipleOf divisor) := by
  have hnone (k : String) (hk : k ≠ "multipleOf") :
      [("multipleOf", Json.number divisor)].lookup k = none := by
    rw [SortedMap.lookup_cons_eq, if_neg hk]
    rfl
  have hshapeless : problemsAt "" (.multipleOf divisor) = [⟨"", .noShape⟩] := by
    simp [Json.multipleOf, problemsAt, lookup_problemsUnder, located, ofKeyword, hnone,
      shapeProblems, shapeKeywords, limitProblems, limitKeywords]
  refine ⟨"", ?_⟩
  rw [hshapeless]
  exact List.forall_mem_singleton.2 rfl

variable {divisor : Number} (hunits : 0 < divisor.units) (hdouble : 0 < divisor.toDouble.units)

include hunits hdouble

theorem settled_multipleOf : Settled (.multipleOf divisor) := by
  refine ⟨passes_multipleOf divisor, ?_⟩
  have hfits : fits "multipleOf" (.number divisor) = true := by
    have hdivisor : isDivisor (.number divisor) = true := by
      rw [isDivisor, decide_eq_true hunits, decide_eq_true hdouble]
      rfl
    exact hdivisor
  rw [Json.multipleOf, isPlain, plainUnder_cons, hfits]
  rfl

/-- The schema refuses a number that is not taken for a multiple, and says so. -/
theorem Schema.refusal?_multipleOf (label : String) (n : Number) :
    (Schema.json (.multipleOf divisor)).refusal? label (.number n) =
      if n.toDouble.isMultipleOf divisor.toDouble then none
      else some (.ofFindings label (.multipleOf divisor)
        [⟨[], .notMultiple (.number n) divisor.toDouble⟩]) := by
  have hsettled := settled_multipleOf hunits hdouble
  obtain ⟨document, hdocument⟩ := hsettled.compile
  have hdivisor : Keyword.divisor? (.number divisor) = some divisor.toDouble := by
    rw [Keyword.divisor?]
    exact if_pos hdouble
  have hassert : Keyword.assert .draft2020 [("multipleOf", .number divisor)] "multipleOf"
      (.number divisor) (.number n) =
        Keyword.require (n.toDouble.isMultipleOf divisor.toDouble)
          (.notMultiple (.number n) divisor.toDouble) := by
    simp only [Keyword.assert, hdivisor]
  have hasserting : "multipleOf" ∈ Compiler.asserting := by decide
  have hfindings := hsettled.findings_of_asserting (List.forall_mem_singleton.2 hasserting)
    hdocument (.number n)
  rw [List.flatMap_singleton, hassert] at hfindings
  rw [Keyword.require] at hfindings
  by_cases h : n.toDouble.isMultipleOf divisor.toDouble = true
  · rw [if_pos h] at hfindings ⊢
    exact refusal?_eq_none_iff.2 ⟨document, hdocument, hfindings⟩
  · rw [if_neg h] at hfindings ⊢
    have hsome : document.findings (.number n) ≠ [] := hfindings ▸ List.cons_ne_nil _ _
    exact refusal?_eq_some_iff.2 (.unsatisfied hdocument hsome (by rw [hfindings]; rfl))

end Keyword

/-! ## What is accepted -/

/-- What is accepted are multiples and what lies near one. How near it has to be is between two bounds;
as long as the upper one is no more than one step, only multiples are accepted. -/
structure AcceptsMultiples (low high : ℚ) (n : Int) (d : Nat) (accepted : Prop) : Prop where
  of_dvd : (d : Int) ∣ n → accepted
  of_near : NearInteger low (n / d) → accepted
  near : accepted → NearInteger high (n / d)
  iff_dvd : high * max (n.natAbs : ℚ) d < 1 → (accepted ↔ (d : Int) ∣ n)

theorem acceptsMultiples {low high : ℚ} {n : Int} {d : Nat} {accepted : Prop} (hd : 0 < d)
    (hlow : 0 ≤ low) (hhigh : 0 ≤ high) (of_near : NearInteger low (n / d) → accepted)
    (near : accepted → NearInteger high (n / d)) : AcceptsMultiples low high n d accepted where
  of_dvd h := of_near (nearInteger_of_dvd n hd hlow h)
  of_near := of_near
  near := near
  iff_dvd h := by
    refine ⟨fun haccepted => ?_, fun hdvd => of_near (nearInteger_of_dvd n hd hlow hdvd)⟩
    exact (nearInteger_iff_dvd n hd hhigh h).1 (near haccepted)

/-- An integer, however it is written, is accepted by a schema with an integer as the divisor when it
lies near enough to a multiple: within a billionth, of the quotient or of one. The first line is that
condition with exact ratios, the second how it is computed, the third what becomes of a payload. Rounding
moves the bound by two units in the last place of one. -/
theorem Schema.multipleOf_within_billionth {divisor v : Number} {n : Int} {d : Nat}
    (hv : v.units = n * Double.unitsPerOne) (hdivisor : divisor.units = d * Double.unitsPerOne)
    (hn : n.natAbs ≤ 2 ^ 53) (hd : 0 < d) (hsmall : d ≤ 2 ^ 53) :
    AcceptsMultiples (1 / 10 ^ 9) (1 / 10 ^ 9) n d (NearInteger (1 / 10 ^ 9) (n / d)) ∧
    AcceptsMultiples (1 / 10 ^ 9 - 1 / 2 ^ 52) (1 / 10 ^ 9 + 1 / 2 ^ 52) n d
      (v.toDouble.isMultipleOf divisor.toDouble = true) ∧
    ∀ label, AcceptsMultiples (1 / 10 ^ 9 - 1 / 2 ^ 52) (1 / 10 ^ 9 + 1 / 2 ^ 52) n d
      ((Schema.json (.multipleOf divisor)).refusal? label (.number v) = none) := by
  have hinstance : v.toDouble.units = n * Double.unitsPerOne := Number.units_toDouble hv hn
  have hdouble : divisor.toDouble.units = d * Double.unitsPerOne :=
    Number.units_toDouble (n := d) hdivisor hsmall
  have hpositive : (0 : Int) < d * Double.unitsPerOne :=
    Int.mul_pos (Int.natCast_pos.2 hd) (Int.natCast_pos.2 Double.unitsPerOne_pos)
  have hcomputed : AcceptsMultiples (1 / 10 ^ 9 - 1 / 2 ^ 52) (1 / 10 ^ 9 + 1 / 2 ^ 52) n d
      (v.toDouble.isMultipleOf divisor.toDouble = true) :=
    acceptsMultiples hd (by norm_num) (by norm_num)
      (Double.isMultipleOf_of_nearInteger hinstance hdouble hn hd hsmall)
      (Double.nearInteger_of_isMultipleOf hinstance hdouble hn hd hsmall)
  refine ⟨acceptsMultiples hd (by norm_num) (by norm_num) id id, hcomputed, fun label => ?_⟩
  have hpayload : (Schema.json (.multipleOf divisor)).refusal? label (.number v) = none ↔
      v.toDouble.isMultipleOf divisor.toDouble = true := by
    rw [refusal?_multipleOf (hdivisor ▸ hpositive) (hdouble ▸ hpositive)]
    split
    · next h => exact ⟨fun _ => h, fun _ => rfl⟩
    · next h => exact ⟨nofun, fun htrue => absurd htrue h⟩
  rwa [hpayload]

theorem Schema.multipleOf_five_refuses_twelve :
    (Number.int 12).units = 12 * Double.unitsPerOne ∧
    (Number.int 15).units = 15 * Double.unitsPerOne ∧
    (Number.int 5).units = (5 : Nat) * Double.unitsPerOne ∧
    (∀ label, (Schema.json (.multipleOf (.int 5))).refusal? label (.number (.int 15)) = none) ∧
    ∀ label, (Schema.json (.multipleOf (.int 5))).refusal? label (.number (.int 12)) ≠ none := by
  have htwelve : (Number.int 12).units = 12 * Double.unitsPerOne := rfl
  have hfifteen : (Number.int 15).units = 15 * Double.unitsPerOne := rfl
  have hfive : (Number.int 5).units = (5 : Nat) * Double.unitsPerOne := rfl
  have hrefused := multipleOf_within_billionth htwelve hfive (by decide) (by decide) (by decide)
  have haccepted := multipleOf_within_billionth hfifteen hfive (by decide) (by decide) (by decide)
  refine ⟨htwelve, hfifteen, hfive, fun label => (haccepted.2.2 label).of_dvd (by decide),
    fun label h => ?_⟩
  have hstep : (1 / 10 ^ 9 + 1 / 2 ^ 52 : ℚ) * max ((12 : Int).natAbs : ℚ) (5 : Nat) < 1 := by
    norm_num
  exact absurd (((hrefused.2.2 label).iff_dvd hstep).1 h) (by decide)

/-- An odd number that is large enough is taken for a multiple of two. -/
theorem Schema.multipleOf_two_accepts_odd : ¬(2 : Int) ∣ 1000000001 ∧
    (1000000001 : Int).natAbs ≤ 2 ^ 53 ∧
    NearInteger (1 / 10 ^ 9) ((1000000001 : Int) / (2 : Nat)) ∧
    (Number.int 1000000001).toDouble.isMultipleOf (Number.int 2).toDouble = true ∧
    ∀ label, (Schema.json (.multipleOf (.int 2))).refusal? label (.number (.int 1000000001)) =
      none := by
  have hnear : NearInteger (1 / 10 ^ 9) ((1000000001 : Int) / (2 : Nat)) := by
    rw [nearInteger_div_iff 1000000001 Nat.two_pos]
    norm_num [multipleDistance]
  have hcomputed : (Number.int 1000000001).toDouble.isMultipleOf (Number.int 2).toDouble = true := by
    decide +kernel
  have hpositive : 0 < (Number.int 2).units ∧ 0 < (Number.int 2).toDouble.units := by
    decide +kernel
  refine ⟨by decide, by decide, hnear, hcomputed, fun label => ?_⟩
  rw [refusal?_multipleOf hpositive.1 hpositive.2, if_pos hcomputed]

end StepEngine
