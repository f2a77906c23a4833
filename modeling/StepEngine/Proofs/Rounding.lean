import Mathlib.Data.Rat.Floor
import Mathlib.Tactic.Linarith
import Mathlib.Tactic.Qify
import StepEngine.Json.Basic

/-!
# How far rounding goes

A double counts a unit, so what it is worth is a ratio of naturals, and so is what it was rounded from.

* `Double.absValue` : the absolute value of a double;
* `Double.magnitude_ofFields` : a significand and a scale put together, also when the significand
  carries into the exponent;
* `Double.roundHalfEven_error` : a ratio and the nearest integer are at most a half apart;
* `Double.exists_nearest` : a ratio in range has a nearest double; it is the ratio when that is an
  integer of at most 53 bits (`absValue_of_nearest_int`), and otherwise less than one part in `2 ^ 53`
  off (`abs_absValue_sub_le`);
* `Number.units_toDouble` : an integer of at most 53 bits stays what it is as a double.
-/

namespace StepEngine

namespace Double

def absValue (d : Double) : ℚ := d.magnitude / unitsPerOne

/-- The exponent is a variable, so that nothing evaluates the power. -/
theorem unitsPerOne_eq {k : Nat} (hk : k = 1074) : unitsPerOne = 2 ^ k := by
  unfold unitsPerOne
  rw [← hk]
  exact Nat.pow_eq

theorem unitsPerOne_pos : 0 < unitsPerOne := by
  obtain ⟨k, hk⟩ : ∃ k, k = 1074 := ⟨_, rfl⟩
  rw [unitsPerOne_eq hk]
  exact Nat.two_pow_pos k

theorem magnitude_eq (d : Double) : (d.magnitude : ℚ) = d.absValue * unitsPerOne := by
  have hunits : (unitsPerOne : ℚ) ≠ 0 := Nat.cast_ne_zero.2 unitsPerOne_pos.ne'
  rw [absValue, div_mul_cancel₀ _ hunits]

/-! ## Fields -/

section Fields

variable (negative : Bool) {n : Nat} (h : n < 2 ^ 63)

include h

theorem toNat_ofFields :
    (ofFields negative n).bits.toNat = (if negative then 2 ^ 63 else 0) + n := by
  rw [ofFields, UInt64.toNat_ofNat']
  cases negative with
  | false =>
    simp only [Bool.false_eq_true, if_false, Nat.zero_add]
    omega
  | true =>
    simp only [if_true, Nat.pow_eq]
    omega

theorem negative_ofFields : (ofFields negative n).negative = negative := by
  rw [Double.negative, toNat_ofFields negative h]
  cases negative with
  | false =>
    have hsign : (0 + n) / 2 ^ 63 = 0 := by omega
    simp only [Bool.false_eq_true, if_false, Nat.pow_eq, hsign]
    rfl
  | true =>
    have hsign : (2 ^ 63 + n) / 2 ^ 63 = 1 := by omega
    simp only [if_true, Nat.pow_eq, hsign]
    rfl

theorem exponentField_ofFields : (ofFields negative n).exponentField = n / 2 ^ 52 := by
  rw [exponentField, toNat_ofFields negative h]
  cases negative with
  | false =>
    simp only [Bool.false_eq_true, if_false, Nat.pow_eq]
    omega
  | true =>
    simp only [if_true, Nat.pow_eq]
    omega

theorem significand_ofFields : (ofFields negative n).significand =
    if n / 2 ^ 52 = 0 then n % 2 ^ 52 else 2 ^ 52 + n % 2 ^ 52 := by
  have hfraction : (ofFields negative n).bits.toNat % 2 ^ 52 = n % 2 ^ 52 := by
    rw [toNat_ofFields negative h]
    split
    · omega
    · omega
  rw [significand, exponentField_ofFields negative h]
  simp only [Nat.pow_eq, hfraction]

end Fields

/-- A significand and a scale put together. A significand of `2 ^ 53` carries into the exponent, which
leaves the product as it is. -/
theorem magnitude_ofFields (negative : Bool) {scale significand : Nat}
    (hsignificand : significand ≤ 2 ^ 53) (hnormal : scale = 0 ∨ 2 ^ 52 ≤ significand)
    (hrange : scale * 2 ^ 52 + significand < 2 ^ 63) :
    (ofFields negative (scale * 2 ^ 52 + significand)).magnitude = significand * 2 ^ scale := by
  rw [magnitude, significand_ofFields negative hrange, Double.scale,
    exponentField_ofFields negative hrange]
  simp only [Nat.pow_eq]
  rcases Nat.lt_or_ge significand (2 ^ 52) with hsmall | hlarge
  · -- a subnormal number
    obtain rfl : scale = 0 := hnormal.resolve_right (by omega)
    have hexponent : (0 * 2 ^ 52 + significand) / 2 ^ 52 = 0 := by omega
    have hfraction : (0 * 2 ^ 52 + significand) % 2 ^ 52 = significand := by omega
    rw [hexponent, hfraction, if_pos rfl]
  · rcases Nat.lt_or_ge significand (2 ^ 53) with hfits | hcarries
    · have hexponent : (scale * 2 ^ 52 + significand) / 2 ^ 52 = scale + 1 := by omega
      have hfraction : (scale * 2 ^ 52 + significand) % 2 ^ 52 = significand - 2 ^ 52 := by omega
      rw [hexponent, hfraction, if_neg (Nat.succ_ne_zero scale), Nat.add_sub_cancel,
        Nat.add_sub_cancel' hlarge]
    · obtain rfl : significand = 2 ^ 53 := Nat.le_antisymm hsignificand hcarries
      have hexponent : (scale * 2 ^ 52 + 2 ^ 53) / 2 ^ 52 = scale + 2 := by omega
      have hfraction : (scale * 2 ^ 52 + 2 ^ 53) % 2 ^ 52 = 0 := by omega
      rw [hexponent, hfraction, if_neg (Nat.succ_ne_zero (scale + 1)), Nat.add_zero,
        show scale + 2 - 1 = scale + 1 from rfl, Nat.pow_succ]
      omega

/-! ## The nearest integer -/

theorem roundHalfEven_bounds (num den : Nat) :
    num / den ≤ roundHalfEven num den ∧ roundHalfEven num den ≤ num / den + 1 := by
  simp only [roundHalfEven]
  split
  · omega
  · omega

/-- A ratio and the nearest integer are at most a half apart. -/
theorem roundHalfEven_error {den : Nat} (num : Nat) (hden : 0 < den) :
    2 * (roundHalfEven num den * den) ≤ 2 * num + den ∧
      2 * num ≤ 2 * (roundHalfEven num den * den) + den := by
  have hsplit : num / den * den + num % den = num := Nat.div_add_mod' num den
  have hrest : num % den < den := Nat.mod_lt num hden
  simp only [roundHalfEven]
  split
  · omega
  · rw [Nat.add_mul, Nat.one_mul]
    omega

/-- A ratio that is an integer stays as it is. -/
theorem roundHalfEven_mul (n : Nat) {den : Nat} (hden : 0 < den) :
    roundHalfEven (n * den) den = n := by
  have hrest : 2 * (n * den % den) < den := by
    rw [Nat.mul_mod_left]
    exact hden
  simp only [roundHalfEven]
  rw [if_pos (.inl hrest), Nat.mul_div_cancel n hden]

/-! ## The nearest double -/

/-- The scale of the double nearest a ratio, before its significand carries. -/
def nearestScale (num den : Nat) : Nat := Nat.log2 (num * unitsPerOne / den) - 52

/-- The significand of the double nearest a ratio, before it carries. -/
def nearestSignificand (num den : Nat) : Nat :=
  roundHalfEven (num * unitsPerOne) (den * 2 ^ nearestScale num den)

section Nearest

variable {num den : Nat}

/-- The significand has at most 53 bits, and no fewer unless the scale is the least. -/
theorem nearestSignificand_bounds (num den : Nat) : nearestSignificand num den ≤ 2 ^ 53 ∧
    (nearestScale num den = 0 ∨ 2 ^ 52 ≤ nearestSignificand num den) := by
  obtain ⟨hlow, hhigh⟩ := roundHalfEven_bounds (num * unitsPerOne)
    (den * 2 ^ nearestScale num den)
  rw [← Nat.div_div_eq_div_mul] at hlow hhigh
  have hquotient : num * unitsPerOne / den <
      2 ^ (Nat.log2 (num * unitsPerOne / den) + 1) := Nat.lt_log2_self
  rcases Nat.lt_or_ge (Nat.log2 (num * unitsPerOne / den)) 52 with hsmall | hlarge
  · have hscale : nearestScale num den = 0 := Nat.sub_eq_zero_of_le hsmall.le
    have hpower : 2 ^ (Nat.log2 (num * unitsPerOne / den) + 1) ≤ 2 ^ 52 :=
      Nat.pow_le_pow_right Nat.two_pos hsmall
    refine ⟨?_, .inl hscale⟩
    have hquotient' : num * unitsPerOne / den / 2 ^ nearestScale num den ≤
        num * unitsPerOne / den := Nat.div_le_self _ _
    unfold nearestSignificand
    omega
  · have hnonzero : num * unitsPerOne / den ≠ 0 := by
      intro hzero
      rw [hzero] at hlarge
      exact absurd hlarge (by decide)
    have hself : 2 ^ Nat.log2 (num * unitsPerOne / den) ≤ num * unitsPerOne / den :=
      Nat.log2_self_le hnonzero
    have hlog : Nat.log2 (num * unitsPerOne / den) = 52 + nearestScale num den :=
      (Nat.add_sub_cancel' hlarge).symm
    have hbelow : num * unitsPerOne / den / 2 ^ nearestScale num den < 2 ^ 53 := by
      rw [Nat.div_lt_iff_lt_mul (Nat.two_pow_pos _), ← Nat.pow_add]
      rw [hlog] at hquotient
      exact Nat.lt_of_lt_of_eq hquotient (by congr 1; omega)
    have habove : 2 ^ 52 ≤ num * unitsPerOne / den / 2 ^ nearestScale num den := by
      rw [Nat.le_div_iff_mul_le (Nat.two_pow_pos _), ← Nat.pow_add, ← hlog]
      exact hself
    unfold nearestSignificand
    exact ⟨by omega, .inr (by omega)⟩

/-- A ratio in range has a nearest double. -/
theorem exists_nearest (negative : Bool) {k : Nat} (hk : k ≤ 1023) (h : num < den * 2 ^ k) :
    ∃ f, nearest negative num den = some f ∧ f.negative = negative ∧
      f.magnitude = nearestSignificand num den * 2 ^ nearestScale num den := by
  obtain ⟨hsignificand, hnormal⟩ := nearestSignificand_bounds num den
  obtain ⟨u, hu⟩ : ∃ u, u = 1074 := ⟨_, rfl⟩
  have hquotient : num * unitsPerOne / den < 2 ^ (k + u) := by
    refine Nat.div_lt_of_lt_mul ?_
    rw [unitsPerOne_eq hu, Nat.pow_add, ← Nat.mul_assoc]
    exact Nat.mul_lt_mul_of_pos_right h (Nat.two_pow_pos u)
  have hscale : nearestScale num den ≤ 2044 := by
    unfold nearestScale
    by_cases hzero : num * unitsPerOne / den = 0
    · rw [hzero]
      decide
    · have hlog := (Nat.log2_lt hzero).2 hquotient
      omega
  have hfields : nearestScale num den * 2 ^ 52 + nearestSignificand num den < 2047 * 2 ^ 52 := by
    omega
  refine ⟨ofFields negative (nearestScale num den * 2 ^ 52 + nearestSignificand num den),
    ?_, negative_ofFields negative (by omega), magnitude_ofFields negative hsignificand hnormal
      (by omega)⟩
  unfold nearest
  exact if_pos hfields

/-- Rounding moves a ratio by a half of the last place. -/
theorem nearestSignificand_error (num : Nat) (hden : 0 < den) :
    2 * (nearestSignificand num den * 2 ^ nearestScale num den * den) ≤
        2 * (num * unitsPerOne) + 2 ^ nearestScale num den * den ∧
      2 * (num * unitsPerOne) ≤
        2 * (nearestSignificand num den * 2 ^ nearestScale num den * den) +
          2 ^ nearestScale num den * den := by
  have h := roundHalfEven_error (num * unitsPerOne)
    (Nat.mul_pos hden (Nat.two_pow_pos (nearestScale num den)))
  rw [Nat.mul_comm den] at h
  rw [Nat.mul_assoc (nearestSignificand num den)]
  unfold nearestSignificand
  rw [Nat.mul_comm den]
  exact h

/-- The last place of a ratio that is not subnormal is small beside it. -/
theorem last_place_le (hnormal : 2 ^ 52 * den ≤ num * unitsPerOne) (hden : 0 < den) :
    2 ^ 52 * (2 ^ nearestScale num den * den) ≤ num * unitsPerOne := by
  have hquotient : 2 ^ 52 ≤ num * unitsPerOne / den := (Nat.le_div_iff_mul_le hden).2 hnormal
  have hnonzero : num * unitsPerOne / den ≠ 0 := by omega
  have hlog : 52 ≤ Nat.log2 (num * unitsPerOne / den) := (Nat.le_log2 hnonzero).2 hquotient
  have hpower : 2 ^ 52 * 2 ^ nearestScale num den ≤ num * unitsPerOne / den := by
    rw [← Nat.pow_add, nearestScale, Nat.add_sub_cancel' hlog]
    exact Nat.log2_self_le hnonzero
  calc 2 ^ 52 * (2 ^ nearestScale num den * den)
      = 2 ^ 52 * 2 ^ nearestScale num den * den := (Nat.mul_assoc _ _ _).symm
    _ ≤ num * unitsPerOne / den * den := Nat.mul_le_mul_right den hpower
    _ ≤ num * unitsPerOne := Nat.div_mul_le_self _ _

/-- A ratio and the double nearest it are less than one part in `2 ^ 53` apart, unless the ratio is
subnormal. -/
theorem abs_absValue_sub_le {f : Double} (hden : 0 < den)
    (hnormal : 2 ^ 52 * den ≤ num * unitsPerOne)
    (hf : f.magnitude = nearestSignificand num den * 2 ^ nearestScale num den) :
    |f.absValue - num / den| ≤ num / den / 2 ^ 53 := by
  obtain ⟨hhigh, hlow⟩ := nearestSignificand_error num hden
  have hplace := last_place_le hnormal hden
  rw [← hf] at hhigh hlow
  generalize 2 ^ nearestScale num den * den = place at hhigh hlow hplace
  have hscale : (0 : ℚ) < unitsPerOne * den :=
    mul_pos (Nat.cast_pos.2 unitsPerOne_pos) (Nat.cast_pos.2 hden)
  obtain ⟨x, hx⟩ : ∃ x : ℚ, x = num / den := ⟨_, rfl⟩
  have hnum : (num : ℚ) = x * den := by
    rw [hx, div_mul_cancel₀ _ (Nat.cast_pos.2 hden).ne']
  qify at hhigh hlow hplace
  rw [f.magnitude_eq, hnum] at hhigh hlow
  rw [hnum] at hplace
  rw [← hx, abs_le]
  constructor
  · refine le_of_mul_le_mul_right ?_ hscale
    linarith
  · refine le_of_mul_le_mul_right ?_ hscale
    linarith

/-- An integer of at most 53 bits is its own nearest double. -/
theorem absValue_of_nearest_int {f : Double} {n : Nat} (hn : n ≤ 2 ^ 53) (hden : 0 < den)
    (hf : f.magnitude = nearestSignificand (n * den) den * 2 ^ nearestScale (n * den) den) :
    f.absValue = n := by
  obtain ⟨u, hu⟩ : ∃ u, u = 1074 := ⟨_, rfl⟩
  have hquotient : n * den * unitsPerOne / den = n * unitsPerOne := by
    rw [Nat.mul_right_comm, Nat.mul_div_cancel _ hden]
  have hdvd : 2 ^ nearestScale (n * den) den ∣ n * unitsPerOne := by
    unfold nearestScale
    rw [hquotient, unitsPerOne_eq hu]
    rcases Nat.eq_zero_or_pos n with rfl | hpos
    · rw [Nat.zero_mul]
      exact Nat.dvd_zero _
    · have hnonzero : n * 2 ^ u ≠ 0 := (Nat.mul_pos hpos (Nat.two_pow_pos u)).ne'
      rcases Nat.lt_or_ge n (2 ^ 53) with hlt | hge
      · have hlog : Nat.log2 (n * 2 ^ u) < 53 + u := by
          rw [Nat.log2_lt hnonzero, Nat.pow_add]
          exact Nat.mul_lt_mul_of_pos_right hlt (Nat.two_pow_pos u)
        exact Nat.dvd_mul_left_of_dvd (Nat.pow_dvd_pow 2 (by omega)) n
      · obtain rfl : n = 2 ^ 53 := Nat.le_antisymm hn hge
        rw [← Nat.pow_add, Nat.log2_two_pow]
        exact Nat.pow_dvd_pow 2 (Nat.sub_le _ _)
  obtain ⟨r, hr⟩ := hdvd
  have hratio : n * den * unitsPerOne = r * (den * 2 ^ nearestScale (n * den) den) := by
    rw [Nat.mul_right_comm, hr]
    ring
  have hsignificand : nearestSignificand (n * den) den = r := by
    unfold nearestSignificand
    rw [hratio, roundHalfEven_mul r (Nat.mul_pos hden (Nat.two_pow_pos _))]
  rw [hsignificand, Nat.mul_comm, ← hr] at hf
  rw [absValue, hf, Nat.cast_mul,
    mul_div_cancel_right₀ _ (Nat.cast_ne_zero.2 unitsPerOne_pos.ne')]

end Nearest

/-! ## Integers -/

theorem absValue_of_units {d : Double} {n : Int} (h : d.units = n * unitsPerOne) :
    d.absValue = n.natAbs := by
  have hmagnitude : d.magnitude = n.natAbs * unitsPerOne := by
    have habs : d.units.natAbs = d.magnitude := by
      unfold units
      split
      · exact Int.natAbs_neg _
      · rfl
    rw [← habs, h, Int.natAbs_mul, Int.natAbs_natCast]
  rw [absValue, hmagnitude, Nat.cast_mul,
    mul_div_cancel_right₀ _ (Nat.cast_ne_zero.2 unitsPerOne_pos.ne')]

/-- An integer of at most 53 bits is a double. -/
theorem exists_ofInt? {n : Int} (hn : n.natAbs ≤ 2 ^ 53) :
    ∃ f, ofInt? n = some f ∧ f.units = n * unitsPerOne := by
  have hrange : n.natAbs * 1 < 1 * 2 ^ 54 := by omega
  obtain ⟨f, hf, hnegative, hmagnitude⟩ := exists_nearest (n < 0) (by decide) hrange
  have habs := absValue_of_nearest_int hn Nat.one_pos hmagnitude
  rw [Nat.mul_one] at hf
  refine ⟨f, hf, ?_⟩
  have hvalue : f.magnitude = n.natAbs * unitsPerOne := by
    have hcast := f.magnitude_eq
    rw [habs] at hcast
    exact_mod_cast hcast
  rw [units, hnegative, hvalue]
  by_cases hn : n < 0
  · rw [if_pos (decide_eq_true hn), Nat.cast_mul, ← Int.neg_mul]
    congr 1
    omega
  · rw [if_neg (by simpa using hn), Nat.cast_mul]
    congr 1
    omega

end Double

/-- A number that is an integer of at most 53 bits stays what it is as a double. -/
theorem Number.units_toDouble {v : Number} {n : Int} (hv : v.units = n * Double.unitsPerOne)
    (hn : n.natAbs ≤ 2 ^ 53) : v.toDouble.units = n * Double.unitsPerOne := by
  cases v with
  | int i =>
    have hunits : (Double.unitsPerOne : Int) ≠ 0 := Int.natCast_ne_zero.2 Double.unitsPerOne_pos.ne'
    obtain rfl : i = n := Int.eq_of_mul_eq_mul_right hunits hv
    obtain ⟨f, hf, hunits⟩ := Double.exists_ofInt? hn
    rw [Number.toDouble, hf]
    exact hunits
  | double d => exact hv

end StepEngine
