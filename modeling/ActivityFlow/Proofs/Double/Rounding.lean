import Mathlib

/-!
# Rounding to doubles

The result of an operation on doubles is known as a whole number of units and two bits that say
where between two whole numbers the exact result lies. Shifting keeps what the bits say, so the
mantissa that is left after the shift is rounded as the exact result asks for: `Near` collects what
follows for a positive result that is not tiny. From `overflow` on nothing is near enough.
-/
namespace ActivityFlow.Double

open Float.Model Float.Model.UnpackedFloat

/-! ## Mantissas with two further bits -/

/-- Where a number lies whose whole part and further bits are given: on the whole number, or below,
on or above the middle between it and the next one. -/
def Marks (em : ExtendedMantissa) (x : ℚ) : Prop :=
  match em.roundBit, em.stickyBit with
  | false, false => x = em.mantissa
  | false, true => em.mantissa < x ∧ x < em.mantissa + 1 / 2
  | true, false => x = em.mantissa + 1 / 2
  | true, true => em.mantissa + 1 / 2 < x ∧ x < em.mantissa + 1

namespace Marks

variable {em : ExtendedMantissa} {x : ℚ}

theorem exact (m : ℕ) : Marks (.ofMantissaAndAccuracy m .exact) m := rfl

/-- The bits of a quotient come from comparing twice the remainder with the divisor. -/
theorem quotient (num : ℕ) {den : ℕ} (hden : 0 < den) :
    Marks (.ofMantissaAndAccuracy (num / den) (accuracyOfFraction (num % den) den))
      (num / den : ℚ) := by
  have hpos : (0 : ℚ) < den := by exact_mod_cast hden
  have hnum : (num : ℚ) = den * (num / den : ℕ) + (num % den : ℕ) := by
    exact_mod_cast (Nat.div_add_mod num den).symm
  have hvalue : (num / den : ℚ) = (num / den : ℕ) + (num % den : ℕ) / (den : ℚ) := by
    rw [hnum]
    field_simp
  have hrest : num % den < den := Nat.mod_lt num hden
  have hrest_lt : ((num % den : ℕ) : ℚ) / den < 1 := by
    rw [div_lt_one hpos]
    exact_mod_cast hrest
  rw [hvalue]
  unfold accuracyOfFraction
  by_cases hzero : num % den = 0
  · simp [hzero, ExtendedMantissa.ofMantissaAndAccuracy, Marks]
  · have hrest_pos : 0 < ((num % den : ℕ) : ℚ) / den := by
      have : 0 < num % den := Nat.pos_of_ne_zero hzero
      positivity
    rw [if_neg hzero]
    rcases lt_trichotomy (2 * (num % den)) den with hlt | heq | hgt
    · have hhalf : ((num % den : ℕ) : ℚ) / den < 1 / 2 := by
        rw [div_lt_div_iff₀ hpos two_pos]
        have : ((2 * (num % den) : ℕ) : ℚ) < den := by exact_mod_cast hlt
        push_cast at this
        linarith
      rw [Nat.compare_eq_lt.mpr hlt]
      exact ⟨by simp only [ExtendedMantissa.ofMantissaAndAccuracy]; linarith,
        by simp only [ExtendedMantissa.ofMantissaAndAccuracy]; linarith⟩
    · have hhalf : ((num % den : ℕ) : ℚ) / den = 1 / 2 := by
        rw [div_eq_div_iff hpos.ne' two_ne_zero]
        have : ((2 * (num % den) : ℕ) : ℚ) = den := by exact_mod_cast heq
        push_cast at this
        linarith
      rw [Nat.compare_eq_eq.mpr heq, hhalf]
      rfl
    · have hhalf : 1 / 2 < ((num % den : ℕ) : ℚ) / den := by
        rw [div_lt_div_iff₀ two_pos hpos]
        have : (den : ℚ) < (2 * (num % den) : ℕ) := by exact_mod_cast hgt
        push_cast at this
        linarith
      rw [Nat.compare_eq_gt.mpr hgt]
      exact ⟨by simp only [ExtendedMantissa.ofMantissaAndAccuracy]; linarith,
        by simp only [ExtendedMantissa.ofMantissaAndAccuracy]; linarith⟩

theorem le (h : Marks em x) : (em.mantissa : ℚ) ≤ x := by
  obtain ⟨m, round, sticky⟩ := em
  cases round <;> cases sticky <;> simp only [Marks] at h ⊢ <;> linarith

theorem lt (h : Marks em x) : x < em.mantissa + 1 := by
  obtain ⟨m, round, sticky⟩ := em
  cases round <;> cases sticky <;> simp only [Marks] at h ⊢ <;> linarith

/-- Halving keeps what the bits say: the last bit of the mantissa becomes the first further one. -/
theorem shiftRightOne (h : Marks em x) : Marks em.shiftRightOne (x / 2) := by
  obtain ⟨m, round, sticky⟩ := em
  have hparts : (m : ℚ) = 2 * (m / 2 : ℕ) + (m % 2 : ℕ) := by
    exact_mod_cast (Nat.div_add_mod m 2).symm
  rcases Nat.mod_two_eq_zero_or_one m with hm | hm
  all_goals
    rw [hm] at hparts
    push_cast at hparts
    cases round <;> cases sticky <;>
      simp only [Marks, ExtendedMantissa.shiftRightOne, hm, Bool.or_self, Bool.or_true,
        Bool.or_false, bne_self_eq_false, Nat.reduceBNe] at h ⊢
    all_goals first | linarith | (constructor <;> linarith)

theorem shiftRight (h : Marks em x) (n : ℕ) : Marks (em >>> n) (x / 2 ^ n) := by
  change Marks (n.repeat ExtendedMantissa.shiftRightOne em) _
  induction n with
  | zero => simpa [Nat.repeat] using h
  | succ n ih =>
    rw [pow_succ, ← div_div]
    exact ih.shiftRightOne

theorem abs_roundedMantissa_sub_le (h : Marks em x) : |(em.roundedMantissa : ℚ) - x| ≤ 1 / 2 := by
  obtain ⟨m, round, sticky⟩ := em
  have hparity : ((m % 2 : ℕ) : ℚ) = 0 ∨ ((m % 2 : ℕ) : ℚ) = 1 := by
    rcases Nat.mod_two_eq_zero_or_one m with hm | hm <;> simp [hm]
  rw [abs_le]
  cases round <;> cases sticky <;>
    simp only [Marks, ExtendedMantissa.roundedMantissa, ExtendedMantissa.accuracy,
      Accuracy.roundToNearestEven, Nat.cast_add, Nat.cast_one] at h ⊢
  · constructor <;> linarith
  · constructor <;> linarith
  · rcases hparity with hm | hm <;> rw [hm] <;> constructor <;> linarith
  · constructor <;> linarith

/-- What is rounded to less than an even number lies below the middle before that number. -/
theorem lt_of_roundedMantissa_lt (h : Marks em x) {bound : ℕ} (heven : 2 ∣ bound)
    (hlt : em.roundedMantissa < bound) : x < bound - 1 / 2 := by
  obtain ⟨m, round, sticky⟩ := em
  have hcast : ∀ n, n < bound → (n : ℚ) + 1 ≤ bound := fun n hn => by exact_mod_cast hn
  cases round <;> cases sticky <;>
    simp only [Marks, ExtendedMantissa.roundedMantissa, ExtendedMantissa.accuracy,
      Accuracy.roundToNearestEven] at h hlt
  · linarith [hcast m hlt]
  · linarith [hcast m hlt]
  · have hnext : m + 1 < bound := by omega
    have := hcast (m + 1) hnext
    push_cast at this
    linarith
  · have := hcast (m + 1) hlt
    push_cast at this
    linarith

end Marks

/-! ## Results near the exact ones -/

/-- The least number that is rounded to infinity. It lies in the middle between the largest double
and the next power of two. -/
def overflow : ℚ := 2 ^ 1024 - 2 ^ 970

theorem overflow_eq : overflow = (2 ^ 53 - 1 / 2) * 2 ^ (971 : ℤ) := by
  have hunit : (2 : ℚ) ^ (971 : ℤ) = 2 ^ 970 * 2 := by
    rw [show (971 : ℤ) = (970 : ℕ) + 1 by norm_num, zpow_add_one₀ two_ne_zero, zpow_natCast]
  have hlast : (2 : ℚ) ^ 1024 = 2 ^ 970 * 2 ^ 54 := by rw [← pow_add]
  rw [overflow, hunit, hlast]
  generalize (2 : ℚ) ^ 970 = unit
  ring

/-- How far a double may be off, in parts of the exact number. -/
def precision : ℚ := 1 / 2 ^ 53

/-- What rounding a positive number that is not tiny has to do with the number: it is off by a small
part at most, stays on its side of every power of two, and is the number itself if that has no more
than 53 binary digits. -/
structure Near (r v : ℚ) : Prop where
  error : |r - v| ≤ precision * v
  two_pow_le : ∀ k : ℤ, 2 ^ k ≤ v → 2 ^ k ≤ r
  le_two_pow : ∀ k : ℤ, v ≤ 2 ^ k → r ≤ 2 ^ k
  exact : ∀ (m : ℕ) (k : ℤ), m < 2 ^ 53 → v = m * 2 ^ k → r = v

theorem Near.one_le {r v : ℚ} (h : Near r v) (hv : 1 ≤ v) : 1 ≤ r := by
  have hone := h.two_pow_le 0 (by rwa [zpow_zero])
  rwa [zpow_zero] at hone

/-- A full mantissa that is rounded, and what it stands for in units of a power of two. -/
structure RoundedMantissa (r : ℕ) (x : ℚ) : Prop where
  error : |(r : ℚ) - x| ≤ 1 / 2
  two_pow_le : 2 ^ 52 ≤ x
  lt_two_pow : x < 2 ^ 53
  carry_iff : 2 ^ 53 - 1 / 2 ≤ x ↔ 2 ^ 53 ≤ r

namespace RoundedMantissa

variable {r : ℕ} {x : ℚ}

theorem of_marks {em : ExtendedMantissa} (h : Marks em x) (hlow : 2 ^ 52 ≤ x)
    (hhigh : x < 2 ^ 53) : RoundedMantissa em.roundedMantissa x := by
  refine ⟨h.abs_roundedMantissa_sub_le, hlow, hhigh, ?_, ?_⟩
  · intro hx
    by_contra hlt
    have heven : 2 ∣ 2 ^ 53 := by norm_num
    have := h.lt_of_roundedMantissa_lt heven (not_le.mp hlt)
    push_cast at this
    linarith
  · intro hr
    have hcast : (2 : ℚ) ^ 53 ≤ em.roundedMantissa := by exact_mod_cast hr
    have := abs_le.mp h.abs_roundedMantissa_sub_le
    linarith [this.2]

theorem two_pow_le_cast (h : RoundedMantissa r x) : 2 ^ 52 ≤ r := by
  have := abs_le.mp h.error
  have hlt : (2 : ℚ) ^ 52 < r + 1 := by linarith [h.two_pow_le, this.1]
  have hnat : 2 ^ 52 < r + 1 := by exact_mod_cast hlt
  omega

theorem cast_le_two_pow (h : RoundedMantissa r x) : r ≤ 2 ^ 53 := by
  have := abs_le.mp h.error
  have hlt : (r : ℚ) < 2 ^ 53 + 1 := by linarith [h.lt_two_pow, this.2]
  have hnat : r < 2 ^ 53 + 1 := by exact_mod_cast hlt
  omega

theorem eq_of_eq_cast (h : RoundedMantissa r x) {n : ℤ} (hx : x = n) : (r : ℚ) = x := by
  have herror := h.error
  rw [hx] at herror ⊢
  have hlt : |((r - n : ℤ) : ℚ)| < 1 := by
    push_cast
    linarith
  have hzero : (r : ℤ) - n = 0 := Int.abs_lt_one_iff.mp (by exact_mod_cast hlt)
  have hcast : (r : ℤ) = n := by omega
  exact_mod_cast hcast

theorem two_pow_add_le (h : RoundedMantissa r x) (t : ℤ) : (2 : ℚ) ^ (52 + t) ≤ x * 2 ^ t := by
  rw [zpow_add₀ two_ne_zero]
  exact mul_le_mul_of_nonneg_right h.two_pow_le (by positivity)

theorem lt_two_pow_add (h : RoundedMantissa r x) (t : ℤ) : x * 2 ^ t < (2 : ℚ) ^ (53 + t) := by
  rw [zpow_add₀ two_ne_zero]
  exact mul_lt_mul_of_pos_right h.lt_two_pow (by positivity)

/-- What has no more than 53 binary digits is not changed by rounding. -/
theorem eq_of_digits (h : RoundedMantissa r x) {m : ℕ} {k : ℤ} (hm : m < 2 ^ 53)
    (hx : x = m * 2 ^ k) : (r : ℚ) = x := by
  -- A mantissa that fills 52 digits in smaller units would have more than 53 of them.
  have hk : 0 ≤ k := by
    by_contra hlt
    have hhalf : (2 : ℚ) ^ k ≤ 2 ^ (-1 : ℤ) := zpow_le_zpow_right₀ one_le_two (by omega)
    have hm_lt : (m : ℚ) < 2 ^ 53 := by exact_mod_cast hm
    have hle : x ≤ m * 2 ^ (-1 : ℤ) := by
      rw [hx]
      exact mul_le_mul_of_nonneg_left hhalf (Nat.cast_nonneg m)
    have := h.two_pow_le
    norm_num at hle
    linarith
  obtain ⟨j, rfl⟩ := Int.eq_ofNat_of_zero_le hk
  have hint : x = ((m * 2 ^ j : ℤ) : ℚ) := by
    rw [hx, zpow_natCast]
    push_cast
    rfl
  exact h.eq_of_eq_cast hint

/-- In whatever unit, a rounded mantissa is near what it stands for. -/
theorem near (h : RoundedMantissa r x) (t : ℤ) : Near (r * 2 ^ t) (x * 2 ^ t) := by
  have hunit : (0 : ℚ) < 2 ^ t := by positivity
  have hr : (2 : ℚ) ^ 52 ≤ r ∧ (r : ℚ) ≤ 2 ^ 53 :=
    ⟨by exact_mod_cast h.two_pow_le_cast, by exact_mod_cast h.cast_le_two_pow⟩
  constructor
  · rw [← sub_mul, abs_mul, abs_of_pos hunit, ← mul_assoc]
    refine mul_le_mul_of_nonneg_right (h.error.trans ?_) hunit.le
    have hx := h.two_pow_le
    rw [precision]
    linarith
  · intro k hk
    have hexp : k ≤ 52 + t := by
      have := (zpow_lt_zpow_iff_right₀ (one_lt_two (α := ℚ))).mp (hk.trans_lt (h.lt_two_pow_add t))
      omega
    calc (2 : ℚ) ^ k ≤ 2 ^ (52 + t) := zpow_le_zpow_right₀ one_le_two hexp
      _ = 2 ^ 52 * 2 ^ t := zpow_add₀ two_ne_zero 52 t
      _ ≤ r * 2 ^ t := mul_le_mul_of_nonneg_right hr.1 hunit.le
  · intro k hk
    have hexp : 52 + t ≤ k :=
      (zpow_le_zpow_iff_right₀ one_lt_two).mp ((h.two_pow_add_le t).trans hk)
    rcases hexp.eq_or_lt with rfl | hlt
    -- Just above the power of two nothing is left but the power itself.
    · have hx : x = ((2 ^ 52 : ℤ) : ℚ) := by
        rw [zpow_add₀ two_ne_zero] at hk
        push_cast
        exact le_antisymm (le_of_mul_le_mul_right hk hunit) h.two_pow_le
      rw [h.eq_of_eq_cast hx]
      exact hk
    · calc (r : ℚ) * 2 ^ t ≤ 2 ^ 53 * 2 ^ t := mul_le_mul_of_nonneg_right hr.2 hunit.le
        _ = 2 ^ (53 + t) := (zpow_add₀ two_ne_zero 53 t).symm
        _ ≤ 2 ^ k := zpow_le_zpow_right₀ one_le_two (by omega)
  · intro m k hm heq
    have hx : x = m * 2 ^ (k - t) := by
      rw [zpow_sub₀ two_ne_zero, ← mul_div_assoc, ← heq, mul_div_cancel_right₀ _ hunit.ne']
    rw [h.eq_of_digits hm hx]

/-- A rounded mantissa is too large for its unit exactly if what it stands for reaches the
overflow. -/
theorem overflow_le_iff (h : RoundedMantissa r x) (t : ℤ) :
    overflow ≤ x * 2 ^ t ↔ 972 ≤ t ∨ t = 971 ∧ 2 ^ 53 ≤ r := by
  rw [overflow_eq, ← h.carry_iff]
  have htop : (0 : ℚ) < 2 ^ (971 : ℤ) := by positivity
  rcases lt_trichotomy t 971 with hlt | rfl | hgt
  · have hunit : (2 : ℚ) ^ t * 2 ≤ 2 ^ (971 : ℤ) := by
      rw [← zpow_add_one₀ two_ne_zero]
      exact zpow_le_zpow_right₀ one_le_two (by omega)
    have hunit_pos : (0 : ℚ) < 2 ^ t := by positivity
    generalize (2 : ℚ) ^ (971 : ℤ) = top at htop hunit ⊢
    have hprod : x * 2 ^ t < (2 ^ 53 - 1 / 2) * top := by
      calc x * 2 ^ t < 2 ^ 53 * 2 ^ t := mul_lt_mul_of_pos_right h.lt_two_pow hunit_pos
        _ ≤ (2 ^ 53 - 1 / 2) * top := by linarith
    constructor
    · intro hle
      exact absurd hprod hle.not_gt
    · rintro (hge | ⟨heq, -⟩) <;> omega
  · rw [mul_le_mul_iff_of_pos_right htop]
    simp
  · have hunit : (2 : ℚ) ^ (971 : ℤ) * 2 ≤ 2 ^ t := by
      rw [← zpow_add_one₀ two_ne_zero]
      exact zpow_le_zpow_right₀ one_le_two (by omega)
    generalize (2 : ℚ) ^ (971 : ℤ) = top at htop hunit ⊢
    refine ⟨fun _ => .inl (by omega), fun _ => ?_⟩
    calc (2 ^ 53 - 1 / 2) * top ≤ 2 ^ 52 * (top * 2) := by linarith
      _ ≤ x * 2 ^ t := mul_le_mul h.two_pow_le hunit (by positivity) (by linarith [h.two_pow_le])

end RoundedMantissa

/-! ## Rounding a result -/

/-- A full mantissa that rounding has carried over is halved again. -/
theorem shiftToTargetExponent_of_full {r : ℕ} (hlow : 2 ^ 52 ≤ r) (hhigh : r ≤ 2 ^ 53) {t : ℤ}
    (ht : -1074 ≤ t) :
    shiftToTargetExponent .binary64 r t .exact =
      if r = 2 ^ 53 then (⟨2 ^ 52, false, false⟩, t + 1) else (⟨r, false, false⟩, t) := by
  by_cases hcarry : r = 2 ^ 53
  · subst hcarry
    have htarget : Format.binary64.targetExponent (totalExponent (2 ^ 53) t) = t + 1 := by
      simp only [Format.targetExponent, totalExponent, Nat.log2_two_pow, Format.mantissaBits,
        Format.minExponent]
      omega
    rw [if_pos rfl, shiftToTargetExponent, htarget]
    simp only [shiftToExponent, show (t + 1 - t).toNat = 1 by omega]
    rfl
  · have hlog : r.log2 = 52 := (Nat.log2_eq_iff (by omega)).mpr ⟨hlow, by omega⟩
    have htarget : Format.binary64.targetExponent (totalExponent r t) = t := by
      simp only [Format.targetExponent, totalExponent, hlog, Format.mantissaBits,
        Format.minExponent]
      omega
    rw [if_neg hcarry, shiftToTargetExponent, htarget]
    simp only [shiftToExponent, sub_self, Int.toNat_zero, Nat.cast_zero, add_zero]
    rfl

/-- Shifted to the target exponent, an exact result that is not tiny and known to at least 53 digits
has a full mantissa. -/
theorem exists_shiftToTargetExponent {v : ℚ} {m : ℕ} {e : ℤ} {accuracy : Accuracy}
    (hv : Marks (.ofMantissaAndAccuracy m accuracy) (v / 2 ^ e)) (hm : 2 ^ 52 ≤ m)
    (hmin : 2 ^ (-1022 : ℤ) ≤ v) :
    ∃ (em : ExtendedMantissa) (t : ℤ), shiftToTargetExponent .binary64 m e accuracy = (em, t) ∧
      -1074 ≤ t ∧ RoundedMantissa em.roundedMantissa (v / 2 ^ t) := by
  have hm0 : m ≠ 0 := by omega
  obtain ⟨hlog_le, hlog_lt⟩ := (Nat.log2_eq_iff hm0).mp rfl
  obtain ⟨s, hs⟩ := Nat.exists_eq_add_of_le ((Nat.le_log2 hm0).mpr hm)
  have hmantissa : (ExtendedMantissa.ofMantissaAndAccuracy m accuracy).mantissa = m := by
    cases accuracy with
    | exact => rfl
    | inexact half => cases half <;> rfl
  have hscale : v / 2 ^ e / 2 ^ s = v / 2 ^ (e + s) := by
    rw [div_div, ← zpow_natCast, ← zpow_add₀ two_ne_zero]
  have hlow : (2 : ℚ) ^ 52 ≤ v / 2 ^ (e + s) := by
    rw [← hscale, le_div_iff₀ (by positivity), ← pow_add, ← hs]
    have hle := hv.le
    rw [hmantissa] at hle
    have hcast : (2 : ℚ) ^ m.log2 ≤ m := by exact_mod_cast hlog_le
    exact hcast.trans hle
  have hhigh : v / 2 ^ (e + s) < (2 : ℚ) ^ 53 := by
    rw [← hscale, div_lt_iff₀ (by positivity), ← pow_add, show 53 + s = m.log2 + 1 by omega]
    have hlt := hv.lt
    rw [hmantissa] at hlt
    have hcast : (m : ℚ) + 1 ≤ 2 ^ (m.log2 + 1) := by exact_mod_cast hlog_lt
    exact hlt.trans_le hcast
  have htmin : -1074 ≤ e + s := by
    have hvlt : v < 2 ^ (53 + (e + s)) := by
      rw [div_lt_iff₀ (by positivity)] at hhigh
      rwa [zpow_add₀ two_ne_zero]
    have := (zpow_lt_zpow_iff_right₀ (one_lt_two (α := ℚ))).mp (hmin.trans_lt hvlt)
    omega
  have htarget : Format.binary64.targetExponent (totalExponent m e) = e + s := by
    simp only [Format.targetExponent, totalExponent, Format.mantissaBits, Format.minExponent]
    omega
  refine ⟨ExtendedMantissa.ofMantissaAndAccuracy m accuracy >>> s, e + s, ?_, htmin, ?_⟩
  · rw [shiftToTargetExponent, htarget]
    simp only [shiftToExponent, show (e + s - e).toNat = s by omega]
  · have hmarks := hv.shiftRight s
    rw [hscale] at hmarks
    exact .of_marks hmarks hlow hhigh

/-- An exact result that is not tiny, known to at least 53 digits, is rounded to a full mantissa
near it. Its exponent is one of a double exactly below the overflow. -/
theorem exists_roundWithAccuracy {v : ℚ} {m : ℕ} {e : ℤ} {accuracy : Accuracy} (sign : Sign)
    (hv : Marks (.ofMantissaAndAccuracy m accuracy) (v / 2 ^ e)) (hm : 2 ^ 52 ≤ m)
    (hmin : 2 ^ (-1022 : ℤ) ≤ v) :
    ∃ (n : ℕ) (k : ℤ) (hn : 0 < n), roundWithAccuracy .binary64 sign m e accuracy =
        .finite sign n k hn ∧
      2 ^ 52 ≤ n ∧ n < 2 ^ 53 ∧ -1074 ≤ k ∧ Near (n * 2 ^ k) v ∧ (overflow ≤ v ↔ 972 ≤ k) := by
  obtain ⟨em, t, hfirst, htmin, hr⟩ := exists_shiftToTargetExponent hv hm hmin
  have hvalue : v / 2 ^ t * 2 ^ t = v := div_mul_cancel₀ _ (by positivity)
  have hnear := hr.near t
  have hover := hr.overflow_le_iff t
  rw [hvalue] at hnear hover
  rw [roundWithAccuracy, hfirst]
  simp only [shiftToTargetExponent_of_full hr.two_pow_le_cast hr.cast_le_two_pow htmin]
  generalize em.roundedMantissa = r at hr hnear hover
  have hrlow := hr.two_pow_le_cast
  have hrhigh := hr.cast_le_two_pow
  by_cases hcarry : r = 2 ^ 53
  · subst hcarry
    refine ⟨2 ^ 52, t + 1, by norm_num, by simp, le_rfl, by norm_num, by omega, ?_, ?_⟩
    · convert hnear using 1
      rw [zpow_add_one₀ two_ne_zero]
      push_cast
      ring
    · rw [hover]
      omega
  · refine ⟨r, t, by omega, ?_, hrlow, by omega, htmin, hnear, ?_⟩
    · simp only [if_neg hcarry]
      rw [dif_neg (by omega)]
    · rw [hover]
      omega

end ActivityFlow.Double
