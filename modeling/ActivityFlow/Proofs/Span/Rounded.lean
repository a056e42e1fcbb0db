import ActivityFlow.Retry
import ActivityFlow.Proofs.Double.Arithmetic
import ActivityFlow.Proofs.Span.Format

/-!
# Spans as doubles

A span that is turned into seconds and back is rounded four times: its whole seconds, the fraction
of a second, their sum and at last the nanoseconds. That leaves it empty just if it was, and leaves
the spans of some weeks as they are.
-/
namespace ActivityFlow.Span

open Double

/-- How far the seconds of a span may be off as a double, in parts of the span. -/
def spread : ℚ := 2 * precision + precision ^ 2

/-- The span that is left of a span turned into a double and back. -/
def rounded (d : Span) : Span := (ofFloat? d.toFloat).getD d

variable (d : Span)

theorem subNanos_lt : d.subNanos < nanosPerSecond := Nat.mod_lt _ (by decide)

/-- The nanoseconds of a fraction are a double, so that only their quotient is rounded. -/
theorem exists_holds_fraction :
    ∃ r, Holds (d.subNanos.toUInt64.toFloat / 1000000000) r ∧ r ≤ 1 ∧
      |r - d.subNanos / nanosPerSecond| ≤ precision * (d.subNanos / nanosPerSecond) := by
  have hlt := d.subNanos_lt
  obtain ⟨f, hf, hnear⟩ := exists_holds_toFloat d.subNanos.toUInt64
  have hcount : d.subNanos.toUInt64.toNat = d.subNanos :=
    UInt64.toNat_ofNat_of_lt' (hlt.trans (by decide))
  rw [hcount] at hnear
  obtain rfl : f = d.subNanos := hnear.exact d.subNanos 0 (hlt.trans (by decide)) (by simp)
  by_cases hzero : d.subNanos = 0
  · have hf_zero : Holds d.subNanos.toUInt64.toFloat 0 := by simpa [hzero] using hf
    refine ⟨0, holds_zero_div hf_zero holds_nanosPerSecond (by norm_num), zero_le_one, ?_⟩
    simp [hzero]
  · have hpos : (1 : ℚ) ≤ d.subNanos := by exact_mod_cast Nat.pos_of_ne_zero hzero
    have hle : (d.subNanos : ℚ) ≤ 1000000000 := by exact_mod_cast hlt.le
    have hone : (d.subNanos / 1000000000 : ℚ) ≤ 1 := (div_le_one (by norm_num)).mpr hle
    have hmin : (2 : ℚ) ^ (-1021 : ℤ) ≤ d.subNanos / 1000000000 := by
      calc (2 : ℚ) ^ (-1021 : ℤ) ≤ 2 ^ (-30 : ℤ) := zpow_le_zpow_right₀ one_le_two (by norm_num)
        _ ≤ 1 / 1000000000 := by norm_num
        _ ≤ d.subNanos / 1000000000 := div_le_div_of_nonneg_right hpos (by norm_num)
    have hrounds := rounds_div hf holds_nanosPerSecond (by linarith) (by norm_num) hmin
    have hlt_overflow : (d.subNanos / 1000000000 : ℚ) < overflow :=
      (hone.trans_eq (zpow_zero 2).symm).trans_lt (two_pow_lt_overflow (by norm_num))
    obtain ⟨r, hr, hnear⟩ := hrounds.exists_holds hlt_overflow
    have hr_le := hnear.le_two_pow 0 (by rwa [zpow_zero])
    exact ⟨r, hr, by rwa [zpow_zero] at hr_le, by exact_mod_cast hnear.error⟩

/-- The seconds of a span hold a value that is off by a small part of the span at most. -/
theorem exists_holds_toFloat :
    ∃ r, Holds d.toFloat r ∧ |r * nanosPerSecond - d.nanoseconds| ≤ spread * d.nanoseconds := by
  obtain ⟨s, hs, hnear⟩ := Double.exists_holds_toFloat d.wholeSeconds.toUInt64
  have hcount : d.wholeSeconds.toUInt64.toNat = d.wholeSeconds :=
    UInt64.toNat_ofNat_of_lt' d.wholeSeconds_lt
  rw [hcount] at hnear
  obtain ⟨q, hq, hq_le, hq_error⟩ := d.exists_holds_fraction
  have hs_le : s ≤ 2 ^ (64 : ℤ) :=
    hnear.le_two_pow 64 (by exact_mod_cast d.wholeSeconds_lt.le)
  have hlt : s + q < overflow := by
    calc s + q ≤ 2 ^ (64 : ℤ) + 1 := add_le_add hs_le hq_le
      _ ≤ 2 ^ (65 : ℤ) := by norm_num
      _ < overflow := two_pow_lt_overflow (by norm_num)
  obtain ⟨r, hr, hr_near⟩ := (rounds_add hs hq).exists_holds hlt
  refine ⟨r, hr, ?_⟩
  obtain ⟨seconds, hseconds⟩ :
      ∃ seconds : ℚ, seconds = d.wholeSeconds + d.subNanos / nanosPerSecond := ⟨_, rfl⟩
  have htotal : (d.nanoseconds : ℚ) = seconds * nanosPerSecond := by
    have hdiv : d.nanoseconds = nanosPerSecond * d.wholeSeconds + d.subNanos :=
      (Nat.div_add_mod _ _).symm
    rw [hdiv, hseconds]
    push_cast
    ring
  have herror : |r - seconds| ≤ spread * seconds := by
    have hsummands : |s + q - seconds| ≤ precision * seconds := by
      rw [hseconds, add_sub_add_comm, mul_add]
      exact (abs_add_le _ _).trans (add_le_add hnear.error hq_error)
    have hprecision : 0 ≤ precision := by norm_num [precision]
    have hsum : precision * (s + q) ≤ precision * ((1 + precision) * seconds) := by
      refine mul_le_mul_of_nonneg_left ?_ hprecision
      have := (abs_le.mp hsummands).2
      linarith
    calc |r - seconds| ≤ |r - (s + q)| + |s + q - seconds| := abs_sub_le _ _ _
      _ ≤ precision * ((1 + precision) * seconds) + precision * seconds :=
          add_le_add (hr_near.error.trans hsum) hsummands
      _ = spread * seconds := by
          rw [spread]
          ring
  have hunit : (0 : ℚ) ≤ nanosPerSecond := Nat.cast_nonneg _
  rw [htotal, ← sub_mul, abs_mul, ← mul_assoc, abs_of_nonneg hunit]
  exact mul_le_mul_of_nonneg_right herror hunit

theorem holds_toFloat_zero : Holds zero.toFloat 0 := by
  obtain ⟨r, hr, herror⟩ := zero.exists_holds_toFloat
  have hzero : |r * nanosPerSecond| ≤ 0 := by
    simpa only [zero, Nat.cast_zero, sub_zero, mul_zero] using herror
  obtain rfl : r = 0 := by simpa using abs_nonpos_iff.mp hzero
  exact hr

/-- A double that holds a value is as many nanoseconds long, to the nearest. -/
theorem exists_ofFloat?_eq {x : Float} {r : ℚ} (h : Holds x r) :
    ∃ n, ofFloat? x = ofNanos? n ∧ |(n : ℚ) - r * nanosPerSecond| ≤ 1 / 2 := by
  obtain ⟨n, hn, hnear⟩ := h.exists_roundedUnits? nanosPerSecond
  exact ⟨n, by rw [ofFloat?, hn, Option.bind_some], hnear⟩

theorem ofFloat?_eq_zero {x : Float} (h : Holds x 0) : ofFloat? x = some .zero := by
  obtain ⟨n, hn, hnear⟩ := exists_ofFloat?_eq h
  obtain rfl : n = 0 := by
    have hlt : (n : ℚ) < 1 := by
      have := (abs_le.mp hnear).2
      linarith
    exact_mod_cast Nat.lt_one_iff.mp (by exact_mod_cast hlt)
  rw [hn]
  rfl

/-- A span is off by half a nanosecond and a small part of it at most. -/
theorem abs_rounded_sub_le : |(d.rounded.nanoseconds : ℚ) - d.nanoseconds| ≤
    1 / 2 + spread * d.nanoseconds := by
  obtain ⟨r, hr, herror⟩ := d.exists_holds_toFloat
  obtain ⟨n, hn, hnear⟩ := exists_ofFloat?_eq hr
  have hspread : 0 ≤ spread * d.nanoseconds := by
    have : 0 ≤ spread := by norm_num [spread, precision]
    positivity
  rw [rounded, hn, ofNanos?]
  split_ifs with hfits
  · exact (abs_sub_le _ _ _).trans (add_le_add hnear herror)
  · simp only [Option.getD_none, sub_self, abs_zero]
    linarith

theorem eq_zero_iff : d = zero ↔ d.nanoseconds = 0 := by
  cases d
  simp [zero]

/-- A span is empty after rounding just if it was before. -/
theorem rounded_eq_zero_iff : d.rounded = zero ↔ d = zero := by
  have herror := abs_le.mp d.abs_rounded_sub_le
  rw [eq_zero_iff, eq_zero_iff]
  constructor
  · intro h
    rw [h, Nat.cast_zero] at herror
    by_contra hne
    have hone : (1 : ℚ) ≤ d.nanoseconds := by exact_mod_cast Nat.pos_of_ne_zero hne
    have hspread : spread < 1 / 2 := by norm_num [spread, precision]
    nlinarith
  · intro h
    rw [h, Nat.cast_zero, mul_zero] at herror
    have hlt : (d.rounded.nanoseconds : ℚ) < 1 := by linarith
    exact Nat.lt_one_iff.mp (by exact_mod_cast hlt)

/-- Spans of up to 24 days stay as they are. -/
theorem rounded_eq_self (h : d.wholeSeconds < 2 ^ 21) : d.rounded = d := by
  have herror := abs_le.mp d.abs_rounded_sub_le
  have hlt : d.nanoseconds < 2 ^ 21 * nanosPerSecond :=
    (Nat.div_lt_iff_lt_mul (by decide)).mp h
  have hcast : (d.nanoseconds : ℚ) < 2 ^ 21 * 1000000000 := by exact_mod_cast hlt
  have hspread : spread * d.nanoseconds < 1 / 2 := by
    have hsmall : spread * (2 ^ 21 * 1000000000) < 1 / 2 := by norm_num [spread, precision]
    have hpos : 0 < spread := by norm_num [spread, precision]
    exact (mul_lt_mul_of_pos_left hcast hpos).trans hsmall
  have hle : d.rounded.nanoseconds < d.nanoseconds + 1 := by
    have : (d.rounded.nanoseconds : ℚ) < d.nanoseconds + 1 := by linarith
    exact_mod_cast this
  have hge : d.nanoseconds < d.rounded.nanoseconds + 1 := by
    have : (d.nanoseconds : ℚ) < d.rounded.nanoseconds + 1 := by linarith
    exact_mod_cast this
  have heq : d.rounded.nanoseconds = d.nanoseconds := by omega
  cases hr : d.rounded
  cases d
  rw [hr] at heq
  simpa using heq

end ActivityFlow.Span
