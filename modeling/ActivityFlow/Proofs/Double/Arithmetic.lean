import ActivityFlow.Proofs.Double.Values

/-!
# Operations on doubles

The product, the quotient and the sum of doubles are what the exact result is rounded to, and so is
the double of a whole number. Zero keeps its place in these laws: added it changes nothing, and it
makes every finite product zero, but an infinite one no number.
-/
namespace ActivityFlow.Double

open Float.Model Float.Model.UnpackedFloat

variable {x y : Float} {v w : ℚ}

/-- What a number that is not negative is rounded to: a double near it, and infinity from the
overflow on. -/
inductive Rounds (v : ℚ) : Float → Prop
  | finite {x : Float} {r : ℚ} (h : Holds x r) (hnear : Near r v) (hlt : v < overflow) : Rounds v x
  | infinite {x : Float} (h : x.toModel.unpack = .infinity .positive) (hle : overflow ≤ v) :
    Rounds v x

/-- The overflow lies between the largest power of two that doubles have and the next one. -/
theorem two_pow_lt_overflow {k : ℤ} (hk : k ≤ 1023) : 2 ^ k < overflow := by
  rw [overflow_eq]
  calc (2 : ℚ) ^ k ≤ 2 ^ (1023 : ℤ) := zpow_le_zpow_right₀ one_le_two hk
    _ = 2 ^ (52 : ℤ) * 2 ^ (971 : ℤ) := by rw [← zpow_add₀ two_ne_zero]; norm_num
    _ < (2 ^ 53 - 1 / 2) * 2 ^ (971 : ℤ) :=
        mul_lt_mul_of_pos_right (by norm_num) (by positivity)

theorem overflow_le_two_pow {k : ℤ} (hk : 1024 ≤ k) : overflow ≤ 2 ^ k := by
  rw [overflow_eq]
  calc (2 ^ 53 - 1 / 2) * (2 : ℚ) ^ (971 : ℤ) ≤ 2 ^ (53 : ℤ) * 2 ^ (971 : ℤ) :=
        mul_le_mul_of_nonneg_right (by norm_num) (by positivity)
    _ = 2 ^ (1024 : ℤ) := by rw [← zpow_add₀ two_ne_zero]; norm_num
    _ ≤ 2 ^ k := zpow_le_zpow_right₀ one_le_two hk

theorem Rounds.exists_holds (h : Rounds v x) (hlt : v < overflow) : ∃ r, Holds x r ∧ Near r v := by
  cases h with
  | finite h hnear => exact ⟨_, h, hnear⟩
  | infinite h hle => exact absurd hlt hle.not_gt

/-- An exact result that is not tiny, known to at least 53 digits, is rounded. -/
theorem rounds_roundWithAccuracy {m : ℕ} {e : ℤ} {accuracy : Accuracy}
    (hv : Marks (.ofMantissaAndAccuracy m accuracy) (v / 2 ^ e)) (hm : 2 ^ 52 ≤ m)
    (hmin : 2 ^ (-1022 : ℤ) ≤ v) :
    Rounds v (.ofModel (.pack (roundWithAccuracy .binary64 .positive m e accuracy))) := by
  obtain ⟨n, k, hn, hround, hlow, hhigh, hk, hnear, hover⟩ :=
    exists_roundWithAccuracy .positive hv hm hmin
  rw [hround]
  by_cases hmax : k ≤ 971
  · exact .finite (.full hn (unpack_pack_of_full hn hlow hhigh hk hmax) hlow hhigh hk hmax) hnear
      (not_le.mp fun hle => by have := hover.mp hle; omega)
  · exact .infinite (unpack_pack_of_large hn (by omega)) (hover.mpr (by omega))

theorem rounds_mul (hx : Holds x v) (hy : Holds y w) (hv : 0 < v) (hw : 0 < w)
    (hmin : 2 ^ (-1022 : ℤ) ≤ v * w) : Rounds (v * w) (x * y) := by
  obtain ⟨m, e, hm, hxm, hlow, hhigh, -, -, rfl⟩ := hx.exists_of_pos hv
  obtain ⟨n, f, hn, hyn, hlow', hhigh', -, -, rfl⟩ := hy.exists_of_pos hw
  change Rounds _ (.ofModel (.pack (mul .binary64 x.toModel.unpack y.toModel.unpack)))
  rw [hxm, hyn]
  refine rounds_roundWithAccuracy ?_ ?_ hmin
  · have hproduct : (m * 2 ^ e * (n * 2 ^ f) / 2 ^ (e + f) : ℚ) = ((m * n : ℕ) : ℚ) := by
      rw [zpow_add₀ two_ne_zero]
      push_cast
      field_simp
    rw [hproduct]
    exact .exact _
  · nlinarith

/-- The mantissa of a quotient has as many digits as 53 further ones of the dividend give. -/
theorem divCore_of_full {m n : ℕ} {e f : ℤ} (hm : m.log2 = 52) (hn : n.log2 = 52)
    (hexponent : -1021 ≤ e - f) :
    divCore .binary64 m e n f =
      (m * 2 ^ 53 / n, e - f - 53, accuracyOfFraction (m * 2 ^ 53 % n) n) := by
  have htarget : min (e - f) (Format.binary64.targetExponent
      (totalExponent m e - totalExponent n f)) = e - f - 53 := by
    simp only [Format.targetExponent, totalExponent, hm, hn, Format.mantissaBits,
      Format.minExponent]
    omega
  simp only [divCore, htarget, show (e - f - (e - f - 53)).toNat = 53 by omega, Nat.shiftLeft_eq]

theorem rounds_div (hx : Holds x v) (hy : Holds y w) (hv : 0 < v) (hw : 0 < w)
    (hmin : 2 ^ (-1021 : ℤ) ≤ v / w) : Rounds (v / w) (x / y) := by
  obtain ⟨m, e, hm, hxm, hlow, hhigh, -, -, rfl⟩ := hx.exists_of_pos hv
  obtain ⟨n, f, hn, hyn, hlow', hhigh', -, -, rfl⟩ := hy.exists_of_pos hw
  change Rounds _ (.ofModel (.pack (div .binary64 x.toModel.unpack y.toModel.unpack)))
  rw [hxm, hyn]
  have hlogm : m.log2 = 52 := (Nat.log2_eq_iff hm.ne').mpr ⟨hlow, hhigh⟩
  have hlogn : n.log2 = 52 := (Nat.log2_eq_iff hn.ne').mpr ⟨hlow', hhigh'⟩
  have hm_lt : (m : ℚ) < 2 ^ 53 := by exact_mod_cast hhigh
  have hn_le : (2 : ℚ) ^ 52 ≤ n := by exact_mod_cast hlow'
  have hexponent : -1021 ≤ e - f := by
    have hlt : (m * 2 ^ e / (n * 2 ^ f) : ℚ) < 2 ^ (1 + (e - f)) := by
      rw [div_lt_iff₀ hw, zpow_add₀ two_ne_zero, zpow_sub₀ two_ne_zero, zpow_one]
      have hunit : (0 : ℚ) < 2 ^ e := by positivity
      calc (m : ℚ) * 2 ^ e < 2 ^ 53 * 2 ^ e := mul_lt_mul_of_pos_right hm_lt hunit
        _ ≤ 2 * n * 2 ^ e := mul_le_mul_of_nonneg_right (by linarith) hunit.le
        _ = 2 * (2 ^ e / 2 ^ f) * (n * 2 ^ f) := by field_simp
    have := (zpow_lt_zpow_iff_right₀ (one_lt_two (α := ℚ))).mp (hmin.trans_lt hlt)
    omega
  simp only [UnpackedFloat.div, divCore_of_full hlogm hlogn hexponent]
  refine rounds_roundWithAccuracy ?_ ?_ (le_trans ?_ hmin)
  · have hquotient : (m * 2 ^ e / (n * 2 ^ f) / 2 ^ (e - f - 53) : ℚ) =
        ((m * 2 ^ 53 : ℕ) : ℚ) / n := by
      rw [zpow_sub₀ two_ne_zero, zpow_sub₀ two_ne_zero]
      push_cast
      field_simp
    rw [hquotient]
    exact .quotient _ hn
  · rw [Nat.le_div_iff_mul_le hn]
    nlinarith
  · exact zpow_le_zpow_right₀ one_le_two (by norm_num)

/-- A number that is not tiny is rounded, whatever the mantissa that it is given with. -/
theorem rounds_round {m : ℕ} {e : ℤ} (hm : 0 < m) (hmin : (2 : ℚ) ^ (-1022 : ℤ) ≤ m * 2 ^ e) :
    Rounds (m * 2 ^ e) (.ofModel (.pack (UnpackedFloat.round .binary64 .positive m e))) := by
  obtain ⟨hlog_le, hlog_lt⟩ := (Nat.log2_eq_iff hm.ne').mp rfl
  have hexponent : -1022 ≤ m.log2 + e := by
    have hcast : (m : ℚ) < 2 ^ (m.log2 + 1 : ℤ) := by exact_mod_cast hlog_lt
    have hlt : (m : ℚ) * 2 ^ e < 2 ^ (m.log2 + 1 + e : ℤ) := by
      rw [zpow_add₀ two_ne_zero]
      exact mul_lt_mul_of_pos_right hcast (by positivity)
    have := (zpow_lt_zpow_iff_right₀ (one_lt_two (α := ℚ))).mp (hmin.trans_lt hlt)
    omega
  -- The mantissa gets as many digits behind it as it lacks.
  obtain ⟨s, hs⟩ : ∃ s, s = 52 - m.log2 := ⟨_, rfl⟩
  have htarget : (e - Format.binary64.targetExponent (totalExponent m e)).toNat = s := by
    simp only [Format.targetExponent, totalExponent, Format.mantissaBits, Format.minExponent]
    omega
  simp only [UnpackedFloat.round, decreaseExponent, htarget, Nat.shiftLeft_eq]
  refine rounds_roundWithAccuracy ?_ ?_ hmin
  · have hscaled : (m * 2 ^ e / 2 ^ (e - s) : ℚ) = ((m * 2 ^ s : ℕ) : ℚ) := by
      rw [zpow_sub₀ two_ne_zero, zpow_natCast]
      push_cast
      field_simp
    rw [hscaled]
    exact .exact _
  · calc 2 ^ 52 ≤ 2 ^ (m.log2 + s) := Nat.pow_le_pow_right two_pos (by omega)
      _ = 2 ^ m.log2 * 2 ^ s := pow_add 2 _ _
      _ ≤ m * 2 ^ s := Nat.mul_le_mul_right _ hlog_le

theorem normalize_of_pos {m : ℕ} (hm : 0 < m) (e : ℤ) (sign : Sign) :
    UnpackedFloat.normalize .binary64 m e sign = UnpackedFloat.round .binary64 .positive m e := by
  rw [UnpackedFloat.normalize, Int.compare_eq_gt.mpr (by exact_mod_cast hm)]
  rfl

theorem near_self (hv : 0 ≤ v) : Near v v where
  error := by
    rw [sub_self, abs_zero]
    exact mul_nonneg (by norm_num [precision]) hv
  two_pow_le _ := id
  le_two_pow _ := id
  exact _ _ _ _ := rfl

theorem Holds.rounds (h : Holds x v) : Rounds v x := .finite h (near_self h.nonneg) h.lt_overflow

/-- What is put into bits just as it was found there keeps its value. -/
theorem Holds.repacked (h : Holds x v) : Holds (.ofModel (.pack x.toModel.unpack)) v := by
  cases h with
  | zero h =>
    rw [h]
    exact .zero (unpack_pack_zero .positive)
  | full hm h hlow hhigh hmin hmax =>
    rw [h]
    exact .full hm (unpack_pack_of_full hm hlow hhigh hmin hmax) hlow hhigh hmin hmax

/-- A sum is rounded. A summand that is zero leaves the other one as it is. -/
theorem rounds_add (hx : Holds x v) (hy : Holds y w) : Rounds (v + w) (x + y) := by
  change Rounds _ (.ofModel (.pack (add .binary64 x.toModel.unpack y.toModel.unpack)))
  cases hx with
  | zero hxz =>
    have hsum : add .binary64 x.toModel.unpack y.toModel.unpack = y.toModel.unpack := by
      rw [hxz]
      cases hy with
      | zero h | full hn h => rw [h]; rfl
    rw [hsum, zero_add]
    exact hy.repacked.rounds
  | @full m e hm hxm hlow hhigh hmin hmax =>
    cases hy with
    | zero hyz =>
      have hsum : add .binary64 x.toModel.unpack y.toModel.unpack = x.toModel.unpack := by
        rw [hxm, hyz]
        rfl
      rw [hsum, add_zero]
      exact (Holds.full hm hxm hlow hhigh hmin hmax).repacked.rounds
    | @full n f hn hyn =>
      rw [hxm, hyn]
      -- Both mantissas in units of the smaller exponent.
      obtain ⟨i, hi⟩ := Int.le.dest (min_le_left e f)
      obtain ⟨j, hj⟩ := Int.le.dest (min_le_right e f)
      set unit : ℤ := min e f
      have hpos : 0 < m * 2 ^ i + n * 2 ^ j := by positivity
      have hvalue : (m * 2 ^ e + n * 2 ^ f : ℚ) = ((m * 2 ^ i + n * 2 ^ j : ℕ) : ℚ) * 2 ^ unit := by
        rw [← hi, ← hj, zpow_add₀ two_ne_zero, zpow_add₀ two_ne_zero, zpow_natCast, zpow_natCast]
        push_cast
        ring
      have hsum : add .binary64 (.finite .positive m e hm) (.finite .positive n f hn) =
          UnpackedFloat.round .binary64 .positive (m * 2 ^ i + n * 2 ^ j) unit := by
        rw [← normalize_of_pos hpos unit .positive]
        simp only [UnpackedFloat.add, decreaseExponent, Nat.shiftLeft_eq, Sign.apply]
        rw [show (e - unit).toNat = i by omega, show (f - unit).toNat = j by omega]
        push_cast
        rfl
      rw [hsum, hvalue]
      refine rounds_round hpos ?_
      rw [← hvalue]
      have hv := (Holds.full hm hxm hlow hhigh hmin hmax).two_pow_le (by positivity)
      have hw : (0 : ℚ) ≤ n * 2 ^ f := by positivity
      linarith

theorem exists_holds_toFloat (n : UInt64) : ∃ r, Holds n.toFloat r ∧ Near r n.toNat := by
  by_cases hn : n.toNat = 0
  · refine ⟨0, .zero ?_, ?_⟩
    · change (Float.Model.pack (UnpackedFloat.ofNat .binary64 n.toNat)).unpack = _
      rw [hn]
      rfl
    · rw [hn, Nat.cast_zero]
      exact near_self le_rfl
  · have hpos : 0 < n.toNat := Nat.pos_of_ne_zero hn
    have hone : (1 : ℚ) ≤ n.toNat := by exact_mod_cast hpos
    have hround : Rounds (n.toNat * 2 ^ (0 : ℤ)) n.toFloat := by
      change Rounds _ (.ofModel (.pack (UnpackedFloat.ofNat .binary64 n.toNat)))
      rw [UnpackedFloat.ofNat, UnpackedFloat.ofInt, normalize_of_pos hpos]
      refine rounds_round hpos ?_
      have hunit : (2 : ℚ) ^ (-1022 : ℤ) ≤ 2 ^ (0 : ℤ) :=
        zpow_le_zpow_right₀ one_le_two (by norm_num)
      rw [zpow_zero, mul_one]
      rw [zpow_zero] at hunit
      exact hunit.trans hone
    rw [zpow_zero, mul_one] at hround
    have hlt : (n.toNat : ℚ) < 2 ^ (64 : ℤ) := by exact_mod_cast n.toNat_lt
    exact hround.exists_holds (hlt.trans (two_pow_lt_overflow (by norm_num)))

theorem holds_zero_mul (hx : Holds x 0) (hy : Holds y w) : Holds (x * y) 0 := by
  refine .zero ?_
  change (Float.Model.pack (mul .binary64 x.toModel.unpack y.toModel.unpack)).unpack = _
  rw [hx.unpack_eq_zero]
  cases hy with
  | zero h | full hm h =>
    rw [h]
    exact unpack_pack_zero .positive

theorem holds_zero_div (hx : Holds x 0) (hy : Holds y w) (hw : 0 < w) : Holds (x / y) 0 := by
  refine .zero ?_
  change (Float.Model.pack (div .binary64 x.toModel.unpack y.toModel.unpack)).unpack = _
  obtain ⟨m, e, hm, hym, -⟩ := hy.exists_of_pos hw
  rw [hx.unpack_eq_zero, hym]
  exact unpack_pack_zero .positive

theorem infinite_mul (hx : x.toModel.unpack = .infinity .positive)
    (hy : y.toModel.unpack = .infinity .positive ∨ ∃ w, Holds y w ∧ 0 < w) :
    (x * y).toModel.unpack = .infinity .positive := by
  change (Float.Model.pack (mul .binary64 x.toModel.unpack y.toModel.unpack)).unpack = _
  rcases hy with hy | ⟨w, hy, hw⟩
  · rw [hx, hy]
    exact unpack_pack_infinity .positive
  · obtain ⟨m, e, hm, hym, -⟩ := hy.exists_of_pos hw
    rw [hx, hym]
    exact unpack_pack_infinity .positive

theorem mul_infinite (hx : Holds x v) (hv : 0 < v) (hy : y.toModel.unpack = .infinity .positive) :
    (x * y).toModel.unpack = .infinity .positive := by
  change (Float.Model.pack (mul .binary64 x.toModel.unpack y.toModel.unpack)).unpack = _
  obtain ⟨m, e, hm, hxm, -⟩ := hx.exists_of_pos hv
  rw [hxm, hy]
  exact unpack_pack_infinity .positive

theorem isNaN_zero_mul (hx : Holds x 0) (hy : y.toModel.unpack = .infinity .positive) :
    (x * y).isNaN = true := by
  change (Float.Model.pack (mul .binary64 x.toModel.unpack y.toModel.unpack)).isNaN = _
  rw [hx.unpack_eq_zero, hy]
  rfl

end ActivityFlow.Double
