import ActivityFlow.Decimal.Rounding
import ActivityFlow.Proofs.Double.Rounding

/-!
# The values of doubles

What a double stands for, read off its bits: `Holds` relates the doubles that are not negative, not
tiny and not infinite with their values, and a value is the one of the magnitude that the bits
spell. A finite number that is put into bits is found in them again, unless it is too large.
-/
namespace ActivityFlow

namespace Decimal

/-- What a magnitude stands for. -/
def Binary.value (b : Binary) : ℚ := b.mantissa * 2 ^ b.exponent

end Decimal

namespace Double

open Float.Model Float.Model.UnpackedFloat
open Decimal (Binary)

/-! ## Bits -/

theorem toNat_unpackMantissa (bits : BitVec 64) :
    (@unpackMantissa .binary64 bits).toNat = bits.toNat % 2 ^ 52 := by
  simp [unpackMantissa]

theorem toNat_unpackExponent (bits : BitVec 64) :
    (@unpackExponent .binary64 bits).toNat = bits.toNat / 2 ^ 52 % 2 ^ 11 := by
  rw [← Nat.shiftRight_eq_div_pow]
  simp [unpackExponent]

/-- A full mantissa has its first digit in front of those that are kept. -/
theorem toNat_one_append (mantissa : BitVec 52) :
    (1#1 ++ mantissa).toNat = 2 ^ 52 + mantissa.toNat := by
  rw [BitVec.toNat_append, ← Nat.shiftLeft_add_eq_or_of_lt mantissa.isLt]
  rfl

theorem exponentBias_eq : Format.binary64.exponentBias = 1023 := rfl

/-- A finite number with a full mantissa and an exponent of a double is found in its bits again. -/
theorem unpack_pack_of_full {sign : Sign} {n : ℕ} {k : ℤ} (hn : 0 < n) (hlow : 2 ^ 52 ≤ n)
    (hhigh : n < 2 ^ 53) (hmin : -1074 ≤ k) (hmax : k ≤ 971) :
    (Float.Model.pack (.finite sign n k hn)).unpack = .finite sign n k hn := by
  have hlog : n.log2 + 1 = Format.binary64.mantissaBits :=
    congrArg (· + 1) ((Nat.log2_eq_iff hn.ne').mpr ⟨hlow, hhigh⟩)
  obtain ⟨biased, rfl⟩ : ∃ b : ℕ, k = b - 1075 := ⟨(k + 1075).toNat, by omega⟩
  have hexponent : (BitVec.ofNat 11 biased).toNat = biased := by
    rw [BitVec.toNat_ofNat, Nat.mod_eq_of_lt (by omega)]
  have hfirst : BitVec.ofNat 11 biased ≠ 0#11 := by
    intro h
    have hzero : biased = 0 := hexponent ▸ congrArg BitVec.toNat h
    omega
  have hlast : BitVec.ofNat 11 biased ≠ -1#11 := by
    intro h
    have hfull : biased = 2047 := hexponent ▸ congrArg BitVec.toNat h
    omega
  have hmantissa : (1#1 ++ BitVec.ofNat 52 n).toNat = n := by
    rw [toNat_one_append, BitVec.toNat_ofNat]
    omega
  have hbias : ((biased : ℤ) - 1075 + (1023 : ℕ) + (52 : ℕ)).toNat = biased := by omega
  have hpack : UnpackedFloat.pack .binary64 (.finite sign n (biased - 1075) hn) =
      packComponents .binary64 sign (BitVec.ofNat 11 biased) (BitVec.ofNat 52 n) := by
    simp only [UnpackedFloat.pack, exponentBias_eq, hbias]
    rw [if_neg (by omega), if_pos hlog]
  simp only [Float.Model.unpack, Float.Model.pack, hpack, UnpackedFloat.unpack,
    unpackMantissa_packComponents, unpackExponent_packComponents, unpackSign_packComponents,
    Sign.ofBitVec_toBitVec, if_neg hfirst, if_neg hlast, hmantissa, hexponent, exponentBias_eq]
  congr 1

/-- A number that is too large for the exponents of doubles becomes infinite. -/
theorem unpack_pack_of_large {sign : Sign} {n : ℕ} {k : ℤ} (hn : 0 < n) (hmax : 972 ≤ k) :
    (Float.Model.pack (.finite sign n k hn)).unpack = .infinity sign := by
  have hpack : UnpackedFloat.pack .binary64 (.finite sign n k hn) =
      packedInfinity .binary64 sign := by
    have hlarge : 2 ^ 11 ≤ (k + Format.binary64.exponentBias + (52 : ℕ)).toNat + 1 := by
      rw [exponentBias_eq]
      omega
    exact if_pos hlarge
  simp only [Float.Model.unpack, Float.Model.pack, hpack]
  cases sign <;> rfl

theorem unpack_pack_infinity (sign : Sign) :
    (Float.Model.pack (.infinity sign)).unpack = .infinity sign := by
  cases sign <;> rfl

theorem unpack_pack_zero (sign : Sign) : (Float.Model.pack (.zero sign)).unpack = .zero sign := by
  cases sign <;> rfl

variable {x y : Float} {v w : ℚ}

/-- The magnitude that the bits of a double spell, in terms of the parts that it computes with. -/
theorem ofFloat_eq (x : Float) :
    let fraction := (@unpackMantissa .binary64 x.toModel.toBits.toBitVec).toNat
    let biased := (@unpackExponent .binary64 x.toModel.toBits.toBitVec).toNat
    (Binary.ofFloat x).mantissa = (if biased = 0 then fraction else 2 ^ 52 + fraction) ∧
      (Binary.ofFloat x).exponent = if biased = 0 then -1074 else (biased : ℤ) - 1075 := by
  intro fraction biased
  have hfraction : x.toBits.toNat % 4503599627370496 = fraction := (toNat_unpackMantissa _).symm
  have hbiased : x.toBits.toNat / 4503599627370496 % 2048 = biased := (toNat_unpackExponent _).symm
  simp only [Binary.ofFloat, hfraction, hbiased]
  split_ifs <;> exact ⟨rfl, rfl⟩

/-- The magnitude of a finite double is the one that it computes with. Only the tiny doubles do
without a full mantissa. -/
theorem ofFloat_of_unpack {sign : Sign} {m : ℕ} {e : ℤ} {hm : 0 < m}
    (h : x.toModel.unpack = .finite sign m e hm) :
    (Binary.ofFloat x).mantissa = m ∧ (Binary.ofFloat x).exponent = e ∧
      m < 2 ^ 53 ∧ -1074 ≤ e ∧ e ≤ 971 ∧ (2 ^ 52 ≤ m ∨ e = -1074) := by
  obtain ⟨hmantissa, hexponent⟩ := ofFloat_eq x
  have hfraction : (@unpackMantissa .binary64 x.toModel.toBits.toBitVec).toNat < 2 ^ 52 :=
    BitVec.isLt _
  have hbiased : (@unpackExponent .binary64 x.toModel.toBits.toBitVec).toNat < 2 ^ 11 :=
    BitVec.isLt _
  simp only [Float.Model.unpack, UnpackedFloat.unpack, exponentBias_eq] at h
  split at h
  · split at h <;> cases h
  · rename_i hlast
    split at h
    · rename_i hfirst
      have hzero := congrArg BitVec.toNat hfirst
      simp only [BitVec.toNat_zero] at hzero
      split at h
      · cases h
      · cases h
        rw [hmantissa, hexponent, if_pos hzero, if_pos hzero]
        refine ⟨rfl, by omega, by omega, by omega, by omega, .inr (by omega)⟩
    · rename_i hfirst
      cases h
      have hpos : (@unpackExponent .binary64 x.toModel.toBits.toBitVec).toNat ≠ 0 :=
        fun hzero => hfirst (BitVec.eq_of_toNat_eq hzero)
      have hmax : (@unpackExponent .binary64 x.toModel.toBits.toBitVec).toNat ≠ 2047 :=
        fun hfull => hlast (BitVec.eq_of_toNat_eq hfull)
      have hfull : (1#1 ++ @unpackMantissa .binary64 x.toModel.toBits.toBitVec).toNat = _ :=
        toNat_one_append _
      rw [hmantissa, hexponent, if_neg hpos, if_neg hpos, hfull]
      refine ⟨rfl, by omega, by omega, by omega, by omega, .inl (by omega)⟩

theorem mantissa_ofFloat_of_zero {sign : Sign} (h : x.toModel.unpack = .zero sign) :
    (Binary.ofFloat x).mantissa = 0 := by
  rw [(ofFloat_eq x).1]
  simp only [Float.Model.unpack, UnpackedFloat.unpack] at h
  split at h
  · split at h <;> cases h
  · split at h
    · rename_i hfirst
      split at h
      · rename_i hzero
        rw [hfirst, hzero]
        rfl
      · cases h
    · cases h

/-! ## Values -/

/-- A double and the number that it stands for. It is zero or has a full mantissa. -/
inductive Holds : Float → ℚ → Prop
  | zero {x : Float} (h : x.toModel.unpack = .zero .positive) : Holds x 0
  | full {x : Float} {m : ℕ} {e : ℤ} (hm : 0 < m) (h : x.toModel.unpack = .finite .positive m e hm)
    (hlow : 2 ^ 52 ≤ m) (hhigh : m < 2 ^ 53) (hmin : -1074 ≤ e) (hmax : e ≤ 971) :
    Holds x (m * 2 ^ e)

theorem lt_iff_compare (x y : Float) :
    x < y ↔ x.toModel.unpack.compare y.toModel.unpack = some .lt := by
  simp [LT.lt, Float.lt, Float.Model.lt, UnpackedFloat.lt]

theorem holds_zero : Holds 0 0 := .zero rfl

theorem holds_one : Holds 1 1 := by
  have h := Holds.full (x := 1) (m := 2 ^ 52) (e := -52) (by norm_num) rfl le_rfl (by norm_num)
    (by norm_num) (by norm_num)
  norm_num at h
  exact h

theorem holds_nanosPerSecond : Holds 1000000000 1000000000 := by
  have h := Holds.full (x := 1000000000) (m := 1000000000 * 2 ^ 23) (e := -23) (by norm_num) rfl
    (by norm_num) (by norm_num) (by norm_num) (by norm_num)
  norm_num at h
  exact h

theorem isInf_of_unpack {sign : Sign} (h : x.toModel.unpack = .infinity sign) : x.isInf = true := by
  rw [Float.isInf, Float.Model.isInf, h]
  rfl

namespace Holds

/-- The value of a double is the one of the magnitude that its bits spell. -/
theorem value_eq (h : Holds x v) : (Binary.ofFloat x).value = v := by
  cases h with
  | zero h => rw [Binary.value, mantissa_ofFloat_of_zero h, Nat.cast_zero, zero_mul]
  | full hm h =>
    obtain ⟨hmantissa, hexponent, -⟩ := ofFloat_of_unpack h
    rw [Binary.value, hmantissa, hexponent]

theorem nonneg (h : Holds x v) : 0 ≤ v := by
  cases h with
  | zero h => exact le_rfl
  | full hm h => positivity

theorem unpack_eq_zero (h : Holds x 0) : x.toModel.unpack = .zero .positive := by
  generalize hv : (0 : ℚ) = v at h
  cases h with
  | zero h => exact h
  | @full m e hm h =>
    have hpos : (0 : ℚ) < m * 2 ^ e := by positivity
    exact absurd hv hpos.ne

theorem exists_of_pos (h : Holds x v) (hv : 0 < v) :
    ∃ (m : ℕ) (e : ℤ) (hm : 0 < m), x.toModel.unpack = .finite .positive m e hm ∧
      2 ^ 52 ≤ m ∧ m < 2 ^ 53 ∧ -1074 ≤ e ∧ e ≤ 971 ∧ v = m * 2 ^ e := by
  cases h with
  | zero h => exact absurd hv (lt_irrefl 0)
  | full hm h hlow hhigh hmin hmax => exact ⟨_, _, hm, h, hlow, hhigh, hmin, hmax, rfl⟩

/-- A value that is not zero is not tiny. -/
theorem two_pow_le (h : Holds x v) (hv : 0 < v) : 2 ^ (-1022 : ℤ) ≤ v := by
  obtain ⟨m, e, hm, -, hlow, -, hmin, -, rfl⟩ := h.exists_of_pos hv
  have hcast : (2 : ℚ) ^ 52 ≤ m := by exact_mod_cast hlow
  have hunit : (2 : ℚ) ^ (-1074 : ℤ) ≤ 2 ^ e := zpow_le_zpow_right₀ one_le_two hmin
  calc (2 : ℚ) ^ (-1022 : ℤ) = 2 ^ (52 : ℤ) * 2 ^ (-1074 : ℤ) := by
        rw [← zpow_add₀ two_ne_zero]
        norm_num
    _ ≤ m * 2 ^ e := mul_le_mul hcast hunit (by positivity) (by positivity)

theorem isNaN_eq_false (h : Holds x v) : x.isNaN = false := by
  cases h with
  | zero h | full hm h => rw [Float.isNaN, Float.Model.isNaN, h]; rfl

theorem isInf_eq_false (h : Holds x v) : x.isInf = false := by
  cases h with
  | zero h | full hm h => rw [Float.isInf, Float.Model.isInf, h]; rfl

theorem not_lt_zero (hy : Holds y w) (hx : Holds x 0) : ¬ y < x := by
  rw [lt_iff_compare, hx.unpack_eq_zero]
  cases hy with
  | zero h | full hm h => rw [h]; nofun

theorem lt_overflow (h : Holds x v) : v < overflow := by
  cases h with
  | zero h =>
    rw [overflow_eq]
    positivity
  | @full m e hm h hlow hhigh hmin hmax =>
    have hunit : (2 : ℚ) ^ e ≤ 2 ^ (971 : ℤ) := zpow_le_zpow_right₀ one_le_two hmax
    have hm' : (m : ℚ) ≤ 2 ^ 53 - 1 := by
      have : ((m + 1 : ℕ) : ℚ) ≤ 2 ^ 53 := by exact_mod_cast hhigh
      push_cast at this
      linarith
    rw [overflow_eq]
    calc (m : ℚ) * 2 ^ e ≤ (2 ^ 53 - 1) * 2 ^ (971 : ℤ) :=
          mul_le_mul hm' hunit (by positivity) (by norm_num)
      _ < (2 ^ 53 - 1 / 2) * 2 ^ (971 : ℤ) :=
          mul_lt_mul_of_pos_right (by norm_num) (by positivity)

end Holds

theorem exists_holds_of_not_lt_one (hfinite : x.isFinite = true) (h : ¬ x < 1) :
    ∃ v, Holds x v ∧ 1 ≤ v := by
  have hone : (1 : Float).toModel.unpack = .finite .positive (2 ^ 52) (-52) (by norm_num) := rfl
  rw [lt_iff_compare, hone] at h
  rw [Float.isFinite, Float.Model.isFinite] at hfinite
  cases hx : x.toModel.unpack with
  | infinity sign | notANumber => simp [hx, UnpackedFloat.isFinite] at hfinite
  | zero sign => simp [hx, UnpackedFloat.compare] at h
  | finite sign m e hm =>
    obtain ⟨-, -, hhigh, hmin, hmax, hfull⟩ := ofFloat_of_unpack hx
    rw [hx] at h
    cases sign with
    | negative => simp [UnpackedFloat.compare] at h
    | positive =>
      simp only [UnpackedFloat.compare, Option.some.injEq, Ordering.then_eq_lt, Int.compare_eq_lt,
        Int.compare_eq_eq, Nat.compare_eq_lt, not_or, not_and, not_lt] at h
      have hlow : 2 ^ 52 ≤ m := hfull.resolve_right (by omega)
      have hcast : (2 : ℚ) ^ 52 ≤ m := by exact_mod_cast hlow
      have hunit : (2 : ℚ) ^ (-52 : ℤ) ≤ 2 ^ e := zpow_le_zpow_right₀ one_le_two h.1
      refine ⟨_, .full hm hx hlow hhigh hmin hmax, ?_⟩
      calc (1 : ℚ) = 2 ^ 52 * 2 ^ (-52 : ℤ) := by norm_num
        _ ≤ m * 2 ^ e := mul_le_mul hcast hunit (by positivity) (by positivity)

/-! ## Counting units -/

/-- Quotients are rounded as the results of operations on doubles are. -/
theorem roundDiv_eq_roundedMantissa (num : ℕ) {den : ℕ} (hden : 0 < den) :
    Decimal.roundDiv num den = (ExtendedMantissa.ofMantissaAndAccuracy (num / den)
      (accuracyOfFraction (num % den) den)).roundedMantissa := by
  rw [Decimal.roundDiv, accuracyOfFraction]
  by_cases hzero : num % den = 0
  · rw [if_pos hzero, hzero, if_pos (by omega)]
    rfl
  · rw [if_neg hzero]
    rcases lt_trichotomy (2 * (num % den)) den with hlt | heq | hgt
    · rw [Nat.compare_eq_lt.mpr hlt, if_pos hlt]
      rfl
    · rw [Nat.compare_eq_eq.mpr heq, if_neg heq.not_lt, if_neg heq.not_gt]
      change _ = num / den + num / den % 2
      split_ifs <;> omega
    · rw [Nat.compare_eq_gt.mpr hgt, if_neg hgt.not_gt, if_pos hgt]
      rfl

/-- A rounded quotient is off by at most a half. -/
theorem abs_roundDiv_sub_le (num : ℕ) {den : ℕ} (hden : 0 < den) :
    |(Decimal.roundDiv num den : ℚ) - num / den| ≤ 1 / 2 := by
  rw [roundDiv_eq_roundedMantissa num hden]
  exact (Marks.quotient num hden).abs_roundedMantissa_sub_le

theorem cast_posPow_div (e : ℤ) :
    (Decimal.posPow 2 e : ℚ) / Decimal.posPow 2 (-e) = 2 ^ e := by
  simp only [Decimal.posPow, Nat.pow_eq, Nat.cast_pow, Nat.cast_ofNat]
  rw [← zpow_natCast, ← zpow_natCast, ← zpow_sub₀ two_ne_zero]
  congr 1
  omega

/-- A double has as many units as its value, to the nearest. -/
theorem Holds.exists_roundedUnits? (h : Holds x v) (units : ℕ) :
    ∃ n, Decimal.roundedUnits? x units = some n ∧ |(n : ℚ) - v * units| ≤ 1 / 2 := by
  have hdefined : (x.isNaN || x.isInf || decide (x < 0)) = false := by
    rw [h.isNaN_eq_false, h.isInf_eq_false, decide_eq_false (h.not_lt_zero holds_zero)]
    rfl
  refine ⟨_, by rw [Decimal.roundedUnits?, hdefined]; rfl, ?_⟩
  have hden : 0 < Decimal.posPow 2 (-(Binary.ofFloat x).exponent) := Nat.two_pow_pos _
  have hround := abs_roundDiv_sub_le
    ((Binary.ofFloat x).mantissa * Decimal.posPow 2 (Binary.ofFloat x).exponent * units) hden
  have hvalue := h.value_eq
  rw [Binary.value, ← cast_posPow_div] at hvalue
  rw [← hvalue]
  convert hround using 3
  push_cast
  ring

end Double

end ActivityFlow
