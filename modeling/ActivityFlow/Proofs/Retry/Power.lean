import ActivityFlow.Retry
import ActivityFlow.Proofs.Double.Arithmetic

/-!
# Powers of doubles

A power is computed by repeated squaring, and each multiplication rounds. What every multiplication
keeps is kept by the power: bounds on the factor become bounds on the power that are off by one
rounding for each factor, and bounds that are powers of two are not off at all. A power of a factor
that is at least one is a double or infinite, and the bounds tell which.
-/
namespace ActivityFlow

open Double

/-! ## Repeated squaring -/

/-- The invariant of the loop. If bounds `r` and `s` of two numbers make `loss * r * s` a bound of
their product, each factor of the power adds its bound and a loss. -/
theorem powerLoop_keeps {R : Float → ℚ → Prop} {loss : ℚ}
    (hmul : ∀ {x y r s}, R x r → R y s → R (x * y) (loss * r * s)) {bits exponent : ℕ}
    (hbits : exponent < 2 ^ bits) {product base : Float} {p b : ℚ} (hproduct : R product p)
    (hbase : R base b) : R (powerLoop bits product base exponent) (p * (loss * b) ^ exponent) := by
  induction bits generalizing exponent product base p b with
  | zero =>
    obtain rfl : exponent = 0 := by omega
    simpa [powerLoop] using hproduct
  | succ bits ih =>
    -- The last bit of the exponent decides on the product, the others belong to the square.
    obtain ⟨rest, hrest⟩ : ∃ rest, rest = exponent / 2 := ⟨_, rfl⟩
    have hsquare : (loss * (loss * b * b)) ^ rest = (loss * b) ^ (2 * rest) := by
      rw [pow_mul]
      congr 1
      ring
    have hnext : ∀ {product' p'}, R product' p' →
        R (if rest = 0 then product' else powerLoop bits product' (base * base) rest)
          (p' * (loss * b) ^ (2 * rest)) := by
      intro product' p' h
      split_ifs with hzero
      · simpa [hzero] using h
      · rw [← hsquare]
        exact ih (by omega) h (hmul hbase hbase)
    rw [powerLoop, ← hrest]
    rcases Nat.mod_two_eq_zero_or_one exponent with heven | hodd
    · have hexponent : exponent = 2 * rest := by omega
      simp only [heven, zero_ne_one, if_false]
      rw [hexponent]
      exact hnext hproduct
    · have hexponent : exponent = 2 * rest + 1 := by omega
      simp only [hodd, if_true]
      have hvalue : p * (loss * b) ^ exponent = loss * p * b * (loss * b) ^ (2 * rest) := by
        rw [hexponent, pow_succ]
        ring
      rw [hvalue]
      exact hnext (hmul hproduct hbase)

/-- What one, the factor and all products keep is kept by a power with an exponent of 31 bits. -/
theorem power_keeps (R : Float → ℚ → Prop) (loss : ℚ)
    (hmul : ∀ {x y r s}, R x r → R y s → R (x * y) (loss * r * s)) (hone : R 1 1) {base : Float}
    {b : ℚ} (hbase : R base b) {exponent : ℕ} (hexponent : exponent < 2 ^ 31) :
    R (power base exponent) ((loss * b) ^ exponent) := by
  have hloop := powerLoop_keeps hmul hexponent hone hbase
  rwa [one_mul] at hloop

/-- Where products keep powers of two as they are, a power does so too. -/
theorem power_keeps_two_pow (R : Float → ℚ → Prop)
    (hmul : ∀ {x y} {j k : ℕ}, R x (2 ^ j) → R y (2 ^ k) → R (x * y) (2 ^ (j + k))) (hone : R 1 1)
    {base : Float} {j : ℕ} (hbase : R base (2 ^ j)) {exponent : ℕ} (hexponent : exponent < 2 ^ 31) :
    R (power base exponent) (2 ^ (j * exponent)) := by
  have hproduct : ∀ {x y r s}, (R x r ∧ ∃ i : ℕ, r = 2 ^ i) → (R y s ∧ ∃ k : ℕ, s = 2 ^ k) →
      R (x * y) (1 * r * s) ∧ ∃ k : ℕ, 1 * r * s = 2 ^ k := by
    rintro x y _ _ ⟨hx, i, rfl⟩ ⟨hy, k, rfl⟩
    rw [one_mul, ← pow_add]
    exact ⟨hmul hx hy, i + k, rfl⟩
  have hpower := power_keeps (fun x r => R x r ∧ ∃ k : ℕ, r = 2 ^ k) 1 hproduct ⟨hone, 0, rfl⟩
    ⟨hbase, j, rfl⟩ hexponent
  rw [one_mul, ← pow_mul] at hpower
  exact hpower.1

/-! ## Bounds -/

/-- A double that is at least one, and at least the given bound unless it is infinite. -/
def AtLeast (x : Float) (r : ℚ) : Prop :=
  0 ≤ r ∧ (x.toModel.unpack = .infinity .positive ∨ ∃ v, Holds x v ∧ 1 ≤ v ∧ r ≤ v)

/-- A double that is at least one, and at most the given bound unless that overflows. -/
def AtMost (x : Float) (r : ℚ) : Prop :=
  1 ≤ r ∧ (r < overflow → ∃ v, Holds x v ∧ 1 ≤ v ∧ v ≤ r)

section Bounds

variable {x y : Float} {v w r s t : ℚ}

theorem rounds_mul_of_one_le (hx : Holds x v) (hy : Holds y w) (hv : 1 ≤ v) (hw : 1 ≤ w) :
    Rounds (v * w) (x * y) ∧ 1 ≤ v * w := by
  have hone : 1 ≤ v * w := one_le_mul_of_one_le_of_one_le hv hw
  have hunit : (2 : ℚ) ^ (-1022 : ℤ) ≤ 2 ^ (0 : ℤ) := zpow_le_zpow_right₀ one_le_two (by norm_num)
  rw [zpow_zero] at hunit
  exact ⟨rounds_mul hx hy (by linarith) (by linarith) (hunit.trans hone), hone⟩

/-- Lower bounds multiply, up to what rounding may take away. -/
theorem AtLeast.mul (hx : AtLeast x r) (hy : AtLeast y s) (ht : 0 ≤ t)
    (hround : ∀ {q v}, Near q v → r * s ≤ v → t ≤ q) : AtLeast (x * y) t := by
  refine ⟨ht, ?_⟩
  obtain ⟨hr, hx⟩ := hx
  obtain ⟨hs, hy⟩ := hy
  rcases hx with hx | ⟨v, hx, hv, hrv⟩
  · refine .inl (infinite_mul hx ?_)
    rcases hy with hy | ⟨w, hy, hw, -⟩
    · exact .inl hy
    · exact .inr ⟨w, hy, by linarith⟩
  · rcases hy with hy | ⟨w, hy, hw, hsw⟩
    · exact .inl (mul_infinite hx (by linarith) hy)
    · obtain ⟨hrounds, hone⟩ := rounds_mul_of_one_le hx hy hv hw
      cases hrounds with
      | infinite h hle => exact .inl h
      | @finite q h hnear hlt =>
        have hproduct : r * s ≤ v * w := mul_le_mul hrv hsw hs (by linarith)
        exact .inr ⟨q, h, hnear.one_le hone, hround hnear hproduct⟩

/-- Upper bounds multiply, up to what rounding may add. -/
theorem AtMost.mul (hx : AtMost x r) (hy : AtMost y s) (ht : r * s ≤ t)
    (hround : ∀ {q v}, Near q v → v ≤ r * s → q ≤ t) : AtMost (x * y) t := by
  obtain ⟨hr, hx⟩ := hx
  obtain ⟨hs, hy⟩ := hy
  refine ⟨(one_le_mul_of_one_le_of_one_le hr hs).trans ht, ?_⟩
  intro hlt
  obtain ⟨v, hx, hv, hvr⟩ := hx (by nlinarith)
  obtain ⟨w, hy, hw, hws⟩ := hy (by nlinarith)
  obtain ⟨hrounds, hone⟩ := rounds_mul_of_one_le hx hy hv hw
  have hproduct : v * w ≤ r * s := mul_le_mul hvr hws (by linarith) (by linarith)
  obtain ⟨q, h, hnear⟩ := hrounds.exists_holds (by linarith)
  exact ⟨q, h, hnear.one_le hone, hround hnear hproduct⟩

theorem AtLeast.mul_rounded (hx : AtLeast x r) (hy : AtLeast y s) :
    AtLeast (x * y) ((1 - precision) * r * s) := by
  have hloss : 0 ≤ 1 - precision := by norm_num [precision]
  refine hx.mul hy (mul_nonneg (mul_nonneg hloss hx.1) hy.1) ?_
  intro q v hnear hle
  have herror := (abs_le.mp hnear.error).1
  have hscaled : (1 - precision) * (r * s) ≤ (1 - precision) * v :=
    mul_le_mul_of_nonneg_left hle hloss
  linarith

theorem AtMost.mul_rounded (hx : AtMost x r) (hy : AtMost y s) :
    AtMost (x * y) ((1 + precision) * r * s) := by
  have hgain : 1 ≤ 1 + precision := by norm_num [precision]
  have hone : 1 ≤ r * s := one_le_mul_of_one_le_of_one_le hx.1 hy.1
  refine hx.mul hy ?_ ?_
  · rw [mul_assoc]
    exact le_mul_of_one_le_left (by linarith) hgain
  · intro q v hnear hle
    have herror := (abs_le.mp hnear.error).2
    have hscaled : (1 + precision) * v ≤ (1 + precision) * (r * s) :=
      mul_le_mul_of_nonneg_left hle (by linarith)
    linarith

/-- Bounds that are powers of two multiply without a loss. -/
theorem AtLeast.mul_two_pow {j k : ℕ} (hx : AtLeast x (2 ^ j)) (hy : AtLeast y (2 ^ k)) :
    AtLeast (x * y) (2 ^ (j + k)) := by
  refine hx.mul hy (by positivity) ?_
  intro q v hnear hle
  have hpow : (2 : ℚ) ^ j * 2 ^ k = 2 ^ ((j + k : ℕ) : ℤ) := by rw [zpow_natCast, pow_add]
  rw [hpow] at hle
  rw [← zpow_natCast]
  exact hnear.two_pow_le _ hle

theorem AtMost.mul_two_pow {j k : ℕ} (hx : AtMost x (2 ^ j)) (hy : AtMost y (2 ^ k)) :
    AtMost (x * y) (2 ^ (j + k)) := by
  refine hx.mul hy (pow_add 2 j k).ge ?_
  intro q v hnear hle
  have hpow : (2 : ℚ) ^ j * 2 ^ k = 2 ^ ((j + k : ℕ) : ℤ) := by rw [zpow_natCast, pow_add]
  rw [hpow] at hle
  rw [← zpow_natCast]
  exact hnear.le_two_pow _ hle

/-- A double that is at least one is a bound of itself. -/
theorem atLeast_of_holds (h : Holds x v) (hv : 1 ≤ v) (hr : 0 ≤ r) (hle : r ≤ v) : AtLeast x r :=
  ⟨hr, .inr ⟨v, h, hv, hle⟩⟩

theorem atMost_of_holds (h : Holds x v) (hv : 1 ≤ v) (hle : v ≤ r) : AtMost x r :=
  ⟨hv.trans hle, fun _ => ⟨v, h, hv, hle⟩⟩

theorem AtLeast.isInf_eq_true (h : AtLeast x r) (hr : overflow ≤ r) : x.isInf = true := by
  rcases h.2 with h | ⟨v, h, -, hrv⟩
  · exact isInf_of_unpack h
  · exact absurd (hr.trans hrv) h.lt_overflow.not_ge

theorem AtMost.isInf_eq_false (h : AtMost x r) (hr : r < overflow) : x.isInf = false := by
  obtain ⟨v, h, -⟩ := h.2 hr
  exact h.isInf_eq_false

end Bounds

/-! ## The power of a factor -/

section Power

variable {x : Float} {v : ℚ} {j exponent : ℕ}

/-- Each factor of a power may lose one rounding. -/
theorem atLeast_power (hx : Holds x v) (hv : 1 ≤ v) (hexponent : exponent < 2 ^ 31) :
    AtLeast (power x exponent) (((1 - precision) * v) ^ exponent) :=
  power_keeps AtLeast (1 - precision) AtLeast.mul_rounded
    (atLeast_of_holds holds_one le_rfl zero_le_one le_rfl)
    (atLeast_of_holds hx hv (by linarith) le_rfl) hexponent

/-- Each factor of a power may gain one rounding. -/
theorem atMost_power (hx : Holds x v) (hv : 1 ≤ v) (hexponent : exponent < 2 ^ 31) :
    AtMost (power x exponent) (((1 + precision) * v) ^ exponent) :=
  power_keeps AtMost (1 + precision) AtMost.mul_rounded
    (atMost_of_holds holds_one le_rfl le_rfl)
    (atMost_of_holds hx hv le_rfl) hexponent

theorem atLeast_power_two_pow (hx : Holds x v) (hj : 2 ^ j ≤ v) (hexponent : exponent < 2 ^ 31) :
    AtLeast (power x exponent) (2 ^ (j * exponent)) := by
  have hone : (1 : ℚ) ≤ 2 ^ j := one_le_pow₀ one_le_two
  exact power_keeps_two_pow AtLeast AtLeast.mul_two_pow
    (atLeast_of_holds holds_one le_rfl zero_le_one le_rfl)
    (atLeast_of_holds hx (hone.trans hj) (by positivity) hj) hexponent

theorem atMost_power_two_pow (hx : Holds x v) (hv : 1 ≤ v) (hj : v ≤ 2 ^ j)
    (hexponent : exponent < 2 ^ 31) : AtMost (power x exponent) (2 ^ (j * exponent)) :=
  power_keeps_two_pow AtMost AtMost.mul_two_pow (atMost_of_holds holds_one le_rfl le_rfl)
    (atMost_of_holds hx hv hj) hexponent

/-- A power of a factor that is at least one is infinite or at least one itself. -/
theorem power_infinite_or_holds (hx : Holds x v) (hv : 1 ≤ v) (hexponent : exponent < 2 ^ 31) :
    (power x exponent).toModel.unpack = .infinity .positive ∨
      ∃ w, Holds (power x exponent) w ∧ 1 ≤ w := by
  rcases (atLeast_power hx hv hexponent).2 with h | ⟨w, h, hw, -⟩
  · exact .inl h
  · exact .inr ⟨w, h, hw⟩

/-- A power is infinite if it overflows even with a rounding lost at each factor. -/
theorem isInf_power (hx : Holds x v) (hv : 1 ≤ v) (hexponent : exponent < 2 ^ 31)
    (h : overflow ≤ ((1 - precision) * v) ^ exponent) : (power x exponent).isInf = true :=
  (atLeast_power hx hv hexponent).isInf_eq_true h

/-- A power is finite unless it overflows with a rounding gained at each factor. -/
theorem not_isInf_power (hx : Holds x v) (hv : 1 ≤ v) (hexponent : exponent < 2 ^ 31)
    (h : ((1 + precision) * v) ^ exponent < overflow) : (power x exponent).isInf = false :=
  (atMost_power hx hv hexponent).isInf_eq_false h

/-- Factors from a power of two on overflow as the powers of two themselves do. -/
theorem isInf_power_of_two_pow_le (hx : Holds x v) (hj : 2 ^ j ≤ v)
    (hexponent : exponent < 2 ^ 31) (h : 1024 ≤ j * exponent) :
    (power x exponent).isInf = true := by
  refine (atLeast_power_two_pow hx hj hexponent).isInf_eq_true ?_
  rw [← zpow_natCast]
  exact overflow_le_two_pow (by exact_mod_cast h)

/-- Factors up to a power of two do not overflow before the powers of two themselves. -/
theorem not_isInf_power_of_le_two_pow (hx : Holds x v) (hv : 1 ≤ v) (hj : v ≤ 2 ^ j)
    (hexponent : exponent < 2 ^ 31) (h : j * exponent < 1024) :
    (power x exponent).isInf = false := by
  refine (atMost_power_two_pow hx hv hj hexponent).isInf_eq_false ?_
  rw [← zpow_natCast]
  exact two_pow_lt_overflow (by omega)

end Power

end ActivityFlow
