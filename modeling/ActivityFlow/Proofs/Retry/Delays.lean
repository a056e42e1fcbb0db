import ActivityFlow.Proofs.Engine.Attempts
import ActivityFlow.Proofs.Retry.Power
import ActivityFlow.Proofs.Span.Rounded

/-!
# Delays without a first delay

A delay is the first delay times a power of the factor, at most the longest delay. Without a first
delay that is no delay at all, as long as the power is a double. A power beyond all doubles is
infinite, its product with zero is no number, and of no number and the longest delay the latter is
taken. So attempts that follow each other at once begin to wait when the power overflows.
-/
namespace ActivityFlow

open Double

namespace RetryPolicy

/-- The factor from one delay to the next as a number. -/
def factor (p : RetryPolicy) : ℚ := (Decimal.Binary.ofFloat p.coefficient).value

/-- How many times the factor counts in the delay after an attempt. -/
def factorsAfter (attempt : ℕ) : ℕ := min (attempt - 1) 2147483647

/-- Whether the power of the factor in the delay after an attempt lies beyond all doubles. -/
def Overflows (p : RetryPolicy) (attempt : ℕ) : Prop :=
  (power p.coefficient (factorsAfter attempt)).isInf = true

instance (p : RetryPolicy) : DecidablePred p.Overflows := fun _ =>
  inferInstanceAs (Decidable (_ = true))

/-- After how many of the first attempts the power overflows. -/
def waitsUpTo (p : RetryPolicy) (attempts : ℕ) : ℕ :=
  attempts.count fun made => p.Overflows (made + 1)

variable {p : RetryPolicy}

theorem waitsUpTo_succ (n : ℕ) :
    p.waitsUpTo (n + 1) = p.waitsUpTo n + if p.Overflows (n + 1) then 1 else 0 :=
  Nat.count_succ _ n

theorem factorsAfter_lt (attempt : ℕ) : factorsAfter attempt < 2 ^ 31 := by
  rw [factorsAfter]
  omega

/-- The factor of a policy that makes sense is a number that is at least one. -/
theorem holds_factor (hp : p.validate = .ok ()) : Holds p.coefficient p.factor ∧ 1 ≤ p.factor := by
  obtain ⟨hfinite, hleast, -⟩ := validate_eq_ok_iff.mp hp
  obtain ⟨v, hv, hle⟩ := exists_holds_of_not_lt_one hfinite hleast
  rw [factor, hv.value_eq]
  exact ⟨hv, hle⟩

/-! ## When powers overflow -/

theorem overflows_of_le (hp : p.validate = .ok ()) {n : ℕ}
    (h : overflow ≤ ((1 - precision) * p.factor) ^ factorsAfter n) : p.Overflows n := by
  obtain ⟨hholds, hone⟩ := holds_factor hp
  exact isInf_power hholds hone (factorsAfter_lt n) h

theorem not_overflows_of_lt (hp : p.validate = .ok ()) {n : ℕ}
    (h : ((1 + precision) * p.factor) ^ factorsAfter n < overflow) : ¬ p.Overflows n := by
  obtain ⟨hholds, hone⟩ := holds_factor hp
  simp [Overflows, not_isInf_power hholds hone (factorsAfter_lt n) h]

/-- Powers of a power of two overflow just where the exponents of doubles end. -/
theorem overflows_iff_of_two_pow (hp : p.validate = .ok ()) {j : ℕ} (hj : p.factor = 2 ^ j)
    (n : ℕ) : p.Overflows n ↔ 1024 ≤ j * factorsAfter n := by
  obtain ⟨hholds, hone⟩ := holds_factor hp
  constructor
  · intro h
    by_contra hlt
    simp [Overflows, not_isInf_power_of_le_two_pow hholds hone hj.le (factorsAfter_lt n)
      (not_le.mp hlt)] at h
  · exact isInf_power_of_two_pow_le hholds hj.ge (factorsAfter_lt n)

/-! ## Delays -/

/-- Without a first delay there is none unless the power overflows. -/
theorem delayAfter_eq_of_initialInterval (hp : p.validate = .ok ())
    (hfirst : p.initialInterval = .zero) (n : ℕ) :
    p.delayAfter n = if p.Overflows n then p.maximumInterval.rounded else .zero := by
  obtain ⟨hholds, hone⟩ := holds_factor hp
  obtain ⟨r, hr, -⟩ := p.maximumInterval.exists_holds_toFloat
  have hinitial : Holds p.initialInterval.toFloat 0 := hfirst ▸ Span.holds_toFloat_zero
  have hdelay : p.delayAfter n = (Span.ofFloat? (lesser
      (p.initialInterval.toFloat * power p.coefficient (factorsAfter n))
      p.maximumInterval.toFloat)).getD p.maximumInterval := rfl
  rw [hdelay]
  rcases power_infinite_or_holds hholds hone (factorsAfter_lt n) with hpower | ⟨w, hpower, -⟩
  -- Zero times infinity is no number, and the longest delay wins over that.
  · have hover : p.Overflows n := isInf_of_unpack hpower
    rw [if_pos hover, lesser, if_pos (isNaN_zero_mul hinitial hpower), Span.rounded]
  · have hfinite : ¬ p.Overflows n := by simp [Overflows, hpower.isInf_eq_false]
    have hproduct := holds_zero_mul hinitial hpower
    rw [if_neg hfinite, lesser, hproduct.isNaN_eq_false, hr.isNaN_eq_false,
      if_neg Bool.false_ne_true, if_neg Bool.false_ne_true, if_neg (hr.not_lt_zero hproduct),
      Span.ofFloat?_eq_zero hproduct, Option.getD_some]

theorem delayAfter_eq_zero_iff (hp : p.validate = .ok ()) (hfirst : p.initialInterval = .zero)
    (n : ℕ) : p.delayAfter n = .zero ↔ p.maximumInterval = .zero ∨ ¬ p.Overflows n := by
  rw [delayAfter_eq_of_initialInterval hp hfirst]
  split_ifs with h <;> simp [h, Span.rounded_eq_zero_iff]

end RetryPolicy

open RetryPolicy

/-- Without a first delay attempts follow each other at once, but for the longest delay after each
attempt at which the power overflows. -/
theorem Script.beginsAt_of_initialInterval (script : Script) {options : AttemptOptions}
    (hp : options.retry.validate = .ok ()) (hfirst : options.retry.initialInterval = .zero)
    (start n : ℕ) :
    script.beginsAt options start (n + 1) =
      start + (∑ made ∈ Finset.range n, script.lasting options (made + 1)) +
        options.retry.waitsUpTo n * options.retry.maximumInterval.rounded.timerMillis := by
  induction n with
  | zero => simp [beginsAt, waitsUpTo, Nat.count_zero]
  | succ n ih =>
    have hdelay : (options.retry.delayAfter (n + 1)).timerMillis =
        (if options.retry.Overflows (n + 1) then 1 else 0) *
          options.retry.maximumInterval.rounded.timerMillis := by
      rw [delayAfter_eq_of_initialInterval hp hfirst]
      split_ifs
      · rw [one_mul]
      · rw [zero_mul]
        rfl
    rw [beginsAt, ih, hdelay, waitsUpTo_succ, Finset.sum_range_succ]
    ring

/-- The delays of a policy that makes sense and has no first delay. There is none as long as the
power of the factor is a double, and the longest delay, rounded to a double and back, as soon as it
is not; if the longest delay is empty too, that makes no difference. The power overflows if it does
so with a rounding lost at each factor, and only if it does so with a rounding gained at each;
for powers of two that is where the exponents of doubles end. The attempts of an invocation begin
one right after the other, except that the longest delay follows each at which it overflows. -/
theorem RetryPolicy.delayAfter_of_no_first_delay (p : RetryPolicy) (hp : p.validate = .ok ())
    (hfirst : p.initialInterval = .zero) :
    (∀ n,
      p.delayAfter n = (if p.Overflows n then p.maximumInterval.rounded else .zero) ∧
      (p.delayAfter n = .zero ↔ p.maximumInterval = .zero ∨ ¬ p.Overflows n) ∧
      (overflow ≤ ((1 - precision) * p.factor) ^ factorsAfter n → p.Overflows n) ∧
      (((1 + precision) * p.factor) ^ factorsAfter n < overflow → ¬ p.Overflows n) ∧
      ∀ j, p.factor = 2 ^ j → (p.Overflows n ↔ 1024 ≤ j * factorsAfter n)) ∧
    (p.maximumInterval.wholeSeconds < 2 ^ 21 → p.maximumInterval.rounded = p.maximumInterval) ∧
    ∀ (script : Script) (options : AttemptOptions) (call : Call) (clock : Clock) (limit : ℕ)
      (history : List AttemptRecord) (n : ℕ), options.retry = p → script.IsLast options (n + 1) →
      ((Engine.invoke script.activity call options).run clock ⟨limit, history, []⟩).state.world =
        (List.range (n + 1)).map fun made => ⟨call,
          clock.now + (∑ i ∈ Finset.range made, script.lasting options (i + 1)) +
            p.waitsUpTo made * p.maximumInterval.rounded.timerMillis⟩ := by
  refine ⟨fun n => ⟨delayAfter_eq_of_initialInterval hp hfirst n,
    delayAfter_eq_zero_iff hp hfirst n, overflows_of_le hp, not_overflows_of_lt hp,
    fun j hj => overflows_iff_of_two_pow hp hj n⟩, p.maximumInterval.rounded_eq_self, ?_⟩
  rintro script options call clock limit history n rfl hlast
  rw [Engine.run_invoke_of_isLast script options call limit history clock n hlast]
  refine List.map_congr_left fun made _ => ?_
  rw [script.beginsAt_of_initialInterval hp hfirst]

/-- The standard policy without a first delay and with any number of attempts. -/
def RetryPolicy.eager : RetryPolicy :=
  { standard with initialInterval := .zero, maximumAttempts := 0 }

/-- The eager policy begins to wait when 1025 attempts have failed. -/
theorem RetryPolicy.delayAfter_of_no_first_delay_eager :
    eager.validate = .ok () ∧ eager.initialInterval = .zero ∧
      eager.delayAfter 1 = .zero ∧ eager.delayAfter 1024 = .zero ∧
      eager.delayAfter 1025 = .seconds 100 := by
  have hvalid : eager.validate = .ok () := by decide +kernel
  obtain ⟨hdelay, hrounded, -⟩ := delayAfter_of_no_first_delay eager hvalid rfl
  have hfactor : eager.factor = 2 ^ 1 := by
    rw [factor, show eager.coefficient = 2 from rfl, Decimal.Binary.value]
    decide +kernel
  have hover (n : ℕ) : eager.Overflows n ↔ 1024 ≤ 1 * factorsAfter n :=
    (hdelay n).2.2.2.2 1 hfactor
  refine ⟨hvalid, rfl, ?_, ?_, ?_⟩
  · rw [(hdelay 1).1, if_neg (by rw [hover]; decide)]
  · rw [(hdelay 1024).1, if_neg (by rw [hover]; decide)]
  · rw [(hdelay 1025).1, if_pos (by rw [hover]; decide), hrounded (by decide)]
    rfl

end ActivityFlow
