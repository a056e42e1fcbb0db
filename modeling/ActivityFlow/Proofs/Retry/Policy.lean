import ActivityFlow.Retry

/-!
# What a retry policy decides

Which policies make sense, and which failed attempts they have followed by another one.
-/
namespace ActivityFlow.RetryPolicy

/-- A policy makes sense: its factor is a finite number of at least one, and its longest delay is
no shorter than the first. -/
structure Sensible (p : RetryPolicy) : Prop where
  finite : p.coefficient.isFinite = true
  least : ¬ p.coefficient < 1
  intervals : p.initialInterval.nanoseconds ≤ p.maximumInterval.nanoseconds

theorem validate_eq_ok_iff {p : RetryPolicy} : p.validate = .ok () ↔ p.Sensible := by
  unfold validate
  by_cases hcoefficient : (!p.coefficient.isFinite || p.coefficient < 1) = true
  · rw [if_pos hcoefficient]
    constructor
    · intro h
      cases h
    · rintro ⟨hfinite, hleast, -⟩
      simp [hfinite, hleast] at hcoefficient
  · rw [if_neg hcoefficient]
    have hsensible : p.coefficient.isFinite = true ∧ ¬ p.coefficient < 1 := by
      simpa using hcoefficient
    obtain ⟨hfinite, hleast⟩ := hsensible
    by_cases hintervals : p.maximumInterval.shorterThan p.initialInterval = true
    · rw [if_pos hintervals]
      have hlt : p.maximumInterval.nanoseconds < p.initialInterval.nanoseconds := by
        simpa [Span.shorterThan] using hintervals
      constructor
      · intro h
        cases h
      · rintro ⟨-, -, hle⟩
        exact absurd hlt (Nat.not_lt.mpr hle)
    · rw [if_neg hintervals]
      have hle : p.initialInterval.nanoseconds ≤ p.maximumInterval.nanoseconds := by
        simpa [Span.shorterThan] using hintervals
      exact ⟨fun _ => ⟨hfinite, hleast, hle⟩, fun _ => rfl⟩

/-- An attempt is followed by another one exactly if the kind of its failure is not final
and attempts are left. -/
theorem retries_iff (p : RetryPolicy) (failure : Failure) (attempt : Nat) :
    p.retries failure attempt = true ↔
      (∀ diagnosis, failure = .diagnosed diagnosis → diagnosis.kind ∉ p.finalKinds) ∧
        (p.maximumAttempts = 0 ∨ attempt < p.maximumAttempts) := by
  cases failure with
  | diagnosed d => simp [retries, Failure.kind?]
  | undiagnosed text => simp [retries, Failure.kind?]
  | timedOut millis => simp [retries, Failure.kind?]

end ActivityFlow.RetryPolicy
