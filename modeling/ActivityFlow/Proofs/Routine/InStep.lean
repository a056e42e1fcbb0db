import ActivityFlow.Routine

/-!
# Routines in step

Two routines over different states go in step if they pause and act together, keep the two
states related and end with the same value. The second one also writes a log. What it has
written satisfies a specification at any time: while the routine is under way, so that
nothing has to be said when it is cut off, and together with its value when it ends.
-/
namespace ActivityFlow

/-- What may be in the log of a routine: without a value while it is under way, and with its
value when it has ended. -/
abbrev LogSpec (ε α : Type) := List ε → Option α → Prop

namespace LogSpec

variable {ε α β : Type}

/-- Nothing is written. -/
def silent : LogSpec ε α := fun entries _ => entries = []

/-- What is still to be written after some entries. -/
def after (S : LogSpec ε α) (entries : List ε) : LogSpec ε α := fun later => S (entries ++ later)

/-- One routine writes, and then another one that may depend on the value of the first. -/
inductive Then (S : LogSpec ε α) (T : α → LogSpec ε β) : LogSpec ε β
  | first {entries : List ε} (h : S entries none) : Then S T entries none
  | second {entries later : List ε} {value : α} {result : Option β}
    (h : S entries (some value)) (hlater : T value later result) :
    Then S T (entries ++ later) result

theorem Then.of_after {S : LogSpec ε α} {T : α → LogSpec ε β} {entries later : List ε}
    {result : Option β} (h : Then (S.after entries) T later result) :
    Then S T (entries ++ later) result := by
  cases h with
  | first h => exact .first h
  | second h hlater =>
    rw [← List.append_assoc]
    exact .second h hlater

end LogSpec

namespace Routine

variable {σ τ ε α β : Type}

/-- Two routines go in step: they keep their states related by `R`, and what the second one
writes to the log of its state satisfies `S`. -/
inductive InStep (R : σ → τ → Prop) (log : τ → List ε) :
    Routine σ α → Routine τ α → LogSpec ε α → Prop where
  | done {value : α} {S : LogSpec ε α} (now : S [] none) (ends : S [] (some value)) :
    InStep R log (.done value) (.done value) S
  | pause {due turn : Nat} {p : Routine σ α} {q : Routine τ α} {S : LogSpec ε α}
    (now : S [] none) (rest : InStep R log p q S) :
    InStep R log (.pause due turn p) (.pause due turn q) S
  | act {effect : Clock → σ → σ} {effect' : Clock → τ → τ} {p : Clock → σ → Routine σ α}
    {q : Clock → τ → Routine τ α} {S : LogSpec ε α} (written : Clock → τ → List ε) (now : S [] none)
    (keeps : ∀ clock s t, R s t → R (effect clock s) (effect' clock t))
    (writes : ∀ clock s t, R s t → log (effect' clock t) = log t ++ written clock t)
    (rest : ∀ clock s t, R s t → InStep R log (p clock s) (q clock t) (S.after (written clock t))) :
    InStep R log (.act effect p) (.act effect' q) S

namespace InStep

variable {R : σ → τ → Prop} {log : τ → List ε} {p : Routine σ α} {q : Routine τ α}
variable {S T : LogSpec ε α}

theorem now (h : InStep R log p q S) : S [] none := by
  cases h with
  | done now _ => exact now
  | pause now _ => exact now
  | act _ now _ _ _ => exact now

theorem mono (h : InStep R log p q S) (himp : ∀ entries value, S entries value → T entries value) :
    InStep R log p q T := by
  induction h generalizing T with
  | done now ends => exact .done (himp _ _ now) (himp _ _ ends)
  | pause now rest ih => exact .pause (himp _ _ now) (ih himp)
  | act written now keeps writes rest ih =>
    exact .act written (himp _ _ now) keeps writes fun clock s t hR =>
      ih clock s t hR fun later value => himp _ value

/-- Whole runs of routines in step: they take the same time and end with the same value, and
the second one has added a log as specified. -/
theorem run (h : InStep R log p q S) (clock : Clock) {s : σ} {t : τ} (hR : R s t) :
    (p.run clock s).value = (q.run clock t).value ∧ (p.run clock s).clock = (q.run clock t).clock ∧
      R (p.run clock s).state (q.run clock t).state ∧
      ∃ entries, log (q.run clock t).state = log t ++ entries ∧
        S entries (some (q.run clock t).value) := by
  induction h generalizing clock s t with
  | done now ends => exact ⟨rfl, rfl, hR, [], by simp [Routine.run], ends⟩
  | pause now rest ih => exact ih _ hR
  | act written now keeps writes rest ih =>
    obtain ⟨hvalue, hclock, hstate, entries, hlog, hS⟩ :=
      ih clock s t hR ⟨clock.now, clock.turn + 1⟩ (keeps clock s t hR)
    refine ⟨hvalue, hclock, hstate, written clock t ++ entries, ?_, hS⟩
    rw [← List.append_assoc, ← writes clock s t hR]
    exact hlog

/-- Routines in step, one after the other. -/
theorem bind {f : α → Routine σ β} {g : α → Routine τ β} {U : α → LogSpec ε β}
    (h : InStep R log p q S) (hrest : ∀ a, InStep R log (f a) (g a) (U a)) :
    InStep R log (p.bind f) (q.bind g) (S.Then U) := by
  induction h with
  | @done value S now ends =>
    refine (hrest value).mono ?_
    intro entries result hU
    rw [← List.nil_append entries]
    exact .second ends hU
  | pause now rest ih => exact .pause (.first now) ih
  | act written now keeps writes rest ih =>
    exact .act written (.first now) keeps writes fun clock s t hR =>
      (ih clock s t hR).mono fun later result => LogSpec.Then.of_after

/-- A function applied to the values of routines in step. -/
theorem map {f : α → β} {U : LogSpec ε β} (h : InStep R log p q S)
    (hnone : ∀ entries, S entries none → U entries none)
    (hsome : ∀ entries a, S entries (some a) → U entries none ∧ U entries (some (f a))) :
    InStep R log (p.map f) (q.map f) U := by
  have hbind := h.bind (f := fun a => Routine.done (f a)) (g := fun a => Routine.done (f a))
    (U := fun a entries result => entries = [] ∧ ∀ b, result = some b → f a = b)
    fun a => .done ⟨rfl, by simp⟩ ⟨rfl, by simp⟩
  refine hbind.mono ?_
  intro entries result hthen
  cases hthen with
  | first hfirst => exact hnone _ hfirst
  | @second entries later a result hfirst hlater =>
    obtain ⟨rfl, hvalue⟩ := hlater
    rw [List.append_nil]
    cases result with
    | none => exact (hsome _ _ hfirst).1
    | some b =>
      rw [← hvalue b rfl]
      exact (hsome _ _ hfirst).2

/-- Reading and changing both states in one action. -/
theorem transact {f : Clock → σ → α × σ} {g : Clock → τ → α × τ} (written : Clock → τ → List ε)
    (now : S [] none) (keeps : ∀ clock s t, R s t → R (f clock s).2 (g clock t).2)
    (writes : ∀ clock s t, R s t → log (g clock t).2 = log t ++ written clock t)
    (value : ∀ clock s t, R s t → (f clock s).1 = (g clock t).1)
    (begun : ∀ clock s t, R s t → S (written clock t) none)
    (ends : ∀ clock s t, R s t → S (written clock t) (some (g clock t).1)) :
    InStep R log (Routine.transact f) (Routine.transact g) S := by
  refine .act written now keeps writes ?_
  intro clock s t hR
  rw [value clock s t hR]
  refine .done ?_ ?_
  · simpa [LogSpec.after] using begun clock s t hR
  · simpa [LogSpec.after] using ends clock s t hR

theorem sleep (millis : Nat) :
    InStep R log (Routine.sleep millis) (Routine.sleep millis) LogSpec.silent := by
  refine .act (fun _ _ => []) rfl (fun _ _ _ hR => hR) (fun _ _ t _ => by simp) ?_
  intro clock s t hR
  by_cases hz : millis = 0
  · simp only [hz, if_true]
    exact .done rfl rfl
  · simp only [hz, if_false]
    exact .pause rfl (.done rfl rfl)

/-- A routine that is cut off may leave off anywhere. -/
theorem cutOff (h : InStep R log p q S) (deadline turn now : Nat) :
    InStep R log (p.cutOff deadline turn now) (q.cutOff deadline turn now)
      fun entries value => S entries value.join := by
  induction h generalizing now with
  | done begun ends => exact .done begun ends
  | @pause due t p q S begun rest ih =>
    simp only [Routine.cutOff]
    by_cases hdue : due ≤ deadline
    · simp only [hdue, if_true]
      exact .pause begun (ih due)
    · simp only [hdue, if_false]
      by_cases hnow : deadline ≤ now
      · simp only [hnow, if_true]
        exact .done begun begun
      · simp only [hnow, if_false]
        exact .pause begun (.done begun begun)
  | act written begun keeps writes rest ih =>
    exact .act written begun keeps writes fun clock s t hR => ih clock s t hR clock.now

/-- One routine on corresponding parts of the two states writes nothing. -/
theorem focus {ρ : Type} (r : Routine ρ α) {get : σ → ρ} {set : ρ → σ → σ} {get' : τ → ρ}
    {set' : ρ → τ → τ} (hget : ∀ s t, R s t → get s = get' t)
    (hset : ∀ part s t, R s t → R (set part s) (set' part t))
    (hlog : ∀ part t, log (set' part t) = log t) :
    InStep R log (r.focus get set) (r.focus get' set') LogSpec.silent := by
  induction r with
  | done value => exact .done rfl rfl
  | pause due turn next ih => exact .pause rfl ih
  | act effect next ih =>
    refine .act (fun _ _ => []) rfl ?_ ?_ ?_
    · intro clock s t hR
      rw [hget s t hR]
      exact hset _ s t hR
    · intro clock s t _
      simp [hlog]
    · intro clock s t hR
      rw [hget s t hR]
      exact ih clock (get' t)

end InStep

/-! ## Routines that are alike -/

/-- Two routines go in step whatever is written. -/
def Alike (R : σ → τ → Prop) (p : Routine σ α) (q : Routine τ α) : Prop :=
  InStep R (fun _ => ([] : List Empty)) p q fun _ _ => True

namespace Alike

variable {R : σ → τ → Prop} {p : Routine σ α} {q : Routine τ α}

theorem done (value : α) : Alike R (.done value) (.done value) := InStep.done trivial trivial

/-- A routine is like itself if the states are the same. -/
theorem refl (r : Routine σ α) : Alike Eq r r := by
  induction r with
  | done value => exact .done value
  | pause due turn next ih => exact InStep.pause trivial ih
  | act effect next ih =>
    refine InStep.act (fun _ _ => []) trivial ?_ (fun _ _ _ _ => rfl) ?_
    · rintro clock s _ rfl
      rfl
    · rintro clock s _ rfl
      exact ih clock s

theorem act {effect : Clock → σ → σ} {effect' : Clock → τ → τ} {next : Clock → σ → Routine σ α}
    {next' : Clock → τ → Routine τ α}
    (keeps : ∀ clock s t, R s t → R (effect clock s) (effect' clock t))
    (rest : ∀ clock s t, R s t → Alike R (next clock s) (next' clock t)) :
    Alike R (.act effect next) (.act effect' next') :=
  InStep.act (fun _ _ => []) trivial keeps (fun _ _ _ _ => rfl) rest

theorem bind {f : α → Routine σ β} {g : α → Routine τ β} (h : Alike R p q)
    (hrest : ∀ a, Alike R (f a) (g a)) : Alike R (p.bind f) (q.bind g) :=
  (InStep.bind h hrest).mono fun _ _ _ => trivial

theorem sleep (millis : Nat) : Alike R (Routine.sleep millis) (Routine.sleep millis) :=
  (InStep.sleep millis).mono fun _ _ _ => trivial

theorem cutOff (h : Alike R p q) (deadline turn now : Nat) :
    Alike R (p.cutOff deadline turn now) (q.cutOff deadline turn now) :=
  InStep.cutOff h deadline turn now

/-- Routines that are alike, each on a part of its state. -/
theorem focus {ρ ρ' : Type} {Q : ρ → ρ' → Prop} {part : Routine ρ α} {part' : Routine ρ' α}
    (h : Alike Q part part') {get : σ → ρ} {set : ρ → σ → σ} {get' : τ → ρ'}
    {set' : ρ' → τ → τ} (hget : ∀ s t, R s t → Q (get s) (get' t))
    (hset : ∀ r r' s t, Q r r' → R s t → R (set r s) (set' r' t)) :
    Alike R (part.focus get set) (part'.focus get' set') := by
  unfold Alike at h
  generalize (fun (_ : List Empty) (_ : Option α) => True) = S at h
  induction h with
  | done _ _ => exact .done _
  | pause _ _ ih => exact InStep.pause trivial ih
  | act _ _ keeps _ _ ih =>
    refine .act ?_ fun clock s t hR => ih clock _ _ (hget s t hR)
    intro clock s t hR
    exact hset _ _ s t (keeps clock _ _ (hget s t hR)) hR

/-- Whole runs of routines that are alike. -/
theorem run (h : Alike R p q) (clock : Clock) {s : σ} {t : τ} (hR : R s t) :
    (p.run clock s).value = (q.run clock t).value ∧ (p.run clock s).clock = (q.run clock t).clock ∧
      R (p.run clock s).state (q.run clock t).state := by
  obtain ⟨hvalue, hclock, hstate, -⟩ := InStep.run h clock hR
  exact ⟨hvalue, hclock, hstate⟩

end Alike

end Routine

end ActivityFlow
