import ActivityFlow.Routine
import Mathlib.Data.Option.Basic
import Mathlib.Tactic.SplitIfs

/-!
# Routines of the same course

Two routines over the same state take the same course if they pause alike and act alike, whatever
state they meet, and end with related values. Routines in step have the same value and related
states; here it is the other way round. What the two values differ in has no influence on time or
on the state, not even if the routines are cut off at a deadline or continued in related ways.
-/
namespace ActivityFlow.Routine

variable {σ τ α β γ δ : Type}

/-- Two routines take the same course, and end with values related by `V`. -/
inductive SameCourse (V : α → β → Prop) : Routine σ α → Routine σ β → Prop where
  | done {a : α} {b : β} (h : V a b) : SameCourse V (.done a) (.done b)
  | pause {due turn : Nat} {p : Routine σ α} {q : Routine σ β} (rest : SameCourse V p q) :
    SameCourse V (.pause due turn p) (.pause due turn q)
  | act {effect : Clock → σ → σ} {p : Clock → σ → Routine σ α} {q : Clock → σ → Routine σ β}
    (rest : ∀ clock state, SameCourse V (p clock state) (q clock state)) :
    SameCourse V (.act effect p) (.act effect q)

namespace SameCourse

variable {V : α → β → Prop} {W : γ → δ → Prop} {p : Routine σ α} {q : Routine σ β}

theorem refl {V : α → α → Prop} (h : ∀ a, V a a) (p : Routine σ α) : SameCourse V p p := by
  induction p with
  | done value => exact .done (h value)
  | pause due turn next ih => exact .pause ih
  | act effect next ih => exact .act ih

theorem bind (h : SameCourse V p q) {f : α → Routine σ γ} {g : β → Routine σ δ}
    (hnext : ∀ a b, V a b → SameCourse W (f a) (g b)) : SameCourse W (p.bind f) (q.bind g) := by
  induction h with
  | done h => exact hnext _ _ h
  | pause rest ih => exact .pause ih
  | act rest ih => exact .act ih

theorem map (h : SameCourse V p q) {f : α → γ} {g : β → δ} (hmap : ∀ a b, V a b → W (f a) (g b)) :
    SameCourse W (p.map f) (q.map g) :=
  h.bind fun a b hab => .done (hmap a b hab)

/-- A deadline cuts both routines off, or neither. -/
theorem cutOff (h : SameCourse V p q) (deadline turn now : Nat) :
    SameCourse (Option.Rel V) (p.cutOff deadline turn now) (q.cutOff deadline turn now) := by
  induction h generalizing now with
  | done h => exact .done (.some h)
  | @pause due _ _ _ rest ih =>
    simp only [Routine.cutOff]
    split_ifs
    · exact .pause (ih due)
    · exact .done .none
    · exact .pause (.done .none)
  | act rest ih => exact .act fun clock state => ih clock state clock.now

theorem timeout (h : SameCourse V p q) (millis : Nat) :
    SameCourse (Option.Rel V) (Routine.timeout millis p) (Routine.timeout millis q) :=
  .act fun clock _ => h.cutOff (clock.now + millis) clock.turn clock.now

theorem focus (h : SameCourse V p q) (get : τ → σ) (set : σ → τ → τ) :
    SameCourse V (p.focus get set) (q.focus get set) := by
  induction h with
  | done h => exact .done h
  | pause rest ih => exact .pause ih
  | act rest ih => exact .act fun clock whole => ih clock (get whole)

theorem run (h : SameCourse V p q) (clock : Clock) (state : σ) :
    V (p.run clock state).value (q.run clock state).value ∧
      (q.run clock state).clock = (p.run clock state).clock ∧
      (q.run clock state).state = (p.run clock state).state := by
  induction h generalizing clock state with
  | done h => exact ⟨h, rfl, rfl⟩
  | pause rest ih => exact ih _ state
  | act rest ih => exact ih clock state _ _

end SameCourse

end ActivityFlow.Routine
