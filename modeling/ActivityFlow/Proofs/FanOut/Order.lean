import ActivityFlow.FanOut
import Mathlib.Data.List.Perm.Basic
import Mathlib.Data.List.Pairwise

/-!
# The order of a fan-out

A future ends after a fixed time with a fixed result, whatever happens beside it. The merged
feed of several futures has one ending for each of them, in the order of their times; where
the input decides between futures that are due in the same millisecond, these end in the
order of the input. Merging one more future inserts its ending, which is the step of the
induction.
-/
namespace ActivityFlow

variable {σ α : Type}

/-- A routine that ends at `finish` with the value `a`. It leaves the state alone until then
and changes it by `e` as its last action. -/
inductive Routine.Ends (e : σ → σ) (finish : Nat) (a : α) : Routine σ α → Nat → Prop where
  | done (still : e = id) : Ends e finish a (.done a) finish
  | last : Ends e finish a (.act (fun _ => e) fun _ _ => .done a) finish
  | look {next : Clock → σ → Routine σ α} {now : Nat}
    (ends : ∀ clock state, clock.now = now → Ends e finish a (next clock state) now) :
    Ends e finish a (.act (fun _ state => state) next) now
  | pause {due turn now : Nat} {next : Routine σ α} (later : now < due) (soon : due ≤ finish)
    (ends : Ends e finish a next due) : Ends e finish a (.pause due turn next) now

/-- One of several routines that run side by side: it takes a fixed time, ends with a fixed
result, and has an effect on the state at its end only. -/
structure Future (σ φ α : Type) where
  routine : Routine σ (Except φ α)
  /-- How many milliseconds it takes. -/
  duration : Nat
  result : Except φ α
  /-- What it does to the state when it ends. -/
  effect : σ → σ
  ends : ∀ now, routine.Ends effect (now + duration) result now

namespace Future

variable {φ : Type}

/-- The future that lets time pass, changes the state and ends. -/
def timed (duration : Nat) (effect : σ → σ) (result : Except φ α) : Future σ φ α where
  routine := (Routine.sleep duration).bind fun _ => (Routine.modify effect).map fun _ => result
  duration := duration
  result := result
  effect := effect
  ends := by
    intro now
    refine .look ?_
    rintro clock state rfl
    by_cases h : duration = 0
    · subst h
      exact .last
    · simp only [h, if_false]
      exact .pause (by omega) (Nat.le_refl _) .last

end Future

namespace Feed

/-- The end of a routine: the time, its place in the input and its value. -/
structure Ending (α : Type) where
  time : Nat
  place : Nat
  value : α

/-- From the given time on, the endings of a feed satisfy `S` whatever state and turns it
meets. A routine that ends changes the state by the effect of its place; nothing else does. -/
inductive Emits (effect : Nat → σ → σ) :
    Feed σ (Nat × α) → Nat → (List (Ending α) → Prop) → Prop where
  | ended {now : Nat} {S : List (Ending α) → Prop} (none : S []) : Emits effect .over now S
  | emit {now place : Nat} {value : α} {next : Feed σ (Nat × α)} {S : List (Ending α) → Prop}
    (still : effect place = id)
    (rest : Emits effect next now fun later => S (⟨now, place, value⟩ :: later)) :
    Emits effect (.emit (place, value) next) now S
  | finish {now place : Nat} {value : α} {next : Feed σ (Nat × α)} {S : List (Ending α) → Prop}
    (rest : Emits effect next now fun later => S (⟨now, place, value⟩ :: later)) :
    Emits effect (.act (fun _ => effect place) fun _ _ => .emit (place, value) next) now S
  | look {now : Nat} {next : Clock → σ → Feed σ (Nat × α)} {S : List (Ending α) → Prop}
    (rest : ∀ clock state, clock.now = now → Emits effect (next clock state) now S) :
    Emits effect (.act (fun _ state => state) next) now S
  | pause {now due turn : Nat} {next : Feed σ (Nat × α)} {S : List (Ending α) → Prop}
    (later : now ≤ due) (rest : Emits effect next due S) :
    Emits effect (.pause due turn next) now S

namespace Emits

variable {effect : Nat → σ → σ} {feed : Feed σ (Nat × α)} {now : Nat}
variable {S T : List (Ending α) → Prop}

theorem mono (h : Emits effect feed now S) (himp : ∀ endings, S endings → T endings) :
    Emits effect feed now T := by
  induction h generalizing T with
  | ended none => exact .ended (himp _ none)
  | emit still rest ih => exact .emit still (ih fun later => himp _)
  | finish rest ih => exact .finish (ih fun later => himp _)
  | look rest ih => exact .look fun clock state hnow => ih clock state hnow himp
  | pause later rest ih => exact .pause later (ih himp)

/-- No ending lies in the past. -/
theorem from_now (h : Emits effect feed now S) :
    Emits effect feed now fun endings => S endings ∧ ∀ e ∈ endings, now ≤ e.time := by
  induction h with
  | ended none => exact .ended ⟨none, by simp⟩
  | emit still rest ih =>
    refine .emit still (ih.mono ?_)
    rintro later ⟨hS, hle⟩
    exact ⟨hS, by simpa using hle⟩
  | finish rest ih =>
    refine .finish (ih.mono ?_)
    rintro later ⟨hS, hle⟩
    exact ⟨hS, by simpa using hle⟩
  | look rest ih => exact .look ih
  | pause later rest ih =>
    refine .pause later (ih.mono ?_)
    rintro endings ⟨hS, hle⟩
    exact ⟨hS, fun e he => Nat.le_trans later (hle e he)⟩

end Emits

/-! ## Merging one future -/

/-- The endings are those of `S` with one more, which stands behind the earlier ones and
before the later ones. Where the input decides it also stands before those of its time. -/
def Inserted (precedence : Precedence) (ending : Ending α) (S : List (Ending α) → Prop)
    (endings : List (Ending α)) : Prop :=
  ∃ before after, S (before ++ after) ∧ endings = before ++ ending :: after ∧
    (∀ e ∈ before, e.time ≤ ending.time ∧ (precedence = .input → e.time < ending.time)) ∧
    ∀ e ∈ after, ending.time ≤ e.time

variable {precedence : Precedence} {ending : Ending α} {S : List (Ending α) → Prop}

theorem Inserted.cons {first : Ending α} {later : List (Ending α)}
    (h : Inserted precedence ending (fun later => S (first :: later)) later)
    (hle : first.time ≤ ending.time) (hlt : precedence = .input → first.time < ending.time) :
    Inserted precedence ending S (first :: later) := by
  obtain ⟨before, after, hS, rfl, hbefore, hafter⟩ := h
  refine ⟨first :: before, after, hS, rfl, ?_, hafter⟩
  intro e he
  rcases List.mem_cons.mp he with rfl | hmem
  · exact ⟨hle, hlt⟩
  · exact hbefore e hmem

/-- Of two paused routines the one that goes first is due no later. -/
theorem due_le_of_leftFirst {due turn due' turn' : Nat}
    (h : precedence.leftFirst due turn due' turn' = true) : due ≤ due' := by
  cases precedence with
  | input => simpa [Precedence.leftFirst] using h
  | arrival =>
    simp only [Precedence.leftFirst, Bool.or_eq_true, decide_eq_true_eq, Bool.and_eq_true,
      beq_iff_eq] at h
    omega

theorem due_le_of_not_leftFirst {due turn due' turn' : Nat}
    (h : ¬ precedence.leftFirst due turn due' turn' = true) :
    due' ≤ due ∧ (precedence = .input → due' < due) := by
  cases precedence with
  | input =>
    have hlt : ¬ due ≤ due' := by simpa [Precedence.leftFirst] using h
    exact ⟨by omega, fun _ => by omega⟩
  | arrival =>
    simp only [Precedence.leftFirst, Bool.or_eq_true, decide_eq_true_eq, Bool.and_eq_true,
      beq_iff_eq, not_or, not_and] at h
    refine ⟨by omega, ?_⟩
    intro hp
    cases hp

variable {effect : Nat → σ → σ} {right : Feed σ (Nat × α)} {now : Nat}

/-- While a future is paused the second feed goes on; the ending of the future comes after
what is emitted by then. -/
theorem emits_mergePaused {due turn : Nat} {resume : Feed σ (Nat × α) → Feed σ (Nat × α)}
    (hresume : ∀ {right S}, Emits effect right due S →
      Emits effect (resume right) due (Inserted precedence ending S))
    (hdue : due ≤ ending.time) (h : Emits effect right now S) (hle : now ≤ due)
    (hlt : precedence = .input → now < due) :
    Emits effect (mergePaused precedence due turn resume right) now
      (Inserted precedence ending S) := by
  induction h with
  | ended none =>
    rw [mergePaused]
    exact .pause hle (hresume (.ended none))
  | emit still rest ih =>
    rw [mergePaused]
    refine .emit still ((ih hle hlt).mono ?_)
    intro later hins
    exact hins.cons (Nat.le_trans hle hdue) fun hp => Nat.lt_of_lt_of_le (hlt hp) hdue
  | finish rest ih =>
    rw [mergePaused]
    simp only [mergePaused]
    refine .finish ((ih hle hlt).mono ?_)
    intro later hins
    exact hins.cons (Nat.le_trans hle hdue) fun hp => Nat.lt_of_lt_of_le (hlt hp) hdue
  | look rest ih =>
    rw [mergePaused]
    exact .look fun clock state hnow => ih clock state hnow hle hlt
  | @pause now due' turn' next S later rest ih =>
    rw [mergePaused]
    by_cases hfirst : precedence.leftFirst due turn due' turn' = true
    · rw [if_pos hfirst]
      exact .pause hle (hresume (.pause (due_le_of_leftFirst hfirst) rest))
    · rw [if_neg hfirst]
      obtain ⟨hle', hlt'⟩ := due_le_of_not_leftFirst hfirst
      exact .pause later (ih hle' hlt')

/-- Merging a future with a feed inserts its ending. -/
theorem emits_merge {e : σ → σ} {place finish : Nat} {a : α} {p : Routine σ α}
    (hp : p.Ends e finish a now) (he : effect place = e) (h : Emits effect right now S) :
    Emits effect (merge precedence (ofRoutine place p) right) now
      (Inserted precedence ⟨finish, place, a⟩ S) := by
  subst he
  induction hp generalizing right S with
  | done still =>
    refine .emit still (h.from_now.mono ?_)
    rintro later ⟨hS, hle⟩
    exact ⟨[], later, hS, rfl, by simp, hle⟩
  | last =>
    refine .finish (h.from_now.mono ?_)
    rintro later ⟨hS, hle⟩
    exact ⟨[], later, hS, rfl, by simp, hle⟩
  | look ends ih =>
    rw [ofRoutine, merge]
    exact .look fun clock state hnow => ih clock state hnow h
  | pause later soon ends ih =>
    rw [ofRoutine, merge]
    exact emits_mergePaused ih soon h (Nat.le_of_lt later) fun _ => later

end Feed

/-! ## All futures of a list -/

namespace Future

variable {φ : Type}

/-- The endings of futures that stand in the input from the given place on. -/
def endingsFrom (start index : Nat) (futures : List (Future σ φ α)) :
    List (Feed.Ending (Except φ α)) :=
  (futures.zipIdx index).map fun e => ⟨start + e.1.duration, e.2, e.1.result⟩

/-- The effect of the future at a place of the input. -/
def effectAt (futures : List (Future σ φ α)) (place : Nat) : σ → σ :=
  match futures[place]? with
  | some future => future.effect
  | none => id

theorem mem_endingsFrom_zero {start : Nat} {futures : List (Future σ φ α)}
    {ending : Feed.Ending (Except φ α)} :
    ending ∈ endingsFrom start 0 futures ↔ ∃ future, futures[ending.place]? = some future ∧
      ending.time = start + future.duration ∧ ending.value = future.result := by
  obtain ⟨time, place, value⟩ := ending
  simp only [endingsFrom, List.mem_map, Prod.exists, List.mem_zipIdx_iff_getElem?,
    Feed.Ending.mk.injEq]
  constructor
  · rintro ⟨future, index, hget, rfl, rfl, rfl⟩
    exact ⟨future, hget, rfl, rfl⟩
  · rintro ⟨future, hget, rfl, rfl⟩
    exact ⟨future, place, hget, rfl, rfl, rfl⟩

end Future

namespace Feed

variable {φ : Type} {precedence : Precedence}

/-- One ending comes before another: it is earlier, or of the same time and, where the
input decides, earlier in the input. -/
def Before (precedence : Precedence) (a b : Ending α) : Prop :=
  a.time < b.time ∨ (a.time = b.time ∧ (precedence = .input → a.place < b.place))

theorem Before.time_le {a b : Ending α} (h : Before precedence a b) : a.time ≤ b.time := by
  rcases h with h | ⟨h, -⟩
  · omega
  · omega

/-- The endings up to one of a feed are no later than this one. -/
theorem time_le_of_mem {before after : List (Ending α)} {last : Ending α}
    (hpair : (before ++ last :: after).Pairwise (Before precedence)) {e : Ending α}
    (he : e ∈ before ++ [last]) : e ∈ before ++ last :: after ∧ e.time ≤ last.time := by
  rcases List.mem_append.mp he with he | he
  · have hcross := (List.pairwise_append.mp hpair).2.2 e he last (List.mem_cons_self ..)
    exact ⟨List.mem_append_left _ he, hcross.time_le⟩
  · obtain rfl := List.mem_singleton.mp he
    exact ⟨by simp, Nat.le_refl _⟩

/-- The merged feed of futures has the ending of each of them, one before the other. -/
theorem emits_mergeFrom {effect : Nat → σ → σ} (now index : Nat) (futures : List (Future σ φ α))
    (heffect : ∀ e ∈ futures.zipIdx index, effect e.2 = e.1.effect) :
    Emits effect (mergeFrom precedence index (futures.map Future.routine)) now fun endings =>
      endings.Perm (Future.endingsFrom now index futures) ∧
        endings.Pairwise (Before precedence) := by
  induction futures generalizing index with
  | nil => exact .ended ⟨List.Perm.refl _, List.Pairwise.nil⟩
  | cons future rest ih =>
    have hfirst : effect index = future.effect := heffect (future, index) (by simp)
    have hrest : ∀ e ∈ rest.zipIdx (index + 1), effect e.2 = e.1.effect := by
      intro e he
      exact heffect e (by simp [he])
    refine (emits_merge (future.ends now) hfirst (ih (index + 1) hrest)).mono ?_
    rintro endings ⟨before, after, ⟨hperm, hpair⟩, rfl, hbefore, hafter⟩
    refine ⟨List.perm_middle.trans (hperm.cons _), ?_⟩
    obtain ⟨hpb, hpa, hcross⟩ := List.pairwise_append.mp hpair
    have hplace : ∀ e ∈ after, index < e.place := by
      intro e he
      have hmem := hperm.mem_iff.mp (List.mem_append_right before he)
      obtain ⟨⟨f, i⟩, hi, rfl⟩ := List.mem_map.mp hmem
      exact List.le_snd_of_mem_zipIdx hi
    rw [List.pairwise_append, List.pairwise_cons]
    refine ⟨hpb, ⟨?_, hpa⟩, ?_⟩
    · intro e he
      rcases Nat.lt_or_eq_of_le (hafter e he) with hlt | heq
      · exact Or.inl hlt
      · exact Or.inr ⟨heq, fun _ => hplace e he⟩
    · intro a ha b hb
      rcases List.mem_cons.mp hb with rfl | hmem
      · obtain ⟨hle, hlt⟩ := hbefore a ha
        rcases Nat.lt_or_eq_of_le hle with h | h
        · exact Or.inl h
        · refine Or.inr ⟨h, fun hp => ?_⟩
          have := hlt hp
          omega
      · exact hcross a ha b hmem

/-- The feed of a fan-out has the ending of each future, one before the other. -/
theorem emits_ofRoutines (precedence : Precedence) (now : Nat) (futures : List (Future σ φ α)) :
    Emits (Future.effectAt futures) (ofRoutines precedence (futures.map Future.routine)) now
      fun endings => endings.Perm (Future.endingsFrom now 0 futures) ∧
        endings.Pairwise (Before precedence) := by
  refine emits_mergeFrom now 0 futures ?_
  rintro ⟨future, index⟩ he
  have hget : futures[index]? = some future := List.mem_zipIdx_iff_getElem?.mp he
  simp only [Future.effectAt, hget]

end Feed

end ActivityFlow
