/-!
# Routines in virtual time

A routine computes a value while it reads and changes a shared state and lets time pass.
Time stands still while a routine acts; it moves on only when the routine pauses. Every
routine ends: it is a tree of finite depth, whatever the state that it meets.
-/
namespace ActivityFlow

/-- The clock of a run: the milliseconds since its start, and how many actions were
performed. The second number orders pauses that were begun in the same millisecond. -/
structure Clock where
  now : Nat
  turn : Nat
deriving DecidableEq, Inhabited, Repr

/-- A routine over a state `σ` that ends with a value of type `α`. -/
inductive Routine (σ α : Type) : Type where
  | done (value : α)
  /-- Waits until `due`; the pause was begun at the given turn. -/
  | pause (due turn : Nat) (next : Routine σ α)
  /-- Changes the state and goes on, both according to the clock and the state before. -/
  | act (effect : Clock → σ → σ) (next : Clock → σ → Routine σ α)

/-- The end of a run. -/
structure Finish (σ α : Type) where
  value : α
  clock : Clock
  state : σ

namespace Routine

variable {σ τ α β : Type}

/-- Runs a routine alone from a time and a state. -/
def run : Routine σ α → Clock → σ → Finish σ α
  | done value, clock, state => ⟨value, clock, state⟩
  | pause due _ next, clock, state => next.run { clock with now := max clock.now due } state
  | act effect next, clock, state =>
    (next clock state).run { clock with turn := clock.turn + 1 } (effect clock state)

/-- Runs one routine after another. -/
def bind : Routine σ α → (α → Routine σ β) → Routine σ β
  | done value, f => f value
  | pause due turn next, f => pause due turn (next.bind f)
  | act effect next, f => act effect fun clock state => (next clock state).bind f

instance : Monad (Routine σ) where
  pure := done
  bind := bind

@[simp] theorem done_bind (value : α) (f : α → Routine σ β) : (done value).bind f = f value := rfl

/-- A routine followed by another runs the second from where the first ended. -/
theorem run_bind (p : Routine σ α) (f : α → Routine σ β) (clock : Clock) (state : σ) :
    (p.bind f).run clock state =
      (f (p.run clock state).value).run (p.run clock state).clock (p.run clock state).state := by
  induction p generalizing clock state with
  | done value => rfl
  | pause due turn next ih => exact ih _ _
  | act effect next ih => exact ih clock state _ _

/-- The grouping of successive routines does not matter. -/
theorem bind_assoc {γ : Type} (p : Routine σ α) (f : α → Routine σ β) (g : β → Routine σ γ) :
    (p.bind f).bind g = p.bind fun a => (f a).bind g := by
  induction p with
  | done value => rfl
  | pause due turn next ih => simp [bind, ih]
  | act effect next ih => simp [bind, ih]

def map (f : α → β) (p : Routine σ α) : Routine σ β := p.bind fun value => done (f value)

theorem run_map (f : α → β) (p : Routine σ α) (clock : Clock) (state : σ) :
    (p.map f).run clock state =
      ⟨f (p.run clock state).value, (p.run clock state).clock, (p.run clock state).state⟩ :=
  run_bind p _ clock state

/-- Reads and changes the state in one action. -/
def transact (f : Clock → σ → α × σ) : Routine σ α :=
  act (fun clock state => (f clock state).2) fun clock state => done (f clock state).1

@[simp] theorem run_transact (f : Clock → σ → α × σ) (clock : Clock) (state : σ) :
    (transact f).run clock state =
      ⟨(f clock state).1, ⟨clock.now, clock.turn + 1⟩, (f clock state).2⟩ := rfl

def modify (f : σ → σ) : Routine σ Unit := transact fun _ state => ((), f state)

@[simp] theorem run_modify (f : σ → σ) (clock : Clock) (state : σ) :
    (modify f).run clock state = ⟨(), ⟨clock.now, clock.turn + 1⟩, f state⟩ := rfl

/-- Lets a number of milliseconds pass. A sleep of no time does not pause. -/
def sleep (millis : Nat) : Routine σ Unit :=
  act (fun _ state => state) fun clock _ =>
    if millis = 0 then done () else pause (clock.now + millis) clock.turn (done ())

/-- A sleep takes exactly as long as it was asked to. -/
@[simp] theorem run_sleep (millis : Nat) (clock : Clock) (state : σ) :
    (sleep millis).run clock state = ⟨(), ⟨clock.now + millis, clock.turn + 1⟩, state⟩ := by
  by_cases h : millis = 0
  · simp [sleep, run, h]
  · simp [sleep, run, h]

/-- Cuts a routine off at a deadline that was set at the given turn. What is ready by the
deadline counts. -/
def cutOff (deadline turn now : Nat) : Routine σ α → Routine σ (Option α)
  | done value => done (some value)
  | pause due t next =>
    if due ≤ deadline then pause due t (next.cutOff deadline turn due)
    else if deadline ≤ now then done none
    else pause deadline turn (done none)
  | act effect next =>
    act effect fun clock state => (next clock state).cutOff deadline turn clock.now

/-- Gives a routine a number of milliseconds; it ends with nothing if it needs more. -/
def timeout (millis : Nat) (p : Routine σ α) : Routine σ (Option α) :=
  act (fun _ state => state) fun clock _ => p.cutOff (clock.now + millis) clock.turn clock.now

/-- Runs a routine on a part of a larger state. -/
def focus (get : τ → σ) (set : σ → τ → τ) : Routine σ α → Routine τ α
  | done value => done value
  | pause due turn next => pause due turn (next.focus get set)
  | act effect next =>
    act (fun clock whole => set (effect clock (get whole)) whole)
      fun clock whole => (next clock (get whole)).focus get set

end Routine

end ActivityFlow
