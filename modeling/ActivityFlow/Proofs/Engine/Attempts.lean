import ActivityFlow.Engine
import ActivityFlow.Proofs.Retry.Policy
import Mathlib.Algebra.Group.Nat.Defs
import Mathlib.Order.Bounds.Basic
import Mathlib.Data.Nat.Find

/-!
# The attempts of an invocation

A script says of each run of an activity how long it works and how it ends. An invocation
of a scripted activity makes exactly the attempts up to the first final one: nothing is
attempted after it, and no earlier attempt is skipped. The history of an invocation after
any number of retried attempts is known beforehand, which is the invariant of the loop.
-/
namespace ActivityFlow

namespace AttemptRecord

/-- The history of an invocation all of whose `n` attempts so far were retried. -/
def retried (activity : String) (n : Nat) : AttemptRecord :=
  ⟨activity, n, .pending :: (List.replicate n [.attempting, .retrying]).flatten⟩

/-- The history of an invocation whose attempt after `n` retried ones is under way. -/
def underway (activity : String) (n : Nat) : AttemptRecord :=
  ⟨activity, n + 1, (retried activity n).stages ++ [.attempting]⟩

theorem stages_retried_succ (activity : String) (n : Nat) :
    (retried activity (n + 1)).stages =
      (retried activity n).stages ++ [.attempting, .retrying] := by
  simp [retried, List.replicate_succ']

theorem allows_attempting_retried (activity : String) (n : Nat) :
    (retried activity n).stage.allows .attempting = true := by
  cases n with
  | zero => rfl
  | succ n =>
    have hs : (retried activity (n + 1)).stages =
        ((retried activity n).stages ++ [.attempting]) ++ [.retrying] := by
      simp [stages_retried_succ]
    have hr : (retried activity (n + 1)).stage = .retrying := by simp [stage, hs]
    rw [hr]
    rfl

/-- As long as attempts can be counted, the next one begins and gets the next number. -/
theorem start_retried (activity : String) (n : Nat) (h : n + 1 < words32) :
    (retried activity n).start = (underway activity n, .ok (n + 1)) := by
  have ha := allows_attempting_retried activity n
  have hn : (retried activity n).attempts = n := rfl
  simp only [start, advance, ha, if_true, hn, if_pos h]
  rfl

/-- An attempt that is under way may be retried, succeed or fail for good. -/
theorem enter_underway (activity : String) (n : Nat) {next : AttemptStage}
    (h : AttemptStage.attempting.allows next = true) :
    ((underway activity n).enter next).1 =
      ⟨activity, n + 1, (retried activity n).stages ++ [.attempting, next]⟩ := by
  have hs : (underway activity n).stage = .attempting := by simp [underway]
  rw [enter, advance, hs, if_pos h]
  simp [underway]

theorem enter_retrying_underway (activity : String) (n : Nat) :
    ((underway activity n).enter .retrying).1 = retried activity (n + 1) := by
  rw [enter_underway activity n rfl, ← stages_retried_succ]
  rfl

end AttemptRecord

/-- The stage that an invocation with the given outcome ends in. -/
def AttemptStage.closing : Outcome → AttemptStage
  | .ok _ => .succeeded
  | .error _ => .failedTerminal

/-! ## Scripts -/

/-- How many milliseconds a timer runs for a span: a started one counts as a whole one. -/
def Span.timerMillis (d : Span) : Nat := (d.nanoseconds + 999999) / 1000000

/-- One run of an activity: how many milliseconds it works, and how it ends. -/
structure Work where
  millis : Nat
  outcome : Outcome

/-- What the runs of an activity do, counted from one. -/
abbrev Script := Nat → Work

/-- A run that was begun: the call that it got, and the time. -/
structure Begun where
  call : Call
  time : Nat

namespace Script

/-- The activity that plays a script. Its world remembers the runs that were begun. -/
def activity (script : Script) : Activity (List Begun) := fun call =>
  (Routine.transact fun clock begun =>
    (begun.length + 1, begun ++ [⟨call, clock.now⟩])).bind fun run =>
      (Routine.sleep (script run).millis).map fun _ => (script run).outcome

variable (script : Script) (options : AttemptOptions)

/-- How an attempt ends: as the script says, unless the work takes longer than it may. Then the
failure tells the time in whole milliseconds, as far as 64 bits go. -/
def verdict (attempt : Nat) : Outcome :=
  if options.timeout.timerMillis < (script attempt).millis then
    .error (.timedOut (min (options.timeout.nanoseconds / 1000000) (2 ^ 64 - 1)))
  else (script attempt).outcome

/-- How many milliseconds an attempt lasts. -/
def lasting (attempt : Nat) : Nat := min (script attempt).millis options.timeout.timerMillis

/-- When an attempt begins if the first one begins at `start` and all before it are retried. -/
def beginsAt (start : Nat) : Nat → Nat
  | 0 | 1 => start
  | n + 2 =>
    beginsAt start (n + 1) + lasting script options (n + 1) +
      (options.retry.delayAfter (n + 1)).timerMillis

/-- Whether no attempt follows the given one: it succeeded, or failed with a final kind, or
is the last one allowed. -/
def IsFinal (attempt : Nat) : Prop :=
  (∃ value, script.verdict options attempt = .ok value) ∨
    (∃ diagnosis : Diagnosis, script.verdict options attempt = .error (.diagnosed diagnosis) ∧
      diagnosis.kind ∈ options.retry.finalKinds) ∨
    (0 < options.retry.maximumAttempts ∧ attempt = options.retry.maximumAttempts)

theorem not_isFinal_of_kind? {attempt : Nat} {failure : Failure}
    (hv : script.verdict options attempt = .error failure)
    (hk : ∀ kind, failure.kind? = some kind → kind ∉ options.retry.finalKinds)
    (hm : attempt ≠ options.retry.maximumAttempts) : ¬ script.IsFinal options attempt := by
  rintro (⟨value, hok⟩ | ⟨diagnosis, hfail, hfinal⟩ | ⟨-, hlast⟩)
  · simp [hv] at hok
  · obtain rfl : failure = .diagnosed diagnosis := by simpa [hv] using hfail
    exact hk diagnosis.kind rfl hfinal
  · exact hm hlast

theorem not_isFinal_of_kind?_eq_none {attempt : Nat} {failure : Failure}
    (hv : script.verdict options attempt = .error failure) (hk : failure.kind? = none)
    (hm : attempt ≠ options.retry.maximumAttempts) : ¬ script.IsFinal options attempt :=
  script.not_isFinal_of_kind? options hv (by simp [hk]) hm

/-- The number of the last attempt. Attempts are numbered from one by words of 32 bits. -/
def IsLast (k : Nat) : Prop := IsLeast {i | 1 ≤ i ∧ i < words32 ∧ script.IsFinal options i} k

/-- The runs that `n` attempts begin. -/
def begun (call : Call) (start n : Nat) : List Begun :=
  (List.range n).map fun i => ⟨call, script.beginsAt options start (i + 1)⟩

end Script

/-! ## One attempt -/

namespace Routine

variable {σ τ α β : Type}

theorem focus_bind (get : τ → σ) (set : σ → τ → τ) (p : Routine σ α) (f : α → Routine σ β) :
    (p.bind f).focus get set = (p.focus get set).bind fun a => (f a).focus get set := by
  induction p with
  | done value => rfl
  | pause due turn next ih => simp [bind, focus, ih]
  | act effect next ih => simp [bind, focus, ih]

/-- On a part of a larger state a routine runs as it does alone. -/
theorem run_focus (get : τ → σ) (set : σ → τ → τ) (hget : ∀ part whole, get (set part whole) = part)
    (hset : ∀ part other whole, set part (set other whole) = set part whole)
    (hself : ∀ whole, set (get whole) whole = whole) (p : Routine σ α) (clock : Clock) (whole : τ) :
    (p.focus get set).run clock whole =
      let finish := p.run clock (get whole)
      ⟨finish.value, finish.clock, set finish.state whole⟩ := by
  induction p generalizing clock whole with
  | done value => simp [focus, run, hself]
  | pause due turn next ih => exact ih _ whole
  | act effect next ih =>
    have hrest := ih clock (get whole) { clock with turn := clock.turn + 1 }
      (set (effect clock (get whole)) whole)
    simp only [hget, hset] at hrest
    exact hrest

theorem run_cutOff_sleep (millis : Nat) (a : α) {deadline turn : Nat} (now : Nat) {clock : Clock}
    (h : clock.now ≤ deadline) (state : σ) :
    (((sleep millis).map fun _ => a).cutOff deadline turn now).run clock state =
      ⟨if deadline < clock.now + millis then none else some a,
        ⟨min (clock.now + millis) deadline, clock.turn + 1⟩, state⟩ := by
  simp only [sleep, map, bind, cutOff, run]
  by_cases hz : millis = 0
  · simp [hz, h, cutOff, run]
  · by_cases hc : clock.now + millis ≤ deadline
    · simp [hz, hc, bind, cutOff, run]
    · by_cases hd : deadline ≤ clock.now
      · have he : deadline = clock.now := by omega
        have hn : ¬ clock.now + millis ≤ clock.now := by omega
        simp [he, hn, Nat.pos_of_ne_zero hz, bind, cutOff, run, hz]
      · have hm : min (clock.now + millis) deadline = deadline := by omega
        have hx : max clock.now deadline = deadline := by omega
        simp [hz, hc, hd, hm, hx, bind, cutOff, run]

/-- Time does not go back. -/
theorem now_le_run (p : Routine σ α) (clock : Clock) (state : σ) :
    clock.now ≤ (p.run clock state).clock.now := by
  induction p generalizing clock state with
  | done value => exact le_rfl
  | pause due turn next ih =>
    have hnext := ih { clock with now := max clock.now due } state
    exact le_trans (le_max_left _ _) hnext
  | act effect next ih => exact ih clock state { clock with turn := clock.turn + 1 } _

theorem run_cutOff_of_le (p : Routine σ α) {deadline : Nat} (turn now : Nat) {clock : Clock}
    {state : σ} (h : (p.run clock state).clock.now ≤ deadline) :
    (p.cutOff deadline turn now).run clock state =
      ⟨some (p.run clock state).value, (p.run clock state).clock, (p.run clock state).state⟩ := by
  induction p generalizing clock state now with
  | done value => rfl
  | pause due t next ih =>
    have hdue : due ≤ deadline := by
      have hnext := now_le_run next { clock with now := max clock.now due } state
      exact le_trans (le_trans (le_max_right _ _) hnext) h
    rw [cutOff, if_pos hdue]
    exact ih due h
  | act effect next ih => exact ih clock state clock.now h

/-- A routine that needs no more than its time is not touched by the limit. -/
theorem run_timeout_of_le {p : Routine σ α} {millis : Nat} {clock : Clock} {state : σ}
    (h : (p.run ⟨clock.now, clock.turn + 1⟩ state).clock.now ≤ clock.now + millis) :
    (timeout millis p).run clock state =
      let finish := p.run ⟨clock.now, clock.turn + 1⟩ state
      ⟨some finish.value, finish.clock, finish.state⟩ :=
  run_cutOff_of_le p clock.turn clock.now h

end Routine

namespace Engine

theorem run_inWorld {ω α : Type} (p : Routine ω α) (clock : Clock) (engine : Engine ω) :
    (inWorld p).run clock engine =
      let finish := p.run clock engine.world
      ⟨finish.value, finish.clock, { engine with world := finish.state }⟩ :=
  Routine.run_focus Engine.world (fun world (engine : Engine ω) => { engine with world })
    (fun _ _ => rfl) (fun _ _ _ => rfl) (fun _ => rfl) p clock engine

variable (script : Script) (options : AttemptOptions) (call : Call)

theorem inWorld_sleep {ω α : Type} (millis : Nat) (a : α) :
    inWorld (ω := ω) ((Routine.sleep millis).map fun _ => a) =
      (Routine.sleep millis).map fun _ => a := by
  by_cases hz : millis = 0
  · simp [inWorld, Routine.sleep, Routine.map, Routine.bind, Routine.focus, hz]
  · simp [inWorld, Routine.sleep, Routine.map, Routine.bind, Routine.focus, hz]

/-- The routine of one attempt takes the time that the attempt lasts, adds the run that was
begun to the world, and has no result exactly if the attempt was cut off. -/
theorem run_attempt (clock : Clock) (limit : Nat) (history : List AttemptRecord)
    (begun : List Begun) :
    (Routine.timeout options.timeout.ceilMillis (inWorld (script.activity call))).run clock
        ⟨limit, history, begun⟩ =
      ⟨if options.timeout.ceilMillis < (script (begun.length + 1)).millis then none
        else some (script (begun.length + 1)).outcome,
        ⟨clock.now + script.lasting options (begun.length + 1), clock.turn + 3⟩,
        ⟨limit, history, begun ++ [⟨call, clock.now⟩]⟩⟩ := by
  have hw : inWorld (script.activity call) =
      (inWorld (Routine.transact fun clock begun =>
        (begun.length + 1, begun ++ [⟨call, clock.now⟩]))).bind fun run =>
          (Routine.sleep (script run).millis).map fun _ => (script run).outcome := by
    simp only [Script.activity, inWorld, Routine.focus_bind]
    congr 1
    funext run
    exact inWorld_sleep _ _
  rw [hw]
  simp only [Routine.timeout, inWorld, Routine.transact, Routine.focus, Routine.bind,
    Routine.cutOff, Routine.run]
  rw [Routine.run_cutOff_sleep _ _ _ (by simp)]
  simp only [Script.lasting, Nat.add_lt_add_iff_left, Nat.add_min_add_left]
  rfl

/-- The result of an attempt, a missing one counting as overdue. -/
theorem getD_attempt (attempt : Nat) :
    (if options.timeout.ceilMillis < (script attempt).millis then none
      else some (script attempt).outcome).getD (.error (overdue options.timeout)) =
        script.verdict options attempt := by
  have hverdict : script.verdict options attempt =
      if options.timeout.ceilMillis < (script attempt).millis then .error (overdue options.timeout)
      else (script attempt).outcome := rfl
  rw [hverdict]
  split_ifs <;> rfl

/-- Concluding takes no time, keeps the history and ends with the outcome. -/
theorem run_conclude {ω : Type} (record : AttemptRecord) (last : AttemptStage) (outcome : Outcome)
    (clock : Clock) (engine : Engine ω) :
    (conclude record last outcome).run clock engine =
      ⟨outcome, ⟨clock.now, clock.turn + 1⟩, recordHistory (record.enter last).1 engine⟩ := by
  rw [conclude, Routine.run_map, Routine.run_modify]

/-! ## The loop -/

section Plays

variable {ω : Type} {work : Routine ω Outcome} {script : Script} {options : AttemptOptions}
variable {start turns : Nat} {world : Nat → ω}

/-- A routine plays a script: the attempt after `n` others, begun at its time, lasts as long as the
script says and comes out as it says. It finds the world as `world n` and leaves it as
`world (n + 1)`, and all attempts take the same number of turns. -/
def Plays (work : Routine ω Outcome) (script : Script) (options : AttemptOptions)
    (start turns : Nat) (world : Nat → ω) : Prop :=
  ∀ (n : Nat) (clock : Clock), clock.now = script.beginsAt options start (n + 1) →
    ∀ (limit : Nat) (history : List AttemptRecord),
      (Routine.timeout options.timeout.ceilMillis (inWorld work)).run clock
          ⟨limit, history, world n⟩ =
        ⟨if options.timeout.ceilMillis < (script (n + 1)).millis then none
          else some (script (n + 1)).outcome,
          ⟨clock.now + script.lasting options (n + 1), clock.turn + turns⟩,
          ⟨limit, history, world (n + 1)⟩⟩

variable (h : Plays work script options start turns world) (activity : String)
variable (limit : Nat) (history : List AttemptRecord)
include h

/-- After `n` retried attempts the next attempt is made. A success ends the invocation, and a
failure is followed by the next attempt as the policy says. -/
theorem Plays.run_next {clock : Clock} {n : Nat} (remaining : Nat) (hn : n + 1 < words32)
    (hnow : clock.now = script.beginsAt options start (n + 1)) :
    (attemptFrom work options (remaining + 1) (AttemptRecord.retried activity n)).run clock
        ⟨limit, history, world n⟩ =
      (match script.verdict options (n + 1) with
      | .ok value => conclude (.underway activity n) .succeeded (.ok value)
      | .error failure =>
        if options.retry.retries failure (n + 1) then
          (Routine.sleep (options.retry.delayAfter (n + 1)).ceilMillis).bind fun _ =>
            attemptFrom work options remaining (AttemptRecord.retried activity (n + 1))
        else conclude (.underway activity n) .failedTerminal (.error failure)).run
        ⟨clock.now + script.lasting options (n + 1), clock.turn + turns⟩
        ⟨limit, history, world (n + 1)⟩ := by
  rw [attemptFrom, AttemptRecord.start_retried _ _ hn]
  cases hverdict : script.verdict options (n + 1) with
  | ok value =>
    simp only [Routine.run_bind, h n clock hnow, getD_attempt, hverdict]
  | error failure =>
    simp only [Routine.run_bind, h n clock hnow, getD_attempt, hverdict,
      AttemptRecord.enter_retrying_underway]

/-- An attempt that is not final is followed by the next one after the delay. -/
theorem Plays.run_next_of_not_final {clock : Clock} {n : Nat} (remaining : Nat)
    (hn : n + 1 < words32) (hnow : clock.now = script.beginsAt options start (n + 1))
    (hf : ¬ script.IsFinal options (n + 1))
    (hm : options.retry.maximumAttempts = 0 ∨ n < options.retry.maximumAttempts) :
    (attemptFrom work options (remaining + 1) (AttemptRecord.retried activity n)).run clock
        ⟨limit, history, world n⟩ =
      (attemptFrom work options remaining (AttemptRecord.retried activity (n + 1))).run
        ⟨clock.now + script.lasting options (n + 1) +
          (options.retry.delayAfter (n + 1)).ceilMillis, clock.turn + turns + 1⟩
        ⟨limit, history, world (n + 1)⟩ := by
  simp only [Script.IsFinal, not_or, not_exists, not_and] at hf
  obtain ⟨hok, hkind, hlast⟩ := hf
  rw [h.run_next activity limit history remaining hn hnow]
  cases hv : script.verdict options (n + 1) with
  | ok value => exact absurd hv (hok value)
  | error failure =>
    have hr : options.retry.retries failure (n + 1) = true := by
      rw [RetryPolicy.retries_iff]
      refine ⟨fun diagnosis hd => hkind diagnosis (hd ▸ hv), ?_⟩
      by_cases hz : options.retry.maximumAttempts = 0
      · exact Or.inl hz
      · have := hlast (Nat.pos_of_ne_zero hz)
        omega
    simp only [if_pos hr, Routine.run_bind, Routine.run_sleep]

/-- A final attempt ends the invocation with its outcome, and its history is kept. -/
theorem Plays.run_next_of_final {clock : Clock} {n : Nat} (remaining : Nat)
    (hn : n + 1 < words32) (hnow : clock.now = script.beginsAt options start (n + 1))
    (hf : script.IsFinal options (n + 1)) :
    (attemptFrom work options (remaining + 1) (AttemptRecord.retried activity n)).run clock
        ⟨limit, history, world n⟩ =
      ⟨script.verdict options (n + 1),
        ⟨clock.now + script.lasting options (n + 1), clock.turn + turns + 1⟩,
        ⟨limit, keepLast limit history ⟨activity, n + 1,
            (AttemptRecord.retried activity n).stages ++
              [.attempting, .closing (script.verdict options (n + 1))]⟩, world (n + 1)⟩⟩ := by
  rw [h.run_next activity limit history remaining hn hnow]
  cases hv : script.verdict options (n + 1) with
  | ok value =>
    dsimp only
    rw [run_conclude, AttemptRecord.enter_underway _ _ (by rfl)]
    rfl
  | error failure =>
    have hr : ¬ options.retry.retries failure (n + 1) = true := by
      rw [RetryPolicy.retries_iff]
      rintro ⟨hkinds, hleft⟩
      rcases hf with ⟨value, hok⟩ | ⟨diagnosis, hfail, hmem⟩ | ⟨hpos, hlast⟩
      · simp [hv] at hok
      · obtain rfl : failure = .diagnosed diagnosis := by simpa [hv] using hfail
        exact hkinds diagnosis rfl hmem
      · omega
    dsimp only
    rw [if_neg hr, run_conclude, AttemptRecord.enter_underway _ _ (by rfl)]
    rfl

/-- Attempts that are not final are all retried: after `n` of them the invocation stands
where its next attempt begins. -/
theorem Plays.run_fresh {clock : Clock} (hnow : clock.now = start) (n remaining : Nat)
    (hn : n < words32) (hf : ∀ i, 1 ≤ i → i ≤ n → ¬ script.IsFinal options i) :
    (attemptFrom work options (remaining + n) (.fresh activity)).run clock
        ⟨limit, history, world 0⟩ =
      (attemptFrom work options remaining (AttemptRecord.retried activity n)).run
        ⟨script.beginsAt options start (n + 1), clock.turn + (turns + 1) * n⟩
        ⟨limit, history, world n⟩ := by
  induction n generalizing remaining with
  | zero =>
    rw [← show clock.now = script.beginsAt options start 1 from hnow]
    rfl
  | succ n ih =>
    -- The last attempt allowed is final, so it still lies ahead.
    have hm : options.retry.maximumAttempts = 0 ∨ n < options.retry.maximumAttempts := by
      by_contra hc
      have hmax := hf options.retry.maximumAttempts (by omega) (by omega)
      exact hmax (Or.inr (Or.inr ⟨by omega, rfl⟩))
    have hstep := ih (remaining + 1) (by omega) (fun i h1 h2 => hf i h1 (by omega))
    have hturn : clock.turn + (turns + 1) * n + turns + 1 =
        clock.turn + (turns + 1) * (n + 1) := by
      rw [Nat.mul_succ]
      omega
    rw [show remaining + (n + 1) = remaining + 1 + n by omega, hstep,
      h.run_next_of_not_final activity limit history remaining hn rfl
        (hf (n + 1) (by omega) le_rfl) hm, hturn]
    rfl

/-- The whole run of an invocation whose last attempt has the number `n + 1`. -/
theorem Plays.run_of_isLast {clock : Clock} (hnow : clock.now = start) {n : Nat}
    (hlast : script.IsLast options (n + 1)) :
    (attemptFrom work options (words32 - 1) (.fresh activity)).run clock
        ⟨limit, history, world 0⟩ =
      ⟨script.verdict options (n + 1),
        ⟨script.beginsAt options start (n + 1) + script.lasting options (n + 1),
          clock.turn + (turns + 1) * n + (turns + 1)⟩,
        ⟨limit, keepLast limit history ⟨activity, n + 1,
            (AttemptRecord.retried activity n).stages ++
              [.attempting, .closing (script.verdict options (n + 1))]⟩, world (n + 1)⟩⟩ := by
  obtain ⟨⟨-, hw, hfinal⟩, hleast⟩ := hlast
  have hearlier : ∀ i, 1 ≤ i → i ≤ n → ¬ script.IsFinal options i := by
    intro i h1 h2 hi
    have := hleast ⟨h1, by omega, hi⟩
    omega
  have hcount : words32 - 1 = (words32 - 1 - (n + 1)) + 1 + n := by omega
  rw [hcount, h.run_fresh activity limit history hnow n _ (by omega) hearlier,
    h.run_next_of_final activity limit history _ hw rfl hfinal]
  rfl

end Plays

/-- A call that is answered at once is attempted once, unless the answer is a failure that is
retried. -/
theorem run_invoke_of_done {ω : Type} {activity : Activity ω} {call : Call} {outcome : Outcome}
    (h : activity call = .done outcome) {options : AttemptOptions}
    (hfinal : ∀ failure, outcome = .error failure → options.retry.retries failure 1 = false)
    (clock : Clock) (engine : Engine ω) :
    (invoke activity call options).run clock engine =
      ⟨outcome, ⟨clock.now, clock.turn + 2⟩,
        recordHistory ⟨call.activity, 1, [.pending, .attempting, .closing outcome]⟩ engine⟩ := by
  have hattempt : (Routine.timeout options.timeout.ceilMillis
      (inWorld (activity call) : Routine (Engine ω) Outcome)).run clock engine =
        ⟨some outcome, ⟨clock.now, clock.turn + 1⟩, engine⟩ := by
    rw [h]
    rfl
  have hcount : words32 - 1 = words32 - 2 + 1 := rfl
  have hfresh : AttemptRecord.fresh call.activity = .retried call.activity 0 := rfl
  rw [invoke, hcount, hfresh, attemptFrom, AttemptRecord.start_retried _ _ (by decide)]
  simp only [Routine.run_bind, hattempt, Option.getD_some, Nat.zero_add]
  cases houtcome : outcome with
  | ok value =>
    dsimp only
    rw [run_conclude, AttemptRecord.enter_underway _ _ rfl]
    rfl
  | error failure =>
    dsimp only
    rw [hfinal failure houtcome, if_neg (by simp), run_conclude,
      AttemptRecord.enter_underway _ _ rfl]
    rfl

variable (limit : Nat) (history : List AttemptRecord)

/-- The activity that plays a script does so from any time on. -/
theorem plays_activity (start : Nat) :
    Plays (script.activity call) script options start 3 (script.begun options call start) := by
  intro n clock hnow limit history
  have hlen : (script.begun options call start n).length = n := by simp [Script.begun]
  have hnext : script.begun options call start (n + 1) =
      script.begun options call start n ++ [⟨call, clock.now⟩] := by
    simp [Script.begun, List.range_succ, hnow]
  rw [run_attempt, hlen, hnext]

/-- If attempts are bounded there is a last one, within the bound. -/
theorem exists_isLast_le (hpos : 0 < options.retry.maximumAttempts)
    (hmax : options.retry.maximumAttempts < words32) :
    ∃ k ≤ options.retry.maximumAttempts, script.IsLast options k := by
  classical
  have hbound : options.retry.maximumAttempts ∈
      {i | 1 ≤ i ∧ i < words32 ∧ script.IsFinal options i} :=
    ⟨hpos, hmax, Or.inr (Or.inr ⟨hpos, rfl⟩)⟩
  have hne : ∃ i, i ∈ {i | 1 ≤ i ∧ i < words32 ∧ script.IsFinal options i} := ⟨_, hbound⟩
  exact ⟨Nat.find hne, Nat.find_min' hne hbound, Nat.find_spec hne,
    fun i hi => Nat.find_min' hne hi⟩

theorem run_invoke_of_isLast (clock : Clock) (n : Nat) (h : script.IsLast options (n + 1)) :
    (invoke script.activity call options).run clock ⟨limit, history, []⟩ =
      ⟨script.verdict options (n + 1),
        ⟨script.beginsAt options clock.now (n + 1) + script.lasting options (n + 1),
          clock.turn + 4 * n + 4⟩,
        ⟨limit, keepLast limit history ⟨call.activity, n + 1,
            (AttemptRecord.retried call.activity n).stages ++
              [.attempting, .closing (script.verdict options (n + 1))]⟩,
          script.begun options call clock.now (n + 1)⟩⟩ :=
  (plays_activity script options call clock.now).run_of_isLast call.activity limit history rfl h

/-- An invocation makes exactly the attempts up to the first final one, each with the same
call and each beginning when the delay after the one before is over. It ends when that
attempt ends and with its outcome, and its history tells of every attempt; it is kept behind
the last ones before it, unless none are kept. If attempts are bounded, so is their number. -/
theorem run_invoke_scripted (clock : Clock) :
    (∀ k, script.IsLast options k →
      let finish := (invoke script.activity call options).run clock ⟨limit, history, []⟩
      finish.value = script.verdict options k ∧
      finish.clock.now = script.beginsAt options clock.now k + script.lasting options k ∧
      finish.state.world =
        (List.range k).map (fun i => ⟨call, script.beginsAt options clock.now (i + 1)⟩) ∧
      finish.state.history = if limit = 0 then history else
        history.drop (history.length + 1 - limit) ++ [⟨call.activity, k,
          .pending :: (List.replicate (k - 1) [.attempting, .retrying]).flatten ++
            [.attempting, .closing (script.verdict options k)]⟩]) ∧
    (0 < options.retry.maximumAttempts → options.retry.maximumAttempts < words32 →
      ∃ k ≤ options.retry.maximumAttempts, script.IsLast options k) := by
  refine ⟨?_, exists_isLast_le script options⟩
  intro k hk
  have hpos : 1 ≤ k := hk.1.1
  obtain ⟨n, rfl⟩ : ∃ n, k = n + 1 := ⟨k - 1, by omega⟩
  rw [run_invoke_of_isLast script options call limit history clock n hk]
  exact ⟨rfl, rfl, rfl, rfl⟩

/-- Three attempts of ten allowed: the first runs out of time, the second fails without a
diagnosis, and the third succeeds in the very millisecond in which its time is over. Of another
policy's two attempts, which have one and a half milliseconds each, the first fails in the second
millisecond, and the last one is cut off at its end. -/
theorem run_invoke_third_succeeds :
    let script : Script := fun i =>
      if i = 1 then ⟨1500, .ok .null⟩
      else if i = 2 then ⟨10, .error (.undiagnosed "connection reset")⟩
      else ⟨1000, .ok (.int 3)⟩
    let options : AttemptOptions := ⟨.seconds 1, .standard⟩
    let slow : Script := fun i =>
      if i = 1 then ⟨2, .error (.undiagnosed "connection reset")⟩ else ⟨3, .ok .null⟩
    let brief : AttemptOptions :=
      ⟨⟨1500000, by decide⟩, { RetryPolicy.standard with maximumAttempts := 2 }⟩
    let call : Call := ⟨default, "ingest", "extract_text", []⟩
    let finish := (invoke script.activity call options).run ⟨0, 0⟩ ⟨256, [], []⟩
    let cut := (invoke slow.activity call brief).run ⟨0, 0⟩ ⟨256, [], []⟩
    ((∃ k ≤ 10, script.IsLast options k) ∧ script.IsLast options 3 ∧
      finish.value = .ok (.int 3) ∧ finish.clock.now = 5010 ∧
      finish.state.world = [⟨call, 0⟩, ⟨call, 2000⟩, ⟨call, 4010⟩] ∧
      finish.state.history = [⟨"extract_text", 3,
        [.pending, .attempting, .retrying, .attempting, .retrying, .attempting, .succeeded]⟩]) ∧
    slow.IsLast brief 2 ∧ cut.value = .error (.timedOut 1) ∧ cut.clock.now = 1004 ∧
      cut.state.world = [⟨call, 0⟩, ⟨call, 1002⟩] ∧
      cut.state.history = [⟨"extract_text", 2,
        [.pending, .attempting, .retrying, .attempting, .failedTerminal]⟩] := by
  intro script options slow brief call finish cut
  refine ⟨?_, ?_⟩
  · have hfirst : script.verdict options 1 = .error (.timedOut 1000) := by decide +kernel
    have hsecond : script.verdict options 2 = .error (.undiagnosed "connection reset") := by
      decide +kernel
    have hthird : script.verdict options 3 = .ok (.int 3) := by decide +kernel
    have hlast : script.IsLast options 3 := by
      refine ⟨⟨by decide, by decide, Or.inl ⟨_, hthird⟩⟩, ?_⟩
      rintro i ⟨h1, -, hi⟩
      by_contra hlt
      obtain rfl | rfl : i = 1 ∨ i = 2 := by omega
      · exact script.not_isFinal_of_kind?_eq_none options hfirst rfl (by decide) hi
      · exact script.not_isFinal_of_kind?_eq_none options hsecond rfl (by decide) hi
    obtain ⟨hmade, hbounded⟩ := run_invoke_scripted script options call 256 [] ⟨0, 0⟩
    obtain ⟨hvalue, htime, hworld, hhistory⟩ := hmade 3 hlast
    have htwo : script.beginsAt options 0 2 = 2000 := by decide +kernel
    have hthree : script.beginsAt options 0 3 = 4010 := by decide +kernel
    refine ⟨hbounded (by decide) (by decide), hlast, hvalue.trans hthird,
      htime.trans (by decide +kernel), ?_, ?_⟩
    · rw [← htwo, ← hthree]
      exact hworld
    · rw [hhistory, hthird]
      rfl
  · have hfirst : slow.verdict brief 1 = .error (.undiagnosed "connection reset") := by
      decide +kernel
    have hsecond : slow.verdict brief 2 = .error (.timedOut 1) := by decide +kernel
    have hlast : slow.IsLast brief 2 := by
      refine ⟨⟨by decide, by decide, .inr (.inr ⟨by decide, rfl⟩)⟩, ?_⟩
      rintro i ⟨h1, -, hi⟩
      by_contra hlt
      obtain rfl : i = 1 := by omega
      exact slow.not_isFinal_of_kind?_eq_none brief hfirst rfl (by decide) hi
    obtain ⟨hmade, -⟩ := run_invoke_scripted slow brief call 256 [] ⟨0, 0⟩
    obtain ⟨hvalue, htime, hworld, hhistory⟩ := hmade 2 hlast
    have htwo : slow.beginsAt brief 0 2 = 1002 := by decide +kernel
    refine ⟨hlast, hvalue.trans hsecond, htime.trans (by decide +kernel), ?_, ?_⟩
    · rw [← htwo]
      exact hworld
    · rw [hhistory, hsecond]
      rfl

end Engine

end ActivityFlow
