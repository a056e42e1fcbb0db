import ActivityFlow.Proofs.Workflow.Attempts

/-!
# Workflows in two parts

The run of a workflow is the run of its first steps, and then the run of the other ones with the
variables that the first ones left. If the first part fails, the second one does nothing. The
two parts may be any first and any last steps of the workflow, so that in a run as a whole the
attempts of a step come before those of the next one.
-/
namespace ActivityFlow

variable {ω σ : Type}

/-- The attempts that have been noted by the end of a run. -/
def Finish.attempts {α : Type} (finish : Finish (Ledger ω) α) : List Attempt :=
  attemptsIn finish.state.log

namespace Workflow

def withSteps (w : Workflow) (steps : List Step) : Workflow := { w with steps }

/-- The run of a workflow on a ledger of the given world. -/
def noted (w : Workflow) (bindings : Bindings ω) (payload : Payload) (clock : Clock) (world : ω) :
    Finish (Ledger ω) (Except RunFailure RunOutcome) :=
  ((w.program bindings payload).on (Ledger.platform 0) []).run clock (Ledger.start world)

/-- The attempts of a run, in order. -/
def attempts (w : Workflow) (bindings : Bindings ω) (payload : Payload) (clock : Clock)
    (world : ω) : List Attempt :=
  (w.noted bindings payload clock world).attempts

section Noted

variable (w : Workflow) (bindings : Bindings ω) (payload : Payload)

/-- A run on an engine and a noted run are alike, and the noted run writes a log of the
program. -/
theorem noted_spec (clock : Clock) (engine : Engine ω) :
    let finish := (w.run bindings payload).run clock engine
    let noted := w.noted bindings payload clock engine.world
    finish.value = noted.value ∧ finish.clock = noted.clock ∧
      finish.state.world = noted.state.world ∧
      (w.program bindings payload).Logs [] noted.state.log (some noted.value) := by
  intro finish noted
  have hstep := inStep_programFrom bindings w.name payload Engine.tracks_sameWorld 0 []
    (w.startVars payload) [] w.steps
  obtain ⟨hvalue, hclock, hworld, entries, hlog, hlogs⟩ :=
    hstep.run clock (s := engine) (t := Ledger.start engine.world) rfl
  rw [← program, on_program_engine] at hvalue hclock hworld
  obtain rfl : noted.state.log = entries := hlog
  exact ⟨hvalue, hclock, hworld, hlogs⟩

/-- The attempts of a run are made at its steps, in their order. -/
theorem attempts_in_turn (clock : Clock) (world : ω) :
    ((w.attempts bindings payload clock world).Pairwise fun attempt later =>
      attempt.step ≤ later.step) ∧
    ∀ attempt ∈ w.attempts bindings payload clock world, ∃ step,
      w.steps[attempt.step]? = some step ∧
        attempt.call.workflow = w.name ∧ attempt.call.activity = step.activity := by
  obtain ⟨-, -, -, hlogs⟩ := w.noted_spec bindings payload clock (Engine.start 0 world)
  have hsteps := step_of_logs hlogs
  constructor
  · refine hlogs.orderly.pairwise_attempts fun e he => ?_
    obtain ⟨index, step, -, hsite, -⟩ := hsteps e he
    exact ⟨index, by rw [hsite, List.append_nil]⟩
  · intro attempt hattempt
    obtain ⟨e, he, heq⟩ := List.mem_filterMap.mp hattempt
    obtain ⟨index, step, hstep, hsite, hcall⟩ := hsteps e he
    refine ⟨step, ?_, hcall attempt heq⟩
    rw [Event.step_of_attempt heq, hsite, List.append_nil, List.length_replicate]
    exact hstep

theorem step_lt_of_mem_attempts {clock : Clock} {world : ω} {attempt : Attempt}
    (h : attempt ∈ w.attempts bindings payload clock world) : attempt.step < w.steps.length := by
  obtain ⟨step, hstep, -⟩ := (w.attempts_in_turn bindings payload clock world).2 attempt h
  exact (List.getElem?_eq_some_iff.mp hstep).1

theorem ended_run (hvars : Fields.Ascending w.vars)
    (hbound : ∀ step ∈ w.steps, bindings.contains step.activity = true) (clock : Clock)
    (engine : Engine ω) :
    Ended w.name w.vars 0 w.steps ((w.run bindings payload).run clock engine).value := by
  rw [← on_program_engine bindings payload w []]
  exact ended_programFrom w.name payload Engine.platform [] hbound
    (hvars.insertAll payload.vars) (Fields.covers_insertAll w.vars payload.vars) [] clock engine

end Noted

/-! ## Two parts -/

section Parts

variable {w : Workflow} {bindings : Bindings ω} {payload : Payload} {first second : List Step}

/-- On every platform a workflow runs as its first part and, if this has succeeded, then as its
second part. -/
theorem run_on_append (hsteps : w.steps = first ++ second) (hvars : Fields.Ascending w.vars)
    (hbound : ∀ step ∈ first, bindings.contains step.activity = true) (platform : Platform ω σ)
    (clock : Clock) (state : σ) :
    let whole := ((w.program bindings payload).on platform []).run clock state
    let begun := (((w.withSteps first).program bindings payload).on platform []).run clock state
    (∀ e, begun.value = .error e → whole = begun) ∧
    ∀ front, begun.value = .ok front →
      let rest := (((w.withSteps second).program bindings (payload.withVars front.vars)).on platform
        (List.replicate first.length .next)).run begun.clock begun.state
      front.steps.length = first.length ∧ front.result = StepRecord.lastOutput front.steps ∧
        whole = ⟨endBehind front.steps rest.value, rest.clock, rest.state⟩ := by
  intro whole begun
  obtain ⟨hfail, hok⟩ := run_programFrom_append bindings w.name payload platform []
    (w.startVars payload) [] first second clock state
  rw [← hsteps] at hfail hok
  have hended : Ended w.name w.vars 0 first begun.value :=
    ended_programFrom w.name payload platform [] hbound (hvars.insertAll payload.vars)
      (Fields.covers_insertAll w.vars payload.vars) [] clock state
  constructor
  · intro e he
    have hwhole : whole = ⟨.error e, begun.clock, begun.state⟩ := hfail e he
    rw [hwhole, ← he]
  · intro front hfront rest
    rw [hfront] at hended
    cases hended with
    | ok name result length ascending covers =>
      -- What the payload's variables lie over is covered by them, so nothing of it is left.
      have hstart : (w.withSteps second).startVars (payload.withVars front.vars) = front.vars :=
        Fields.insertAll_eq_upper hvars ascending covers
      have hrest : rest = ((programFrom bindings w.name payload front.vars [] second).on platform
          (List.replicate first.length .next)).run begun.clock begun.state := by
        simp only [rest, program, hstart, programFrom_withVars]
        rfl
      have hbehind := on_programFrom_behind bindings w.name payload platform
        (List.replicate first.length .next) front.vars front.steps [] second
      rw [List.map_nil, List.append_nil] at hbehind
      refine ⟨by simpa using length, result, ?_⟩
      have hwhole : whole = ((programFrom bindings w.name payload front.vars front.steps second).on
          platform (List.replicate first.length .next ++ [])).run begun.clock begun.state :=
        hok front hfront
      rw [hwhole, hrest, List.append_nil, hbehind, Routine.run_map]

/-- A workflow attempts what its first part attempts, and then what its second part attempts if
the first one has succeeded. -/
theorem attempts_append (hsteps : w.steps = first ++ second) (hvars : Fields.Ascending w.vars)
    (hbound : ∀ step ∈ first, bindings.contains step.activity = true) (clock : Clock)
    (engine : Engine ω) :
    let begun := ((w.withSteps first).run bindings payload).run clock engine
    let attempts := w.attempts bindings payload clock engine.world
    let attemptsBegun := (w.withSteps first).attempts bindings payload clock engine.world
    (∀ e, begun.value = .error e → attempts = attemptsBegun) ∧
    ∀ front, begun.value = .ok front →
      attempts = attemptsBegun ++ ((w.withSteps second).attempts bindings
        (payload.withVars front.vars) begun.clock begun.state.world).map
          (Attempt.behind first.length) := by
  intro begun attempts attemptsBegun
  let notedFirst := (w.withSteps first).noted bindings payload clock engine.world
  obtain ⟨hvalue, hclock, hworld, -⟩ := (w.withSteps first).noted_spec bindings payload clock engine
  obtain ⟨hfail, hok⟩ := run_on_append hsteps hvars hbound (Ledger.platform 0) clock
    (Ledger.start engine.world)
  constructor
  · intro e he
    have hwhole := hfail e (hvalue.symm.trans he)
    exact congrArg Finish.attempts hwhole
  · intro front hfront
    obtain ⟨-, -, hwhole⟩ := hok front (hvalue.symm.trans hfront)
    have hfollows : Ledger.Follows first.length attemptsBegun (Ledger.start begun.state.world)
        notedFirst.state :=
      ⟨hworld, (List.append_nil attemptsBegun).symm⟩
    have halike : Routine.Alike (Ledger.Follows first.length attemptsBegun)
        (((w.withSteps second).program bindings (payload.withVars front.vars)).on
          (Ledger.platform 0) [])
        (((w.withSteps second).program bindings (payload.withVars front.vars)).on
          (Ledger.platform 0) (List.replicate first.length .next)) :=
      alike_programFrom _ _ _ 0 (by simp) _ _ _
    obtain ⟨-, -, hstate⟩ := halike.run notedFirst.clock hfollows
    have hclock' : begun.clock = notedFirst.clock := hclock
    refine (congrArg Finish.attempts hwhole).trans (hstate.attempts.trans ?_)
    rw [hclock']
    rfl

/-- A workflow in two parts. If the run of the first part fails, the run of the whole ends as
this one does, with the same failure of the same step, and attempts nothing else. If the first
part succeeds, the run of the whole goes on as the run of the second part with the variables that
the first one left. It attempts what both attempt, one after the other, and ends when the second
one ends, with the same world. If the second part succeeds, the whole ends with its variables,
the records of both and the result of the second part, or of the first one if the second has no
steps; if the second part fails, the whole fails with it. Of steps and records of the second part
the numbers are larger by the length of the first part. In the whole run no attempt comes before
one at an earlier step. The attempts are noted by the run on a ledger, which takes the same
course. -/
theorem run_append (w : Workflow) (bindings : Bindings ω) (payload : Payload)
    (hsteps : w.steps = first ++ second) (hvars : Fields.Ascending w.vars)
    (hbound : ∀ step ∈ w.steps, bindings.contains step.activity = true)
    (clock : Clock) (engine : Engine ω) :
    let whole := (w.run bindings payload).run clock engine
    let begun := ((w.withSteps first).run bindings payload).run clock engine
    let attempts := w.attempts bindings payload clock engine.world
    let attemptsBegun := (w.withSteps first).attempts bindings payload clock engine.world
    let noted := w.noted bindings payload clock engine.world
    (whole.value = noted.value ∧ whole.clock = noted.clock ∧
      whole.state.world = noted.state.world ∧ attempts = noted.attempts) ∧
    (∀ e, begun.value = .error e →
      whole = begun ∧ attempts = attemptsBegun ∧
        (∃ (index : Nat) (step : Step) (failure : Failure), first[index]? = some step ∧
          e = .activity w.name index step.activity failure) ∧
        ∀ attempt ∈ attempts, attempt.step < first.length) ∧
    (∀ front, begun.value = .ok front →
      let others := payload.withVars front.vars
      let rest := ((w.withSteps second).run bindings others).run begun.clock begun.state
      whole.clock = rest.clock ∧ whole.state = rest.state ∧
        attempts = attemptsBegun ++ ((w.withSteps second).attempts bindings others begun.clock
          begun.state.world).map (Attempt.behind first.length) ∧
        (∀ back, rest.value = .ok back → ∃ outcome, whole.value = .ok outcome ∧
          outcome.workflow = w.name ∧ outcome.vars = back.vars ∧
          outcome.steps = front.steps ++ back.steps.map (StepRecord.behind first.length) ∧
          outcome.result = if second = [] then front.result else back.result) ∧
        ∀ e, rest.value = .error e → ∃ (index : Nat) (step : Step) (failure : Failure),
          second[index]? = some step ∧ e = .activity w.name index step.activity failure ∧
          whole.value = .error (.activity w.name (first.length + index) step.activity failure)) ∧
    (attempts.Pairwise fun attempt later => attempt.step ≤ later.step) ∧
    ∀ attempt ∈ attempts, ∃ step, w.steps[attempt.step]? = some step ∧
      attempt.call.workflow = w.name ∧ attempt.call.activity = step.activity := by
  intro whole begun attempts attemptsBegun noted
  obtain ⟨hvalue, hclock, hworld, -⟩ := w.noted_spec bindings payload clock engine
  have hfirst : ∀ step ∈ first, bindings.contains step.activity = true := fun step hstep =>
    hbound step (by rw [hsteps]; exact List.mem_append_left _ hstep)
  have hsecond : ∀ step ∈ second, bindings.contains step.activity = true := fun step hstep =>
    hbound step (by rw [hsteps]; exact List.mem_append_right _ hstep)
  obtain ⟨hfail, hok⟩ := run_on_append hsteps hvars hfirst Engine.platform clock engine
  obtain ⟨hattemptsFail, hattemptsOk⟩ := attempts_append hsteps hvars hfirst clock engine
  simp only [on_program_engine] at hfail hok
  refine ⟨⟨hvalue, hclock, hworld, rfl⟩, ?_, ?_,
    w.attempts_in_turn bindings payload clock engine.world⟩
  · intro e he
    have hattempts : attempts = attemptsBegun := hattemptsFail e he
    have hended : Ended w.name w.vars 0 first begun.value :=
      (w.withSteps first).ended_run bindings payload hvars hfirst clock engine
    rw [he] at hended
    obtain ⟨index, step, failure, hat, hfailed⟩ := hended.exists_failed
    rw [Nat.zero_add] at hfailed
    refine ⟨hfail e he, hattempts, ⟨index, step, failure, hat, hfailed⟩, ?_⟩
    rw [hattempts]
    exact fun attempt => (w.withSteps first).step_lt_of_mem_attempts bindings payload
  · intro front hfront others rest
    obtain ⟨hlength, hlast, hfinish⟩ := hok front hfront
    have hwhole : whole = ⟨endBehind front.steps rest.value, rest.clock, rest.state⟩ := hfinish
    have hended : Ended w.name w.vars 0 second rest.value :=
      (w.withSteps second).ended_run bindings others hvars hsecond begun.clock begun.state
    rw [hwhole]
    refine ⟨rfl, rfl, hattemptsOk front hfront, ?_, ?_⟩
    · intro back hback
      rw [hback] at hended
      obtain ⟨hname, hresult⟩ := hended.outcome_behind hlast
      exact ⟨back.behind front.steps, by rw [hback]; rfl, hname, rfl, by rw [← hlength]; rfl,
        hresult⟩
    · intro e he
      rw [he] at hended
      obtain ⟨index, step, failure, hat, hfailed⟩ := hended.exists_failed
      rw [Nat.zero_add] at hfailed
      refine ⟨index, step, failure, hat, hfailed, ?_⟩
      rw [he, hfailed, ← hlength]
      rfl

set_option maxRecDepth 4000 in
/-- A step that counts its attempts in the world, and a step behind it that is given the count.
The second step alone is called as it is called in the whole. -/
theorem run_append_counted :
    let count : Activity Nat := fun _ => Routine.transact fun _ made => (.ok (.int made), made + 1)
    let bindings : Bindings Nat := ⟨"nightly",
      [⟨"publish", .echo, .standard⟩, ⟨"count", count, .standard⟩]⟩
    let first : Step := ⟨"count", [], ["title"], some "made"⟩
    let second : Step := ⟨"publish", [], ["made", "title"], none⟩
    let w : Workflow := ⟨"ingest", [first, second], [("title", .text "draft")]⟩
    let payload : Payload := { (default : Payload) with vars := [("title", .text "final")] }
    let published : Fields := [("made", .int 7), ("title", .text "final")]
    let counted : Call := ⟨payload, "ingest", "count", [("title", .text "final")]⟩
    let publish : Call := ⟨payload.withVars published, "ingest", "publish", published⟩
    (w.steps = [first] ++ [second] ∧ Fields.Ascending w.vars ∧
      ∀ step ∈ w.steps, bindings.contains step.activity = true) ∧
    w.attempts bindings payload ⟨0, 0⟩ 7 = [⟨0, counted, 1⟩] ++ [⟨1, publish, 1⟩] ∧
    ∃ outcome, ((w.run bindings payload).run ⟨0, 0⟩ (Engine.start 256 7)).value = .ok outcome ∧
      outcome.vars = published ∧ outcome.result = .object published := by
  intro count bindings first second w payload published counted publish
  have hsteps : w.steps = [first] ++ [second] := rfl
  have hvars : Fields.Ascending w.vars := by simp [w, Fields.Ascending]
  have hbound : ∀ step ∈ w.steps, bindings.contains step.activity = true := by decide
  obtain ⟨-, -, hok, -⟩ := run_append w bindings payload hsteps hvars hbound ⟨0, 0⟩
    (Engine.start 256 7)
  obtain ⟨-, -, hattempts, hback, -⟩ := hok ⟨"ingest", .int 7, published,
    [⟨0, "count", [("title", .text "final")], .int 7⟩]⟩ rfl
  obtain ⟨outcome, hvalue, -, hpublished, -, hresult⟩ := hback ⟨"ingest", .object published,
    published, [⟨0, "publish", published, .object published⟩]⟩ rfl
  exact ⟨⟨hsteps, hvars, hbound⟩, hattempts, outcome, hvalue, hpublished, hresult⟩

end Parts

end Workflow

end ActivityFlow
