import ActivityFlow.Proofs.Engine.History
import ActivityFlow.Proofs.Json.WellFormed
import ActivityFlow.Proofs.Workflow.Succession

/-!
# Workflows as programs

A workflow is a program that invokes one activity after another. Each step stands behind the
one before it, so the site of an event tells the step at which it happens. On an engine the
program is the run of the workflow; on a ledger it notes the attempts of this run.

Steps that stand behind other steps do what they do alone. They differ in the numbers that they
go by, and the records of the steps before them come first.
-/
namespace ActivityFlow

variable {ω σ : Type}

/-! ## Records and failures of steps that stand behind others -/

/-- The last output among the given records, or null if there are none. -/
def StepRecord.lastOutput (records : List StepRecord) : Json :=
  (records.getLast?.map output).getD .null

@[simp] theorem StepRecord.lastOutput_nil : lastOutput [] = .null := rfl

@[simp] theorem StepRecord.lastOutput_concat (records : List StepRecord) (record : StepRecord) :
    lastOutput (records ++ [record]) = record.output := by
  simp [lastOutput]

/-- The record of a step that stands behind so many others. -/
def StepRecord.behind (count : Nat) (record : StepRecord) : StepRecord :=
  { record with index := count + record.index }

/-- The failure of a run whose steps stand behind so many others. -/
def RunFailure.behind (count : Nat) : RunFailure → RunFailure
  | .activity workflow step name failure => .activity workflow (count + step) name failure
  | .setup e => .setup e
  | .rejected workflow diagnosis => .rejected workflow diagnosis

/-- The outcome of a run whose steps stand behind those with the given records. -/
def RunOutcome.behind (front : List StepRecord) (outcome : RunOutcome) : RunOutcome :=
  let steps := front ++ outcome.steps.map (StepRecord.behind front.length)
  { outcome with result := StepRecord.lastOutput steps, steps }

/-- The end of a run whose steps stand behind those with the given records. -/
def endBehind (front : List StepRecord) :
    Except RunFailure RunOutcome → Except RunFailure RunOutcome
  | .error e => .error (e.behind front.length)
  | .ok outcome => .ok (outcome.behind front)

/-- The result of the whole is that of the steps behind, unless there are none. -/
theorem RunOutcome.result_behind {front outcome : RunOutcome}
    (hfront : front.result = StepRecord.lastOutput front.steps)
    (houtcome : outcome.result = StepRecord.lastOutput outcome.steps) :
    (outcome.behind front.steps).result =
      if outcome.steps = [] then front.result else outcome.result := by
  rcases List.eq_nil_or_concat outcome.steps with hnil | ⟨init, record, hsteps⟩
  · simp [behind, hnil, hfront]
  · simp only [behind, houtcome, hsteps, List.concat_eq_append, List.map_append, List.map_singleton,
      ← List.append_assoc, StepRecord.lastOutput_concat]
    simp [StepRecord.behind]

namespace Workflow

/-- The program of steps that are taken with the given variables, after steps with the given
records. -/
def programFrom (bindings : Bindings ω) (workflow : String) (payload : Payload) (vars : Fields)
    (records : List StepRecord) : List Step → Program ω RunFailure RunOutcome
  | [] => .done (.ok ⟨workflow, StepRecord.lastOutput records, vars, records⟩)
  | step :: rest =>
    match bindings.require step.activity with
    | .error e => .done (.error (.setup e))
    | .ok binding =>
      .invoke binding.activity
        ⟨payload.withVars vars, workflow, binding.name, step.resolve vars⟩ binding.options fun
        | .error failure =>
          .done (.error (.activity workflow records.length step.activity failure))
        | .ok output => programFrom bindings workflow payload (step.store vars output)
            (records ++ [⟨records.length, step.activity, step.resolve vars, output⟩]) rest

def program (w : Workflow) (bindings : Bindings ω) (payload : Payload) :
    Program ω RunFailure RunOutcome :=
  programFrom bindings w.name payload (w.startVars payload) [] w.steps

variable (bindings : Bindings ω) (workflow : String) (payload : Payload)
variable (platform : Platform ω σ) (site : Site)

/-- What is left of a run is the program of the steps that are left. -/
theorem on_programFrom_engine (vars : Fields) (records : List StepRecord) (steps : List Step) :
    (programFrom bindings workflow payload vars records steps).on Engine.platform site =
      (runSteps bindings workflow payload records.length vars (StepRecord.lastOutput records)
        steps).map fun ended =>
          ended.map fun (result, vars, later) => ⟨workflow, result, vars, records ++ later⟩ := by
  induction steps generalizing vars records site with
  | nil => simp [programFrom, Program.on, runSteps, Routine.map, Except.map]
  | cons step rest ih =>
    rw [programFrom, runSteps]
    cases bindings.require step.activity with
    | error e => rfl
    | ok binding =>
      simp only [Program.on, Routine.map, Routine.bind_assoc]
      refine congrArg (Routine.bind _) (funext fun outcome => ?_)
      cases outcome with
      | error failure => rfl
      | ok output =>
        simp only [ih, Routine.map, Routine.bind_assoc, List.length_append, List.length_singleton,
          StepRecord.lastOutput_concat]
        refine congrArg (Routine.bind _) (funext fun ended => ?_)
        cases ended with
        | error e => rfl
        | ok found => simp [Except.map]

/-- On an engine the program of a workflow is its run. -/
theorem on_program_engine (w : Workflow) (site : Site) :
    (w.program bindings payload).on Engine.platform site = w.run bindings payload := by
  simp [program, on_programFrom_engine, run]

/-! ## Steps behind other steps -/

/-- Steps behind others run as the rest of a run in which the first steps have succeeded. -/
theorem on_programFrom_append (vars : Fields) (records : List StepRecord)
    (first second : List Step) :
    (programFrom bindings workflow payload vars records (first ++ second)).on platform site =
      ((programFrom bindings workflow payload vars records first).on platform site).bind fun
        | .error e => .done (.error e)
        | .ok front => (programFrom bindings workflow payload front.vars front.steps second).on
            platform (List.replicate first.length .next ++ site) := by
  induction first generalizing vars records site with
  | nil => rfl
  | cons step rest ih =>
    simp only [List.cons_append, programFrom]
    cases bindings.require step.activity with
    | error e => rfl
    | ok binding =>
      simp only [Program.on, Routine.bind_assoc]
      refine congrArg (Routine.bind _) (funext fun outcome => ?_)
      cases outcome with
      | error failure => rfl
      | ok output =>
        simp only [ih, List.length_cons, List.replicate_succ', List.append_assoc,
          List.singleton_append]

/-- Steps behind others run where the first steps have ended, if these have succeeded. -/
theorem run_programFrom_append (vars : Fields) (records : List StepRecord)
    (first second : List Step) (clock : Clock) (state : σ) :
    let whole := ((programFrom bindings workflow payload vars records (first ++ second)).on platform
      site).run clock state
    let begun := ((programFrom bindings workflow payload vars records first).on platform
      site).run clock state
    (∀ e, begun.value = .error e → whole = ⟨.error e, begun.clock, begun.state⟩) ∧
      ∀ front, begun.value = .ok front →
        whole = ((programFrom bindings workflow payload front.vars front.steps second).on platform
          (List.replicate first.length .next ++ site)).run begun.clock begun.state := by
  intro whole begun
  constructor
  · intro e he
    simp only [begun] at he
    simp only [whole, begun, on_programFrom_append, Routine.run_bind, he, Routine.run]
  · intro front hfront
    simp only [begun] at hfront
    simp only [whole, begun, on_programFrom_append, Routine.run_bind, hfront]

/-- Steps behind others run as they do alone, apart from the numbers that they go by. -/
theorem on_programFrom_behind (vars : Fields) (front records : List StepRecord)
    (steps : List Step) :
    (programFrom bindings workflow payload vars
        (front ++ records.map (StepRecord.behind front.length)) steps).on platform site =
      ((programFrom bindings workflow payload vars records steps).on platform site).map
        (endBehind front) := by
  induction steps generalizing vars records site with
  | nil => rfl
  | cons step rest ih =>
    rw [programFrom, programFrom]
    cases bindings.require step.activity with
    | error e => rfl
    | ok binding =>
      simp only [Program.on, Routine.map, Routine.bind_assoc]
      refine congrArg (Routine.bind _) (funext fun outcome => ?_)
      cases outcome with
      | error failure => simp [Program.on, endBehind, RunFailure.behind]
      | ok output =>
        have hrecords : front ++ records.map (StepRecord.behind front.length) ++
            [⟨(front ++ records.map (StepRecord.behind front.length)).length, step.activity,
              step.resolve vars, output⟩] =
            front ++ (records ++ [StepRecord.mk records.length step.activity (step.resolve vars)
              output]).map (StepRecord.behind front.length) := by
          simp [StepRecord.behind]
        simp only [hrecords]
        exact ih _ _ _

/-- A payload is used without its variables. -/
theorem programFrom_withVars (vars others : Fields) (records : List StepRecord)
    (steps : List Step) :
    programFrom bindings workflow (payload.withVars others) vars records steps =
      programFrom bindings workflow payload vars records steps := by
  induction steps generalizing vars records with
  | nil => rfl
  | cons step rest ih =>
    simp only [programFrom, ih]
    rfl

/-! ## The end of a run -/

/-- How steps after so many others can end: all have succeeded, with the last output and with
variables that cover those at the start, or one of them has failed. -/
inductive Ended (start : Fields) (count : Nat) (steps : List Step) :
    Except RunFailure RunOutcome → Prop where
  | ok {outcome : RunOutcome} (name : outcome.workflow = workflow)
    (result : outcome.result = StepRecord.lastOutput outcome.steps)
    (length : outcome.steps.length = count + steps.length)
    (ascending : Fields.Ascending outcome.vars) (covers : Fields.Covers outcome.vars start) :
    Ended start count steps (.ok outcome)
  | error {index : Nat} {step : Step} {failure : Failure} (at_step : steps[index]? = some step) :
    Ended start count steps (.error (.activity workflow (count + index) step.activity failure))

variable {workflow} in
theorem Ended.cons {start : Fields} {count : Nat} {step : Step} {rest : List Step}
    {value : Except RunFailure RunOutcome} (h : Ended workflow start (count + 1) rest value) :
    Ended workflow start count (step :: rest) value := by
  cases h with
  | ok name result length ascending covers =>
    exact .ok name result (by rw [length, List.length_cons]; omega) ascending covers
  | @error index step failure at_step =>
    rw [show count + 1 + index = count + (index + 1) by omega]
    exact .error at_step

variable {workflow} in
theorem Ended.exists_failed {start : Fields} {count : Nat} {steps : List Step} {e : RunFailure}
    (h : Ended workflow start count steps (.error e)) :
    ∃ (index : Nat) (step : Step) (failure : Failure), steps[index]? = some step ∧
      e = .activity workflow (count + index) step.activity failure := by
  cases h with
  | @error index step failure at_step => exact ⟨index, step, failure, at_step, rfl⟩

variable {workflow} in
theorem Ended.outcome_behind {start : Fields} {steps : List Step} {outcome : RunOutcome}
    (h : Ended workflow start 0 steps (.ok outcome)) {front : RunOutcome}
    (hfront : front.result = StepRecord.lastOutput front.steps) :
    (outcome.behind front.steps).workflow = workflow ∧
      (outcome.behind front.steps).result =
        if steps = [] then front.result else outcome.result := by
  cases h with
  | ok name result length ascending covers =>
    have hnil : outcome.steps = [] ↔ steps = [] := by
      rw [← List.length_eq_zero_iff, ← List.length_eq_zero_iff, length, Nat.zero_add]
    refine ⟨name, ?_⟩
    simp only [RunOutcome.result_behind hfront result, hnil]

variable {bindings}

theorem ended_programFrom {steps : List Step}
    (hbound : ∀ step ∈ steps, bindings.contains step.activity = true) {start vars : Fields}
    (hvars : Fields.Ascending vars) (hcovers : Fields.Covers vars start)
    (records : List StepRecord) (clock : Clock) (state : σ) :
    Ended workflow start records.length steps
      (((programFrom bindings workflow payload vars records steps).on platform site).run clock
        state).value := by
  induction steps generalizing vars records site clock state with
  | nil => exact .ok rfl rfl rfl hvars hcovers
  | cons step rest ih =>
    obtain ⟨binding, hbinding⟩ :=
      Bindings.exists_get?_of_contains (hbound step (List.mem_cons_self ..))
    simp only [programFrom, Bindings.require_eq_ok hbinding, Program.on, Routine.run_bind]
    cases ((platform.invoke site binding.activity
        ⟨payload.withVars vars, workflow, binding.name, step.resolve vars⟩ binding.options).run
          clock state).value with
    | error failure =>
      have hfirst : (step :: rest)[0]? = some step := rfl
      exact .error hfirst
    | ok output =>
      have hstored : Fields.Ascending (step.store vars output) ∧
          Fields.Covers (step.store vars output) start := by
        unfold Step.store
        cases step.output with
        | none => exact ⟨hvars, hcovers⟩
        | some name => exact ⟨hvars.insert name output, hcovers.insert name output⟩
      have hrest := ih (.next :: site)
        (fun step hstep => hbound step (List.mem_cons_of_mem _ hstep)) hstored.1 hstored.2
        (records ++ [⟨records.length, step.activity, step.resolve vars, output⟩])
      simp only [List.length_append, List.length_singleton] at hrest
      exact (hrest _ _).cons

end Workflow

end ActivityFlow
