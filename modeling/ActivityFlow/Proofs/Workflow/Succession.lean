import ActivityFlow.Run
import ActivityFlow.Proofs.Json.Fields

/-!
# The steps of a run

A run calls the steps of its workflow one after the other until one fails. What a step is
given depends on the outputs of the steps before it and on nothing else, so the variables
and the records of a run are functions of these outputs. That a run which has got this far
goes on as a run of the remaining steps is the invariant of the loop.
-/
namespace ActivityFlow

namespace Bindings

variable {ω : Type}

theorem name_of_get? {bindings : Bindings ω} {name : String} {binding : Binding ω}
    (h : bindings.get? name = some binding) : binding.name = name := by
  have hname := List.find?_some h
  simpa using hname

theorem exists_get?_of_contains {bindings : Bindings ω} {name : String}
    (h : bindings.contains name = true) : ∃ binding, bindings.get? name = some binding :=
  Option.isSome_iff_exists.mp h

theorem require_eq_ok {bindings : Bindings ω} {name : String} {binding : Binding ω}
    (h : bindings.get? name = some binding) : bindings.require name = .ok binding := by
  rw [require, h]

theorem get?_of_require {bindings : Bindings ω} {name : String} {binding : Binding ω}
    (h : bindings.require name = .ok binding) : bindings.get? name = some binding := by
  unfold require at h
  cases hget : bindings.get? name with
  | none => simp [hget] at h
  | some found =>
    obtain rfl : found = binding := by simpa [hget] using h
    rfl

theorem name_of_require {bindings : Bindings ω} {name : String} {binding : Binding ω}
    (h : bindings.require name = .ok binding) : binding.name = name :=
  name_of_get? (get?_of_require h)

theorem mem_of_require {bindings : Bindings ω} {name : String} {binding : Binding ω}
    (h : bindings.require name = .ok binding) : binding ∈ bindings.entries :=
  List.mem_of_find?_eq_some (get?_of_require h)

end Bindings

/-- After a step its output variable holds the result, and the others are as before. -/
theorem Step.get?_store (step : Step) (vars : Fields) (output : Json) (name : String) :
    Fields.get? (step.store vars output) name =
      if step.output = some name then some output else Fields.get? vars name := by
  cases h : step.output with
  | none => simp [store, h]
  | some target => simp [store, h, Fields.get?_insert]

namespace Workflow

variable {ω : Type} (w : Workflow) (bindings : Bindings ω) (payload : Payload)

/-- The variables after steps with the given outputs. -/
def varsAfter (outputs : List Json) : Fields :=
  (w.steps.zip outputs).foldl (fun vars e => e.1.store vars e.2) (w.startVars payload)

/-- The records of steps with the given outputs. -/
def records (outputs : List Json) : List StepRecord :=
  (w.steps.zip outputs).mapIdx fun i e =>
    ⟨i, e.1.activity, e.1.resolve (w.varsAfter payload (outputs.take i)), e.2⟩

/-- The call of the step with the given index, made with the given variables, has the
given finish. Its payload is that of the run except for the variables. -/
def CallEnds (index : Nat) (vars : Fields) (clock : Clock) (engine : Engine ω)
    (finish : Finish (Engine ω) Outcome) : Prop :=
  ∃ step binding, w.steps[index]? = some step ∧ bindings.get? step.activity = some binding ∧
    (Engine.invoke binding.activity
      ⟨{ payload with vars }, w.name, step.activity, step.resolve vars⟩
      binding.options).run clock engine = finish

/-- A run that started at the given clock and engine has called its first steps in turn:
they answered with the given outputs, and the last answer left the clock and the engine as
they are now. -/
inductive Answered (startClock : Clock) (start : Engine ω) :
    List Json → Clock → Engine ω → Prop where
  | nil : Answered startClock start [] startClock start
  | snoc {outputs : List Json} {clock clock' : Clock} {engine engine' : Engine ω} {output : Json}
    (answered : Answered startClock start outputs clock engine)
    (ends : w.CallEnds bindings payload outputs.length (w.varsAfter payload outputs) clock engine
      ⟨.ok output, clock', engine'⟩) :
    Answered startClock start (outputs ++ [output]) clock' engine'

/-- The steps before the given one have answered, and its call ended with a failure. -/
def FailsAt (startClock : Clock) (start : Engine ω) (index : Nat) (failure : Failure)
    (clock : Clock) (engine : Engine ω) : Prop :=
  ∃ outputs now state, w.Answered bindings payload startClock start outputs now state ∧
    outputs.length = index ∧
    w.CallEnds bindings payload index (w.varsAfter payload outputs) now state
      ⟨.error failure, clock, engine⟩

/-! ## Variables and records -/

section Outputs

variable {w}
variable {outputs : List Json} {step : Step}

theorem zip_concat {steps : List Step} (h : steps[outputs.length]? = some step) (output : Json) :
    steps.zip (outputs ++ [output]) = steps.zip outputs ++ [(step, output)] := by
  induction outputs generalizing steps with
  | nil =>
    obtain ⟨rest, rfl⟩ : ∃ rest, steps = step :: rest := by
      cases steps with
      | nil => simp at h
      | cons first rest => exact ⟨rest, by simpa using h⟩
    simp
  | cons first outputs ih =>
    cases steps with
    | nil => simp at h
    | cons head rest =>
      have hrest : rest[outputs.length]? = some step := by simpa using h
      simp [ih hrest]

/-- The variables that a step leaves are those that it found with its output stored. -/
theorem varsAfter_concat (h : w.steps[outputs.length]? = some step) (output : Json) :
    w.varsAfter payload (outputs ++ [output]) =
      step.store (w.varsAfter payload outputs) output := by
  rw [varsAfter, zip_concat h, List.foldl_append]
  rfl

theorem records_concat (h : w.steps[outputs.length]? = some step) (output : Json) :
    w.records payload (outputs ++ [output]) = w.records payload outputs ++
      [⟨outputs.length, step.activity, step.resolve (w.varsAfter payload outputs), output⟩] := by
  obtain ⟨hlt, -⟩ := List.getElem?_eq_some_iff.mp h
  have hlen : (w.steps.zip outputs).length = outputs.length := by
    rw [List.length_zip]
    omega
  rw [records, zip_concat h, List.mapIdx_concat, hlen]
  congr 1
  · rw [records]
    refine List.mapIdx_eq_mapIdx_iff.mpr ?_
    intro i hi
    rw [List.take_append_of_le_length (by omega)]
  · rw [List.take_left]

end Outputs

/-! ## The loop -/

/-- What is left of a run whose first steps answered with the given outputs. -/
def resume (outputs : List Json) : Routine (Engine ω) (Except RunFailure RunOutcome) :=
  (runSteps bindings w.name payload outputs.length (w.varsAfter payload outputs)
    (outputs.getLast?.getD .null) (w.steps.drop outputs.length)).map fun ended =>
      ended.map fun (result, vars, later) =>
        ⟨w.name, result, vars, w.records payload outputs ++ later⟩

theorem run_eq_resume : w.run bindings payload = w.resume bindings payload [] := by
  simp [run, resume, varsAfter, records]

/-- When every step has answered the run ends with the final variables and all records. -/
theorem run_resume_of_length_eq {outputs : List Json} (h : outputs.length = w.steps.length)
    (clock : Clock) (engine : Engine ω) :
    (w.resume bindings payload outputs).run clock engine =
      ⟨.ok ⟨w.name, outputs.getLast?.getD .null, w.varsAfter payload outputs,
        w.records payload outputs⟩, clock, engine⟩ := by
  rw [resume, h, List.drop_length, runSteps, Routine.run_map]
  simp [Routine.run, Except.map]

variable {w bindings payload}
variable {outputs : List Json} {clock clock' : Clock} {engine engine' : Engine ω}

/-- A run calls its next step first. -/
theorem run_resume_call {step : Step} {binding : Binding ω}
    (hs : w.steps[outputs.length]? = some step)
    (hb : bindings.get? step.activity = some binding) :
    (runSteps bindings w.name payload outputs.length (w.varsAfter payload outputs)
        (outputs.getLast?.getD .null) (w.steps.drop outputs.length)) =
      (Engine.invoke binding.activity
        ⟨{ payload with vars := w.varsAfter payload outputs }, w.name, step.activity,
          step.resolve (w.varsAfter payload outputs)⟩ binding.options).bind fun
        | .error failure => .done (.error (.activity w.name outputs.length step.activity failure))
        | .ok output =>
          (runSteps bindings w.name payload (outputs.length + 1)
            (step.store (w.varsAfter payload outputs) output) output
            (w.steps.drop (outputs.length + 1))).map fun ended =>
              ended.map fun (last, final, records) =>
                (last, final, ⟨outputs.length, step.activity,
                  step.resolve (w.varsAfter payload outputs), output⟩ :: records) := by
  obtain ⟨hlt, rfl⟩ := List.getElem?_eq_some_iff.mp hs
  have hcall (vars : Fields) (params : Fields) :
      binding.callIn w.name (payload.withVars vars) params =
        Engine.invoke binding.activity
          ⟨{ payload with vars := vars }, w.name, w.steps[outputs.length].activity, params⟩
          binding.options := by
    rw [Binding.callIn, Bindings.name_of_get? hb, Payload.withVars]
  rw [List.drop_eq_getElem_cons hlt, runSteps, Bindings.require_eq_ok hb]
  exact congrArg (Routine.bind · _) (hcall _ _)

/-- A step that answers hands the run over to the step after it. -/
theorem run_resume_ok {output : Json}
    (h : w.CallEnds bindings payload outputs.length (w.varsAfter payload outputs) clock engine
      ⟨.ok output, clock', engine'⟩) :
    (w.resume bindings payload outputs).run clock engine =
      (w.resume bindings payload (outputs ++ [output])).run clock' engine' := by
  obtain ⟨step, binding, hs, hb, hcall⟩ := h
  rw [resume, run_resume_call hs hb, Routine.run_map, Routine.run_bind, hcall]
  simp only [resume, Routine.run_map, varsAfter_concat payload hs, records_concat payload hs,
    List.length_append, List.length_singleton, List.getLast?_concat, Option.getD_some]
  congr 1
  cases ((runSteps bindings w.name payload (outputs.length + 1)
    (step.store (w.varsAfter payload outputs) output) output
    (w.steps.drop (outputs.length + 1))).run clock' engine').value with
  | error e => rfl
  | ok found => simp [Except.map]

theorem run_resume_error {step : Step} {failure : Failure}
    (hs : w.steps[outputs.length]? = some step)
    (h : w.CallEnds bindings payload outputs.length (w.varsAfter payload outputs) clock engine
      ⟨.error failure, clock', engine'⟩) :
    (w.resume bindings payload outputs).run clock engine =
      ⟨.error (.activity w.name outputs.length step.activity failure), clock', engine'⟩ := by
  obtain ⟨step', binding, hs', hb, hcall⟩ := h
  obtain rfl : step = step' := Option.some.inj (hs.symm.trans hs')
  rw [resume, run_resume_call hs hb, Routine.run_map, Routine.run_bind, hcall]
  rfl

/-- A run that has got this far goes on as a run of the remaining steps. -/
theorem run_of_answered {startClock : Clock} {start : Engine ω}
    (h : w.Answered bindings payload startClock start outputs clock engine) :
    (w.run bindings payload).run startClock start =
      (w.resume bindings payload outputs).run clock engine := by
  induction h with
  | nil => rw [run_eq_resume]
  | snoc answered ends ih => rw [ih, run_resume_ok ends]

/-- Any number of first steps have answered, or one of them has failed. -/
theorem exists_answered_or_failsAt (payload : Payload)
    (hbound : ∀ step ∈ w.steps, bindings.contains step.activity = true)
    (startClock : Clock) (start : Engine ω) (k : Nat) (hk : k ≤ w.steps.length) :
    (∃ outputs clock engine, w.Answered bindings payload startClock start outputs clock engine ∧
      outputs.length = k) ∨
    ∃ index < k, ∃ failure clock engine,
      w.FailsAt bindings payload startClock start index failure clock engine := by
  induction k with
  | zero => exact Or.inl ⟨[], startClock, start, .nil, rfl⟩
  | succ k ih =>
    rcases ih (by omega) with ⟨outputs, now, state, hans, rfl⟩ | ⟨index, hlt, hfail⟩
    · have hlt : outputs.length < w.steps.length := by omega
      obtain ⟨binding, hb⟩ := Bindings.exists_get?_of_contains
        (hbound w.steps[outputs.length] (List.getElem_mem hlt))
      have hstep : w.steps[outputs.length]? = some w.steps[outputs.length] :=
        List.getElem?_eq_getElem hlt
      cases hrun : (Engine.invoke binding.activity
          ⟨{ payload with vars := w.varsAfter payload outputs }, w.name,
            w.steps[outputs.length].activity,
            w.steps[outputs.length].resolve (w.varsAfter payload outputs)⟩
          binding.options).run now state with
      | mk value clock engine =>
        cases value with
        | ok output =>
          exact Or.inl ⟨outputs ++ [output], clock, engine, hans.snoc ⟨_, binding, hstep, hb, hrun⟩,
            by simp⟩
        | error failure =>
          exact Or.inr ⟨outputs.length, by omega, failure, clock, engine, outputs, now, state, hans,
            rfl, _, binding, hstep, hb, hrun⟩
    · exact Or.inr ⟨index, by omega, hfail⟩

theorem getLast?_records (h : outputs.length = w.steps.length) :
    (w.records payload outputs).getLast?.map StepRecord.output = outputs.getLast? := by
  rcases List.eq_nil_or_concat outputs with rfl | ⟨init, output, rfl⟩
  · simp [records]
  · have hlt : init.length < w.steps.length := by
      rw [← h]
      simp
    rw [List.concat_eq_append, records_concat payload (List.getElem?_eq_getElem hlt)]
    simp

/-- A run calls the steps of its workflow in turn until one fails. Each call carries the
payload of the run with the variables as they stand, and the parameters resolved from them;
the variables are those of the workflow under those of the payload, and each answer is stored
for the steps that follow. If all steps answer, the run ends with the final variables, a
record per step and the last answer; if one fails, with its failure. Nothing else happens. -/
theorem run_steps_in_turn (w : Workflow) (bindings : Bindings ω) (payload : Payload)
    (hbound : ∀ step ∈ w.steps, bindings.contains step.activity = true)
    (clock : Clock) (engine : Engine ω) :
    let finish := (w.run bindings payload).run clock engine
    (∀ outputs last state, w.Answered bindings payload clock engine outputs last state →
      outputs.length = w.steps.length →
      ∃ outcome, finish = ⟨.ok outcome, last, state⟩ ∧
        outcome = ⟨w.name, outputs.getLast?.getD .null, w.varsAfter payload outputs,
          w.records payload outputs⟩ ∧
        outcome.result = (outcome.steps.getLast?.map StepRecord.output).getD .null) ∧
    (∀ index step failure last state, w.steps[index]? = some step →
      w.FailsAt bindings payload clock engine index failure last state →
      finish = ⟨.error (.activity w.name index step.activity failure), last, state⟩) ∧
    ((∃ outputs last state, w.Answered bindings payload clock engine outputs last state ∧
        outputs.length = w.steps.length) ∨
      ∃ index < w.steps.length, ∃ failure last state,
        w.FailsAt bindings payload clock engine index failure last state) ∧
    (∀ e, finish.value ≠ .error (.setup e)) ∧
    ((payload.vars.map Prod.fst).Nodup → ∀ name, Fields.get? (w.varsAfter payload []) name =
      (Fields.get? payload.vars name).or (Fields.get? w.vars name)) ∧
    (∀ outputs step output name, w.steps[outputs.length]? = some step →
      Fields.get? (w.varsAfter payload (outputs ++ [output])) name =
        if step.output = some name then some output
        else Fields.get? (w.varsAfter payload outputs) name) := by
  intro finish
  have hall : ∀ outputs last state,
      w.Answered bindings payload clock engine outputs last state →
      outputs.length = w.steps.length → finish =
        ⟨.ok ⟨w.name, outputs.getLast?.getD .null, w.varsAfter payload outputs,
          w.records payload outputs⟩, last, state⟩ := by
    intro outputs last state hans hlen
    have hrun := run_of_answered hans
    rw [run_resume_of_length_eq w bindings payload hlen] at hrun
    exact hrun
  have hfirst : ∀ index step failure last state, w.steps[index]? = some step →
      w.FailsAt bindings payload clock engine index failure last state →
      finish = ⟨.error (.activity w.name index step.activity failure), last, state⟩ := by
    rintro index step failure last state hs ⟨outputs, now, between, hans, rfl, hcall⟩
    exact (run_of_answered hans).trans (run_resume_error hs hcall)
  have hcases := exists_answered_or_failsAt payload hbound clock engine
    w.steps.length (Nat.le_refl _)
  refine ⟨?_, hfirst, hcases, ?_, ?_, ?_⟩
  · intro outputs last state hans hlen
    exact ⟨_, hall outputs last state hans hlen, rfl, by rw [getLast?_records hlen]⟩
  · intro e he
    rcases hcases with
      ⟨outputs, last, state, hans, hlen⟩ | ⟨index, hlt, failure, last, state, hfail⟩
    · rw [hall outputs last state hans hlen] at he
      cases he
    · rw [hfirst index _ failure last state (List.getElem?_eq_getElem hlt) hfail] at he
      cases he
  · intro hnodup name
    have hstart : w.varsAfter payload [] = w.startVars payload := by simp [varsAfter]
    rw [hstart, startVars, Fields.get?_insertAll w.vars payload.vars hnodup]
  · intro outputs step output name hs
    rw [varsAfter_concat payload hs, Step.get?_store]

set_option maxRecDepth 4000 in
/-- Two steps that answer with their parameters. The title of the payload wins over that of
the workflow, the first step's language is given outright, and its answer takes the place of
the variable of that name only for the second step. -/
theorem run_steps_in_turn_two :
    let bindings : Bindings Unit := ⟨"nightly",
      [⟨"publish", .echo, .standard⟩, ⟨"extract_text", .echo, .standard⟩]⟩
    let w : Workflow := ⟨"ingest",
      [⟨"extract_text", [("language", .text "fr")], ["language", "title"], some "language"⟩,
        ⟨"publish", [], ["language", "title", "missing"], none⟩],
      [("language", .text "en"), ("title", .text "draft")]⟩
    let payload : Payload := { (default : Payload) with vars := [("title", .text "final")] }
    let extracted : Fields := [("language", .text "fr"), ("title", .text "final")]
    let published : Fields := [("language", .object extracted), ("title", .text "final")]
    (∀ step ∈ w.steps, bindings.contains step.activity = true) ∧
      Fields.get? (w.varsAfter payload []) "title" = some (.text "final") ∧
      ((w.run bindings payload).run ⟨0, 0⟩ (Engine.start 256 ())).value =
        .ok ⟨"ingest", .object published, published,
          [⟨0, "extract_text", extracted, .object extracted⟩,
            ⟨1, "publish", published, .object published⟩]⟩ := by
  intro bindings w payload extracted published
  let succeeded (name : String) : AttemptRecord := ⟨name, 1, [.pending, .attempting, .succeeded]⟩
  have hbound : ∀ step ∈ w.steps, bindings.contains step.activity = true := by decide
  obtain ⟨hall, -, -, -, hstart, -⟩ :=
    run_steps_in_turn w bindings payload hbound ⟨0, 0⟩ (Engine.start 256 ())
  refine ⟨hbound, hstart (by decide) "title", ?_⟩
  have hfirst : w.CallEnds bindings payload 0 (w.varsAfter payload []) ⟨0, 0⟩ (Engine.start 256 ())
      ⟨.ok (.object extracted), ⟨0, 2⟩, ⟨256, [succeeded "extract_text"], ()⟩⟩ :=
    ⟨_, _, rfl, rfl, rfl⟩
  have hsecond : w.CallEnds bindings payload 1 (w.varsAfter payload [.object extracted]) ⟨0, 2⟩
      ⟨256, [succeeded "extract_text"], ()⟩
      ⟨.ok (.object published), ⟨0, 4⟩,
        ⟨256, [succeeded "extract_text", succeeded "publish"], ()⟩⟩ :=
    ⟨_, _, rfl, rfl, rfl⟩
  have hans := (Answered.nil.snoc hfirst).snoc hsecond
  obtain ⟨outcome, hfinish, houtcome, -⟩ := hall _ _ _ hans rfl
  rw [hfinish, houtcome]
  rfl

end Workflow

end ActivityFlow
