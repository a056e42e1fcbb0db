import ActivityFlow.Bindings
import ActivityFlow.StoreSettings
import ActivityFlow.Workflow.Codec

/-!
# Running workflows

The steps of a workflow are called one after the other. Nothing but the variables flows
from a step to the next: each call sees them as they stood when its step began, and the
result of a step is stored for later steps only.
-/
namespace ActivityFlow

/-- What is known of a step that succeeded. -/
structure StepRecord where
  index : Nat
  activity : String
  /-- The effective parameters of the call. -/
  params : Fields
  output : Json
deriving DecidableEq

/-- The outcome of a run in which every step succeeded. -/
structure RunOutcome where
  workflow : String
  /-- The result of the last step, or null if there are no steps. -/
  result : Json
  vars : Fields
  steps : List StepRecord
deriving DecidableEq

namespace Step

/-- The variables after a step with the given result. -/
def store (step : Step) (vars : Fields) (output : Json) : Fields :=
  match step.output with
  | some name => Fields.insert vars name output
  | none => vars

end Step

namespace Workflow

variable {ω : Type}

/-- The first step from an index on whose activity is not bound. -/
def unresolvedFrom (bindings : Bindings ω) (index : Nat) : List Step → Option (Nat × String)
  | [] => none
  | step :: rest =>
    if bindings.contains step.activity then unresolvedFrom bindings (index + 1) rest
    else some (index, step.activity)

/-- Checks that every step names a bound activity. -/
def check (w : Workflow) (bindings : Bindings ω) : Except SetupError Unit :=
  match unresolvedFrom bindings 0 w.steps with
  | none => .ok ()
  | some (step, activity) => .error (.unresolvedStep w.name step activity)

def startVars (w : Workflow) (payload : Payload) : Fields := Fields.insertAll w.vars payload.vars

/-- Runs steps from an index on, with the variables and the result so far; ends with the final
ones and a record per step. -/
def runSteps (bindings : Bindings ω) (workflow : String) (payload : Payload) (index : Nat)
    (vars : Fields) (result : Json) :
    List Step → Routine (Engine ω) (Except RunFailure (Json × Fields × List StepRecord))
  | [] => .done (.ok (result, vars, []))
  | step :: rest =>
    match bindings.require step.activity with
    | .error e => .done (.error (.setup e))
    | .ok binding =>
      let params := step.resolve vars
      (binding.callIn workflow (payload.withVars vars) params).bind fun
        | .error failure => .done (.error (.activity workflow index step.activity failure))
        | .ok output =>
          (runSteps bindings workflow payload (index + 1) (step.store vars output) output rest).map
            fun ended => ended.map fun (last, final, records) =>
              (last, final, ⟨index, step.activity, params, output⟩ :: records)

def run (w : Workflow) (bindings : Bindings ω) (payload : Payload) :
    Routine (Engine ω) (Except RunFailure RunOutcome) :=
  (runSteps bindings w.name payload 0 (w.startVars payload) .null w.steps).map fun ended =>
    ended.map fun (result, vars, steps) => ⟨w.name, result, vars, steps⟩

end Workflow

namespace RunRequest

variable {ω : Type}

/-- Whether a request can be run: all activities are bound, and the payload leads to the
content store. -/
def check (r : RunRequest) (bindings : Bindings ω) : Except RunFailure Unit := do
  (r.workflow.check bindings).mapError .setup
  r.payload.validate.mapError (.rejected r.workflow.name)

/-- Runs a request. No activity is called unless the request passes its check. -/
def run (r : RunRequest) (bindings : Bindings ω) :
    Routine (Engine ω) (Except RunFailure RunOutcome) :=
  match r.check bindings with
  | .error e => .done (.error e)
  | .ok () => r.workflow.run bindings r.payload

end RunRequest

namespace RunOutcome

def encodeStep (s : StepRecord) : Json :=
  .object [
    ("activity", .text s.activity),
    ("index", .int s.index),
    ("output", s.output),
    ("params", .object s.params)]

def encode (o : RunOutcome) : Json :=
  .object [
    ("result", o.result),
    ("steps", .array (o.steps.map encodeStep)),
    ("vars", .object o.vars),
    ("workflow", .text o.workflow)]

end RunOutcome

end ActivityFlow
