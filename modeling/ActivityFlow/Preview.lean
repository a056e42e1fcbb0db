import ActivityFlow.Run

/-!
# Trying workflows out

A workflow can be tried without its activities: every activity answers with the parameters
of its call. A bundle can be checked against the names of the activities that exist.
-/
namespace ActivityFlow

/-- A catalog in which every one of the given names answers with the parameters of the call.
Repeated names count once. -/
def Catalog.echoes (names : List String) : Except SetupError (Catalog Unit) :=
  names.foldlM
    (fun catalog name =>
      if catalog.contains name then .ok catalog else catalog.register name Activity.echo)
    Catalog.empty

namespace Workflow

def activities (w : Workflow) : List String := w.steps.map (·.activity)

/-- Bindings for a workflow under which the given names answer with their parameters. -/
def echoBindings (w : Workflow) (names : List String) (groups : Groups) :
    Except SetupError (Bindings Unit) := do
  Bindings.ofGroups (← Catalog.echoes names) w.name groups

/-- Runs a workflow with answers in place of its activities, from the start of the clock on. -/
def rehearse (w : Workflow) (payload : Payload) (groups : Groups) :
    Except SetupError (Finish (Engine Unit) (Except RunFailure RunOutcome)) := do
  let bindings ← w.echoBindings w.activities groups
  w.check bindings
  return (w.run bindings payload).run ⟨0, 0⟩ (.start Engine.standardHistoryLimit ())

/-- The outcome of a workflow with answers in place of its activities. -/
def preview (w : Workflow) (payload : Payload) (groups : Groups) :
    Except RunFailure RunOutcome := do
  (← (w.rehearse payload groups).mapError .setup).value

/-- The number of steps that store their result. -/
def outputCount (w : Workflow) : Nat := (w.steps.filter (·.output.isSome)).length

/-- One line about a workflow under a key. -/
def summary (key : String) (w : Workflow) : String :=
  key ++ ": " ++ toString w.steps.length ++ " activities, " ++ toString w.outputCount ++
    " outputs, " ++ toString w.vars.length ++ " vars"

end Workflow

/-- Why a bundle does not stand. -/
inductive BundleError where
  | setup (error : SetupError)
  | invalidWorkflow (key : String) (error : SetupError)
  | unknownWorkflow (name : String)
  | noWorkflows
deriving DecidableEq

/-- The texts of a bundle error, from the general one to the root cause. -/
def BundleError.messages : BundleError → List String
  | .setup error => [error.message]
  | .invalidWorkflow key error => ["workflow '" ++ key ++ "' is invalid", error.message]
  | .unknownWorkflow name => ["workflow '" ++ name ++ "' not found in file"]
  | .noWorkflows => ["workflow file contains no workflows"]

namespace Bundle

/-- Checks one workflow against the given names, or against its own if there are none. -/
def checkOne (names : List String) (key : String) (w : Workflow) : Except BundleError String := do
  let names := if names.isEmpty then w.activities else names
  let bindings ← (w.echoBindings names Groups.builtIn).mapError .setup
  (w.check bindings).mapError (.invalidWorkflow key)
  return w.summary key

/-- Checks the workflows of a bundle in order; one line for each if all of them stand. -/
def check (bundle : Bundle) (names : List String) : Except BundleError (List String) :=
  bundle.mapM fun (key, w) => checkOne names key w

/-- The workflow of a name, or the first one if no name is given. -/
def select (bundle : Bundle) : Option String → Except BundleError Workflow
  | some name =>
    match bundle.find? fun e => e.1 == name with
    | some e => .ok e.2
    | none => .error (.unknownWorkflow name)
  | none =>
    match bundle with
    | [] => .error .noWorkflows
    | (_, w) :: _ => .ok w

end Bundle

end ActivityFlow
