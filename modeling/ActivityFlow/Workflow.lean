import ActivityFlow.Payload

/-!
# Workflows

A workflow is a list of steps with initial variables. A step names an activity, gives
some of its parameters, imports others from the variables, and may store its result in a
variable for later steps.
-/
namespace ActivityFlow

structure Step where
  activity : String
  /-- Parameters given outright; they win over imported ones. -/
  params : Fields
  /-- Variables handed over as parameters of the same name. -/
  imports : List String
  /-- The variable that receives the result. -/
  output : Option String
deriving DecidableEq

structure Workflow where
  name : String
  steps : List Step
  /-- The variables at the start; those of the payload win over them. -/
  vars : Fields
deriving DecidableEq

instance : Inhabited Workflow := ⟨⟨"", [], []⟩⟩

/-- Named workflows, in the order in which their names first appeared. -/
abbrev Bundle := List (String × Workflow)

/-- Puts a value under a name: in the place of the value of that name, or at the end. -/
def putLast (entries : List (String × α)) (name : String) (value : α) : List (String × α) :=
  match entries with
  | [] => [(name, value)]
  | (n, v) :: rest => if n = name then (name, value) :: rest else (n, v) :: putLast rest name value

/-- The message that starts a workflow run. -/
structure RunRequest where
  payload : Payload
  workflow : Workflow
deriving DecidableEq

namespace Step

/-- Hands one imported variable over, unless a parameter of that name is given outright or
the variable does not exist. -/
def importVar (step : Step) (vars params : Fields) (name : String) : Fields :=
  if Fields.contains step.params name then params
  else
    match Fields.get? vars name with
    | some value => Fields.insert params name value
    | none => params

/-- The effective parameters of a step: those given outright and the imported variables. -/
def resolve (step : Step) (vars : Fields) : Fields :=
  step.imports.foldl (fun params name => step.importVar vars params name) step.params

end Step

end ActivityFlow
