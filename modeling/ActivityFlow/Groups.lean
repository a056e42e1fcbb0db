import ActivityFlow.RunFailure
import ActivityFlow.Workflow

/-!
# Groups of activities

Activities are attempted with the options of the group that lists them, or of the default
group. Two groups are built in; a document replaces them or adds others.
-/
namespace ActivityFlow

/-- Options and the activities that they are meant for. -/
structure Group where
  options : AttemptOptions
  activities : List String
deriving DecidableEq

instance : Inhabited Group := ⟨⟨.standard, []⟩⟩

/-- Named groups, in the order in which their names first appeared. -/
abbrev Groups := List (String × Group)

namespace Groups

/-- The group of activities that no group lists. -/
def defaultName : String := "default"

/-- The built-in group for activities that take long. -/
def longRunningName : String := "long_running"

def builtIn : Groups :=
  [(defaultName, ⟨.standard, []⟩), (longRunningName, ⟨.longRunning, []⟩)]

def get? (groups : Groups) (name : String) : Option Group :=
  (groups.find? fun e => e.1 == name).map (·.2)

def options (groups : Groups) (name : String) : Except SetupError AttemptOptions :=
  match get? groups name with
  | some group => .ok group.options
  | none => .error (.unknownGroup name)

/-- Refuses an activity that was listed before, and returns all listed ones. -/
def checkNames (seen : List String) : List String → Except SetupError (List String)
  | [] => .ok seen
  | name :: rest =>
    if seen.contains name then .error (.duplicateBinding name)
    else checkNames (seen ++ [name]) rest

/-- Checks groups in order, the policy of each before its activities. -/
def checkFrom (seen : List String) : Groups → Except SetupError Unit
  | [] => .ok ()
  | (_, group) :: rest => do
    group.options.retry.validate.mapError .invalidPolicy
    checkFrom (← checkNames seen group.activities) rest

/-- Checks that all policies make sense and no activity is listed twice. -/
def validate (groups : Groups) : Except SetupError Unit := checkFrom [] groups

/-- The built-in groups, replaced and followed by those of a document. -/
def overlay (document : Groups) : Groups :=
  document.foldl (fun groups e => putLast groups e.1 e.2) builtIn

end Groups

end ActivityFlow
