import ActivityFlow.Failure
import ActivityFlow.Retry

/-!
# Errors of assembly and of runs

Mistakes in the setup of an engine show before any activity runs. A run can also refuse
its input, or end with the failure of an activity.
-/
namespace ActivityFlow

/-- A mistake in the setup of an engine. -/
inductive SetupError where
  | duplicateActivity (name : String)
  | unknownActivity (name : String)
  | unresolvedStep (workflow : String) (step : Nat) (activity : String)
  | duplicateBinding (name : String)
  | unknownGroup (name : String)
  | duplicateSource (name : String)
  | unknownSource (name : String)
  | missingFallback (router : String)
  | invalidPattern (pattern : String)
  | invalidPolicy (fault : PolicyFault)
deriving DecidableEq

def SetupError.message : SetupError → String
  | .duplicateActivity name => "activity '" ++ name ++ "' is already registered"
  | .unknownActivity name => "activity '" ++ name ++ "' is not registered"
  | .unresolvedStep workflow step activity =>
    "workflow '" ++ workflow ++ "' step " ++ toString step ++
      " references unregistered activity '" ++ activity ++ "'"
  | .duplicateBinding name => "activity '" ++ name ++ "' is bound to more than one proxy group"
  | .unknownGroup name => "proxy group '" ++ name ++ "' is not configured"
  | .duplicateSource name => "data provider '" ++ name ++ "' is already registered"
  | .unknownSource name => "no data provider registered for type '" ++ name ++ "'"
  | .missingFallback router => "dispatcher '" ++ router ++ "' must end with a catch-all candidate"
  | .invalidPattern pattern => "invalid pattern '" ++ pattern ++ "'"
  | .invalidPolicy fault => "invalid retry policy: " ++ fault.message

/-- How a run ended without a result. -/
inductive RunFailure where
  | setup (error : SetupError)
  | rejected (workflow : String) (diagnosis : Diagnosis)
  | activity (workflow : String) (step : Nat) (name : String) (failure : Failure)
deriving DecidableEq

namespace RunFailure

def message : RunFailure → String
  | setup error => error.message
  | rejected workflow diagnosis =>
    "workflow '" ++ workflow ++ "' rejected its input: " ++ diagnosis.message
  | activity workflow step name failure =>
    "workflow '" ++ workflow ++ "' failed at step " ++ toString step ++ " ('" ++ name ++ "'): " ++
      failure.message

/-- The kind of the diagnosis behind a run failure, if there is one. -/
def kind? : RunFailure → Option FailureKind
  | setup _ => none
  | rejected _ diagnosis => some diagnosis.kind
  | activity _ _ _ failure => failure.kind?

end RunFailure

end ActivityFlow
