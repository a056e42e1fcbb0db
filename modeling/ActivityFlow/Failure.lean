import ActivityFlow.Json.Printer

/-!
# Failures of activities

A failed attempt is diagnosed, with a kind of a fixed taxonomy and structured details;
or it is not diagnosed; or it ran out of time. The kind alone tells how the engine treats
a diagnosed failure.
-/
namespace ActivityFlow

/-- The taxonomy of diagnosed failures. -/
inductive FailureKind where
  | documentNotFound
  | activityParamNotFound
  | activityParamInvalid
  | workflowParamNotFound
  | resourceExhausted
  | invalidContentType
  | tokenExpired
deriving DecidableEq, Repr

namespace FailureKind

/-- All kinds, in the order of the taxonomy. -/
def all : List FailureKind :=
  [documentNotFound, activityParamNotFound, activityParamInvalid, workflowParamNotFound,
    resourceExhausted, invalidContentType, tokenExpired]

theorem mem_all (kind : FailureKind) : kind ∈ all := by cases kind <;> decide

/-- The name of a kind in documents and messages. -/
def tag : FailureKind → String
  | documentNotFound => "DocumentNotFoundError"
  | activityParamNotFound => "ActivityParamNotFoundError"
  | activityParamInvalid => "ActivityParamInvalidError"
  | workflowParamNotFound => "WorkflowParamNotFoundError"
  | resourceExhausted => "ResourceExhaustedError"
  | invalidContentType => "InvalidContentTypeError"
  | tokenExpired => "TokenExpiredError"

/-- The name of a kind in diagnostics. -/
def title : FailureKind → String
  | documentNotFound => "DocumentNotFound"
  | activityParamNotFound => "ActivityParamNotFound"
  | activityParamInvalid => "ActivityParamInvalid"
  | workflowParamNotFound => "WorkflowParamNotFound"
  | resourceExhausted => "ResourceExhausted"
  | invalidContentType => "InvalidContentType"
  | tokenExpired => "TokenExpired"

def ofTag? (name : String) : Option FailureKind := all.find? fun kind => kind.tag == name

/-- The place of a kind in the taxonomy. -/
def index (kind : FailureKind) : Nat := all.idxOf kind

/-- Whether another attempt could mend a failure of this kind. A diagnosed failure has a
cause that stays, so none could. -/
def isRetryable : FailureKind → Bool
  | documentNotFound | activityParamNotFound | activityParamInvalid | workflowParamNotFound
  | resourceExhausted | invalidContentType | tokenExpired => false

/-- The complaint about a name that is not in the taxonomy. -/
def unknownTagMessage (name : String) : String := "unknown error kind '" ++ name ++ "'"

end FailureKind

/-- A failure with a known cause. -/
structure Diagnosis where
  kind : FailureKind
  text : String
  /-- Kept as stored; the engine goes by the kind. -/
  retryable : Bool
  /-- Structured details: identifiers, parameter names, expected and actual types. -/
  details : Fields
deriving DecidableEq

namespace Diagnosis

/-- A diagnosis without details. -/
def of (kind : FailureKind) (text : String) : Diagnosis := ⟨kind, text, kind.isRetryable, []⟩

/-- Adds a detail; a detail of the same name is replaced. -/
def withDetail (d : Diagnosis) (key : String) (value : Json) : Diagnosis :=
  { d with details := Fields.insert d.details key value }

/-- Documents that the store does not hold. -/
def documentNotFound (ids : List String) (text : String) : Diagnosis :=
  (of .documentNotFound text).withDetail "object_ids" (.array (ids.map .text))

/-- A parameter that an activity needs and did not get. -/
def activityParamNotFound (activity param : String) : Diagnosis :=
  ((of .activityParamNotFound
    ("missing required parameter '" ++ param ++ "' for activity '" ++ activity ++ "'")).withDetail
      "activity" (.text activity)).withDetail "param" (.text param)

/-- A parameter that an activity cannot use. -/
def activityParamInvalid (activity param reason : String) : Diagnosis :=
  let message := "invalid parameter '" ++ param ++ "' for activity '" ++ activity ++ "': " ++ reason
  (((of .activityParamInvalid message).withDetail "activity" (.text activity)).withDetail
    "param" (.text param)).withDetail "reason" (.text reason)

/-- A variable that a workflow needs and does not have. -/
def workflowParamNotFound (param : String) : Diagnosis :=
  (of .workflowParamNotFound ("missing required workflow variable '" ++ param ++ "'")).withDetail
    "param" (.text param)

/-- A limit of a service that was reached. -/
def resourceExhausted (text : String) : Diagnosis := of .resourceExhausted text

/-- A document of another type than the activity works on. -/
def invalidContentType (id expected actual : String) : Diagnosis :=
  (((of .invalidContentType
    ("object '" ++ id ++ "' has content type '" ++ actual ++ "', expected '" ++ expected ++
      "'")).withDetail "object_id" (.text id)).withDetail "expected" (.text expected)).withDetail
        "actual" (.text actual)

/-- A credential that is no longer accepted. -/
def tokenExpired (text : String) : Diagnosis := of .tokenExpired text

/-- The text of a diagnosis: kind and message, and the details unless there are none. -/
def message (d : Diagnosis) : String :=
  d.kind.tag ++ ": " ++ d.text ++
    (if d.details.isEmpty then "" else " " ++ (Json.object d.details).render)

end Diagnosis

/-- How an attempt of an activity failed. -/
inductive Failure where
  | diagnosed (diagnosis : Diagnosis)
  | undiagnosed (text : String)
  | timedOut (millis : Nat)
deriving DecidableEq

namespace Failure

def kind? : Failure → Option FailureKind
  | diagnosed d => some d.kind
  | undiagnosed _ | timedOut _ => none

/-- Whether another attempt could mend the failure, as far as its kind tells. -/
def isRetryable : Failure → Bool
  | diagnosed d => d.kind.isRetryable
  | undiagnosed _ | timedOut _ => true

def message : Failure → String
  | diagnosed d => d.message
  | undiagnosed text => "activity failed: " ++ text
  | timedOut millis =>
    "activity attempt exceeded its start-to-close timeout of " ++ toString millis ++ "ms"

end Failure

/-- Looks up a parameter that an activity needs; null counts as missing. -/
def requireParam (params : Fields) (activity name : String) : Except Diagnosis Json :=
  match Fields.get? params name with
  | none | some .null => .error (.activityParamNotFound activity name)
  | some value => .ok value

/-- Looks up a variable that a workflow needs; null counts as missing. -/
def requireVar (vars : Fields) (name : String) : Except Diagnosis Json :=
  match Fields.get? vars name with
  | none | some .null => .error (.workflowParamNotFound name)
  | some value => .ok value

end ActivityFlow
