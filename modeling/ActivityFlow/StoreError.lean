import ActivityFlow.Failure

/-!
# Errors of the content store

What can go wrong between a client and the content store, and which of it is a failure
with a known cause.
-/
namespace ActivityFlow

/-- An error met by a client of the content store. -/
inductive StoreError where
  | invalidUrl (setting url reason : String)
  | invalidToken (reason : String)
  | client (text : String)
  | transport (url text : String)
  | status (method url : String) (status : Nat) (body : String)
  | undecodable (url text : String)
deriving DecidableEq

namespace StoreError

def message : StoreError → String
  | invalidUrl setting url reason => "invalid " ++ setting ++ " '" ++ url ++ "': " ++ reason
  | invalidToken reason => "invalid auth token: " ++ reason
  | client text => "failed to build http client: " ++ text
  | transport url text => "request to " ++ url ++ " failed: " ++ text
  | status method url code body =>
    method ++ " " ++ url ++ " returned " ++ toString code ++ ": " ++ body
  | undecodable url text => "failed to decode response from " ++ url ++ ": " ++ text

/-- The kind of failure behind a reply's status: a refused credential, a missing
document or a reached limit. Other statuses have no known cause. -/
def statusKind? (code : Nat) : Option FailureKind :=
  if code = 401 || code = 403 then some .tokenExpired
  else if code = 404 then some .documentNotFound
  else if code = 429 then some .resourceExhausted
  else none

def classifyStatus (code : Nat) (text : String) : Option Diagnosis :=
  (statusKind? code).map fun kind => .of kind text

/-- A setting that the client cannot work with. -/
def invalidSetting (e : StoreError) (param reason : String) : Failure :=
  .diagnosed (((Diagnosis.of .activityParamInvalid e.message).withDetail
    "param" (.text param)).withDetail "reason" (.text reason))

def toFailure (e : StoreError) : Failure :=
  match e with
  | invalidUrl setting _ reason => invalidSetting e setting reason
  | invalidToken reason => invalidSetting e "auth_token" reason
  | status _ url code _ =>
    match classifyStatus code e.message with
    | some d => .diagnosed ((d.withDetail "status" (.int code)).withDetail "url" (.text url))
    | none => .undiagnosed e.message
  | client _ | transport _ _ | undecodable _ _ => .undiagnosed e.message

end StoreError

end ActivityFlow
