import ActivityFlow.Jobs.Basic
import ActivityFlow.Text.LetterCase

/-!
# Notifying webhooks

Every webhook of a variable is called with the event of the payload. All entries of the
variable are checked before the first call.
-/
namespace ActivityFlow

/-- An address to notify. -/
structure Webhook where
  url : String
  method : String
deriving DecidableEq

namespace Webhook

def jobName : String := "notify_webhooks"

/-- The activity that notifies one address. -/
def activityName : String := "notify_webhook"

/-- The variable that lists the addresses. -/
def varName : String := "webhooks"

/-- The method of addresses that name none. -/
def defaultMethod : String := "POST"

/-- A complaint about the variable. -/
def invalid (reason : String) : Diagnosis :=
  (Diagnosis.of .activityParamInvalid ("invalid 'webhooks' variable: " ++ reason)).withDetail
    "param" (.text varName)

/-- Reads one entry: an address, or an object with an address and perhaps a method. -/
def ofEntry : Json → Except Diagnosis Webhook
  | .text url => .ok ⟨url, defaultMethod⟩
  | .object fields =>
    match (Fields.get? fields "url").bind Json.text? with
    | none => .error (invalid "entry is missing 'url'")
    | some url =>
      let method := ((Fields.get? fields "method").bind Json.text?).getD defaultMethod
      .ok ⟨url, Text.toUpper method⟩
  | _ => .error (invalid "entries must be URLs or \x7b url, method \x7d objects")

def ofVar : Json → Except Diagnosis (List Webhook)
  | .array entries => entries.mapM ofEntry
  | _ => .error (invalid "expected an array")

/-- The addresses that a payload asks to notify. -/
def ofPayload (payload : Payload) : Except Diagnosis (List Webhook) := do
  ofVar (← requireVar payload.vars varName)

/-- What every address is told. -/
def body (payload : Payload) : Json :=
  .object [
    ("account_id", .text payload.accountId),
    ("event", .text payload.event),
    ("objectIds", .array (payload.objectIds.map .text)),
    ("project_id", .text payload.projectId)]

/-- The parameters of the call for one address. -/
def params (payload : Payload) (hook : Webhook) : Fields :=
  [("method", .text hook.method), ("payload", body payload), ("webhook", .text hook.url)]

end Webhook

variable {ω : Type}

def notifyWebhooks (bindings : Bindings ω) (payload : Payload) :
    Routine (Engine ω) (Except RunFailure (List Json)) :=
  match Webhook.ofPayload payload with
  | .error d => .done (.error (.rejected Webhook.jobName d))
  | .ok hooks =>
    match bindings.require Webhook.activityName with
    | .error e => .done (.error (.setup e))
    | .ok binding => callEach Webhook.jobName binding payload (hooks.map (Webhook.params payload))

end ActivityFlow
