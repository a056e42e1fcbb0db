import ActivityFlow.Payload
import ActivityFlow.Decoding

/-!
# Payloads and calls as documents

The identifiers of a payload are read under either of two spellings and written under
the first. Settings keep the entries that they do not know. A call is written as its
payload's entries and its own side by side.
-/
namespace ActivityFlow

open Decoding

namespace ServiceSettings

/-- Reads service settings from their entries; entries of other names are kept. -/
def ofFields (fields : Fields) : Result ServiceSettings := do
  let store ← field? fields "store_url" (asOptional asText)
  let studio ← field? fields "studio_url" (asOptional asText)
  return {
    studioUrl := studio.join
    storeUrl := store.join
    extra := Fields.erase (Fields.erase fields "store_url") "studio_url" }

def decode : Json → Result ServiceSettings := openRecord "PayloadConfig" ofFields

def encodeText? : Option String → Json
  | none => .null
  | some s => .text s

def encode (c : ServiceSettings) : Json :=
  .object (Fields.insert (Fields.insert c.extra "store_url" (encodeText? c.storeUrl))
    "studio_url" (encodeText? c.studioUrl))

end ServiceSettings

namespace Payload

/-- Reads the identifiers under their two spellings, of which one may be used. -/
def idsField (fields : Fields) : Result (Option (List String)) := do
  let first ← field? fields "objectIds" (asList asText)
  if first.isSome && Fields.contains fields "object_ids" then throw (.duplicateField "objectIds")
  let second ← field? fields "object_ids" (asList asText)
  return first.or second

def ofFields (fields : Fields) : Result Payload := do
  let accountId ← field? fields "account_id" asText
  let authToken ← field? fields "auth_token" (asOptional asText)
  let config ← field? fields "config" ServiceSettings.decode
  let event ← field? fields "event" asText
  let objectIds ← idsField fields
  let projectId ← field? fields "project_id" asText
  let vars ← field? fields "vars" asFields
  return {
    authToken := authToken.join
    accountId := accountId.getD ""
    projectId := projectId.getD ""
    config := config.getD default
    objectIds := objectIds.getD []
    vars := vars.getD []
    event := event.getD "" }

def ofItems (items : List Json) : Result Payload := do
  let authToken ← itemD items 0 none (asOptional asText)
  let accountId ← itemD items 1 "" asText
  let projectId ← itemD items 2 "" asText
  let config ← itemD items 3 default ServiceSettings.decode
  let objectIds ← itemD items 4 [] (asList asText)
  let vars ← itemD items 5 [] asFields
  let event ← itemD items 6 "" asText
  noMore .direct items 7
  return { authToken, accountId, projectId, config, objectIds, vars, event }

def decode : Json → Result Payload := record "ExecutionPayload" ofFields ofItems

def toFields (p : Payload) : Fields :=
  [("account_id", .text p.accountId),
    ("auth_token", ServiceSettings.encodeText? p.authToken),
    ("config", p.config.encode),
    ("event", .text p.event),
    ("objectIds", .array (p.objectIds.map .text)),
    ("project_id", .text p.projectId),
    ("vars", .object p.vars)]

def encode (p : Payload) : Json := .object p.toFields

end Payload

namespace Call

/-- Reads the activity that a call is addressed to. -/
def decodeActivity : Json → Result String :=
  record "ActivityDescriptor"
    (fun fields => do required "name" (← field? fields "name" asText))
    (fun items => do
      let name ← item items 0 (.recordOf "ActivityDescriptor" 1) asText
      noMore .direct items 1
      return name)

def ofFields (fields : Fields) : Result Call := do
  let activity ← field? fields "activity" decodeActivity
  let params ← field? fields "params" asFields
  let workflow ← field? fields "workflow_name" asText
  let activity ← required "activity" activity
  let workflow ← required "workflow_name" workflow
  let payload ← Payload.ofFields fields
  return { payload, workflow, activity, params := params.getD [] }

def decode : Json → Result Call := openRecord "ActivityCall" ofFields

def toFields (c : Call) : Fields :=
  Fields.insertAll c.payload.toFields [
    ("params", .object c.params),
    ("activity", .object [("name", .text c.activity)]),
    ("workflow_name", .text c.workflow)]

def encode (c : Call) : Json := .object c.toFields

end Call

end ActivityFlow
