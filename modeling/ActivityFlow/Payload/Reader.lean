import ActivityFlow.Json.Reader
import ActivityFlow.Payload.Codec

/-!
# Payload texts

A payload is read from a text as it was written. Entries that a payload does not know may
hold anything; an entry that it knows may not be there twice.
-/
namespace ActivityFlow

/-- Whether one of the names stands at more than one entry. -/
def repeatsName (names : List String) (entries : List (String × α)) : Bool :=
  names.any fun name => 1 < (entries.filter fun e => e.1 == name).length

namespace ServiceSettings

/-- The names that service settings know. -/
def fieldNames : List String := ["studio_url", "store_url"]

/-- Whether a value repeats a name that service settings know. -/
def repeatsField : Json → Bool
  | .object entries => repeatsName fieldNames entries
  | _ => false

end ServiceSettings

namespace Payload

/-- The names of a payload's entries, in the order of its parts. -/
def fieldNames : List String :=
  ["auth_token", "account_id", "project_id", "config", "objectIds", "vars", "event"]

def partValue? (name : String) (draft : Json.Draft) : Option Json := do
  let value ← draft.value? (Json.depthLimit - 1)
  if name = "config" && ServiceSettings.repeatsField value then none
  else return Json.ordered value

def ofDraft? : Json.Draft → Option Payload
  | .leaf _ => none
  | .array items => do
    let names := fieldNames ++ List.replicate items.length ""
    let items ← (names.zip items).mapM fun e => partValue? e.1 e.2
    (ofItems items).toOption
  | .object entries => do
    let names := "object_ids" :: fieldNames
    let entries ← entries.mapM fun e => do return (← e.1, e.2)
    let known := entries.filter fun e => names.contains e.1
    if repeatsName names known then none
    else
      let fields ← known.mapM fun e => do return (e.1, ← partValue? e.1 e.2)
      (ofFields fields).toOption

def parse? (text : String) : Option Payload := do ofDraft? (← Json.draft? text)

end Payload

end ActivityFlow
