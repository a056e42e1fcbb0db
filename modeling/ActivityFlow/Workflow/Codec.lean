import ActivityFlow.Workflow
import ActivityFlow.Payload.Codec

/-!
# Workflows as documents

Steps and workflows admit no entries but their own, so that a misspelled name is an
error and not a setting without effect.
-/
namespace ActivityFlow

open Decoding

namespace Step

def fieldNames : List String := ["name", "params", "import", "output"]

def ofFields (fields : Fields) : Result Step := do
  let known := knownPart fieldNames fields
  let imports ← field? known "import" (asList asText)
  let activity ← field? known "name" asText
  let output ← field? known "output" (asOptional asText)
  let params ← field? known "params" asFields
  rejectUnknown fieldNames fields
  return {
    activity := ← required "name" activity
    params := params.getD []
    imports := imports.getD []
    output := output.join }

def ofItems (items : List Json) : Result Step := do
  let activity ← item items 0 (.recordOf "ActivitySpec" 4) asText
  let params ← itemD items 1 [] asFields
  let imports ← itemD items 2 [] (asList asText)
  let output ← itemD items 3 none (asOptional asText)
  noMore .direct items 4
  return { activity, params, imports, output }

def decode : Json → Result Step := record "ActivitySpec" ofFields ofItems

def encode (step : Step) : Json :=
  .object [
    ("import", .array (step.imports.map .text)),
    ("name", .text step.activity),
    ("output", ServiceSettings.encodeText? step.output),
    ("params", .object step.params)]

end Step

namespace Workflow

def fieldNames : List String := ["name", "activities", "vars"]

def ofFields (fields : Fields) : Result Workflow := do
  let known := knownPart fieldNames fields
  let steps ← field? known "activities" (asList Step.decode)
  let name ← field? known "name" asText
  let vars ← field? known "vars" asFields
  rejectUnknown fieldNames fields
  return { name := name.getD "", steps := steps.getD [], vars := vars.getD [] }

def ofItems (items : List Json) : Result Workflow := do
  let name ← itemD items 0 "" asText
  let steps ← itemD items 1 [] (asList Step.decode)
  let vars ← itemD items 2 [] asFields
  noMore .direct items 3
  return { name, steps, vars }

def decode : Json → Result Workflow := record "WorkflowSpec" ofFields ofItems

def encode (w : Workflow) : Json :=
  .object [
    ("activities", .array (w.steps.map Step.encode)),
    ("name", .text w.name),
    ("vars", .object w.vars)]

end Workflow

namespace Decoding

/-- Reads an object whose values are of one kind, in the order of its entries. -/
def asNamed (decode : Json → Result α) : Json → Result (List (String × α))
  | .object fields => fields.mapM fun e => (e.1, ·) <$> decode e.2
  | v => .error (.wrongType v .map)

end Decoding

namespace Bundle

/-- Reads named workflows. -/
def decode : Json → Result Bundle :=
  record "WorkflowBundle"
    (fun fields => do
      required "workflows" (← field? fields "workflows" (asNamed Workflow.decode)))
    (fun items => do
      let bundle ← item items 0 (.recordOf "WorkflowBundle" 1) (asNamed Workflow.decode)
      noMore .direct items 1
      return bundle)

/-- Writes named workflows. -/
def encode (bundle : Bundle) : Json :=
  .object [("workflows", .object (Fields.ofPairs (bundle.map fun e => (e.1, e.2.encode))))]

end Bundle

namespace RunRequest

def ofFields (fields : Fields) : Result RunRequest := do
  let workflow ← required "workflow" (← field? fields "workflow" Workflow.decode)
  let payload ← Payload.ofFields fields
  return { payload, workflow }

def decode : Json → Result RunRequest := openRecord "WorkflowMessage" ofFields

def encode (r : RunRequest) : Json :=
  .object (Fields.insert r.payload.toFields "workflow" r.workflow.encode)

end RunRequest

end ActivityFlow
