import ActivityFlow.Groups
import ActivityFlow.Retry.Codec
import ActivityFlow.Workflow.Codec

/-!
# Groups as documents

A group is written as its options' entries with its activities beside them, which are
left out when there are none.
-/
namespace ActivityFlow

open Decoding

namespace Group

def ofFields (fields : Fields) : Result Group := do
  let activities ← field? fields "activities" (asList asText)
  let options ← AttemptOptions.ofFields .aside fields
  return ⟨options, activities.getD []⟩

def decode : Json → Result Group := openRecord "GroupConfig" ofFields

def encode (g : Group) : Json :=
  .object <|
    if g.activities.isEmpty then g.options.toFields
    else ("activities", .array (g.activities.map .text)) :: g.options.toFields

end Group

namespace Groups

def decode : Json → Result Groups :=
  record "EngineConfig"
    (fun fields => do return (← field? fields "groups" (asNamed Group.decode)).getD [])
    (fun items => do
      let groups ← itemD items 0 [] (asNamed Group.decode)
      noMore .direct items 1
      return groups)

def encode (groups : Groups) : Json :=
  .object [("groups", .object (Fields.ofPairs (groups.map fun e => (e.1, e.2.encode))))]

end Groups

end ActivityFlow
