import ActivityFlow.Groups.Codec
import ActivityFlow.Yaml.Node.Decoding
import ActivityFlow.Yaml.Reader

/-!
# Configuration documents

A configuration holds groups by name. The built-in groups come first and keep their options
unless the document replaces them. The settings of a group are read by what their scalars
stand for, and an entry of a setting may be named by its position.
-/
namespace ActivityFlow

open Yaml

namespace Setting

mutual

/-- The value of a setting. Of keys that are no texts only the presence is kept. -/
def value? : Node → Option Json
  | .scalar s => s.value?
  | .sequence tag items =>
    if Node.admitsTag tag then (itemValues? items).map .array else none
  | .mapping tag entries =>
    if Node.admitsTag tag then (entryValues? entries).map .object else none

def itemValues? : List Node → Option (List Json)
  | [] => some []
  | item :: rest => do return (← value? item) :: (← itemValues? rest)

/-- The values of the entries of a mapping. -/
def entryValues? : List (Node × Node) → Option (List (String × Json))
  | [] => some []
  | (key, value) :: rest => do
    return (((← value? key).text?).getD "", ← value? value) :: (← entryValues? rest)

end

/-- The name that a key stands for: a text, or the position of one of the given names. -/
def name? (names : List String) (key : Node) : Option String := do
  match ← value? key with
  | .text s => some s
  | .int n => if 0 ≤ n then some (names.getD n.toNat "") else none
  | _ => none

/-- The value of a mapping whose keys may be positions of the given names; each of the names
may occur once. Other nodes have their own value. -/
def namedValue? (names : List String) (read : String → Node → Option Json) :
    Node → Option Json
  | .mapping _ entries => do
    let fields ← entries.mapM fun e => do
      let name ← name? names e.1
      return (name, ← read name e.2)
    if names.any fun name => 1 < (fields.filter fun e => e.1 == name).length then none
    else return .object fields
  | node => value? node

def kinds? : Node → Option Json
  | .sequence _ items =>
    (items.mapM (namedValue? (FailureKind.all.map (·.tag)) fun _ => value?)).map .array
  | node => value? node

def policyNames : List String :=
  ["initial_interval", "backoff_coefficient", "maximum_attempts", "maximum_interval",
    "non_retryable_error_kinds"]

def policyPart? (name : String) (node : Node) : Option Json :=
  if name = "non_retryable_error_kinds" then kinds? node else value? node

def policy? : Node → Option Json
  | .sequence _ items => do
    let names := policyNames ++ List.replicate items.length ""
    return .array (← (names.zip items).mapM fun e => policyPart? e.1 e.2)
  | node => namedValue? policyNames policyPart? node

end Setting

namespace Group

def ofNode? (node : Node) : Option Group := do
  let entries ← node.entries?
  let activities ← Node.field? entries "activities" (Node.items? Node.text?)
  let settings := entries.filter fun e => e.1 != "activities"
  let _ ← settings.mapM fun e => Setting.value? e.2
  let timeout ← Node.field? settings "start_to_close_timeout" Setting.value?
  let retry ← Node.field? settings "retry" Setting.policy?
  let fields : Fields :=
    retry.toList.map (("retry", ·)) ++ timeout.toList.map (("start_to_close_timeout", ·))
  let options ← (AttemptOptions.ofFields .aside fields).toOption
  return ⟨options, activities.getD []⟩

end Group

namespace Groups

/-- Reads the groups of a document; its other entries do not count. -/
def ofNode? (node : Node) : Option Groups := do
  let groups ← Node.field? (← node.entries?) "groups" (Node.named? Group.ofNode?)
  return groups.getD []

/-- The groups of a document text, without the built-in ones. -/
def read? (text : String) : Option Groups :=
  (document? (· == "groups") text).bind ofNode?

/-- The built-in groups with those of a document, if they make sense together. -/
def configure (document : Groups) : Except SetupError Groups := do
  let groups := overlay document
  groups.validate
  return groups

/-- Why a configuration text was refused. -/
inductive ConfigurationFault where
  | malformed
  | invalid (error : SetupError)
deriving DecidableEq

def parse (text : String) : Except ConfigurationFault Groups :=
  match read? text with
  | none => .error .malformed
  | some document => (configure document).mapError .invalid

def ConfigurationFault.message : ConfigurationFault → String
  | .malformed => "Failed to parse engine configuration"
  | .invalid error => error.message

end Groups

end ActivityFlow
