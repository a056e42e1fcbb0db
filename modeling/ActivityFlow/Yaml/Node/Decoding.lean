import ActivityFlow.Workflow
import ActivityFlow.Yaml.Node

/-!
# Decoding nodes

Records are read from mappings. Where a record, a mapping or a sequence is expected, nothing
written at all is an empty one. Where a text is expected, and for keys, a scalar is taken as
it was written.
-/
namespace ActivityFlow.Yaml

namespace Node

/-- The text of a scalar, whatever its style and tag are. -/
def text? : Node → Option String
  | .scalar s => some s.text
  | _ => none

/-- A text that may be null. -/
def nullableText? : Node → Option (Option String)
  | .scalar s =>
    if s.style = .quoted then some (some s.text)
    else
      match s.tag with
      | some tag =>
        if tag = Scalar.standardTag "null" then
          if Plain.isNull s.text then some none else none
        else some (some s.text)
      | none => if s.text.isEmpty || Plain.isNull s.text then some none else some (some s.text)
  | _ => none

def items? (read : Node → Option α) : Node → Option (List α)
  | .sequence _ items => items.mapM read
  | .scalar s => if s.isVoid then some [] else none
  | .mapping _ _ => none

/-- The entries of a mapping with the texts of their keys. -/
def entries? : Node → Option (List (String × Node))
  | .mapping _ entries => entries.mapM fun e => do return (← e.1.text?, e.2)
  | .scalar s => if s.isVoid then some [] else none
  | .sequence _ _ => none

/-- The entries of a mapping whose values are read in one way. An entry with the name of an
earlier one takes its place. -/
def named? (read : Node → Option α) (node : Node) : Option (List (String × α)) := do
  let entries ← (← node.entries?).mapM fun e => do return (e.1, ← read e.2)
  return entries.foldl (fun named e => putLast named e.1 e.2) []

/-- An entry of a record, if it is there; it must not be there twice. -/
def field? (entries : List (String × Node)) (name : String) (read : Node → Option α) :
    Option (Option α) :=
  match entries.filter (·.1 == name) with
  | [] => some none
  | [e] => (read e.2).map some
  | _ => none

/-- Refuses entries of other names than the given ones. -/
def admitOnly (names : List String) (entries : List (String × Node)) : Option Unit :=
  if entries.all fun e => names.contains e.1 then some () else none

/-! ## Values of any kind -/

/-- Whether a collection may have a tag where any value may stand. -/
def admitsTag (tag : Option String) : Bool := !tag.any Scalar.isCustom

/-- A value that documents can hold: numbers that are not finite become null. -/
def finite : Json → Json
  | .float x => if x.isFinite then .float x else .null
  | value => value

mutual

def value? : Node → Option Json
  | .scalar s => s.value?.map finite
  | .sequence tag items =>
    if admitsTag tag then (itemValues? items).map .array else none
  | .mapping tag entries =>
    if admitsTag tag then (entryValues? entries).map fun fields => .object (Fields.ofPairs fields)
    else none

def itemValues? : List Node → Option (List Json)
  | [] => some []
  | item :: rest => do return (← value? item) :: (← itemValues? rest)

/-- The values of the entries of a mapping under the texts of their keys. -/
def entryValues? : List (Node × Node) → Option (List (String × Json))
  | [] => some []
  | (key, value) :: rest => do
    return (← key.text?, ← value? value) :: (← entryValues? rest)

end

/-- The object that a mapping stands for. -/
def fields? : Node → Option Fields
  | .mapping _ entries => (entryValues? entries).map Fields.ofPairs
  | .scalar s => if s.isVoid then some [] else none
  | .sequence _ _ => none

end Node

end ActivityFlow.Yaml
