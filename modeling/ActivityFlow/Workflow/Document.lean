import ActivityFlow.Workflow
import ActivityFlow.Yaml.Node.Decoding
import ActivityFlow.Yaml.Reader

/-!
# Workflow documents

A workflow document holds either named workflows, as its entry `workflows`, or a single
workflow. A workflow without a name of its own gets one. No document is read in both ways:
a single workflow has no entry `workflows`.
-/
namespace ActivityFlow

open Yaml

namespace Step

def ofNode? (node : Node) : Option Step := do
  let entries ← node.entries?
  Node.admitOnly ["name", "params", "import", "output"] entries
  let activity ← Node.field? entries "name" Node.text?
  let params ← Node.field? entries "params" Node.fields?
  let imports ← Node.field? entries "import" (Node.items? Node.text?)
  let output ← Node.field? entries "output" Node.nullableText?
  return {
    activity := ← activity
    params := params.getD []
    imports := imports.getD []
    output := output.join }

end Step

namespace Workflow

def ofNode? (node : Node) : Option Workflow := do
  let entries ← node.entries?
  Node.admitOnly ["name", "activities", "vars"] entries
  let name ← Node.field? entries "name" Node.text?
  let steps ← Node.field? entries "activities" (Node.items? Step.ofNode?)
  let vars ← Node.field? entries "vars" Node.fields?
  return { name := name.getD "", steps := steps.getD [], vars := vars.getD [] }

/-- The workflow with the given name if it has none of its own. -/
def nameOr (w : Workflow) (name : String) : Workflow :=
  if w.name.isEmpty then { w with name } else w

end Workflow

namespace Bundle

/-- The name of a single workflow that has none of its own. -/
def defaultName : String := "default"

def single (w : Workflow) : Bundle :=
  let w := w.nameOr defaultName
  [(w.name, w)]

/-- Reads named workflows from a document; its other entries do not count. -/
def ofNode? (node : Node) : Option Bundle := do
  let bundle ← (← Node.field? (← node.entries?) "workflows" (Node.named? Workflow.ofNode?))
  return bundle.map fun (key, w) => (key, w.nameOr key)

/-- Reads the workflows of a document, in the first of the two ways that succeeds. -/
def ofSerial? (document : Serial) : Option Bundle :=
  ((document.unfoldDocument (· == "workflows")).bind ofNode?).or
    (((document.unfoldDocument fun _ => true).bind Workflow.ofNode?).map single)

def parse? (text : String) : Option Bundle := (serial? text).bind ofSerial?

end Bundle

end ActivityFlow
