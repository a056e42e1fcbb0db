import ActivityFlow.Json.Basic
import ActivityFlow.Yaml.Serial

/-!
# Documents as read

In a document as it is read, aliases have been replaced by the nodes that they repeat. How
often that may happen is limited, and so is the nesting, which also stops a node that would
contain itself.
-/
namespace ActivityFlow.Yaml

inductive Node where
  | scalar (value : Scalar)
  | sequence (tag : Option String) (items : List Node)
  | mapping (tag : Option String) (entries : List (Node × Node))
deriving Inhabited

/-- A part of the replacement of aliases. The state is the number of replacements left. -/
abbrev Unfolding := StateT Nat Option

namespace Serial

/-- How deep collections may be nested. -/
def depthLimit : Nat := 128

/-- How many aliases may be replaced for each mark of a document. -/
def repetitionLimit : Nat := 100

/-- The node that an alias repeats; any other node is itself. -/
def target (targets : List (Nat × Serial)) : Serial → Unfolding Serial
  | .alias number => do
    match ← get, (targets.filter (·.1 == number)).getLast? with
    | left + 1, some (_, node) =>
      set left
      return node
    | _, _ => failure
  | node => return node

/-- Replaces the aliases of a node that has the given depth at most. -/
def unfold (targets : List (Nat × Serial)) : Nat → Serial → Unfolding Node
  | 0, node => do
    match ← target targets node with
    | .scalar _ value => return .scalar value
    | _ => failure
  | depth + 1, node => do
    match ← target targets node with
    | .alias _ => failure
    | .scalar _ value => return .scalar value
    | .sequence _ tag items => .sequence tag <$> items.mapM (unfold targets depth)
    | .mapping _ tag entries =>
      .mapping tag <$> entries.mapM fun (key, value) => do
        return (← unfold targets depth key, ← unfold targets depth value)

/-- Replaces the aliases of an entry, unless its key is a text that does not count. -/
def unfoldEntry (targets : List (Nat × Serial)) (counts : String → Bool)
    (entry : Serial × Serial) : Unfolding (Option (Node × Node)) := do
  match ← unfold targets (depthLimit - 1) entry.1 with
  | .scalar key =>
    if counts key.text then
      return some (.scalar key, ← unfold targets (depthLimit - 1) entry.2)
    else return none
  | key => return some (key, ← unfold targets (depthLimit - 1) entry.2)

/-- Replaces the aliases of a document. Of a mapping only those entries are kept whose keys
count; what stands in the others does not matter. -/
def unfoldDocument (counts : String → Bool) (document : Serial) : Option Node :=
  let targets := document.anchored
  let unfolding : Unfolding Node :=
    match document with
    | .mapping _ tag entries => do
      return .mapping tag ((← entries.mapM (unfoldEntry targets counts)).filterMap id)
    | other => unfold targets depthLimit other
  (·.1) <$> unfolding.run (repetitionLimit * document.size)

end Serial

end ActivityFlow.Yaml
