import ActivityFlow.Yaml.Scalar

/-!
# Documents as written

A document as it was written, with anchors and aliases. Anchors are numbered by the reader;
where two nodes have one number, an alias means the later one.
-/
namespace ActivityFlow.Yaml

/-- A node as it was written. -/
inductive Serial where
  | alias (number : Nat)
  | scalar (anchor : Option Nat) (value : Scalar)
  | sequence (anchor : Option Nat) (tag : Option String) (items : List Serial)
  | mapping (anchor : Option Nat) (tag : Option String) (entries : List (Serial × Serial))
deriving Inhabited

namespace Serial

/-- The node that stands where nothing was written. -/
def empty : Serial := .scalar none .empty

mutual

/-- How many marks a node is made of: one for a scalar or an alias, and one for each end of a
collection. -/
def size : Serial → Nat
  | .alias _ => 1
  | .scalar _ _ => 1
  | .sequence _ _ items => 2 + itemsSize items
  | .mapping _ _ entries => 2 + entriesSize entries

/-- The marks of the items of a sequence. -/
def itemsSize : List Serial → Nat
  | [] => 0
  | item :: rest => size item + itemsSize rest

/-- The marks of the entries of a mapping. -/
def entriesSize : List (Serial × Serial) → Nat
  | [] => 0
  | (key, value) :: rest => size key + size value + entriesSize rest

end

def labelled (anchor : Option Nat) (node : Serial) : List (Nat × Serial) :=
  match anchor with
  | none => []
  | some n => [(n, node)]

mutual

/-- The nodes with anchors, in the order in which they begin. -/
def anchored : Serial → List (Nat × Serial)
  | .alias _ => []
  | .scalar anchor value => labelled anchor (.scalar anchor value)
  | .sequence anchor tag items =>
    labelled anchor (.sequence anchor tag items) ++ itemsAnchored items
  | .mapping anchor tag entries =>
    labelled anchor (.mapping anchor tag entries) ++ entriesAnchored entries

/-- The nodes with anchors among the items of a sequence. -/
def itemsAnchored : List Serial → List (Nat × Serial)
  | [] => []
  | item :: rest => anchored item ++ itemsAnchored rest

/-- The nodes with anchors among the entries of a mapping. -/
def entriesAnchored : List (Serial × Serial) → List (Nat × Serial)
  | [] => []
  | (key, value) :: rest => anchored key ++ anchored value ++ entriesAnchored rest

end

end Serial

end ActivityFlow.Yaml
