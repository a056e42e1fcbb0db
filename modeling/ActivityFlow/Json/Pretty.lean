import ActivityFlow.Json.Printer

/-!
# Indented documents

A document for readers: every item and every entry has a line of its own, two blanks deeper
than the collection that holds it.
-/
namespace ActivityFlow.Json

def newLine (depth : Nat) : List Char := '\n' :: List.replicate (2 * depth) ' '

mutual

/-- The characters of a document whose first line is indented elsewhere. -/
def prettyChars (depth : Nat) : Json → List Char
  | .array [] => ['[', ']']
  | .array (item :: rest) => '[' :: prettyItems (depth + 1) (item :: rest) ++ newLine depth ++ [']']
  | .object [] => ['\x7b', '\x7d']
  | .object (e :: rest) =>
    '\x7b' :: prettyEntries (depth + 1) (e :: rest) ++ newLine depth ++ ['\x7d']
  | other => chars other

def prettyItems (depth : Nat) : List Json → List Char
  | [] => []
  | [item] => newLine depth ++ prettyChars depth item
  | item :: rest => newLine depth ++ prettyChars depth item ++ ',' :: prettyItems depth rest

/-- The entries of an object, each on its line. -/
def prettyEntries (depth : Nat) : List (String × Json) → List Char
  | [] => []
  | [(key, value)] => newLine depth ++ escapedText key ++ ':' :: ' ' :: prettyChars depth value
  | (key, value) :: rest =>
    newLine depth ++ escapedText key ++ ':' :: ' ' :: prettyChars depth value ++
      ',' :: prettyEntries depth rest

end

/-- The indented text of a document. -/
def pretty (value : Json) : String := String.ofList (prettyChars 0 value)

end ActivityFlow.Json
