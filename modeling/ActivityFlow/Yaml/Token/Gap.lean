import ActivityFlow.Yaml.Cursor

/-!
# Gaps between words

Between two words of a scalar stand blanks, or line breaks with blanks around them. Blanks
are kept. A single line break is read as one blank; of several, the first only separates.
-/
namespace ActivityFlow.Yaml

/-- What stands between two words. -/
inductive Gap where
  | blanks (cs : List Char)
  /-- Line breaks; the first one is missing if it was written as an escape. -/
  | breaks (first : Option Char) (more : List Char)

namespace Gap

def none : Gap := .blanks []

def text : Gap → List Char
  | .blanks cs => cs
  | .breaks (some '\n') [] => [' ']
  | .breaks (some '\n') more => more
  | .breaks (some c) more => c :: more
  | .breaks .none more => more

/-- Whether a gap reaches beyond its line. -/
def isBroken : Gap → Bool
  | .blanks _ => false
  | .breaks _ _ => true

/-- Reads the breaks after a first one, with the blanks around them. A tab left of the given
column would be indentation and is refused. -/
def moreBreaks (column : Nat) (place : Place) : List Char → Option (List Char × Cursor)
  | [] => some ([], ⟨[], place⟩)
  | c :: rest =>
    if isBreak c then do
      let (more, next) ← moreBreaks column (place.after c) rest
      return (c :: more, next)
    else if c == '\t' && place.column < column then .none
    else if isSpace c then moreBreaks column (place.after c) rest
    else some ([], ⟨c :: rest, place⟩)

def read (column : Nat) (cursor : Cursor) : Option (Gap × Cursor) := do
  let (cs, next) := cursor.span isSpace
  match next.rest with
  | [] => return (.blanks cs, next)
  | c :: rest =>
    if isBreak c then
      let (more, after) ← moreBreaks column (next.place.after c) rest
      return (.breaks (some c) more, after)
    else return (.blanks cs, next)

end Gap

end ActivityFlow.Yaml
