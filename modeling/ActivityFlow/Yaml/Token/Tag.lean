import ActivityFlow.Text.Digits
import ActivityFlow.Text.Utf8
import ActivityFlow.Yaml.Cursor
import ActivityFlow.Yaml.Token

/-!
# Properties and directives

An anchor names a node, an alias repeats it, and a tag says what type it has. The handle of
a tag abbreviates the beginning of its name. Directives before a document state the version
and declare handles.
-/
namespace ActivityFlow.Yaml

namespace Tag

/-- Whether a character may occur in the written name of a tag. -/
def isNamePart (c : Char) : Bool := isNameChar c || ";/?:@&=+$.!~*'()%".toList.contains c

/-- Whether a character may occur in a tag name that has a mark at its end. -/
def isEnclosedPart (c : Char) : Bool := isNamePart c || c == ',' || c == '[' || c == ']'

/-- The bytes of a name in which percent forms stand for bytes; any other use of the percent
sign is refused. -/
def bytes? : List Char → Option (List UInt8)
  | [] => some []
  | '%' :: a :: b :: rest => do
    let n := (← Text.hexDigit? a) * 16 + (← Text.hexDigit? b)
    return UInt8.ofNat n :: (← bytes? rest)
  | c :: rest => if c == '%' then none else do return String.utf8EncodeChar c ++ (← bytes? rest)

/-- Reads a name of a tag, which must not be empty. -/
def name? (kind : Char → Bool) (cursor : Cursor) : Option (String × Cursor) := do
  let (cs, next) := cursor.span kind
  if cs.isEmpty then none
  else return (← Text.decode? (← bytes? cs), next)

/-- Reads a handle between two exclamation marks, if there is one. -/
def namedHandle? (cursor : Cursor) : Option (String × Cursor) :=
  let (cs, next) := cursor.advance.span isNameChar
  if next.isAt '!' then some ("!" ++ String.ofList cs ++ "!", next.advance) else none

/-- Reads a tag: a full name between angle brackets, a handle with the rest of a name, a
name after a single mark, or the mark alone. -/
def read (inFlow : Bool) (cursor : Cursor) : Option (Token × Cursor) := do
  let (token, next) ←
    if cursor.advance.isAt '<' then do
      let (name, next) ← name? isEnclosedPart (cursor.skip 2)
      if next.isAt '>' then some (.tag "" name, next.advance) else none
    else
      match namedHandle? cursor with
      | some (handle, next) => do
        let (name, next) ← name? isNamePart next
        some (.tag handle name, next)
      | none =>
        if cursor.advance.rest.head?.any isNamePart then do
          let (name, next) ← name? isNamePart cursor.advance
          some (.tag "!" name, next)
        else some (.tag "" "!", cursor.advance)
  if endsWord next.rest || (inFlow && next.isAt ',') then some (token, next) else none

end Tag

namespace Anchor

/-- Reads the name of an anchor or of an alias after its mark. -/
def name? (cursor : Cursor) : Option (String × Cursor) :=
  let (cs, next) := cursor.advance.span isNameChar
  if cs.isEmpty then none
  else if endsWord next.rest || next.rest.head?.any "?:,]\x7d%@`".toList.contains then
    some (String.ofList cs, next)
  else none

end Anchor

namespace Directive

/-- Reads one part of a version, which has at most nine digits. -/
def number? (cursor : Cursor) : Option (Nat × Cursor) := do
  let (cs, next) := cursor.span Char.isDigit
  if 9 < cs.length then none else return (← Text.natural? 10 cs, next)

/-- Reads what a directive of the given name declares. -/
def declaration? (name : String) (cursor : Cursor) : Option (Token × Cursor) := do
  let cursor := cursor.pass isSpace
  if name = "YAML" then
    let (major, next) ← number? cursor
    if !next.isAt '.' then none
    else
      let (minor, next) ← number? next.advance
      return (.version major minor, next)
  else if name = "TAG" then
    if !cursor.isAt '!' then none
    else
      let (handle, next) := (Tag.namedHandle? cursor).getD ("!", cursor.advance)
      if !next.rest.head?.any isSpace then none
      else
        let (expansion, next) ← Tag.name? Tag.isEnclosedPart (next.pass isSpace)
        if endsWord next.rest then return (.handle handle expansion, next) else none
  else none

/-- Reads a directive to the end of its line; the cursor is at its mark. -/
def read (cursor : Cursor) : Option (Token × Cursor) := do
  let (name, next) := cursor.advance.span isNameChar
  if !endsWord next.rest then none
  else
    let (token, next) ← declaration? (String.ofList name) next
    let next := next.pass isSpace
    let next := if next.isAt '#' then next.pass fun c => !isBreak c else next
    if next.rest.head?.all isBreak then return (token, next.advance) else none

end Directive

end ActivityFlow.Yaml
