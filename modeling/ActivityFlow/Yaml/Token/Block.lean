import ActivityFlow.Yaml.Cursor

/-!
# Block scalars

A block scalar is a sequence of indented lines. In a literal one the line breaks stay; in
a folded one a single break between two lines that begin with a word is read as a blank.
What happens to the breaks at the end is said in the header.
-/
namespace ActivityFlow.Yaml.Block

/-- What happens to the line breaks at the end. -/
inductive Chomping where
  | strip
  | clip
  | keep
deriving DecidableEq

/-- The chomping that a header character asks for. -/
def chomping? (c : Char) : Option Chomping :=
  if c == '+' then some .keep else if c == '-' then some .strip else none

/-- The indentation that a header character asks for. -/
def indentation? (c : Char) : Option Nat :=
  if c.isDigit && c != '0' then some (c.toNat - 48) else none

/-- The header of a block scalar: its chomping, the indentation if it is given, and the
cursor behind. -/
def header (cursor : Cursor) : Chomping × Option Nat × Cursor :=
  match cursor.rest.head?.bind chomping? with
  | some chomping =>
    let next := cursor.advance
    match next.rest.head?.bind indentation? with
    | some n => (chomping, some n, next.advance)
    | none => (chomping, none, next)
  | none =>
    match cursor.rest.head?.bind indentation? with
    | some n =>
      let next := cursor.advance
      match next.rest.head?.bind chomping? with
      | some chomping => (chomping, some n, next.advance)
      | none => (.clip, some n, next)
    | none => (.clip, none, cursor)

/-- Empty lines: their breaks, the largest column reached in them and in the indentation of
the line after them, and the cursor behind. -/
structure EmptyLines where
  breaks : List Char
  deepest : Nat
  cursor : Cursor

/-- Reads empty lines and the indentation of the line after them, up to the indentation of
the scalar if that is known. A tab in the place of indentation is refused. -/
def emptyLines (indent : Option Nat) (deepest : Nat) (place : Place) :
    List Char → Option EmptyLines
  | [] => some ⟨[], max deepest place.column, ⟨[], place⟩⟩
  | c :: rest =>
    let indenting := indent.all fun n => place.column < n
    let deepest := max deepest place.column
    if c == ' ' && indenting then emptyLines indent deepest (place.after c) rest
    else if c == '\t' && indenting then none
    else if isBreak c then
      (emptyLines indent deepest (place.after c) rest).map fun lines =>
        { lines with breaks := c :: lines.breaks }
    else some ⟨[], deepest, ⟨c :: rest, place⟩⟩

/-- The part of a block scalar after a line: the line's break, the breaks of the empty
lines after it, and whether the line began with a blank. -/
structure Tail where
  first : List Char
  more : List Char
  indented : Bool

/-- What stands between the lines before and a line. -/
def Tail.joint (tail : Tail) (folded indented : Bool) : List Char :=
  if folded && tail.first == ['\n'] && !tail.indented && !indented then
    if tail.more.isEmpty then [' '] else tail.more
  else tail.first ++ tail.more

/-- What remains of the breaks at the end. -/
def Tail.chomped (tail : Tail) : Chomping → List Char
  | .strip => []
  | .clip => tail.first
  | .keep => tail.first ++ tail.more

/-- Reads lines that begin at the given column. -/
def lines (folded : Bool) (chomping : Chomping) (indent : Nat) (tail : Tail) (cursor : Cursor) :
    Nat → Option (List Char × Cursor)
  | 0 => none
  | fuel + 1 =>
    if cursor.column != indent || cursor.rest.isEmpty then some (tail.chomped chomping, cursor)
    else do
      let indented := cursor.rest.head?.any isSpace
      let (line, next) := cursor.span fun c => !isBreak c
      let first := next.rest.take 1
      let next := next.advance
      let following ← emptyLines (some indent) 0 next.place next.rest
      let (more, after) ←
        lines folded chomping indent ⟨first, following.breaks, indented⟩ following.cursor fuel
      return (tail.joint folded indented ++ line ++ more, after)

/-- Reads a block scalar; the cursor is at its first mark. The margin is the least column of
what the enclosing block holds. -/
def read (margin : Nat) (cursor : Cursor) : Option (List Char × Cursor) := do
  let (chomping, given, next) := header cursor.advance
  let next := next.pass isSpace
  let next := if next.isAt '#' then next.pass fun c => !isBreak c else next
  if next.rest.head?.any fun c => !isBreak c then none
  else
    let next := next.advance
    let indent := given.map fun n => (margin - 1) + n
    let leading ← emptyLines indent 0 next.place next.rest
    let indent := indent.getD (max (max leading.deepest margin) 1)
    lines (cursor.isAt '>') chomping indent ⟨[], leading.breaks, false⟩ leading.cursor
      (next.rest.length + 1)

end ActivityFlow.Yaml.Block
