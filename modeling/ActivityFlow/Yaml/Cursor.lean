/-!
# Places in a text

A text is read from left to right. Its reader knows the line and the column where it
stands, because indentation carries meaning. Line breaks are first written in one way, so
that a break is one character everywhere.
-/
namespace ActivityFlow.Yaml

/-- Whether a character may occur in a text at all. -/
def isAdmitted (c : Char) : Bool :=
  let n := c.toNat
  n == 0x09 || n == 0x0A || n == 0x0D || (0x20 ≤ n && n ≤ 0x7E) || n == 0x85 ||
    (0xA0 ≤ n && n ≤ 0xD7FF) || (0xE000 ≤ n && n ≤ 0xFFFD) || 0x10000 ≤ n

/-- Writes every carriage return, line feed, pair of the two, and next-line character as a
line feed. -/
def unifyBreaks : List Char → List Char
  | '\r' :: '\n' :: rest => '\n' :: unifyBreaks rest
  | c :: rest => (if c == '\r' || c == '\x85' then '\n' else c) :: unifyBreaks rest
  | [] => []

/-- Whether a character ends a line: a line feed, or a line or paragraph separator. -/
def isBreak (c : Char) : Bool := c == '\n' || c == '\u2028' || c == '\u2029'

/-- Whether a character separates words in a line. -/
def isSpace (c : Char) : Bool := c == ' ' || c == '\t'

/-- Whether a character separates words in a text. -/
def isGap (c : Char) : Bool := isSpace c || isBreak c

/-- Whether a character may occur in a name. -/
def isNameChar (c : Char) : Bool := c.isAlphanum || c == '_' || c == '-'

/-- Whether a word ends before the given rest of a text. -/
def endsWord : List Char → Bool
  | [] => true
  | c :: _ => isGap c

structure Place where
  line : Nat
  column : Nat
  /-- The number of characters before the place. -/
  index : Nat

def Place.after (place : Place) (c : Char) : Place :=
  if isBreak c then ⟨place.line + 1, 0, place.index + 1⟩
  else ⟨place.line, place.column + 1, place.index + 1⟩

/-- The rest of a text and the place where it begins. -/
structure Cursor where
  rest : List Char
  place : Place

namespace Cursor

def start (cs : List Char) : Cursor := ⟨cs, ⟨0, 0, 0⟩⟩

def column (cursor : Cursor) : Nat := cursor.place.column

/-- The cursor one character further. -/
def advance (cursor : Cursor) : Cursor :=
  match cursor.rest with
  | [] => cursor
  | c :: rest => ⟨rest, cursor.place.after c⟩

def skip (cursor : Cursor) : Nat → Cursor
  | 0 => cursor
  | n + 1 => cursor.advance.skip n

/-- The longest run of characters of one kind, and the cursor after it. -/
def span (cursor : Cursor) (kind : Char → Bool) : List Char × Cursor :=
  let run := cursor.rest.takeWhile kind
  (run, ⟨cursor.rest.dropWhile kind, run.foldl Place.after cursor.place⟩)

/-- The cursor after the longest run of characters of one kind. -/
def pass (cursor : Cursor) (kind : Char → Bool) : Cursor := (cursor.span kind).2

/-- Whether the next character is the given one. -/
def isAt (cursor : Cursor) (c : Char) : Bool := cursor.rest.head? == some c

/-- Whether the line begins here with three characters of one kind, as a word of their own. -/
def isAtMarker (cursor : Cursor) (c : Char) : Bool :=
  cursor.column == 0 && cursor.rest.take 3 == [c, c, c] && endsWord (cursor.rest.drop 3)

/-- Whether a document begins or ends here. -/
def isAtBoundary (cursor : Cursor) : Bool := cursor.isAtMarker '-' || cursor.isAtMarker '.'

end Cursor

end ActivityFlow.Yaml
