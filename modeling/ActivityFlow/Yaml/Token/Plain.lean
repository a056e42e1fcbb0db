import ActivityFlow.Yaml.Token.Gap

/-!
# Plain scalars

A plain scalar ends before a comment, before a colon that ends a word, at a line with too
little indentation, and between brackets also before a bracket or a comma.
-/
namespace ActivityFlow.Yaml.Plain

/-- The characters with a meaning of their own between brackets. -/
def isFlowMark (c : Char) : Bool :=
  c == ',' || c == '[' || c == ']' || c == '\x7b' || c == '\x7d'

/-- Reads one word. Between brackets, a colon in front of a bracket, a comma or a question
mark is refused. -/
def word (inFlow : Bool) (place : Place) : List Char → Option (List Char × Cursor)
  | [] => some ([], ⟨[], place⟩)
  | c :: rest =>
    if isGap c then some ([], ⟨c :: rest, place⟩)
    else if inFlow && c == ':' && rest.head?.any (fun d => isFlowMark d || d == '?') then none
    else if (c == ':' && endsWord rest) || (inFlow && isFlowMark c) then
      some ([], ⟨c :: rest, place⟩)
    else do
      let (more, next) ← word inFlow (place.after c) rest
      return (c :: more, next)

structure Reading where
  text : List Char
  /-- Whether line breaks follow the text. -/
  broken : Bool
  cursor : Cursor

/-- Reads words and the gaps between them; the gap before the next word is given. -/
def words (inFlow : Bool) (indent : Nat) (gap : Gap) (cursor : Cursor) : Nat → Option Reading
  | 0 => some ⟨[], gap.isBroken, cursor⟩
  | fuel + 1 =>
    if cursor.isAtBoundary || cursor.isAt '#' then some ⟨[], gap.isBroken, cursor⟩
    else do
      let (cs, next) ← word inFlow cursor.place cursor.rest
      if !next.rest.head?.any isGap then
        return ⟨cs, cs.isEmpty && gap.isBroken, next⟩
      else
        let (following, after) ← Gap.read indent next
        if !inFlow && after.column < indent then return ⟨cs, following.isBroken, after⟩
        else
          let more ← words inFlow indent following after fuel
          if more.text.isEmpty then return { more with text := cs }
          else return { more with text := cs ++ following.text ++ more.text }

/-- Reads a plain scalar whose further lines have to begin at the given column or beyond. -/
def read (inFlow : Bool) (indent : Nat) (cursor : Cursor) : Option Reading :=
  words inFlow indent .none cursor (cursor.rest.length + 1)

end ActivityFlow.Yaml.Plain
