import ActivityFlow.Yaml.Token.Block
import ActivityFlow.Yaml.Token.Plain
import ActivityFlow.Yaml.Token.Quoted
import ActivityFlow.Yaml.Token.Tag

/-!
# Cutting a text into tokens

Outside of brackets, the column of a token opens and closes blocks. Whether a node is a key
shows only at the colon behind it, so the place of each node that may turn out to be a key
is remembered, one for every level of brackets.
-/
namespace ActivityFlow.Yaml

/-- A node that may be a key. -/
structure KeyCandidate where
  /-- The number of tokens before the node. -/
  index : Nat
  place : Place
  /-- Whether the block admits nothing else here. -/
  required : Bool

/-- The state between two tokens. -/
structure Lexer where
  cursor : Cursor
  /-- The tokens so far, the last one first. -/
  tokens : List Token
  count : Nat
  /-- The least column of what the innermost block holds besides its own entries; zero
  outside of all blocks. -/
  margin : Nat
  /-- The margins of the enclosing blocks, the inner ones first. -/
  outerMargins : List Nat
  /-- The candidate of the innermost level of brackets. -/
  candidate : Option KeyCandidate
  /-- The candidates of the enclosing levels, the inner ones first. -/
  outerCandidates : List (Option KeyCandidate)
  /-- Whether a key may begin here. -/
  keyAdmitted : Bool

namespace Lexer

/-- The state at the start of a text. -/
def start (cs : List Char) : Lexer := ⟨.start cs, [], 0, 0, [], none, [], true⟩

/-- Whether brackets are open. -/
def inFlow (s : Lexer) : Bool := !s.outerCandidates.isEmpty

def emit (s : Lexer) (token : Token) : Lexer :=
  { s with tokens := token :: s.tokens, count := s.count + 1 }

def insert (s : Lexer) (index : Nat) (token : Token) : Lexer :=
  { s with tokens := s.tokens.insertIdx (s.count - index) token, count := s.count + 1 }

/-- Appends a token that takes the given number of characters. -/
def take (s : Lexer) (token : Token) (length : Nat) : Lexer :=
  { s.emit token with cursor := s.cursor.skip length }

/-! ## Blocks -/

/-- Opens a block at a column that lies beyond the innermost one, with its first token behind
the given number of tokens. -/
def openBlock (s : Lexer) (column index : Nat) (token : Token) : Lexer :=
  if s.inFlow || column < s.margin then s
  else
    { s.insert index token with
      margin := column + 1
      outerMargins := s.margin :: s.outerMargins }

/-- The number of blocks to close until the margin is at most the given one, and the margins
that remain. -/
def closings (margin limit : Nat) : List Nat → Nat × Nat × List Nat
  | [] => (0, margin, [])
  | outer :: rest =>
    if limit < margin then
      let (n, remaining) := closings outer limit rest
      (n + 1, remaining)
    else (0, margin, outer :: rest)

/-- Closes blocks until the margin is at most the given one. -/
def closeBlocks (s : Lexer) (limit : Nat) : Lexer :=
  if s.inFlow then s
  else
    let (n, margin, outerMargins) := closings s.margin limit s.outerMargins
    { s with
      tokens := List.replicate n .blockEnd ++ s.tokens
      count := s.count + n
      margin, outerMargins }

/-! ## Candidates for keys -/

/-- Gives up the candidate of the innermost level. A required one may not be given up. -/
def dropCandidate (s : Lexer) : Option Lexer :=
  if s.candidate.any (·.required) then none else some { s with candidate := none }

/-- Makes the next node a candidate if a key may begin here. -/
def markCandidate (s : Lexer) : Option Lexer :=
  if s.keyAdmitted then do
    let required := !s.inFlow && s.margin == s.cursor.column + 1
    let s ← s.dropCandidate
    return { s with candidate := some ⟨s.count, s.cursor.place, required⟩ }
  else some s

/-- Whether a key may still reach from the candidate to a place: it has to fit one line and
1024 characters. -/
def KeyCandidate.reaches (candidate : KeyCandidate) (place : Place) : Bool :=
  candidate.place.line == place.line && place.index ≤ candidate.place.index + 1024

/-- A candidate that still reaches to a place. A required one has to. -/
def refresh (place : Place) : Option KeyCandidate → Option (Option KeyCandidate)
  | none => some none
  | some candidate =>
    if KeyCandidate.reaches candidate place then some (some candidate)
    else if candidate.required then none
    else some none

/-- Gives up the candidates that are too far away. -/
def refreshCandidates (s : Lexer) : Option Lexer := do
  let candidate ← refresh s.cursor.place s.candidate
  let outerCandidates ← s.outerCandidates.mapM (refresh s.cursor.place)
  return { s with candidate, outerCandidates }

/-! ## What stands between tokens -/

/-- Skips blanks, comments and line breaks; a byte order mark may begin a line. Tabs are not
skipped where they would be indentation. Outside of brackets a key may begin after a line
break. -/
def skipGap (inFlow comment keyAdmitted : Bool) (place : Place) : List Char → Cursor × Bool
  | [] => (⟨[], place⟩, keyAdmitted)
  | c :: rest =>
    let after := place.after c
    if isBreak c then skipGap inFlow false (keyAdmitted || !inFlow) after rest
    else if comment || c == ' ' || (c == '\t' && (inFlow || !keyAdmitted)) ||
        (c == '\ufeff' && place.column == 0) then
      skipGap inFlow comment keyAdmitted after rest
    else if c == '#' then skipGap inFlow true keyAdmitted after rest
    else (⟨c :: rest, place⟩, keyAdmitted)

/-- The state before the next token. -/
def approach (s : Lexer) : Option Lexer := do
  let (cursor, keyAdmitted) := skipGap s.inFlow false s.keyAdmitted s.cursor.place s.cursor.rest
  let s ← { s with cursor, keyAdmitted }.refreshCandidates
  return s.closeBlocks (cursor.column + 1)

/-! ## Tokens -/

/-- Closes all blocks, as at the ends of documents. -/
def leaveBlocks (s : Lexer) : Option Lexer := do
  let s ← (s.closeBlocks 0).dropCandidate
  return { s with keyAdmitted := false }

/-- The start of a collection in brackets. -/
def openFlow (s : Lexer) (token : Token) : Option Lexer := do
  let s ← s.markCandidate
  return { s.take token 1 with
    candidate := none
    outerCandidates := s.candidate :: s.outerCandidates
    keyAdmitted := true }

/-- The end of a collection in brackets. -/
def closeFlow (s : Lexer) (token : Token) : Option Lexer := do
  let s := { (← s.dropCandidate).take token 1 with keyAdmitted := false }
  match s.outerCandidates with
  | [] => return s
  | candidate :: outerCandidates => return { s with candidate, outerCandidates }

/-- The mark between the entries of a collection in brackets. -/
def flowEntry (s : Lexer) : Option Lexer := do
  return { (← s.dropCandidate).take .flowEntry 1 with keyAdmitted := true }

/-- Opens a block at the cursor where a key may begin. -/
def openBlockHere (s : Lexer) (token : Token) : Option Lexer :=
  if s.inFlow then some s
  else if s.keyAdmitted then some (s.openBlock s.cursor.column s.count token)
  else none

/-- The mark of a list entry. -/
def blockEntry (s : Lexer) : Option Lexer := do
  let s ← (← s.openBlockHere .blockSequenceStart).dropCandidate
  return { s.take .blockEntry 1 with keyAdmitted := true }

def key (s : Lexer) : Option Lexer := do
  let s ← (← s.openBlockHere .blockMappingStart).dropCandidate
  return { s.take .key 1 with keyAdmitted := !s.inFlow }

/-- The mark of a value. It makes the candidate a key. -/
def value (s : Lexer) : Option Lexer := do
  match s.candidate with
  | some candidate =>
    let s := { s.insert candidate.index .key with candidate := none, keyAdmitted := false }
    return (s.openBlock candidate.place.column candidate.index .blockMappingStart).take .value 1
  | none =>
    let s ← s.openBlockHere .blockMappingStart
    return { s.take .value 1 with keyAdmitted := !s.inFlow }

def node (s : Lexer) (read : Cursor → Option (Token × Cursor)) : Option Lexer := do
  let s ← s.markCandidate
  let (token, cursor) ← read s.cursor
  return { s.emit token with cursor, keyAdmitted := false }

def blockScalar (s : Lexer) : Option Lexer := do
  let s ← s.dropCandidate
  let (cs, cursor) ← Block.read s.margin s.cursor
  return { s.emit (.scalar (String.ofList cs) .quoted) with cursor, keyAdmitted := true }

/-- A plain scalar. A key may begin after the line breaks behind it. -/
def plainScalar (s : Lexer) : Option Lexer := do
  let s ← s.markCandidate
  let reading ← Plain.read s.inFlow s.margin s.cursor
  return { s.emit (.scalar (String.ofList reading.text) .plain) with
    cursor := reading.cursor
    keyAdmitted := reading.broken }

/-- Whether a plain scalar may begin with a character, given the rest of the text. -/
def beginsPlain (inFlow : Bool) (c : Char) (rest : List Char) : Bool :=
  if c == '-' then !rest.head?.any isSpace
  else if c == '?' || c == ':' then !inFlow && !endsWord rest
  else !isGap c && !",[]\x7b\x7d#&*!|>'\"%@`".toList.contains c

/-- Reads the token at the cursor, which begins with the given character. -/
def dispatch (s : Lexer) (c : Char) (rest : List Char) : Option Lexer :=
  let marksWord := s.inFlow || endsWord rest
  if s.cursor.column == 0 && c == '%' then do
    let s ← s.leaveBlocks
    let (token, cursor) ← Directive.read s.cursor
    return { s.emit token with cursor }
  else if s.cursor.isAtMarker '-' then s.leaveBlocks.map (·.take .documentStart 3)
  else if s.cursor.isAtMarker '.' then s.leaveBlocks.map (·.take .documentEnd 3)
  else if c == '[' then s.openFlow .flowSequenceStart
  else if c == '\x7b' then s.openFlow .flowMappingStart
  else if c == ']' then s.closeFlow .flowSequenceEnd
  else if c == '\x7d' then s.closeFlow .flowMappingEnd
  else if c == ',' then s.flowEntry
  else if c == '-' && endsWord rest then s.blockEntry
  else if c == '?' && marksWord then s.key
  else if c == ':' && marksWord then s.value
  else if c == '*' then
    s.node fun cursor => (Anchor.name? cursor).map fun (name, next) => (.alias name, next)
  else if c == '&' then
    s.node fun cursor => (Anchor.name? cursor).map fun (name, next) => (.anchor name, next)
  else if c == '!' then s.node (Tag.read s.inFlow)
  else if (c == '|' || c == '>') && !s.inFlow then s.blockScalar
  else if c == '\'' || c == '"' then
    s.node fun cursor =>
      (Quoted.read cursor).map fun (cs, next) => (.scalar (String.ofList cs) .quoted, next)
  else if beginsPlain s.inFlow c rest then s.plainScalar
  else none

/-- Reads tokens to the end of the text; each one takes a character at least. -/
def run (s : Lexer) : Nat → Option (List Token)
  | 0 => none
  | fuel + 1 => do
    let s ← s.approach
    match s.cursor.rest with
    | [] => return (← s.leaveBlocks).tokens.reverse
    | c :: rest => (← s.dispatch c rest).run fuel

end Lexer

def tokens? (s : String) : Option (List Token) :=
  let cs := unifyBreaks s.toList
  if s.toList.all isAdmitted then (Lexer.start cs).run (cs.length + 1) else none

end ActivityFlow.Yaml
