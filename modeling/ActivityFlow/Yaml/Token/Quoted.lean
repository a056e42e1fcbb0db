import ActivityFlow.Text.Digits
import ActivityFlow.Yaml.Token.Gap

/-!
# Quoted scalars

Between single quotes only the quote itself has to be written twice. Between double quotes a
backslash starts an escape, also one for the end of a line, which joins two lines without a
blank.
-/
namespace ActivityFlow.Yaml.Quoted

/-- Why a run of characters ended. -/
inductive Stop where
  | closed
  | gap
  | escapedBreak

/-- A run of characters without a gap. -/
structure Run where
  text : List Char
  stop : Stop
  cursor : Cursor

/-- A run with one more character in front. -/
def Run.cons (c : Char) (run : Run) : Run := { run with text := c :: run.text }

def singleRun (place : Place) : List Char → Option Run
  | [] => none
  | '\'' :: '\'' :: rest =>
    (singleRun ((place.after '\'').after '\'') rest).map (.cons '\'')
  | c :: rest =>
    if c == '\'' then some ⟨[], .closed, ⟨rest, place.after c⟩⟩
    else if isGap c then some ⟨[], .gap, ⟨c :: rest, place⟩⟩
    else (singleRun (place.after c) rest).map (.cons c)

/-- The character that a one-letter escape stands for. -/
def escaped? (c : Char) : Option Char :=
  match c with
  | '0' => some '\x00'
  | 'a' => some '\x07'
  | 'b' => some '\x08'
  | 't' => some '\t'
  | '\t' => some '\t'
  | 'n' => some '\n'
  | 'v' => some '\x0b'
  | 'f' => some '\x0c'
  | 'r' => some '\r'
  | 'e' => some '\x1b'
  | ' ' => some ' '
  | '"' => some '"'
  | '/' => some '/'
  | '\\' => some '\\'
  | 'N' => some '\u0085'
  | '_' => some '\u00a0'
  | 'L' => some '\u2028'
  | 'P' => some '\u2029'
  | _ => none

/-- How many hexadecimal digits follow the letter of an escape. -/
def codeLength? (c : Char) : Option Nat :=
  match c with
  | 'x' => some 2
  | 'u' => some 4
  | 'U' => some 8
  | _ => none

/-- The character of a code point; surrogates and numbers that are too large have none. -/
def charOf? (n : Nat) : Option Char := if n.isValidChar then some (Char.ofNat n) else none

/-- Where the reader stands in a run between double quotes. -/
inductive Mode where
  | direct
  | escape
  /-- Digits of a code point are due: how many, and the number so far. -/
  | code (due : Nat) (number : Nat)

def doubleRun (mode : Mode) (place : Place) : List Char → Option Run
  | [] => none
  | c :: rest =>
    let after := place.after c
    match mode with
    | .direct =>
      if c == '"' then some ⟨[], .closed, ⟨rest, after⟩⟩
      else if isGap c then some ⟨[], .gap, ⟨c :: rest, place⟩⟩
      else if c == '\\' then doubleRun .escape after rest
      else (doubleRun .direct after rest).map (.cons c)
    | .escape =>
      if isBreak c then some ⟨[], .escapedBreak, ⟨rest, after⟩⟩
      else
        match codeLength? c with
        | some due => doubleRun (.code due 0) after rest
        | none => do
          let e ← escaped? c
          (doubleRun .direct after rest).map (.cons e)
    | .code due number => do
      let number := number * 16 + (← Text.hexDigit? c)
      if 1 < due then doubleRun (.code (due - 1) number) after rest
      else
        let e ← charOf? number
        (doubleRun .direct after rest).map (.cons e)

def run (isDouble : Bool) (cursor : Cursor) : Option Run :=
  if isDouble then doubleRun .direct cursor.place cursor.rest
  else singleRun cursor.place cursor.rest

/-- Reads runs and the gaps between them up to the closing quote. -/
def runs (isDouble : Bool) (cursor : Cursor) : Nat → Option (List Char × Cursor)
  | 0 => none
  | fuel + 1 => do
    if cursor.isAtBoundary then none
    else
      let first ← run isDouble cursor
      match first.stop with
      | .closed => return (first.text, first.cursor)
      | .gap =>
        let (gap, next) ← Gap.read 0 first.cursor
        let (more, after) ← runs isDouble next fuel
        return (first.text ++ gap.text ++ more, after)
      | .escapedBreak =>
        let (breaks, next) ← Gap.moreBreaks 0 first.cursor.place first.cursor.rest
        let (more, after) ← runs isDouble next fuel
        return (first.text ++ (Gap.breaks none breaks).text ++ more, after)

/-- Reads a quoted scalar; the cursor is at the opening quote. -/
def read (cursor : Cursor) : Option (List Char × Cursor) :=
  runs (cursor.isAt '"') cursor.advance (cursor.rest.length + 1)

end ActivityFlow.Yaml.Quoted
