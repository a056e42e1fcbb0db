import ActivityFlow.Pattern.Basic
import ActivityFlow.Pattern.Property
import ActivityFlow.Text.Digits
import ActivityFlow.Words

/-!
# Reading patterns

The text of a pattern is read from left to right. Open parentheses, and in sets open
brackets, are kept on a stack; flags hold until the innermost parenthesis closes.
-/
namespace ActivityFlow

namespace Pattern

/-- The settings that flags in a pattern change. -/
structure Flags where
  anyCase : Bool
  /-- `^` and `$` hold at the ends of lines too. -/
  multiLine : Bool
  /-- A dot stands for line feeds too. -/
  dotAll : Bool
  /-- Carriage returns end lines too. -/
  carriageReturns : Bool
  /-- Letters, digits and blanks beyond ASCII count. -/
  unicode : Bool
  /-- White space and comments in the pattern are skipped. -/
  spaced : Bool

namespace Flags

/-- The flags at the start of a pattern. -/
def standard : Flags := ⟨false, false, false, false, true, false⟩

def switch? (flags : Flags) (letter : Char) (on : Bool) : Option Flags :=
  if letter == 'i' then some { flags with anyCase := on }
  else if letter == 'm' then some { flags with multiLine := on }
  else if letter == 's' then some { flags with dotAll := on }
  else if letter == 'R' then some { flags with carriageReturns := on }
  else if letter == 'u' then some { flags with unicode := on }
  else if letter == 'x' then some { flags with spaced := on }
  else if letter == 'U' then some flags
  else none

/-- A set with all characters that the flags make equal to its members. -/
def close (flags : Flags) (set : CharSet) : CharSet :=
  if !flags.anyCase then set
  else if flags.unicode then .anyCase set
  else .anyAsciiCase set

/-- The complement of a set. Without the characters beyond ASCII it would hold bytes that
are no characters. -/
def complement? (flags : Flags) (set : CharSet) : Option CharSet :=
  if flags.unicode then some (.complement set) else none

end Flags

def skipLine (cs : List Char) : List Char := (cs.dropWhile (· != '\n')).drop 1

/-- Skips white space and comments. -/
def skipSpacedFrom (fuel : Nat) (cs : List Char) : List Char :=
  match fuel with
  | 0 => cs
  | n + 1 =>
    match cs.dropWhile Text.isBlank with
    | '#' :: rest => skipSpacedFrom n (skipLine rest)
    | rest => rest

def skip (flags : Flags) (cs : List Char) : List Char :=
  if flags.spaced then skipSpacedFrom cs.length cs else cs

/-! ## Escapes -/

inductive Escape where
  | char (c : Char)
  /-- A number of two hexadecimal digits. -/
  | byte (n : Nat)
  | set (s : CharSet)
  | anchor (a : Anchor)

def charOfNat? (n : Nat) : Option Char := if n.isValidChar then some (Char.ofNat n) else none

/-- Reads what stands before a closing brace. -/
def readBraced (flags : Flags) (fuel : Nat) (cs : List Char) : Option (List Char × List Char) :=
  match fuel with
  | 0 => none
  | n + 1 =>
    match skip flags cs with
    | [] => none
    | '\x7d' :: rest => some ([], rest)
    | c :: rest => (readBraced flags n rest).map fun (body, after) => (c :: body, after)

/-- Reads so many characters. -/
def readCount (flags : Flags) (count : Nat) (cs : List Char) : Option (List Char × List Char) :=
  match count with
  | 0 => some ([], cs)
  | n + 1 =>
    match skip flags cs with
    | [] => none
    | c :: rest => (readCount flags n rest).map fun (body, after) => (c :: body, after)

/-- Reads the number of a character: so many digits, or any number of them in braces. -/
def readCode (flags : Flags) (digits : Nat) (cs : List Char) : Option (Escape × List Char) :=
  match skip flags cs with
  | '\x7b' :: rest => do
    let (code, after) ← readBraced flags (rest.length + 1) rest
    return (.char (← charOfNat? (← Text.natural? 16 code)), after)
  | rest => do
    let (code, after) ← readCount flags digits rest
    let n ← Text.natural? 16 code
    if digits = 2 then return (.byte n, after) else return (.char (← charOfNat? n), after)

def classSet? (flags : Flags) (letter : Char) : Option CharSet :=
  if letter == 'd' then some (if flags.unicode then .digit else .asciiDigit)
  else if letter == 's' then some (if flags.unicode then .blank else .asciiBlank)
  else if letter == 'w' then some (if flags.unicode then .word else .asciiWord)
  else none

def controlChar? (letter : Char) : Option Char :=
  if letter == 'a' then some '\x07'
  else if letter == 'f' then some '\x0c'
  else if letter == 't' then some '\t'
  else if letter == 'n' then some '\n'
  else if letter == 'r' then some '\r'
  else if letter == 'v' then some '\x0b'
  else none

def anchor? (flags : Flags) (letter : Char) : Option Anchor :=
  if letter == 'A' then some .textStart
  else if letter == 'z' then some .textEnd
  else if letter == 'b' then some (.wordEdge !flags.unicode)
  else if letter == 'B' then some (.noWordEdge !flags.unicode)
  else if letter == '<' then some (.wordStart !flags.unicode)
  else if letter == '>' then some (.wordEnd !flags.unicode)
  else none

/-- Whether a character stands for itself after a backslash. -/
def isPlainEscape (c : Char) : Bool :=
  c.toNat < 0x80 && !c.isAlphanum && c != '<' && c != '>'

/-- Whether a character can be part of the name of a word condition. -/
def isConditionChar (c : Char) : Bool := c.isAlpha || c == '-'

/-- Reads the braces after `\b`, if they name a word condition. -/
def readCondition (flags : Flags) (cs : List Char) : Option (Option (Anchor × List Char)) :=
  match cs with
  | '\x7b' :: rest =>
    match skip flags rest with
    | [] => none
    | first :: more =>
      if !isConditionChar first then some none
      else
        let word := (first :: more).takeWhile isConditionChar
        match (first :: more).drop word.length with
        | '\x7d' :: after =>
          let ascii := !flags.unicode
          match String.ofList word with
          | "start" => some (some (.wordStart ascii, after))
          | "end" => some (some (.wordEnd ascii, after))
          | "start-half" => some (some (.noWordBefore ascii, after))
          | "end-half" => some (some (.noWordAfter ascii, after))
          | _ => none
        | _ => none
  | _ => some none

/-- Reads a property after its letter: a name of one letter, or a name in braces. -/
def readProperty (flags : Flags) (negated : Bool) (cs : List Char) :
    Option (Escape × List Char) := do
  if !flags.unicode then none
  else
    let (name, after) ←
      match skip flags cs with
      | '\x7b' :: rest => readBraced flags (rest.length + 1) rest
      | c :: rest => if c == '\\' then none else some ([c], rest)
      | [] => none
    let (set, unlike) ← Property.read? name
    let closed := flags.close set
    return (.set (if negated != unlike then .complement closed else closed), after)

/-- Reads an escape, from the character after the backslash. -/
def readEscape (flags : Flags) : List Char → Option (Escape × List Char)
  | [] => none
  | c :: rest =>
    if c == 'x' then readCode flags 2 rest
    else if c == 'u' then readCode flags 4 rest
    else if c == 'U' then readCode flags 8 rest
    else if c == 'p' || c == 'P' then readProperty flags (c == 'P') rest
    else if isPlainEscape c then some (.char c, rest)
    else
      match controlChar? c, classSet? flags c, classSet? flags c.toLower with
      | some control, _, _ => some (.char control, rest)
      | none, some set, _ => some (.set set, rest)
      | none, none, some set =>
        (flags.complement? set).map fun other => (.set other, rest)
      | none, none, none => do
        let plain ← anchor? flags c
        if c == 'b' then
          match ← readCondition flags rest with
          | some (condition, after) => return (.anchor condition, after)
          | none => return (.anchor plain, rest)
        else return (.anchor plain, rest)

/-! ## Sets in brackets -/

inductive SetOperation where
  | inter
  | diff
  | symmDiff

def SetOperation.apply : SetOperation → CharSet → CharSet → CharSet
  | inter, s, t => .inter s t
  | diff, s, t => .diff s t
  | symmDiff, s, t => .symmDiff s t

/-- A bracket that is not closed yet. -/
structure OpenSet where
  negated : Bool
  /-- The operation that waits for its right-hand side, with its left-hand side. -/
  pending : Option (SetOperation × CharSet)
  members : CharSet

namespace OpenSet

/-- What the members and a waiting operation amount to. -/
def settled (bracket : OpenSet) (flags : Flags) : CharSet :=
  match bracket.pending with
  | none => bracket.members
  | some (operation, left) => operation.apply (flags.close left) (flags.close bracket.members)

def close? (bracket : OpenSet) (flags : Flags) : Option CharSet :=
  let set := flags.close (bracket.settled flags)
  if bracket.negated then flags.complement? set else some set

def add (bracket : OpenSet) (set : CharSet) : OpenSet :=
  { bracket with members := .union bracket.members set }

/-- Begins the right-hand side of an operation. -/
def operate (bracket : OpenSet) (flags : Flags) (operation : SetOperation) : OpenSet :=
  { bracket with pending := some (operation, bracket.settled flags), members := .none }

end OpenSet

def readHyphens (flags : Flags) (fuel : Nat) (set : OpenSet) (cs : List Char) :
    OpenSet × List Char :=
  match fuel with
  | 0 => (set, cs)
  | n + 1 =>
    match cs with
    | '-' :: rest => readHyphens flags n (set.add (.single '-')) (skip flags rest)
    | _ => (set, cs)

/-- Reads what has a meaning of its own after an opening bracket: a negation, hyphens, and
a closing bracket as the first member. -/
def readSetStart (flags : Flags) (cs : List Char) : OpenSet × List Char :=
  let cs := skip flags cs
  let (negated, cs) :=
    match cs with
    | '^' :: rest => (true, skip flags rest)
    | other => (false, other)
  let (set, after) := readHyphens flags cs.length ⟨negated, none, .none⟩ cs
  match after with
  | ']' :: rest =>
    if after.length = cs.length then (set.add (.single ']'), skip flags rest) else (set, after)
  | _ => (set, after)

/-- Reads a named class such as `[:alpha:]`, from the character after the bracket. -/
def readNamedClass (flags : Flags) (cs : List Char) : Option (Option CharSet × List Char) :=
  match cs with
  | ':' :: rest =>
    let (negated, rest) :=
      match rest with
      | '^' :: more => (true, more)
      | more => (false, more)
    let name := rest.takeWhile (· != ':')
    match rest.drop name.length with
    | ':' :: ']' :: after =>
      (CharSet.asciiClasses.lookup (String.ofList name)).map fun set =>
        (if negated then flags.complement? (flags.close set) else some (flags.close set), after)
    | _ => none
  | _ => none

/-- Reads one character or class inside a bracket. -/
def readMember (flags : Flags) : List Char → Option (Escape × List Char)
  | [] => none
  | '\\' :: rest => readEscape flags rest
  | c :: rest => some (.char c, rest)

/-- The character of a member of a set, if it is one. -/
def memberChar? (flags : Flags) : Escape → Option Char
  | .char c => if flags.unicode || c.toNat < 0x80 then some c else none
  | .byte n => if flags.unicode || n < 0x80 then some (Char.ofNat n) else none
  | .set _ | .anchor _ => none

def memberSet? (flags : Flags) : Escape → Option CharSet
  | .set s => some s
  | .anchor _ => none
  | other => (memberChar? flags other).map .single

/-- Whether a hyphen begins the second half of a range: neither the closing bracket nor
another hyphen follows it. -/
def rangeEnd? (flags : Flags) : List Char → Option (List Char)
  | '-' :: rest =>
    match skip flags rest with
    | ']' :: _ | '-' :: _ => none
    | other => some other
  | _ => none

def readRange (flags : Flags) (cs : List Char) : Option (CharSet × List Char) := do
  let (first, after) ← readMember flags cs
  let after := skip flags after
  match rangeEnd? flags after with
  | none => return (← memberSet? flags first, after)
  | some rest =>
    let (last, after) ← readMember flags rest
    let low ← memberChar? flags first
    let high ← memberChar? flags last
    if low ≤ high then return (.range low.toNat high.toNat, after) else none

/-- Reads a set up to the bracket that closes it. -/
def readSetFrom (flags : Flags) (fuel : Nat) (outer : List OpenSet) (set : OpenSet)
    (cs : List Char) : Option (CharSet × List Char) :=
  match fuel with
  | 0 => none
  | n + 1 =>
    match skip flags cs with
    | [] => none
    | '[' :: rest =>
      match readNamedClass flags rest with
      | some (some named, after) => readSetFrom flags n outer (set.add named) after
      | some (none, _) => none
      | none =>
        if outer.length < 249 then
          let (inner, after) := readSetStart flags rest
          readSetFrom flags n (set :: outer) inner after
        else none
    | ']' :: rest => do
      let closed ← set.close? flags
      match outer with
      | [] => return (closed, rest)
      | enclosing :: more => readSetFrom flags n more (enclosing.add closed) rest
    | '&' :: '&' :: rest => readSetFrom flags n outer (set.operate flags .inter) rest
    | '-' :: '-' :: rest => readSetFrom flags n outer (set.operate flags .diff) rest
    | '~' :: '~' :: rest => readSetFrom flags n outer (set.operate flags .symmDiff) rest
    | other => do
      let (members, after) ← readRange flags other
      readSetFrom flags n outer (set.add members) after

/-- Reads a set, from the character after its opening bracket. -/
def readSet (flags : Flags) (cs : List Char) : Option (CharSet × List Char) :=
  let (set, after) := readSetStart flags cs
  readSetFrom flags (cs.length + 1) [] set after

/-! ## Repetition -/

/-- Reads a decimal number with white space around it. -/
def readNumber (flags : Flags) (cs : List Char) : Option Nat × List Char :=
  let cs := cs.dropWhile Text.isBlank
  let (digits, after) :=
    if flags.spaced then
      let body := cs.takeWhile fun c => c.isDigit || Text.isBlank c
      (body.filter Char.isDigit, cs.drop body.length)
    else (cs.takeWhile Char.isDigit, cs.dropWhile Char.isDigit)
  let n := Text.decimalValue digits
  (if digits.isEmpty || words32 ≤ n then none else some n, after.dropWhile Text.isBlank)

/-- Reads the bounds of a repetition, from the character after the opening brace. -/
def readBounds (flags : Flags) (cs : List Char) : Option (Nat × Option Nat × List Char) := do
  let (least, after) := readNumber flags (skip flags cs)
  let least ← least
  match after with
  | '\x7d' :: rest => return (least, some least, rest)
  | ',' :: rest =>
    match skip flags rest with
    | '\x7d' :: rest => return (least, none, rest)
    | rest =>
      match readNumber flags rest with
      | (some most, '\x7d' :: rest) =>
        if least ≤ most then return (least, some most, rest) else none
      | _ => none
  | _ => none

/-! ## Groups -/

/-- A parenthesis that is not closed yet, or the whole pattern. Parts are kept in reverse;
a part that only sets flags is missing. -/
structure OpenGroup where
  /-- The flags that hold after the group. -/
  outside : Flags
  branches : List Pattern
  parts : List (Option Pattern)

namespace OpenGroup

/-- The parts so far, one after the other. -/
def sequence (g : OpenGroup) : Pattern :=
  match g.parts.reverse.filterMap id with
  | [] => .empty
  | first :: rest => (first :: rest).dropLast.foldr .seq ((first :: rest).getLast (by simp))

/-- The branches of a group that closes. -/
def close (g : OpenGroup) : Pattern :=
  g.branches.foldl (fun later branch => .alt branch later) g.sequence

end OpenGroup

/-- What stands after an opening parenthesis. -/
inductive GroupStart where
  /-- A group, with the name it has and the flags inside. -/
  | group (name : Option String) (inside : Flags)
  /-- Flags for the rest of the enclosing group. -/
  | flags (now : Flags)

/-- Whether a character can be part of a group's name. -/
def isNameChar (first : Bool) (c : Char) : Bool :=
  c == '_' ||
    if first then Text.isWordChar c && !Text.isDigitChar c
    else c == '.' || c == '[' || c == ']' || Text.isWordChar c

/-- Reads the name of a group, up to the angle bracket that ends it. -/
def readName (cs : List Char) : Option (String × List Char) :=
  let name := cs.takeWhile (· != '>')
  match name, cs.drop name.length with
  | first :: more, _ :: after =>
    if isNameChar true first && more.all (isNameChar false) then some (String.ofList name, after)
    else none
  | _, _ => none

/-- Reads flag letters up to the colon or parenthesis that ends them. -/
def readFlags (flags : Flags) (seen : List Char) (negative : Bool) :
    List Char → Option (Flags × Bool × Char × List Char)
  | [] => none
  | c :: rest =>
    if c == ':' || c == ')' then
      if seen.head? == some '-' then none else some (flags, seen.isEmpty, c, rest)
    else if seen.contains c then none
    else if c == '-' then readFlags flags (c :: seen) true rest
    else do
      let flags ← flags.switch? c (!negative)
      readFlags flags (c :: seen) negative rest

/-- Reads what stands after an opening parenthesis. -/
def readGroupStart (flags : Flags) (cs : List Char) : Option (GroupStart × List Char) :=
  match skip flags cs with
  | '?' :: 'P' :: '<' :: rest => (readName rest).map fun (name, after) =>
      (.group (some name) flags, after)
  | '?' :: '<' :: rest => (readName rest).map fun (name, after) =>
      (.group (some name) flags, after)
  | '?' :: rest => do
    let (inside, isEmpty, mark, after) ← readFlags flags [] false rest
    if mark == ':' then return (.group none inside, after)
    else if isEmpty then none
    else return (.flags inside, after)
  | rest => some (.group none flags, rest)

/-! ## The whole -/

structure State where
  flags : Flags
  /-- The names of the groups so far. -/
  names : List String
  outer : List OpenGroup
  current : OpenGroup

namespace State

/-- Adds a part to the innermost group. -/
def add (s : State) (p : Pattern) : State :=
  { s with current := { s.current with parts := some p :: s.current.parts } }

/-- Repeats the part before. Flags cannot be repeated. -/
def repeated? (s : State) (least : Nat) (most : Option Nat) : Option State :=
  match s.current.parts with
  | some p :: rest =>
    some { s with current := { s.current with parts := some (.times p least most) :: rest } }
  | _ => none

/-- Begins another branch of the innermost group. -/
def branch (s : State) : State :=
  { s with current := { s.current with
      branches := s.current.sequence :: s.current.branches, parts := [] } }

/-- Opens a group or sets flags. -/
def start? (s : State) : GroupStart → Option State
  | .flags now =>
    some { s with flags := now, current := { s.current with parts := none :: s.current.parts } }
  | .group name inside =>
    match name with
    | none => some { s with flags := inside, outer := s.current :: s.outer,
                            current := ⟨s.flags, [], []⟩ }
    | some n =>
      if s.names.contains n then none
      else some { s with flags := inside, names := n :: s.names, outer := s.current :: s.outer,
                         current := ⟨s.flags, [], []⟩ }

/-- Closes the innermost group. -/
def close? (s : State) : Option State :=
  match s.outer with
  | [] => none
  | enclosing :: more =>
    some (({ s with flags := s.current.outside, outer := more, current := enclosing } : State).add
      (.group s.current.close))

end State

def escapePart? (flags : Flags) : Escape → Option Pattern
  | .char c => some (.char (flags.close (.single c)))
  | .byte n =>
    if flags.unicode || n < 0x80 then some (.char (flags.close (.single (Char.ofNat n)))) else none
  | .set s => some (.char s)
  | .anchor a => some (.anchor a)

/-- The part that a dot stands for. -/
def dot? (flags : Flags) : Option Pattern :=
  if !flags.unicode then none
  else if flags.dotAll then some (.char .all)
  else if flags.carriageReturns then some (.char (.complement (.ofChars ['\r', '\n'])))
  else some (.char (.complement (.single '\n')))

/-- The part that a caret stands for. -/
def caret (flags : Flags) : Anchor :=
  if !flags.multiLine then .textStart
  else if flags.carriageReturns then .lineStartCR
  else .lineStart

/-- The part that a dollar sign stands for. -/
def dollar (flags : Flags) : Anchor :=
  if !flags.multiLine then .textEnd
  else if flags.carriageReturns then .lineEndCR
  else .lineEnd

/-- Skips the mark that asks for the shortest piece; it does not change what occurs. -/
def skipLazy : List Char → List Char
  | '?' :: rest => rest
  | cs => cs

def readPart (s : State) : List Char → Option (State × List Char)
  | [] => none
  | '(' :: rest => do
    let (start, after) ← readGroupStart s.flags rest
    return (← s.start? start, after)
  | ')' :: rest => s.close?.map (·, rest)
  | '|' :: rest => some (s.branch, rest)
  | '[' :: rest => do
    let (set, after) ← readSet s.flags rest
    return (s.add (.char set), after)
  | '?' :: rest => (s.repeated? 0 (some 1)).map (·, skipLazy rest)
  | '*' :: rest => (s.repeated? 0 none).map (·, skipLazy rest)
  | '+' :: rest => (s.repeated? 1 none).map (·, skipLazy rest)
  | '\x7b' :: rest => do
    let (least, most, after) ← readBounds s.flags rest
    return (← s.repeated? least most, skipLazy (skip s.flags after))
  | '\\' :: rest => do
    let (escape, after) ← readEscape s.flags rest
    return (s.add (← escapePart? s.flags escape), after)
  | '.' :: rest => (dot? s.flags).map fun p => (s.add p, rest)
  | '^' :: rest => some (s.add (.anchor (caret s.flags)), rest)
  | '$' :: rest => some (s.add (.anchor (dollar s.flags)), rest)
  | c :: rest => some (s.add (.char (s.flags.close (.single c))), rest)

/-- Reads a pattern to its end. -/
def readFrom (fuel : Nat) (s : State) (cs : List Char) : Option State :=
  match fuel with
  | 0 => none
  | n + 1 =>
    match skip s.flags cs with
    | [] => if s.outer.isEmpty then some s else none
    | rest => do
      let (next, after) ← readPart s rest
      readFrom n next after

def parse? (text : String) : Option Pattern := do
  let cs := text.toList
  let s ← readFrom (cs.length + 1) ⟨.standard, [], [], ⟨.standard, [], []⟩⟩ cs
  let p := s.current.close
  if p.isModerate then return p else none

end Pattern

end ActivityFlow
