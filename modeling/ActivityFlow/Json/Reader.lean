import ActivityFlow.Json.Basic
import ActivityFlow.Text.Digits
import ActivityFlow.Words

/-!
# Reading documents

Text is cut into tokens by an automaton over its characters, and the tokens are put
together by an automaton with a stack of unfinished arrays and objects. Both read their
input once, from left to right. A part that is written well but has no value, such as a
number out of range, spoils a document only where its value is needed.
-/
namespace ActivityFlow.Json

/-! ## Numbers -/

/-- The leading decimal digits of a text and what follows them. -/
def spanDigits (cs : List Char) : List Char × List Char := cs.span Char.isDigit

/-- Gathers digits while the number fits 64 bits: the number, and how many digits were
left over. -/
def gather (start : Nat) : List Char → Nat × Nat
  | [] => (start, 0)
  | c :: rest =>
    let next := start * 10 + (c.toNat - 48)
    if next < words64 then gather next rest else (start, rest.length + 1)

/-- The parts of a number: sign, whole digits, fraction digits, and the exponent. -/
structure NumberParts where
  negative : Bool
  whole : List Char
  fraction : Option (List Char)
  exponent : Option Int

/-- Reads the exponent of a number, up to the end. -/
def exponentPart : List Char → Option (Option Int)
  | [] => some none
  | c :: rest =>
    if c != 'e' && c != 'E' then none
    else
      let (negative, digits) :=
        match rest with
        | '-' :: more => (true, more)
        | '+' :: more => (false, more)
        | more => (false, more)
      if digits.isEmpty || !digits.all Char.isDigit then none
      else
        let n := Text.decimalValue digits
        some (some (if negative then -(n : Int) else n))

/-- Splits a whole word into the parts of a number. -/
def numberParts (cs : List Char) : Option NumberParts := do
  let (negative, body) :=
    match cs with
    | '-' :: more => (true, more)
    | more => (false, more)
  let (whole, rest) := spanDigits body
  if whole.isEmpty || (whole.length > 1 && whole.head? == some '0') then none
  else
    match rest with
    | '.' :: more =>
      let (fraction, tail) := spanDigits more
      if fraction.isEmpty then none
      else return ⟨negative, whole, some fraction, ← exponentPart tail⟩
    | tail => return ⟨negative, whole, none, ← exponentPart tail⟩

def powerOfTen (n : Nat) : Float := Float.ofScientific 1 false n

/-- Scales a 64-bit significand by a power of ten, in one multiplication or in divisions of
at most 308 places each. A number that is too large has no value. -/
def scaleFloat (f : Float) (exponent : Int) (steps : Nat) : Option Float :=
  if 0 ≤ exponent then
    if exponent ≤ 308 then
      let scaled := f * powerOfTen exponent.toNat
      if scaled.isInf then none else some scaled
    else if f == 0 then some f
    else none
  else if -308 ≤ exponent then some (f / powerOfTen exponent.natAbs)
  else if f == 0 then some f
  else
    match steps with
    | 0 => some 0
    | n + 1 => scaleFloat (f / powerOfTen 308) (exponent + 308) n

/-- The value of a number with a fraction, an exponent or more digits than fit 64 bits.
Whole digits past the 64 bits count as places, fraction digits past them are dropped. -/
def floatOfParts (parts : NumberParts) : Option Float := do
  let (significand, spilled) := gather 0 parts.whole
  let (significand, places) :=
    match parts.fraction with
    | none => (significand, (spilled : Int))
    | some digits =>
      if 0 < spilled then
        let (s, left) := gather significand digits
        (s, (spilled : Int) - (digits.length - left : Nat))
      else
        let (s, left) := gather significand digits
        (s, -((digits.length - left : Nat) : Int))
  let magnitude ← scaleFloat significand.toUInt64.toFloat (places + parts.exponent.getD 0) 4
  return if parts.negative then -magnitude else magnitude

/-- The number that a word spells: a whole number if it has neither fraction nor exponent
and fits 64 bits, signed or not. Minus zero is a floating point number. -/
def number? (word : List Char) : Option Json := do
  let parts ← numberParts word
  let magnitude := Text.decimalValue parts.whole
  if parts.fraction.isNone && parts.exponent.isNone then
    if !parts.negative && magnitude < words64 then return .int magnitude
    else if parts.negative && 0 < magnitude && magnitude ≤ words63 then
      return .int (-(magnitude : Int))
    else return .float (← floatOfParts parts)
  else return .float (← floatOfParts parts)

def isNumeral (word : List Char) : Bool := (numberParts word).isSome

/-- The value of a bare word, a constant or a number. The number may have no value. -/
def word? (word : List Char) : Option (Option Json) :=
  if word = ['n', 'u', 'l', 'l'] then some (some .null)
  else if word = ['t', 'r', 'u', 'e'] then some (some (.bool true))
  else if word = ['f', 'a', 'l', 's', 'e'] then some (some (.bool false))
  else if isNumeral word then some (number? word)
  else none

/-! ## Texts -/

/-- The text that code points spell. The two halves of a surrogate pair make one character;
half a pair alone makes none. -/
def spell? : List Nat → Option (List Char)
  | [] => some []
  | high :: low :: rest =>
    if 0xD800 ≤ high && high ≤ 0xDBFF then
      if 0xDC00 ≤ low && low ≤ 0xDFFF then
        (spell? rest).map (Char.ofNat (0x10000 + (high - 0xD800) * 0x400 + (low - 0xDC00)) :: ·)
      else none
    else if 0xDC00 ≤ high && high ≤ 0xDFFF then none
    else (spell? (low :: rest)).map (Char.ofNat high :: ·)
  | [n] => if 0xD800 ≤ n && n ≤ 0xDFFF then none else some [Char.ofNat n]

/-! ## Tokens -/

/-- A token of a document text. Texts and other scalars may have no value. -/
inductive Token where
  | openArray
  | closeArray
  | openObject
  | closeObject
  | comma
  | colon
  | text (value : Option String)
  | scalar (value : Option Json)

/-- Where the tokenizer stands. What was read so far is kept in reverse. -/
inductive Mode where
  | between
  | word (read : List Char)
  | text (read : List Nat)
  | escape (read : List Nat)
  /-- Inside the number of a code point, with the count of the digits that are due. -/
  | code (read : List Nat) (due : Nat) (number : Nat)

/-- Whether a character separates tokens. -/
def isJsonBlank (c : Char) : Bool := c == ' ' || c == '\n' || c == '\t' || c == '\r'

def begin? (c : Char) : Option (Mode × List Token) :=
  if isJsonBlank c then some (.between, [])
  else if c == '[' then some (.between, [.openArray])
  else if c == ']' then some (.between, [.closeArray])
  else if c == '\x7b' then some (.between, [.openObject])
  else if c == '\x7d' then some (.between, [.closeObject])
  else if c == ',' then some (.between, [.comma])
  else if c == ':' then some (.between, [.colon])
  else if c == '"' then some (.text [], [])
  else if c.isAlphanum || c == '-' then some (.word [c], [])
  else none

/-- The character that a one-letter escape stands for. -/
def escaped? (c : Char) : Option Char :=
  if c == '"' || c == '\\' || c == '/' then some c
  else if c == 'b' then some '\x08'
  else if c == 'f' then some '\x0c'
  else if c == 'n' then some '\n'
  else if c == 'r' then some '\r'
  else if c == 't' then some '\t'
  else none

/-- What one character does to the tokenizer. -/
def scan (mode : Mode) (c : Char) : Option (Mode × List Token) :=
  match mode with
  | .between => begin? c
  | .word read =>
    if c.isAlphanum || c == '-' || c == '+' || c == '.' then some (.word (c :: read), [])
    else do
      let value ← word? read.reverse
      let (next, tokens) ← begin? c
      return (next, .scalar value :: tokens)
  | .text read =>
    if c == '"' then some (.between, [.text ((spell? read.reverse).map String.ofList)])
    else if c == '\\' then some (.escape read, [])
    else if c.toNat < 0x20 then none
    else some (.text (c.toNat :: read), [])
  | .escape read =>
    if c == 'u' then some (.code read 4 0, [])
    else (escaped? c).map fun e => (.text (e.toNat :: read), [])
  | .code read due number => do
    let number := number * 16 + (← Text.hexDigit? c)
    if due ≤ 1 then return (.text (number :: read), [])
    else return (.code read (due - 1) number, [])

def tokensFrom (mode : Mode) : List Char → Option (List Token)
  | [] =>
    match mode with
    | .between => some []
    | .word read => (word? read.reverse).map fun value => [.scalar value]
    | _ => none
  | c :: rest => do
    let (next, tokens) ← scan mode c
    return tokens ++ (← tokensFrom next rest)

/-! ## Drafts -/

/-- A document as it was written: the entries of objects are in the order of the text and
may repeat keys, and some parts may have no value. -/
inductive Draft where
  | leaf (value : Option Json)
  | array (items : List Draft)
  | object (entries : List (Option String × Draft))
deriving Inhabited

/-- An array or object that is not closed yet, with what it holds so far in reverse. -/
inductive Frame where
  | array (items : List Draft)
  | object (entries : List (Option String × Draft)) (key : Option String)

/-- What may come next. -/
inductive Expected where
  | value
  | itemOrClose
  | keyOrClose
  | key
  | colon
  | commaOrClose
  | nothing (result : Draft)

/-- The state of the reader between two tokens. -/
structure ReaderState where
  stack : List Frame
  expected : Expected

def finishValue (value : Draft) : List Frame → ReaderState
  | [] => ⟨[], .nothing value⟩
  | .array items :: rest => ⟨.array (value :: items) :: rest, .commaOrClose⟩
  | .object entries key :: rest => ⟨.object ((key, value) :: entries) key :: rest, .commaOrClose⟩

def startValue (stack : List Frame) (token : Token) : Option ReaderState :=
  match token with
  | .text s => some (finishValue (.leaf (s.map .text)) stack)
  | .scalar v => some (finishValue (.leaf v) stack)
  | .openArray => some ⟨.array [] :: stack, .itemOrClose⟩
  | .openObject => some ⟨.object [] none :: stack, .keyOrClose⟩
  | _ => none

/-- Closes the innermost array or object if the token fits it. -/
def closeFrame (stack : List Frame) (token : Token) : Option ReaderState :=
  match stack, token with
  | .array items :: rest, .closeArray => some (finishValue (.array items.reverse) rest)
  | .object entries _ :: rest, .closeObject => some (finishValue (.object entries.reverse) rest)
  | _, _ => none

def startKey (stack : List Frame) (token : Token) : Option ReaderState :=
  match stack, token with
  | .object entries _ :: rest, .text key => some ⟨.object entries key :: rest, .colon⟩
  | _, _ => none

def accept (state : ReaderState) (token : Token) : Option ReaderState :=
  match state.expected, token with
  | .value, t => startValue state.stack t
  | .itemOrClose, .closeArray => closeFrame state.stack .closeArray
  | .itemOrClose, t => startValue state.stack t
  | .keyOrClose, .closeObject => closeFrame state.stack .closeObject
  | .keyOrClose, t => startKey state.stack t
  | .key, t => startKey state.stack t
  | .colon, .colon => some ⟨state.stack, .value⟩
  | .commaOrClose, .comma =>
    match state.stack with
    | .array _ :: _ => some ⟨state.stack, .value⟩
    | .object _ _ :: _ => some ⟨state.stack, .key⟩
    | [] => none
  | .commaOrClose, t => closeFrame state.stack t
  | _, _ => none

def draft? (s : String) : Option Draft := do
  let tokens ← tokensFrom .between s.toList
  let final ← tokens.foldlM accept ⟨[], .value⟩
  match final.expected with
  | .nothing value => some value
  | _ => none

/-! ## Values -/

/-- How deep arrays and objects may be nested. -/
def depthLimit : Nat := 127

namespace Draft

mutual

/-- The value of a draft that is nested at most to the given depth. Objects keep their
entries as written. -/
def value? (depth : Nat) : Draft → Option Json
  | .leaf value => value
  | .array items => if depth = 0 then none else (itemValues? (depth - 1) items).map .array
  | .object entries => if depth = 0 then none else (entryValues? (depth - 1) entries).map .object

def itemValues? (depth : Nat) : List Draft → Option (List Json)
  | [] => some []
  | item :: rest => do return (← value? depth item) :: (← itemValues? depth rest)

/-- The values of the entries of an object. -/
def entryValues? (depth : Nat) : List (Option String × Draft) → Option (List (String × Json))
  | [] => some []
  | (key, value) :: rest => do
    return (← key, ← value? depth value) :: (← entryValues? depth rest)

end

end Draft

mutual

/-- Orders the entries of all objects by key; of repeated keys the last one counts. -/
def ordered : Json → Json
  | .array items => .array (orderedItems items)
  | .object fields => .object (Fields.ofPairs (orderedFields fields))
  | other => other

def orderedItems : List Json → List Json
  | [] => []
  | item :: rest => ordered item :: orderedItems rest

def orderedFields : List (String × Json) → List (String × Json)
  | [] => []
  | (key, value) :: rest => (key, ordered value) :: orderedFields rest

end

/-- Reads a text as one document with ordered objects. -/
def parse? (s : String) : Option Json := do
  return ordered (← (← draft? s).value? depthLimit)

end ActivityFlow.Json
