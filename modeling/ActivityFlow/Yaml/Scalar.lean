import ActivityFlow.Json.Basic
import ActivityFlow.Text.Digits
import ActivityFlow.Words

/-!
# Scalars and what they stand for

A scalar is a text with the way it was written. Where any value may stand, a plain text
that looks like a constant or a number is one; a quoted text is a text. Where a text is
expected, every scalar is its text.
-/
namespace ActivityFlow.Yaml

inductive Style where
  | plain
  | quoted
deriving DecidableEq

/-- A text of a document with its style and its tag. -/
structure Scalar where
  text : String
  style : Style
  tag : Option String
deriving DecidableEq

/-- What stands where nothing was written. -/
def Scalar.empty : Scalar := ⟨"", .plain, none⟩

namespace Plain

def isNull (s : String) : Bool := s == "null" || s == "Null" || s == "NULL" || s == "~"

/-- The truth value that a word names. -/
def bool? (s : String) : Option Bool :=
  if s == "true" || s == "True" || s == "TRUE" then some true
  else if s == "false" || s == "False" || s == "FALSE" then some false
  else none

/-- A sign in front of a number, and what follows it. -/
def splitSign : List Char → Option Char × List Char
  | '+' :: rest => (some '+', rest)
  | '-' :: rest => (some '-', rest)
  | rest => (none, rest)

/-- Whether the text is made of digits behind a leading zero, which makes it no number. -/
def isPadded (cs : List Char) : Bool :=
  match (splitSign cs).2 with
  | '0' :: c :: rest => (c :: rest).all Char.isDigit
  | _ => false

/-- The magnitude of a whole number without its sign, which may have a radix mark. -/
def magnitude? : List Char → Option Nat
  | '0' :: 'x' :: digits => Text.natural? 16 digits
  | '0' :: 'o' :: digits => Text.natural? 8 digits
  | '0' :: 'b' :: digits => Text.natural? 2 digits
  | digits => Text.natural? 10 digits

/-- The whole number that a text spells, of any size up to 128 bits. -/
def int? (s : String) : Option Int :=
  if isPadded s.toList then none
  else
    match splitSign s.toList with
    | (some '-', digits) => do
      let n ← magnitude? digits
      if n ≤ 170141183460469231731687303715884105728 then return -(n : Int) else none
    | (_, digits) => do
      let n ← magnitude? digits
      if n < 340282366920938463463374607431768211456 then return n else none

/-- An exponent with its mark, up to the end of the text. -/
def exponent? : List Char → Option Int
  | [] => some 0
  | mark :: rest =>
    if mark != 'e' && mark != 'E' then none
    else
      match splitSign rest with
      | (some '-', digits) => (Text.natural? 10 digits).map fun n => -(n : Int)
      | (_, digits) => (Text.natural? 10 digits).map fun n => (n : Int)

/-- The double nearest to a decimal number. Exponents that are far out of reach are
answered at once: they overflow, or leave nothing. -/
def nearestDouble (digits : List Char) (exponent : Int) : Float :=
  let n := (Text.natural? 10 digits).getD 0
  let size := (digits.length : Int) + exponent
  if n = 0 || size < -400 then 0
  else if 800 < exponent then 1 / 0
  else if exponent < 0 then Float.ofScientific n true exponent.natAbs
  else Float.ofScientific n false exponent.natAbs

/-- The finite double that a decimal text without sign spells. A point needs a digit on one
of its sides. -/
def decimal? (cs : List Char) : Option Float := do
  let whole := cs.takeWhile Char.isDigit
  let rest := cs.dropWhile Char.isDigit
  let (fraction, tail) :=
    match rest with
    | '.' :: more => (more.takeWhile Char.isDigit, more.dropWhile Char.isDigit)
    | more => ([], more)
  if whole.isEmpty && fraction.isEmpty then none
  else
    let value := nearestDouble (whole ++ fraction) ((← exponent? tail) - fraction.length)
    if value.isFinite then return value else none

def isInfinity (s : String) : Bool := s == ".inf" || s == ".Inf" || s == ".INF"

/-- The floating point number that a text spells. -/
def float? (s : String) : Option Float :=
  if s == ".nan" || s == ".NaN" || s == ".NAN" then some (0 / 0)
  else
    match splitSign s.toList with
    | (some '-', rest) =>
      if isInfinity (String.ofList rest) then some (-1 / 0) else (decimal? rest).map (-·)
    | (_, rest) => if isInfinity (String.ofList rest) then some (1 / 0) else decimal? rest

/-- A whole number as a value. Numbers that need more than 64 bits are refused. -/
def intValue? (n : Int) : Option Json :=
  if -(words63 : Int) ≤ n && n < words64 then some (.int n) else none

/-- The value that a plain text stands for. -/
def value? (s : String) : Option Json :=
  if s.isEmpty || isNull s then some .null
  else
    match bool? s with
    | some b => some (.bool b)
    | none =>
      match int? s with
      | some n => intValue? n
      | none =>
        if isPadded s.toList then some (.text s)
        else
          match float? s with
          | some x => some (.float x)
          | none => some (.text s)

end Plain

namespace Scalar

def standardTag (name : String) : String := "tag:yaml.org,2002:" ++ name

/-- Whether a tag is a custom one; no value can have such a tag. -/
def isCustom (tag : String) : Bool := tag.startsWith "!"

/-- The value of a scalar whose tag names its type. -/
def taggedValue? (s : Scalar) (tag : String) : Option Json :=
  if isCustom tag then none
  else if tag = standardTag "bool" then (Plain.bool? s.text).map .bool
  else if tag = standardTag "int" then (Plain.int? s.text).bind Plain.intValue?
  else if tag = standardTag "float" then (Plain.float? s.text).map .float
  else if tag = standardTag "null" then if Plain.isNull s.text then some .null else none
  else some (.text s.text)

/-- The value of a scalar where any value may stand. -/
def value? (s : Scalar) : Option Json :=
  match s.tag with
  | some tag => s.taggedValue? tag
  | none => if s.style = .plain then Plain.value? s.text else some (.text s.text)

/-- Whether nothing was written. -/
def isVoid (s : Scalar) : Bool := s.style = .plain && s.text.isEmpty

end Scalar

end ActivityFlow.Yaml
