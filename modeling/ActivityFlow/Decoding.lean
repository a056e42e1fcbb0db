import ActivityFlow.Json.Printer
import ActivityFlow.Span

/-!
# Decoding documents

Records are read from documents field by field. What can go wrong is one of a few
causes, each with the place's expectation; of several faults in a record the one met
first counts, and its entries are met in key order.
-/
namespace ActivityFlow

/-- What a place of a document may hold. -/
inductive Shape where
  | text
  | sequence
  | map
  | boolean
  | unit
  /-- A whole number below `2 ^ 32`. -/
  | word32
  /-- A whole number below `2 ^ 64`. -/
  | word64
  /-- A whole number below `2 ^ 64` that counts things. -/
  | count
  | number
  | record (name : String)
  | recordOf (name : String) (size : Nat)
  | caseOf (name : String) (size : Nat)
  | elements (size : Nat)
  | fewerElements
  | choice
  | singleKey
  | choiceName
  | union (name : String)
deriving DecidableEq

def elementCount (n : Nat) : String := toString n ++ (if n = 1 then " element" else " elements")

/-- How a message names an expectation. -/
def Shape.describe : Shape → String
  | .text => "a string"
  | .sequence => "a sequence"
  | .map => "a map"
  | .boolean => "a boolean"
  | .unit => "unit"
  | .word32 => "u32"
  | .word64 => "u64"
  | .count => "usize"
  | .number => "f64"
  | .record name => "struct " ++ name
  | .recordOf name size => "struct " ++ name ++ " with " ++ elementCount size
  | .caseOf name size => "struct variant " ++ name ++ " with " ++ elementCount size
  | .elements size => elementCount size ++ " in sequence"
  | .fewerElements => "fewer elements in array"
  | .choice => "string or map"
  | .singleKey => "map with a single key"
  | .choiceName => "variant identifier"
  | .union name => "internally tagged enum " ++ name

/-- Why a document could not be read. -/
inductive DecodeError where
  | missingField (name : String)
  | duplicateField (name : String)
  | unknownField (name : String) (known : List String)
  | unknownChoice (name : String) (known : List String)
  /-- A value of another type than expected. -/
  | wrongType (found : Json) (expected : Shape)
  /-- A value of the right type outside the expected range. -/
  | wrongValue (found : Json) (expected : Shape)
  | wrongLength (length : Nat) (expected : Shape)
  | invalidSpan (text : String)
  | noSpanForm
deriving DecidableEq

/-- A name between backticks. -/
def ticked (name : String) : String := "`" ++ name ++ "`"

/-- The admitted names of a place, in words. -/
def alternatives : List String → String
  | [] => "there are no fields"
  | [one] => "expected " ++ ticked one
  | [one, two] => "expected " ++ ticked one ++ " or " ++ ticked two
  | names => "expected one of " ++ String.intercalate ", " (names.map ticked)

def DecodeError.message : DecodeError → String
  | .missingField name => "missing field " ++ ticked name
  | .duplicateField name => "duplicate field " ++ ticked name
  | .unknownField name known => "unknown field " ++ ticked name ++ ", " ++ alternatives known
  | .unknownChoice name known => "unknown variant " ++ ticked name ++ ", " ++ alternatives known
  | .wrongType found expected =>
    "invalid type: " ++ found.describe ++ ", expected " ++ expected.describe
  | .wrongValue found expected =>
    "invalid value: " ++ found.describe ++ ", expected " ++ expected.describe
  | .wrongLength length expected =>
    "invalid length " ++ toString length ++ ", expected " ++ expected.describe
  | .invalidSpan text => "invalid duration '" ++ text ++ "'"
  | .noSpanForm => "data did not match any variant of untagged enum RawDuration"

namespace Decoding

/-- The outcome of reading a document. -/
abbrev Result (α : Type) := Except DecodeError α

/-- Whether a value is read in place, or was set aside until its record was known. Values
set aside have their own wording for surplus elements and admit an empty object where
nothing is expected. -/
inductive Source where
  | direct
  | aside
deriving DecidableEq

/-! ## Plain values -/

def asText : Json → Result String
  | .text s => .ok s
  | v => .error (.wrongType v .text)

/-- Reads a truth value. -/
def asBool : Json → Result Bool
  | .bool b => .ok b
  | v => .error (.wrongType v .boolean)

def asWhole (limit : Nat) (expected : Shape) : Json → Result Nat
  | .int n =>
    if 0 ≤ n ∧ n < limit then .ok n.toNat else .error (.wrongValue (.int n) expected)
  | v => .error (.wrongType v expected)

/-- Reads a whole number below `2 ^ 32`. -/
def asWord32 : Json → Result Nat := asWhole words32 .word32

/-- Reads a whole number below `2 ^ 64`. -/
def asWord64 : Json → Result Nat := asWhole words64 .word64

def asCount : Json → Result Nat := asWhole words64 .count

/-- The floating point number nearest to a whole number of 64 bits, signed or not. -/
def floatOfInt (n : Int) : Float :=
  if 0 ≤ n then n.toNat.toUInt64.toFloat else -n.natAbs.toUInt64.toFloat

/-- Reads a number, whole or not. -/
def asNumber : Json → Result Float
  | .int n => .ok (floatOfInt n)
  | .float x => .ok x
  | v => .error (.wrongType v .number)

/-- Reads an object as it stands. -/
def asFields : Json → Result Fields
  | .object fields => .ok fields
  | v => .error (.wrongType v .map)

def asList (decode : Json → Result α) : Json → Result (List α)
  | .array items => items.mapM decode
  | v => .error (.wrongType v .sequence)

def asOptional (decode : Json → Result α) : Json → Result (Option α)
  | .null => .ok none
  | v => some <$> decode v

/-- Reads a span: whole seconds, or a text with a unit. -/
def asSpan : Json → Result Span
  | .int n =>
    match if 0 ≤ n then Span.ofSeconds? n.toNat else none with
    | some d => .ok d
    | none => .error .noSpanForm
  | .text s =>
    match Span.parse? s with
    | some d => .ok d
    | none => .error (.invalidSpan s)
  | _ => .error .noSpanForm

/-- Whether a value may stand where nothing is expected. -/
def isUnit (source : Source) : Json → Bool
  | .null => true
  | .object [] => source = .aside
  | _ => false

/-- Finds a choice by its name. -/
def named (choices : List (String × α)) (name : String) : Result α :=
  match choices.find? fun c => c.1 == name with
  | some c => .ok c.2
  | none => .error (.unknownChoice name (choices.map (·.1)))

/-- Reads one of several named choices: its name, or an object with the name as its only
key and nothing as the value. -/
def asChoice (choices : List (String × α)) (source : Source) : Json → Result α
  | .text name => named choices name
  | .object [(name, inner)] => do
    let chosen ← named choices name
    if isUnit source inner then return chosen else throw (.wrongType inner .unit)
  | .object fields => .error (.wrongValue (.object fields) .singleKey)
  | v => .error (.wrongType v .choice)

/-! ## Records -/

/-- Reads an entry if it is present. -/
def field? (fields : Fields) (key : String) (decode : Json → Result α) : Result (Option α) :=
  match Fields.get? fields key with
  | none => .ok none
  | some v => some <$> decode v

/-- The value of an entry that must be present. -/
def required (key : String) (value : Option α) : Result α :=
  match value with
  | some v => .ok v
  | none => .error (.missingField key)

/-- The entries before the first one whose key is not known. -/
def knownPart (known : List String) (fields : Fields) : Fields :=
  fields.takeWhile fun e => known.contains e.1

/-- Refuses an object with an entry whose key is not known. -/
def rejectUnknown (known : List String) (fields : Fields) : Result Unit :=
  match fields.find? fun e => !known.contains e.1 with
  | some e => .error (.unknownField e.1 known)
  | none => .ok ()

/-- Reads the element at an index, which must be present. -/
def item (items : List Json) (index : Nat) (whole : Shape) (decode : Json → Result α) : Result α :=
  match items[index]? with
  | some v => decode v
  | none => .error (.wrongLength index whole)

/-- Reads the element at an index if it is present. -/
def itemD (items : List Json) (index : Nat) (default : α) (decode : Json → Result α) : Result α :=
  match items[index]? with
  | some v => decode v
  | none => .ok default

/-- Refuses elements past the last field of a record. -/
def noMore (source : Source) (items : List Json) (size : Nat) : Result Unit :=
  if items.length ≤ size then .ok ()
  else
    match source with
    | .direct => .error (.wrongLength items.length .fewerElements)
    | .aside => .error (.wrongLength items.length (.elements size))

/-- Reads a record from an object, or from an array of its fields in their order. -/
def record (name : String) (ofFields : Fields → Result α) (ofItems : List Json → Result α) :
    Json → Result α
  | .object fields => ofFields fields
  | .array items => ofItems items
  | v => .error (.wrongType v (.record name))

/-- Reads a record that has open-ended parts and therefore only an object form. -/
def openRecord (name : String) (ofFields : Fields → Result α) : Json → Result α
  | .object fields => ofFields fields
  | v => .error (.wrongType v (.record name))

end Decoding

end ActivityFlow
