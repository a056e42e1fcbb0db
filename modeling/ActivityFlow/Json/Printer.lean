import ActivityFlow.Json.Basic
import ActivityFlow.Decimal.Notation
import ActivityFlow.Text.Quoted

/-!
# Writing documents

The compact text of a document: no blanks, the entries of objects in their stored
order, and only those characters escaped that a text may not hold.
-/
namespace ActivityFlow.Json

/-- The number of a control character in two hexadecimal digits. -/
def controlCode (n : Nat) : List Char :=
  Nat.toDigits 16 (n / 16) ++ Nat.toDigits 16 (n % 16)

/-- How one character stands inside a text. -/
def escapedChar (c : Char) : List Char :=
  if c == '"' then ['\\', '"']
  else if c == '\\' then ['\\', '\\']
  else if c == '\x08' then ['\\', 'b']
  else if c == '\x0c' then ['\\', 'f']
  else if c == '\n' then ['\\', 'n']
  else if c == '\r' then ['\\', 'r']
  else if c == '\t' then ['\\', 't']
  else if c.toNat < 0x20 then ['\\', 'u', '0', '0'] ++ controlCode c.toNat
  else [c]

/-- A text between double quotes. -/
def escapedText (s : String) : List Char := '"' :: s.toList.flatMap escapedChar ++ ['"']

/-- Floating point numbers without a decimal form are written as null. -/
def floatChars (x : Float) : List Char :=
  if x.isNaN || x.isInf then "null".toList
  else (Decimal.render Decimal.documentLayout x).toList

mutual

/-- The characters of a document. -/
def chars : Json → List Char
  | .null => "null".toList
  | .bool b => (if b then "true" else "false").toList
  | .int n => (toString n).toList
  | .float x => floatChars x
  | .text s => escapedText s
  | .array items => '[' :: itemsChars items
  | .object fields => '\x7b' :: fieldsChars fields

/-- The items of an array up to its closing bracket. -/
def itemsChars : List Json → List Char
  | [] => [']']
  | [item] => chars item ++ [']']
  | item :: rest => chars item ++ ',' :: itemsChars rest

/-- The entries of an object up to its closing brace. -/
def fieldsChars : List (String × Json) → List Char
  | [] => ['\x7d']
  | [(key, value)] => escapedText key ++ ':' :: chars value ++ ['\x7d']
  | (key, value) :: rest => escapedText key ++ ':' :: chars value ++ ',' :: fieldsChars rest

end

/-- The compact text of a document. -/
def render (value : Json) : String := String.ofList (chars value)

/-- How a complaint names a value that it did not expect. -/
def describe : Json → String
  | .null => "null"
  | .bool b => "boolean `" ++ (if b then "true" else "false") ++ "`"
  | .int n => "integer `" ++ toString n ++ "`"
  | .float x => "floating point `" ++ String.ofList (floatChars x) ++ "`"
  | .text s => "string " ++ Text.quoted s
  | .array _ => "sequence"
  | .object _ => "map"

end ActivityFlow.Json
