import ActivityFlow.Text.Digits
import ActivityFlow.Text.Utf8

/-!
# Percent encoding

Characters that may not stand in a part of an address are written as the bytes of their
UTF-8 form, each as a percent sign with two hexadecimal digits.
-/
namespace ActivityFlow.Url

/-- The upper-case hexadecimal digit of a number below sixteen. -/
def upperHexDigit (n : Nat) : Char := Char.ofNat (if n < 10 then 48 + n else 55 + n)

def percentByte (b : UInt8) : List Char :=
  ['%', upperHexDigit (b.toNat / 16), upperHexDigit (b.toNat % 16)]

/-- The percent form of a character. -/
def percentChar (c : Char) : List Char := (String.utf8EncodeChar c).flatMap percentByte

/-- Writes the characters that `encoded` names in percent form. -/
def percentEncode (encoded : Char → Bool) (cs : List Char) : List Char :=
  cs.flatMap fun c => if encoded c then percentChar c else [c]

/-! ## What is encoded where -/

/-- Control characters and everything beyond ASCII. -/
def isControl (c : Char) : Bool := c.toNat < 0x20 || 0x7F ≤ c.toNat

def inFragment (c : Char) : Bool :=
  isControl c || c == ' ' || c == '"' || c == '<' || c == '>' || c == '`'

/-- Encoded in queries of web addresses. -/
def inQuery (c : Char) : Bool :=
  isControl c || c == ' ' || c == '"' || c == '#' || c == '<' || c == '>' || c == '\''

def inPath (c : Char) : Bool :=
  isControl c || c == ' ' || c == '"' || c == '#' || c == '<' || c == '>' || c == '?' ||
    c == '`' || c == '\x7b' || c == '\x7d'

/-- Encoded in a segment that is put into a path, so that it stays one segment. -/
def inSegment (c : Char) : Bool := inPath c || c == '/' || c == '%' || c == '\\'

/-- Encoded in user names and passwords. -/
def inCredentials (c : Char) : Bool :=
  inPath c || c == '/' || c == ':' || c == ';' || c == '=' || c == '@' || c == '[' || c == '\\' ||
    c == ']' || c == '^' || c == '|'

/-- Encoded in form data, where a blank is written as a plus sign. -/
def inForm (c : Char) : Bool :=
  !(c.isAlphanum || c == '*' || c == '-' || c == '.' || c == '_')

def formEncode (cs : List Char) : List Char :=
  cs.flatMap fun c => if c == ' ' then ['+'] else if inForm c then percentChar c else [c]

/-! ## Decoding -/

/-- The bytes of a text in which percent forms stand for bytes. A percent sign without two
hexadecimal digits stands for itself. -/
def percentDecode : List Char → List UInt8
  | [] => []
  | '%' :: a :: b :: rest =>
    match Text.hexDigit? a, Text.hexDigit? b with
    | some x, some y => UInt8.ofNat (x * 16 + y) :: percentDecode rest
    | _, _ => '%'.toUInt8 :: percentDecode (a :: b :: rest)
  | c :: rest => String.utf8EncodeChar c ++ percentDecode rest

end ActivityFlow.Url
