/-!
# Bytes and text

A byte sequence is read as a sequence of characters and malformed pieces. A piece is
as long as it could still have become a character, so that reading resumes at the first
byte that shows the mistake.
-/
namespace ActivityFlow.Text

/-- Whether a byte lies in an inclusive range. -/
def byteIn (b : UInt8) (lo hi : Nat) : Bool := lo ≤ b.toNat && b.toNat ≤ hi

/-- Whether a byte can continue a character. -/
def isContinuation (b : UInt8) : Bool := byteIn b 0x80 0xBF

/-- Whether a byte can follow the given first byte of a character. -/
def canFollow (first second : UInt8) : Bool :=
  let n := first.toNat
  if n == 0xE0 then byteIn second 0xA0 0xBF
  else if n == 0xED then byteIn second 0x80 0x9F
  else if n == 0xF0 then byteIn second 0x90 0xBF
  else if n == 0xF4 then byteIn second 0x80 0x8F
  else isContinuation second

/-- How many bytes a character with this first byte has; zero for a byte that starts none. -/
def sequenceLength (first : UInt8) : Nat :=
  if byteIn first 0x00 0x7F then 1
  else if byteIn first 0xC2 0xDF then 2
  else if byteIn first 0xE0 0xEF then 3
  else if byteIn first 0xF0 0xF4 then 4
  else 0

def lowSix (b : UInt8) : Nat := b.toNat % 64

/-- The character spelled by the bytes of one complete sequence. -/
def spell : List UInt8 → Char
  | [b] => Char.ofNat b.toNat
  | [b, c] => Char.ofNat (b.toNat % 32 * 64 + lowSix c)
  | [b, c, d] => Char.ofNat ((b.toNat % 16 * 64 + lowSix c) * 64 + lowSix d)
  | [b, c, d, e] =>
    Char.ofNat (((b.toNat % 8 * 64 + lowSix c) * 64 + lowSix d) * 64 + lowSix e)
  | _ => '\uFFFD'

/-- What a byte does at the start of a character: it is one, it begins one, or it is
malformed. The second part is the character begun so far. -/
def startUnit (b : UInt8) : List (Option Char) × List UInt8 :=
  match sequenceLength b with
  | 0 => ([none], [])
  | 1 => ([some (spell [b])], [])
  | _ => ([], [b])

/-- Whether a byte continues the character begun so far. -/
def continues (pending : List UInt8) (b : UInt8) : Bool :=
  match pending with
  | [] => false
  | [first] => canFollow first b
  | _ => isContinuation b

/-- What a byte does after the character begun so far. A byte that does not continue it
ends a malformed piece and stands at the start of the next character. -/
def nextUnit (pending : List UInt8) (b : UInt8) : List (Option Char) × List UInt8 :=
  match pending with
  | [] => startUnit b
  | first :: _ =>
    if continues pending b then
      let bytes := pending ++ [b]
      if bytes.length = sequenceLength first then ([some (spell bytes)], []) else ([], bytes)
    else
      let fresh := startUnit b
      (none :: fresh.1, fresh.2)

/-- The characters of a byte sequence, with `none` for each malformed piece. The first
argument is the character begun by the bytes before. -/
def decodeUnitsFrom (pending : List UInt8) : List UInt8 → List (Option Char)
  | [] => if pending.isEmpty then [] else [none]
  | b :: rest =>
    let unit := nextUnit pending b
    unit.1 ++ decodeUnitsFrom unit.2 rest

/-- The characters of a byte sequence, with `none` for each malformed piece. -/
def decodeUnits (bytes : List UInt8) : List (Option Char) := decodeUnitsFrom [] bytes

/-- Reads bytes as text, with the replacement character for each malformed piece. -/
def decodeLossy (bytes : List UInt8) : String :=
  String.ofList ((decodeUnits bytes).map fun unit => unit.getD '\uFFFD')

/-- Reads bytes as text if no piece of them is malformed. -/
def decode? (bytes : List UInt8) : Option String :=
  ((decodeUnits bytes).mapM id).map String.ofList

def encode (s : String) : List UInt8 := s.toList.flatMap String.utf8EncodeChar

end ActivityFlow.Text
