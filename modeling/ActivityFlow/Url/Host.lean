import ActivityFlow.Text.Category
import ActivityFlow.Text.LetterCase
import ActivityFlow.Text.Utf8
import ActivityFlow.Url.Percent
import ActivityFlow.Url.Punycode

/-!
# Hosts

The host of an address is a domain name or a number: four bytes, or eight groups of sixteen
bits. Domain names are kept in their ASCII form.

The preparation of names beyond ASCII is an approximation of UTS 46. Characters are folded by
letter case and width, but not by the compatibility mappings; names are not normalized, and the
direction of their characters is not checked. So some international names are accepted or spelled
differently here. ASCII names are read exactly, apart from labels that stand for others.
-/
namespace ActivityFlow.Url

/-- What is wrong with an address. -/
inductive Fault where
  | relative
  | emptyHost
  | invalidPort
  | invalidIPv4
  | invalidIPv6
  | invalidDomain
  | invalidHostCharacter
  | unsupportedScheme (name : String)
deriving DecidableEq

def Fault.message : Fault → String
  | relative => "relative URL without a base"
  | emptyHost => "empty host"
  | invalidPort => "invalid port number"
  | invalidIPv4 => "invalid IPv4 address"
  | invalidIPv6 => "invalid IPv6 address"
  | invalidDomain => "invalid international domain name"
  | invalidHostCharacter => "invalid domain character"
  | unsupportedScheme name => "unsupported scheme '" ++ name ++ "'"

inductive Host where
  | domain (name : String)
  /-- An address of 32 bits. -/
  | v4 (number : Nat)
  /-- An address of eight groups of sixteen bits. -/
  | v6 (groups : List Nat)
deriving DecidableEq

def splitAt (separator : Char) : List Char → List (List Char)
  | [] => [[]]
  | c :: rest =>
    let parts := splitAt separator rest
    if c == separator then [] :: parts
    else
      match parts with
      | [] => [[c]]
      | part :: more => (c :: part) :: more

def digitsValue (base : Nat) (digits : List Char) : Nat :=
  digits.foldl (fun n c => n * base + (Text.hexDigit? c).getD 0) 0

/-! ## Addresses of 32 bits -/

/-- Whether a character is a digit of a base up to sixteen. -/
def isDigitOf (base : Nat) (c : Char) : Bool := (Text.hexDigit? c).any (· < base)

def numberBase : List Char → Nat × List Char
  | '0' :: 'x' :: rest => (16, rest)
  | '0' :: 'X' :: rest => (16, rest)
  | '0' :: c :: rest => (8, c :: rest)
  | cs => (10, cs)

/-- The number that a part of an address spells: decimal, octal or hexadecimal. -/
def partNumber? (part : List Char) : Option Nat :=
  let (base, digits) := numberBase part
  if part.isEmpty || !digits.all (isDigitOf base) then none else some (digitsValue base digits)

def dropEmptyLast (parts : List (List Char)) : List (List Char) :=
  if parts.getLast? = some [] then parts.dropLast else parts

def endsInNumber (name : List Char) : Bool :=
  match (dropEmptyLast (splitAt '.' name)).getLast? with
  | some last => (!last.isEmpty && last.all Char.isDigit) || (partNumber? last).isSome
  | none => false

/-- Puts the leading bytes of an address in front of its last number. -/
def joinBytes (last : Nat) (place : Nat) : List Nat → Nat
  | [] => last
  | byte :: rest => byte * Nat.pow 256 (3 - place) + joinBytes last (place + 1) rest

/-- Reads an address of 32 bits: up to four numbers, of which all but the last are bytes. -/
def readV4 (name : List Char) : Except Fault Host :=
  let parts := dropEmptyLast (splitAt '.' name)
  match parts.mapM partNumber? with
  | none => .error .invalidIPv4
  | some numbers =>
    match numbers.getLast? with
    | none => .error .invalidIPv4
    | some last =>
      let bytes := numbers.dropLast
      if 4 < parts.length || Nat.pow 256 (4 - bytes.length) ≤ last || bytes.any (255 < ·) then
        .error .invalidIPv4
      else .ok (.v4 (joinBytes last 0 bytes))

/-! ## Addresses of 128 bits -/

/-- The group that one to four hexadecimal digits spell. -/
def group? (cs : List Char) : Option Nat :=
  if cs.isEmpty || 4 < cs.length || !cs.all (isDigitOf 16) then none
  else some (digitsValue 16 cs)

/-- The byte that decimal digits without leading zeros spell. -/
def byte? (cs : List Char) : Option Nat :=
  if cs.isEmpty || 3 < cs.length || !cs.all Char.isDigit || (1 < cs.length && cs.head? == some '0')
  then none
  else
    let n := digitsValue 10 cs
    if n < 256 then some n else none

/-- The two groups that four bytes with points between them stand for. -/
def dottedGroups? (cs : List Char) : Option (List Nat) :=
  match (splitAt '.' cs).mapM byte? with
  | some [a, b, c, d] => some [a * 256 + b, c * 256 + d]
  | _ => none

/-- The groups between colons; the last part may be four bytes. -/
def groups? (mayBeDotted : Bool) (cs : List Char) : Option (List Nat) :=
  if cs.isEmpty then some []
  else
    let parts := splitAt ':' cs
    let last := parts.getLastD []
    if mayBeDotted && last.contains '.' then do
      return (← parts.dropLast.mapM group?) ++ (← dottedGroups? last)
    else parts.mapM group?

def splitPair : List Char → Option (List Char × List Char)
  | ':' :: ':' :: rest => some ([], rest)
  | [] => none
  | c :: rest => (splitPair rest).map fun (left, right) => (c :: left, right)

/-- Reads an address of 128 bits. A pair of colons stands for one or more zero groups. -/
def v6Groups? (cs : List Char) : Option (List Nat) :=
  match splitPair cs with
  | none => do
    let groups ← groups? true cs
    if groups.length = 8 then return groups else none
  | some (left, right) => do
    let before ← groups? false left
    let after ← groups? true right
    let size := before.length + after.length
    if size ≤ 7 then return before ++ List.replicate (8 - size) 0 ++ after else none

def leadingZeros (groups : List Nat) : Nat := (groups.takeWhile (· == 0)).length

/-- The first place and the length of the longest run of zeros from a place on. -/
def longestRun (place : Nat) : List Nat → Nat × Nat
  | [] => (place, 0)
  | g :: rest =>
    let here := leadingZeros (g :: rest)
    let later := longestRun (place + 1) rest
    if 0 < here && later.2 ≤ here then (place, here) else later

/-- The lower-case hexadecimal form of a group. -/
def groupText (n : Nat) : String := String.ofList (Nat.toDigits 16 n)

/-- The text of groups; the first of the longest runs of two or more zeros is left out. -/
def v6Text (groups : List Nat) : String :=
  let (place, size) := longestRun 0 groups
  let join (gs : List Nat) : String := String.intercalate ":" (gs.map groupText)
  if size < 2 then join groups
  else join (groups.take place) ++ "::" ++ join (groups.drop (place + size))

/-! ## Domain names -/

/-- Whether an ASCII character may not stand in a domain name. -/
def isForbidden (c : Char) : Bool :=
  c.toNat ≤ 0x20 || c.toNat = 0x7F || c == '%' || c == '#' || c == '/' || c == ':' || c == '<' ||
    c == '>' || c == '?' || c == '@' || c == '[' || c == '\\' || c == ']' || c == '^' || c == '|'

/-- Whether a character has no effect in a domain name. -/
def isIgnored (c : Char) : Bool :=
  let n := c.toNat
  n == 0xAD || n == 0x34F || n == 0x200B || n == 0x2060 || n == 0x2064 || n == 0xFEFF ||
    (0x180B ≤ n && n ≤ 0x180D) || (0xFE00 ≤ n && n ≤ 0xFE0F) || (0xE0100 ≤ n && n ≤ 0xE01EF)

/-- The form of a character in domain names: lower case, of ordinary width, and a point for
the full stops of other scripts. -/
def nameChar (c : Char) : Char :=
  let n := c.toNat
  if n == 0x3002 || n == 0xFF0E || n == 0xFF61 then '.'
  else if 0xFF01 ≤ n && n ≤ 0xFF5E then Text.foldCase (Char.ofNat (n - 0xFEE0))
  else if n == 0x3C2 || n == 0xDF then c
  else if n == 0x1E9E then Char.ofNat 0xDF
  else Text.foldCase c

/-- Whether a character beyond ASCII may stand in a domain name. -/
def isNameChar (c : Char) : Bool :=
  let kind := Text.Category.ofChar c
  nameChar c == c && !isIgnored c && !Text.Category.others.contains kind &&
    !Text.Category.separators.contains kind

/-- Whether characters can be a label: beyond ASCII they may stand in a name, and the first
one is not a mark, which would extend the point before it. -/
def isLabel (label : List Char) : Bool :=
  label.all (fun c => c.toNat < 0x80 || isNameChar c) &&
    !label.head?.any fun c => Text.Category.marks.contains (Text.Category.ofChar c)

/-- How a label in ASCII form begins if it stands for other characters. -/
def codedMark : List Char := ['x', 'n', '-', '-']

def asciiLabel? (label : List Char) : Option (List Char) :=
  if label.any isForbidden then none
  else if codedMark.isPrefixOf label then
    match Punycode.decode? (label.drop codedMark.length) with
    | some decoded =>
      if decoded.any (fun c => 0x80 ≤ c.toNat) && isLabel decoded &&
        codedMark ++ Punycode.encode decoded == label
      then some label else none
    | none => none
  else if label.all fun c => c.toNat < 0x80 then some label
  else if isLabel label then
    some (codedMark ++ Punycode.encode label)
  else none

/-- The ASCII form of a domain name, with the mapping of characters only approximated. -/
def asciiName? (name : List Char) : Option (List Char) := do
  let plain := (name.filter fun c => !isIgnored c).map nameChar
  let labels ← (splitAt '.' plain).mapM asciiLabel?
  return List.intercalate ['.'] labels

namespace Host

def read (cs : List Char) : Except Fault Host :=
  match cs with
  | '[' :: rest =>
    if rest.getLast? = some ']' then
      match v6Groups? rest.dropLast with
      | some groups => .ok (.v6 groups)
      | none => .error .invalidIPv6
    else .error .invalidIPv6
  | _ =>
    match (Text.decode? (percentDecode cs)).bind fun name => asciiName? name.toList with
    | none => .error .invalidDomain
    | some name =>
      if name.isEmpty then .error .emptyHost
      else if endsInNumber name then readV4 name
      else .ok (.domain (String.ofList name))

/-- Whether a character may not stand in the host of an address of an unknown scheme. -/
def isOpaqueForbidden (c : Char) : Bool :=
  c.toNat = 0 || c == '\t' || c == '\n' || c == '\r' || c == ' ' || c == '#' || c == '/' ||
    c == ':' || c == '<' || c == '>' || c == '?' || c == '@' || c == '[' || c == '\\' || c == ']' ||
    c == '^' || c == '|'

/-- Checks the host of an address of an unknown scheme. -/
def checkOpaque (cs : List Char) : Except Fault Unit :=
  match cs with
  | '[' :: rest =>
    if rest.getLast? = some ']' && (v6Groups? rest.dropLast).isSome then .ok ()
    else .error .invalidIPv6
  | _ => if cs.any isOpaqueForbidden then .error .invalidHostCharacter else .ok ()

def text : Host → String
  | domain name => name
  | v4 n =>
    String.intercalate "." ([n / 16777216, n / 65536 % 256, n / 256 % 256, n % 256].map toString)
  | v6 groups => "[" ++ v6Text groups ++ "]"

end Host

end ActivityFlow.Url
