/-!
# Punycode

The ASCII form of a label with other characters: its ASCII characters, and after a hyphen
the places and numbers of the others as a chain of variable-length numbers in base 36. The
threshold that ends a number adapts to the size of the numbers before it.
-/
namespace ActivityFlow.Url.Punycode

/-- The digit of a value below 36: a letter, or from 26 on a decimal digit. -/
def digit (n : Nat) : Char := Char.ofNat (if n < 26 then 97 + n else 22 + n)

def value? (c : Char) : Option Nat :=
  if 'a' ≤ c && c ≤ 'z' then some (c.toNat - 97)
  else if 'A' ≤ c && c ≤ 'Z' then some (c.toNat - 65)
  else if c.isDigit then some (c.toNat - 22)
  else none

def threshold (place bias : Nat) : Nat :=
  if place ≤ bias then 1 else if bias + 26 ≤ place then 26 else place - bias

/-- Divides a number by 35 until it is small, counting 36 for each time. -/
def shrink (n count : Nat) : Nat × Nat :=
  if 455 < n then shrink (n / 35) (count + 36) else (n, count)
termination_by n
decreasing_by omega

/-- The bias after a number, given how many characters there are now. -/
def adapt (delta characters : Nat) (isFirst : Bool) : Nat :=
  let damped := if isFirst then delta / 700 else delta / 2
  let (n, count) := shrink (damped + damped / characters) 0
  count + 36 * n / (n + 38)

theorem threshold_bounds (place bias : Nat) :
    1 ≤ threshold place bias ∧ threshold place bias ≤ 26 := by
  unfold threshold
  split
  · omega
  · split <;> omega

def numberDigits (bias place n : Nat) : List Char :=
  let t := threshold place bias
  if n < t then [digit n]
  else digit (t + (n - t) % (36 - t)) :: numberDigits bias (place + 36) ((n - t) / (36 - t))
termination_by n
decreasing_by
  have h := threshold_bounds place bias
  have := Nat.div_le_self (n - threshold place bias) (36 - threshold place bias)
  omega

structure EncoderState where
  output : List Char
  delta : Nat
  bias : Nat
  /-- How many characters are written. -/
  written : Nat

/-- Passes one character of the label while those with the number `n` are written. -/
def pass (basic n : Nat) (s : EncoderState) (c : Char) : EncoderState :=
  if c.toNat < n then { s with delta := s.delta + 1 }
  else if c.toNat = n then
    { output := s.output ++ numberDigits s.bias 36 s.delta
      delta := 0
      bias := adapt s.delta (s.written + 1) (s.written == basic)
      written := s.written + 1 }
  else s

/-- Writes the characters with the given ascending numbers. -/
def writeFrom (label : List Char) (basic : Nat) (s : EncoderState) (least : Nat) :
    List Nat → EncoderState
  | [] => s
  | n :: rest =>
    let s := { s with delta := s.delta + (n - least) * (s.written + 1) }
    let s := label.foldl (pass basic n) s
    writeFrom label basic { s with delta := s.delta + 1 } (n + 1) rest

def insertNumber (n : Nat) : List Nat → List Nat
  | [] => [n]
  | m :: rest =>
    if n < m then n :: m :: rest else if n = m then m :: rest else m :: insertNumber n rest

def encode (label : List Char) : List Char :=
  let basic := label.filter fun c => c.toNat < 0x80
  let others := (label.filter fun c => 0x80 ≤ c.toNat).foldr (insertNumber ·.toNat) []
  let start := if basic.isEmpty then [] else basic ++ ['-']
  (writeFrom label basic.length ⟨start, 0, 72, basic.length⟩ 0x80 others).output

/-- Reads one number: its value added to `sum`, and the rest. -/
def readNumber (bias place weight sum : Nat) : List Char → Option (Nat × List Char)
  | [] => none
  | c :: rest => do
    let d ← value? c
    let t := threshold place bias
    if d < t then return (sum + d * weight, rest)
    else readNumber bias (place + 36) (weight * (36 - t)) (sum + d * weight) rest

/-- Reads numbers and puts the characters that they describe into a label. -/
def readFrom (fuel : Nat) (label : List Char) (n place bias : Nat) (cs : List Char) :
    Option (List Char) :=
  match fuel with
  | 0 => none
  | more + 1 =>
    if cs.isEmpty then some label
    else do
      let (i, rest) ← readNumber bias 36 1 place cs
      let size := label.length + 1
      let code := n + i / size
      if code.isValidChar then
        let position := i % size
        let next := label.take position ++ Char.ofNat code :: label.drop position
        readFrom more next code (position + 1) (adapt (i - place) size (place == 0)) rest
      else none

/-- The label that a Punycode form stands for. -/
def decode? (cs : List Char) : Option (List Char) :=
  let tail := (cs.reverse.takeWhile (· != '-')).reverse
  let basic := (cs.take (cs.length - tail.length)).dropLast
  if basic.all fun c => c.toNat < 0x80 then readFrom (cs.length + 1) basic 0x80 0 72 tail else none

end ActivityFlow.Url.Punycode
