import ActivityFlow.Text.Blank
import ActivityFlow.Text.Digits
import ActivityFlow.Words

/-!
# Spans of time

A span is a whole number of nanoseconds whose seconds fit 64 bits. Settings write spans
as a number with a unit, or as bare seconds; messages write them with a decimal fraction
of the largest fitting unit.
-/
namespace ActivityFlow

/-- A length of time. -/
structure Span where
  nanoseconds : Nat
  fits : nanoseconds < words64 * nanosPerSecond
deriving DecidableEq

namespace Span

def zero : Span := ⟨0, by decide⟩

instance : Inhabited Span := ⟨zero⟩

/-- A span of whole seconds, if they fit 64 bits. -/
def ofSeconds? (n : Nat) : Option Span :=
  if h : n < words64 then some ⟨n * nanosPerSecond, Nat.mul_lt_mul_of_pos_right h (by decide)⟩
  else none

/-- A span of whole milliseconds, if they fit 64 bits. -/
def ofMillis? (n : Nat) : Option Span :=
  if h : n < words64 then some ⟨n * nanosPerMilli, by
    simp only [words64, nanosPerMilli, nanosPerSecond] at h ⊢
    omega⟩
  else none

/-- A span of nanoseconds, if its seconds fit 64 bits. -/
def ofNanos? (n : Nat) : Option Span :=
  if h : n < words64 * nanosPerSecond then some ⟨n, h⟩ else none

def seconds (n : Nat) (h : n < words64 := by decide) : Span :=
  ⟨n * nanosPerSecond, Nat.mul_lt_mul_of_pos_right h (by decide)⟩

def wholeSeconds (d : Span) : Nat := d.nanoseconds / nanosPerSecond

def subNanos (d : Span) : Nat := d.nanoseconds % nanosPerSecond

def wholeMillis (d : Span) : Nat := d.nanoseconds / nanosPerMilli

/-- The milliseconds of a span, a started one counting as a whole one. -/
def ceilMillis (d : Span) : Nat := (d.nanoseconds + (nanosPerMilli - 1)) / nanosPerMilli

def shorterThan (a b : Span) : Bool := a.nanoseconds < b.nanoseconds

/-! ## Settings -/

/-- The number that ASCII digits spell, with an optional plus sign, below `2 ^ 64`. -/
def readCount? (cs : List Char) : Option Nat :=
  let digits :=
    match cs with
    | '+' :: more => more
    | more => more
  if digits.isEmpty || !digits.all Char.isDigit then none
  else
    let n := Text.decimalValue digits
    if n < words64 then some n else none

/-- How many seconds a one-letter unit stands for. -/
def unitSeconds? (c : Char) : Option Nat :=
  if c == 's' || c == 'S' then some 1
  else if c == 'm' || c == 'M' then some 60
  else if c == 'h' || c == 'H' then some 3600
  else none

/-- Reads a span without white space around it, from its last character to its first. -/
def parseReversed? : List Char → Option Span
  | [] => none
  | 's' :: 'm' :: number => (readCount? (Text.trimChars number.reverse)).bind ofMillis?
  | c :: number =>
    if c.isAlpha then do
      let n ← readCount? (Text.trimChars number.reverse)
      let factor ← unitSeconds? c
      ofSeconds? (n * factor)
    else (readCount? (c :: number).reverse).bind ofSeconds?

/-- Reads a span such as `500ms`, `30s`, `5m`, `2h` or bare seconds. -/
def parse? (s : String) : Option Span := parseReversed? (Text.trimChars s.toList).reverse

/-- Writes a span in the largest unit that divides it, down to milliseconds. Parts of a
millisecond are dropped. -/
def format (d : Span) : String :=
  if d.subNanos ≠ 0 then toString d.wholeMillis ++ "ms"
  else
    let n := d.wholeSeconds
    if n ≠ 0 && n % 3600 = 0 then toString (n / 3600) ++ "h"
    else if n ≠ 0 && n % 60 = 0 then toString (n / 60) ++ "m"
    else toString n ++ "s"

/-! ## Messages -/

/-- A decimal fraction of the given number of places, without trailing zeros. -/
def fractionChars (n places : Nat) : List Char :=
  let digits := Nat.toDigits 10 n
  let padded := List.replicate (places - digits.length) '0' ++ digits
  let kept := (padded.reverse.dropWhile (· == '0')).reverse
  if kept.isEmpty then [] else '.' :: kept

def decimalIn (whole fraction places : Nat) (unit : String) : String :=
  toString whole ++ String.ofList (fractionChars fraction places) ++ unit

/-- Writes a span for a message: in seconds, milliseconds, microseconds or nanoseconds,
the largest of them that is not zero. -/
def describe (d : Span) : String :=
  let n := d.subNanos
  if 0 < d.wholeSeconds then decimalIn d.wholeSeconds n 9 "s"
  else if nanosPerMilli ≤ n then decimalIn (n / nanosPerMilli) (n % nanosPerMilli) 6 "ms"
  else if 1000 ≤ n then decimalIn (n / 1000) (n % 1000) 3 "µs"
  else toString n ++ "ns"

end Span

end ActivityFlow
