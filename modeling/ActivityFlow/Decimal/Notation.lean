import ActivityFlow.Decimal.Shortest

/-!
# Writing floating point numbers

Documents, messages and diagnostics lay out the same shortest digits in three ways.
Documents and diagnostics keep a fraction on whole numbers and switch to an exponent far
from one, with and without a plus sign; messages are always positional.
-/
namespace ActivityFlow.Decimal

/-- The decisions of a layout: whether large and small magnitudes take an exponent, and
whether a whole number shows a zero fraction. -/
structure Layout where
  /-- The decimal exponents written positionally, from first to last. -/
  positional : Option (Int × Int)
  /-- Whether a whole number in positional form ends in a point and a zero. -/
  zeroFraction : Bool
  /-- Whether an exponent that is not negative has a plus sign. -/
  plusSign : Bool

/-- Documents write `1.0`, `0.00001` and `1e+16`. -/
def documentLayout : Layout := ⟨some (-5, 15), true, true⟩

/-- Messages write `1`, `0.0000001` and all digits of large numbers. -/
def messageLayout : Layout := ⟨none, false, true⟩

/-- Diagnostics write `1.0`, `0.0001` and `1e16`. -/
def diagnosticLayout : Layout := ⟨some (-4, 15), true, false⟩

/-- The digits with the point in its place. -/
def positional (layout : Layout) (d : Digits) : List Char :=
  let digits := Nat.toDigits 10 d.digits
  let point := (digits.length : Int) + d.exponent
  if 0 ≤ d.exponent then
    digits ++ List.replicate d.exponent.toNat '0' ++
      (if layout.zeroFraction then ['.', '0'] else [])
  else if 0 < point then digits.take point.toNat ++ '.' :: digits.drop point.toNat
  else '0' :: '.' :: List.replicate (-point).toNat '0' ++ digits

/-- The digits as one digit, a fraction and a signed exponent. -/
def scientific (layout : Layout) (d : Digits) : List Char :=
  let digits := Nat.toDigits 10 d.digits
  let exponent := (digits.length : Int) + d.exponent - 1
  let sign := if exponent < 0 then ['-'] else if layout.plusSign then ['+'] else []
  let mantissa :=
    match digits with
    | first :: second :: rest => first :: '.' :: second :: rest
    | short => short
  mantissa ++ 'e' :: sign ++ Nat.toDigits 10 exponent.natAbs

def magnitude (layout : Layout) (d : Digits) : List Char :=
  let exponent := (digitCount d.digits : Int) + d.exponent - 1
  match layout.positional with
  | none => positional layout d
  | some (first, last) =>
    if d.digits = 0 || (first ≤ exponent && exponent ≤ last) then positional layout d
    else scientific layout d

def render (layout : Layout) (x : Float) : String :=
  if x.isNaN then "NaN"
  else
    let sign := if isNegative x then ['-'] else []
    if x.isInf then String.ofList (sign ++ ['i', 'n', 'f'])
    else String.ofList (sign ++ magnitude layout (shortest (Binary.ofFloat x)))

end ActivityFlow.Decimal
