/-!
# Digits

Digits of a radix of at most sixteen, and the numbers that they spell.
-/
namespace ActivityFlow.Text

/-- The value of a digit; letters of either case go on after nine. -/
def digit? (radix : Nat) (c : Char) : Option Nat :=
  let value :=
    if c.isDigit then c.toNat - 48
    else if 'a' ≤ c && c ≤ 'f' then c.toNat - 87
    else if 'A' ≤ c && c ≤ 'F' then c.toNat - 55
    else radix
  if value < radix then some value else none

/-- The value of a hexadecimal digit. -/
def hexDigit? (c : Char) : Option Nat := digit? 16 c

/-- The number that digits spell; there has to be at least one. -/
def natural? (radix : Nat) (digits : List Char) : Option Nat :=
  if digits.isEmpty then none
  else digits.foldlM (fun n c => (digit? radix c).map (n * radix + ·)) 0

/-- The number that decimal digits spell; no digits spell zero. -/
def decimalValue (digits : List Char) : Nat :=
  digits.foldl (fun n c => n * 10 + (c.toNat - 48)) 0

end ActivityFlow.Text
