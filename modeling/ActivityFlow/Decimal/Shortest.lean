/-!
# Shortest decimals

The fewest decimal digits that read back to a given floating point number, chosen by
exact arithmetic: a number stands for the interval of reals that round to it, and the
digits are those of the shortest decimal in that interval, the nearest one if there are
several.
-/
namespace ActivityFlow.Decimal

/-- A finite magnitude `mantissa * 2 ^ exponent`. Below a power of two the gap to the
next smaller number is half of the gap to the next larger one. -/
structure Binary where
  mantissa : Nat
  exponent : Int
  narrowBelow : Bool
deriving DecidableEq, Repr

/-- The magnitude of a finite floating point number, read off its bits. -/
def Binary.ofFloat (x : Float) : Binary :=
  let bits : Nat := x.toBits.toNat
  let fraction : Nat := bits % 4503599627370496
  let biased : Nat := bits / 4503599627370496 % 2048
  if biased = 0 then ⟨fraction, -1074, false⟩
  else ⟨4503599627370496 + fraction, (biased : Int) - 1075, fraction == 0 && biased > 1⟩

def isNegative (x : Float) : Bool := 9223372036854775808 ≤ x.toBits.toNat

/-- A decimal `digits * 10 ^ exponent`. -/
structure Digits where
  digits : Nat
  exponent : Int
deriving DecidableEq, Repr

/-- `base ^ max e 0`. -/
def posPow (base : Nat) (e : Int) : Nat := Nat.pow base e.toNat

/-- Compares `a * 10 ^ k` with `b * 2 ^ q` by cross-multiplication. -/
def compareScaled (a : Nat) (k : Int) (b : Nat) (q : Int) : Ordering :=
  compare (a * posPow 10 k * posPow 2 (-q)) (b * posPow 2 q * posPow 10 (-k))

/-- Whether `d * 10 ^ k` lies in the interval of reals that round to `x`. The ends belong
to it exactly when the mantissa is even. -/
def readsBack (x : Binary) (d : Nat) (k : Int) : Bool :=
  let q := x.exponent - 2
  let below := 4 * x.mantissa - (if x.narrowBelow then 1 else 2)
  let above := 4 * x.mantissa + 2
  let low := compareScaled d k below q
  let high := compareScaled d k above q
  if x.mantissa % 2 = 0 then low != .lt && high != .gt else low == .gt && high == .lt

/-- The integer part of `x / 10 ^ k`. -/
def floorAt (x : Binary) (k : Int) : Nat :=
  (x.mantissa * posPow 2 x.exponent * posPow 10 (-k)) /
    (posPow 2 (-x.exponent) * posPow 10 k)

def digitCount (n : Nat) : Nat := (Nat.toDigits 10 n).length

/-- The least `s` with `x < 10 ^ s`, for a nonzero magnitude. -/
def scale (x : Binary) : Int := (digitCount (floorAt x (-400)) : Int) - 400

/-- Whether `d + 1` is nearer to `x / 10 ^ k` than `d`, or as near with `d` odd. -/
def prefersUpper (x : Binary) (d : Nat) (k : Int) : Bool :=
  match compareScaled (2 * d + 1) k (2 * x.mantissa) x.exponent with
  | .lt => true
  | .gt => false
  | .eq => d % 2 == 1

/-- The decimal with exponent `k` next to `x` that reads back to it, if there is one. -/
def candidate (x : Binary) (k : Int) : Option Digits :=
  let d := floorAt x k
  match readsBack x d k, readsBack x (d + 1) k with
  | true, true => some ⟨if prefersUpper x d k then d + 1 else d, k⟩
  | true, false => some ⟨d, k⟩
  | false, true => some ⟨d + 1, k⟩
  | false, false => none

/-- Moves the trailing zeros of the digits into the exponent. -/
def Digits.strip (count : Nat) (d : Digits) : Digits :=
  match count with
  | 0 => d
  | n + 1 => if d.digits % 10 = 0 then Digits.strip n ⟨d.digits / 10, d.exponent + 1⟩ else d

/-- The shortest decimal that reads back to a magnitude: grids of one to seventeen digits
are tried in turn. Seventeen always suffice; the exact value stands in for want of a hit. -/
def shortest (x : Binary) : Digits :=
  if x.mantissa = 0 then ⟨0, 0⟩
  else
    let s := scale x
    match (List.range 17).findSome? fun n => candidate x (s - (n + 1 : Nat)) with
    | some d => d.strip 20
    | none => ⟨floorAt x (-1100), -1100⟩

end ActivityFlow.Decimal
