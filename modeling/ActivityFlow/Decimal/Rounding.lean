import ActivityFlow.Decimal.Shortest

/-!
# Rounding

Quotients of naturals rounded to the nearest whole number, a half going to the even
neighbour, and floating point numbers rounded to a fraction of one.
-/
namespace ActivityFlow.Decimal

/-- The whole number nearest to `num / den`; of two equally near ones the even one. -/
def roundDiv (num den : Nat) : Nat :=
  let quotient := num / den
  let twice := 2 * (num % den)
  if twice < den then quotient
  else if den < twice then quotient + 1
  else if quotient % 2 = 0 then quotient
  else quotient + 1

/-- How many units a number has, to the nearest, when one holds `units` of them. Only
finite numbers that are not negative have a count. -/
def roundedUnits? (x : Float) (units : Nat) : Option Nat :=
  if x.isNaN || x.isInf || x < 0 then none
  else
    let b := Binary.ofFloat x
    some (roundDiv (b.mantissa * posPow 2 b.exponent * units) (posPow 2 (-b.exponent)))

end ActivityFlow.Decimal
