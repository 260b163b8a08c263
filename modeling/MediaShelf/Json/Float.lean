import MediaShelf.Json.Basic

/-!
# Numbers in double precision

## Main definitions

* `Number.toFloat?` — the nearest number in double precision
* `toFloat?` — the same for a JSON value
-/

namespace MediaShelf.Json

/-- How many decimal digits a number has. -/
def digitCount (n : Nat) : Nat := (Nat.toDigits 10 n).length

/-- The nearest number in double precision to a decimal, unless it is too large. -/
def decimalToFloat? (mantissa : Nat) (exponent : Int) : Option Float :=
  let size : Int := digitCount mantissa + exponent
  if mantissa == 0 || size < -330 then some 0
  else if size > 310 then none
  else
    let value := Float.ofScientific mantissa (exponent < 0) exponent.natAbs
    if value.isInf then none else some value

/-- The nearest number in double precision, unless the number is too large. -/
def Number.toFloat? : Number → Option Float
  | integer isNegative magnitude =>
    (decimalToFloat? magnitude 0).map fun x => if isNegative then -x else x
  | decimal isNegative mantissa exponent =>
    (decimalToFloat? mantissa exponent).map fun x => if isNegative then -x else x

/-- The value of a number in double precision. -/
def toFloat? : Json → Option Float
  | .number n => n.toFloat?
  | _ => none

end MediaShelf.Json
