import Stepping.Decimal.Shortest

/-!
# Reading decimals

A decimal is read as the double nearest to it, the one with the even
significand where two are equally near.  Decimals too great for any double are
read as infinity, and decimals too small as zero; that is settled by their
number of digits, before a power of ten is computed.
-/

namespace Stepping.Decimal

/-- The greatest power of ten that a double can reach, with room to spare. -/
def greatestMagnitude : Int := 400

/-- The double nearest to `digits * 10 ^ exponent`. -/
def nearest (number : Digits) : Float :=
  let magnitude :=
    ((Nat.toDigits 10 number.digits).length : Int) + number.exponent
  if number.digits = 0 then
    0.0
  else if magnitude > greatestMagnitude then
    1.0 / 0.0
  else if magnitude < -greatestMagnitude then
    0.0
  else
    Float.ofScientific number.digits (number.exponent < 0) number.exponent.natAbs

/-- The double nearest to a decimal with a sign; a zero keeps its sign. -/
def nearestSigned (negative : Bool) (number : Digits) : Float :=
  if negative then -(nearest number) else nearest number

end Stepping.Decimal
