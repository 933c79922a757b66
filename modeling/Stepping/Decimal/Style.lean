import Stepping.Decimal.Shortest

/-!
# Decimal text of doubles

A style says how the digits of a shortest decimal are laid out.  Messages give
parameters in plain style: never an exponent, and no point in a whole number.
-/

namespace Stepping.Decimal

/-- How the text of a double is laid out. -/
structure Style where
  /-- Which neighbour stands for a double half-way between two shortest decimals. -/
  tie : Tie
  /-- Whether a whole number ends in `.0`. -/
  marksWhole : Bool
  /-- The powers of ten of the first digit, from the least to the greatest, that are written
  without an exponent; all of them, if there is no such range. -/
  positional : Option (Int × Int)

namespace Style

/-- The text of digits without an exponent. -/
def layOut (style : Style) (number : Digits) : String :=
  let digits := Nat.toDigits 10 number.digits
  let point := (digits.length : Int) + number.exponent
  if number.exponent ≥ 0 then
    String.ofList (digits ++ List.replicate number.exponent.toNat '0')
      ++ (if style.marksWhole then ".0" else "")
  else if point > 0 then
    String.ofList (digits.take point.toNat ++ '.' :: digits.drop point.toNat)
  else
    String.ofList ('0' :: '.' :: List.replicate (-point).toNat '0' ++ digits)

/-- The text of a power of ten, always with its sign. -/
def power (exponent : Int) : String :=
  (if exponent < 0 then "-" else "+")
    ++ String.ofList (Nat.toDigits 10 exponent.natAbs)

/-- The text of digits with one digit before the point and an exponent. -/
def withPower (number : Digits) : String :=
  let digits := Nat.toDigits 10 number.digits
  let exponent := (digits.length : Int) + number.exponent - 1
  let fraction := digits.drop 1
  String.ofList (digits.take 1 ++ (if fraction.isEmpty then [] else '.' :: fraction))
    ++ "e" ++ power exponent

/-- The text of a number that is not negative. -/
def magnitude (style : Style) (number : Digits) : String :=
  let leading :=
    ((Nat.toDigits 10 number.digits).length : Int) + number.exponent - 1
  match style.positional with
  | some (least, greatest) =>
      if least ≤ leading && leading ≤ greatest then style.layOut number
      else withPower number
  | none => style.layOut number

/-- The text of a double. -/
def render (style : Style) (value : Float) : String :=
  if value.isNaN then
    "NaN"
  else
    (if value.toBits ≥ 0x8000000000000000 then "-" else "") ++
      (if value.isInf then "inf"
      else if value == 0.0 then style.magnitude ⟨0, 0⟩
      else style.magnitude (shortest style.tie value))

end Style

/-- Digits with a point only where there is a fraction, and never an exponent. -/
def plainStyle : Style where
  tie := .up
  marksWhole := false
  positional := none

/-- The text of a parameter in a message. -/
def plain (value : Float) : String :=
  plainStyle.render value

end Stepping.Decimal
