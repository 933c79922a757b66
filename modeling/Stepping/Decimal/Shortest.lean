/-!
# Shortest decimals

A finite double stands for all reals that round to it.  Its shortest decimal is
the one with the fewest digits among them, and of those with the fewest digits
the nearest to the double.  The search goes through the grids of one, two, and
so on up to seventeen digits; on each grid only the two neighbours of the
double can be the answer, and they are compared exactly, in natural numbers.
-/

namespace Stepping.Decimal

/-- The number `digits * 10 ^ exponent`. -/
structure Digits where
  digits : Nat
  /-- The power of ten that they count. -/
  exponent : Int
deriving DecidableEq, Repr

/-- Which of two neighbours stands for a double half-way between them. -/
inductive Tie where
  | up
  | even
deriving DecidableEq, Repr

/-- The number `significand * 2 ^ exponent`, as a double keeps it. -/
structure Binary where
  significand : Nat
  /-- The power of two that it counts. -/
  exponent : Int
  /-- Whether the next smaller double is only half as far away as the next greater one. -/
  narrowBelow : Bool
deriving DecidableEq, Repr

namespace Binary

/-- The magnitude that the bits of a finite double encode. -/
def ofBits (bits : UInt64) : Binary :=
  let fraction : Nat := bits.toNat % Nat.pow 2 52
  let field : Nat := bits.toNat / Nat.pow 2 52 % Nat.pow 2 11
  if field = 0 then
    ⟨fraction, -1074, false⟩
  else
    ⟨Nat.pow 2 52 + fraction, (field : Int) - 1075, fraction = 0 && field > 1⟩

/-- The length of the significand's unit and the step of the grid `10 ^ grid`, on a common scale. -/
def units (binary : Binary) (grid : Int) : Nat × Nat :=
  (Nat.pow 2 binary.exponent.toNat * Nat.pow 10 (-grid).toNat,
    Nat.pow 2 (-binary.exponent).toNat * Nat.pow 10 grid.toNat)

/-- Whether a multiple of `10 ^ grid` rounds to the double. -/
def represents (binary : Binary) (grid : Int) (multiple : Nat) : Bool :=
  let (unit, step) := binary.units grid
  let below := if binary.narrowBelow then 1 else 2
  let low := (4 * binary.significand - below) * unit
  let high := (4 * binary.significand + 2) * unit
  let point := 4 * multiple * step
  if binary.significand % 2 = 0 then
    low ≤ point && point ≤ high
  else
    low < point && point < high

/-- The greatest multiple of `10 ^ grid` that is not above the double. -/
def floor (binary : Binary) (grid : Int) : Nat :=
  let (unit, step) := binary.units grid
  binary.significand * unit / step

/-- Whether the double is nearer to the next multiple of `10 ^ grid` than to this one. -/
def isNearerAbove (tie : Tie) (binary : Binary) (grid : Int)
    (multiple : Nat) : Bool :=
  let (unit, step) := binary.units grid
  let twice := 2 * binary.significand * unit
  let middle := (2 * multiple + 1) * step
  match tie with
  | .up => middle ≤ twice
  | .even => middle < twice || (middle = twice && multiple % 2 = 1)

/-- The number of digits before the decimal point; not above zero for a fraction. -/
def magnitude (binary : Binary) : Int :=
  ((Nat.toDigits 10 (binary.floor (-400))).length : Int) - 400

/-- The multiple of `10 ^ grid` nearest to the double, of those that round to it. -/
def onGrid? (tie : Tie) (binary : Binary) (grid : Int) : Option Nat :=
  let lower := binary.floor grid
  match binary.represents grid lower, binary.represents grid (lower + 1) with
  | true, true =>
      some (if binary.isNearerAbove tie grid lower then lower + 1 else lower)
  | true, false => some lower
  | false, true => some (lower + 1)
  | false, false => none

/-- The first hit on the grids of `count`, `count + 1`, … digits, so many grids at most. -/
def search (tie : Tie) (binary : Binary) : (grids count : Nat) → Digits
  | 0, count => ⟨binary.floor (binary.magnitude - count), binary.magnitude - count⟩
  | grids + 1, count =>
      let grid := binary.magnitude - count
      match binary.onGrid? tie grid with
      | some multiple =>
          if multiple = Nat.pow 10 count then ⟨1, grid + count⟩ else ⟨multiple, grid⟩
      | none => search tie binary grids (count + 1)

end Binary

/-- The shortest decimal of a finite double that is not zero, without its sign. -/
def shortest (tie : Tie) (value : Float) : Digits :=
  (Binary.ofBits value.toBits).search tie 17 1

end Stepping.Decimal
