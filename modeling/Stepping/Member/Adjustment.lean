import Stepping.Quantity

/-!
# Adjustments of members

Every member has a step size and a constraint tolerance, and both can be changed
through the compound that owns it.  An adjustment says which of them is to change
and to what.
-/

namespace Stepping

/-- A new value for a parameter that every member has. -/
inductive Adjustment where
  | stepSize (time : Time)
  | tolerance (value : Float)

/-- The new value as a number; a step size counts in picoseconds. -/
def Adjustment.number : Adjustment → Float
  | .stepSize time => time.picoseconds
  | .tolerance value => value

end Stepping
