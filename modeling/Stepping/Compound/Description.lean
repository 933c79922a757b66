import Stepping.Compound

/-!
# Descriptions of compounds

A compound is described by the number of its members, the index of the active
one and whether it is bound, on one line or with every part on a line of its
own.
-/

namespace Stepping.Compound

variable {setting : Setting} {size : Nat}

/-- The compound described on one line. -/
def describe (compound : Compound setting size) : String :=
  let active :=
    match compound.activeIndex with
    | none => "None"
    | some index => s!"Some({index})"
  "CompoundIntegrator \x7b members: " ++ toString compound.members.length
    ++ ", active: " ++ active
    ++ ", bound: " ++ toString compound.bound ++ " \x7d"

/-- The compound described over several lines. -/
def describeInLines (compound : Compound setting size) : String :=
  let active :=
    match compound.activeIndex with
    | none => "None"
    | some index => s!"Some(\n        {index},\n    )"
  "CompoundIntegrator \x7b\n    members: " ++ toString compound.members.length
    ++ ",\n    active: " ++ active
    ++ ",\n    bound: " ++ toString compound.bound ++ ",\n\x7d"

end Stepping.Compound
