import Stepping.Particles

/-!
# Contexts

Members advance something that they share with others: a clock, or a system of
particles.  A session has a fixed number of contexts of one setting, and a
member that is attached to one keeps its index.
-/

namespace Stepping

/-- The kind of thing that the members of a compound advance. -/
inductive Setting where
  /-- Clocks, read in picoseconds. -/
  | clock
  | particles
deriving DecidableEq

/-- What a context of a setting holds. -/
abbrev Context : Setting → Type
  | .clock => Float
  | .particles => Particles Float

/-- The contexts that members share, each known by its index. -/
abbrev Contexts (setting : Setting) (size : Nat) : Type :=
  Vector (Context setting) size

end Stepping
