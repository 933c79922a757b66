/-!
# Particles on springs

A system holds one-dimensional particles, each tied to the origin by a spring
of one common stiffness.  Positions are in nm, velocities in nm/ps, masses in
g/mol and the spring constant in kJ/mol/nm², so energies come out in kJ/mol.

The formulas are written once over any scalars that can be added, multiplied,
divided and negated.  Over doubles they are evaluated in the order in which
they are written; over a field the same formulas are the textbook ones.
-/

namespace Stepping

/-- The numbers that positions, velocities and masses are measured in. -/
class Scalar (α : Type) extends Add α, Mul α, Div α, Neg α where
  half : α
  /-- The value of a sum that has no terms. -/
  emptySum : α
  exp : α → α

/-- Doubles.  A sum without terms is negative zero, which leaves any first term unchanged. -/
instance : Scalar Float where
  half := 0.5
  emptySum := -0.0
  exp := Float.exp

/-- A system of particles: one position, velocity and mass each, and their common spring. -/
structure Particles (α : Type) where
  positions : List α
  velocities : List α
  masses : List α
  springConstant : α
deriving DecidableEq

namespace Particles

variable {α : Type} [Scalar α]

/-- The terms of a list added up from the left. -/
def sum (terms : List α) : α :=
  terms.foldl (· + ·) Scalar.emptySum

/-- The force of its spring on each particle. -/
def forces (particles : Particles α) : List α :=
  particles.positions.map fun position => -particles.springConstant * position

/-- The energy of the particles' motion. -/
def kineticEnergy (particles : Particles α) : α :=
  sum (List.zipWith
    (fun velocity mass => Scalar.half * mass * velocity * velocity)
    particles.velocities particles.masses)

/-- The energy held by the springs. -/
def potentialEnergy (particles : Particles α) : α :=
  sum (particles.positions.map fun position =>
    Scalar.half * particles.springConstant * position * position)

/-- The kinetic and the potential energy together. -/
def totalEnergy (particles : Particles α) : α :=
  particles.kineticEnergy + particles.potentialEnergy

end Particles

/-- The start of one particle. -/
structure ParticleStart (α : Type) where
  mass : α
  position : α
  velocity : α
deriving DecidableEq

/-- The start of a whole system, particle by particle. -/
structure SystemStart (α : Type) where
  springConstant : α
  particles : List (ParticleStart α)
deriving DecidableEq

namespace SystemStart

/-- The system in which every particle is at its start. -/
def build {α : Type} (start : SystemStart α) : Particles α where
  positions := start.particles.map (·.position)
  velocities := start.particles.map (·.velocity)
  masses := start.particles.map (·.mass)
  springConstant := start.springConstant

end SystemStart

end Stepping
