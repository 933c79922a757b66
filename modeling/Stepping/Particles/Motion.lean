import Stepping.Particles

/-!
# Motion of particles

The motion is followed step by step by one of two schemes.  One step of velocity
Verlet kicks every velocity by half a step, drifts every position by a whole
one, and kicks again with the forces at the new positions.  One step of Langevin
dynamics at zero temperature kicks by a whole step, damps the velocities, and
drifts.  Taking several steps repeats one step; nothing is carried from one step
to the next but the system itself.
-/

namespace Stepping.Particles

variable {α : Type} [Scalar α]

/--
Give each velocity the value that `rule velocity force mass` names.  Velocities
past the last force or mass stay as they are.
-/
def kick (rule : α → α → α → α) :
    (velocities forces masses : List α) → List α
  | velocity :: velocities, force :: forces, mass :: masses =>
      rule velocity force mass :: kick rule velocities forces masses
  | velocities, _, _ => velocities

/--
Move each position along its velocity for a time.  Positions past the last
velocity stay as they are.
-/
def drift (time : α) : (positions velocities : List α) → List α
  | position :: positions, velocity :: velocities =>
      (position + time * velocity) :: drift time positions velocities
  | positions, _ => positions

/-- Kick every velocity with the forces at the present positions. -/
def kicked (rule : α → α → α → α) (particles : Particles α) : Particles α :=
  { particles with
    velocities := kick rule particles.velocities particles.forces particles.masses }

/-- Drift every position at the present velocities. -/
def drifted (time : α) (particles : Particles α) : Particles α :=
  { particles with
    positions := drift time particles.positions particles.velocities }

/-- The velocity after half a step's acceleration. -/
def halfKick (time velocity force mass : α) : α :=
  velocity + Scalar.half * time * force / mass

/-- The velocity after a whole step's acceleration, damped. -/
def dampedKick (time damping velocity force mass : α) : α :=
  (velocity + time * force / mass) * damping

/-- One step of velocity Verlet: half a kick, a drift, half a kick. -/
def verletStep (time : α) (particles : Particles α) : Particles α :=
  ((particles.kicked (halfKick time)).drifted time).kicked (halfKick time)

/-- The factor by which friction slows the velocities over one step. -/
def dampingFactor (friction time : α) : α :=
  Scalar.exp (-friction * time)

/-- One step of Langevin dynamics at zero temperature: a damped kick and a drift. -/
def langevinStep (time damping : α) (particles : Particles α) : Particles α :=
  (particles.kicked (dampedKick time damping)).drifted time

/-- What so many repetitions of one step make of a system. -/
def repeated (step : Particles α → Particles α) :
    Nat → Particles α → Particles α
  | 0, particles => particles
  | count + 1, particles => repeated step count (step particles)

/-- How the motion of particles is followed. -/
inductive Scheme (α : Type) where
  /-- Velocity Verlet, which keeps the energy close to constant. -/
  | verlet
  /-- Langevin dynamics at zero temperature, which bring the particles to rest by friction. -/
  | langevin (friction : α)
deriving DecidableEq

/-- One step of a scheme. -/
def Scheme.step (scheme : Scheme α) (time : α) : Particles α → Particles α :=
  match scheme with
  | .verlet => verletStep time
  | .langevin friction => langevinStep time (dampingFactor friction time)

/-- The system after so many steps of a scheme. -/
def advanced (scheme : Scheme α) (time : α) (steps : Nat)
    (particles : Particles α) : Particles α :=
  repeated (scheme.step time) steps particles

end Stepping.Particles
