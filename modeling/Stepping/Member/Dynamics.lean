import Stepping.Context
import Stepping.Count
import Stepping.Decimal.Style
import Stepping.Kernels
import Stepping.Member.Adjustment
import Stepping.Particles.Motion

/-!
# Dynamics

A member for particle settings that steps the system it is attached to by a
scheme: velocity Verlet or Langevin dynamics.  Step sizes and tolerances must be
positive and finite, friction must not be negative and must be finite; what is
offered and does not meet its condition is refused, and the refusal carries it.
A step size is kept in picoseconds just as it was given.
-/

namespace Stepping

/-- Dynamics of particles, whatever the scheme that moves them. -/
structure Dynamics (size : Nat) where
  /-- The number under which the dynamics were made; no other member shares it. -/
  serial : Nat
  /-- The length of a step in picoseconds. -/
  stepSize : Float
  tolerance : Float
  stepsTaken : Count
  attachment : Option (Fin size)
deriving DecidableEq

namespace Dynamics

/-- The schemes that dynamics may follow. -/
abbrev Scheme := Particles.Scheme Float

/-- Why a call on dynamics failed. -/
inductive Failure where
  | unbound
  /-- The step size offered, in picoseconds, is not positive and finite. -/
  | invalidStepSize (picoseconds : Float)
  /-- The tolerance offered is not positive and finite. -/
  | invalidTolerance (tolerance : Float)
  /-- The friction offered, per picosecond, is negative or not finite. -/
  | invalidFriction (friction : Float)
  | noParticles
deriving DecidableEq

/-- The failure in words. -/
def Failure.message : Failure → String
  | .unbound => "integrator is not bound to a system"
  | .invalidStepSize picoseconds =>
      "step size must be positive and finite, got "
        ++ Decimal.plain picoseconds ++ " ps"
  | .invalidTolerance tolerance =>
      "constraint tolerance must be positive and finite, got "
        ++ Decimal.plain tolerance
  | .invalidFriction friction =>
      "friction must be non-negative and finite, got "
        ++ Decimal.plain friction ++ " 1/ps"
  | .noParticles => "system has no particles"

/-! ## Conditions on parameters -/

/-- Whether a value is finite and above zero. -/
def positive (value : Float) : Bool :=
  value.isFinite && decide (value > 0.0)

/-- Whether a value is finite and not below zero. -/
def nonNegative (value : Float) : Bool :=
  value.isFinite && decide (value ≥ 0.0)

/-- A value, if it meets a condition; else a refusal carries it. -/
def checkedBy (condition : Float → Bool) (refusal : Float → Failure)
    (value : Float) : Except Failure Float :=
  if condition value then .ok value else .error (refusal value)

/-- A step size in picoseconds, if it may be one. -/
def checkedStepSize : Float → Except Failure Float :=
  checkedBy positive .invalidStepSize

/-- A tolerance, if it may be one. -/
def checkedTolerance : Float → Except Failure Float :=
  checkedBy positive .invalidTolerance

/-- A friction per picosecond, if it may be one. -/
def checkedFriction : Float → Except Failure Float :=
  checkedBy nonNegative .invalidFriction

/-- The new value of an adjustment, if the parameter may have it. -/
def checked : Adjustment → Except Failure Float
  | .stepSize time => checkedStepSize time.picoseconds
  | .tolerance value => checkedTolerance value

/-- A scheme, if its friction may be one. -/
def checkedScheme : Scheme → Except Failure Scheme
  | .verlet => .ok .verlet
  | .langevin friction => (checkedFriction friction).map .langevin

/-- The constraint tolerance of dynamics for which none has been set. -/
def standardTolerance : Float := 1e-5

/-! ## Calls -/

variable {size : Nat}

/-- Dynamics with a step size in picoseconds, attached to nothing. -/
def ofStepSize (serial : Nat) (picoseconds : Float) :
    Except Failure (Dynamics size) := do
  let stepSize ← checkedStepSize picoseconds
  return ⟨serial, stepSize, standardTolerance, 0, none⟩

/-- Attach the dynamics to a system, unless it has no particles. -/
def attach (dynamics : Dynamics size) (context : Fin size)
    (system : Particles Float) : Except Failure (Dynamics size) :=
  if system.positions.isEmpty then
    .error .noParticles
  else
    .ok { dynamics with attachment := some context }

/-- Detach the dynamics from their system, if they have one. -/
def detach (dynamics : Dynamics size) : Dynamics size :=
  { dynamics with attachment := none }

/-- The system that the dynamics are attached to. -/
def system (dynamics : Dynamics size) : Except Failure (Fin size) :=
  match dynamics.attachment with
  | none => .error .unbound
  | some context => .ok context

/-- What so many steps of a scheme make of a system. -/
def moved (dynamics : Dynamics size) (scheme : Scheme) (steps : Count)
    (system : Particles Float) : Particles Float :=
  system.advanced scheme dynamics.stepSize steps.toNat

/-- Take steps of a scheme: the system moves and the step counter rises. -/
def step (dynamics : Dynamics size) (scheme : Scheme) (steps : Count)
    (systems : Contexts .particles size) :
    Except Failure (Dynamics size × Contexts .particles size) := do
  let context ← dynamics.system
  return ({ dynamics with stepsTaken := dynamics.stepsTaken + steps },
    systems.set context (dynamics.moved scheme steps (systems.get context))
      context.isLt)

/-- The dynamics with another number for the parameter of an adjustment. -/
def adjusted (dynamics : Dynamics size) (adjustment : Adjustment)
    (number : Float) : Dynamics size :=
  match adjustment with
  | .stepSize _ => { dynamics with stepSize := number }
  | .tolerance _ => { dynamics with tolerance := number }

/-- Change a parameter, if it may have the new value. -/
def adjust (dynamics : Dynamics size) (adjustment : Adjustment) :
    Except Failure (Dynamics size) := do
  let number ← checked adjustment
  return dynamics.adjusted adjustment number

/-- The kernels that a scheme needs. -/
def kernels : Scheme → Kernels
  | .verlet => .ofNames ["CalcForces", "IntegrateVerletStep"]
  | .langevin _ => .ofNames ["CalcForces", "IntegrateLangevinStep"]

/-- The kinetic energy of the system that the dynamics are attached to. -/
def kineticEnergy (dynamics : Dynamics size)
    (systems : Contexts .particles size) : Except Failure MolarEnergy := do
  let context ← dynamics.system
  let system : Particles Float := systems.get context
  return .ofKilojoulesPerMole system.kineticEnergy

end Dynamics

end Stepping
