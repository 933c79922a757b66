import Mathlib.Algebra.CharZero.Defs
import Mathlib.Tactic.FieldSimp
import Mathlib.Tactic.NormNum
import Mathlib.Tactic.Ring
import Stepping.Proofs.Particles.Each
import Stepping.Proofs.Schedule.Accounts

/-!
# Motion over exact numbers

Over a field the formulas of the motion are the textbook ones, and velocity
Verlet has the two properties that it is chosen for.  It runs backwards: with all
velocities turned round, as many steps lead back to where the motion came from.
And of each particle it keeps an energy exactly, not the energy of the particle
but one that differs from it by a term in the square of the time step.

It runs backwards because of the shape of a step, half a kick, a drift and half a
kick.  A kick or a drift is undone by itself once the velocities are turned
round, so the three in one order are undone by the three in the other order,
which is the same.
-/

namespace Stepping

/-- A function that is taken for the exponential. -/
class Exponential (K : Type) where
  exp : K → K

/-- The numbers of a field, with a function for the exponential. -/
instance (priority := low) Scalar.ofField
    {K : Type} [Field K] [Exponential K] : Scalar K where
  half := 2⁻¹
  emptySum := 0
  exp := Exponential.exp

variable {K : Type} [Field K]

/-- The particles with all velocities turned round. -/
def Particles.turned (particles : Particles K) : Particles K :=
  { particles with velocities := particles.velocities.map (-·) }

@[simp]
theorem Particles.turned_turned (particles : Particles K) :
    particles.turned.turned = particles := by
  simp [turned]

/--
What velocity Verlet keeps of a particle, in the dimension of an energy.  For
small time steps it is close to twice the energy of the particle.
-/
def ParticleStart.discreteEnergy
    (time springConstant : K) (particle : ParticleStart K) : K :=
  particle.mass * particle.velocity ^ 2 +
    springConstant *
        (1 - springConstant * time ^ 2 / (4 * particle.mass)) *
      particle.position ^ 2

/-- What velocity Verlet keeps of each of the particles. -/
def Particles.discreteEnergies (time : K) (particles : Particles K) : List K :=
  particles.each.map
    (ParticleStart.discreteEnergy time particles.springConstant)

variable [Exponential K]

namespace Particles

/-! ## Running backwards -/

theorem halfKick_neg_halfKick (time velocity force mass : K) :
    halfKick time (-halfKick time velocity force mass) force mass =
      -velocity := by
  simp only [halfKick]
  ring

/-- A kick undoes itself once the velocities are turned round. -/
theorem kicked_turned_kicked (time : K) (particles : Particles K) :
    ((particles.kicked (halfKick time)).turned).kicked (halfKick time) =
      particles.turned := by
  rcases particles with ⟨positions, velocities, masses, springConstant⟩
  simp only [kicked, turned, forces, Particles.mk.injEq, true_and, and_true]
  induction positions, velocities, masses using together_induction with
  | first velocities masses => cases velocities <;> rfl
  | second => rfl
  | third => rfl
  | all position positions velocity velocities mass masses induction =>
      have back :=
        halfKick_neg_halfKick time velocity (-springConstant * position) mass
      exact congrArg₂ List.cons back induction

/-- A drift undoes itself once the velocities are turned round. -/
theorem drifted_turned_drifted (time : K) (particles : Particles K) :
    ((particles.drifted time).turned).drifted time = particles.turned := by
  rcases particles with ⟨positions, velocities, masses, springConstant⟩
  simp only [drifted, turned, Particles.mk.injEq, and_true]
  induction positions generalizing velocities with
  | nil => rfl
  | cons position positions induction =>
      cases velocities with
      | nil => rfl
      | cons velocity velocities =>
          have back : position + time * velocity + time * -velocity = position := by
            ring
          exact congrArg₂ List.cons back (induction velocities)

/-- A step undoes itself once the velocities are turned round. -/
theorem verletStep_turned_verletStep (time : K) (particles : Particles K) :
    (particles.verletStep time).turned.verletStep time =
      particles.turned := by
  simp only [verletStep]
  rw [kicked_turned_kicked, drifted_turned_drifted, kicked_turned_kicked]

/-- As many steps with the velocities turned round lead back. -/
theorem advanced_turned_advanced
    (time : K) (steps : Nat) (particles : Particles K) :
    (particles.advanced .verlet time steps).turned.advanced .verlet time steps =
      particles.turned := by
  induction steps with
  | zero => rfl
  | succ steps induction =>
      -- The last step there and the first step back undo each other.
      have last :
          particles.advanced .verlet time (steps + 1) =
            (particles.advanced .verlet time steps).verletStep time :=
        (advanced_advanced .verlet time steps 1 particles).symm
      have first :
          Scheme.step .verlet time
              (particles.advanced .verlet time (steps + 1)).turned =
            (particles.advanced .verlet time steps).turned := by
        rw [last]
        exact verletStep_turned_verletStep time _
      rw [advanced_succ, first, induction]

/--
Velocity Verlet runs backwards.  Steps, and as many steps with all velocities
turned round, lead back to the system as it was, but for the velocities, which
have to be turned round again.
-/
theorem advanced_backwards
    (time : K) (steps : Nat) (particles : Particles K) :
    ((particles.advanced .verlet time steps).turned.advanced .verlet time
        steps).turned =
      particles := by
  rw [advanced_turned_advanced, turned_turned]

end Particles

/-! ## The energy that is kept -/

namespace ParticleStart

theorem discreteEnergy_step [CharZero K]
    (time springConstant : K) {particle : ParticleStart K}
    (massive : particle.mass ≠ 0) :
    (particle.step .verlet time springConstant).discreteEnergy time
        springConstant =
      particle.discreteEnergy time springConstant := by
  rcases particle with ⟨mass, position, velocity⟩
  have massive : mass ≠ 0 := massive
  simp only [step, kicked, drifted, discreteEnergy, Particles.halfKick,
    Scalar.half]
  field_simp
  ring

end ParticleStart

namespace Particles

/-- Steps of velocity Verlet keep the energy of every particle that has a mass. -/
theorem discreteEnergies_advanced [CharZero K]
    (time : K) (steps : Nat) {particles : Particles K}
    (massive : ∀ mass ∈ particles.masses, mass ≠ 0) :
    (particles.advanced .verlet time steps).discreteEnergies time =
      particles.discreteEnergies time := by
  rw [discreteEnergies, springConstant_advanced]
  exact
    map_each_advanced
      (fun _ => ParticleStart.discreteEnergy_step time particles.springConstant)
      massive steps

/--
Velocity Verlet conserves an energy of each particle exactly, and the sum of all
of them: over any number of steps, over steps that are taken piece by piece, and
over the chunks that any schedule cuts its steps into.
-/
theorem discreteEnergies_conserved [CharZero K]
    {particles : Particles K}
    (massive : ∀ mass ∈ particles.masses, mass ≠ 0) (time : K) :
    let Conserved (after : Particles K) : Prop :=
      after.discreteEnergies time = particles.discreteEnergies time ∧
        sum (after.discreteEnergies time) =
          sum (particles.discreteEnergies time)
    (∀ steps, Conserved (particles.advanced .verlet time steps)) ∧
      (∀ pieces, Conserved (particles.advancedBy .verlet time pieces)) ∧
      ∀ (schedule : Schedule) (active : Nat),
        Conserved
          (particles.advancedBy .verlet time
            ((Command.taken active schedule.commands).map fun taken =>
              taken.2.toNat)) := by
  intro Conserved
  have steps (count : Nat) :
      Conserved (particles.advanced .verlet time count) := by
    have kept := discreteEnergies_advanced time count massive
    exact ⟨kept, congrArg sum kept⟩
  have pieces (counts : List Nat) :
      Conserved (particles.advancedBy .verlet time counts) := by
    rw [advancedBy_eq]
    exact steps counts.sum
  exact ⟨steps, pieces, fun schedule active => pieces _⟩

/-- Two particles of different masses, after three steps and after two more. -/
theorem discreteEnergies_of_two_particles :
    let _ : Exponential ℚ := ⟨fun _ => 1⟩
    let particles : Particles ℚ := ⟨[1, 0], [0, 2], [4, 1], 4⟩
    (∀ mass ∈ particles.masses, mass ≠ 0) ∧
      (particles.advancedBy .verlet 1 [3, 2]).discreteEnergies 1 = [3, 4] ∧
      sum ((particles.advancedBy .verlet 1 [3, 2]).discreteEnergies 1) = 7 := by
  intro exponential particles
  have massive : ∀ mass ∈ particles.masses, mass ≠ 0 := by
    simp [particles]
  have pieces := (discreteEnergies_conserved massive 1).2.1 [3, 2]
  have start : particles.discreteEnergies 1 = [3, 4] := by
    simp only [particles, discreteEnergies, each, gather, List.map_cons,
      List.map_nil, ParticleStart.discreteEnergy]
    norm_num
  refine ⟨massive, pieces.1.trans start, pieces.2.trans ?_⟩
  rw [start]
  simp only [sum, Scalar.emptySum, List.foldl_cons, List.foldl_nil]
  norm_num

end Particles

end Stepping
