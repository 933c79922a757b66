import Stepping.Proofs.Particles.Exact
import Stepping.Proofs.Particles.InPlace

/-!
# Langevin dynamics without friction

Without friction nothing is damped, and a step of Langevin dynamics is a whole
kick and then a drift with the velocity that the kick has given.  Over exact
numbers such a step is not reversible, but it keeps a quantity of each particle
all the same: twice the energy of the particle, less a term that is of first
order in the time step and changes its sign with the velocity.

That nothing is damped rests on a single value of the exponential, the one at
zero.
-/

namespace Stepping

variable {K : Type} [Field K]

/--
What a kick and a drift after it keep of a particle, in the dimension of an
energy.  For small time steps it is close to twice the energy of the particle.
-/
def ParticleStart.slantedEnergy
    (time springConstant : K) (particle : ParticleStart K) : K :=
  particle.mass * particle.velocity ^ 2 +
      springConstant * particle.position ^ 2 -
    springConstant * time * particle.position * particle.velocity

/-- What a kick and a drift after it keep of each of the particles. -/
def Particles.slantedEnergies (time : K) (particles : Particles K) : List K :=
  particles.each.map
    (ParticleStart.slantedEnergy time particles.springConstant)

variable [Exponential K]

/-- The velocities are not damped where there is no friction. -/
theorem Particles.dampingFactor_zero
    (unit : Exponential.exp (0 : K) = 1) (time : K) :
    dampingFactor 0 time = 1 := by
  rw [dampingFactor, neg_zero, zero_mul]
  exact unit

theorem ParticleStart.slantedEnergy_step
    (unit : Exponential.exp (0 : K) = 1) (time springConstant : K)
    {particle : ParticleStart K} (massive : particle.mass ≠ 0) :
    (particle.step (.langevin 0) time springConstant).slantedEnergy time
        springConstant =
      particle.slantedEnergy time springConstant := by
  rcases particle with ⟨mass, position, velocity⟩
  have massive : mass ≠ 0 := massive
  simp only [step, kicked, drifted, slantedEnergy, Particles.dampedKick,
    Particles.dampingFactor_zero unit]
  field_simp
  ring

namespace Particles

/-- Steps without friction keep the slanted energy of every particle that has a mass. -/
theorem slantedEnergies_advanced
    (unit : Exponential.exp (0 : K) = 1) (time : K) (steps : Nat)
    {particles : Particles K} (massive : ∀ mass ∈ particles.masses, mass ≠ 0) :
    (particles.advanced (.langevin 0) time steps).slantedEnergies time =
      particles.slantedEnergies time := by
  rw [slantedEnergies, springConstant_advanced]
  exact
    map_each_advanced
      (fun _ =>
        ParticleStart.slantedEnergy_step unit time particles.springConstant)
      massive steps

/--
Langevin dynamics without friction conserve the slanted energy of each particle
exactly, and the sum of all of them: over any number of steps, over steps that are
taken piece by piece, and over the chunks that any schedule cuts its steps into.
On an even system the loops in place come to their end, and conserve them too.
-/
theorem slantedEnergies_conserved
    (unit : Exponential.exp (0 : K) = 1)
    {particles : Particles K}
    (massive : ∀ mass ∈ particles.masses, mass ≠ 0) (time : K) :
    let Conserved (after : Particles K) : Prop :=
      after.slantedEnergies time = particles.slantedEnergies time ∧
        sum (after.slantedEnergies time) =
          sum (particles.slantedEnergies time)
    (∀ steps, Conserved (particles.advanced (.langevin 0) time steps)) ∧
      (∀ pieces, Conserved (particles.advancedBy (.langevin 0) time pieces)) ∧
      (∀ (schedule : Schedule) (active : Nat),
        Conserved
          (particles.advancedBy (.langevin 0) time
            ((Command.taken active schedule.commands).map fun taken =>
              taken.2.toNat))) ∧
      (particles.Even → ∀ steps, ∃ after,
        particles.advancedInPlace (.langevin 0) time steps = some after ∧
          Conserved after) := by
  intro Conserved
  have steps (count : Nat) :
      Conserved (particles.advanced (.langevin 0) time count) := by
    have kept := slantedEnergies_advanced unit time count massive
    exact ⟨kept, congrArg sum kept⟩
  have pieces (counts : List Nat) :
      Conserved (particles.advancedBy (.langevin 0) time counts) := by
    rw [advancedBy_eq]
    exact steps counts.sum
  have inPlace (even : particles.Even) (count : Nat) :
      ∃ after,
        particles.advancedInPlace (.langevin 0) time count = some after ∧
          Conserved after :=
    ⟨_, advancedInPlace_eq even (.langevin 0) time count, steps count⟩
  exact ⟨steps, pieces, fun schedule active => pieces _, inPlace⟩

/-- Two particles of different masses, after three steps and two more, and in place. -/
theorem slantedEnergies_of_two_particles :
    let _ : Exponential ℚ := ⟨fun exponent => 1 + exponent⟩
    let particles : Particles ℚ := ⟨[1, 0], [3, 2], [4, 1], 4⟩
    Exponential.exp (0 : ℚ) = 1 ∧
      (∀ mass ∈ particles.masses, mass ≠ 0) ∧
      (particles.advancedBy (.langevin 0) 1 [3, 2]).slantedEnergies 1 =
        [28, 4] ∧
      sum ((particles.advancedBy (.langevin 0) 1 [3, 2]).slantedEnergies 1) =
        32 ∧
      ∃ after, particles.advancedInPlace (.langevin 0) 1 5 = some after ∧
        after.slantedEnergies 1 = [28, 4] := by
  intro exponential particles
  have unit : Exponential.exp (0 : ℚ) = 1 := add_zero 1
  have massive : ∀ mass ∈ particles.masses, mass ≠ 0 := by
    simp [particles]
  have even : particles.Even := ⟨rfl, rfl⟩
  have conserved := slantedEnergies_conserved unit massive 1
  have pieces := conserved.2.1 [3, 2]
  rcases conserved.2.2.2 even 5 with ⟨after, looped, kept, -⟩
  have start : particles.slantedEnergies 1 = [28, 4] := by
    simp only [particles, slantedEnergies, each, gather, List.map_cons,
      List.map_nil, ParticleStart.slantedEnergy]
    norm_num
  refine
    ⟨unit, massive, pieces.1.trans start, pieces.2.trans ?_, after, looped,
      kept.trans start⟩
  rw [start]
  simp only [sum, Scalar.emptySum, List.foldl_cons, List.foldl_nil]
  norm_num

end Particles

end Stepping
