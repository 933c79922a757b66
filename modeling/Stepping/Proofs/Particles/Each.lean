import Stepping.Proofs.Member.Updates
import Mathlib.Data.List.Basic
import Mathlib.Algebra.GroupWithZero.Nat

/-!
# Particles one by one

The spring pulls each particle by its own position alone, and a kick or a drift
changes a particle by its own data alone.  So a system moves as its particles do,
each of them on its own: the particles after any number of steps are the images,
one by one, of the particles before, under a function that is given the spring
and the scheme but no other particle.

A system is even if it has a velocity and a mass for every position.  Steps keep
it even, and an even system is nothing but the list of its particles with their
spring constant.
-/

namespace Stepping

variable {α : Type}

/-! ## The particles of a system -/

namespace Particles

/-- Three lists as one list of particles, which ends with the shortest of them. -/
def gather : (positions velocities masses : List α) → List (ParticleStart α)
  | position :: positions, velocity :: velocities, mass :: masses =>
      ⟨mass, position, velocity⟩ :: gather positions velocities masses
  | _, _, _ => []

/-- Three lists are gone through together, up to the end of the first that ends. -/
@[elab_as_elim]
theorem together_induction
    {motive : (first second third : List α) → Prop}
    (first : ∀ second third, motive [] second third)
    (second : ∀ head tail third, motive (head :: tail) [] third)
    (third :
      ∀ head tail head' tail', motive (head :: tail) (head' :: tail') [])
    (all :
      ∀ head tail head' tail' head'' tail'', motive tail tail' tail'' →
        motive (head :: tail) (head' :: tail') (head'' :: tail'')) :
    ∀ one another last, motive one another last := by
  intro one
  induction one with
  | nil => exact first
  | cons head tail induction =>
      intro another last
      cases another with
      | nil => exact second head tail last
      | cons head' tail' =>
          cases last with
          | nil => exact third head tail head' tail'
          | cons head'' tail'' =>
              exact
                all head tail head' tail' head'' tail'' (induction tail' tail'')

/-- The particles of a system, each as it stands. -/
def each (particles : Particles α) : List (ParticleStart α) :=
  gather particles.positions particles.velocities particles.masses

/-- There are as many velocities and masses as positions. -/
structure Even (particles : Particles α) : Prop where
  velocities_length :
    particles.velocities.length = particles.positions.length
  masses_length : particles.masses.length = particles.positions.length

/-- The system of particles on springs of one stiffness. -/
def ofEach (springConstant : α) (starts : List (ParticleStart α)) :
    Particles α :=
  (⟨springConstant, starts⟩ : SystemStart α).build

@[simp]
theorem each_ofEach (springConstant : α) (starts : List (ParticleStart α)) :
    (ofEach springConstant starts).each = starts := by
  simp only [each, ofEach, SystemStart.build]
  induction starts with
  | nil => rfl
  | cons start starts induction =>
      simp only [List.map_cons, gather, induction]

theorem even_ofEach (springConstant : α) (starts : List (ParticleStart α)) :
    (ofEach springConstant starts).Even := by
  constructor <;> simp [ofEach, SystemStart.build]

/-- Lists of one length are those of the particles that they are gathered into. -/
theorem map_gather
    {positions velocities masses : List α}
    (velocities_length : velocities.length = positions.length)
    (masses_length : masses.length = positions.length) :
    (gather positions velocities masses).map (·.position) = positions ∧
      (gather positions velocities masses).map (·.velocity) = velocities ∧
      (gather positions velocities masses).map (·.mass) = masses := by
  induction positions, velocities, masses using together_induction with
  | first velocities masses =>
      cases List.length_eq_zero_iff.mp velocities_length
      cases List.length_eq_zero_iff.mp masses_length
      exact ⟨rfl, rfl, rfl⟩
  | second => cases velocities_length
  | third => cases masses_length
  | all position positions velocity velocities mass masses induction =>
      rcases
          induction (Nat.succ.inj velocities_length)
            (Nat.succ.inj masses_length) with
        ⟨places, speeds, weights⟩
      simp only [gather, List.map_cons, places, speeds, weights]
      exact ⟨trivial, trivial, trivial⟩

/-- An even system is its particles and their spring. -/
theorem Even.ofEach_each {particles : Particles α} (even : particles.Even) :
    ofEach particles.springConstant particles.each = particles := by
  rcases map_gather even.velocities_length even.masses_length with
    ⟨positions, velocities, masses⟩
  simp only [ofEach, SystemStart.build, each, positions, velocities, masses]

theorem mass_mem_of_mem_each
    {particles : Particles α} {particle : ParticleStart α}
    (among : particle ∈ particles.each) :
    particle.mass ∈ particles.masses := by
  rcases particles with ⟨positions, velocities, masses, springConstant⟩
  simp only [each] at among
  induction positions, velocities, masses using together_induction with
  | first => cases among
  | second => cases among
  | third => cases among
  | all position positions velocity velocities mass masses induction =>
      rcases List.mem_cons.mp among with rfl | later
      · exact List.mem_cons_self
      · exact List.mem_cons_of_mem _ (induction later)

theorem length_kick
    (rule : α → α → α → α) (velocities forces masses : List α) :
    (kick rule velocities forces masses).length = velocities.length := by
  induction velocities, forces, masses using together_induction with
  | first => rfl
  | second => rfl
  | third => rfl
  | all velocity velocities force forces mass masses induction =>
      exact congrArg Nat.succ induction

end Particles

variable [Scalar α]

/-! ## One particle -/

namespace ParticleStart

/-- The particle with the velocity that a rule names under the force of its spring. -/
def kicked (rule : α → α → α → α) (springConstant : α)
    (particle : ParticleStart α) : ParticleStart α :=
  { particle with
    velocity :=
      rule particle.velocity (-springConstant * particle.position)
        particle.mass }

/-- The particle where its velocity takes it in a time. -/
def drifted (time : α) (particle : ParticleStart α) : ParticleStart α :=
  { particle with
    position := particle.position + time * particle.velocity }

/-- What one step of a scheme makes of a particle on a spring. -/
def step (scheme : Particles.Scheme α) (time springConstant : α)
    (particle : ParticleStart α) : ParticleStart α :=
  match scheme with
  | .verlet =>
      ((particle.kicked (Particles.halfKick time) springConstant).drifted
        time).kicked (Particles.halfKick time) springConstant
  | .langevin friction =>
      (particle.kicked
        (Particles.dampedKick time (Particles.dampingFactor friction time))
        springConstant).drifted time

/-- What so many steps of a scheme make of a particle on a spring. -/
def advanced (scheme : Particles.Scheme α) (time springConstant : α)
    (steps : Nat) : ParticleStart α → ParticleStart α :=
  (step scheme time springConstant)^[steps]

section

variable {scheme : Particles.Scheme α} {time springConstant : α}

@[simp]
theorem mass_step (particle : ParticleStart α) :
    (particle.step scheme time springConstant).mass = particle.mass := by
  cases scheme <;> rfl

/-- What one step keeps of every particle of some masses, any number of steps keep. -/
theorem view_advanced
    {View : Type} {view : ParticleStart α → View} {weighs : α → Prop}
    (kept :
      ∀ particle : ParticleStart α, weighs particle.mass →
        view (particle.step scheme time springConstant) = view particle)
    (steps : Nat) {particle : ParticleStart α} (own : weighs particle.mass) :
    view (particle.advanced scheme time springConstant steps) =
      view particle := by
  induction steps generalizing particle with
  | zero => rfl
  | succ steps induction =>
      have still : weighs (particle.step scheme time springConstant).mass := by
        rw [mass_step]
        exact own
      exact (induction still).trans (kept particle own)

end

end ParticleStart

namespace Particles

/-! ## Kicks and drifts -/

theorem length_drift (time : α) (positions velocities : List α) :
    (drift time positions velocities).length = positions.length := by
  induction positions generalizing velocities with
  | nil => rfl
  | cons position positions induction =>
      cases velocities with
      | nil => rfl
      | cons velocity velocities =>
          exact congrArg Nat.succ (induction velocities)

theorem each_kicked (rule : α → α → α → α) (particles : Particles α) :
    (particles.kicked rule).each =
      particles.each.map
        (ParticleStart.kicked rule particles.springConstant) := by
  rcases particles with ⟨positions, velocities, masses, springConstant⟩
  simp only [each, kicked, forces]
  induction positions, velocities, masses using together_induction with
  | first => rfl
  | second => rfl
  | third => rfl
  | all position positions velocity velocities mass masses induction =>
      exact congrArg (_ :: ·) induction

theorem each_drifted (time : α) (particles : Particles α) :
    (particles.drifted time).each =
      particles.each.map (ParticleStart.drifted time) := by
  rcases particles with ⟨positions, velocities, masses, springConstant⟩
  simp only [each, drifted]
  induction positions, velocities, masses using together_induction with
  | first => rfl
  | second => rfl
  | third => rfl
  | all position positions velocity velocities mass masses induction =>
      exact congrArg (_ :: ·) induction

theorem Even.kicked {particles : Particles α} (even : particles.Even)
    (rule : α → α → α → α) : (particles.kicked rule).Even where
  velocities_length :=
    (length_kick rule _ _ _).trans even.velocities_length
  masses_length := even.masses_length

theorem Even.drifted {particles : Particles α} (even : particles.Even)
    (time : α) : (particles.drifted time).Even where
  velocities_length :=
    even.velocities_length.trans (length_drift time _ _).symm
  masses_length := even.masses_length.trans (length_drift time _ _).symm

/-! ## Steps -/

variable (scheme : Scheme α) (time : α)

@[simp]
theorem springConstant_step (particles : Particles α) :
    (scheme.step time particles).springConstant =
      particles.springConstant := by
  cases scheme <;> rfl

/-- A step makes of each particle what it makes of it alone. -/
theorem each_step (particles : Particles α) :
    (scheme.step time particles).each =
      particles.each.map
        (ParticleStart.step scheme time particles.springConstant) := by
  cases scheme with
  | verlet =>
      rw [Scheme.step, verletStep, each_kicked, each_drifted, each_kicked,
        List.map_map, List.map_map]
      rfl
  | langevin friction =>
      rw [Scheme.step, langevinStep, each_drifted, each_kicked, List.map_map]
      rfl

theorem Even.step {particles : Particles α} (even : particles.Even) :
    (scheme.step time particles).Even := by
  cases scheme with
  | verlet => exact ((even.kicked _).drifted time).kicked _
  | langevin friction => exact (even.kicked _).drifted time

theorem advanced_succ (steps : Nat) (particles : Particles α) :
    particles.advanced scheme time (steps + 1) =
      (scheme.step time particles).advanced scheme time steps :=
  rfl

/-- Some steps and then some more are the steps of both. -/
theorem advanced_advanced (first second : Nat) (particles : Particles α) :
    (particles.advanced scheme time first).advanced scheme time second =
      particles.advanced scheme time (first + second) := by
  simp only [advanced, repeated_eq]
  rw [Nat.add_comm, Function.iterate_add_apply]

/-- What steps make of a system that are taken piece by piece. -/
def advancedBy (pieces : List Nat) (particles : Particles α) : Particles α :=
  pieces.foldl (fun particles steps => particles.advanced scheme time steps)
    particles

/-- Steps in pieces are the steps of all pieces. -/
theorem advancedBy_eq (pieces : List Nat) (particles : Particles α) :
    particles.advancedBy scheme time pieces =
      particles.advanced scheme time pieces.sum := by
  induction pieces generalizing particles with
  | nil => rfl
  | cons steps pieces induction =>
      rw [List.sum_cons, ← advanced_advanced, ← induction]
      rfl

@[simp]
theorem springConstant_advanced (steps : Nat) (particles : Particles α) :
    (particles.advanced scheme time steps).springConstant =
      particles.springConstant := by
  induction steps generalizing particles with
  | zero => rfl
  | succ steps induction =>
      rw [advanced_succ, induction, springConstant_step]

/-- Steps make of each particle what they make of it alone. -/
theorem each_advanced (steps : Nat) (particles : Particles α) :
    (particles.advanced scheme time steps).each =
      particles.each.map
        (ParticleStart.advanced scheme time particles.springConstant
          steps) := by
  induction steps generalizing particles with
  | zero => exact (List.map_id _).symm
  | succ steps induction =>
      rw [advanced_succ, induction, each_step, springConstant_step,
        List.map_map]
      rfl

variable {scheme time} in
/-- What one step keeps of every particle of some masses, steps keep of each of the particles. -/
theorem map_each_advanced
    {View : Type} {view : ParticleStart α → View} {weighs : α → Prop}
    {particles : Particles α}
    (kept :
      ∀ particle : ParticleStart α, weighs particle.mass →
        view (particle.step scheme time particles.springConstant) =
          view particle)
    (own : ∀ mass ∈ particles.masses, weighs mass) (steps : Nat) :
    (particles.advanced scheme time steps).each.map view =
      particles.each.map view := by
  rw [each_advanced, List.map_map]
  apply List.map_congr_left
  intro particle among
  exact
    ParticleStart.view_advanced kept steps
      (own particle.mass (mass_mem_of_mem_each among))

theorem Even.advanced {particles : Particles α} (even : particles.Even)
    (steps : Nat) : (particles.advanced scheme time steps).Even := by
  induction steps generalizing particles with
  | zero => exact even
  | succ steps induction => exact induction (even.step scheme time)

/-- A system of particles moves as they do. -/
theorem advanced_ofEach
    (steps : Nat) (springConstant : α) (starts : List (ParticleStart α)) :
    (ofEach springConstant starts).advanced scheme time steps =
      ofEach springConstant
        (starts.map
          (ParticleStart.advanced scheme time springConstant steps)) := by
  have even := (even_ofEach springConstant starts).advanced scheme time steps
  rw [← even.ofEach_each, springConstant_advanced, each_advanced, each_ofEach]
  rfl

end Particles

end Stepping
