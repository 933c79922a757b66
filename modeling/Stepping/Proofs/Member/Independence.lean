import Stepping.Proofs.Member.Calls
import Stepping.Proofs.Particles.InPlace
import Mathlib.Data.List.InsertIdx

/-!
# Particles do not act on one another

Whatever dynamics do to an even system, they do to each of its particles as if it
were alone on its spring.  Hence nothing flows from one particle to another: what
becomes of a particle can be told without the others, and it makes no difference
whether particles are put in another order, taken out or put in before the steps
or after them.
-/

namespace Stepping

namespace Particles

variable {α : Type}

/-! ## Choices of particles -/

/-- The particles at some places, in the order of the places. -/
def picked (places : List Nat) (particles : Particles α) : Particles α where
  positions := places.filterMap (particles.positions[·]?)
  velocities := places.filterMap (particles.velocities[·]?)
  masses := places.filterMap (particles.masses[·]?)
  springConstant := particles.springConstant

/-- The particles with one more, put in at a place. -/
def inserted (place : Nat) (newcomer : ParticleStart α)
    (particles : Particles α) : Particles α where
  positions := particles.positions.insertIdx place newcomer.position
  velocities := particles.velocities.insertIdx place newcomer.velocity
  masses := particles.masses.insertIdx place newcomer.mass
  springConstant := particles.springConstant

theorem picked_ofEach
    (places : List Nat) (springConstant : α)
    (starts : List (ParticleStart α)) :
    (ofEach springConstant starts).picked places =
      ofEach springConstant (places.filterMap (starts[·]?)) := by
  simp [picked, ofEach, SystemStart.build, List.map_filterMap]

theorem inserted_ofEach
    (place : Nat) (newcomer : ParticleStart α) (springConstant : α)
    (starts : List (ParticleStart α)) :
    (ofEach springConstant starts).inserted place newcomer =
      ofEach springConstant (starts.insertIdx place newcomer) := by
  simp [inserted, ofEach, SystemStart.build, List.map_insertIdx]

/--
An update of systems in which every particle goes its own way.  In the systems
that are compared the springs have the same stiffness.
-/
structure Particlewise (update : Particles α → Particles α) : Prop where
  /-- A particle goes where it would go alone. -/
  alone :
    ∀ {particles : Particles α}, particles.Even → ∀ index,
      (update particles).positions[index]? =
          (update (particles.picked [index])).positions[0]? ∧
        (update particles).velocities[index]? =
          (update (particles.picked [index])).velocities[0]?
  /-- Particles that are alike go alike, whatever the others are. -/
  alike :
    ∀ {first second : Particles α}, first.Even → second.Even →
      ∀ {place other}, first.picked [place] = second.picked [other] →
        (update first).picked [place] = (update second).picked [other]
  /-- Particles may be left out, and put in any order, before or after the update. -/
  picked :
    ∀ {particles : Particles α}, particles.Even → ∀ places,
      update (particles.picked places) = (update particles).picked places
  /-- A particle may be put in before the update, or where it goes alone after it. -/
  inserted :
    ∀ {particles : Particles α}, particles.Even → ∀ place newcomer,
      ∃ settled,
        update (ofEach particles.springConstant [newcomer]) =
            ofEach particles.springConstant [settled] ∧
          update (particles.inserted place newcomer) =
            (update particles).inserted place settled

/-- An update that maps the particles of every system is one of each particle by itself. -/
theorem particlewise_of_map
    {update : Particles α → Particles α}
    {image : α → ParticleStart α → ParticleStart α}
    (maps :
      ∀ springConstant starts,
        update (ofEach springConstant starts) =
          ofEach springConstant (starts.map (image springConstant))) :
    Particlewise update := by
  have picks {particles : Particles α} (even : particles.Even)
      (places : List Nat) :
      update (particles.picked places) = (update particles).picked places := by
    rw [← even.ofEach_each, picked_ofEach, maps, maps, picked_ofEach,
      List.map_filterMap]
    simp only [List.getElem?_map]
  constructor
  case alone =>
    intro particles even index
    rw [picks even]
    simp only [picked, List.filterMap_cons, List.filterMap_nil]
    constructor
    · cases (update particles).positions[index]? <;> rfl
    · cases (update particles).velocities[index]? <;> rfl
  case alike =>
    intro first second even also place other same
    rw [← picks even, ← picks also, same]
  case picked => exact picks
  case inserted =>
    intro particles even place newcomer
    refine ⟨image particles.springConstant newcomer, maps _ _, ?_⟩
    rw [← even.ofEach_each, inserted_ofEach, maps, maps, inserted_ofEach,
      List.map_insertIdx]
    rfl

end Particles

variable {size : Nat}

/--
Dynamics that are attached take steps by an update in which every particle goes
its own way, and which on an even system is what the loops in place come to.
-/
theorem Dynamics.step_particlewise
    {dynamics : Dynamics size} {context : Fin size}
    (attached : dynamics.attachment = some context)
    (scheme : Scheme) (steps : Count) :
    (∀ systems : Contexts .particles size,
      dynamics.step scheme steps systems =
        .ok
          ({ dynamics with stepsTaken := dynamics.stepsTaken + steps },
            systems.set context
              (dynamics.moved scheme steps (systems.get context))
              context.isLt)) ∧
      (∀ {system : Particles Float}, system.Even →
        system.advancedInPlace scheme dynamics.stepSize steps.toNat =
          some (dynamics.moved scheme steps system)) ∧
      Particles.Particlewise (dynamics.moved scheme steps) := by
  refine ⟨step_of_attached attached scheme steps, ?_, ?_⟩
  · intro system even
    exact
      Particles.advancedInPlace_eq even scheme dynamics.stepSize steps.toNat
  · exact
      Particles.particlewise_of_map fun springConstant starts =>
        Particles.advanced_ofEach scheme dynamics.stepSize steps.toNat
          springConstant starts

/-- Two particles in another order, the second of them alone, and a third one before them. -/
theorem Dynamics.moved_in_another_order :
    let dynamics : Dynamics 1 := ⟨0, 0.5, 1.0, 0, some 0⟩
    let update := dynamics.moved (.langevin 2.0) 3
    let system : Particles Float := ⟨[1.0, 2.0], [0.0, 1.0], [12.0, 3.0], 3.0⟩
    dynamics.attachment = some 0 ∧ system.Even ∧
      system.picked [1, 0] = ⟨[2.0, 1.0], [1.0, 0.0], [3.0, 12.0], 3.0⟩ ∧
      update (system.picked [1, 0]) = (update system).picked [1, 0] ∧
      system.picked [1] = ⟨[2.0], [1.0], [3.0], 3.0⟩ ∧
      (update system).positions[1]? =
        (update (system.picked [1])).positions[0]? ∧
      ∃ settled,
        update (system.inserted 0 ⟨1.0, 4.0, 0.0⟩) =
          (update system).inserted 0 settled := by
  intro dynamics update system
  have attached : dynamics.attachment = some 0 := rfl
  have even : system.Even := by constructor <;> simp [system]
  have apart : Particles.Particlewise update :=
    (step_particlewise attached (.langevin 2.0) 3).2.2
  refine
    ⟨attached, even, rfl, apart.picked even [1, 0], rfl,
      (apart.alone even 1).1, ?_⟩
  rcases apart.inserted even 0 ⟨1.0, 4.0, 0.0⟩ with ⟨settled, -, same⟩
  exact ⟨settled, same⟩

end Stepping
