import Stepping.Proofs.Particles.InPlace
import Stepping.Proofs.Session.Identities

/-!
# Shapes of systems over whole sessions

A system is made with a position, a velocity and a mass for each of its particles.
No type says that it keeps as many of each, but it does: a step writes positions
and velocities where others were, and a change past all members puts a value in
the place of another.  Steps leave the masses and the spring constant besides.

So in every state of a session the loops of a step find all that they look up,
the kinetic energy counts every particle, and a system is accepted or refused by
dynamics as it was when it was made.
-/

namespace Stepping

/-! ## Systems -/

namespace Particles

variable {α : Type}

/-- How many positions, velocities and masses a system has. -/
structure Shape where
  positions : Nat
  velocities : Nat
  masses : Nat
deriving DecidableEq

/-- The shape of a system. -/
def shape (particles : Particles α) : Shape where
  positions := particles.positions.length
  velocities := particles.velocities.length
  masses := particles.masses.length

/-- What motion leaves of a system. -/
structure Frame (α : Type) where
  shape : Shape
  masses : List α
  springConstant : α

/-- The frame of a system. -/
def frame (particles : Particles α) : Frame α where
  shape := particles.shape
  masses := particles.masses
  springConstant := particles.springConstant

/-- A system of the shape of an even one is even. -/
theorem Even.of_shape {first second : Particles α} (even : first.Even)
    (same : second.shape = first.shape) : second.Even := by
  have positions : second.positions.length = first.positions.length :=
    congrArg Shape.positions same
  have velocities : second.velocities.length = first.velocities.length :=
    congrArg Shape.velocities same
  have masses : second.masses.length = first.masses.length :=
    congrArg Shape.masses same
  constructor
  · rw [velocities, even.velocities_length, positions]
  · rw [masses, even.masses_length, positions]

/-- An even system has as many particles as positions. -/
theorem Even.length_each {particles : Particles α} (even : particles.Even) :
    particles.each.length = particles.positions.length := by
  rw [← (map_gather even.velocities_length even.masses_length).1, each,
    List.length_map]

variable [Scalar α]

theorem frame_kicked (rule : α → α → α → α) (particles : Particles α) :
    (particles.kicked rule).frame = particles.frame := by
  simp only [frame, shape, kicked, length_kick]

theorem frame_drifted (time : α) (particles : Particles α) :
    (particles.drifted time).frame = particles.frame := by
  simp only [frame, shape, drifted, length_drift]

/-- A step leaves the frame, whether or not the system is even. -/
theorem frame_step (scheme : Scheme α) (time : α) (particles : Particles α) :
    (scheme.step time particles).frame = particles.frame := by
  cases scheme with
  | verlet =>
      exact
        (frame_kicked _ _).trans
          ((frame_drifted time _).trans (frame_kicked _ particles))
  | langevin friction =>
      exact (frame_drifted time _).trans (frame_kicked _ particles)

theorem frame_advanced
    (scheme : Scheme α) (time : α) (steps : Nat) (particles : Particles α) :
    (particles.advanced scheme time steps).frame = particles.frame := by
  induction steps generalizing particles with
  | zero => rfl
  | succ steps induction =>
      rw [advanced_succ, induction, frame_step]

end Particles

/-- The energy of one particle's motion. -/
def ParticleStart.kineticEnergy {α : Type} [Scalar α]
    (particle : ParticleStart α) : α :=
  Scalar.half * particle.mass * particle.velocity * particle.velocity

/-- The kinetic energy of an even system is the sum over all particles. -/
theorem Particles.Even.kineticEnergy_eq {α : Type} [Scalar α]
    {particles : Particles α} (even : particles.Even) :
    particles.kineticEnergy =
      sum (particles.each.map ParticleStart.kineticEnergy) := by
  have whole := even.ofEach_each
  generalize particles.each = starts at whole ⊢
  rw [← whole, kineticEnergy]
  simp only [ofEach, SystemStart.build, List.zipWith_map, List.zipWith_self]
  rfl

/-! ## Calls -/

variable {size : Nat}

namespace Dynamics

/-- Whether a system is accepted lies in the number of its positions alone. -/
theorem attach_congr
    (dynamics : Dynamics size) (context : Fin size)
    {first second : Particles Float}
    (same : first.positions.length = second.positions.length) :
    dynamics.attach context first = dynamics.attach context second := by
  have vacant : first.positions.isEmpty = second.positions.isEmpty := by
    rw [Bool.eq_iff_iff, List.isEmpty_iff_length_eq_zero,
      List.isEmpty_iff_length_eq_zero, same]
  rw [attach, attach, vacant]

theorem isOk_attach_iff
    {dynamics : Dynamics size} {context : Fin size}
    {system : Particles Float} :
    (dynamics.attach context system).isOk = true ↔ system.positions ≠ [] := by
  rw [attach]
  cases system.positions with
  | nil => exact iff_of_false Bool.false_ne_true (fun filled => filled rfl)
  | cons => exact iff_of_true rfl (List.cons_ne_nil _ _)

end Dynamics

/-- A member that takes steps leaves the frames of all systems. -/
theorem Member.frames_of_step
    {member moved : Member .particles size} {steps : Count}
    {systems after : Contexts .particles size}
    (stepped : member.step steps systems = .ok (moved, after))
    (context : Fin size) :
    Particles.frame (after.get context) =
      Particles.frame (systems.get context) := by
  cases member with
  | dynamics scheme dynamics =>
      obtain ⟨⟨changed, systems'⟩, accepted, equality⟩ :=
        ofDynamics_eq_ok_iff.mp stepped
      obtain ⟨place, -, result⟩ := Dynamics.step_eq_ok_iff.mp accepted
      cases result
      cases equality
      by_cases here : place = context
      · subst here
        have own :
            (systems.set place
                (dynamics.moved scheme steps (systems.get place))
                place.isLt).get place =
              dynamics.moved scheme steps (systems.get place) :=
          Vector.getElem_set_self place.isLt
        rw [own]
        exact Particles.frame_advanced scheme dynamics.stepSize _ _
      · have apart : some place ≠ some context :=
          fun same => here (Option.some.inj same)
        exact
          congrArg Particles.frame
            (Contexts.confined_set systems place _ context apart)
  | idle serial =>
      cases stepped
      rfl

theorem Compound.frames_step
    (compound : Compound .particles size) (systems : Contexts .particles size)
    (steps : Count) (context : Fin size) :
    Particles.frame ((compound.step steps systems).contexts.get context) =
      Particles.frame (systems.get context) := by
  cases answer : (compound.step steps systems).answer with
  | ok nothing =>
      rcases step_of_ok answer with
        ⟨-, member, moved, after, -, stepped, equality⟩
      rw [equality]
      exact Member.frames_of_step stepped context
  | error cause =>
      rcases step_of_error answer with ⟨-, same, -, -⟩
      rw [same]

/-- Steps leave the frames of all systems, be they of a run or not. -/
theorem framesMotion :
    Motion fun
        (before : Compound .particles size × Contexts .particles size) _
        after =>
      ∀ context, Particles.frame (after.2.get context) =
        Particles.frame (before.2.get context) where
  refl := fun _ _ => rfl
  trans := fun left right context => (right context).trans (left context)
  select := fun _ _ _ _ => rfl
  step := fun compound systems steps => compound.frames_step systems steps
  begun := fun _ _ _ _ _ => rfl
  stopped := fun _ _ _ => rfl
  move := fun _ stepped => Member.frames_of_step stepped

/-! ## Requests -/

theorem Poke.length_replace
    (index : Option Nat) (value : Option Float) (values : List Float) :
    (replace index value values).length = values.length := by
  cases index <;> cases value <;> simp [replace]

/-- A system that is changed past all members keeps its shape. -/
theorem Poke.shape_apply (poke : Poke .particles) (system : Particles Float) :
    Particles.shape (poke.apply system) = system.shape := by
  cases poke
  simp only [apply, Particles.shape, length_replace]

namespace Request

/-- A request leaves the frames of all systems, unless it changes one past all members. -/
theorem frames_perform
    {request : Request .particles size} (direct : ¬ request.IsPoke)
    (scene : Scene .particles size) (context : Fin size) :
    Particles.frame ((request.perform scene).scene.contexts.get context) =
      Particles.frame (scene.contexts.get context) := by
  by_cases still : request.Still
  · rw [contexts_perform still]
  · rcases request.goesOn_cases with
      ⟨draft, rfl⟩ | ⟨place, poke, rfl⟩ | rfl | goesOn
    · exact (still trivial).elim
    · exact (direct trivial).elim
    · exact (still trivial).elim
    · exact (framesMotion.perform goesOn still scene).1 context

/-- No request changes the shape of a system. -/
theorem shapes_perform
    (request : Request .particles size) (scene : Scene .particles size)
    (context : Fin size) :
    Particles.shape ((request.perform scene).scene.contexts.get context) =
      Particles.shape (scene.contexts.get context) := by
  by_cases direct : request.IsPoke
  · cases request with
    | poke place poke =>
        by_cases here : place = context
        · subst here
          have own :
              (((Request.poke place poke).perform scene).scene.contexts.get
                  place : Particles Float) =
                poke.apply (scene.contexts.get place) :=
            Vector.getElem_set_self place.isLt
          rw [own]
          exact poke.shape_apply _
        · have apart : some place ≠ some context :=
            fun same => here (Option.some.inj same)
          exact
            congrArg Particles.shape
              (Contexts.confined_set scene.contexts place _ context apart)
    | _ => exact direct.elim
  · exact
      congrArg Particles.Frame.shape (frames_perform direct scene context)

end Request

/-! ## Sessions -/

namespace World

variable {compounds : Nat}

theorem shapes_performAll
    (world : World .particles compounds size)
    (operations : List (Operation .particles compounds size))
    (context : Fin size) :
    Particles.shape ((world.performAll operations).1.contexts.get context) =
      Particles.shape (world.contexts.get context) :=
  holds_performAll
    (fun next : World .particles compounds size =>
      Particles.shape (next.contexts.get context) =
        Particles.shape (world.contexts.get context))
    (fun operation _ next before =>
      (operation.request.shapes_perform
        (next.scene operation.compound) context).trans before)
    rfl

/--
After any operations a system has a position, a velocity and a mass for each of
the particles that it was made with.  A further operation leaves its masses and
its spring constant, unless it changes a context past all members, and a run does
so wherever it ends.

The loops of any steps on the system find all that they look up; so they do in
the steps of each member that is attached to it, and come to what the member
makes of the system.  No particle is left out of the kinetic energy.  Dynamics
accept the system just if it was made with particles.
-/
theorem shapes_of_performAll
    (starts : Vector (SystemStart Float) size)
    (operations : List (Operation .particles compounds size))
    (context : Fin size) :
    let start := starts.get context
    let count := start.particles.length
    let world :=
      ((World.start compounds (starts.map SystemStart.build)).performAll
        operations).1
    let system : Particles Float := world.contexts.get context
    start.build.each = start.particles ∧
    (system.positions.length = count ∧ system.velocities.length = count ∧
      system.masses.length = count) ∧
    (∀ operation : Operation .particles compounds size,
      ¬ operation.request.IsPoke →
      let after : Particles Float :=
        (world.perform operation).1.contexts.get context
      after.masses = system.masses ∧
        after.springConstant = system.springConstant) ∧
    (∀ (home : Fin compounds) (schedule : Schedule) (Memory : Type)
        (observer : Observer Event Memory) memory,
      let run :=
        schedule.run observer memory (world.compounds.get home) world.contexts
      Particles.frame (run.standing.contexts.get context) = system.frame) ∧
    (system.forces.length = count ∧
      ∀ scheme time steps,
        system.advancedInPlace scheme time steps =
          some (system.advanced scheme time steps)) ∧
    (∀ (home : Fin compounds) (place : Nat) (scheme : Dynamics.Scheme)
        (dynamics : Dynamics size),
      (world.compounds.get home).members[place]? =
          some (.dynamics scheme dynamics) →
        dynamics.attachment = some context →
          ∀ steps : Count, ∃ after,
            system.advancedInPlace scheme dynamics.stepSize steps.toNat =
                some after ∧
              dynamics.step scheme steps world.contexts =
                .ok
                  ({ dynamics with stepsTaken := dynamics.stepsTaken + steps },
                    world.contexts.set context after context.isLt)) ∧
    (system.each.length = count ∧
      system.kineticEnergy =
        Particles.sum (system.each.map ParticleStart.kineticEnergy)) ∧
    (∀ dynamics : Dynamics size,
      dynamics.attach context system = dynamics.attach context start.build ∧
        ((dynamics.attach context system).isOk = true ↔
          start.particles ≠ [])) := by
  intro start count world system
  have built :
      ((starts.map SystemStart.build).get context : Particles Float) =
        start.build :=
    Vector.getElem_map SystemStart.build context.isLt
  have shape : system.shape = start.build.shape := by
    rw [← built]
    exact shapes_performAll _ operations context
  have even : system.Even :=
    (Particles.even_ofEach start.springConstant start.particles).of_shape shape
  have positions : system.positions.length = count :=
    (congrArg Particles.Shape.positions shape).trans (List.length_map _)
  have loops (scheme : Particles.Scheme Float) (time : Float) (steps : Nat) :=
    Particles.advancedInPlace_eq even scheme time steps
  refine ⟨?_, ?_, ?_, ?_, ?_, ?_, ?_, ?_⟩
  · exact Particles.each_ofEach start.springConstant start.particles
  · rw [even.velocities_length, even.masses_length]
    exact ⟨positions, positions, positions⟩
  · intro operation direct after
    have same : after.frame = system.frame :=
      Request.frames_perform direct (world.scene operation.compound) context
    exact
      ⟨congrArg Particles.Frame.masses same,
        congrArg Particles.Frame.springConstant same⟩
  · intro home schedule Memory observer memory run
    exact framesMotion.run schedule observer memory _ world.contexts context
  · exact ⟨(List.length_map _).trans positions, loops⟩
  · intro home place scheme dynamics found attached steps
    exact
      ⟨_, loops scheme dynamics.stepSize steps.toNat,
        Dynamics.step_of_attached attached scheme steps world.contexts⟩
  · exact ⟨even.length_each.trans positions, even.kineticEnergy_eq⟩
  · intro dynamics
    have same : dynamics.attach context system = dynamics.attach context start.build :=
      dynamics.attach_congr context (congrArg Particles.Shape.positions shape)
    rw [same, Dynamics.isOk_attach_iff]
    exact ⟨rfl, List.map_eq_nil_iff.not⟩

end World

end Stepping
