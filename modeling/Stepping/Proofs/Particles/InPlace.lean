import Stepping.Proofs.Particles.Each

/-!
# Steps in place

A step can be taken without looking at a system as a whole: a loop goes through
the indices of the positions and writes each new velocity and each new position
where the old one was, reading the forces that were noted down before the loop
began.  Velocity Verlet takes two such loops, the second with the forces noted
down between them, and Langevin dynamics one.

When a loop has come to an index, the particles before it are the images of what
they were and the others are still untouched.  So on an even system no index is
ever out of range, and the loops come to what the step makes of the system.
-/

namespace Stepping.Particles

variable {α : Type}

/-! ## Loops -/

/-- Give the velocity at an index the value that a rule names, unless the index is out of range. -/
def kickAt (rule : α → α → α → α) (forces : List α) (index : Nat)
    (particles : Particles α) : Option (Particles α) := do
  let velocity ← particles.velocities[index]?
  let force ← forces[index]?
  let mass ← particles.masses[index]?
  return { particles with
    velocities := particles.velocities.set index (rule velocity force mass) }

/-- Go through the indices of the positions in order, up to one that is out of range. -/
def sweep (visit : Nat → Particles α → Option (Particles α))
    (particles : Particles α) : Option (Particles α) :=
  (List.range particles.positions.length).foldlM
    (fun particles index => visit index particles) particles

theorem kickAt_ofEach
    (springConstant : α) (rule : α → α → α → α) {forces : List α} {force : α}
    (front : List (ParticleStart α)) (start : ParticleStart α)
    (rest : List (ParticleStart α))
    (pulled : forces[front.length]? = some force) :
    kickAt rule forces front.length
        (ofEach springConstant (front ++ start :: rest)) =
      some
        (ofEach springConstant
          (front ++
            { start with velocity := rule start.velocity force start.mass } ::
              rest)) := by
  simp [kickAt, ofEach, SystemStart.build, pulled]

/--
A loop that puts the image of each particle in its place, while those before it
have become their images and those after it are as they were, comes to the images
of all.
-/
theorem sweep_ofEach
    (springConstant : α) {starts : List (ParticleStart α)}
    {visit : Nat → Particles α → Option (Particles α)}
    {image : ParticleStart α → ParticleStart α}
    (visited :
      ∀ front start rest, starts = front ++ start :: rest →
        visit front.length
            (ofEach springConstant (front.map image ++ start :: rest)) =
          some
            (ofEach springConstant
              (front.map image ++ image start :: rest))) :
    (ofEach springConstant starts).sweep visit =
      some (ofEach springConstant (starts.map image)) := by
  -- The induction is on the particles that the loop has still to come to.
  have onwards :
      ∀ rest front, starts = front ++ rest →
        (List.range' front.length rest.length).foldlM
            (fun particles index => visit index particles)
            (ofEach springConstant (front.map image ++ rest)) =
          some (ofEach springConstant (starts.map image)) := by
    intro rest
    induction rest with
    | nil =>
        intro front whole
        rw [whole, List.append_nil, List.append_nil]
        rfl
    | cons start rest induction =>
        intro front whole
        have next := induction (front ++ [start]) (by simp [whole])
        rw [List.length_cons, List.range'_succ, List.foldlM_cons,
          visited front start rest whole]
        simpa using next
  have whole := onwards starts [] rfl
  simpa [sweep, ofEach, SystemStart.build, List.range_eq_range'] using whole

variable [Scalar α]

/-- Move the position at an index along its velocity, unless the index is out of range. -/
def driftAt (time : α) (index : Nat) (particles : Particles α) :
    Option (Particles α) := do
  let position ← particles.positions[index]?
  let velocity ← particles.velocities[index]?
  return { particles with
    positions := particles.positions.set index (position + time * velocity) }

/-- Kick and then drift at every index, with the forces at the positions before. -/
def kickAndDriftInPlace (rule : α → α → α → α) (time : α)
    (particles : Particles α) : Option (Particles α) :=
  particles.sweep fun index swept => do
    driftAt time index (← kickAt rule particles.forces index swept)

/-- Kick at every index, with the forces at the positions before. -/
def kickInPlace (rule : α → α → α → α) (particles : Particles α) :
    Option (Particles α) :=
  particles.sweep (kickAt rule particles.forces)

/-- One step of a scheme in place. -/
def stepInPlace (scheme : Scheme α) (time : α) (particles : Particles α) :
    Option (Particles α) :=
  match scheme with
  | .verlet => do
      kickInPlace (halfKick time)
        (← particles.kickAndDriftInPlace (halfKick time) time)
  | .langevin friction =>
      particles.kickAndDriftInPlace
        (dampedKick time (dampingFactor friction time)) time

/-- So many steps of a scheme in place. -/
def advancedInPlace (scheme : Scheme α) (time : α) :
    Nat → Particles α → Option (Particles α)
  | 0, particles => some particles
  | steps + 1, particles => do
      advancedInPlace scheme time steps (← particles.stepInPlace scheme time)

/-! ## What loops come to -/

theorem driftAt_ofEach
    (springConstant time : α) (front : List (ParticleStart α))
    (start : ParticleStart α) (rest : List (ParticleStart α)) :
    driftAt time front.length
        (ofEach springConstant (front ++ start :: rest)) =
      some
        (ofEach springConstant (front ++ start.drifted time :: rest)) := by
  simp [driftAt, ofEach, SystemStart.build, ParticleStart.drifted]

/-- The force on a particle, where it stands in the list of forces. -/
theorem getElem?_forces_ofEach
    (springConstant : α) {starts front rest : List (ParticleStart α)}
    {start : ParticleStart α} (whole : starts = front ++ start :: rest) :
    (ofEach springConstant starts).forces[front.length]? =
      some (-springConstant * start.position) := by
  simp [forces, ofEach, SystemStart.build, whole]

theorem kickInPlace_ofEach
    (springConstant : α) (rule : α → α → α → α)
    (starts : List (ParticleStart α)) :
    (ofEach springConstant starts).kickInPlace rule =
      some
        (ofEach springConstant
          (starts.map (ParticleStart.kicked rule springConstant))) := by
  apply sweep_ofEach
  intro front start rest whole
  have pulled := getElem?_forces_ofEach springConstant whole
  rw [← List.length_map (ParticleStart.kicked rule springConstant)] at pulled ⊢
  exact kickAt_ofEach springConstant rule _ start rest pulled

theorem kickAndDriftInPlace_ofEach
    (springConstant : α) (rule : α → α → α → α) (time : α)
    (starts : List (ParticleStart α)) :
    (ofEach springConstant starts).kickAndDriftInPlace rule time =
      some
        (ofEach springConstant
          (starts.map fun start =>
            (start.kicked rule springConstant).drifted time)) := by
  apply sweep_ofEach
  intro front start rest whole
  have pulled := getElem?_forces_ofEach springConstant whole
  let image (start : ParticleStart α) :=
    (start.kicked rule springConstant).drifted time
  rw [← List.length_map image] at pulled ⊢
  rw [kickAt_ofEach springConstant rule _ start rest pulled]
  exact driftAt_ofEach springConstant time _ _ rest

/-- On an even system the loops of a step stay in range and come to what the step makes of it. -/
theorem stepInPlace_eq {particles : Particles α} (even : particles.Even)
    (scheme : Scheme α) (time : α) :
    particles.stepInPlace scheme time = some (scheme.step time particles) := by
  rw [← (even.step scheme time).ofEach_each, springConstant_step, each_step,
    ← even.ofEach_each]
  generalize particles.each = starts
  cases scheme with
  | verlet =>
      rw [stepInPlace, kickAndDriftInPlace_ofEach]
      show kickInPlace _ (ofEach _ _) = _
      rw [kickInPlace_ofEach, List.map_map, each_ofEach]
      rfl
  | langevin friction =>
      rw [stepInPlace, kickAndDriftInPlace_ofEach, each_ofEach]
      rfl

/-- On an even system the loops of steps stay in range and come to what the steps make of it. -/
theorem advancedInPlace_eq {particles : Particles α} (even : particles.Even)
    (scheme : Scheme α) (time : α) (steps : Nat) :
    particles.advancedInPlace scheme time steps =
      some (particles.advanced scheme time steps) := by
  induction steps generalizing particles with
  | zero => rfl
  | succ steps induction =>
      rw [advancedInPlace, stepInPlace_eq even]
      exact induction (even.step scheme time)

end Stepping.Particles
