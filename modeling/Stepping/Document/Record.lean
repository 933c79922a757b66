import Stepping.Document.Reading
import Stepping.Particles
import Stepping.Schedule

/-!
# The records of run files

A run file names the start of a system and a schedule.  Each of its records is
read field by field into what is known of it so far, and is made when its table
has been read to the end; a field that is missing then is missed in the order in
which the record lists its fields.
-/

namespace Stepping.Document

open Reading

/-! ## Schedules -/

/-- What is known of a segment so far. -/
structure PartialSegment where
  member : Option Count := none
  steps : Option Count := none

namespace PartialSegment

/-- Take in one field. -/
def accept (known : PartialSegment) (key : String) (node : Node) :
    Reading PartialSegment := do
  match key with
  | "member" =>
      return { known with member := ← readOnce key known.member readCount node }
  | "steps" =>
      return { known with steps := ← readOnce key known.steps readCount node }
  | _ => passOver known node

/-- The segment that is known. -/
def complete (known : PartialSegment) : Reading Segment := do
  let member ← required "member" known.member
  let steps ← required "steps" known.steps
  return ⟨member, steps⟩

end PartialSegment

/-- A segment of a schedule. -/
def readSegment (dialect : Dialect) : Node → Reading Segment :=
  readRecord "Segment" 2
    (fun fields closed => do
      (← readFields PartialSegment.accept fields closed {}).complete)
    (fun items => do
      let (member, items) ← items.next readCount
      let (steps, items) ← items.next readCount
      items.finish dialect ⟨member, steps⟩)

/-- What is known of the parts of a schedule so far. -/
structure PartialParts where
  segments : Option (List Segment) := none
  chunk : Option (Option Count) := none

namespace PartialParts

/-- Take in one field. -/
def accept (dialect : Dialect) (known : PartialParts) (key : String)
    (node : Node) : Reading PartialParts := do
  match key with
  | "segments" =>
      let read := readList (readSegment dialect)
      return { known with segments := ← readOnce key known.segments read node }
  | "chunk" =>
      return { known with chunk := ← readOnce key known.chunk readOptionalCount node }
  | _ => passOver known node

/-- The parts that are known. -/
def complete (known : PartialParts) : Reading ScheduleParts := do
  let segments ← required "segments" known.segments
  return ⟨segments, known.chunk.getD none⟩

end PartialParts

/-- The parts of a schedule. -/
def readParts (dialect : Dialect) : Node → Reading ScheduleParts :=
  readRecord "RawConfig" 2
    (fun fields closed => do
      (← readFields (PartialParts.accept dialect) fields closed {}).complete)
    (fun items => do
      let (segments, items) ← items.next (readList (readSegment dialect))
      let (chunk, items) ← items.nextOr none readOptionalCount
      items.finish dialect ⟨segments, chunk⟩)

/-- A schedule, whose parts are put together once all of them have been read. -/
def readSchedule (dialect : Dialect) (node : Node) : Reading Schedule := do
  let parts ← readParts dialect node
  match parts.assemble with
  | .ok schedule => .ok schedule
  | .error defect => misfit (.schedule defect)

/-! ## Systems -/

/-- What is known of the start of a particle so far. -/
structure PartialParticle where
  mass : Option Float := none
  position : Option Float := none
  velocity : Option Float := none

namespace PartialParticle

/-- Take in one field. -/
def accept (known : PartialParticle) (key : String) (node : Node) :
    Reading PartialParticle := do
  match key with
  | "mass" =>
      return { known with mass := ← readOnce key known.mass readReal node }
  | "position" =>
      return { known with position := ← readOnce key known.position readReal node }
  | "velocity" =>
      return { known with velocity := ← readOnce key known.velocity readReal node }
  | _ => passOver known node

/-- The start that is known; a particle without a velocity is at rest. -/
def complete (known : PartialParticle) : Reading (ParticleStart Float) := do
  let mass ← required "mass" known.mass
  let position ← required "position" known.position
  return ⟨mass, position, known.velocity.getD 0.0⟩

end PartialParticle

/-- The start of a particle. -/
def readParticle (dialect : Dialect) : Node → Reading (ParticleStart Float) :=
  readRecord "ParticleConfig" 3
    (fun fields closed => do
      (← readFields PartialParticle.accept fields closed {}).complete)
    (fun items => do
      let (mass, items) ← items.next readReal
      let (position, items) ← items.next readReal
      let (velocity, items) ← items.nextOr 0.0 readReal
      items.finish dialect ⟨mass, position, velocity⟩)

/-- What is known of the start of a system so far. -/
structure PartialSystem where
  springConstant : Option Float := none
  particles : Option (List (ParticleStart Float)) := none

namespace PartialSystem

/-- Take in one field. -/
def accept (dialect : Dialect) (known : PartialSystem) (key : String)
    (node : Node) : Reading PartialSystem := do
  match key with
  | "spring_constant" =>
      return { known with
        springConstant := ← readOnce key known.springConstant readReal node }
  | "particles" =>
      let read := readList (readParticle dialect)
      return { known with particles := ← readOnce key known.particles read node }
  | _ => passOver known node

/-- The start that is known. -/
def complete (known : PartialSystem) : Reading (SystemStart Float) := do
  let springConstant ← required "spring_constant" known.springConstant
  let particles ← required "particles" known.particles
  return ⟨springConstant, particles⟩

end PartialSystem

/-- The start of a system. -/
def readSystem (dialect : Dialect) : Node → Reading (SystemStart Float) :=
  readRecord "SystemConfig" 2
    (fun fields closed => do
      (← readFields (PartialSystem.accept dialect) fields closed {}).complete)
    (fun items => do
      let (springConstant, items) ← items.next readReal
      let (particles, items) ← items.next (readList (readParticle dialect))
      items.finish dialect ⟨springConstant, particles⟩)

/-! ## Run files -/

/-- A system to start from and a schedule to run. -/
structure RunFile where
  system : SystemStart Float
  schedule : Schedule

/-- What is known of a run file so far. -/
structure PartialRunFile where
  system : Option (SystemStart Float) := none
  schedule : Option Schedule := none

namespace PartialRunFile

/-- Take in one field. -/
def accept (dialect : Dialect) (known : PartialRunFile) (key : String)
    (node : Node) : Reading PartialRunFile := do
  match key with
  | "system" =>
      return { known with
        system := ← readOnce key known.system (readSystem dialect) node }
  | "schedule" =>
      return { known with
        schedule := ← readOnce key known.schedule (readSchedule dialect) node }
  | _ => passOver known node

/-- The run file that is known. -/
def complete (known : PartialRunFile) : Reading RunFile := do
  let system ← required "system" known.system
  let schedule ← required "schedule" known.schedule
  return ⟨system, schedule⟩

end PartialRunFile

/-- A run file. -/
def readRunFile (dialect : Dialect) : Node → Reading RunFile :=
  readRecord "RunFile" 2
    (fun fields closed => do
      (← readFields (PartialRunFile.accept dialect) fields closed {}).complete)
    (fun items => do
      let (system, items) ← items.next (readSystem dialect)
      let (schedule, items) ← items.next (readSchedule dialect)
      items.finish dialect ⟨system, schedule⟩)

end Stepping.Document
