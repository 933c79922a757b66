import Stepping.Compound
import Stepping.Schedule
import Stepping.Schedule.Observer

/-!
# Runs of a schedule

A run goes through the segments of a schedule in order.  It makes the segment's
member the active one and takes the segment's steps with it, chunk by chunk; a
segment of `n` steps has `⌈n / c⌉` chunks of at most `c`.  After each chunk the
observer sees an event with the active member's kinetic energy, and may stop
the run.  A failure stops it too, and everything done before it remains done.

A run is put together from stretches.  Each starts where the last one ended,
unless that one ended the run.
-/

namespace Stepping

namespace Schedule

/-- A compound's failure in one of the segments. -/
structure Failure where
  segment : Nat
  cause : Compound.Failure
deriving DecidableEq

/-- The failure in words. -/
def Failure.message (failure : Failure) : String :=
  s!"segment {failure.segment} failed: " ++ failure.cause.message

/-- How a run came to an end. -/
inductive Status where
  | complete
  | stoppedByObserver
deriving DecidableEq, Repr

/-- What a run that did not fail has achieved. -/
structure Ending where
  status : Status
  /-- The number of segments that were finished. -/
  segments : Nat
  steps : Count
deriving DecidableEq, Repr

end Schedule

/-- Where a run stands between two chunks. -/
structure Standing (setting : Setting) (size : Nat) (Memory : Type) where
  compound : Compound setting size
  contexts : Contexts setting size
  memory : Memory
  total : Count

/-- What a stretch of a run does. -/
structure Stretch (setting : Setting) (size : Nat) (Memory : Type) where
  /-- The end of the run, if it ended in this stretch. -/
  ended : Option (Except Schedule.Failure Schedule.Ending)
  events : List Event
  standing : Standing setting size Memory
  trace : Trace

namespace Stretch

variable {setting : Setting} {size : Nat} {Memory : Type}

/-- A stretch in which nothing is done but noting. -/
def noting (trace : Trace) (standing : Standing setting size Memory) :
    Stretch setting size Memory :=
  ⟨none, [], standing, trace⟩

/-- A stretch in which the run fails. -/
def failing (index : Nat) (cause : Compound.Failure) (trace : Trace)
    (standing : Standing setting size Memory) : Stretch setting size Memory :=
  ⟨some (.error ⟨index, cause⟩), [], standing, trace⟩

/-- Go on from where a stretch ended, unless the run has ended. -/
def andThen (first : Stretch setting size Memory)
    (next : Standing setting size Memory → Stretch setting size Memory) :
    Stretch setting size Memory :=
  match first.ended with
  | some _ => first
  | none =>
      let second := next first.standing
      { second with
        events := first.events ++ second.events
        trace := first.trace ++ second.trace }

end Stretch

/-- What a whole run does. -/
structure Run (setting : Setting) (size : Nat) (Memory : Type) where
  answer : Except Schedule.Failure Schedule.Ending
  events : List Event
  standing : Standing setting size Memory
  trace : Trace

namespace Schedule

variable {setting : Setting} {size : Nat} {Memory : Type}

/-- The number of chunks of at most `chunk` steps that make up a number of steps. -/
def chunkCount (steps chunk : Count) : Nat :=
  (steps.toNat + chunk.toNat - 1) / chunk.toNat

/--
Take one chunk of `count` steps with the active member, after `done` steps of
the segment, and show the event.
-/
def takeChunk (observer : Observer Event Memory) (index : Nat)
    (segment : Segment) (done count : Count)
    (standing : Standing setting size Memory) : Stretch setting size Memory :=
  let outcome := standing.compound.step count standing.contexts
  let moved :=
    { standing with compound := outcome.compound, contexts := outcome.contexts }
  match outcome.answer with
  | .error cause => .failing index cause outcome.trace moved
  | .ok () =>
      let moved := { moved with total := moved.total + count }
      match moved.compound.kineticEnergy moved.contexts with
      | .error cause => .failing index cause outcome.trace moved
      | .ok energy =>
          let event : Event :=
            ⟨index, segment.member, done + count, moved.total, energy⟩
          let (memory, action) := observer.observe moved.memory event
          let seen := { moved with memory := memory }
          match action with
          | none => ⟨none, [event], seen, outcome.trace⟩
          | some .stopEarly =>
              let finished := if done + count = segment.steps then index + 1 else index
              ⟨some (.ok ⟨.stoppedByObserver, finished, seen.total⟩), [event], seen,
                outcome.trace ++ .ofNotice (.stopped seen.total)⟩

/--
Take so many chunks of at most `chunk` steps, after `done` steps of the segment.
The last chunk is what is left of the segment.
-/
def takeChunks (observer : Observer Event Memory) (index : Nat)
    (segment : Segment) (chunk : Count) :
    (chunks : Nat) → (done : Count) →
      Standing setting size Memory → Stretch setting size Memory
  | 0, _, standing => .noting .none standing
  | chunks + 1, done, standing =>
      let count := min chunk (segment.steps - done)
      (takeChunk observer index segment done count standing).andThen
        (takeChunks observer index segment chunk chunks (done + count))

/-- Run one segment: make its member active and take its steps chunk by chunk. -/
def runSegment (observer : Observer Event Memory) (chunk : Option Count)
    (index : Nat) (segment : Segment)
    (standing : Standing setting size Memory) : Stretch setting size Memory :=
  let (answer, compound, selecting) :=
    standing.compound.select segment.member.toNat
  let selected := { standing with compound := compound }
  match answer with
  | .error cause => .failing index cause selecting selected
  | .ok () =>
      let chunk := chunk.getD segment.steps
      let beginning := Trace.ofNotice (.segment index segment.steps segment.member)
      (Stretch.noting (selecting ++ beginning) selected).andThen
        (takeChunks observer index segment chunk (chunkCount segment.steps chunk) 0)

/-- Run segments in order, the first of which has the given index. -/
def runSegments (observer : Observer Event Memory) (chunk : Option Count) :
    (index : Nat) → List Segment →
      Standing setting size Memory → Stretch setting size Memory
  | _, [], standing => .noting .none standing
  | index, segment :: segments, standing =>
      (runSegment observer chunk index segment standing).andThen
        (runSegments observer chunk (index + 1) segments)

/-- Run a schedule from a state of the compound, the contexts and the observer. -/
def run (schedule : Schedule) (observer : Observer Event Memory)
    (memory : Memory) (compound : Compound setting size)
    (contexts : Contexts setting size) : Run setting size Memory :=
  let stretch := runSegments observer schedule.chunk 0 schedule.segments
    ⟨compound, contexts, memory, 0⟩
  { stretch with
    answer := stretch.ended.getD
      (.ok ⟨.complete, schedule.segments.length, stretch.standing.total⟩) }

/-- Run a schedule that nobody observes. -/
def runUnobserved (schedule : Schedule) (compound : Compound setting size)
    (contexts : Contexts setting size) : Run setting size Unit :=
  schedule.run .silent () compound contexts

end Schedule

end Stepping
