import Stepping.Document.Record
import Stepping.Member.Draft
import Stepping.Schedule.Run

/-!
# Execution of run files

To execute a run file is to build its system, add members to a new compound,
bind the compound to the system, and run the schedule.  The schedule is run even
if the members could not be bound; the run then fails in its first segment.
-/

namespace Stepping

/-- What the execution of a run file did. -/
structure Execution where
  before : Particles Float
  binding : Except Compound.Failure Unit
  answer : Except Schedule.Failure Schedule.Ending
  /-- The events that the observer has seen; none without an observer. -/
  events : List Event
  after : Particles Float
  activeIndex : Option Nat

namespace Document.RunFile

/-- Make members and add them in order to a compound. -/
def assemble (compound : Compound .particles 1) :
    List (Draft .particles) → Except Member.Failure (Compound .particles 1)
  | [] => .ok compound
  | draft :: drafts => do
      let member ← draft.build compound.members.length
      let (_, compound, _) := compound.add member
      assemble compound drafts

/-- Execute a run file with members.  A rule makes an observer that may stop the run. -/
def execute (file : RunFile) (drafts : List (Draft .particles))
    (rule : Option StopRule) : Except Member.Failure Execution := do
  let system := file.system.build
  let contexts : Contexts .particles 1 := #v[system]
  let compound ← assemble .empty drafts
  let (binding, bound, _) := compound.bind 0 contexts
  return match rule with
  | none =>
      let run := file.schedule.runUnobserved bound contexts
      ⟨system, binding, run.answer, [], run.standing.contexts.get 0,
        run.standing.compound.activeIndex⟩
  | some rule =>
      let run := file.schedule.run rule.observer 0 bound contexts
      ⟨system, binding, run.answer, run.events, run.standing.contexts.get 0,
        run.standing.compound.activeIndex⟩

end Document.RunFile

end Stepping
