import Stepping.Count
import Stepping.Quantity

/-!
# Observers

After each chunk of steps a run of a schedule shows an event to an observer,
which may ask for the run to stop.  An observer may remember what it has seen;
what it remembers is a value of its own and never part of what it observes.
-/

namespace Stepping

/-- What a run shows after a chunk of steps. -/
structure Event where
  segment : Nat
  member : Count
  /-- The steps taken in this segment so far. -/
  segmentSteps : Count
  /-- The steps taken in all segments so far. -/
  totalSteps : Count
  kineticEnergy : MolarEnergy
deriving DecidableEq

/-- What an observer may ask for. -/
inductive Action where
  /-- End the run and keep what has been done. -/
  | stopEarly
deriving DecidableEq, Repr

/-- Something that sees observations one after another and remembers a memory. -/
structure Observer (Observation Memory : Type) where
  /-- The memory after an observation, and what is asked for. -/
  observe : Memory → Observation → Memory × Option Action

namespace Observer

/-- The observer that remembers nothing and asks for nothing. -/
def silent {Observation : Type} : Observer Observation Unit where
  observe _ _ := ((), none)

/-- The observer that remembers all that it has seen and lets that decide whether to stop. -/
def ofHistory {Observation : Type} (stops : List Observation → Bool) :
    Observer Observation (List Observation) where
  observe seen observation :=
    let seen := seen ++ [observation]
    (seen, if stops seen then some .stopEarly else none)

end Observer

/--
Conditions on events, any of which stops a run.  A condition that is absent
never does.
-/
structure StopRule where
  totalAtLeast : Option Count
  segmentStepsAtLeast : Option Count
  eventsAtLeast : Option Nat
  segmentIs : Option Nat
  memberIs : Option Count
  /-- Stop when the energy in kilojoules per mole is below this value. -/
  energyBelow : Option Float
  /-- Stop when the energy in kilojoules per mole is above this value. -/
  energyAbove : Option Float

namespace StopRule

/-- Whether one of the conditions holds of an event, so many events having been seen with it. -/
def applies (rule : StopRule) (seen : Nat) (event : Event) : Bool :=
  let energy := event.kineticEnergy.kilojoulesPerMole
  rule.totalAtLeast.any (fun bound => decide (event.totalSteps ≥ bound))
    || rule.segmentStepsAtLeast.any (fun bound => decide (event.segmentSteps ≥ bound))
    || rule.eventsAtLeast.any (fun bound => decide (seen ≥ bound))
    || rule.segmentIs.any (fun segment => event.segment == segment)
    || rule.memberIs.any (fun member => event.member == member)
    || rule.energyBelow.any (fun bound => decide (energy < bound))
    || rule.energyAbove.any (fun bound => decide (energy > bound))

/-- The observer that counts events and stops at the first to which the rule applies. -/
def observer (rule : StopRule) : Observer Event Nat where
  observe seen event :=
    (seen + 1, if rule.applies (seen + 1) event then some .stopEarly else none)

end StopRule

end Stepping
