import Stepping.Compound
import Stepping.Member.Changes
import Stepping.Member.Draft
import Stepping.Schedule.Run

/-!
# Requests

A request asks something of one compound of a session: to change it, to step
it, to run a schedule with it, or to tell something about it, its members or
the contexts.  This module holds what can be asked and what can be answered.
-/

namespace Stepping

/-- A change to a context behind the backs of the members attached to it. -/
inductive Poke : Setting → Type where
  | clock (value : Float) : Poke .clock
  /-- Replace the spring constant, and parts of the particle at an index, where they are given. -/
  | particles (springConstant : Option Float) (particle : Option Nat)
      (position velocity mass : Option Float) : Poke .particles

namespace Poke

/-- The list with another value at an index, where both are given. -/
def replace (index : Option Nat) (value : Option Float) (values : List Float) :
    List Float :=
  match index, value with
  | some index, some value => values.set index value
  | _, _ => values

/-- The context after the change. -/
def apply {setting : Setting} : Poke setting → Context setting → Context setting
  | .clock value, _ => value
  | .particles springConstant particle position velocity mass, system =>
      { positions := replace particle position system.positions
        velocities := replace particle velocity system.velocities
        masses := replace particle mass system.masses
        springConstant := springConstant.getD system.springConstant }

end Poke

/-- What can be asked of one compound of a session. -/
inductive Request (setting : Setting) (size : Nat) where
  | add (draft : Draft setting)
  | length
  | isEmpty
  | isBound
  | activeIndex
  | select (index : Nat)
  | step (steps : Count)
  | stepSize
  | setStepSize (stepSize : Time)
  | tolerance
  | setTolerance (tolerance : Float)
  | kineticEnergy
  | kernels
  | bind (context : Fin size)
  | release
  | describe
  | viewAll
  | view (index : Nat)
  | stepMember (index : Nat) (steps : Count)
  | setMemberStepSize (index : Nat) (stepSize : Time)
  | setMemberTolerance (index : Nat) (tolerance : Float)
  /-- Look at the member at an index, if it is of a kind. -/
  | inspect (index : Nat) (kind : Kind)
  /-- Change the member at an index, if it is of the kind that the changes are for. -/
  | change (index : Nat) (changes : Changes size)
  | lookAt (context : Fin size)
  | poke (context : Fin size) (poke : Poke setting)
  /-- Make a schedule and run it; a rule makes an observer that may stop the run. -/
  | runSchedule (segments : List Segment) (chunks : List Count)
      (rule : Option StopRule)
  /-- Run a schedule before an observer to whom all events seen so far say whether to stop. -/
  | watch (schedule : Schedule) (stops : List Event → Bool)
  /-- Put an empty compound in the place of this one, which comes to its end. -/
  | replace

/-- What a member shows of itself. -/
structure View where
  kind : Kind
  stepSize : Time
  tolerance : Float
  kernels : Kernels
  /-- The kinetic energy that it reports, whether or not its compound is bound. -/
  kineticEnergy : Except Member.Failure MolarEnergy

/-- What a member shows of itself, given the contexts. -/
def Member.view {setting : Setting} {size : Nat}
    (contexts : Contexts setting size) (member : Member setting size) : View where
  kind := member.kind
  stepSize := member.stepSize
  tolerance := member.tolerance
  kernels := member.kernels
  kineticEnergy := member.kineticEnergy contexts

/-- What a request answers when it succeeds. -/
inductive Value (setting : Setting) (size : Nat) where
  | nothing
  | number (value : Nat)
  | index (value : Option Nat)
  | flag (value : Bool)
  | time (value : Time)
  | real (value : Float)
  | energy (value : MolarEnergy)
  | kernels (value : Kernels)
  /-- Two descriptions of a compound. -/
  | description (line lines : String)
  | view (value : View)
  | views (value : List View)
  /-- The member that was looked for, if it is of the kind asked for. -/
  | member (value : Option (Member setting size))
  /-- Whether a member was of the kind that changes were for. -/
  | changed (value : Bool)
  | context (value : Context setting)
  | run (ending : Schedule.Ending) (events : List Event)

/-- Why a request failed. -/
inductive Refusal where
  | member (cause : Member.Failure)
  | compound (cause : Compound.Failure)
  | schedule (defect : Schedule.Defect)
  /-- A run failed after these events. -/
  | run (failure : Schedule.Failure) (events : List Event)

/-- The refusal in words. -/
def Refusal.message : Refusal → String
  | .member cause => cause.message
  | .compound cause => cause.message
  | .schedule defect => defect.message
  | .run failure _ => failure.message

end Stepping
