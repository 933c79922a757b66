import Stepping.Context
import Stepping.Journal
import Stepping.Kernels
import Stepping.Member.Adjustment

/-!
# Recorders

A recorder is a member for clock settings that shows what is done to it.  It
notes each successful call in the journal, counts its own steps, and advances
the clock it is attached to by its step size times the steps taken.  It can be
told to refuse attachment or to fail at every step, and it reports its step
count as its kinetic energy, so recorders can be told apart by their energies.
-/

namespace Stepping

/-- A member that notes what is done to it. -/
structure Recorder (size : Nat) where
  /-- The number under which the recorder was made; no other member shares it. -/
  serial : Nat
  name : String
  stepsTaken : Count
  /-- The time by which one step advances the clock. -/
  stepSize : Time
  tolerance : Float
  kernels : Kernels
  refusesBind : Bool
  /-- Whether the recorder fails to step and to report its energy. -/
  faulted : Bool
  attachment : Option (Fin size)
deriving DecidableEq

namespace Recorder

/-- Why a call on a recorder failed. -/
inductive Failure where
  | unbound (name : String)
  | bindRefused (name : String)
  | faulted (name : String)
  /-- The step size offered is zero or below. -/
  | invalidStepSize
  /-- The tolerance offered is zero or below. -/
  | invalidTolerance
deriving DecidableEq, Repr

/-- The failure in words. -/
def Failure.message : Failure → String
  | .unbound name => name ++ " is not bound"
  | .bindRefused name => name ++ " refused to bind"
  | .faulted name => name ++ " has faulted"
  | .invalidStepSize => "step size must be positive"
  | .invalidTolerance => "constraint tolerance must be positive"

/-- The refusal of an adjustment. -/
def Failure.invalid : Adjustment → Failure
  | .stepSize _ => .invalidStepSize
  | .tolerance _ => .invalidTolerance

variable {size : Nat}

/-- The entry by which a recorder notes a call. -/
def entry (recorder : Recorder size) (call : Call) : Entry :=
  ⟨recorder.serial, recorder.name, call⟩

/-- Attach the recorder to a clock, unless it refuses. -/
def attach (recorder : Recorder size) (context : Fin size) :
    Except Failure (Recorder size) :=
  if recorder.refusesBind then
    .error (.bindRefused recorder.name)
  else
    .ok { recorder with attachment := some context }

/-- Detach the recorder from its clock, if it has one. -/
def detach (recorder : Recorder size) : Recorder size :=
  { recorder with attachment := none }

/-- The clock that a working recorder is attached to. -/
def live (recorder : Recorder size) : Except Failure (Fin size) :=
  match recorder.attachment with
  | none => .error (.unbound recorder.name)
  | some context =>
      if recorder.faulted then .error (.faulted recorder.name) else .ok context

/-- The picoseconds that go by in so many steps. -/
def elapsed (recorder : Recorder size) (steps : Count) : Float :=
  recorder.stepSize.picoseconds * steps.toFloat

/-- Take steps: the clock advances and the step counter rises. -/
def step (recorder : Recorder size) (steps : Count)
    (clocks : Contexts .clock size) :
    Except Failure (Recorder size × Contexts .clock size) := do
  let context ← recorder.live
  let clock : Float := clocks.get context
  return ({ recorder with stepsTaken := recorder.stepsTaken + steps },
    clocks.set context (clock + recorder.elapsed steps) context.isLt)

/-- The recorder with the new value of an adjustment. -/
def adjusted (recorder : Recorder size) : Adjustment → Recorder size
  | .stepSize time => { recorder with stepSize := time }
  | .tolerance value => { recorder with tolerance := value }

/-- Change a parameter, unless the new value is zero or below. -/
def adjust (recorder : Recorder size) (adjustment : Adjustment) :
    Except Failure (Recorder size) :=
  if adjustment.number ≤ 0.0 then
    .error (.invalid adjustment)
  else
    .ok (recorder.adjusted adjustment)

/-- The step count, as an energy in kilojoules per mole. -/
def kineticEnergy (recorder : Recorder size) : Except Failure MolarEnergy := do
  let _ ← recorder.live
  return .ofKilojoulesPerMole recorder.stepsTaken.toFloat

end Recorder

end Stepping
