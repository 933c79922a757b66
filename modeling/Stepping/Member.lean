import Stepping.Member.Dynamics
import Stepping.Member.Recorder

/-!
# Members

A compound owns members of several kinds and treats them alike.  Recorders work
on clocks, dynamics of either scheme on systems of particles, and an idle member
accepts everything on either and does nothing.  The type of a member names its
setting, so no compound holds members that cannot share a context.
-/

namespace Stepping

/-- A member for a setting with so many contexts. -/
inductive Member : Setting → Nat → Type where
  | recorder {size : Nat} (member : Recorder size) : Member .clock size
  | dynamics {size : Nat} (scheme : Dynamics.Scheme) (member : Dynamics size) :
      Member .particles size
  | idle {setting : Setting} {size : Nat} (serial : Nat) : Member setting size

namespace Member

/-- Why a call on a member failed. -/
inductive Failure where
  | recorder (cause : Recorder.Failure)
  | dynamics (cause : Dynamics.Failure)
  | idle
deriving DecidableEq

/-- The failure in words. -/
def Failure.message : Failure → String
  | .recorder cause => cause.message
  | .dynamics cause => cause.message
  | .idle => "integrator is not bound"

/-- Speak of a recorder's result as a member's. -/
def ofRecorder {α β : Type} (result : α → β) :
    Except Recorder.Failure α → Except Failure β
  | .ok value => .ok (result value)
  | .error cause => .error (.recorder cause)

/-- Speak of the result of dynamics as a member's. -/
def ofDynamics {α β : Type} (result : α → β) :
    Except Dynamics.Failure α → Except Failure β
  | .ok value => .ok (result value)
  | .error cause => .error (.dynamics cause)

variable {setting : Setting} {size : Nat}

/-- The number under which a member was made; no other member shares it. -/
def serial : Member setting size → Nat
  | .recorder member => member.serial
  | .dynamics _ member => member.serial
  | .idle serial => serial

/-- The context that a member is attached to; an idle member never is to any. -/
def attachment : Member setting size → Option (Fin size)
  | .recorder member => member.attachment
  | .dynamics _ member => member.attachment
  | .idle _ => none

/-- What a member notes in the journal of a call that succeeded. -/
def notes (call : Call) : Member setting size → List Entry
  | .recorder member => [member.entry call]
  | _ => []

/-- Attach a member to a context, unless it refuses. -/
def attach (context : Fin size) (contexts : Contexts setting size) :
    Member setting size → Except Failure (Member setting size)
  | .recorder member => ofRecorder .recorder (member.attach context)
  | .dynamics scheme member =>
      ofDynamics (.dynamics scheme) (member.attach context (contexts.get context))
  | .idle serial => .ok (.idle serial)

/-- Detach a member from its context, if it has one. -/
def detach : Member setting size → Member setting size
  | .recorder member => .recorder member.detach
  | .dynamics scheme member => .dynamics scheme member.detach
  | .idle serial => .idle serial

/-- Take steps with a member: the member and the contexts afterwards. -/
def step (steps : Count) (contexts : Contexts setting size) :
    Member setting size →
      Except Failure (Member setting size × Contexts setting size)
  | .recorder member =>
      ofRecorder (fun (member, contexts) => (.recorder member, contexts))
        (member.step steps contexts)
  | .dynamics scheme member =>
      ofDynamics (fun (member, contexts) => (.dynamics scheme member, contexts))
        (member.step scheme steps contexts)
  | .idle serial => .ok (.idle serial, contexts)

/-- The step size of a member. -/
def stepSize : Member setting size → Time
  | .recorder member => member.stepSize
  | .dynamics _ member => .ofPicoseconds member.stepSize
  | .idle _ => .ofPicoseconds 0.001

/-- The constraint tolerance of a member. -/
def tolerance : Member setting size → Float
  | .recorder member => member.tolerance
  | .dynamics _ member => member.tolerance
  | .idle _ => Dynamics.standardTolerance

/-- Change a parameter of a member, unless it refuses the new value. -/
def adjust (adjustment : Adjustment) :
    Member setting size → Except Failure (Member setting size)
  | .recorder member => ofRecorder .recorder (member.adjust adjustment)
  | .dynamics scheme member =>
      ofDynamics (.dynamics scheme) (member.adjust adjustment)
  | .idle serial => .ok (.idle serial)

/-- Change the step size of a member, unless it refuses the new one. -/
def setStepSize (stepSize : Time) :
    Member setting size → Except Failure (Member setting size) :=
  adjust (.stepSize stepSize)

/-- Change the constraint tolerance of a member, unless it refuses the new one. -/
def setTolerance (tolerance : Float) :
    Member setting size → Except Failure (Member setting size) :=
  adjust (.tolerance tolerance)

/-- The kernels that a member declares. -/
def kernels : Member setting size → Kernels
  | .recorder member => member.kernels
  | .dynamics scheme _ => Dynamics.kernels scheme
  | .idle _ => .none

/-- The kinetic energy that a member reports. -/
def kineticEnergy (contexts : Contexts setting size) :
    Member setting size → Except Failure MolarEnergy
  | .recorder member => ofRecorder id member.kineticEnergy
  | .dynamics _ member => ofDynamics id (member.kineticEnergy contexts)
  | .idle _ => .error .idle

end Member

end Stepping
