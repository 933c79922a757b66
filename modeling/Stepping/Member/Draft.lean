import Stepping.Member

/-!
# Drafts of members

A draft says how to make a member.  Recorders and idle members can always be
made; dynamics can only be made with parameters that they accept.
-/

namespace Stepping

/-- How to make a recorder. -/
structure RecorderDraft where
  name : String
  kernels : List String := []
  refusesBind : Bool := false
  /-- Whether it fails once it is attached. -/
  faulted : Bool := false
  stepSize : Time := .ofPicoseconds 0.002
  tolerance : Float := Dynamics.standardTolerance
deriving DecidableEq

/-- How to make a member. -/
inductive Draft : Setting → Type where
  | recorder (draft : RecorderDraft) : Draft .clock
  /-- Make dynamics of a scheme with a step size in picoseconds. -/
  | dynamics (scheme : Dynamics.Scheme) (stepSize : Float) : Draft .particles
  | idle {setting : Setting} : Draft setting

namespace Draft

variable {setting : Setting} {size : Nat}

/-- Make the member under a serial number.  A step size is looked at before a friction. -/
def build (serial : Nat) : Draft setting → Except Member.Failure (Member setting size)
  | .recorder draft =>
      .ok (.recorder {
        serial := serial
        name := draft.name
        stepsTaken := 0
        stepSize := draft.stepSize
        tolerance := draft.tolerance
        kernels := .ofNames draft.kernels
        refusesBind := draft.refusesBind
        faulted := draft.faulted
        attachment := none })
  | .dynamics scheme stepSize => Member.ofDynamics id do
      let member ← Dynamics.ofStepSize serial stepSize
      let scheme ← Dynamics.checkedScheme scheme
      return .dynamics scheme member
  | .idle => .ok (.idle serial)

end Draft

end Stepping
