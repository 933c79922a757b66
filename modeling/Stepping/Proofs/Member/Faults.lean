import Stepping.Proofs.Member.Tag

/-!
# Faults of members

A member that cannot report its kinetic energy has a fault: a recorder or
dynamics that are not attached, a recorder that was told to fail, and an idle
member at all times.  The fault depends on the member alone, so no step of any
member cures or causes one.  All but idle members fail to take steps by the
fault that they have; idle ones take steps nevertheless.
-/

namespace Stepping.Member

variable {setting : Setting} {size : Nat}

/-- Why a member reports no energy, if it does not. -/
def fault : Member setting size → Option Failure
  | .recorder member =>
      match member.live with
      | .error cause => some (.recorder cause)
      | .ok _ => none
  | .dynamics _ member =>
      match member.system with
      | .error cause => some (.dynamics cause)
      | .ok _ => none
  | .idle _ => some .idle

/-- The member fails to take some number of steps, or to report its energy. -/
def Fails (contexts : Contexts setting size)
    (member : Member setting size) : Prop :=
  (∃ steps cause, member.step steps contexts = .error cause) ∨
    ∃ cause, member.kineticEnergy contexts = .error cause

theorem fault_recorder_eq_some_iff
    {recorder : Recorder size} {cause : Failure} :
    (Member.recorder recorder).fault = some cause ↔
      ∃ inner, recorder.live = .error inner ∧ cause = .recorder inner := by
  cases live : recorder.live <;> simp [fault, live, eq_comm]

theorem fault_dynamics_eq_some_iff
    {scheme : Dynamics.Scheme} {dynamics : Dynamics size} {cause : Failure} :
    (Member.dynamics scheme dynamics).fault = some cause ↔
      ∃ inner, dynamics.system = .error inner ∧ cause = .dynamics inner := by
  cases system : dynamics.system <;> simp [fault, system, eq_comm]

/-- No fault but an idle member's is that of an idle member. -/
theorem fault_eq_some_idle_iff {member : Member setting size} :
    member.fault = some .idle ↔ member.kind = .idle := by
  cases member with
  | recorder recorder =>
      simp [fault_recorder_eq_some_iff, kind]
  | dynamics scheme dynamics =>
      cases scheme <;> simp [fault_dynamics_eq_some_iff, kind]
  | idle serial => simp [fault, kind]

/-- A member reports no energy by its fault. -/
theorem kineticEnergy_eq_error_iff_fault
    {member : Member setting size} (contexts : Contexts setting size)
    {cause : Failure} :
    member.kineticEnergy contexts = .error cause ↔
      member.fault = some cause := by
  cases member with
  | recorder recorder =>
      rw [fault_recorder_eq_some_iff, kineticEnergy, ofRecorder_eq_error_iff]
      simp only [Recorder.kineticEnergy_eq_error_iff]
  | dynamics scheme dynamics =>
      rw [fault_dynamics_eq_some_iff, kineticEnergy, ofDynamics_eq_error_iff]
      simp only [Dynamics.kineticEnergy_eq_error_iff]
  | idle serial => simp [kineticEnergy, fault]

/-- A member takes no steps by its fault, unless it is idle. -/
theorem step_eq_error_iff_fault
    {member : Member setting size} (steps : Count)
    (contexts : Contexts setting size) {cause : Failure} :
    member.step steps contexts = .error cause ↔
      member.kind ≠ .idle ∧ member.fault = some cause := by
  by_cases idle : member.kind = .idle
  · cases member with
    | recorder recorder => cases idle
    | dynamics scheme dynamics => cases scheme <;> cases idle
    | idle serial => simp [step, kind]
  · rw [← kineticEnergy_eq_error_iff idle steps contexts, kineticEnergy_eq_error_iff_fault]
    exact (and_iff_right idle).symm

/-- A member fails just if it has a fault. -/
theorem fails_iff
    {member : Member setting size} {contexts : Contexts setting size} :
    member.Fails contexts ↔ member.fault ≠ none := by
  rw [Option.ne_none_iff_exists']
  constructor
  · rintro (⟨steps, cause, failed⟩ | ⟨cause, failed⟩)
    · exact ⟨cause, ((step_eq_error_iff_fault steps contexts).mp failed).2⟩
    · exact ⟨cause, (kineticEnergy_eq_error_iff_fault contexts).mp failed⟩
  · rintro ⟨cause, lacking⟩
    exact .inr ⟨cause, (kineticEnergy_eq_error_iff_fault contexts).mpr lacking⟩

/-- A member that takes steps, and is not idle, has no fault. -/
theorem fault_eq_none_of_step
    {member moved : Member setting size} (active : member.kind ≠ .idle)
    {steps : Count} {contexts after : Contexts setting size}
    (stepped : member.step steps contexts = .ok (moved, after)) :
    member.fault = none := by
  cases lacking : member.fault with
  | none => rfl
  | some cause =>
      have failed : member.step steps contexts = .error cause :=
        (step_eq_error_iff_fault steps contexts).mpr ⟨active, lacking⟩
      rw [failed] at stepped
      cases stepped

/-- Steps neither cure nor cause a fault. -/
theorem fault_of_step
    {member moved : Member setting size} {steps : Count}
    {contexts after : Contexts setting size}
    (stepped : member.step steps contexts = .ok (moved, after)) :
    moved.fault = member.fault :=
  view_of_step stepped fun member => by cases member <;> rfl

end Stepping.Member
