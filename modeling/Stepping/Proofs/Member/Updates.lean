import Stepping.Proofs.Member.Calls
import Stepping.Proofs.Member.Faults
import Mathlib.Logic.Function.Iterate

/-!
# Steps one at a time

Dynamics carry nothing from one step to the next but the system itself.  So any
number of steps taken in one call does to the system what the update of a single
step does, that many times over, and two calls in a row do what one call does
that takes the steps of both.  Nothing is used of the arithmetic on doubles but
that equal inputs give equal results.
-/

namespace Stepping

theorem Particles.repeated_eq {α : Type}
    (step : Particles α → Particles α) (count : Nat)
    (particles : Particles α) :
    repeated step count particles = step^[count] particles := by
  induction count generalizing particles with
  | zero => rfl
  | succ count induction => exact induction (step particles)

variable {size : Nat}

namespace Dynamics

/-- What one step makes of the systems. -/
def update (scheme : Scheme) (dynamics : Dynamics size)
    (systems : Contexts .particles size) : Contexts .particles size :=
  match dynamics.attachment with
  | none => systems
  | some context =>
      systems.set context
        (scheme.step dynamics.stepSize (systems.get context)) context.isLt

theorem iterate_update
    {dynamics : Dynamics size} {context : Fin size}
    (attached : dynamics.attachment = some context) (scheme : Scheme)
    (count : Nat) (systems : Contexts .particles size) :
    (dynamics.update scheme)^[count] systems =
      systems.set context
        ((scheme.step dynamics.stepSize)^[count] (systems.get context))
        context.isLt := by
  induction count generalizing systems with
  | zero =>
      apply Vector.ext
      intro place inside
      by_cases here : context.val = place
      · subst here
        rw [Vector.getElem_set_self]
        rfl
      · simp [here]
  | succ count induction =>
      have updated :
          dynamics.update scheme systems =
            systems.set context
              (scheme.step dynamics.stepSize (systems.get context))
              context.isLt := by
        rw [update, attached]
      have here :
          (dynamics.update scheme systems).get context =
            scheme.step dynamics.stepSize (systems.get context) := by
        rw [updated]
        exact Vector.getElem_set_self context.isLt
      rw [Function.iterate_succ_apply, induction, here, updated,
        Function.iterate_succ_apply, Vector.set_set]

/-- Dynamics that are attached take steps, whatever their number. -/
theorem step_of_attached
    {dynamics : Dynamics size} {context : Fin size}
    (attached : dynamics.attachment = some context) (scheme : Scheme)
    (steps : Count) (systems : Contexts .particles size) :
    dynamics.step scheme steps systems =
      .ok
        ({ dynamics with stepsTaken := dynamics.stepsTaken + steps },
          systems.set context
            (dynamics.moved scheme steps (systems.get context))
            context.isLt) := by
  have system : dynamics.system = .ok context := by
    rw [Dynamics.system, attached]
  exact step_eq_ok_iff.mpr ⟨context, system, rfl⟩

/-- The steps of one call change the systems one after another. -/
theorem step_eq_iterate
    {dynamics : Dynamics size} {context : Fin size}
    (attached : dynamics.attachment = some context) (scheme : Scheme)
    (steps : Count) (systems : Contexts .particles size) :
    dynamics.step scheme steps systems =
      .ok
        ({ dynamics with stepsTaken := dynamics.stepsTaken + steps },
          (dynamics.update scheme)^[steps.toNat] systems) := by
  rw [step_of_attached attached, iterate_update attached, moved,
    Particles.advanced, Particles.repeated_eq]

end Dynamics

namespace Member

/-- The member with so many more steps on its counter. -/
def counted (steps : Count) : Member .particles size → Member .particles size
  | .dynamics scheme member =>
      .dynamics scheme { member with stepsTaken := member.stepsTaken + steps }
  | .idle serial => .idle serial

/-- What one step with a member makes of the systems. -/
def update : Member .particles size →
    Contexts .particles size → Contexts .particles size
  | .dynamics scheme member => member.update scheme
  | .idle _ => id

@[simp]
theorem counted_counted
    (first second : Count) (member : Member .particles size) :
    (member.counted first).counted second = member.counted (first + second) := by
  cases member with
  | dynamics scheme dynamics => simp [counted, UInt64.add_assoc]
  | idle serial => rfl

@[simp]
theorem update_counted (steps : Count) (member : Member .particles size) :
    (member.counted steps).update = member.update := by
  cases member <;> rfl

@[simp]
theorem fault_counted (steps : Count) (member : Member .particles size) :
    (member.counted steps).fault = member.fault := by
  cases member <;> rfl

/-- A member without a fault takes steps by its update, and counts them. -/
theorem step_of_sound
    {member : Member .particles size} (sound : member.fault = none)
    (steps : Count) (contexts : Contexts .particles size) :
    member.step steps contexts =
      .ok (member.counted steps, member.update^[steps.toNat] contexts) := by
  cases member with
  | dynamics scheme dynamics =>
      cases attached : dynamics.attachment with
      | none => simp [fault, Dynamics.system, attached] at sound
      | some context =>
          have stepped :=
            Dynamics.step_eq_iterate attached scheme steps contexts
          exact ofDynamics_eq_ok_iff.mpr ⟨_, stepped, rfl⟩
  | idle serial => cases sound

/-- Steps leave the update of a single one as it is. -/
theorem update_of_step
    {member moved : Member .particles size} {steps : Count}
    {contexts after : Contexts .particles size}
    (stepped : member.step steps contexts = .ok (moved, after)) :
    moved.update = member.update :=
  view_of_step stepped fun member => by cases member <;> rfl

end Member

end Stepping
