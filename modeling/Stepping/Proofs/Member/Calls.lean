import Stepping.Member.Changes

/-!
# What calls on members do

Each call on a recorder or on dynamics succeeds under one condition and then
changes one field.  The equations here say when a call succeeds, what it leaves,
and how it fails; what follows about members is drawn from them.
-/

namespace Stepping

/-! ## Calls made of calls -/

theorem bind_eq_ok_iff {Cause α β : Type}
    {first : Except Cause α} {next : α → Except Cause β} {value : β} :
    (first >>= next) = .ok value ↔
      ∃ middle, first = .ok middle ∧ next middle = .ok value := by
  cases first <;> simp [bind, Except.bind]

theorem map_eq_ok_iff {Cause α β : Type}
    {result : α → β} {answer : Except Cause α} {value : β} :
    answer.map result = .ok value ↔
      ∃ inner, answer = .ok inner ∧ result inner = value := by
  cases answer <;> simp [Except.map]

theorem bind_eq_error_iff {Cause α β : Type}
    {first : Except Cause α} {next : α → Except Cause β} {cause : Cause} :
    (first >>= next) = .error cause ↔
      first = .error cause ∨
        ∃ middle, first = .ok middle ∧ next middle = .error cause := by
  cases first <;> simp [bind, Except.bind]

theorem pure_eq_ok_iff {Cause α : Type} {given value : α} :
    (pure given : Except Cause α) = .ok value ↔ given = value := by
  simp [pure, Except.pure]

namespace Recorder

variable {size : Nat}

theorem live_eq_unbound_iff
    {recorder : Recorder size} {name : String} :
    recorder.live = .error (.unbound name) ↔
      recorder.attachment = none ∧ recorder.name = name := by
  unfold live
  cases recorder.attachment with
  | none => simp
  | some attached =>
      cases recorder.faulted <;> simp

/-- A recorder that can take steps is attached. -/
theorem attachment_of_live
    {recorder : Recorder size} {context : Fin size}
    (live : recorder.live = .ok context) :
    recorder.attachment = some context := by
  unfold Recorder.live at live
  cases attached : recorder.attachment with
  | none => simp [attached] at live
  | some other =>
      simp only [attached] at live
      split at live
      · cases live
      · cases live
        rfl

theorem step_eq_ok_iff
    {recorder : Recorder size} {steps : Count}
    {clocks : Contexts .clock size}
    {result : Recorder size × Contexts .clock size} :
    recorder.step steps clocks = .ok result ↔
      ∃ context : Fin size,
        recorder.live = .ok context ∧
          result =
            (let clock : Float := clocks.get context
            ({ recorder with stepsTaken := recorder.stepsTaken + steps },
              clocks.set context (clock + recorder.elapsed steps)
                context.isLt)) := by
  cases live : recorder.live with
  | error cause =>
      simp [step, live, bind, Except.bind]
  | ok context =>
      simp only [step, live, bind, Except.bind, pure, Except.pure,
        Except.ok.injEq, exists_eq_left']
      exact eq_comm

theorem step_eq_error_iff
    {recorder : Recorder size} {steps : Count}
    {clocks : Contexts .clock size} {cause : Failure} :
    recorder.step steps clocks = .error cause ↔
      recorder.live = .error cause := by
  cases live : recorder.live <;>
    simp [step, live, bind, Except.bind, pure, Except.pure]

theorem kineticEnergy_eq_error_iff
    {recorder : Recorder size} {cause : Failure} :
    recorder.kineticEnergy = .error cause ↔
      recorder.live = .error cause := by
  cases live : recorder.live <;>
    simp [kineticEnergy, live, bind, Except.bind, pure, Except.pure]

theorem attach_eq_ok_iff
    {recorder attached : Recorder size} {context : Fin size} :
    recorder.attach context = .ok attached ↔
      recorder.refusesBind = false ∧
        attached = { recorder with attachment := some context } := by
  unfold attach
  cases recorder.refusesBind with
  | false => simp [eq_comm]
  | true => simp

theorem adjust_eq_ok_iff
    {recorder changed : Recorder size} {adjustment : Adjustment} :
    recorder.adjust adjustment = .ok changed ↔
      ¬ adjustment.number ≤ 0.0 ∧ changed = recorder.adjusted adjustment := by
  rw [adjust]
  split
  · simp [*]
  · simp [*, eq_comm]

end Recorder

namespace Dynamics

variable {size : Nat}

theorem system_eq_error_iff
    {dynamics : Dynamics size} {cause : Failure} :
    dynamics.system = .error cause ↔
      dynamics.attachment = none ∧ cause = .unbound := by
  unfold system
  cases dynamics.attachment <;> simp [eq_comm]

theorem attachment_of_system
    {dynamics : Dynamics size} {context : Fin size}
    (attached : dynamics.system = .ok context) :
    dynamics.attachment = some context := by
  unfold Dynamics.system at attached
  split at attached
  · cases attached
  · cases attached
    assumption

theorem step_eq_ok_iff
    {dynamics : Dynamics size} {scheme : Scheme} {steps : Count}
    {systems : Contexts .particles size}
    {result : Dynamics size × Contexts .particles size} :
    dynamics.step scheme steps systems = .ok result ↔
      ∃ context : Fin size,
        dynamics.system = .ok context ∧
          result =
            ({ dynamics with stepsTaken := dynamics.stepsTaken + steps },
              systems.set context
                (dynamics.moved scheme steps (systems.get context))
                context.isLt) := by
  cases system : dynamics.system with
  | error cause =>
      simp [step, system, bind, Except.bind]
  | ok context =>
      simp only [step, system, bind, Except.bind, pure, Except.pure,
        Except.ok.injEq, exists_eq_left']
      exact eq_comm

theorem step_eq_error_iff
    {dynamics : Dynamics size} {scheme : Scheme} {steps : Count}
    {systems : Contexts .particles size} {cause : Failure} :
    dynamics.step scheme steps systems = .error cause ↔
      dynamics.system = .error cause := by
  cases system : dynamics.system <;>
    simp [step, system, bind, Except.bind, pure, Except.pure]

theorem kineticEnergy_eq_error_iff
    {dynamics : Dynamics size} {systems : Contexts .particles size}
    {cause : Failure} :
    dynamics.kineticEnergy systems = .error cause ↔
      dynamics.system = .error cause := by
  cases system : dynamics.system <;>
    simp [kineticEnergy, system, bind, Except.bind, pure, Except.pure]

theorem attach_eq_ok_iff
    {dynamics attached : Dynamics size} {context : Fin size}
    {system : Particles Float} :
    dynamics.attach context system = .ok attached ↔
      system.positions.isEmpty = false ∧
        attached = { dynamics with attachment := some context } := by
  unfold attach
  cases system.positions.isEmpty with
  | false => simp [eq_comm]
  | true => simp

theorem adjust_eq_ok
    {dynamics changed : Dynamics size} {adjustment : Adjustment}
    (accepted : dynamics.adjust adjustment = .ok changed) :
    ∃ number, changed = dynamics.adjusted adjustment number := by
  rw [adjust] at accepted
  cases allowed : checked adjustment with
  | error cause =>
      rw [allowed] at accepted
      cases accepted
  | ok number =>
      rw [allowed] at accepted
      cases accepted
      exact ⟨number, rfl⟩

end Dynamics

namespace Member

theorem ofRecorder_eq_ok_iff {α β : Type}
    {result : α → β} {answer : Except Recorder.Failure α} {value : β} :
    ofRecorder result answer = .ok value ↔
      ∃ inner, answer = .ok inner ∧ result inner = value := by
  cases answer <;> simp [ofRecorder]

theorem ofRecorder_eq_error_iff {α β : Type}
    {result : α → β} {answer : Except Recorder.Failure α} {cause : Failure} :
    ofRecorder result answer = .error cause ↔
      ∃ inner, answer = .error inner ∧ cause = .recorder inner := by
  cases answer <;> simp [ofRecorder, eq_comm]

theorem ofDynamics_eq_ok_iff {α β : Type}
    {result : α → β} {answer : Except Dynamics.Failure α} {value : β} :
    ofDynamics result answer = .ok value ↔
      ∃ inner, answer = .ok inner ∧ result inner = value := by
  cases answer <;> simp [ofDynamics]

theorem ofDynamics_eq_error_iff {α β : Type}
    {result : α → β} {answer : Except Dynamics.Failure α} {cause : Failure} :
    ofDynamics result answer = .error cause ↔
      ∃ inner, answer = .error inner ∧ cause = .dynamics inner := by
  cases answer <;> simp [ofDynamics, eq_comm]

variable {size : Nat}

theorem step_recorder_eq_error_iff
    {recorder : Recorder size} {steps : Count}
    {contexts : Contexts .clock size} {cause : Failure} :
    (Member.recorder recorder).step steps contexts = .error cause ↔
      ∃ inner, recorder.live = .error inner ∧ cause = .recorder inner := by
  rw [step, ofRecorder_eq_error_iff]
  exact exists_congr fun inner =>
    and_congr_left fun _ => Recorder.step_eq_error_iff

theorem step_dynamics_eq_error_iff
    {scheme : Dynamics.Scheme} {dynamics : Dynamics size} {steps : Count}
    {contexts : Contexts .particles size} {cause : Failure} :
    (Member.dynamics scheme dynamics).step steps contexts = .error cause ↔
      ∃ inner, dynamics.system = .error inner ∧ cause = .dynamics inner := by
  rw [step, ofDynamics_eq_error_iff]
  exact exists_congr fun inner =>
    and_congr_left fun _ => Dynamics.step_eq_error_iff

end Member

/-! ## What calls change of a member -/

/-- A recorder as it was before it has counted any steps. -/
def Recorder.uncounted {size : Nat} (recorder : Recorder size) : Recorder size :=
  { recorder with stepsTaken := 0 }

namespace Member

variable {setting : Setting} {size : Nat}

/-- A member as it was before it has counted any steps. -/
def uncounted : Member setting size → Member setting size
  | .recorder member => .recorder member.uncounted
  | .dynamics scheme member => .dynamics scheme { member with stepsTaken := 0 }
  | .idle serial => .idle serial

/-- A member without its step size and its tolerance. -/
def unadjusted : Member setting size → Member setting size
  | .recorder member =>
      .recorder { member with stepSize := .ofPicoseconds 0, tolerance := 0 }
  | .dynamics scheme member =>
      .dynamics scheme { member with stepSize := 0, tolerance := 0 }
  | .idle serial => .idle serial

/-- The member attached to a context; an idle member is not attached to any. -/
def attached (context : Fin size) : Member setting size → Member setting size
  | .recorder member => .recorder { member with attachment := some context }
  | .dynamics scheme member =>
      .dynamics scheme { member with attachment := some context }
  | .idle serial => .idle serial

/-- Steps change nothing about a member but its counter. -/
theorem uncounted_of_step
    {member moved : Member setting size} {steps : Count}
    {contexts after : Contexts setting size}
    (stepped : member.step steps contexts = .ok (moved, after)) :
    moved.uncounted = member.uncounted := by
  cases member with
  | recorder recorder =>
      rcases ofRecorder_eq_ok_iff.mp stepped with ⟨result, taken, equality⟩
      rcases Recorder.step_eq_ok_iff.mp taken with ⟨context, -, rfl⟩
      cases equality
      rfl
  | dynamics scheme dynamics =>
      rcases ofDynamics_eq_ok_iff.mp stepped with ⟨result, taken, equality⟩
      rcases Dynamics.step_eq_ok_iff.mp taken with ⟨context, -, rfl⟩
      cases equality
      rfl
  | idle serial =>
      cases stepped
      rfl

/-- What does not look at the counter cannot tell a member before steps from the one after. -/
theorem view_of_step {View : Type}
    {member moved : Member setting size} {steps : Count}
    {contexts after : Contexts setting size}
    (stepped : member.step steps contexts = .ok (moved, after))
    {view : Member setting size → View}
    (blind : ∀ member, view (uncounted member) = view member) :
    view moved = view member := by
  rw [← blind moved, uncounted_of_step stepped, blind member]

/-- An adjustment changes nothing about a member but its parameters. -/
theorem unadjusted_of_adjust
    {member changed : Member setting size} {adjustment : Adjustment}
    (accepted : member.adjust adjustment = .ok changed) :
    changed.unadjusted = member.unadjusted := by
  cases member with
  | recorder recorder =>
      rcases ofRecorder_eq_ok_iff.mp accepted with ⟨inner, granted, rfl⟩
      rcases Recorder.adjust_eq_ok_iff.mp granted with ⟨-, rfl⟩
      cases adjustment <;> rfl
  | dynamics scheme dynamics =>
      rcases ofDynamics_eq_ok_iff.mp accepted with ⟨inner, granted, rfl⟩
      rcases Dynamics.adjust_eq_ok granted with ⟨number, rfl⟩
      cases adjustment <;> rfl
  | idle serial =>
      cases accepted
      rfl

/-- What does not look at the parameters cannot tell a member from an adjusted one. -/
theorem view_of_adjust {View : Type}
    {member changed : Member setting size} {adjustment : Adjustment}
    (accepted : member.adjust adjustment = .ok changed)
    {view : Member setting size → View}
    (blind : ∀ member, view (unadjusted member) = view member) :
    view changed = view member := by
  rw [← blind changed, unadjusted_of_adjust accepted, blind member]

/-- A member that lets itself be attached changes nothing but its attachment. -/
theorem eq_attached_of_attach
    {member new : Member setting size} {context : Fin size}
    {contexts : Contexts setting size}
    (accepted : member.attach context contexts = .ok new) :
    new = member.attached context := by
  cases member with
  | recorder recorder =>
      rcases ofRecorder_eq_ok_iff.mp accepted with ⟨inner, granted, rfl⟩
      rcases Recorder.attach_eq_ok_iff.mp granted with ⟨-, rfl⟩
      rfl
  | dynamics scheme dynamics =>
      rcases ofDynamics_eq_ok_iff.mp accepted with ⟨inner, granted, rfl⟩
      rcases Dynamics.attach_eq_ok_iff.mp granted with ⟨-, rfl⟩
      rfl
  | idle serial =>
      cases accepted
      rfl

end Member

/-! ## Changes past the compound -/

namespace Changes

variable {setting : Setting} {size : Nat}

theorem ofRecorder_attach_eq_ok
    {recorder changed : Recorder size} {context : Fin size} {notes : List Entry}
    (made : ofRecorder recorder (.attach context) = .ok (changed, notes)) :
    changed = { recorder with attachment := some context } ∧
      notes = [recorder.entry .bind] := by
  rw [ofRecorder] at made
  cases granted : recorder.attach context with
  | error cause =>
      rw [granted] at made
      cases made
  | ok attached =>
      rw [granted] at made
      cases made
      rcases Recorder.attach_eq_ok_iff.mp granted with ⟨-, rfl⟩
      exact ⟨rfl, rfl⟩

theorem ofVerlet_eq_ok
    {contexts : Contexts .particles size} {dynamics changed : Dynamics size}
    {change : VerletChange size} {notes : List Entry}
    (made : ofVerlet contexts dynamics change = .ok (changed, notes)) :
    (∃ attachment, changed = { dynamics with attachment := attachment }) ∧
      notes = [] := by
  cases change with
  | attach context =>
      rcases map_eq_ok_iff.mp made with ⟨attached, granted, equality⟩
      rcases Dynamics.attach_eq_ok_iff.mp granted with ⟨-, rfl⟩
      cases equality
      exact ⟨⟨some context, rfl⟩, rfl⟩
  | detach =>
      cases made
      exact ⟨⟨none, rfl⟩, rfl⟩

theorem ofLangevin_setFriction_eq_ok
    {contexts : Contexts .particles size}
    {pair changed : Float × Dynamics size} {friction : Float}
    {notes : List Entry}
    (made :
      ofLangevin contexts pair (.setFriction friction) = .ok (changed, notes)) :
    changed.2 = pair.2 ∧ notes = [] := by
  rcases map_eq_ok_iff.mp made with ⟨accepted, -, equality⟩
  cases equality
  exact ⟨rfl, rfl⟩

theorem ofLangevin_eq_ok
    {contexts : Contexts .particles size}
    {pair changed : Float × Dynamics size} {change : LangevinChange size}
    {notes : List Entry}
    (made : ofLangevin contexts pair change = .ok (changed, notes)) :
    (∃ attachment, changed.2 = { pair.2 with attachment := attachment }) ∧
      notes = [] := by
  cases change with
  | setFriction friction =>
      rcases ofLangevin_setFriction_eq_ok made with ⟨same, silent⟩
      exact ⟨⟨pair.2.attachment, same⟩, silent⟩
  | attach context =>
      rcases map_eq_ok_iff.mp made with ⟨attached, granted, equality⟩
      rcases Dynamics.attach_eq_ok_iff.mp granted with ⟨-, rfl⟩
      cases equality
      exact ⟨⟨some context, rfl⟩, rfl⟩
  | detach =>
      cases made
      exact ⟨⟨none, rfl⟩, rfl⟩

/-- A relation that single changes have, one after another, changes made in turn have too. -/
theorem inTurn_relates {α Change Cause : Type}
    {make : α → Change → Except Cause (α × List Entry)}
    (relation : α → List Entry → α → Prop)
    (refl : ∀ value, relation value [] value)
    (trans :
      ∀ {first second third earlier later},
        relation first earlier second → relation second later third →
          relation first (earlier ++ later) third)
    (changes : List Change)
    (each :
      ∀ change ∈ changes, ∀ value changed notes,
        make value change = .ok (changed, notes) →
          relation value notes changed)
    (value : α) :
    relation value (inTurn make changes value).2.2
      (inTurn make changes value).2.1 := by
  induction changes generalizing value with
  | nil => exact refl value
  | cons change changes induction =>
      rw [inTurn]
      cases made : make value change with
      | error cause => exact refl value
      | ok result =>
          have later :=
            induction
              (fun next member => each next (List.mem_cons_of_mem _ member))
              result.1
          exact
            trans (each change List.mem_cons_self value _ _ made) later

end Changes

end Stepping
