import Stepping.Proofs.Member.Calls

/-!
# Tags of members

A tag holds what a member is known by, its number, its kind and the name under
which it notes, together with the context that it is attached to.  A member's
steps and parameters are not part of its tag.

Only attaching and detaching change a tag; steps, new parameters and the changes
that a caller may make past the compound leave it as it is.  What a member notes
of a call depends on its tag alone, and so does whether it complains that it is
not attached.
-/

namespace Stepping

/-- What a member is known by, and the context that it is attached to. -/
structure Tag (size : Nat) where
  serial : Nat
  kind : Kind
  /-- The name under which the member notes calls, if it notes any. -/
  name : Option String
  attachment : Option (Fin size)
deriving DecidableEq

namespace Tag

variable {size : Nat}

/-- The tag after attaching; an idle member is never attached. -/
def attached (context : Fin size) (tag : Tag size) : Tag size :=
  if tag.kind = .idle then tag else { tag with attachment := some context }

/-- The tag after detaching. -/
def detached (tag : Tag size) : Tag size :=
  { tag with attachment := none }

/-- What a member with the tag notes of a call. -/
def notes (call : Call) (tag : Tag size) : List Entry :=
  (tag.name.map fun name => ⟨tag.serial, name, call⟩).toList

@[simp]
theorem serial_attached (context : Fin size) (tag : Tag size) :
    (tag.attached context).serial = tag.serial := by
  unfold attached
  split <;> rfl

@[simp]
theorem kind_attached (context : Fin size) (tag : Tag size) :
    (tag.attached context).kind = tag.kind := by
  unfold attached
  split <;> rfl

@[simp]
theorem name_attached (context : Fin size) (tag : Tag size) :
    (tag.attached context).name = tag.name := by
  unfold attached
  split <;> rfl

theorem attachment_attached {context : Fin size} {tag : Tag size}
    (active : tag.kind ≠ .idle) :
    (tag.attached context).attachment = some context := by
  simp [attached, active]

@[simp]
theorem detached_attached (context : Fin size) (tag : Tag size) :
    (tag.attached context).detached = tag.detached := by
  unfold attached
  split <;> rfl

@[simp]
theorem notes_attached
    (call : Call) (context : Fin size) (tag : Tag size) :
    (tag.attached context).notes call = tag.notes call := by
  simp [notes]

@[simp]
theorem serial_detached (tag : Tag size) :
    tag.detached.serial = tag.serial :=
  rfl

@[simp]
theorem kind_detached (tag : Tag size) :
    tag.detached.kind = tag.kind :=
  rfl

@[simp]
theorem name_detached (tag : Tag size) :
    tag.detached.name = tag.name :=
  rfl

@[simp]
theorem attachment_detached (tag : Tag size) :
    tag.detached.attachment = none :=
  rfl

@[simp]
theorem notes_detached (call : Call) (tag : Tag size) :
    tag.detached.notes call = tag.notes call :=
  rfl

theorem detached_eq {tag : Tag size} (free : tag.attachment = none) :
    tag.detached = tag := by
  cases tag
  cases free
  rfl

end Tag

namespace Member

variable {setting : Setting} {size : Nat}

/-- The name under which a member notes calls; only recorders do. -/
def name : Member setting size → Option String
  | .recorder member => some member.name
  | _ => none

/-- The tag of a member. -/
def tag (member : Member setting size) : Tag size where
  serial := member.serial
  kind := member.kind
  name := member.name
  attachment := member.attachment

/-- An idle member is never attached. -/
theorem attachment_of_idle
    {member : Member setting size} (idle : member.kind = .idle) :
    member.attachment = none := by
  cases member with
  | recorder recorder => cases idle
  | dynamics scheme dynamics => cases scheme <;> cases idle
  | idle serial => rfl

/-- An idle member has no name. -/
theorem name_of_idle
    {member : Member setting size} (idle : member.kind = .idle) :
    member.name = none := by
  cases member with
  | recorder recorder => cases idle
  | dynamics scheme dynamics => rfl
  | idle serial => rfl

theorem notes_eq (call : Call) (member : Member setting size) :
    member.notes call = member.tag.notes call := by
  cases member <;> rfl

/-! ## Calls that keep the tag -/

theorem tag_uncounted (member : Member setting size) :
    member.uncounted.tag = member.tag := by
  cases member with
  | dynamics scheme dynamics => cases scheme <;> rfl
  | _ => rfl

theorem tag_of_step
    {member moved : Member setting size} {steps : Count}
    {contexts after : Contexts setting size}
    (stepped : member.step steps contexts = .ok (moved, after)) :
    moved.tag = member.tag :=
  view_of_step stepped tag_uncounted

theorem tag_of_adjust
    {member changed : Member setting size} {adjustment : Adjustment}
    (accepted : member.adjust adjustment = .ok changed) :
    changed.tag = member.tag := by
  refine view_of_adjust accepted fun member => ?_
  cases member with
  | dynamics scheme dynamics => cases scheme <;> rfl
  | _ => rfl

/-! ## Attaching and detaching -/

theorem tag_of_attach
    {member new : Member setting size} {context : Fin size}
    {contexts : Contexts setting size}
    (accepted : member.attach context contexts = .ok new) :
    new.tag = member.tag.attached context := by
  rw [eq_attached_of_attach accepted]
  cases member with
  | dynamics scheme dynamics => cases scheme <;> rfl
  | _ => rfl

@[simp]
theorem tag_detach (member : Member setting size) :
    member.detach.tag = member.tag.detached := by
  cases member with
  | recorder recorder => rfl
  | dynamics scheme dynamics => cases scheme <;> rfl
  | idle serial => rfl

/-! ## Members that are not attached -/

/-- A failure by which a member says that it is not attached. -/
def Failure.IsUnbound : Failure → Prop
  | .recorder (.unbound _) => True
  | .dynamics .unbound => True
  | _ => False

/-- A member that can be attached steps into this failure just if it is not attached. -/
theorem step_isUnbound_iff
    {member : Member setting size} (active : member.kind ≠ .idle)
    (steps : Count) (contexts : Contexts setting size) :
    (∃ cause, member.step steps contexts = .error cause ∧ cause.IsUnbound) ↔
      member.attachment = none := by
  cases member with
  | recorder recorder =>
      constructor
      · rintro ⟨cause, failed, unbound⟩
        obtain ⟨inner, notLive, rfl⟩ := step_recorder_eq_error_iff.mp failed
        cases inner with
        | unbound name => exact (Recorder.live_eq_unbound_iff.mp notLive).1
        | _ => exact unbound.elim
      · intro free
        have notLive : recorder.live = .error (.unbound recorder.name) :=
          Recorder.live_eq_unbound_iff.mpr ⟨free, rfl⟩
        exact
          ⟨_, step_recorder_eq_error_iff.mpr ⟨_, notLive, rfl⟩, trivial⟩
  | dynamics scheme dynamics =>
      constructor
      · rintro ⟨cause, failed, -⟩
        obtain ⟨inner, noSystem, -⟩ := step_dynamics_eq_error_iff.mp failed
        exact (Dynamics.system_eq_error_iff.mp noSystem).1
      · intro free
        have noSystem : dynamics.system = .error .unbound :=
          Dynamics.system_eq_error_iff.mpr ⟨free, rfl⟩
        exact
          ⟨_, step_dynamics_eq_error_iff.mpr ⟨_, noSystem, rfl⟩, trivial⟩
  | idle serial => exact (active rfl).elim

/-- A member that has taken steps is attached, if it can be. -/
theorem attachment_ne_none_of_step
    {member moved : Member setting size} (active : member.kind ≠ .idle)
    {steps : Count} {contexts after : Contexts setting size}
    (stepped : member.step steps contexts = .ok (moved, after)) :
    member.attachment ≠ none := by
  intro free
  rcases (step_isUnbound_iff active steps contexts).mpr free with
    ⟨cause, failed, -⟩
  rw [failed] at stepped
  cases stepped

/-- A member that can be attached fails to report its energy just as it fails to step. -/
theorem kineticEnergy_eq_error_iff
    {member : Member setting size} (active : member.kind ≠ .idle)
    (steps : Count) (contexts : Contexts setting size) {cause : Failure} :
    member.kineticEnergy contexts = .error cause ↔
      member.step steps contexts = .error cause := by
  cases member with
  | recorder recorder =>
      rw [step_recorder_eq_error_iff, kineticEnergy, ofRecorder_eq_error_iff]
      simp only [Recorder.kineticEnergy_eq_error_iff]
  | dynamics scheme dynamics =>
      rw [step_dynamics_eq_error_iff, kineticEnergy, ofDynamics_eq_error_iff]
      simp only [Dynamics.kineticEnergy_eq_error_iff]
  | idle serial => exact (active rfl).elim

/-- An idle member never says that it is not attached. -/
theorem not_isUnbound_of_idle
    {member : Member setting size} (idle : member.kind = .idle)
    (contexts : Contexts setting size) :
    (∀ steps cause, member.step steps contexts = .error cause → ¬ cause.IsUnbound) ∧
      ∀ cause, member.kineticEnergy contexts = .error cause → ¬ cause.IsUnbound := by
  cases member with
  | recorder recorder => cases idle
  | dynamics scheme dynamics => cases scheme <;> cases idle
  | idle serial =>
      constructor
      · intro steps cause failed
        cases failed
      · intro cause failed
        cases failed
        exact id

end Member

/-! ## Changes past the compound -/

/-- Whether a change to a recorder leaves its attachment alone. -/
def RecorderChange.OfParameter {size : Nat} : RecorderChange size → Prop
  | .attach _ => False
  | .detach => False
  | _ => True

/-- Whether a change to Langevin dynamics leaves their attachment alone. -/
def LangevinChange.OfParameter {size : Nat} : LangevinChange size → Prop
  | .setFriction _ => True
  | _ => False

namespace Changes

variable {setting : Setting} {size : Nat}

/-- Changes of parameters only, none of which attaches or detaches a member. -/
def OfParameters : Changes size → Prop
  | .recorder changes => ∀ change ∈ changes, change.OfParameter
  | .verlet changes => changes = []
  | .langevin changes => ∀ change ∈ changes, change.OfParameter
  | .idle => True
  | .foreign => True

/--
What no single change affects, and what no single change notes, is not affected
and not noted by changes made in turn.
-/
theorem inTurn_keeps {α β Change Cause : Type}
    {make : α → Change → Except Cause (α × List Entry)}
    (view : α → β) (changes : List Change)
    (each :
      ∀ change ∈ changes, ∀ value changed notes,
        make value change = .ok (changed, notes) →
          view changed = view value ∧ notes = [])
    (value : α) :
    view (inTurn make changes value).2.1 = view value ∧
      (inTurn make changes value).2.2 = [] :=
  inTurn_relates (fun old notes new => view new = view old ∧ notes = [])
    (fun _ => ⟨rfl, rfl⟩)
    (fun first later =>
      ⟨later.1.trans first.1, List.append_eq_nil_iff.mpr ⟨first.2, later.2⟩⟩)
    changes each value

/-- Changes of parameters keep the tag and note nothing. -/
theorem tag_of_make
    {changes : Changes size} (parameters : changes.OfParameters)
    {contexts : Contexts setting size} {member changed : Member setting size}
    {answer : Except Member.Failure Unit} {notes : List Entry}
    (made : changes.make contexts member = some (answer, changed, notes)) :
    changed.tag = member.tag ∧ notes = [] := by
  cases member with
  | recorder recorder =>
      cases changes with
      | recorder changes =>
          cases made
          refine
            inTurn_keeps (fun recorder => (Member.recorder recorder).tag)
              changes ?_ recorder
          intro change member value changed notes accepted
          have parameter := parameters change member
          cases change with
          | attach context => exact parameter.elim
          | detach => exact parameter.elim
          | _ =>
              cases accepted
              exact ⟨rfl, rfl⟩
      | _ => cases made
  | dynamics scheme dynamics =>
      cases scheme with
      | verlet =>
          cases changes with
          | verlet changes =>
              cases parameters
              cases made
              exact ⟨rfl, rfl⟩
          | _ => cases made
      | langevin friction =>
          cases changes with
          | langevin changes =>
              cases made
              refine
                inTurn_keeps
                  (fun pair : Float × Dynamics size =>
                    (Member.dynamics (.langevin pair.1) pair.2).tag)
                  changes ?_ (friction, dynamics)
              intro change member value changed notes accepted
              have parameter := parameters change member
              cases change with
              | setFriction friction =>
                  rcases changed with ⟨new, dynamics⟩
                  rcases ofLangevin_setFriction_eq_ok accepted with ⟨rfl, rfl⟩
                  exact ⟨rfl, rfl⟩
              | attach context => exact parameter.elim
              | detach => exact parameter.elim
          | _ => cases made
  | idle serial =>
      cases changes with
      | idle =>
          cases made
          exact ⟨rfl, rfl⟩
      | _ => cases made

end Changes

end Stepping
