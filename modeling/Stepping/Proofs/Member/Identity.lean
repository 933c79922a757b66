import Stepping.Proofs.Member.Tag

/-!
# Identities of members

A member is the same member for as long as it has its number, its kind and its
name.  No call on it, and no change made to it past its compound, gives it
another one.  Nor do other parameters and changes touch its step counter, and all
that is noted of changes is that the member was attached or detached.
-/

namespace Stepping

/-- What makes a member the one that it is. -/
structure Identity where
  serial : Nat
  kind : Kind
  /-- The name under which the member notes calls, if it notes any. -/
  name : Option String
deriving DecidableEq

/-- The identity of a member with a tag. -/
def Tag.identity {size : Nat} (tag : Tag size) : Identity :=
  ⟨tag.serial, tag.kind, tag.name⟩

namespace Member

variable {setting : Setting} {size : Nat}

/-- The identity of a member. -/
def identity (member : Member setting size) : Identity :=
  member.tag.identity

/-- The number of steps that a member has counted; an idle member counts none. -/
def counter : Member setting size → Count
  | .recorder member => member.stepsTaken
  | .dynamics _ member => member.stepsTaken
  | .idle _ => 0

theorem identity_detach (member : Member setting size) :
    member.detach.identity = member.identity := by
  rw [identity, tag_detach]
  rfl

theorem identity_of_step
    {member moved : Member setting size} {steps : Count}
    {contexts after : Contexts setting size}
    (stepped : member.step steps contexts = .ok (moved, after)) :
    moved.identity = member.identity :=
  congrArg Tag.identity (tag_of_step stepped)

/-! ## Other parameters -/

/-- One member comes of another by an adjustment. -/
def Adjusted (old new : Member setting size) : Prop :=
  ∃ adjustment, old.adjust adjustment = .ok new

theorem Adjusted.identity_eq
    {old new : Member setting size} (adjusted : old.Adjusted new) :
    new.identity = old.identity := by
  rcases adjusted with ⟨adjustment, accepted⟩
  exact congrArg Tag.identity (tag_of_adjust accepted)

/-- What does not look at the parameters cannot tell the two members apart. -/
theorem Adjusted.view_eq {View : Type}
    {old new : Member setting size} (adjusted : old.Adjusted new)
    {view : Member setting size → View}
    (blind : ∀ member, view (unadjusted member) = view member) :
    view new = view old := by
  rcases adjusted with ⟨adjustment, accepted⟩
  exact view_of_adjust accepted blind

/-- A member with other parameters has counted as many steps. -/
theorem Adjusted.counter_eq
    {old new : Member setting size} (adjusted : old.Adjusted new) :
    new.counter = old.counter :=
  adjusted.view_eq fun member => by cases member <;> rfl

/-! ## Changes past the compound -/

/-- One member comes of another by changes of which this was noted. -/
structure Changed (old : Member setting size) (notes : List Entry)
    (new : Member setting size) : Prop where
  identity_eq : new.identity = old.identity
  counter_eq : new.counter = old.counter
  noted :
    ∀ entry ∈ notes,
      entry.serial = old.serial ∧ ∀ steps, entry.call ≠ .step steps

theorem Changed.refl (member : Member setting size) : member.Changed [] member where
  identity_eq := rfl
  counter_eq := rfl
  noted := List.forall_mem_nil _

theorem Changed.trans
    {first second third : Member setting size} {earlier later : List Entry}
    (left : first.Changed earlier second)
    (right : second.Changed later third) :
    first.Changed (earlier ++ later) third where
  identity_eq := right.identity_eq.trans left.identity_eq
  counter_eq := right.counter_eq.trans left.counter_eq
  noted := by
    intro entry noted
    rcases List.mem_append.mp noted with early | late
    · exact left.noted entry early
    · have same : second.serial = first.serial :=
        congrArg Identity.serial left.identity_eq
      rw [← same]
      exact right.noted entry late

/-- A note of the member itself, by which it has taken no steps. -/
theorem changed_of_noted
    {old new : Member setting size} {entry : Entry}
    (identity_eq : new.identity = old.identity)
    (counter_eq : new.counter = old.counter)
    (own : entry.serial = old.serial)
    (other : ∀ steps, entry.call ≠ .step steps) :
    old.Changed [entry] new where
  identity_eq := identity_eq
  counter_eq := counter_eq
  noted := by
    intro noted found
    rw [List.mem_singleton.mp found]
    exact ⟨own, other⟩

end Member

namespace Changes

variable {setting : Setting} {size : Nat}

theorem changed_of_recorder
    {recorder changed : Recorder size} {change : RecorderChange size}
    {notes : List Entry}
    (made : ofRecorder recorder change = .ok (changed, notes)) :
    (Member.recorder recorder).Changed notes (.recorder changed) := by
  cases change with
  | attach context =>
      rcases ofRecorder_attach_eq_ok made with ⟨rfl, rfl⟩
      exact Member.changed_of_noted rfl rfl rfl fun _ => Call.noConfusion
  | detach =>
      cases made
      exact Member.changed_of_noted rfl rfl rfl fun _ => Call.noConfusion
  | _ =>
      cases made
      exact ⟨rfl, rfl, List.forall_mem_nil _⟩

theorem changed_of_verlet
    {contexts : Contexts .particles size} {dynamics changed : Dynamics size}
    {change : VerletChange size} {notes : List Entry}
    (made : ofVerlet contexts dynamics change = .ok (changed, notes)) :
    (Member.dynamics .verlet dynamics).Changed notes
      (.dynamics .verlet changed) := by
  rcases ofVerlet_eq_ok made with ⟨⟨attachment, rfl⟩, rfl⟩
  exact ⟨rfl, rfl, List.forall_mem_nil _⟩

theorem changed_of_langevin
    {contexts : Contexts .particles size}
    {pair changed : Float × Dynamics size} {change : LangevinChange size}
    {notes : List Entry}
    (made : ofLangevin contexts pair change = .ok (changed, notes)) :
    (Member.dynamics (.langevin pair.1) pair.2).Changed notes
      (.dynamics (.langevin changed.1) changed.2) := by
  rcases changed with ⟨friction, dynamics⟩
  rcases ofLangevin_eq_ok made with ⟨⟨attachment, rfl⟩, rfl⟩
  exact ⟨rfl, rfl, List.forall_mem_nil _⟩

/-- Changes, whichever they are, leave a member's identity and its step counter. -/
theorem changed_of_make
    {changes : Changes size} {contexts : Contexts setting size}
    {member changed : Member setting size}
    {answer : Except Member.Failure Unit} {notes : List Entry}
    (made : changes.make contexts member = some (answer, changed, notes)) :
    member.Changed notes changed := by
  cases member with
  | recorder recorder =>
      cases changes with
      | recorder changes =>
          cases made
          exact
            inTurn_relates
              (fun old notes new =>
                (Member.recorder old).Changed notes (.recorder new))
              (fun old => .refl _) Member.Changed.trans changes
              (fun _ _ _ _ _ => changed_of_recorder) recorder
      | _ => cases made
  | dynamics scheme dynamics =>
      cases scheme with
      | verlet =>
          cases changes with
          | verlet changes =>
              cases made
              exact
                inTurn_relates
                  (fun old notes new =>
                    (Member.dynamics .verlet old).Changed notes
                      (.dynamics .verlet new))
                  (fun old => .refl _) Member.Changed.trans changes
                  (fun _ _ _ _ _ => changed_of_verlet) dynamics
          | _ => cases made
      | langevin friction =>
          cases changes with
          | langevin changes =>
              cases made
              exact
                inTurn_relates
                  (fun old notes new =>
                    (Member.dynamics (.langevin old.1) old.2).Changed notes
                      (.dynamics (.langevin new.1) new.2))
                  (fun old => .refl _) Member.Changed.trans changes
                  (fun _ _ _ _ _ => changed_of_langevin) (friction, dynamics)
          | _ => cases made
  | idle serial =>
      cases changes with
      | idle =>
          cases made
          exact .refl _
      | _ => cases made

end Changes

end Stepping
