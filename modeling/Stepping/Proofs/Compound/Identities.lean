import Stepping.Proofs.Compound.Attaching
import Stepping.Proofs.Member.Identity

/-!
# Identities of a compound's members

A compound lists its members in the order in which they were added.  Whatever is
done with the members that it has, the list of their identities stays the same:
steps and parameters leave a member the one that it is, and so do attaching and
detaching, however far a bind comes.

Where a compound blames a member, that member, as it is, fails for this cause.
-/

namespace Stepping

variable {setting : Setting} {size : Nat}

/-- A call on a member, as it is, fails for this cause. -/
inductive Member.Complains (contexts : Contexts setting size)
    (member : Member setting size) (cause : Failure) : Prop where
  | attach (context : Fin size)
      (failed : member.attach context contexts = .error cause)
  | step (steps : Count) (failed : member.step steps contexts = .error cause)
  | energy (failed : member.kineticEnergy contexts = .error cause)
  | adjust (adjustment : Adjustment)
      (failed : member.adjust adjustment = .error cause)

namespace Compound

/-- The identities of the members, in order. -/
def identities (compound : Compound setting size) : List Identity :=
  compound.members.map Member.identity

theorem length_identities (compound : Compound setting size) :
    compound.identities.length = compound.members.length :=
  List.length_map Member.identity

theorem identities_eq_some_iff
    {compound : Compound setting size} {index : Nat} {identity : Identity} :
    compound.identities[index]? = some identity ↔
      ∃ member, compound.members[index]? = some member ∧
        member.identity = identity := by
  rw [identities, List.getElem?_map, Option.map_eq_some_iff]

/-- The serial numbers of the members, in order. -/
def serials (compound : Compound setting size) : List Nat :=
  compound.identities.map Identity.serial

theorem serials_eq (compound : Compound setting size) :
    compound.serials = compound.members.map Member.serial := by
  rw [serials, identities, List.map_map]
  rfl

theorem mem_serials_iff {compound : Compound setting size} {number : Nat} :
    number ∈ compound.serials ↔
      ∃ member ∈ compound.members, member.serial = number := by
  rw [serials_eq, List.mem_map]

theorem Quiet.identities_eq
    {old new : Compound setting size} {journal : List Entry}
    (quiet : old.Quiet journal new) : new.identities = old.identities := by
  have tags : new.members.map Member.tag = old.members.map Member.tag :=
    quiet.tags_eq
  have same := congrArg (List.map Tag.identity) tags
  rw [List.map_map, List.map_map] at same
  exact same

/-- A member in the place of one of the same identity leaves all identities. -/
theorem identities_put
    {compound : Compound setting size} {index : Nat}
    {old new : Member setting size}
    (found : compound.members[index]? = some old)
    (same : new.identity = old.identity) :
    (compound.put index new).identities = compound.identities :=
  map_members_put Member.identity found same

theorem identities_release (compound : Compound setting size) :
    compound.release.1.identities = compound.identities :=
  map_members_release Member.identity_detach compound

/-- A bind leaves all identities, whether or not it succeeds. -/
theorem identities_bind
    (context : Fin size) (contexts : Contexts setting size)
    (compound : Compound setting size) :
    (compound.bind context contexts).2.1.identities = compound.identities :=
  map_members_bind Member.identity_detach context contexts compound

/-! ## Whom a compound blames -/

/-- What fails for want of an active member, or since that member fails, blames that member. -/
theorem found_of_blameActive {α β : Type}
    {compound : Compound setting size}
    {call : Member setting size → Except Member.Failure α}
    {result : α → β} {index : Nat} {cause : Member.Failure}
    (failed :
      (do
        let member ← compound.activeMember
        let value ← compound.blameActive (call member)
        return result value) = Except.error (.member index cause)) :
    ∃ member, compound.members[index]? = some member ∧
      call member = .error cause := by
  rcases bind_eq_error_iff.mp failed with absent | ⟨member, found, failed⟩
  · rw [activeMember] at absent
    split at absent <;> cases absent
  · rcases bind_eq_error_iff.mp failed with failed | ⟨value, -, failed⟩
    · rcases blameActive_eq_error_iff.mp failed with ⟨inner, failed, blamed⟩
      cases blamed
      exact ⟨member, activeMember_eq_ok_iff.mp found, failed⟩
    · cases failed

theorem complains_of_adjust
    {compound : Compound setting size} {adjustment : Adjustment} {index : Nat}
    {cause : Member.Failure}
    (failed : compound.adjust adjustment = .error (.member index cause))
    (contexts : Contexts setting size) :
    ∃ member, compound.members[index]? = some member ∧
      member.Complains contexts cause := by
  rcases found_of_blameActive failed with ⟨member, found, failed⟩
  exact ⟨member, found, .adjust adjustment failed⟩

theorem complains_of_step
    {compound : Compound setting size} {steps : Count}
    {contexts : Contexts setting size} {index : Nat} {cause : Member.Failure}
    (failed :
      (compound.step steps contexts).answer = .error (.member index cause)) :
    ∃ member, compound.members[index]? = some member ∧
      member.Complains contexts cause := by
  rcases step_of_error failed with ⟨-, -, -, blamed⟩
  rcases blamed index cause rfl with ⟨-, -, member, found, failed⟩
  exact ⟨member, found, .step steps failed⟩

theorem complains_of_kineticEnergy
    {compound : Compound setting size} {contexts : Contexts setting size}
    {index : Nat} {cause : Member.Failure}
    (failed : compound.kineticEnergy contexts = .error (.member index cause)) :
    ∃ member, compound.members[index]? = some member ∧
      member.Complains contexts cause := by
  rcases kineticEnergy_of_error failed with ⟨-, -, member, found, failed⟩
  exact ⟨member, found, .energy failed⟩

theorem complains_of_bind
    {compound : Compound setting size} {context : Fin size}
    {contexts : Contexts setting size} {index : Nat} {cause : Member.Failure}
    (failed :
      (compound.bind context contexts).1 = .error (.member index cause)) :
    ∃ member, compound.members[index]? = some member ∧
      member.Complains contexts cause := by
  cases first : compound.firstRefusal context contexts with
  | none =>
      rw [bind_of_accepting (accepting_of_firstRefusal first)] at failed
      cases failed
  | some place =>
      rcases refusal_of_firstRefusal first with
        ⟨member, other, found, refuses, accepting⟩
      rw [bind_of_first_refusal found refuses accepting] at failed
      cases failed
      exact ⟨member, found, .attach context (Member.attach_of_refusal refuses)⟩

end Compound

end Stepping
