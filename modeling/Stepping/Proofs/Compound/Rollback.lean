import Stepping.Proofs.Compound.Binding

/-!
# Binds that fail

A bind that fails has attached the members before the one that refuses, and
detaches them again.  Attaching and detaching change nothing but the attachment,
so members that were attached to nothing are then as they were.  A compound that
is tied therefore stands after a failed bind just as its release alone leaves it,
and what is noted beyond the release is that the members in front are attached
and detached, in order.
-/

namespace Stepping

variable {setting : Setting} {size : Nat}

namespace Member

@[simp]
theorem detach_attached (context : Fin size) (member : Member setting size) :
    (member.attached context).detach = member.detach := by
  cases member <;> rfl

theorem detach_of_attach
    {member new : Member setting size} {context : Fin size}
    {contexts : Contexts setting size}
    (accepted : member.attach context contexts = .ok new) :
    new.detach = member.detach := by
  rw [eq_attached_of_attach accepted, detach_attached]

/-- Whether a member lets itself be attached does not depend on its attachment. -/
theorem attach_detach
    (member : Member setting size) (context : Fin size)
    (contexts : Contexts setting size) :
    member.detach.attach context contexts = member.attach context contexts := by
  cases member <;> rfl

theorem detach_of_free
    {member : Member setting size} (free : member.attachment = none) :
    member.detach = member := by
  cases member with
  | recorder recorder =>
      cases recorder
      cases free
      rfl
  | dynamics scheme dynamics =>
      cases dynamics
      cases free
      rfl
  | idle serial => rfl

end Member

namespace Compound

/-! ## Attaching up to a refusal -/

theorem map_detach_of_attached
    {context : Fin size} {contexts : Contexts setting size}
    {front attached : List (Member setting size)}
    (each :
      List.Forall₂
        (fun member attached =>
          member.attach context contexts = .ok attached)
        front attached) :
    attached.map Member.detach = front.map Member.detach := by
  induction each with
  | nil => rfl
  | cons accepted each induction =>
      rw [List.map_cons, List.map_cons, Member.detach_of_attach accepted,
        induction]

theorem notesOf_of_attached
    (call : Call) {context : Fin size} {contexts : Contexts setting size}
    {front attached : List (Member setting size)}
    (each :
      List.Forall₂
        (fun member attached =>
          member.attach context contexts = .ok attached)
        front attached) :
    notesOf call attached = notesOf call front := by
  rw [notesOf_eq, notesOf_eq, map_tag_of_attached each, List.flatMap_map]
  simp only [Tag.notes_attached]

/-- The first member that is left over has refused. -/
theorem untouched_of_refusal
    {context : Fin size} {contexts : Contexts setting size}
    {members : List (Member setting size)} {cause : Member.Failure}
    (refused :
      (attachAll context contexts members).refusal = some cause) :
    ∃ member rest,
      (attachAll context contexts members).untouched = member :: rest ∧
        member.attach context contexts = .error cause := by
  induction members with
  | nil => cases refused
  | cons member members induction =>
      rw [attachAll] at refused ⊢
      cases accepted : member.attach context contexts with
      | error other =>
          simp only [accepted] at refused
          cases refused
          exact ⟨member, members, rfl, accepted⟩
      | ok attached =>
          simp only [accepted] at refused
          exact induction refused

/-- A bind of free members that fails leaves the compound as it was. -/
theorem bindFresh_of_refusal
    {context : Fin size} {contexts : Contexts setting size}
    {compound : Compound setting size}
    (free : ∀ member ∈ compound.members, member.attachment = none)
    {failure : Failure}
    (failed : (compound.bindFresh context contexts).1 = .error failure) :
    ∃ index member cause,
      failure = .member index cause ∧
        compound.members[index]? = some member ∧
        member.attach context contexts = .error cause ∧
        (compound.bindFresh context contexts).2.1 = compound ∧
        (compound.bindFresh context contexts).2.2.journal =
          notesOf .bind (compound.members.take index) ++
            notesOf .release (compound.members.take index) := by
  rcases attachAll_front context contexts compound.members with
    ⟨front, split, each⟩
  rw [bindFresh] at failed ⊢
  cases refusal : (attachAll context contexts compound.members).refusal with
  | none => simp [refusal] at failed
  | some cause =>
      simp only [refusal] at failed
      cases failed
      rcases untouched_of_refusal refusal with ⟨member, rest, left, refused⟩
      have length := each.length_eq
      rw [left] at split
      have taken :
          compound.members.take
            (attachAll context contexts compound.members).attached.length =
            front := by
        rw [← length, split]
        exact List.take_left
      refine ⟨_, member, cause, rfl, ?_, refused, ?_, ?_⟩
      · rw [← length, split]
        simp
      · have restored : front.map Member.detach = front := by
          conv_rhs => rw [← List.map_id front]
          apply List.map_congr_left
          intro earlier found
          apply Member.detach_of_free
          apply free
          rw [split]
          exact List.mem_append_left _ found
        dsimp only
        rw [left, map_detach_of_attached each, restored, ← split]
      · dsimp only
        rw [taken, notesOf_of_attached .bind each,
          notesOf_of_attached .release each]

/-! ## Binding again -/

theorem Tied.free_members
    {compound : Compound setting size} (tied : compound.Tied none) :
    ∀ member ∈ compound.members, member.attachment = none := by
  intro member found
  exact tied.free member.tag (List.mem_map_of_mem found)

/-- A bind that fails leaves a tied compound as a release does. -/
theorem Tied.bind_of_refusal
    {compound : Compound setting size} {old : Option (Fin size)}
    (tied : compound.Tied old) {context : Fin size}
    {contexts : Contexts setting size} {failure : Failure}
    (failed : (compound.bind context contexts).1 = .error failure) :
    ∃ index member cause,
      failure = .member index cause ∧
        compound.members[index]? = some member ∧
        member.attach context contexts = .error cause ∧
        (compound.bind context contexts).2.1 = compound.release.1 ∧
        (compound.bind context contexts).2.2.journal =
          compound.release.2.journal ++
            (notesOf .bind (compound.members.take index) ++
              notesOf .release (compound.members.take index)) := by
  have free := tied.release.free_members
  cases bound : compound.bound with
  | false =>
      have fresh : compound.bind context contexts =
          compound.bindFresh context contexts := by
        simp [Compound.bind, bound]
      rw [release_of_not_bound bound] at free ⊢
      rw [fresh] at failed ⊢
      exact bindFresh_of_refusal free failed
  | true =>
      have again :
          (compound.bind context contexts).1 =
              (compound.release.1.bindFresh context contexts).1 ∧
            (compound.bind context contexts).2.1 =
              (compound.release.1.bindFresh context contexts).2.1 ∧
            (compound.bind context contexts).2.2.journal =
              compound.release.2.journal ++
                (compound.release.1.bindFresh context contexts).2.2.journal := by
        simp [Compound.bind, bound, Trace.ofNotice]
      have members :
          compound.release.1.members =
            compound.members.map Member.detach := by
        simp [Compound.release, bound]
      rw [again.1] at failed
      rcases bindFresh_of_refusal free failed with
        ⟨index, released, cause, blamed, found, refused, same, journal⟩
      rw [members, List.getElem?_map, Option.map_eq_some_iff] at found
      rcases found with ⟨member, found, rfl⟩
      rw [Member.attach_detach] at refused
      refine ⟨index, member, cause, blamed, found, refused, ?_, ?_⟩
      · rw [again.2.1, same]
      · rw [again.2.2, journal, members, ← List.map_take, notesOf_map_detach,
          notesOf_map_detach]

end Compound

end Stepping
