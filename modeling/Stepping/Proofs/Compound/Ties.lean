import Stepping.Proofs.Compound.Calls
import Stepping.Proofs.Member.Tag

/-!
# Ties between a compound and a context

A compound is tied to a context when it is bound and all its members that can be
attached are attached to that context, and it is tied to none when it is not
bound and no member is attached to anything.  A compound starts out tied to
none, and every operation leads from ties to ties: binding ties to the context
given, or, when a member refuses, to none; releasing ties to none; everything
else keeps the ties as they are.

The operations are described by what they make of the members' tags and by what
they add to the journal.  Those that leave tags and flag alone are quiet; all
that they may note is steps of members that are attached.
-/

namespace Stepping

namespace Compound

variable {setting : Setting} {size : Nat}

/-- The tags of the members, in order. -/
def tags (compound : Compound setting size) : List (Tag size) :=
  compound.members.map Member.tag

theorem notesOf_eq
    (call : Call) (members : List (Member setting size)) :
    notesOf call members =
      (members.map Member.tag).flatMap (Tag.notes call) := by
  rw [notesOf, List.flatMap_map]
  exact
    congrArg (List.flatMap · members)
      (funext fun member => Member.notes_eq call member)

/-- The compound is bound to the context, or to none, and so are its members. -/
structure Tied (context : Option (Fin size))
    (compound : Compound setting size) : Prop where
  bound_eq : compound.bound = context.isSome
  /-- Every member that can be attached is attached just so. -/
  attachment_eq :
    ∀ tag ∈ compound.tags, tag.kind ≠ .idle → tag.attachment = context

theorem tied_empty : (empty : Compound setting size).Tied none where
  bound_eq := rfl
  attachment_eq := by simp [tags, empty]

/-- No member of a compound tied to none is attached, idle ones included. -/
theorem Tied.free
    {compound : Compound setting size} (tied : compound.Tied none) :
    ∀ tag ∈ compound.tags, tag.attachment = none := by
  intro tag found
  by_cases idle : tag.kind = .idle
  · rcases List.mem_map.mp found with ⟨member, -, rfl⟩
    exact Member.attachment_of_idle idle
  · exact tied.attachment_eq tag found idle

/-! ## Quiet operations -/

/--
An operation that leaves flag and tags as they are and notes nothing but steps
of attached members.
-/
structure Quiet (old : Compound setting size) (journal : List Entry)
    (new : Compound setting size) : Prop where
  bound_eq : new.bound = old.bound
  tags_eq : new.tags = old.tags
  /-- Every note is of a step of a member that is attached. -/
  steps :
    ∀ entry ∈ journal, ∃ tag ∈ old.tags,
      tag.attachment ≠ none ∧ ∃ count, entry ∈ tag.notes (.step count)

theorem Quiet.refl (compound : Compound setting size) :
    compound.Quiet [] compound where
  bound_eq := rfl
  tags_eq := rfl
  steps := by simp

theorem Quiet.trans
    {first second third : Compound setting size}
    {earlier later : List Entry}
    (left : first.Quiet earlier second) (right : second.Quiet later third) :
    first.Quiet (earlier ++ later) third where
  bound_eq := right.bound_eq.trans left.bound_eq
  tags_eq := right.tags_eq.trans left.tags_eq
  steps := by
    intro entry noted
    rcases List.mem_append.mp noted with noted | noted
    · exact left.steps entry noted
    · rw [← left.tags_eq]
      exact right.steps entry noted

theorem Quiet.tied
    {old new : Compound setting size} {journal : List Entry}
    (quiet : old.Quiet journal new) {context : Option (Fin size)}
    (tied : old.Tied context) : new.Tied context where
  bound_eq := quiet.bound_eq.trans tied.bound_eq
  attachment_eq := by
    rw [quiet.tags_eq]
    exact tied.attachment_eq

/-- A member in the place of one that looks the same leaves all looking the same. -/
theorem map_members_put {View : Type}
    (view : Member setting size → View)
    {compound : Compound setting size} {index : Nat}
    {old new : Member setting size}
    (found : compound.members[index]? = some old)
    (same : view new = view old) :
    (compound.put index new).members.map view =
      compound.members.map view := by
  apply List.ext_getElem?
  intro place
  by_cases here : index = place
  · subst here
    rcases List.getElem?_eq_some_iff.mp found with ⟨inside, equality⟩
    simp [put, inside, equality, same]
  · simp [put, here]

theorem tags_put
    {compound : Compound setting size} {index : Nat}
    {old new : Member setting size}
    (found : compound.members[index]? = some old)
    (same : new.tag = old.tag) :
    (compound.put index new).tags = compound.tags :=
  map_members_put Member.tag found same

/-- Another member with the same tag may take a member's place. -/
theorem quiet_put
    {compound : Compound setting size} {index : Nat}
    {old new : Member setting size}
    (found : compound.members[index]? = some old)
    (same : new.tag = old.tag) :
    compound.Quiet [] (compound.put index new) where
  bound_eq := rfl
  tags_eq := tags_put found same
  steps := by simp

/-- A member that has taken steps may do so too, with its note of them. -/
theorem quiet_put_of_step
    {compound : Compound setting size} {index : Nat}
    {member moved : Member setting size} {steps : Count}
    {contexts after : Contexts setting size}
    (found : compound.members[index]? = some member)
    (stepped : member.step steps contexts = .ok (moved, after)) :
    compound.Quiet (member.notes (.step steps)) (compound.put index moved) where
  bound_eq := rfl
  tags_eq := tags_put found (Member.tag_of_step stepped)
  steps := by
    intro entry noted
    rw [Member.notes_eq] at noted
    refine
      ⟨member.tag, List.mem_map_of_mem (List.mem_of_getElem? found), ?_,
        steps, noted⟩
    apply Member.attachment_ne_none_of_step _ stepped
    intro idle
    have nameless : member.tag.name = none := Member.name_of_idle idle
    simp [Tag.notes, nameless] at noted

theorem journal_select (index : Nat) (compound : Compound setting size) :
    (compound.select index).2.2.journal = [] := by
  rw [select]
  split_ifs <;> rfl

theorem quiet_select (index : Nat) (compound : Compound setting size) :
    compound.Quiet [] (compound.select index).2.1 := by
  rw [select]
  split
  · exact ⟨rfl, rfl, by simp⟩
  · exact Quiet.refl compound

theorem quiet_step
    (steps : Count) (contexts : Contexts setting size)
    (compound : Compound setting size) :
    compound.Quiet (compound.step steps contexts).trace.journal
      (compound.step steps contexts).compound := by
  cases answer : (compound.step steps contexts).answer with
  | ok nothing =>
      rcases step_of_ok answer with
        ⟨-, member, moved, after, found, stepped, equality⟩
      rw [equality]
      exact quiet_put_of_step found stepped
  | error cause =>
      rcases step_of_error answer with ⟨same, -, nothing, -⟩
      rw [same, nothing]
      exact Quiet.refl compound

theorem quiet_adjust
    {compound changed : Compound setting size} {adjustment : Adjustment}
    (accepted : compound.adjust adjustment = .ok changed) :
    compound.Quiet [] changed := by
  rcases adjust_of_ok accepted with ⟨member, new, found, set, rfl⟩
  exact quiet_put found (Member.tag_of_adjust set)

/-! ## What tied members complain of -/

/-- A member of a tied compound that can be attached is attached just as the compound is. -/
theorem Tied.attachment_of_getElem?
    {compound : Compound setting size} {context : Option (Fin size)}
    (tied : compound.Tied context) {index : Nat}
    {member : Member setting size}
    (found : compound.members[index]? = some member)
    (active : member.kind ≠ .idle) : member.attachment = context :=
  tied.attachment_eq member.tag
    (List.mem_map_of_mem (List.mem_of_getElem? found)) active

/-- No member of a bound compound that is tied complains that it is not attached. -/
theorem Tied.not_isUnbound
    {compound : Compound setting size} {context : Option (Fin size)}
    (tied : compound.Tied context) (bound : compound.bound = true)
    {index : Nat} {member : Member setting size}
    (found : compound.members[index]? = some member)
    {steps : Count} {contexts : Contexts setting size}
    {cause : Member.Failure}
    (failed : member.step steps contexts = .error cause) :
    ¬ cause.IsUnbound := by
  intro complains
  by_cases idle : member.kind = .idle
  · exact (Member.not_isUnbound_of_idle idle contexts).1 steps cause failed complains
  · have free : member.attachment = none :=
      (Member.step_isUnbound_iff idle steps contexts).mp
        ⟨cause, failed, complains⟩
    rw [tied.attachment_of_getElem? found idle] at free
    rw [tied.bound_eq, free] at bound
    cases bound

theorem Tied.not_isUnbound_of_step
    {compound : Compound setting size} {context : Option (Fin size)}
    (tied : compound.Tied context) {steps : Count}
    {contexts : Contexts setting size} {index : Nat}
    {cause : Member.Failure}
    (failed :
      (compound.step steps contexts).answer = .error (.member index cause)) :
    ¬ cause.IsUnbound := by
  rcases step_of_error failed with ⟨-, -, -, blamed⟩
  rcases blamed index cause rfl with ⟨bound, -, member, found, failed⟩
  exact tied.not_isUnbound bound found failed

theorem Tied.not_isUnbound_of_kineticEnergy
    {compound : Compound setting size} {context : Option (Fin size)}
    (tied : compound.Tied context) {contexts : Contexts setting size}
    {index : Nat} {cause : Member.Failure}
    (failed : compound.kineticEnergy contexts = .error (.member index cause)) :
    ¬ cause.IsUnbound := by
  rcases kineticEnergy_of_error failed with
    ⟨bound, -, member, found, failed⟩
  by_cases idle : member.kind = .idle
  · exact (Member.not_isUnbound_of_idle idle contexts).2 cause failed
  · have stepFailed : member.step 0 contexts = .error cause :=
      (Member.kineticEnergy_eq_error_iff idle 0 contexts).mp failed
    exact tied.not_isUnbound bound found stepFailed

end Compound

end Stepping
