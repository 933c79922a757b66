import Stepping.Proofs.Compound.Counting
import Stepping.Proofs.Compound.Selections

/-!
# Members that are spared

A call on one member of a compound spares all the others: they stay in their
places just as they are, with their parameters, their step counters and their
attachments.  The member itself stays the one that it is, and the compound stays
bound or not.  So it is with several calls, which spare all members but those
that one of the calls was on.
-/

namespace Stepping

variable {setting : Setting} {size : Nat}

namespace Compound

/-- From one compound to another, no member has changed but those at some places. -/
structure Spares (places : List Nat) (old new : Compound setting size) :
    Prop where
  bound_eq : new.bound = old.bound
  identities_eq : new.identities = old.identities
  others :
    ∀ place, place ∉ places → new.members[place]? = old.members[place]?

theorem Spares.refl (compound : Compound setting size) :
    compound.Spares [] compound where
  bound_eq := rfl
  identities_eq := rfl
  others := fun _ _ => rfl

/-- What is spared at some places is spared at more. -/
theorem Spares.mono
    {old new : Compound setting size} {fewer more : List Nat}
    (spares : old.Spares fewer new) (among : fewer ⊆ more) :
    old.Spares more new where
  bound_eq := spares.bound_eq
  identities_eq := spares.identities_eq
  others := fun place outside =>
    spares.others place fun inside => outside (among inside)

theorem Spares.trans
    {first second third : Compound setting size} {earlier later : List Nat}
    (left : first.Spares earlier second) (right : second.Spares later third) :
    first.Spares (earlier ++ later) third where
  bound_eq := right.bound_eq.trans left.bound_eq
  identities_eq := right.identities_eq.trans left.identities_eq
  others := by
    intro place outside
    have early : place ∉ earlier :=
      fun inside => outside (List.mem_append_left later inside)
    have late : place ∉ later :=
      fun inside => outside (List.mem_append_right earlier inside)
    exact (right.others place late).trans (left.others place early)

/-- As many members are there as before. -/
theorem Spares.length_eq
    {old new : Compound setting size} {places : List Nat}
    (spares : old.Spares places new) :
    new.members.length = old.members.length := by
  rw [← length_identities, ← length_identities, spares.identities_eq]

/-- A member that has changed in its own place is the only one that has. -/
theorem spares_put
    {compound : Compound setting size} {place : Nat}
    {old new : Member setting size}
    (found : compound.members[place]? = some old)
    (same : new.identity = old.identity) :
    compound.Spares [place] (compound.put place new) where
  bound_eq := rfl
  identities_eq := identities_put found same
  others := fun _ outside =>
    getElem?_put_of_ne fun equal => outside (equal ▸ List.mem_singleton_self _)

/-- A step is a call on the active member. -/
theorem spares_step
    (steps : Count) (contexts : Contexts setting size)
    (compound : Compound setting size) :
    compound.Spares [compound.active]
      (compound.step steps contexts).compound := by
  cases answer : (compound.step steps contexts).answer with
  | ok nothing =>
      rcases step_of_ok answer with
        ⟨-, member, moved, after, found, stepped, equality⟩
      rw [equality]
      exact spares_put found (Member.identity_of_step stepped)
  | error cause =>
      rw [(step_of_error answer).1]
      exact (Spares.refl compound).mono (List.nil_subset _)

theorem spares_adjust
    {compound changed : Compound setting size} {adjustment : Adjustment}
    (accepted : compound.adjust adjustment = .ok changed) :
    compound.Spares [compound.active] changed := by
  rcases adjust_of_ok accepted with ⟨member, new, found, set, rfl⟩
  exact spares_put found (Member.Adjusted.identity_eq ⟨adjustment, set⟩)

end Compound

end Stepping
