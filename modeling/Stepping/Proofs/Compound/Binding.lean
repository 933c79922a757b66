import Stepping.Proofs.Compound.Ties
import Mathlib.Data.List.Forall2

/-!
# Binding and releasing

Members are attached one after another up to the first that refuses, so what is
attached is always a front of the members, and if none refuses it is all of
them.  From this follow the effects of a bind on tags and journal: either every
member notes being attached, or a front of them notes being attached and then
detached and is left detached.  A bind of a bound compound is a release followed
by a bind.

The effects are then put together into one statement on ties.
-/

namespace Stepping.Compound

variable {setting : Setting} {size : Nat}

/-! ## How far members can be attached -/

/-- What is attached is a front of the members, in order. -/
theorem attachAll_front
    (context : Fin size) (contexts : Contexts setting size)
    (members : List (Member setting size)) :
    ∃ front,
      members = front ++ (attachAll context contexts members).untouched ∧
        List.Forall₂
          (fun member attached =>
            member.attach context contexts = .ok attached)
          front (attachAll context contexts members).attached := by
  induction members with
  | nil => exact ⟨[], rfl, .nil⟩
  | cons member members induction =>
      rw [attachAll]
      cases accepted : member.attach context contexts with
      | error cause => exact ⟨[], rfl, .nil⟩
      | ok attached =>
          rcases induction with ⟨front, split, each⟩
          exact
            ⟨member :: front, congrArg (member :: ·) split,
              .cons accepted each⟩

/-- If nobody refuses, nobody is left over. -/
theorem untouched_of_refusal_none
    {context : Fin size} {contexts : Contexts setting size}
    {members : List (Member setting size)}
    (none : (attachAll context contexts members).refusal = none) :
    (attachAll context contexts members).untouched = [] := by
  induction members with
  | nil => rfl
  | cons member members induction =>
      rw [attachAll] at none ⊢
      cases accepted : member.attach context contexts with
      | error cause => simp [accepted] at none
      | ok attached =>
          simp only [accepted] at none
          exact induction none

theorem map_tag_of_attached
    {context : Fin size} {contexts : Contexts setting size}
    {front attached : List (Member setting size)}
    (each :
      List.Forall₂
        (fun member attached =>
          member.attach context contexts = .ok attached)
        front attached) :
    attached.map Member.tag =
      (front.map Member.tag).map (Tag.attached context) := by
  induction each with
  | nil => rfl
  | cons accepted each induction =>
      simp [Member.tag_of_attach accepted, induction]

theorem map_tag_map_detach (members : List (Member setting size)) :
    (members.map Member.detach).map Member.tag =
      (members.map Member.tag).map Tag.detached := by
  simp

theorem notesOf_map_detach
    (call : Call) (members : List (Member setting size)) :
    notesOf call (members.map Member.detach) = notesOf call members := by
  rw [notesOf_eq, notesOf_eq, map_tag_map_detach, List.flatMap_map]
  rfl

/-! ## Effects of releasing -/

theorem release_of_not_bound
    {compound : Compound setting size} (unbound : compound.bound = false) :
    compound.release = (compound, .none) := by
  simp [release, unbound]

theorem bound_release (compound : Compound setting size) :
    compound.release.1.bound = false := by
  rw [release]
  split_ifs with bound
  · rfl
  · simpa using bound

theorem tags_release_of_bound
    {compound : Compound setting size} (bound : compound.bound = true) :
    compound.release.1.tags = compound.tags.map Tag.detached := by
  simp [release, bound, tags]

theorem journal_release_of_bound
    {compound : Compound setting size} (bound : compound.bound = true) :
    compound.release.2.journal =
      compound.tags.flatMap (Tag.notes .release) := by
  simp [release, bound, tags, notesOf_eq]

theorem Tied.release
    {compound : Compound setting size} {context : Option (Fin size)}
    (tied : compound.Tied context) : compound.release.1.Tied none where
  bound_eq := bound_release compound
  attachment_eq := by
    cases bound : compound.bound with
    | false =>
        rw [release_of_not_bound bound]
        have unbound := tied.bound_eq
        rw [bound] at unbound
        cases context with
        | none => exact tied.attachment_eq
        | some context => cases unbound
    | true =>
        rw [tags_release_of_bound bound]
        intro tag found active
        rcases List.mem_map.mp found with ⟨held, -, rfl⟩
        rfl

/-! ## Effects of binding -/

/-- A bind that succeeds attaches every member, and every member notes it. -/
theorem bindFresh_of_ok
    {context : Fin size} {contexts : Contexts setting size}
    {compound : Compound setting size}
    (succeeded : (compound.bindFresh context contexts).1 = .ok ()) :
    (compound.bindFresh context contexts).2.1.bound = true ∧
      (compound.bindFresh context contexts).2.1.tags =
        compound.tags.map (Tag.attached context) ∧
      (compound.bindFresh context contexts).2.2.journal =
        compound.tags.flatMap (Tag.notes .bind) := by
  rcases attachAll_front context contexts compound.members with
    ⟨front, split, each⟩
  rw [bindFresh] at succeeded ⊢
  cases refusal : (attachAll context contexts compound.members).refusal with
  | some cause => simp [refusal] at succeeded
  | none =>
      rw [untouched_of_refusal_none refusal, List.append_nil] at split
      have attached := map_tag_of_attached each
      rw [← split] at attached
      simp [tags, notesOf_eq, attached, List.flatMap_map]

/-- A bind that fails attaches a front of the members and detaches it again. -/
theorem bindFresh_of_error
    {context : Fin size} {contexts : Contexts setting size}
    {compound : Compound setting size} {cause : Failure}
    (failed : (compound.bindFresh context contexts).1 = .error cause) :
    (compound.bindFresh context contexts).2.1.bound = compound.bound ∧
      ∃ front back, compound.tags = front ++ back ∧
        (compound.bindFresh context contexts).2.1.tags =
          front.map Tag.detached ++ back ∧
        (compound.bindFresh context contexts).2.2.journal =
          front.flatMap (Tag.notes .bind) ++
            front.flatMap (Tag.notes .release) := by
  rcases attachAll_front context contexts compound.members with
    ⟨front, split, each⟩
  rw [bindFresh] at failed ⊢
  cases refusal : (attachAll context contexts compound.members).refusal with
  | none => simp [refusal] at failed
  | some cause =>
      have attached := map_tag_of_attached each
      refine ⟨rfl, front.map Member.tag,
        (attachAll context contexts compound.members).untouched.map
          Member.tag, ?_, ?_, ?_⟩
      · rw [← List.map_append, ← split, tags]
      · rw [tags, List.map_append, map_tag_map_detach, attached, List.map_map]
        congr 1
        exact
          List.map_congr_left fun tag _ => Tag.detached_attached context tag
      · simp [notesOf_eq, attached, List.flatMap_map]

/-- Detaching a front of members of which none is attached leaves all tags as they are. -/
theorem Tied.detached_front
    {compound : Compound setting size} (tied : compound.Tied none)
    {front back : List (Tag size)} (split : compound.tags = front ++ back) :
    front.map Tag.detached ++ back = compound.tags := by
  have same : front.map Tag.detached = front := by
    conv_rhs => rw [← List.map_id front]
    apply List.map_congr_left
    intro tag found
    apply Tag.detached_eq
    apply tied.free
    rw [split]
    exact List.mem_append_left _ found
  rw [same, split]

/-- The context that a compound is tied to after a bind with this answer. -/
def tieAfterBind (context : Fin size) : Except Failure Unit → Option (Fin size)
  | .ok () => some context
  | .error _ => none

theorem Tied.bindFresh
    {compound : Compound setting size} (tied : compound.Tied none)
    (context : Fin size) (contexts : Contexts setting size) :
    (compound.bindFresh context contexts).2.1.Tied
      (tieAfterBind context (compound.bindFresh context contexts).1) := by
  cases answer : (compound.bindFresh context contexts).1 with
  | ok nothing =>
      rcases bindFresh_of_ok answer with ⟨bound, tags, -⟩
      refine ⟨bound, ?_⟩
      rw [tags]
      intro tag found active
      rcases List.mem_map.mp found with ⟨free, -, rfl⟩
      exact Tag.attachment_attached (by simpa using active)
  | error cause =>
      rcases bindFresh_of_error answer with
        ⟨bound, front, back, split, tags, -⟩
      refine ⟨bound.trans tied.bound_eq, ?_⟩
      rw [tags, tied.detached_front split]
      exact tied.attachment_eq

/-- A bind ties the compound to the context given, or to none if a member refuses. -/
theorem Tied.bind
    {compound : Compound setting size} {old : Option (Fin size)}
    (tied : compound.Tied old)
    (context : Fin size) (contexts : Contexts setting size) :
    (compound.bind context contexts).2.1.Tied
      (tieAfterBind context (compound.bind context contexts).1) := by
  cases bound : compound.bound with
  | true =>
      have fresh := tied.release.bindFresh context contexts
      simpa only [Compound.bind, bound, if_true] using fresh
  | false =>
      have free : compound.Tied none := by
        have released := tied.release
        rwa [release_of_not_bound bound] at released
      have fresh := free.bindFresh context contexts
      simpa [Compound.bind, bound] using fresh

end Stepping.Compound
