import Stepping.Proofs.Compound.Rollback

/-!
# How far a bind comes

Whether a member lets itself be attached can be told beforehand, from the member
and the context alone: a recorder that was told to refuse does not, dynamics do
not where there are no particles, and an idle member always does.  So the first
member that refuses, if there is one, settles all that a bind does.  The members
before it are attached and detached again, and it and those behind it are not
touched.

A bind is in any case what a release and then a bind of free members is; with a
compound that is not bound the release does nothing.
-/

namespace Stepping

variable {setting : Setting} {size : Nat}

namespace Member

/-- Why a member refuses to be attached to a context, if it does. -/
def refusal (context : Fin size) (contexts : Contexts setting size) :
    Member setting size → Option Failure
  | .recorder member =>
      if member.refusesBind then some (.recorder (.bindRefused member.name))
      else none
  | .dynamics _ _ =>
      if (contexts.get context).positions.isEmpty then
        some (.dynamics .noParticles)
      else none
  | .idle _ => none

theorem attach_of_accepting
    {context : Fin size} {contexts : Contexts setting size}
    {member : Member setting size}
    (accepting : member.refusal context contexts = none) :
    member.attach context contexts = .ok (member.attached context) := by
  cases member with
  | recorder recorder =>
      rw [refusal] at accepting
      split_ifs at accepting with refuses
      simp [attach, Recorder.attach, refuses, ofRecorder, attached]
  | dynamics scheme dynamics =>
      rw [refusal] at accepting
      split_ifs at accepting with vacant
      simp [attach, Dynamics.attach, vacant, ofDynamics, attached]
  | idle serial => rfl

theorem attach_of_refusal
    {context : Fin size} {contexts : Contexts setting size}
    {member : Member setting size} {cause : Failure}
    (refuses : member.refusal context contexts = some cause) :
    member.attach context contexts = .error cause := by
  cases member with
  | recorder recorder =>
      rw [refusal] at refuses
      split_ifs at refuses with told
      cases refuses
      simp [attach, Recorder.attach, told, ofRecorder]
  | dynamics scheme dynamics =>
      rw [refusal] at refuses
      split_ifs at refuses with vacant
      cases refuses
      simp [attach, Dynamics.attach, vacant, ofDynamics]
  | idle serial => cases refuses

@[simp]
theorem refusal_detach
    (context : Fin size) (contexts : Contexts setting size)
    (member : Member setting size) :
    member.detach.refusal context contexts =
      member.refusal context contexts := by
  cases member <;> rfl

@[simp]
theorem attached_detach (context : Fin size) (member : Member setting size) :
    member.detach.attached context = member.attached context := by
  cases member <;> rfl

@[simp]
theorem detach_detach (member : Member setting size) :
    member.detach.detach = member.detach := by
  cases member <;> rfl

@[simp]
theorem notes_attached
    (call : Call) (context : Fin size) (member : Member setting size) :
    (member.attached context).notes call = member.notes call := by
  cases member <;> rfl

@[simp]
theorem kind_attached (context : Fin size) (member : Member setting size) :
    (member.attached context).kind = member.kind := by
  cases member with
  | dynamics scheme dynamics => cases scheme <;> rfl
  | _ => rfl

theorem attachment_attached
    {member : Member setting size} (active : member.kind ≠ .idle)
    (context : Fin size) :
    (member.attached context).attachment = some context := by
  cases member with
  | idle serial => exact (active rfl).elim
  | _ => rfl

theorem attachment_detach (member : Member setting size) :
    member.detach.attachment = none := by
  cases member <;> rfl

end Member

namespace Compound

/-! ## Attaching members in order -/

theorem notesOf_map_attached
    (call : Call) (context : Fin size) (members : List (Member setting size)) :
    notesOf call (members.map (Member.attached context)) =
      notesOf call members := by
  simp [notesOf, List.flatMap_map]

/-- Members that accept are attached before it comes to those behind them. -/
theorem attachAll_append
    {context : Fin size} {contexts : Contexts setting size}
    {front : List (Member setting size)}
    (accepting :
      ∀ member ∈ front, member.refusal context contexts = none)
    (back : List (Member setting size)) :
    attachAll context contexts (front ++ back) =
      { attachAll context contexts back with
        attached :=
          front.map (Member.attached context) ++
            (attachAll context contexts back).attached } := by
  induction front with
  | nil => rfl
  | cons member front induction =>
      have first := accepting member List.mem_cons_self
      have later :=
        induction fun next found =>
          accepting next (List.mem_cons_of_mem member found)
      rw [List.cons_append, attachAll, Member.attach_of_accepting first, later]
      rfl

theorem attachAll_of_accepting
    {context : Fin size} {contexts : Contexts setting size}
    {members : List (Member setting size)}
    (accepting :
      ∀ member ∈ members, member.refusal context contexts = none) :
    attachAll context contexts members =
      ⟨members.map (Member.attached context), none, []⟩ := by
  have whole := attachAll_append accepting []
  rw [List.append_nil] at whole
  rw [whole, attachAll, List.append_nil]

theorem attachAll_of_refusal
    {context : Fin size} {contexts : Contexts setting size}
    {members : List (Member setting size)} {place : Nat}
    {member : Member setting size} {cause : Member.Failure}
    (found : members[place]? = some member)
    (refuses : member.refusal context contexts = some cause)
    (accepting :
      ∀ earlier ∈ members.take place,
        earlier.refusal context contexts = none) :
    attachAll context contexts members =
      ⟨(members.take place).map (Member.attached context), some cause,
        members.drop place⟩ := by
  rcases List.getElem?_eq_some_iff.mp found with ⟨inside, rfl⟩
  conv_lhs => rw [← List.take_append_drop place members]
  rw [attachAll_append accepting, List.drop_eq_getElem_cons inside, attachAll,
    Member.attach_of_refusal refuses]
  simp

/-- The index of the first member that refuses to be attached to a context. -/
def firstRefusal (context : Fin size) (contexts : Contexts setting size)
    (compound : Compound setting size) : Option Nat :=
  compound.members.findIdx? fun member =>
    (member.refusal context contexts).isSome

theorem accepting_of_firstRefusal
    {context : Fin size} {contexts : Contexts setting size}
    {compound : Compound setting size}
    (nobody : compound.firstRefusal context contexts = none) :
    ∀ member ∈ compound.members, member.refusal context contexts = none := by
  intro member found
  simpa using List.findIdx?_eq_none_iff.mp nobody member found

theorem refusal_of_firstRefusal
    {context : Fin size} {contexts : Contexts setting size}
    {compound : Compound setting size} {place : Nat}
    (first : compound.firstRefusal context contexts = some place) :
    ∃ member cause,
      compound.members[place]? = some member ∧
        member.refusal context contexts = some cause ∧
        ∀ earlier ∈ compound.members.take place,
          earlier.refusal context contexts = none := by
  rcases List.findIdx?_eq_some_iff_getElem.mp first with
    ⟨inside, refuses, before⟩
  rcases Option.isSome_iff_exists.mp refuses with ⟨cause, refuses⟩
  refine ⟨_, cause, List.getElem?_eq_getElem inside, refuses, ?_⟩
  intro earlier found
  rcases List.mem_take_iff_getElem.mp found with ⟨index, under, rfl⟩
  simpa using before index (Nat.lt_of_lt_of_le under (Nat.min_le_left _ _))

/-! ## Free members -/

theorem bindFresh_of_accepting
    {context : Fin size} {contexts : Contexts setting size}
    {compound : Compound setting size}
    (accepting :
      ∀ member ∈ compound.members, member.refusal context contexts = none) :
    compound.bindFresh context contexts =
      (.ok (),
        { compound with
          members := compound.members.map (Member.attached context)
          bound := true },
        ⟨notesOf .bind compound.members, [.bound compound.members.length]⟩) := by
  rw [bindFresh, attachAll_of_accepting accepting]
  simp only [notesOf_map_attached]

theorem bindFresh_of_first_refusal
    {context : Fin size} {contexts : Contexts setting size}
    {compound : Compound setting size} {place : Nat}
    {member : Member setting size} {cause : Member.Failure}
    (found : compound.members[place]? = some member)
    (refuses : member.refusal context contexts = some cause)
    (accepting :
      ∀ earlier ∈ compound.members.take place,
        earlier.refusal context contexts = none) :
    compound.bindFresh context contexts =
      (.error (.member place cause),
        { compound with
          members :=
            (compound.members.take place).map Member.detach ++
              compound.members.drop place },
        ⟨notesOf .bind (compound.members.take place) ++
            notesOf .release (compound.members.take place),
          [.refused place]⟩) := by
  have inside := (List.getElem?_eq_some_iff.mp found).1
  have length : (compound.members.take place).length = place :=
    List.length_take_of_le (Nat.le_of_lt inside)
  rw [bindFresh, attachAll_of_refusal found refuses accepting]
  simp only [List.length_map, length, List.map_map, Function.comp_def,
    Member.detach_attached, notesOf_map_attached]

/-! ## Binding -/

/-- A bind is a release, and then a bind of what it leaves. -/
theorem bind_eq
    (context : Fin size) (contexts : Contexts setting size)
    (compound : Compound setting size) :
    let fresh := compound.release.1.bindFresh context contexts
    compound.bind context contexts =
      (fresh.1, fresh.2.1,
        (if compound.bound then .ofNotice .rebinding else .none) ++
          compound.release.2 ++ fresh.2.2) := by
  cases bound : compound.bound with
  | false =>
      rw [release_of_not_bound bound]
      simp only [bind, bound, Bool.false_eq_true, if_false]
      rfl
  | true => simp only [bind, bound, if_true]

/-- A released compound is bound as one that was never bound. -/
theorem bind_release
    (context : Fin size) (contexts : Contexts setting size)
    (compound : Compound setting size) :
    compound.release.1.bind context contexts =
      compound.release.1.bindFresh context contexts := by
  rw [bind, bound_release]
  rfl

theorem members_release (compound : Compound setting size) :
    compound.release.1.members =
      if compound.bound then compound.members.map Member.detach
      else compound.members := by
  rw [release]
  split_ifs <;> rfl

theorem active_release (compound : Compound setting size) :
    compound.release.1.active = compound.active := by
  rw [release]
  split_ifs <;> rfl

theorem release_trace (compound : Compound setting size) :
    compound.release.2 =
      if compound.bound then
        ⟨notesOf .release compound.members,
          [.released compound.members.length]⟩
      else .none := by
  rw [release]
  split_ifs <;> rfl

/-- What does not see an attachment sees the same members after a release. -/
theorem map_members_release {View : Type}
    {view : Member setting size → View}
    (blind : ∀ member, view member.detach = view member)
    (compound : Compound setting size) :
    compound.release.1.members.map view = compound.members.map view := by
  rw [members_release]
  split_ifs
  · rw [List.map_map]
    exact List.map_congr_left fun member _ => blind member
  · rfl

theorem notesOf_take_release
    (call : Call) (compound : Compound setting size) (place : Nat) :
    notesOf call (compound.release.1.members.take place) =
      notesOf call (compound.members.take place) := by
  rw [members_release]
  split_ifs
  · rw [← List.map_take, notesOf_map_detach]
  · rfl

/-- Members that accept do so after a release. -/
theorem accepting_release
    {context : Fin size} {contexts : Contexts setting size}
    {compound : Compound setting size} {place : Nat}
    (accepting :
      ∀ member ∈ compound.members.take place,
        member.refusal context contexts = none) :
    ∀ member ∈ compound.release.1.members.take place,
      member.refusal context contexts = none := by
  rw [members_release]
  split_ifs
  · intro member found
    rw [← List.map_take] at found
    rcases List.mem_map.mp found with ⟨old, held, rfl⟩
    rw [Member.refusal_detach]
    exact accepting old held
  · exact accepting

/-- A bind that nobody refuses attaches every member, whatever it was attached to. -/
theorem bind_of_accepting
    {context : Fin size} {contexts : Contexts setting size}
    {compound : Compound setting size}
    (accepting :
      ∀ member ∈ compound.members, member.refusal context contexts = none) :
    compound.bind context contexts =
      (.ok (),
        { compound with
          members := compound.members.map (Member.attached context)
          bound := true },
        (if compound.bound then .ofNotice .rebinding else .none) ++
          compound.release.2 ++
          ⟨notesOf .bind compound.members,
            [.bound compound.members.length]⟩) := by
  have members :=
    map_members_release (Member.attached_detach context) compound
  have length : compound.release.1.members.length = compound.members.length := by
    simpa using congrArg List.length members
  have all :
      compound.release.1.members.take compound.members.length =
        compound.release.1.members :=
    List.take_of_length_le (Nat.le_of_eq length)
  rw [← List.take_length (l := compound.members)] at accepting
  have released := accepting_release accepting
  have notes := notesOf_take_release .bind compound compound.members.length
  rw [all] at released notes
  rw [List.take_length] at notes
  rw [bind_eq, bindFresh_of_accepting released, members, active_release, notes, length]

/-- A bind releases the members before the first that refuses, and leaves the others alone. -/
theorem bind_of_first_refusal
    {context : Fin size} {contexts : Contexts setting size}
    {compound : Compound setting size} {place : Nat}
    {member : Member setting size} {cause : Member.Failure}
    (found : compound.members[place]? = some member)
    (refuses : member.refusal context contexts = some cause)
    (accepting :
      ∀ earlier ∈ compound.members.take place,
        earlier.refusal context contexts = none) :
    compound.bind context contexts =
      (.error (.member place cause),
        { compound.release.1 with
          members :=
            (compound.members.take place).map Member.detach ++
              compound.release.1.members.drop place },
        (if compound.bound then .ofNotice .rebinding else .none) ++
          compound.release.2 ++
          ⟨notesOf .bind (compound.members.take place) ++
              notesOf .release (compound.members.take place),
            [.refused place]⟩) := by
  have front :
      (compound.release.1.members.take place).map Member.detach =
        (compound.members.take place).map Member.detach := by
    rw [List.map_take, List.map_take, map_members_release Member.detach_detach]
  have there :
      ∃ released, compound.release.1.members[place]? = some released ∧
        released.refusal context contexts = some cause := by
    rw [members_release]
    split_ifs
    · exact
        ⟨member.detach, by rw [List.getElem?_map, found]; rfl,
          (Member.refusal_detach context contexts member).trans refuses⟩
    · exact ⟨member, found, refuses⟩
  rcases there with ⟨released, found, refuses⟩
  rw [bind_eq,
    bindFresh_of_first_refusal found refuses (accepting_release accepting),
    front, notesOf_take_release, notesOf_take_release]

/-- What a bind notes before it comes to the first member. -/
theorem journal_before_bind (compound : Compound setting size) :
    ((if compound.bound then .ofNotice .rebinding else .none) ++
        compound.release.2 : Trace).journal =
      if compound.bound then notesOf .release compound.members else [] := by
  rw [release_trace]
  split_ifs <;> rfl

/-- A bind leaves the active member, and all members but for their attachments. -/
theorem bind_frame
    (context : Fin size) (contexts : Contexts setting size)
    (compound : Compound setting size) :
    (compound.bind context contexts).2.1.active = compound.active ∧
      (compound.bind context contexts).2.1.members.map Member.detach =
        compound.members.map Member.detach := by
  have released := map_members_release Member.detach_detach compound
  cases first : compound.firstRefusal context contexts with
  | none =>
      rw [bind_of_accepting (accepting_of_firstRefusal first)]
      refine ⟨rfl, ?_⟩
      simp only [List.map_map, Function.comp_def, Member.detach_attached]
  | some place =>
      rcases refusal_of_firstRefusal first with
        ⟨member, cause, found, refuses, accepting⟩
      rw [bind_of_first_refusal found refuses accepting]
      refine ⟨active_release compound, ?_⟩
      conv_rhs => rw [← List.take_append_drop place compound.members]
      rw [List.map_append, List.map_append, List.map_drop, released]
      simp only [List.map_map, Function.comp_def, Member.detach_detach,
        List.map_drop]

/-- What does not see an attachment sees the same members after a bind. -/
theorem map_members_bind {View : Type}
    {view : Member setting size → View}
    (blind : ∀ member, view member.detach = view member)
    (context : Fin size) (contexts : Contexts setting size)
    (compound : Compound setting size) :
    (compound.bind context contexts).2.1.members.map view =
      compound.members.map view := by
  have seen (members : List (Member setting size)) :
      members.map view = (members.map Member.detach).map view := by
    simp [Function.comp_def, blind]
  rw [seen, seen compound.members, (bind_frame context contexts compound).2]

end Compound

end Stepping
