import Stepping.Proofs.Compound.Kernels
import Stepping.Proofs.Schedule.Frame
import Stepping.Proofs.Session.Identities
import Stepping.Proofs.Session.Life

/-!
# Kernels over whole sessions

The kernels that a member declares stay what they are in all that its compound
does with it.  So the kernels of a compound change in two ways only: a member is
added, which brings those that it declares, or a recorder is changed past its
compound and declares further ones.  In both ways there are only more of them
than before, and a request that fails brings none.
-/

namespace Stepping

variable {setting : Setting} {compounds size : Nat}

/-! ## Members -/

namespace Member

theorem kernels_detach (member : Member setting size) :
    member.detach.kernels = member.kernels := by
  cases member <;> rfl

/-- A member with other parameters declares the same kernels. -/
theorem Adjusted.kernels_eq
    {old new : Member setting size} (adjusted : old.Adjusted new) :
    new.kernels = old.kernels :=
  adjusted.view_eq fun member => by cases member <;> rfl

end Member

/-! ## Changes -/

namespace Changes

/-- A change that is made to a recorder declares a kernel or leaves those that it declares. -/
theorem mem_kernels_ofRecorder
    {recorder changed : Recorder size} {change : RecorderChange size}
    {notes : List Entry}
    (made : ofRecorder recorder change = .ok (changed, notes))
    {name : String} :
    name ∈ changed.kernels ↔
      name ∈ recorder.kernels ∨ change = .declare name := by
  cases change with
  | declare kernel =>
      cases made
      rw [Kernels.mem_insert, RecorderChange.declare.injEq, or_comm, eq_comm]
  | attach context =>
      rcases ofRecorder_attach_eq_ok made with ⟨rfl, -⟩
      exact (or_iff_left fun told => by cases told).symm
  | _ =>
      cases made
      exact (or_iff_left fun told => by cases told).symm

/-- Of changes to a recorder those before the first refused one are made, and these declare. -/
theorem mem_kernels_inTurn
    (changes : List (RecorderChange size)) (recorder : Recorder size) :
    ∃ done, done <+: changes ∧
      ((inTurn ofRecorder changes recorder).1 = .ok () ↔ done = changes) ∧
      ∀ name, name ∈ (inTurn ofRecorder changes recorder).2.1.kernels ↔
        name ∈ recorder.kernels ∨ .declare name ∈ done := by
  induction changes generalizing recorder with
  | nil =>
      refine ⟨[], List.prefix_rfl, iff_of_true rfl rfl, fun name => ?_⟩
      exact (or_iff_left List.not_mem_nil).symm
  | cons change changes induction =>
      rw [inTurn]
      cases made : ofRecorder recorder change with
      | error cause =>
          refine
            ⟨[], List.nil_prefix,
              iff_of_false (fun told => by cases told)
                (List.cons_ne_nil _ _).symm,
              fun name => ?_⟩
          exact (or_iff_left List.not_mem_nil).symm
      | ok result =>
          rcases result with ⟨changed, notes⟩
          rcases induction changed with ⟨done, front, whole, declared⟩
          refine
            ⟨change :: done, (List.prefix_cons_inj change).mpr front, ?_,
              fun name => ?_⟩
          · rw [List.cons_inj_right]
            exact whole
          · show name ∈ (inTurn ofRecorder changes changed).2.1.kernels ↔ _
            rw [declared name, mem_kernels_ofRecorder made, List.mem_cons,
              or_assoc, eq_comm]

/-- No other member comes to declare other kernels by changes. -/
theorem kernels_of_make
    {changes : Changes size} (other : ∀ list, changes ≠ .recorder list)
    {contexts : Contexts setting size} {member changed : Member setting size}
    {answer : Except Member.Failure Unit} {notes : List Entry}
    (made : changes.make contexts member = some (answer, changed, notes)) :
    changed.kernels = member.kernels := by
  cases changes with
  | recorder list => exact (other list rfl).elim
  | verlet list =>
      rcases member with _ | ⟨_ | _, _⟩ | _ <;> cases made
      rfl
  | langevin list =>
      rcases member with _ | ⟨_ | _, _⟩ | _ <;> cases made
      rfl
  | idle =>
      rcases member with _ | ⟨_ | _, _⟩ | _ <;> cases made
      rfl
  | foreign => rcases member with _ | ⟨_ | _, _⟩ | _ <;> cases made

end Changes

/-! ## Requests -/

/-- What is done with a compound and with parameters of members declares no kernels. -/
theorem kernelsCalls :
    AdjustCalls fun (before : Compound setting size × Contexts setting size) _
        after =>
      after.1.members.map Member.kernels =
        before.1.members.map Member.kernels :=
  { bindCalls_of_view Member.kernels_detach with
    adjust := fun found adjusted =>
      Compound.map_members_put Member.kernels found
        (Member.Adjusted.kernels_eq adjusted) }

/-- Neither do steps, be they of a run or not. -/
theorem kernelsMotion :
    Motion fun (before : Compound setting size × Contexts setting size) _
        after =>
      after.1.members.map Member.kernels =
        before.1.members.map Member.kernels :=
  motion_of_view fun member => by cases member <;> rfl

/-- What a request makes of the kernels of its compound. -/
inductive Scene.Collects (scene : Scene setting size)
    (request : Request setting size) (effect : Effect setting size) : Prop where
  | same
      (refused : ∀ draft, request = .add draft → effect.answer.isOk = false)
      (undone :
        ∀ index changes, request = .change index (.recorder changes) →
          effect.answer ≠ .ok (.changed true))
      (kernels_eq :
        effect.scene.compound.kernels = scene.compound.kernels)
  | added (draft : Draft setting) (member : Member setting size)
      (request_eq : request = .add draft)
      (unbound : scene.compound.bound = false)
      (built : draft.build scene.made = .ok member)
      (answer_eq : effect.answer = .ok (.number scene.compound.members.length))
      (mem_iff :
        ∀ name, name ∈ effect.scene.compound.kernels ↔
          name ∈ scene.compound.kernels ∨ name ∈ member.kernels)
  /-- Of the changes to a recorder a front was made, which is all if the answer says so. -/
  | declared (index : Nat) (changes done : List (RecorderChange size))
      (request_eq : request = .change index (.recorder changes))
      (front : done <+: changes)
      (whole : effect.answer.isOk = true ↔ done = changes)
      (mem_iff :
        ∀ name, name ∈ effect.scene.compound.kernels ↔
          name ∈ scene.compound.kernels ∨ .declare name ∈ done)

namespace Scene

/-- An addition brings the kernels of the new member, if it succeeds. -/
theorem collects_add (scene : Scene setting size) (draft : Draft setting) :
    scene.Collects (.add draft) (scene.add draft) := by
  rcases scene.add_cases draft with
    ⟨cause, -, equality⟩ | ⟨member, -, -, equality⟩ |
      ⟨member, built, unbound, equality⟩
  · rw [equality]
    exact .same (fun _ _ => rfl) (fun _ _ told => by cases told) rfl
  · rw [equality]
    exact .same (fun _ _ => rfl) (fun _ _ told => by cases told) rfl
  · rw [equality]
    exact
      .added draft member rfl unbound built rfl fun _ =>
        Compound.mem_kernels_append

/-- Changes to a recorder bring the kernels that they declare. -/
theorem collects_change_recorder
    {scene : Scene .clock size} {index : Nat} {recorder : Recorder size}
    (found : scene.compound.members[index]? = some (.recorder recorder))
    (changes : List (RecorderChange size)) :
    scene.Collects (.change index (.recorder changes))
      (scene.change index (.recorder changes) (.recorder recorder)) := by
  rcases Changes.mem_kernels_inTurn changes recorder with
    ⟨done, front, whole, declared⟩
  refine .declared index changes done rfl front ?_ fun _ => ?_
  · rw [← whole, change, Changes.make]
    dsimp only
    cases (Changes.inTurn Changes.ofRecorder changes recorder).1 with
    | ok nothing => exact iff_of_true rfl rfl
    | error cause =>
        exact iff_of_false Bool.false_ne_true (fun told => by cases told)
  · let changed : Member .clock size :=
      .recorder (Changes.inTurn Changes.ofRecorder changes recorder).2.1
    have more (name : String) :
        name ∈ changed.kernels ↔
          name ∈ (Member.recorder recorder).kernels ∨ .declare name ∈ done :=
      declared name
    exact Compound.mem_kernels_put found more

/-- Changes to other members, or to none, bring no kernels. -/
theorem collects_of_other
    {scene : Scene setting size} {index : Nat} {changes : Changes size}
    (other : ∀ list, changes ≠ .recorder list) {effect : Effect setting size}
    (same : effect.scene.compound.kernels = scene.compound.kernels) :
    scene.Collects (.change index changes) effect := by
  refine .same (fun _ told => by cases told) ?_ same
  intro place list equality
  cases equality
  exact (other list rfl).elim

theorem collects_change
    {scene : Scene setting size} {index : Nat}
    {member : Member setting size}
    (found : scene.compound.members[index]? = some member)
    (changes : Changes size) :
    scene.Collects (.change index changes)
      (scene.change index changes member) := by
  by_cases other : ∀ list, changes ≠ .recorder list
  · apply collects_of_other other
    rw [change]
    cases made : changes.make scene.contexts member with
    | none => rfl
    | some result =>
        exact
          Compound.kernels_of_members
            (Compound.map_members_put Member.kernels found
              (Changes.kernels_of_make other made))
  · rcases not_forall_not.mp other with ⟨list, rfl⟩
    cases member with
    | recorder recorder => exact collects_change_recorder found list
    | dynamics scheme dynamics =>
        refine .same (fun _ told => by cases told) (fun _ _ _ told => ?_) rfl
        cases told
    | idle serial =>
        refine .same (fun _ told => by cases told) (fun _ _ _ told => ?_) rfl
        cases told

end Scene

/-- A request that does not replace its compound brings it kernels in two ways at most. -/
theorem Request.collects_perform
    {request : Request setting size} (stays : request ≠ .replace)
    (scene : Scene setting size) :
    scene.Collects request (request.perform scene) := by
  rcases request.goesOn_cases with
    ⟨draft, rfl⟩ | ⟨context, poke, rfl⟩ | rfl | goesOn
  · exact scene.collects_add draft
  · refine .same (fun _ told => ?_) (fun _ _ told => ?_) rfl
    · cases told
    · cases told
  · exact (stays rfl).elim
  · by_cases unchanging : request.Unchanging
    · have same :
          (request.perform scene).scene.compound.kernels =
            scene.compound.kernels := by
        apply Compound.kernels_of_members
        by_cases still : request.Still
        · exact (kernelsCalls.perform goesOn still unchanging scene).1
        · exact (kernelsMotion.perform goesOn still scene).1
      refine .same ?_ ?_ same
      · rintro draft rfl
        exact goesOn.elim
      · rintro index changes rfl
        exact unchanging.elim
    · cases request with
      | change index changes =>
          rw [perform, Scene.withMember, Compound.member]
          cases found : scene.compound.members[index]? with
          | none =>
              refine .same (fun _ told => ?_) (fun _ _ _ told => ?_) rfl
              · cases told
              · cases told
          | some member => exact Scene.collects_change found changes
      | _ => exact (unchanging trivial).elim

namespace Scene

variable {scene : Scene setting size} {request : Request setting size}
  {effect : Effect setting size}

/-- No kernels are lost. -/
theorem Collects.mem
    (collects : scene.Collects request effect) {name : String}
    (before : name ∈ scene.compound.kernels) :
    name ∈ effect.scene.compound.kernels := by
  cases collects with
  | same refused undone kernels_eq =>
      rw [kernels_eq]
      exact before
  | added draft member request_eq unbound built answer_eq mem_iff =>
      exact (mem_iff name).mpr (.inl before)
  | declared index changes done request_eq front whole mem_iff =>
      exact (mem_iff name).mpr (.inl before)

end Scene

/-- A request that neither adds a member nor changes a recorder, nor replaces its compound. -/
def Request.Calm : Request setting size → Prop
  | .add _ => False
  | .change _ (.recorder _) => False
  | .replace => False
  | _ => True

/-- A request that may bring its compound a name: that of a kernel that it declares. -/
def Request.Brings (scene : Scene setting size) (name : String) :
    Request setting size → Prop
  | .add draft =>
      scene.compound.bound = false ∧
        ∃ member : Member setting size,
          draft.build scene.made = .ok member ∧ name ∈ member.kernels
  | .change _ (.recorder changes) => .declare name ∈ changes
  | _ => False

namespace Scene

variable {scene : Scene setting size} {request : Request setting size}
  {effect : Effect setting size}

theorem Collects.of_calm
    (collects : scene.Collects request effect) (calm : request.Calm) :
    effect.scene.compound.kernels = scene.compound.kernels := by
  cases collects with
  | same refused undone kernels_eq => exact kernels_eq
  | added draft member request_eq =>
      subst request_eq
      exact calm.elim
  | declared index changes done request_eq =>
      subst request_eq
      exact calm.elim

/-- A request that fails brings no kernels, unless it made changes before the refused one. -/
theorem Collects.of_error
    (collects : scene.Collects request effect)
    (failed : effect.answer.isOk = false)
    (single :
      ∀ index changes, request = .change index (.recorder changes) →
        changes.length ≤ 1) :
    effect.scene.compound.kernels = scene.compound.kernels := by
  cases collects with
  | same refused undone kernels_eq => exact kernels_eq
  | added draft member request_eq unbound built answer_eq =>
      rw [answer_eq] at failed
      cases failed
  | declared index changes done request_eq front whole mem_iff =>
      have fewer : done ≠ changes := by
        intro all
        rw [whole.mpr all] at failed
        cases failed
      -- of a single change that is refused none was made
      have short : done.length < changes.length :=
        Nat.lt_of_le_of_ne front.length_le fun equal =>
          fewer (front.eq_of_length equal)
      have none : done = [] := by
        have few := single index changes request_eq
        exact List.eq_nil_of_length_eq_zero (by omega)
      refine Kernels.Ordered.ext (Kernels.ordered_unions _)
        (Kernels.ordered_unions _) fun name => ?_
      have declared := mem_iff name
      rw [none] at declared
      exact declared.trans (or_iff_left List.not_mem_nil)

/-- An addition that succeeds brings the kernels of the new member. -/
theorem Collects.of_add
    {draft : Draft setting} (collects : scene.Collects (.add draft) effect)
    {value : Value setting size} (succeeded : effect.answer = .ok value) :
    ∃ member : Member setting size,
      draft.build scene.made = .ok member ∧
        ∀ name, name ∈ effect.scene.compound.kernels ↔
          name ∈ scene.compound.kernels ∨ name ∈ member.kernels := by
  cases collects with
  | same refused undone kernels_eq =>
      have failed := refused draft rfl
      rw [succeeded] at failed
      cases failed
  | added other member request_eq unbound built answer_eq mem_iff =>
      cases request_eq
      exact ⟨member, built, mem_iff⟩
  | declared index changes done request_eq => cases request_eq

/-- Changes to a recorder bring the kernels that those of them declare that are made. -/
theorem Collects.of_change
    {index : Nat} {changes : List (RecorderChange size)}
    (collects : scene.Collects (.change index (.recorder changes)) effect) :
    ∃ done, done <+: changes ∧
      (effect.answer = .ok (.changed true) → done = changes) ∧
      ∀ name, name ∈ effect.scene.compound.kernels ↔
        name ∈ scene.compound.kernels ∨ .declare name ∈ done := by
  cases collects with
  | same refused undone kernels_eq =>
      refine
        ⟨[], List.nil_prefix, fun told => (undone index changes rfl told).elim,
          fun name => ?_⟩
      rw [kernels_eq]
      exact (or_iff_left List.not_mem_nil).symm
  | added draft member request_eq => cases request_eq
  | declared place others done request_eq front whole mem_iff =>
      cases request_eq
      refine ⟨done, front, fun told => whole.mp ?_, mem_iff⟩
      rw [told]
      rfl

/-- What is new comes of what the request brings. -/
theorem Collects.brings
    (collects : scene.Collects request effect) {name : String}
    (there : name ∈ effect.scene.compound.kernels) :
    name ∈ scene.compound.kernels ∨ request.Brings scene name := by
  cases collects with
  | same refused undone kernels_eq =>
      rw [kernels_eq] at there
      exact .inl there
  | added draft member request_eq unbound built answer_eq mem_iff =>
      subst request_eq
      rcases (mem_iff name).mp there with before | own
      · exact .inl before
      · exact .inr ⟨unbound, member, built, own⟩
  | declared index changes done request_eq front whole mem_iff =>
      subst request_eq
      rcases (mem_iff name).mp there with before | late
      · exact .inl before
      · exact .inr (front.subset late)

end Scene

namespace World

/-! ## Operations -/

/-- An operation leaves a compound, or replaces it, or is a request for it that brings kernels. -/
theorem collects_of_stays
    (world : World setting compounds size) {home : Fin compounds}
    {operation : Operation setting compounds size}
    (stays : operation ≠ ⟨home, .replace⟩) :
    (world.perform operation).1.compounds.get home =
        world.compounds.get home ∨
      ∃ request effect, operation = ⟨home, request⟩ ∧
        (world.scene home).Collects request effect ∧
        (world.perform operation).1.compounds.get home =
          effect.scene.compound := by
  rcases world.compound_perform_of_stays stays with
    left | ⟨request, rfl, own, left⟩
  · exact .inl left
  · exact
      .inr
        ⟨request, request.perform (world.scene home), rfl,
          Request.collects_perform own (world.scene home), left⟩

/-- But for a compound's replacement, its kernels are there after operations as before. -/
theorem mem_kernels_performAll
    (world : World setting compounds size) {home : Fin compounds}
    {operations : List (Operation setting compounds size)}
    (stays : ∀ operation ∈ operations, operation ≠ ⟨home, .replace⟩)
    {name : String} (before : name ∈ (world.compounds.get home).kernels) :
    name ∈ ((world.performAll operations).1.compounds.get home).kernels := by
  refine
    holds_performAll
      (fun next => name ∈ (next.compounds.get home).kernels)
      (fun operation member next there => ?_) before
  rcases next.collects_of_stays (stays operation member) with
    left | ⟨request, effect, -, collects, left⟩
  · rw [left]
    exact there
  · rw [left]
    exact collects.mem there

/-- Whatever kernels are there after operations, they were before, or one of these brings them. -/
theorem brings_of_performAll
    (world : World setting compounds size) {home : Fin compounds}
    {operations : List (Operation setting compounds size)}
    (stays : ∀ operation ∈ operations, operation ≠ ⟨home, .replace⟩)
    {name : String}
    (there :
      name ∈ ((world.performAll operations).1.compounds.get home).kernels) :
    name ∈ (world.compounds.get home).kernels ∨
      ∃ front request rest, operations = front ++ ⟨home, request⟩ :: rest ∧
        request.Brings ((world.performAll front).1.scene home) name := by
  induction operations generalizing world with
  | nil => exact .inl there
  | cons operation operations induction =>
      have later :=
        induction (world.perform operation).1
          (fun next member => stays next (List.mem_cons_of_mem _ member)) there
      rcases later with here | ⟨front, request, rest, split, brings⟩
      · rcases world.collects_of_stays (stays operation List.mem_cons_self) with
          left | ⟨request, effect, rfl, collects, left⟩
        · rw [left] at here
          exact .inl here
        · rw [left] at here
          rcases collects.brings here with before | brings
          · exact .inl before
          · exact .inr ⟨[], request, operations, rfl, brings⟩
      · exact
          .inr
            ⟨operation :: front, request, rest, congrArg (operation :: ·) split,
              brings⟩

/--
The kernels of a compound are the names that its members declare, each once and
in the order of the names' bytes; so they are the same for compounds whose
members declare the same names, however these are spread over the members.

An operation on one compound leaves the kernels of all others.  It leaves those
of its own compound unless it adds a member or changes a recorder, and also if it
fails, but that of several changes to a recorder those before the refused one
declare their kernels.  An addition brings the kernels of the new member, and
changes to a recorder bring those that they declare.  So unless a compound is
replaced, its kernels only grow.
-/
theorem kernels_of_performAll (home : Fin compounds) :
    (∀ compound : Compound setting size,
      (∀ name, name ∈ compound.kernels ↔
        ∃ member ∈ compound.members, name ∈ member.kernels) ∧
      compound.kernels.names.Pairwise
        (fun first second => Kernels.bytes first < Kernels.bytes second) ∧
      compound.kernels.names.Nodup) ∧
    (∀ (other : Setting) (more : Nat) (first : Compound setting size)
        (second : Compound other more),
      (∀ name,
        (∃ member ∈ first.members, name ∈ member.kernels) ↔
          ∃ member ∈ second.members, name ∈ member.kernels) →
      first.kernels = second.kernels) ∧
    (∀ (world : World setting compounds size) (request : Request setting size),
      let performed := world.perform ⟨home, request⟩
      let before := (world.compounds.get home).kernels
      let after := (performed.1.compounds.get home).kernels
      (∀ other, home ≠ other →
        (performed.1.compounds.get other).kernels =
          (world.compounds.get other).kernels) ∧
      (request.Calm → after = before) ∧
      (∀ cause, performed.2.answer = .error cause →
        (∀ index changes, request = .change index (.recorder changes) →
          changes.length ≤ 1) →
        after = before) ∧
      (∀ draft value, request = .add draft → performed.2.answer = .ok value →
        ∃ member : Member setting size,
          draft.build world.made = .ok member ∧
            ∀ name, name ∈ after ↔ name ∈ before ∨ name ∈ member.kernels) ∧
      (∀ index changes, request = .change index (.recorder changes) →
        ∃ done, done <+: changes ∧
          (performed.2.answer = .ok (.changed true) → done = changes) ∧
          ∀ name, name ∈ after ↔ name ∈ before ∨ .declare name ∈ done)) ∧
    (∀ (world : World setting compounds size)
        (operations : List (Operation setting compounds size)),
      (∀ operation ∈ operations, operation ≠ ⟨home, .replace⟩) →
      let before := (world.compounds.get home).kernels
      let after := ((world.performAll operations).1.compounds.get home).kernels
      (∀ name ∈ before, name ∈ after) ∧
      (∀ name ∈ after, name ∈ before ∨
        ∃ front request rest, operations = front ++ ⟨home, request⟩ :: rest ∧
          request.Brings ((world.performAll front).1.scene home) name)) := by
  refine ⟨?_, ?_, ?_, ?_⟩
  · intro compound
    have ordered : compound.kernels.Ordered := Kernels.ordered_unions _
    exact
      ⟨fun name => Compound.mem_kernels_iff, ordered, List.Pairwise.nodup ordered⟩
  · intro other more first second same
    exact Compound.kernels_eq_iff.mpr same
  · intro world request performed before after
    have left :
        after = (request.perform (world.scene home)).scene.compound.kernels :=
      congrArg Compound.kernels (world.compound_perform home request)
    have others (other : Fin compounds) (away : home ≠ other) :
        (performed.1.compounds.get other).kernels =
          (world.compounds.get other).kernels :=
      congrArg Compound.kernels (compound_perform_of_ne world away)
    rw [left]
    by_cases replaced : request = .replace
    · subst replaced
      exact ⟨others, False.elim, fun _ => nofun, fun _ _ => nofun, fun _ _ => nofun⟩
    · have collects := Request.collects_perform replaced (world.scene home)
      refine ⟨others, collects.of_calm, ?_, ?_, ?_⟩
      · intro cause failed single
        have told :
            (request.perform (world.scene home)).answer = .error cause :=
          failed
        apply collects.of_error _ single
        rw [told]
        rfl
      · rintro draft value rfl succeeded
        exact collects.of_add succeeded
      · rintro index changes rfl
        exact collects.of_change
  · intro world operations stays before after
    exact
      ⟨fun name => world.mem_kernels_performAll stays,
        fun name => world.brings_of_performAll stays⟩

end World

end Stepping
