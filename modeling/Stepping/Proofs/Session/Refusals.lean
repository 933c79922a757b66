import Stepping.Proofs.Compound.Rollback
import Stepping.Proofs.Session.Reach

/-!
# Requests that fail

A request for a single call of the compound or of one of its members leaves the
compound and all contexts as they are when it fails, whatever the reason.  All
that it may note is the end of a member that a bound compound does not take.

To bind is more than one call on members.  If a member refuses, a compound that
was not bound is as it was, so all that follows goes as if it had never been
tried; a compound that was bound stands as a release leaves it.
-/

namespace Stepping

variable {setting : Setting} {size : Nat}

/-! ## Single calls -/

/-- No more than one change, to a member of whatever kind. -/
def Changes.Single : Changes size → Prop
  | .recorder changes => changes.length ≤ 1
  | .verlet changes => changes.length ≤ 1
  | .langevin changes => changes.length ≤ 1
  | .idle => True
  | .foreign => True

/-- A request that neither binds nor runs a schedule nor makes several changes at once. -/
def Request.Single : Request setting size → Prop
  | .bind _ => False
  | .runSchedule _ _ _ => False
  | .watch _ _ => False
  | .change _ changes => changes.Single
  | _ => True

namespace Changes

/-- A change that is refused, and was to be the only one, leaves the value as it is. -/
theorem inTurn_of_error {α Change Cause : Type}
    {make : α → Change → Except Cause (α × List Entry)}
    {changes : List Change} (single : changes.length ≤ 1) {value : α}
    {cause : Cause} (failed : (inTurn make changes value).1 = .error cause) :
    (inTurn make changes value).2 = (value, []) := by
  cases changes with
  | nil => cases failed
  | cons change changes =>
      cases changes with
      | cons other changes => simp at single
      | nil =>
          rw [inTurn] at failed ⊢
          cases made : make value change with
          | error refusal => rfl
          | ok result =>
              rw [made] at failed
              cases failed

theorem make_of_error
    {changes : Changes size} (single : changes.Single)
    {contexts : Contexts setting size} {member changed : Member setting size}
    {cause : Member.Failure} {notes : List Entry}
    (failed :
      changes.make contexts member = some (.error cause, changed, notes)) :
    changed = member ∧ notes = [] := by
  cases member with
  | recorder recorder =>
      cases changes with
      | recorder changes =>
          simp only [make, Option.some.injEq, Prod.mk.injEq] at failed
          rcases failed with ⟨answer, rfl, rfl⟩
          rcases Member.ofRecorder_eq_error_iff.mp answer with
            ⟨inner, refused, -⟩
          have same := inTurn_of_error single refused
          constructor
          · exact congrArg (fun left => Member.recorder left.1) same
          · exact congrArg Prod.snd same
      | _ => cases failed
  | dynamics scheme dynamics =>
      cases scheme with
      | verlet =>
          cases changes with
          | verlet changes =>
              simp only [make, Option.some.injEq, Prod.mk.injEq] at failed
              rcases failed with ⟨answer, rfl, rfl⟩
              rcases Member.ofDynamics_eq_error_iff.mp answer with
                ⟨inner, refused, -⟩
              have same := inTurn_of_error single refused
              constructor
              · exact congrArg (fun left => Member.dynamics .verlet left.1) same
              · exact congrArg Prod.snd same
          | _ => cases failed
      | langevin friction =>
          cases changes with
          | langevin changes =>
              simp only [make, Option.some.injEq, Prod.mk.injEq] at failed
              rcases failed with ⟨answer, rfl, rfl⟩
              rcases Member.ofDynamics_eq_error_iff.mp answer with
                ⟨inner, refused, -⟩
              have same := inTurn_of_error single refused
              constructor
              · exact
                  congrArg
                    (fun left => Member.dynamics (.langevin left.1.1) left.1.2)
                    same
              · exact congrArg Prod.snd same
          | _ => cases failed
  | idle serial =>
      cases changes with
      | idle => cases failed
      | _ => cases failed

end Changes

/-- An effect that leaves compound and contexts alone and notes nothing. -/
structure Effect.Untouched (scene : Scene setting size)
    (effect : Effect setting size) : Prop where
  compound_eq : effect.scene.compound = scene.compound
  contexts_eq : effect.scene.contexts = scene.contexts
  journal_eq : effect.trace.journal = []

namespace Scene

variable {scene : Scene setting size}

theorem untouched_tell (answer : Except Refusal (Value setting size)) :
    (scene.tell answer).Untouched scene :=
  ⟨rfl, rfl, rfl⟩

theorem untouched_ask {α : Type} (value : α → Value setting size)
    (answer : Except Compound.Failure α) :
    (scene.ask value answer).Untouched scene := by
  cases answer <;> exact untouched_tell _

theorem untouched_adjusted
    {answer : Except Compound.Failure (Compound setting size)}
    {refusal : Refusal} (failed : (scene.adjusted answer).answer = .error refusal) :
    (scene.adjusted answer).Untouched scene := by
  cases answer with
  | error cause => exact untouched_tell _
  | ok compound => cases failed

theorem untouched_adjustedMember
    {index : Nat} {answer : Except Member.Failure (Member setting size)}
    {refusal : Refusal}
    (failed : (scene.adjustedMember index answer).answer = .error refusal) :
    (scene.adjustedMember index answer).Untouched scene := by
  cases answer with
  | error cause => exact untouched_tell _
  | ok member => cases failed

theorem untouched_select
    {index : Nat} {refusal : Refusal}
    (failed :
      ((Request.select index).perform scene).answer = .error refusal) :
    ((Request.select index).perform scene).Untouched scene := by
  by_cases inside : index < scene.compound.members.length
  · simp [Request.perform, Compound.select, inside, done] at failed
  · have outside :
        scene.compound.select index =
          (.error (.indexOutOfRange index scene.compound.members.length),
            scene.compound, .none) := by
      simp [Compound.select, inside]
    rw [Request.perform, outside]
    exact ⟨rfl, rfl, rfl⟩

theorem untouched_step
    {steps : Count} {refusal : Refusal}
    (failed : (scene.step steps).answer = .error refusal) :
    (scene.step steps).Untouched scene := by
  rw [step] at failed ⊢
  cases answer : (scene.compound.step steps scene.contexts).answer with
  | ok nothing =>
      simp only [answer] at failed
      cases failed
  | error cause =>
      rcases Compound.step_of_error answer with
        ⟨compound, contexts, journal, -⟩
      exact ⟨compound, contexts, journal⟩

theorem untouched_withMember
    {index : Nat} {action : Member setting size → Effect setting size}
    {refusal : Refusal}
    (failed : (scene.withMember index action).answer = .error refusal)
    (untouched :
      ∀ member, scene.compound.members[index]? = some member →
        (action member).answer = .error refusal →
          (action member).Untouched scene) :
    (scene.withMember index action).Untouched scene := by
  rw [withMember, Compound.member] at failed ⊢
  cases found : scene.compound.members[index]? with
  | none => exact untouched_tell _
  | some member =>
      rw [found] at failed
      exact untouched member found failed

theorem untouched_stepMember
    {index : Nat} {steps : Count} {member : Member setting size}
    {refusal : Refusal}
    (failed : (scene.stepMember index steps member).answer = .error refusal) :
    (scene.stepMember index steps member).Untouched scene := by
  rw [stepMember] at failed ⊢
  cases stepped : member.step steps scene.contexts with
  | error cause => exact untouched_tell _
  | ok result =>
      rw [stepped] at failed
      cases failed

theorem untouched_change
    {index : Nat} {changes : Changes size} (single : changes.Single)
    {member : Member setting size}
    (found : scene.compound.members[index]? = some member) {refusal : Refusal}
    (failed : (scene.change index changes member).answer = .error refusal) :
    (scene.change index changes member).Untouched scene := by
  rw [change] at failed ⊢
  cases made : changes.make scene.contexts member with
  | none => exact untouched_tell _
  | some result =>
      rcases result with ⟨answer, changed, notes⟩
      rw [made] at failed
      cases answer with
      | ok nothing => cases failed
      | error cause =>
          rcases Changes.make_of_error single made with ⟨rfl, rfl⟩
          rcases List.getElem?_eq_some_iff.mp found with ⟨inside, rfl⟩
          refine ⟨?_, rfl, rfl⟩
          show scene.compound.put index scene.compound.members[index] = _
          rw [Compound.put, List.set_getElem_self]

/-- Of a member that is not taken, nothing stays but the note of its end. -/
theorem add_of_error
    {draft : Draft setting} {refusal : Refusal}
    (failed : (scene.add draft).answer = .error refusal) :
    (scene.add draft).Untouched scene ∨
      ∃ member : Member setting size,
        draft.build scene.made = .ok member ∧
          scene.compound.bound = true ∧
          (scene.add draft).scene.compound = scene.compound ∧
          (scene.add draft).scene.contexts = scene.contexts ∧
          (scene.add draft).trace.journal = member.notes .drop := by
  rcases scene.add_cases draft with
    ⟨cause, -, equality⟩ | ⟨member, built, bound, equality⟩ |
      ⟨member, -, -, equality⟩
  · rw [equality]
    exact .inl (untouched_tell _)
  · rw [equality]
    exact .inr ⟨member, built, bound, rfl, rfl, rfl⟩
  · rw [equality] at failed
    cases failed

end Scene

/-- What a single request leaves when it fails. -/
theorem Request.perform_of_error
    {request : Request setting size} (single : request.Single)
    {scene : Scene setting size} {refusal : Refusal}
    (failed : (request.perform scene).answer = .error refusal) :
    (request.perform scene).Untouched scene ∨
      ∃ draft, ∃ member : Member setting size,
        request = .add draft ∧ draft.build scene.made = .ok member ∧
          scene.compound.bound = true ∧
          (request.perform scene).scene.compound = scene.compound ∧
          (request.perform scene).scene.contexts = scene.contexts ∧
          (request.perform scene).trace.journal = member.notes .drop := by
  cases request with
  | add draft =>
      rcases Scene.add_of_error failed with untouched | ⟨member, dropped⟩
      · exact .inl untouched
      · exact .inr ⟨draft, member, rfl, dropped⟩
  | bind context => exact single.elim
  | runSchedule segments chunks rule => exact single.elim
  | watch schedule stops => exact single.elim
  | select index => exact .inl (Scene.untouched_select failed)
  | step steps => exact .inl (Scene.untouched_step failed)
  | setStepSize _ | setTolerance _ =>
      exact .inl (Scene.untouched_adjusted failed)
  | stepSize => exact .inl (Scene.untouched_ask _ _)
  | tolerance => exact .inl (Scene.untouched_ask _ _)
  | kineticEnergy => exact .inl (Scene.untouched_ask _ _)
  | view index => exact .inl (Scene.untouched_ask _ _)
  | stepMember index steps =>
      exact
        .inl
          (Scene.untouched_withMember failed fun _ _ =>
            Scene.untouched_stepMember)
  | setMemberStepSize _ _ | setMemberTolerance _ _ =>
      exact
        .inl
          (Scene.untouched_withMember failed fun _ _ =>
            Scene.untouched_adjustedMember)
  | inspect index kind =>
      exact
        .inl
          (Scene.untouched_withMember failed fun _ _ _ =>
            Scene.untouched_tell _)
  | change index changes =>
      exact
        .inl
          (Scene.untouched_withMember failed fun _ found =>
            Scene.untouched_change single found)
  | _ => cases failed

/-! ## Binds -/

/-- A bind of a tied compound that fails leaves the scene as a release does. -/
theorem Request.bind_of_error
    {scene : Scene setting size} {old : Option (Fin size)}
    (tied : scene.compound.Tied old) {context : Fin size} {refusal : Refusal}
    (failed :
      ((Request.bind context).perform scene).answer = .error refusal) :
    ∃ index member cause,
      refusal = .compound (.member index cause) ∧
        scene.compound.members[index]? = some member ∧
        member.attach context scene.contexts = .error cause ∧
        ((Request.bind context).perform scene).scene =
          (Request.release.perform scene).scene ∧
        ((Request.bind context).perform scene).trace.journal =
          (Request.release.perform scene).trace.journal ++
            (Compound.notesOf .bind (scene.compound.members.take index) ++
              Compound.notesOf .release
                (scene.compound.members.take index)) := by
  rcases Scene.bind_compound context scene with ⟨left, noted, -⟩
  cases answer : (scene.compound.bind context scene.contexts).1 with
  | ok nothing =>
      have accepted :
          ((Request.bind context).perform scene).answer = .ok .nothing := by
        rw [Request.perform]
        generalize scene.compound.bind context scene.contexts = result
          at answer ⊢
        rcases result with ⟨given, compound, trace⟩
        cases answer
        rfl
      rw [accepted] at failed
      cases failed
  | error failure =>
      have refused :
          ((Request.bind context).perform scene).answer =
            .error (.compound failure) := by
        rw [Request.perform]
        generalize scene.compound.bind context scene.contexts = result
          at answer ⊢
        rcases result with ⟨given, compound, trace⟩
        cases answer
        rfl
      rw [refused] at failed
      cases failed
      rcases tied.bind_of_refusal answer with
        ⟨index, member, cause, rfl, found, refusal, same, journal⟩
      refine ⟨index, member, cause, rfl, found, refusal, ?_, ?_⟩
      · rw [left, same]
        rfl
      · rw [noted, journal]
        rfl

/-! ## Sessions -/

namespace World

variable {compounds : Nat}

theorem compounds_perform_of_same
    (world : World setting compounds size)
    {operation : Operation setting compounds size}
    (same :
      (world.perform operation).2.compound =
        world.compounds.get operation.compound) :
    (world.perform operation).1.compounds = world.compounds := by
  show world.compounds.set operation.compound
    (world.perform operation).2.compound = world.compounds
  rw [same]
  exact Vector.set_getElem_self operation.compound.isLt

/-- What an operation leaves is what its request leaves of the scene. -/
theorem perform_eq_of_scene
    (world : World setting compounds size) {compound : Fin compounds}
    {first second : Request setting size}
    (same :
      (first.perform
          ⟨world.compounds.get compound, world.contexts, world.made⟩).scene =
        (second.perform
          ⟨world.compounds.get compound, world.contexts, world.made⟩).scene) :
    (world.perform ⟨compound, first⟩).1 =
      (world.perform ⟨compound, second⟩).1 := by
  simp only [perform, same]

/--
After an orderly session an operation that fails leaves everything as it is, if
it is a single call, and notes nothing but the end of a member that a bound
compound does not take.  A bind fails because a member refuses.  It notes that
the members in front of that one are attached and then detached; if the compound
was not bound, everything is as it was and goes on as it would have done, and if
it was bound, everything is as after a release.
-/
theorem state_of_refusal
    (contexts : Contexts setting size)
    (operations : List (Operation setting compounds size))
    (orderly : ∀ operation ∈ operations, operation.request.Orderly)
    (operation : Operation setting compounds size) {refusal : Refusal}
    (failed :
      (((start compounds contexts).performAll operations).1.perform
        operation).2.answer = .error refusal) :
    let world := ((start compounds contexts).performAll operations).1
    let compound := world.compounds.get operation.compound
    let next := (world.perform operation).1
    let journal := (world.perform operation).2.trace.journal
    (operation.request.Single →
      next.compounds = world.compounds ∧
      next.contexts = world.contexts ∧
      (journal = [] ∨
        ∃ draft, ∃ member : Member setting size,
          operation.request = .add draft ∧
            draft.build world.made = .ok member ∧
            compound.bound = true ∧ journal = member.notes .drop)) ∧
    (∀ context, operation.request = .bind context →
      ∃ index member cause,
        refusal = .compound (.member index cause) ∧
        compound.members[index]? = some member ∧
        member.attach context world.contexts = .error cause ∧
        let attempt :=
          Compound.notesOf .bind (compound.members.take index) ++
            Compound.notesOf .release (compound.members.take index)
        (compound.bound = false →
          next = world ∧ journal = attempt ∧
            ∀ later, next.performAll later = world.performAll later) ∧
        (compound.bound = true →
          let released := world.perform ⟨operation.compound, .release⟩
          next = released.1 ∧
            journal = released.2.trace.journal ++ attempt)) := by
  intro world compound next journal
  rcases operation with ⟨target, request⟩
  let scene : Scene setting size := ⟨compound, world.contexts, world.made⟩
  constructor
  · intro single
    have same (left : (world.perform ⟨target, request⟩).2.compound = compound) :
        next.compounds = world.compounds :=
      world.compounds_perform_of_same left
    rcases Request.perform_of_error single failed with
      untouched | ⟨draft, member, rfl, built, bound, left, kept, dropped⟩
    · exact
        ⟨same untouched.compound_eq, untouched.contexts_eq,
          .inl untouched.journal_eq⟩
    · exact
        ⟨same left, kept, .inr ⟨draft, member, rfl, built, bound, dropped⟩⟩
  · rintro context rfl
    have tied :
        scene.compound.Tied
          (if compound.bound then
            lastBound target
              (operations.zip
                ((start compounds contexts).performAll operations).2)
          else none) :=
      (tied_start contexts).performAll orderly target
    rcases Request.bind_of_error tied failed with
      ⟨index, member, cause, blamed, found, refused, same, noted⟩
    have released :
        next = (world.perform ⟨target, .release⟩).1 :=
      world.perform_eq_of_scene same
    refine ⟨index, member, cause, blamed, found, refused, ?_, ?_⟩
    · intro unbound
      have nothing : scene.compound.release = (scene.compound, .none) :=
        Compound.release_of_not_bound unbound
      have stays : next = world := by
        have quiet : (Request.release.perform scene).scene = scene := by
          rw [Request.perform, nothing]
          rfl
        have kept :
            (world.perform ⟨target, .release⟩).1.compounds =
              world.compounds := by
          apply world.compounds_perform_of_same
          exact congrArg Scene.compound quiet
        rw [released]
        show World.mk (world.perform ⟨target, .release⟩).1.compounds _ _ = world
        rw [kept]
        rfl
      refine ⟨stays, ?_, ?_⟩
      · have silent : (Request.release.perform scene).trace.journal = [] := by
          rw [Request.perform, nothing]
          rfl
        rw [silent, List.nil_append] at noted
        exact noted
      · intro later
        rw [stays]
    · intro bound
      exact ⟨released, noted⟩

/-- A bind fails at the second of two recorders, and the first one notes that it was tried. -/
theorem state_of_refused_bind :
    let operations : List (Operation .clock 1 1) :=
      [⟨0, .add (.recorder { name := "first" })⟩,
        ⟨0, .add (.recorder { name := "second", refusesBind := true })⟩,
        ⟨0, .step 1⟩]
    let world := ((start 1 #v[0.0]).performAll operations).1
    let trial := world.perform ⟨0, .bind 0⟩
    trial.1 = world ∧
      trial.2.trace.journal = [⟨0, "first", .bind⟩, ⟨0, "first", .release⟩] := by
  intro operations world trial
  have orderly : ∀ operation ∈ operations, operation.request.Orderly := by
    simp [operations, Request.Orderly]
  have refused :=
    (state_of_refusal #v[0.0] operations orderly ⟨0, .bind 0⟩ rfl).2 0 rfl
  rcases refused with ⟨index, member, cause, -, -, -, unbound, -⟩
  exact ⟨(unbound rfl).1, rfl⟩

end World

end Stepping
