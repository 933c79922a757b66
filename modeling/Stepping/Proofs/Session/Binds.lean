import Stepping.Proofs.Compound.Attaching
import Stepping.Proofs.Session.Requests

/-!
# What a bind does

A bind is told from the refusals of the members alone.  Whatever members were
attached to before, if none refuses, all that can be attached are attached to the
context; else those before the first that refuses are attached and released
again, and the compound is left without a binding.  A bound compound is released
beforehand, just as if that had been asked for.

But for attachments and the flag everything stays as it is.
-/

namespace Stepping

variable {setting : Setting} {size : Nat}

namespace Scene

/-- A bind of a bound compound does what a release and then a bind do. -/
theorem bind_again
    (context : Fin size) {scene : Scene setting size}
    (bound : scene.compound.bound = true) :
    let effect := (Request.bind context).perform scene
    let release := Request.release.perform scene
    let again := (Request.bind context).perform release.scene
    effect.answer = again.answer ∧
      effect.scene = again.scene ∧
      effect.trace.journal = release.trace.journal ++ again.trace.journal := by
  have once := Compound.bind_eq context scene.contexts scene.compound
  have twice := Compound.bind_release context scene.contexts scene.compound
  intro effect release again
  have first :
      effect =
        scene.done (fun _ => .nothing)
          (scene.compound.bind context scene.contexts) :=
    rfl
  have second :
      again =
        release.scene.done (fun _ => .nothing)
          (scene.compound.release.1.bind context scene.contexts) :=
    rfl
  rw [first, second, once, twice, bound]
  rcases scene.compound.release.1.bindFresh context scene.contexts with
    ⟨answer, compound, trace⟩
  cases answer <;> exact ⟨rfl, rfl, rfl⟩

/--
A bind depends on the first member that refuses the context.  If there is none,
it succeeds, and all members that can be attached are attached to the context.
Else it fails by that member, the compound is not bound, the members before are
attached to nothing, and the others are as a release leaves them.  In either case
the journal tells of the release, if the compound was bound, of the attachments
that were made and of those that were taken back, each in order.  Nothing else
changes, and to bind a bound compound is to release it and bind it.
-/
theorem effect_of_bind (context : Fin size) (scene : Scene setting size) :
    let members := scene.compound.members
    let effect := (Request.bind context).perform scene
    let after := effect.scene.compound
    let released :=
      if scene.compound.bound then Compound.notesOf .release members else []
    (match scene.compound.firstRefusal context scene.contexts with
    | none =>
        effect.answer = .ok .nothing ∧
        after.bound = true ∧
        (∀ member ∈ after.members, member.kind ≠ .idle →
          member.attachment = some context) ∧
        effect.trace.journal = released ++ Compound.notesOf .bind members
    | some place =>
        (∃ member cause,
          members[place]? = some member ∧
            member.attach context scene.contexts = .error cause ∧
            effect.answer = .error (.compound (.member place cause))) ∧
        after.bound = false ∧
        (∀ member ∈ after.members.take place, member.attachment = none) ∧
        after.members.drop place =
          scene.compound.release.1.members.drop place ∧
        effect.trace.journal =
          released ++ Compound.notesOf .bind (members.take place) ++
            Compound.notesOf .release (members.take place)) ∧
    effect.scene.contexts = scene.contexts ∧
    effect.scene.made = scene.made ∧
    after.active = scene.compound.active ∧
    after.members.map Member.detach = members.map Member.detach ∧
    (scene.compound.bound = true →
      let release := Request.release.perform scene
      let again := (Request.bind context).perform release.scene
      effect.answer = again.answer ∧
        effect.scene = again.scene ∧
        effect.trace.journal =
          release.trace.journal ++ again.trace.journal) := by
  intro members effect after released
  rcases Scene.bind_compound context scene with ⟨left, noted, -⟩
  have compound :
      after = (scene.compound.bind context scene.contexts).2.1 :=
    congrArg Scene.compound left
  have answered :
      effect.answer =
        (scene.done (fun _ => .nothing)
          (scene.compound.bind context scene.contexts)).answer :=
    rfl
  have frame := scene.compound.bind_frame context scene.contexts
  rw [← compound] at frame
  have contexts : effect.scene.contexts = scene.contexts :=
    (congrArg Scene.contexts left).trans rfl
  have made : effect.scene.made = scene.made :=
    (congrArg Scene.made left).trans rfl
  refine ⟨?_, contexts, made, frame.1, frame.2, bind_again context⟩
  have before := scene.compound.journal_before_bind
  cases first : scene.compound.firstRefusal context scene.contexts with
  | none =>
      have accepting := Compound.accepting_of_firstRefusal first
      rw [Compound.bind_of_accepting accepting] at compound answered noted
      refine ⟨answered, by rw [compound], ?_, ?_⟩
      · rw [compound]
        intro member found active
        rcases List.mem_map.mp found with ⟨old, -, rfl⟩
        rw [Member.kind_attached] at active
        exact Member.attachment_attached active context
      · rw [noted, Trace.journal_append, before]
  | some place =>
      rcases Compound.refusal_of_firstRefusal first with
        ⟨member, cause, found, refuses, accepting⟩
      rw [Compound.bind_of_first_refusal found refuses accepting]
        at compound answered noted
      have length : (scene.compound.members.take place).length = place :=
        List.length_take_of_le
          (Nat.le_of_lt (List.getElem?_eq_some_iff.mp found).1)
      refine
        ⟨⟨member, cause, found, Member.attach_of_refusal refuses, answered⟩,
          ?_, ?_, ?_, ?_⟩
      · rw [compound]
        exact scene.compound.bound_release
      · rw [compound]
        dsimp only
        rw [List.take_left' (by rw [List.length_map, length])]
        intro earlier held
        rcases List.mem_map.mp held with ⟨old, -, rfl⟩
        exact old.attachment_detach
      · rw [compound]
        exact List.drop_left' (by rw [List.length_map, length])
      · rw [noted, Trace.journal_append, before, List.append_assoc]

end Scene

end Stepping
