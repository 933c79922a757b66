import Stepping.Session.World
import Stepping.Proofs.Compound.Binding
import Stepping.Proofs.Schedule.Chain

/-!
# What requests do to ties

Only four requests reach the ties of a compound's members: to add a member, to
bind, to release and to replace the compound.  All others are quiet, as long as
changes made to a member past its compound are changes of parameters only.  A
session in which that is so is called orderly; in it members are attached and
detached by their compound alone.
-/

namespace Stepping

variable {setting : Setting} {size : Nat}

/-- A request that leaves attaching and detaching to the compound. -/
def Request.Orderly : Request setting size → Prop
  | .change _ changes => changes.OfParameters
  | _ => True

/-- An orderly request that neither adds nor binds, releases or replaces. -/
def Request.Ordinary : Request setting size → Prop
  | .add _ => False
  | .bind _ => False
  | .release => False
  | .replace => False
  | .change _ changes => changes.OfParameters
  | _ => True

theorem Request.cases_of_orderly
    {request : Request setting size} (orderly : request.Orderly) :
    (∃ draft, request = .add draft) ∨ (∃ context, request = .bind context) ∨
      request = .release ∨ request = .replace ∨ request.Ordinary := by
  cases request with
  | add draft => exact .inl ⟨draft, rfl⟩
  | bind context => exact .inr (.inl ⟨context, rfl⟩)
  | release => exact .inr (.inr (.inl rfl))
  | replace => exact .inr (.inr (.inr (.inl rfl)))
  | change index changes => exact .inr (.inr (.inr (.inr orderly)))
  | _ => exact .inr (.inr (.inr (.inr trivial)))

/-! ## Quiet requests -/

/-- A quiet effect on the compound of a scene, by which no member is made. -/
def Effect.Quiet (scene : Scene setting size) (effect : Effect setting size) :
    Prop :=
  scene.compound.Quiet effect.trace.journal effect.scene.compound ∧
    effect.scene.made = scene.made

namespace Scene

variable {scene : Scene setting size}

theorem quiet_tell (answer : Except Refusal (Value setting size)) :
    (scene.tell answer).Quiet scene :=
  ⟨Compound.Quiet.refl scene.compound, rfl⟩

theorem quiet_ask {α : Type} (value : α → Value setting size)
    (answer : Except Compound.Failure α) :
    (scene.ask value answer).Quiet scene := by
  cases answer <;> exact quiet_tell _

theorem quiet_adjusted
    {answer : Except Compound.Failure (Compound setting size)}
    (accepted : ∀ changed, answer = .ok changed → scene.compound.Quiet [] changed) :
    (scene.adjusted answer).Quiet scene := by
  cases answer with
  | error cause => exact quiet_tell _
  | ok changed => exact ⟨accepted changed rfl, rfl⟩

theorem quiet_withMember
    {index : Nat} {action : Member setting size → Effect setting size}
    (quiet :
      ∀ member, scene.compound.members[index]? = some member →
        (action member).Quiet scene) :
    (scene.withMember index action).Quiet scene := by
  rw [withMember, Compound.member]
  cases found : scene.compound.members[index]? with
  | none => exact quiet_tell _
  | some member => exact quiet member found

theorem quiet_adjustedMember
    {index : Nat} {member : Member setting size}
    (found : scene.compound.members[index]? = some member)
    {answer : Except Member.Failure (Member setting size)}
    (same : ∀ changed, answer = .ok changed → changed.tag = member.tag) :
    (scene.adjustedMember index answer).Quiet scene := by
  cases answer with
  | error cause => exact quiet_tell _
  | ok changed => exact ⟨Compound.quiet_put found (same changed rfl), rfl⟩

theorem quiet_step (steps : Count) : (scene.step steps).Quiet scene := by
  have quiet := Compound.quiet_step steps scene.contexts scene.compound
  rw [step]
  cases (scene.compound.step steps scene.contexts).answer <;>
    exact ⟨quiet, rfl⟩

theorem quiet_stepMember
    {index : Nat} {member : Member setting size}
    (found : scene.compound.members[index]? = some member) (steps : Count) :
    (scene.stepMember index steps member).Quiet scene := by
  rw [stepMember]
  cases stepped : member.step steps scene.contexts with
  | error cause => exact quiet_tell _
  | ok result => exact ⟨Compound.quiet_put_of_step found stepped, rfl⟩

theorem quiet_change
    {index : Nat} {member : Member setting size}
    (found : scene.compound.members[index]? = some member)
    {changes : Changes size} (parameters : changes.OfParameters) :
    (scene.change index changes member).Quiet scene := by
  rw [change]
  cases made : changes.make scene.contexts member with
  | none => exact quiet_tell _
  | some result =>
      rcases result with ⟨answer, changed, notes⟩
      rcases Changes.tag_of_make parameters made with ⟨same, rfl⟩
      exact ⟨Compound.quiet_put found same, rfl⟩

theorem quiet_ran {Memory : Type}
    (schedule : Schedule) (observer : Observer Event Memory) (memory : Memory)
    (events : List Event) :
    (scene.ran (schedule.run observer memory scene.compound scene.contexts)
      events).Quiet scene :=
  ⟨schedule.quiet_run observer memory scene.compound scene.contexts, rfl⟩

end Scene

/-- An ordinary request is quiet. -/
theorem Request.quiet_perform
    {request : Request setting size} (ordinary : request.Ordinary)
    (scene : Scene setting size) : (request.perform scene).Quiet scene := by
  cases request with
  | add draft => exact ordinary.elim
  | bind context => exact ordinary.elim
  | release => exact ordinary.elim
  | replace => exact ordinary.elim
  | select index =>
      have quiet := Compound.quiet_select index scene.compound
      rw [← Compound.journal_select index scene.compound] at quiet
      rw [perform]
      generalize scene.compound.select index = result at quiet ⊢
      rcases result with ⟨answer, compound, trace⟩
      cases answer <;> exact ⟨quiet, rfl⟩
  | step steps => exact Scene.quiet_step steps
  | setStepSize _ | setTolerance _ =>
      exact Scene.quiet_adjusted fun _ => Compound.quiet_adjust
  | stepMember index steps =>
      exact Scene.quiet_withMember fun _ found =>
        Scene.quiet_stepMember found steps
  | setMemberStepSize _ _ | setMemberTolerance _ _ =>
      exact Scene.quiet_withMember fun _ found =>
        Scene.quiet_adjustedMember found fun _ => Member.tag_of_adjust
  | inspect index kind =>
      exact Scene.quiet_withMember fun _ _ => Scene.quiet_tell _
  | change index changes =>
      exact Scene.quiet_withMember fun _ found =>
        Scene.quiet_change found ordinary
  | poke context poke => exact ⟨Compound.Quiet.refl scene.compound, rfl⟩
  | runSchedule segments chunks rule =>
      rw [perform]
      split
      · exact Scene.quiet_tell _
      · cases rule with
        | none => exact Scene.quiet_ran _ _ _ _
        | some rule => exact Scene.quiet_ran _ _ _ _
  | watch schedule stops => exact Scene.quiet_ran _ _ _ _
  | stepSize => exact Scene.quiet_ask _ _
  | tolerance => exact Scene.quiet_ask _ _
  | kineticEnergy => exact Scene.quiet_ask _ _
  | view index => exact Scene.quiet_ask _ _
  | _ => exact Scene.quiet_tell _

/-! ## Requests that reach the ties -/

/-- A member that has just been made is attached to nothing. -/
theorem Draft.tag_of_build
    {draft : Draft setting} {serial : Nat} {member : Member setting size}
    (built : draft.build serial = .ok member) :
    member.tag.serial = serial ∧ member.tag.attachment = none := by
  cases draft with
  | recorder draft =>
      cases built
      exact ⟨rfl, rfl⟩
  | idle =>
      cases built
      exact ⟨rfl, rfl⟩
  | dynamics scheme stepSize =>
      rcases Member.ofDynamics_eq_ok_iff.mp built with ⟨_, made, rfl⟩
      rcases bind_eq_ok_iff.mp made with ⟨dynamics, begun, made⟩
      rcases bind_eq_ok_iff.mp made with ⟨checked, -, made⟩
      rcases bind_eq_ok_iff.mp begun with ⟨accepted, -, begun⟩
      cases pure_eq_ok_iff.mp made
      cases pure_eq_ok_iff.mp begun
      exact ⟨rfl, rfl⟩

namespace Scene

variable {scene : Scene setting size}

/-- An addition does nothing, or drops the new member, or appends it. -/
theorem add_cases (scene : Scene setting size) (draft : Draft setting) :
    (∃ cause,
      (draft.build scene.made : Except Member.Failure (Member setting size)) =
        .error cause ∧
      scene.add draft = scene.tell (.error (.member cause))) ∨
    (∃ member : Member setting size, draft.build scene.made = .ok member ∧
      scene.compound.bound = true ∧
      scene.add draft =
        ⟨.error (.compound .alreadyBound),
          { scene with made := scene.made + 1 },
          ⟨member.notes .drop, []⟩⟩) ∨
    (∃ member : Member setting size, draft.build scene.made = .ok member ∧
      scene.compound.bound = false ∧
      scene.add draft =
        ⟨.ok (.number scene.compound.members.length),
          { scene with
            compound :=
              { scene.compound with
                members := scene.compound.members ++ [member] }
            made := scene.made + 1 },
          .ofNotice (.added scene.compound.members.length)⟩) := by
  rw [add]
  cases built :
    (draft.build scene.made : Except Member.Failure (Member setting size)) with
  | error cause => exact .inl ⟨cause, rfl, rfl⟩
  | ok member =>
      cases bound : scene.compound.bound with
      | true =>
          refine .inr (.inl ⟨member, rfl, rfl, ?_⟩)
          simp [Compound.add, bound, done, withCompound]
      | false =>
          refine .inr (.inr ⟨member, rfl, rfl, ?_⟩)
          simp [Compound.add, bound, done, withCompound]

theorem bind_compound
    (context : Fin size) (scene : Scene setting size) :
    ((Request.bind context).perform scene).scene =
        scene.withCompound (scene.compound.bind context scene.contexts).2.1 ∧
      ((Request.bind context).perform scene).trace =
        (scene.compound.bind context scene.contexts).2.2 ∧
      ((Request.bind context).perform scene).answer.isOk =
        (scene.compound.bind context scene.contexts).1.isOk := by
  rw [Request.perform]
  rcases scene.compound.bind context scene.contexts with
    ⟨answer, compound, trace⟩
  cases answer <;> exact ⟨rfl, rfl, rfl⟩

end Scene

/-- The context that a compound is tied to after a request that was answered. -/
def Request.tieAfter (old : Option (Fin size)) (success : Bool) :
    Request setting size → Option (Fin size)
  | .bind context => if success then some context else none
  | .release => none
  | .replace => none
  | _ => old

theorem Request.tieAfter_of_ordinary
    {request : Request setting size} (ordinary : request.Ordinary)
    (old : Option (Fin size)) (success : Bool) :
    request.tieAfter old success = old := by
  cases request <;> first | rfl | exact ordinary.elim

/-- What an orderly request makes of the ties of its compound. -/
theorem Request.tied_perform
    {request : Request setting size} (orderly : request.Orderly)
    {scene : Scene setting size} {old : Option (Fin size)}
    (tied : scene.compound.Tied old) :
    (request.perform scene).scene.compound.Tied
      (request.tieAfter old (request.perform scene).answer.isOk) := by
  rcases Request.cases_of_orderly orderly with
    ⟨draft, rfl⟩ | ⟨context, rfl⟩ | rfl | rfl | ordinary
  · show (scene.add draft).scene.compound.Tied old
    rcases scene.add_cases draft with
      ⟨cause, -, equality⟩ | ⟨member, -, -, equality⟩ |
        ⟨member, built, unbound, equality⟩
    · rw [equality]
      exact tied
    · rw [equality]
      exact tied
    · rw [equality]
      refine ⟨tied.bound_eq, ?_⟩
      have absent := tied.bound_eq
      rw [unbound] at absent
      cases old with
      | some context => cases absent
      | none =>
          intro tag found active
          simp only [Compound.tags, List.map_append, List.map_cons,
            List.map_nil, List.mem_append, List.mem_singleton] at found
          rcases found with found | rfl
          · exact tied.attachment_eq tag found active
          · exact (Draft.tag_of_build built).2
  · rcases Scene.bind_compound context scene with ⟨left, -, answered⟩
    have bound := tied.bind context scene.contexts
    rw [left, answered]
    cases answer : (scene.compound.bind context scene.contexts).1 with
    | error cause =>
        rw [answer] at bound
        exact bound
    | ok nothing =>
        rw [answer] at bound
        exact bound
  · exact tied.release
  · exact Compound.tied_empty
  · rw [Request.tieAfter_of_ordinary ordinary]
    exact (Request.quiet_perform ordinary scene).1.tied tied

end Stepping
