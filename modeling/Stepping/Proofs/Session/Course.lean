import Stepping.Proofs.Member.Identity
import Stepping.Proofs.Schedule.Frame
import Stepping.Proofs.Session.Reach

/-!
# What requests inherit from single calls

But for adding members, replacing the compound and changing a context past all
compounds, a request does nothing that is not made of single calls: to select a
member, to take steps with one, to give one other parameters, to make changes to
one, to bind and to release.  So a relation between the state before, what is
noted and the state after holds of every such request, whatever its outcome, if
it holds of each of these calls, of a run, and of nothing at all.  Requests that
take steps need only what concerns steps and runs, and those that take none need
only the rest.

What members show that depends neither on their attachment nor on their counter
is thus left by all requests but those that give them other parameters or make
changes to them.
-/

namespace Stepping

variable {setting : Setting} {size : Nat}

/-- A relation that selections, binds and releases have. -/
structure BindCalls
    (relation :
      Compound setting size × Contexts setting size → Trace →
        Compound setting size × Contexts setting size → Prop) : Prop where
  refl : ∀ state, relation state .none state
  select :
    ∀ (compound : Compound setting size) contexts index,
      relation (compound, contexts) (compound.select index).2.2
        ((compound.select index).2.1, contexts)
  bind :
    ∀ (compound : Compound setting size) contexts context,
      relation (compound, contexts) (compound.bind context contexts).2.2
        ((compound.bind context contexts).2.1, contexts)
  release :
    ∀ (compound : Compound setting size) contexts,
      relation (compound, contexts) compound.release.2
        (compound.release.1, contexts)

/-- Such a relation that adjustments of members have as well. -/
structure AdjustCalls
    (relation :
      Compound setting size × Contexts setting size → Trace →
        Compound setting size × Contexts setting size → Prop) : Prop
    extends BindCalls relation where
  adjust :
    ∀ {compound : Compound setting size} {contexts index member changed},
      compound.members[index]? = some member →
        member.Adjusted changed →
          relation (compound, contexts) .none
            (compound.put index changed, contexts)

/-- Such a relation that changes past the compound have as well: all but steps have it. -/
structure ChangeCalls
    (relation :
      Compound setting size × Contexts setting size → Trace →
        Compound setting size × Contexts setting size → Prop) : Prop
    extends AdjustCalls relation where
  change :
    ∀ {compound : Compound setting size} {contexts index member changed}
      {changes : Changes size} {answer notes},
      compound.members[index]? = some member →
        changes.make contexts member = some (answer, changed, notes) →
          relation (compound, contexts) ⟨notes, []⟩
            (compound.put index changed, contexts)

/-- A relation that runs have, and steps of any member. -/
structure Motion
    (relation :
      Compound setting size × Contexts setting size → Trace →
        Compound setting size × Contexts setting size → Prop) : Prop
    extends Chain relation where
  move :
    ∀ {compound : Compound setting size} {contexts index member moved after}
      {steps : Count},
      compound.members[index]? = some member →
        member.step steps contexts = .ok (moved, after) →
          relation (compound, contexts) ⟨member.notes (.step steps), []⟩
            (compound.put index moved, after)

/-- A relation that all has that is done with a compound and its members. -/
structure Course
    (relation :
      Compound setting size × Contexts setting size → Trace →
        Compound setting size × Contexts setting size → Prop) : Prop
    extends Motion relation, ChangeCalls relation

/-- What a request works on, but for the number of members made. -/
def Scene.state (scene : Scene setting size) :
    Compound setting size × Contexts setting size :=
  (scene.compound, scene.contexts)

/-- A request that goes on with the members and the contexts that there are. -/
def Request.GoesOn : Request setting size → Prop
  | .add _ => False
  | .poke _ _ => False
  | .replace => False
  | _ => True

/-- A request that makes no changes to a member past its compound. -/
def Request.Unchanging : Request setting size → Prop
  | .change _ _ => False
  | _ => True

/-- A request that gives no member another parameter. -/
def Request.Unadjusting : Request setting size → Prop
  | .setStepSize _ => False
  | .setTolerance _ => False
  | .setMemberStepSize _ _ => False
  | .setMemberTolerance _ _ => False
  | _ => True

/-- A request either goes on, or adds a member, or pokes, or replaces its compound. -/
theorem Request.goesOn_cases (request : Request setting size) :
    (∃ draft, request = .add draft) ∨
      (∃ context poke, request = .poke context poke) ∨
      request = .replace ∨ request.GoesOn := by
  cases request with
  | add draft => exact .inl ⟨draft, rfl⟩
  | poke context poke => exact .inr (.inl ⟨context, poke, rfl⟩)
  | replace => exact .inr (.inr (.inl rfl))
  | _ => exact .inr (.inr (.inr trivial))

/-! ## Adjustments -/

namespace Request

/-- The request to a compound to adjust its active member. -/
def adjust : Adjustment → Request setting size
  | .stepSize time => .setStepSize time
  | .tolerance value => .setTolerance value

/-- The request to adjust the member at an index. -/
def adjustMember (index : Nat) : Adjustment → Request setting size
  | .stepSize time => .setMemberStepSize index time
  | .tolerance value => .setMemberTolerance index value

theorem perform_adjust (adjustment : Adjustment) (scene : Scene setting size) :
    (adjust adjustment).perform scene =
      scene.adjusted (scene.compound.adjust adjustment) := by
  cases adjustment <;> rfl

theorem perform_adjustMember
    (index : Nat) (adjustment : Adjustment) (scene : Scene setting size) :
    (adjustMember index adjustment).perform scene =
      scene.withMember index fun member =>
        scene.adjustedMember index (member.adjust adjustment) := by
  cases adjustment <;> rfl

/-- A request that gives a member another parameter adjusts it, in one way or the other. -/
theorem adjust_cases (request : Request setting size) :
    request.Unadjusting ∨ (∃ adjustment, request = adjust adjustment) ∨
      ∃ index adjustment, request = adjustMember index adjustment := by
  cases request with
  | setStepSize time => exact .inr (.inl ⟨.stepSize time, rfl⟩)
  | setTolerance value => exact .inr (.inl ⟨.tolerance value, rfl⟩)
  | setMemberStepSize index time =>
      exact .inr (.inr ⟨index, .stepSize time, rfl⟩)
  | setMemberTolerance index value =>
      exact .inr (.inr ⟨index, .tolerance value, rfl⟩)
  | _ => exact .inl trivial

end Request

section

variable
  {relation :
    Compound setting size × Contexts setting size → Trace →
      Compound setting size × Contexts setting size → Prop}

/-- An effect that is in a relation to its scene, and by which no member is made. -/
def Effect.Continues (relation :
      Compound setting size × Contexts setting size → Trace →
        Compound setting size × Contexts setting size → Prop)
    (scene : Scene setting size) (effect : Effect setting size) : Prop :=
  relation scene.state effect.trace effect.scene.state ∧
    effect.scene.made = scene.made

namespace Effect

variable {scene : Scene setting size}

theorem continues_tell (refl : ∀ state, relation state .none state)
    (answer : Except Refusal (Value setting size)) :
    (scene.tell answer).Continues relation scene :=
  ⟨refl scene.state, rfl⟩

theorem continues_withMember (refl : ∀ state, relation state .none state)
    {index : Nat} {action : Member setting size → Effect setting size}
    (continues :
      ∀ member, scene.compound.members[index]? = some member →
        (action member).Continues relation scene) :
    (scene.withMember index action).Continues relation scene := by
  rw [Scene.withMember, Compound.member]
  cases found : scene.compound.members[index]? with
  | none => exact continues_tell refl _
  | some member => exact continues member found

end Effect

namespace BindCalls

variable {scene : Scene setting size}

theorem ask {α : Type} (calls : BindCalls relation)
    (value : α → Value setting size) (answer : Except Compound.Failure α) :
    (scene.ask value answer).Continues relation scene := by
  cases answer <;> exact Effect.continues_tell calls.refl _

theorem done {α : Type} (value : α → Value setting size)
    {result : Except Compound.Failure α × Compound setting size × Trace}
    (related :
      relation scene.state result.2.2 (result.2.1, scene.contexts)) :
    (scene.done value result).Continues relation scene := by
  rcases result with ⟨answer, compound, trace⟩
  cases answer <;> exact ⟨related, rfl⟩

/-- Whatever these calls have, a request has that does nothing to single members. -/
theorem perform (calls : BindCalls relation)
    {request : Request setting size} (goesOn : request.GoesOn)
    (still : request.Still) (unchanging : request.Unchanging)
    (unadjusting : request.Unadjusting) (scene : Scene setting size) :
    (request.perform scene).Continues relation scene := by
  cases request with
  | add draft => exact goesOn.elim
  | poke context poke => exact goesOn.elim
  | replace => exact goesOn.elim
  | step steps => exact still.elim
  | stepMember index steps => exact still.elim
  | runSchedule segments chunks rule => exact still.elim
  | watch schedule stops => exact still.elim
  | change index changes => exact unchanging.elim
  | setStepSize _ | setTolerance _ => exact unadjusting.elim
  | setMemberStepSize _ _ | setMemberTolerance _ _ => exact unadjusting.elim
  | select index =>
      exact done _ (calls.select scene.compound scene.contexts index)
  | bind context =>
      exact done _ (calls.bind scene.compound scene.contexts context)
  | release => exact ⟨calls.release scene.compound scene.contexts, rfl⟩
  | inspect index kind => exact
        Effect.continues_withMember calls.refl fun _ _ =>
          Effect.continues_tell calls.refl _
  | stepSize => exact calls.ask _ _
  | tolerance => exact calls.ask _ _
  | kineticEnergy => exact calls.ask _ _
  | view index => exact calls.ask _ _
  | _ => exact Effect.continues_tell calls.refl _

end BindCalls

namespace AdjustCalls

variable {scene : Scene setting size}

theorem adjusted (calls : AdjustCalls relation) (adjustment : Adjustment) :
    (scene.adjusted (scene.compound.adjust adjustment)).Continues relation
      scene := by
  cases accepted : scene.compound.adjust adjustment with
  | error cause => exact Effect.continues_tell calls.refl _
  | ok changed =>
      rcases Compound.adjust_of_ok accepted with ⟨member, new, found, set, rfl⟩
      exact ⟨calls.adjust found ⟨adjustment, set⟩, rfl⟩

theorem adjustedMember (calls : AdjustCalls relation)
    {index : Nat} {member : Member setting size}
    (found : scene.compound.members[index]? = some member)
    (adjustment : Adjustment) :
    (scene.adjustedMember index (member.adjust adjustment)).Continues relation
      scene := by
  cases accepted : member.adjust adjustment with
  | error cause => exact Effect.continues_tell calls.refl _
  | ok new => exact ⟨calls.adjust found ⟨adjustment, accepted⟩, rfl⟩

/-- Whatever these calls have, a request has that makes no changes and takes no steps. -/
theorem perform (calls : AdjustCalls relation)
    {request : Request setting size} (goesOn : request.GoesOn)
    (still : request.Still) (unchanging : request.Unchanging)
    (scene : Scene setting size) :
    (request.perform scene).Continues relation scene := by
  rcases request.adjust_cases with
    unadjusting | ⟨adjustment, rfl⟩ | ⟨index, adjustment, rfl⟩
  · exact calls.toBindCalls.perform goesOn still unchanging unadjusting scene
  · rw [Request.perform_adjust]
    exact calls.adjusted adjustment
  · rw [Request.perform_adjustMember]
    exact Effect.continues_withMember calls.refl fun _ found =>
      calls.adjustedMember found adjustment

end AdjustCalls

namespace ChangeCalls

variable {scene : Scene setting size}

theorem changeMember (calls : ChangeCalls relation)
    {index : Nat} {member : Member setting size}
    (found : scene.compound.members[index]? = some member)
    (changes : Changes size) :
    (scene.change index changes member).Continues relation scene := by
  rw [Scene.change]
  cases made : changes.make scene.contexts member with
  | none => exact Effect.continues_tell calls.refl _
  | some result => exact ⟨calls.change found made, rfl⟩

/-- Whatever single calls have but for steps, a request that takes no steps has. -/
theorem perform (calls : ChangeCalls relation)
    {request : Request setting size} (goesOn : request.GoesOn)
    (still : request.Still) (scene : Scene setting size) :
    (request.perform scene).Continues relation scene := by
  by_cases unchanging : request.Unchanging
  · exact calls.toAdjustCalls.perform goesOn still unchanging scene
  · cases request with
    | change index changes =>
        exact Effect.continues_withMember calls.refl fun _ found =>
          calls.changeMember found changes
    | _ => exact (unchanging trivial).elim

end ChangeCalls

namespace Motion

variable {scene : Scene setting size}

theorem stepActive (motion : Motion relation) (steps : Count) :
    (scene.step steps).Continues relation scene := by
  have related := motion.step scene.compound scene.contexts steps
  rw [Scene.step]
  cases (scene.compound.step steps scene.contexts).answer <;>
    exact ⟨related, rfl⟩

theorem stepMember (motion : Motion relation)
    {index : Nat} {member : Member setting size}
    (found : scene.compound.members[index]? = some member) (steps : Count) :
    (scene.stepMember index steps member).Continues relation scene := by
  rw [Scene.stepMember]
  cases stepped : member.step steps scene.contexts with
  | error cause => exact Effect.continues_tell motion.refl _
  | ok result => exact ⟨motion.move found stepped, rfl⟩

theorem ran {Memory : Type} (motion : Motion relation)
    (schedule : Schedule) (observer : Observer Event Memory) (memory : Memory)
    (events : List Event) :
    (scene.ran (schedule.run observer memory scene.compound scene.contexts)
      events).Continues relation scene :=
  ⟨motion.run schedule observer memory scene.compound scene.contexts, rfl⟩

/-- Whatever steps and runs have, a request that takes steps has. -/
theorem perform (motion : Motion relation)
    {request : Request setting size} (goesOn : request.GoesOn)
    (moving : ¬ request.Still) (scene : Scene setting size) :
    (request.perform scene).Continues relation scene := by
  cases request with
  | step steps => exact motion.stepActive steps
  | stepMember index steps =>
      exact Effect.continues_withMember motion.refl fun _ found =>
        motion.stepMember found steps
  | poke context poke => exact goesOn.elim
  | runSchedule segments chunks rule =>
      rw [Request.perform]
      split
      · exact Effect.continues_tell motion.refl _
      · cases rule with
        | none => exact motion.ran _ _ _ _
        | some rule => exact motion.ran _ _ _ _
  | watch schedule stops => exact motion.ran _ _ _ _
  | _ => exact (moving trivial).elim

end Motion

/-- Whatever all single calls have, a request that goes on has. -/
theorem Course.perform (course : Course relation)
    {request : Request setting size} (goesOn : request.GoesOn)
    (scene : Scene setting size) :
    (request.perform scene).Continues relation scene := by
  by_cases still : request.Still
  · exact course.toChangeCalls.perform goesOn still scene
  · exact course.toMotion.perform goesOn still scene

end

/-! ## What members show -/

section

variable {View : Type} {view : Member setting size → View}

/-- What does not depend on attachments is left by all that is done with a whole compound. -/
theorem bindCalls_of_view
    (blind : ∀ member : Member setting size, view member.detach = view member) :
    BindCalls fun (before : Compound setting size × Contexts setting size) _
        after =>
      after.1.members.map view = before.1.members.map view where
  refl := fun _ => rfl
  select := by
    intro compound contexts index
    rw [Compound.select]
    split <;> rfl
  bind := fun compound contexts context =>
    Compound.map_members_bind blind context contexts compound
  release := fun compound _ => Compound.map_members_release blind compound

/-- What does not depend on counters is left by all steps, be they of a run or not. -/
theorem motion_of_view
    (blind : ∀ member : Member setting size, view member.uncounted = view member) :
    Motion fun (before : Compound setting size × Contexts setting size) _
        after =>
      after.1.members.map view = before.1.members.map view where
  refl := fun _ => rfl
  trans := fun left right => right.trans left
  select := by
    intro compound contexts index
    rw [Compound.select]
    split <;> rfl
  step := by
    intro compound contexts count
    have same := uncountedChain.step compound contexts count
    have seen : view ∘ Member.uncounted = view := funext blind
    rw [← seen, ← List.map_map, same, List.map_map]
  begun := fun _ _ _ _ => rfl
  stopped := fun _ _ => rfl
  move := by
    intro compound contexts index member moved after steps found stepped
    exact
      Compound.map_members_put view found (Member.view_of_step stepped blind)

end

end Stepping
