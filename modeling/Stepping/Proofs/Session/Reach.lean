import Stepping.Proofs.Session.Lifecycle

/-!
# How far operations reach

A member reads and writes the context that it is attached to and no other, so a
compound that is tied to a context reaches that one alone, and a compound that
is tied to none reaches none.  Selections and steps pass this on to whole runs,
however they end, and the remaining requests for a compound leave every context
as it is.

Over an orderly session the context in reach is that of the most recent bind
that succeeded, as long as the compound is bound.  A context that a compound has
lost by a rebind, a failed rebind or a release stays out of its reach until the
compound is bound to it again.
-/

namespace Stepping

variable {setting : Setting} {size : Nat} {Memory : Type}

/-! ## Contexts out of reach -/

/-- No context differs but the one in reach, if one is. -/
def Contexts.Confined (reach : Option (Fin size))
    (before after : Contexts setting size) : Prop :=
  ∀ context, reach ≠ some context → after.get context = before.get context

namespace Contexts

theorem Confined.refl
    (reach : Option (Fin size)) (contexts : Contexts setting size) :
    Confined reach contexts contexts := by
  intro context _
  rfl

theorem Confined.trans
    {reach : Option (Fin size)} {first second third : Contexts setting size}
    (left : Confined reach first second)
    (right : Confined reach second third) : Confined reach first third := by
  intro context apart
  exact (right context apart).trans (left context apart)

theorem confined_set
    (contexts : Contexts setting size) (context : Fin size)
    (value : Context setting) :
    Confined (some context) contexts
      (contexts.set context value context.isLt) := by
  intro other apart
  have distinct : context.val ≠ other.val := by
    intro same
    exact apart (congrArg some (Fin.ext same))
  show (contexts.set context value context.isLt)[other.val] =
    contexts[other.val]
  simp [distinct]

theorem Confined.eq_of_none
    {before after : Contexts setting size}
    (confined : Confined none before after) : after = before := by
  apply Vector.ext
  intro index inside
  exact confined ⟨index, inside⟩ (Option.some_ne_none _).symm

end Contexts

/-! ## Members and compounds -/

theorem Member.confined_of_step
    {member moved : Member setting size} {steps : Count}
    {contexts after : Contexts setting size}
    (stepped : member.step steps contexts = .ok (moved, after)) :
    Contexts.Confined member.attachment contexts after := by
  cases member with
  | recorder recorder =>
      obtain ⟨⟨changed, clocks⟩, accepted, equality⟩ :=
        ofRecorder_eq_ok_iff.mp stepped
      obtain ⟨context, live, result⟩ := Recorder.step_eq_ok_iff.mp accepted
      cases result
      cases equality
      show Contexts.Confined recorder.attachment _ _
      rw [Recorder.attachment_of_live live]
      exact Contexts.confined_set contexts context _
  | dynamics scheme dynamics =>
      obtain ⟨⟨changed, systems⟩, accepted, equality⟩ :=
        ofDynamics_eq_ok_iff.mp stepped
      obtain ⟨context, attached, result⟩ := Dynamics.step_eq_ok_iff.mp accepted
      cases result
      cases equality
      show Contexts.Confined dynamics.attachment _ _
      rw [Dynamics.attachment_of_system attached]
      exact Contexts.confined_set contexts context _
  | idle serial =>
      cases stepped
      exact Contexts.Confined.refl _ _

namespace Compound

/-- A member of a tied compound reaches no further than its compound. -/
theorem Tied.confined_of_step
    {compound : Compound setting size} {context : Option (Fin size)}
    (tied : compound.Tied context) {index : Nat}
    {member moved : Member setting size}
    (found : compound.members[index]? = some member)
    {steps : Count} {contexts after : Contexts setting size}
    (stepped : member.step steps contexts = .ok (moved, after)) :
    Contexts.Confined context contexts after := by
  by_cases idle : member.kind = .idle
  · have untouched := Member.confined_of_step stepped
    rw [Member.attachment_of_idle idle] at untouched
    rw [untouched.eq_of_none]
    exact Contexts.Confined.refl context contexts
  · rw [← tied.attachment_of_getElem? found idle]
    exact Member.confined_of_step stepped

theorem Tied.confined_step
    {compound : Compound setting size} {context : Option (Fin size)}
    (tied : compound.Tied context) (steps : Count)
    (contexts : Contexts setting size) :
    Contexts.Confined context contexts (compound.step steps contexts).contexts := by
  cases answer : (compound.step steps contexts).answer with
  | ok nothing =>
      rcases step_of_ok answer with
        ⟨-, member, moved, after, found, stepped, equality⟩
      rw [equality]
      exact tied.confined_of_step found stepped
  | error cause =>
      rcases step_of_error answer with ⟨-, same, -, -⟩
      rw [same]
      exact Contexts.Confined.refl context contexts

end Compound

/-- To keep ties and to be confined by them is handed on along a run. -/
theorem confinedChain :
    Chain fun (before : Compound setting size × Contexts setting size) _ after =>
        ∀ context, before.1.Tied context →
          after.1.Tied context ∧
            Contexts.Confined context before.2 after.2 where
  refl := fun state context tied =>
    ⟨tied, Contexts.Confined.refl context state.2⟩
  trans := by
    intro first second third earlier later left right context tied
    rcases left context tied with ⟨middle, near⟩
    rcases right context middle with ⟨last, far⟩
    exact ⟨last, near.trans far⟩
  select := by
    intro compound contexts index context tied
    exact
      ⟨(Compound.quiet_select index compound).tied tied,
        Contexts.Confined.refl context contexts⟩
  step := by
    intro compound contexts count context tied
    exact
      ⟨(Compound.quiet_step count contexts compound).tied tied,
        tied.confined_step count contexts⟩
  begun := fun state _ _ _ context tied =>
    ⟨tied, Contexts.Confined.refl context state.2⟩
  stopped := fun state _ context tied =>
    ⟨tied, Contexts.Confined.refl context state.2⟩

theorem Schedule.confined_run
    (schedule : Schedule) (observer : Observer Event Memory) (memory : Memory)
    {compound : Compound setting size} {context : Option (Fin size)}
    (tied : compound.Tied context) (contexts : Contexts setting size) :
    Contexts.Confined context contexts
      (schedule.run observer memory compound contexts).standing.contexts :=
  (confinedChain.run schedule observer memory compound contexts context tied).2

/-! ## Requests -/

/-- A request that changes a context past all compounds. -/
def Request.IsPoke : Request setting size → Prop
  | .poke _ _ => True
  | _ => False

/-- A request by which no member takes steps and no context is changed past the compound. -/
def Request.Still : Request setting size → Prop
  | .step _ => False
  | .stepMember _ _ => False
  | .poke _ _ => False
  | .runSchedule _ _ _ => False
  | .watch _ _ => False
  | _ => True

namespace Scene

variable {scene : Scene setting size}

theorem contexts_ask {α : Type} (value : α → Value setting size)
    (answer : Except Compound.Failure α) :
    (scene.ask value answer).scene.contexts = scene.contexts := by
  cases answer <;> rfl

theorem contexts_done {α : Type} (value : α → Value setting size)
    (result : Except Compound.Failure α × Compound setting size × Trace) :
    (scene.done value result).scene.contexts = scene.contexts := by
  rcases result with ⟨answer, compound, trace⟩
  cases answer <;> rfl

theorem contexts_adjusted
    (answer : Except Compound.Failure (Compound setting size)) :
    (scene.adjusted answer).scene.contexts = scene.contexts := by
  cases answer <;> rfl

theorem contexts_adjustedMember (index : Nat)
    (answer : Except Member.Failure (Member setting size)) :
    (scene.adjustedMember index answer).scene.contexts = scene.contexts := by
  cases answer <;> rfl

theorem contexts_add (draft : Draft setting) :
    (scene.add draft).scene.contexts = scene.contexts := by
  rcases scene.add_cases draft with
    ⟨cause, -, equality⟩ | ⟨member, -, -, equality⟩ |
      ⟨member, -, -, equality⟩
  · rw [equality]
    rfl
  · rw [equality]
  · rw [equality]

theorem contexts_change (index : Nat) (changes : Changes size)
    (member : Member setting size) :
    (scene.change index changes member).scene.contexts = scene.contexts := by
  rw [change]
  split <;> rfl

theorem contexts_withMember
    {index : Nat} {action : Member setting size → Effect setting size}
    (still : ∀ member, (action member).scene.contexts = scene.contexts) :
    (scene.withMember index action).scene.contexts = scene.contexts := by
  rw [withMember]
  split
  · exact still _
  · rfl

end Scene

theorem Request.contexts_perform
    {request : Request setting size} (still : request.Still)
    (scene : Scene setting size) :
    (request.perform scene).scene.contexts = scene.contexts := by
  cases request with
  | step steps => exact still.elim
  | stepMember index steps => exact still.elim
  | poke context poke => exact still.elim
  | runSchedule segments chunks rule => exact still.elim
  | watch schedule stops => exact still.elim
  | add draft => exact Scene.contexts_add draft
  | select index => exact Scene.contexts_done _ _
  | bind context => exact Scene.contexts_done _ _
  | setStepSize _ | setTolerance _ => exact Scene.contexts_adjusted _
  | stepSize => exact Scene.contexts_ask _ _
  | tolerance => exact Scene.contexts_ask _ _
  | kineticEnergy => exact Scene.contexts_ask _ _
  | view index => exact Scene.contexts_ask _ _
  | setMemberStepSize index _ | setMemberTolerance index _ =>
      exact
        Scene.contexts_withMember fun _ =>
          Scene.contexts_adjustedMember index _
  | inspect index kind => exact Scene.contexts_withMember fun _ => rfl
  | change index changes =>
      exact
        Scene.contexts_withMember fun member =>
          Scene.contexts_change index changes member
  | _ => rfl

/-- A request for a tied compound reaches no further than the compound is tied. -/
theorem Request.confined_perform
    {request : Request setting size} (direct : ¬ request.IsPoke)
    {scene : Scene setting size} {context : Option (Fin size)}
    (tied : scene.compound.Tied context) :
    Contexts.Confined context scene.contexts
      (request.perform scene).scene.contexts := by
  have still (quiet : request.Still) :
      Contexts.Confined context scene.contexts
        (request.perform scene).scene.contexts := by
    rw [Request.contexts_perform quiet]
    exact Contexts.Confined.refl context scene.contexts
  cases request with
  | poke place poke => exact (direct trivial).elim
  | step steps =>
      have confined := tied.confined_step steps scene.contexts
      rw [perform, Scene.step]
      split <;> exact confined
  | stepMember index steps =>
      rw [perform, Scene.withMember, Compound.member]
      cases found : scene.compound.members[index]? with
      | none => exact Contexts.Confined.refl context scene.contexts
      | some member =>
          dsimp only
          rw [Scene.stepMember]
          cases stepped : member.step steps scene.contexts with
          | error cause => exact Contexts.Confined.refl context scene.contexts
          | ok result => exact tied.confined_of_step found stepped
  | runSchedule segments chunks rule =>
      rw [perform]
      split
      · exact Contexts.Confined.refl context scene.contexts
      · cases rule with
        | none => exact Schedule.confined_run _ _ _ tied _
        | some rule => exact Schedule.confined_run _ _ _ tied _
  | watch schedule stops => exact schedule.confined_run _ _ tied _
  | _ => exact still trivial

/-! ## Sessions -/

namespace World

variable {compounds : Nat}

/-- A compound is tied elsewhere than to a context, or to none. -/
def Away (left : Fin size) (compound : Fin compounds)
    (world : World setting compounds size) : Prop :=
  ∃ tie, (world.compounds.get compound).Tied tie ∧ tie ≠ some left

theorem Away.perform
    {left : Fin size} {compound : Fin compounds}
    {world : World setting compounds size} (away : world.Away left compound)
    {operation : Operation setting compounds size}
    (orderly : operation.request.Orderly)
    (other :
      ¬ (operation.compound = compound ∧ operation.request = .bind left)) :
    (world.perform operation).1.Away left compound := by
  rcases away with ⟨tie, tied, apart⟩
  rcases operation with ⟨target, request⟩
  by_cases same : target = compound
  · subst same
    let scene : Scene setting size :=
      ⟨world.compounds.get target, world.contexts, world.made⟩
    have before : scene.compound.Tied tie := tied
    have after := Request.tied_perform orderly before
    have same := world.compound_perform_self ⟨target, request⟩
    rw [Away, same]
    refine ⟨_, after, ?_⟩
    cases request with
    | bind context =>
        rw [Request.tieAfter]
        split
        · intro equality
          cases equality
          exact other ⟨rfl, rfl⟩
        · exact (Option.some_ne_none left).symm
    | release => exact (Option.some_ne_none left).symm
    | replace => exact (Option.some_ne_none left).symm
    | _ => exact apart
  · refine ⟨tie, ?_, apart⟩
    rw [world.compound_perform_of_ne same]
    exact tied

theorem Away.performAll
    {left : Fin size} {compound : Fin compounds}
    {world : World setting compounds size} (away : world.Away left compound)
    {operations : List (Operation setting compounds size)}
    (orderly : ∀ operation ∈ operations, operation.request.Orderly)
    (others :
      ∀ operation ∈ operations,
        ¬ (operation.compound = compound ∧ operation.request = .bind left)) :
    (world.performAll operations).1.Away left compound :=
  holds_performAll (Away left compound)
    (fun operation member _ away =>
      away.perform (orderly operation member) (others operation member))
    away

theorem confined_perform
    (world : World setting compounds size)
    {operation : Operation setting compounds size}
    (direct : ¬ operation.request.IsPoke) {context : Option (Fin size)}
    (tied : (world.compounds.get operation.compound).Tied context) :
    Contexts.Confined context world.contexts
      (world.perform operation).1.contexts := by
  let scene : Scene setting size :=
    ⟨world.compounds.get operation.compound, world.contexts, world.made⟩
  have before : scene.compound.Tied context := tied
  exact Request.confined_perform direct before

/--
After an orderly session an operation on a compound that is not bound leaves all
contexts as they are, and one on a bound compound all but the context of its most
recent bind that succeeded.  No operation changes another compound.  A context
that the compound is not bound to stays as it is under the operation also after
any further operations by which the compound is not bound to that context.
-/
theorem reach_of_perform
    (contexts : Contexts setting size)
    (operations : List (Operation setting compounds size))
    (orderly : ∀ operation ∈ operations, operation.request.Orderly)
    (operation : Operation setting compounds size)
    (direct : ¬ operation.request.IsPoke) :
    let session := (start compounds contexts).performAll operations
    let world := session.1
    let compound := world.compounds.get operation.compound
    let latest := lastBound operation.compound (operations.zip session.2)
    let next := (world.perform operation).1
    (compound.bound = false → next.contexts = world.contexts) ∧
    (compound.bound = true →
      ∃ context, latest = some context ∧
        ∀ other, other ≠ context →
          next.contexts.get other = world.contexts.get other) ∧
    (∀ other, other ≠ operation.compound →
      next.compounds.get other = world.compounds.get other) ∧
    (∀ left, (compound.bound = true → latest ≠ some left) →
      ∀ further : List (Operation setting compounds size),
        (∀ later ∈ further, later.request.Orderly) →
        (∀ later ∈ further,
          ¬ (later.compound = operation.compound ∧
            later.request = .bind left)) →
        let reached := (world.performAll further).1
        (reached.perform operation).1.contexts.get left =
          reached.contexts.get left) := by
  intro session world compound latest next
  have tied : compound.Tied (if compound.bound then latest else none) :=
    (tied_start contexts).performAll orderly operation.compound
  have confined := world.confined_perform direct tied
  refine ⟨?_, ?_, ?_, ?_⟩
  · intro unbound
    rw [unbound] at confined
    exact confined.eq_of_none
  · intro bound
    have held := tied.bound_eq
    rw [bound] at held confined
    rcases Option.isSome_iff_exists.mp held.symm with ⟨context, same⟩
    refine ⟨context, same, ?_⟩
    intro other apart
    apply confined other
    intro equality
    exact apart (Option.some.inj (equality.symm.trans same))
  · intro other apart
    exact world.compound_perform_of_ne (Ne.symm apart)
  · intro left lost further easy others reached
    have away : world.Away left operation.compound := by
      refine ⟨_, tied, ?_⟩
      split
      next bound => exact lost bound
      next => exact (Option.some_ne_none left).symm
    rcases away.performAll easy others with ⟨tie, later, apart⟩
    exact reached.confined_perform direct later left apart

/-- A compound that was bound again takes steps; the other one shares its old context. -/
theorem reach_after_rebind :
    let operations : List (Operation .clock 2 2) :=
      [⟨0, .add (.recorder { name := "first" })⟩,
        ⟨1, .add (.recorder { name := "second" })⟩,
        ⟨0, .bind 0⟩,
        ⟨1, .bind 0⟩,
        ⟨0, .bind 1⟩]
    let world := ((start 2 #v[0.0, 0.0]).performAll operations).1
    let next := (world.perform ⟨0, .step 3⟩).1
    next.contexts.get 1 ≠ world.contexts.get 1 ∧
      next.contexts.get 0 = world.contexts.get 0 ∧
      next.compounds.get 1 = world.compounds.get 1 := by
  intro operations world next
  have orderly : ∀ operation ∈ operations, operation.request.Orderly := by
    simp [operations, Request.Orderly]
  have reach :=
    reach_of_perform #v[0.0, 0.0] operations orderly ⟨0, .step 3⟩ id
  rcases reach.2.1 rfl with ⟨context, latest, others⟩
  have second : some (1 : Fin 2) = some context := latest
  cases second
  refine ⟨by decide +kernel, others 0 (by decide), ?_⟩
  exact reach.2.2.1 1 (by decide)

end World

end Stepping
