import Stepping.Proofs.Schedule.Selections
import Stepping.Proofs.Session.Lifecycle

/-!
# The active member over whole sessions

A compound's active member is that of the last selection that succeeded, be it
asked for directly or made by a run for one of its segments, and the first
member before there was one; a compound that has just been put in the place of
another has had none.  All this can be read off the history of a session.

Since only indices of members can be selected and members are not taken away,
the active member is there as soon as any is.
-/

namespace Stepping

variable {setting : Setting} {compounds size : Nat}

/--
What a request that was answered settles about the last selection: it was made
by the request itself, or there has been none since.
-/
def Request.selected (report : Report setting size) :
    Request setting size → Option (Option Nat)
  | .select index => if report.answer.isOk then some (some index) else none
  | .runSchedule _ _ _ => report.trace.selections.getLast?.map some
  | .watch _ _ => report.trace.selections.getLast?.map some
  | .replace => some none
  | _ => none

/-- What an entry of a history settles about the last selection in a compound. -/
def selectedBy (compound : Fin compounds) :
    Operation setting compounds size × Report setting size →
      Option (Option Nat)
  | (operation, report) =>
      if operation.compound = compound then operation.request.selected report
      else none

/-- The index of a compound's last selection that succeeded, if there was one. -/
def lastSelected (compound : Fin compounds)
    (history : List (Operation setting compounds size × Report setting size)) :
    Option Nat :=
  (history.filterMap (selectedBy compound)).getLast?.join

theorem lastSelected_append
    (compound : Fin compounds)
    (history : List (Operation setting compounds size × Report setting size))
    (latest : Operation setting compounds size × Report setting size) :
    lastSelected compound (history ++ [latest]) =
      (selectedBy compound latest).getD (lastSelected compound history) :=
  getLast?_join_append (selectedBy compound) history latest

/-! ## Requests that select nobody -/

/-- An effect that leaves the compound of a scene with its members and the active one. -/
def Effect.Steady (scene : Scene setting size) (effect : Effect setting size) :
    Prop :=
  scene.compound.Led [] effect.scene.compound

namespace Scene

variable {scene : Scene setting size}

theorem steady_tell (answer : Except Refusal (Value setting size)) :
    (scene.tell answer).Steady scene :=
  .refl scene.compound

theorem steady_ask {α : Type} (value : α → Value setting size)
    (answer : Except Compound.Failure α) :
    (scene.ask value answer).Steady scene := by
  cases answer <;> exact steady_tell _

theorem steady_adjusted
    {answer : Except Compound.Failure (Compound setting size)}
    (accepted :
      ∀ changed, answer = .ok changed → scene.compound.Led [] changed) :
    (scene.adjusted answer).Steady scene := by
  cases answer with
  | error cause => exact steady_tell _
  | ok changed => exact accepted changed rfl

theorem steady_withMember
    {index : Nat} {action : Member setting size → Effect setting size}
    (steady : ∀ member, (action member).Steady scene) :
    (scene.withMember index action).Steady scene := by
  rw [withMember]
  split
  · exact steady _
  · exact steady_tell _

theorem steady_adjustedMember
    (index : Nat) (answer : Except Member.Failure (Member setting size)) :
    (scene.adjustedMember index answer).Steady scene := by
  cases answer with
  | error cause => exact steady_tell _
  | ok changed => exact scene.compound.led_put index changed

theorem steady_step (steps : Count) : (scene.step steps).Steady scene := by
  have led := scene.compound.led_step steps scene.contexts
  rw [step]
  cases (scene.compound.step steps scene.contexts).answer <;> exact led

theorem steady_stepMember
    (index : Nat) (steps : Count) (member : Member setting size) :
    (scene.stepMember index steps member).Steady scene := by
  rw [stepMember]
  cases member.step steps scene.contexts with
  | error cause => exact steady_tell _
  | ok result => exact scene.compound.led_put index result.1

theorem steady_change
    (index : Nat) (changes : Changes size) (member : Member setting size) :
    (scene.change index changes member).Steady scene := by
  rw [change]
  cases changes.make scene.contexts member with
  | none => exact steady_tell _
  | some result => exact scene.compound.led_put index result.2.1

end Scene

/-- A request that neither selects nor adds members, nor replaces its compound. -/
def Request.Steady : Request setting size → Prop
  | .add _ => False
  | .select _ => False
  | .runSchedule _ _ _ => False
  | .watch _ _ => False
  | .replace => False
  | _ => True

theorem Request.selected_of_steady
    {request : Request setting size} (steady : request.Steady)
    (report : Report setting size) : request.selected report = none := by
  cases request <;> first | rfl | exact steady.elim

theorem Request.steady_perform
    {request : Request setting size} (steady : request.Steady)
    (scene : Scene setting size) : (request.perform scene).Steady scene := by
  cases request with
  | add draft => exact steady.elim
  | select index => exact steady.elim
  | runSchedule segments chunks rule => exact steady.elim
  | watch schedule stops => exact steady.elim
  | replace => exact steady.elim
  | step steps => exact Scene.steady_step steps
  | setStepSize _ | setTolerance _ =>
      exact Scene.steady_adjusted fun _ => Compound.led_adjust
  | bind context =>
      rw [Effect.Steady, (Scene.bind_compound context scene).1]
      exact scene.compound.led_bind context scene.contexts
  | release => exact scene.compound.led_release
  | stepMember index steps =>
      exact Scene.steady_withMember (Scene.steady_stepMember index steps)
  | setMemberStepSize index _ | setMemberTolerance index _ =>
      exact Scene.steady_withMember fun _ => Scene.steady_adjustedMember index _
  | inspect index kind =>
      exact Scene.steady_withMember fun _ => Scene.steady_tell _
  | change index changes =>
      exact Scene.steady_withMember (Scene.steady_change index changes)
  | poke context poke => exact .refl scene.compound
  | stepSize => exact Scene.steady_ask _ _
  | tolerance => exact Scene.steady_ask _ _
  | kineticEnergy => exact Scene.steady_ask _ _
  | view index => exact Scene.steady_ask _ _
  | _ => exact Scene.steady_tell _

/-! ## Requests that select or add members -/

/-- What a scene tells of an effect. -/
def Effect.report (effect : Effect setting size) : Report setting size :=
  ⟨effect.answer, effect.scene.compound, effect.trace⟩

namespace Scene

variable {scene : Scene setting size} {last : Option Nat}

theorem points_add
    (points : scene.compound.Points last) (draft : Draft setting) :
    (scene.add draft).scene.compound.Points last := by
  rcases scene.add_cases draft with
    ⟨cause, -, equality⟩ | ⟨member, -, -, equality⟩ |
      ⟨member, -, -, equality⟩
  · rw [equality]
    exact points
  · rw [equality]
    exact points
  · rw [equality]
    exact points.append [member]

theorem points_select
    (points : scene.compound.Points last) (index : Nat) :
    let effect := (Request.select index).perform scene
    effect.scene.compound.Points
      (((Request.select index).selected effect.report).getD last) := by
  rw [Request.perform]
  by_cases inside : index < scene.compound.members.length
  · have led := Compound.led_select inside
    have succeeded := Compound.select_eq_ok_iff.mpr inside
    generalize scene.compound.select index = result at led succeeded ⊢
    rcases result with ⟨answer, chosen, trace⟩
    cases succeeded
    exact points.led led
  · rw [Compound.select_of_not_lt inside]
    exact points

theorem points_ran {Memory : Type}
    (points : scene.compound.Points last) (schedule : Schedule)
    (observer : Observer Event Memory) (memory : Memory) (events : List Event) :
    let run := schedule.run observer memory scene.compound scene.contexts
    let effect := scene.ran run events
    effect.scene.compound.Points
      ((effect.trace.selections.getLast?.map some).getD last) := by
  intro run effect
  have led :=
    schedule.led_run observer memory scene.compound scene.contexts
  have moved := points.led led
  have same :
      (effect.trace.selections.getLast?.map some).getD last =
        run.trace.selections.getLast?.or last := by
    show (run.trace.selections.getLast?.map some).getD last = _
    cases run.trace.selections.getLast? <;> rfl
  rw [same]
  exact moved

end Scene

/-- After a request the number of the active member is that of the selection made last. -/
theorem Request.points_perform
    (request : Request setting size) {scene : Scene setting size}
    {last : Option Nat} (points : scene.compound.Points last) :
    (request.perform scene).scene.compound.Points
      ((request.selected (request.perform scene).report).getD last) := by
  by_cases steady : request.Steady
  · rw [Request.selected_of_steady steady]
    exact points.led (Request.steady_perform steady scene)
  · cases request with
    | add draft => exact Scene.points_add points draft
    | select index => exact Scene.points_select points index
    | runSchedule segments chunks rule =>
        rw [perform]
        split
        · exact points
        · cases rule with
          | none => exact Scene.points_ran points _ _ _ _
          | some rule => exact Scene.points_ran points _ _ _ _
    | watch schedule stops => exact Scene.points_ran points _ _ _ _
    | replace => exact Compound.points_empty
    | _ => exact (steady trivial).elim

namespace World

/-- Every compound points to the member that was selected last. -/
def Points
    (history : List (Operation setting compounds size × Report setting size))
    (world : World setting compounds size) : Prop :=
  ∀ compound : Fin compounds,
    (world.compounds.get compound).Points (lastSelected compound history)

theorem points_start (contexts : Contexts setting size) :
    (start compounds contexts).Points [] := by
  intro compound
  rw [compound_start]
  exact Compound.points_empty

/-- One operation, whatever its outcome, keeps it so. -/
theorem Points.perform
    {history : List (Operation setting compounds size × Report setting size)}
    {world : World setting compounds size} (points : world.Points history)
    (operation : Operation setting compounds size) :
    (world.perform operation).1.Points
      (history ++ [(operation, (world.perform operation).2)]) := by
  intro compound
  rw [lastSelected_append, selectedBy]
  split_ifs with same
  · subst same
    rw [compound_perform_self]
    exact operation.request.points_perform (points operation.compound)
  · rw [compound_perform_of_ne world same]
    exact points compound

/-- So do operations in any number. -/
theorem points_performAll
    (contexts : Contexts setting size)
    (operations : List (Operation setting compounds size)) :
    let session := (start compounds contexts).performAll operations
    session.1.Points (operations.zip session.2) :=
  keeps_performAll (fun history world => world.Points history)
    (fun operation _ _ _ points => points.perform operation)
    [] (points_start contexts)

/--
After any operations, whatever their outcomes, a compound has no active member
just if it has no members; else it is the one that was selected last, or the
first, and it is there.  Just the indices of members can be selected, directly
or by a run, which selects the members of the segments that it begins, in order.
An operation on the active member tells that there is none just if there are no
members, whether or not the compound is bound.
-/
theorem activeIndex_of_performAll
    (contexts : Contexts setting size)
    (operations : List (Operation setting compounds size))
    (index : Fin compounds) :
    let session := (start compounds contexts).performAll operations
    let world := session.1
    let compound := world.compounds.get index
    let last := lastSelected index (operations.zip session.2)
    (compound.activeIndex = none ↔ compound.members = []) ∧
    (compound.members ≠ [] →
      compound.activeIndex = some (last.getD 0) ∧
        last.getD 0 < compound.members.length) ∧
    (∀ place,
      (compound.select place).1 = .ok () ↔ place < compound.members.length) ∧
    (∀ (schedule : Schedule) (Memory : Type)
        (observer : Observer Event Memory) memory,
      let run := schedule.run observer memory compound world.contexts
      run.trace.selections =
          (schedule.segments.take run.begun).map
            (fun segment => segment.member.toNat) ∧
        (∀ place ∈ run.trace.selections, place < compound.members.length) ∧
        run.standing.compound.active =
          run.trace.selections.getLast?.getD compound.active) ∧
    compound.TellsEmpty world.contexts := by
  intro session world compound last
  have points : compound.Points last := points_performAll contexts operations index
  refine
    ⟨Compound.activeIndex_eq_none_iff, ?_, fun _ => Compound.select_eq_ok_iff, ?_,
      points.tellsEmpty world.contexts⟩
  · intro occupied
    have inside := points.active_lt occupied
    rw [points.active_eq] at inside
    exact ⟨points.activeIndex_eq occupied, inside⟩
  · intro schedule Memory observer memory run
    have led := schedule.led_run observer memory compound world.contexts
    exact
      ⟨schedule.selections_run observer memory compound world.contexts,
        led.inside, led.active_eq⟩

end World

end Stepping
