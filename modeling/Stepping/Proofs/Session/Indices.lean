import Stepping.Proofs.Schedule.Naming
import Stepping.Proofs.Session.Identities
import Stepping.Proofs.Session.Life

/-!
# Members keep their indices

Each addition that succeeds is answered by the number of those before it, and
appends the member that was made.  The index that it answers tells this member
for as long as there is the compound, in whatever way it is used: to look at the
member or to change it, to make it the active one, in a segment of a schedule,
and in a failure that a member is blamed for.
-/

namespace Stepping

variable {setting : Setting} {compounds size : Nat}

/-- What an operation makes of the number of members that a compound has taken. -/
def admitted (home : Fin compounds) (taken : Nat) :
    Operation setting compounds size × Report setting size → Nat
  | (⟨target, .add _⟩, report) =>
      if target = home ∧ report.answer.isOk then taken + 1 else taken
  | (⟨target, .replace⟩, _) => if target = home then 0 else taken
  | _ => taken

/-- The number of additions to a compound that have succeeded. -/
def admissions (home : Fin compounds)
    (history : List (Operation setting compounds size × Report setting size)) :
    Nat :=
  history.foldl (admitted home) 0

theorem admissions_append
    (home : Fin compounds)
    (history : List (Operation setting compounds size × Report setting size))
    (latest : Operation setting compounds size × Report setting size) :
    admissions home (history ++ [latest]) =
      admitted home (admissions home history) latest := by
  rw [admissions, List.foldl_append]
  rfl

/-! ## Whom an index tells -/

/-- A member at a place, in whatever way the place is told to a compound, or by it. -/
structure Scene.Addresses (scene : Scene setting size) (place : Nat)
    (member : Member setting size) : Prop where
  found : scene.compound.member place = .ok member
  viewed :
    ((Request.view place).perform scene).answer =
      .ok (.view (member.view scene.contexts))
  listed :
    ∃ views, (Request.viewAll.perform scene).answer = .ok (.views views) ∧
      views[place]? = some (member.view scene.contexts)
  inspected :
    ∀ kind, ((Request.inspect place kind).perform scene).answer =
      .ok (.member (if member.kind = kind then some member else none))
  stepped :
    ∀ steps, (Request.stepMember place steps).perform scene =
      scene.stepMember place steps member
  adjusted :
    (∀ stepSize, (Request.setMemberStepSize place stepSize).perform scene =
        scene.adjustedMember place (member.setStepSize stepSize)) ∧
      ∀ tolerance, (Request.setMemberTolerance place tolerance).perform scene =
        scene.adjustedMember place (member.setTolerance tolerance)
  changed :
    ∀ changes, (Request.change place changes).perform scene =
      scene.change place changes member
  selected :
    (scene.compound.select place).1 = .ok () ∧
      (scene.compound.select place).2.1.activeMember = .ok member
  /-- The member that a failure names, as it is, fails for this cause. -/
  blamed :
    ∀ (request : Request setting size) cause,
      (request.perform scene).answer =
          .error (.compound (.member place cause)) →
        member.Complains scene.contexts cause
  /-- So does the member that the failure of a run names, as the run has left it. -/
  blamed_by_run :
    ∀ (schedule : Schedule) (Memory : Type) (observer : Observer Event Memory)
        memory index cause,
      let run := schedule.run observer memory scene.compound scene.contexts
      run.answer = .error ⟨index, .member place cause⟩ →
        ∃ segment failing,
          schedule.segments[index]? = some segment ∧
            segment.member.toNat = place ∧
            run.standing.compound.members[place]? = some failing ∧
            failing.identity = member.identity ∧
            failing.Complains run.standing.contexts cause
  /-- A segment, whenever a run comes to it, takes its steps with the member that it names. -/
  named :
    ∀ (schedule : Schedule), ∀ segment ∈ schedule.segments,
      segment.member.toNat = place →
        ∀ (Memory : Type) (observer : Observer Event Memory) index
            (standing : Standing setting size Memory),
          standing.compound.identities = scene.compound.identities →
            ∃ present moved,
              standing.compound.members[place]? = some present ∧
                present.identity = member.identity ∧
                (Schedule.runSegment observer schedule.chunk index segment
                    standing).Concerns standing index place present moved

namespace Scene

variable {scene : Scene setting size}

theorem withMember_of_found
    {index : Nat} {member : Member setting size}
    (found : scene.compound.members[index]? = some member)
    (action : Member setting size → Effect setting size) :
    scene.withMember index action = action member := by
  simp [withMember, Compound.member, found]

theorem error_of_done {α : Type}
    {value : α → Value setting size}
    {result : Except Compound.Failure α × Compound setting size × Trace}
    {failure : Compound.Failure}
    (failed : (scene.done value result).answer = .error (.compound failure)) :
    result.1 = .error failure := by
  rcases result with ⟨answer, compound, trace⟩
  cases answer with
  | ok value => cases failed
  | error cause =>
      cases failed
      rfl

theorem error_of_ask {α : Type}
    {value : α → Value setting size} {answer : Except Compound.Failure α}
    {failure : Compound.Failure}
    (failed : (scene.ask value answer).answer = .error (.compound failure)) :
    answer = .error failure := by
  cases answer with
  | ok value => cases failed
  | error cause =>
      cases failed
      rfl

theorem error_of_adjusted
    {answer : Except Compound.Failure (Compound setting size)}
    {failure : Compound.Failure}
    (failed : (scene.adjusted answer).answer = .error (.compound failure)) :
    answer = .error failure := by
  cases answer with
  | ok changed => cases failed
  | error cause =>
      cases failed
      rfl

theorem error_of_step
    {steps : Count} {failure : Compound.Failure}
    (failed : (scene.step steps).answer = .error (.compound failure)) :
    (scene.compound.step steps scene.contexts).answer = .error failure := by
  rw [step] at failed
  cases answer : (scene.compound.step steps scene.contexts).answer with
  | ok nothing =>
      rw [answer] at failed
      cases failed
  | error cause =>
      rw [answer] at failed
      cases failed
      rfl

/-- A question that no member is asked blames none. -/
theorem not_blamed_of_activeMember {α : Type}
    {compound : Compound setting size} {result : Member setting size → α}
    {index : Nat} {cause : Member.Failure} :
    (do return result (← compound.activeMember)) ≠
      Except.error (Compound.Failure.member index cause) := by
  intro failed
  rcases bind_eq_error_iff.mp failed with absent | ⟨member, -, failed⟩
  · rw [Compound.activeMember] at absent
    split at absent <;> cases absent
  · cases failed

/-- What is done with a member at an index blames no member in the compound's name. -/
theorem not_blamed_of_withMember
    {place index : Nat} {cause : Member.Failure}
    {action : Member setting size → Effect setting size}
    (own :
      ∀ member failure,
        (action member).answer ≠ .error (.compound failure)) :
    (scene.withMember place action).answer ≠
      .error (.compound (.member index cause)) := by
  rw [withMember, Compound.member]
  cases scene.compound.members[place]? with
  | none => exact fun told => by cases told
  | some member => exact own member _

theorem not_blamed_of_adjustedMember
    {index : Nat} {answer : Except Member.Failure (Member setting size)}
    {failure : Compound.Failure} :
    (scene.adjustedMember index answer).answer ≠ .error (.compound failure) := by
  cases answer <;> exact fun told => by cases told

end Scene

/-- Whomever the failure of a request blames, if it is not that of a run, complains. -/
theorem Request.complains_of_perform
    {request : Request setting size} {scene : Scene setting size} {place : Nat}
    {cause : Member.Failure}
    (failed :
      (request.perform scene).answer =
        .error (.compound (.member place cause))) :
    ∃ member, scene.compound.members[place]? = some member ∧
      member.Complains scene.contexts cause := by
  cases request with
  | step steps => exact Compound.complains_of_step (Scene.error_of_step failed)
  | setStepSize _ | setTolerance _ =>
      exact Compound.complains_of_adjust (Scene.error_of_adjusted failed) _
  | kineticEnergy =>
      exact Compound.complains_of_kineticEnergy (Scene.error_of_ask failed)
  | bind context => exact Compound.complains_of_bind (Scene.error_of_done failed)
  | stepSize =>
      exact (Scene.not_blamed_of_activeMember (Scene.error_of_ask failed)).elim
  | tolerance =>
      exact (Scene.not_blamed_of_activeMember (Scene.error_of_ask failed)).elim
  | select index =>
      have answer := Scene.error_of_done failed
      rw [Compound.select] at answer
      split_ifs at answer
      cases answer
  | view index =>
      have answer := Scene.error_of_ask failed
      rw [Compound.member] at answer
      split at answer <;> cases answer
  | add draft =>
      have answer : (scene.add draft).answer = _ := failed
      rcases scene.add_cases draft with
        ⟨other, -, equality⟩ | ⟨member, -, -, equality⟩ |
          ⟨member, -, -, equality⟩ <;>
        · rw [equality] at answer
          cases answer
  | stepMember index steps =>
      refine (Scene.not_blamed_of_withMember ?_ failed).elim
      intro member failure
      rw [Scene.stepMember]
      split <;> exact fun told => by cases told
  | setMemberStepSize _ _ | setMemberTolerance _ _ =>
      refine (Scene.not_blamed_of_withMember ?_ failed).elim
      exact fun _ _ => Scene.not_blamed_of_adjustedMember
  | inspect index kind =>
      refine (Scene.not_blamed_of_withMember ?_ failed).elim
      exact fun _ _ told => by cases told
  | change index changes =>
      refine (Scene.not_blamed_of_withMember ?_ failed).elim
      intro member failure
      rw [Scene.change]
      cases changes.make scene.contexts member with
      | none => exact fun told => by cases told
      | some result =>
          dsimp only
          split <;> exact fun told => by cases told
  | runSchedule segments chunks rule =>
      rw [perform] at failed
      split at failed
      · cases failed
      · cases rule <;>
        · rw [Scene.run, Scene.ran] at failed
          dsimp only at failed
          split at failed <;> cases failed
  | watch schedule stops =>
      rw [perform, Scene.watch, Scene.ran] at failed
      dsimp only at failed
      split at failed <;> cases failed
  | _ => cases failed

/-- A member at an index is the one that the index tells, in whatever way. -/
theorem Scene.addresses_of_found
    {scene : Scene setting size} {place : Nat} {member : Member setting size}
    (found : scene.compound.members[place]? = some member) :
    scene.Addresses place member where
  found := by rw [Compound.member, found]
  viewed := by
    rw [Request.perform, Compound.member, found]
    rfl
  listed := by
    refine ⟨_, rfl, ?_⟩
    rw [List.getElem?_map, found]
    rfl
  inspected := fun kind => by
    rw [Request.perform, withMember_of_found found]
    rfl
  stepped := fun steps => withMember_of_found found _
  adjusted :=
    ⟨fun _ => withMember_of_found found _, fun _ => withMember_of_found found _⟩
  changed := fun changes => withMember_of_found found _
  selected := by
    have inside := (List.getElem?_eq_some_iff.mp found).1
    rw [Compound.select, if_pos inside]
    exact ⟨rfl, Compound.activeMember_eq_ok_iff.mpr found⟩
  blamed := by
    intro request cause failed
    rcases Request.complains_of_perform failed with
      ⟨other, there, complains⟩
    cases found.symm.trans there
    exact complains
  blamed_by_run := by
    intro schedule Memory observer memory index cause run failed
    rcases Schedule.complains_of_run failed with
      ⟨segment, failing, listed, named, there, complains⟩
    have same :=
      identityCourse.run schedule observer memory scene.compound scene.contexts
    have identity :
        run.standing.compound.identities[place]? = some member.identity := by
      rw [show run.standing.compound.identities = _ from same]
      exact Compound.identities_eq_some_iff.mpr ⟨member, found, rfl⟩
    rcases Compound.identities_eq_some_iff.mp identity with
      ⟨other, here, own⟩
    cases there.symm.trans here
    exact ⟨segment, failing, listed, named, there, own, complains⟩
  named := by
    rintro schedule segment listed rfl Memory observer index standing same
    have identity :
        standing.compound.identities[segment.member.toNat]? =
          some member.identity := by
      rw [same]
      exact Compound.identities_eq_some_iff.mpr ⟨member, found, rfl⟩
    rcases Compound.identities_eq_some_iff.mp identity with
      ⟨present, there, own⟩
    rcases schedule.concerns_runSegment listed observer index there with
      ⟨moved, concerns⟩
    exact ⟨present, moved, there, own, concerns⟩

namespace World

/-! ## Sessions -/

/-- Every compound has as many members as additions to it have succeeded. -/
def Counted
    (history : List (Operation setting compounds size × Report setting size))
    (world : World setting compounds size) : Prop :=
  ∀ home : Fin compounds,
    (world.compounds.get home).members.length = admissions home history

theorem admitted_of_ne
    {home : Fin compounds} {operation : Operation setting compounds size}
    (other : operation.compound ≠ home) (taken : Nat)
    (report : Report setting size) :
    admitted home taken (operation, report) = taken := by
  rcases operation with ⟨target, request⟩
  have apart : target ≠ home := other
  cases request <;> simp [admitted, apart]

/-- Only an addition that succeeds, and a new compound, make another number. -/
theorem admitted_of_refused
    {home : Fin compounds} {request : Request setting size}
    {report : Report setting size} (stays : request ≠ .replace)
    (refused : ∀ draft, request = .add draft → report.answer.isOk = false)
    (taken : Nat) :
    admitted home taken (⟨home, request⟩, report) = taken := by
  cases request with
  | add draft => simp [admitted, refused draft rfl]
  | replace => exact (stays rfl).elim
  | _ => rfl

theorem Counted.perform
    {history : List (Operation setting compounds size × Report setting size)}
    {world : World setting compounds size} (counted : world.Counted history)
    (operation : Operation setting compounds size) :
    (world.perform operation).1.Counted
      (history ++ [(operation, (world.perform operation).2)]) := by
  intro home
  rw [admissions_append, ← counted home]
  by_cases other : operation.compound ≠ home
  · rw [compound_perform_of_ne world other, admitted_of_ne other]
  · rcases operation with ⟨target, request⟩
    cases not_not.mp other
    by_cases stays : request = .replace
    · subst stays
      rw [compound_perform]
      exact (if_pos rfl).symm
    · rw [compound_perform, ← Compound.length_identities,
        ← Compound.length_identities]
      cases Request.keeps_perform stays (world.scene target) with
      | same refused made_le identities_eq =>
          rw [admitted_of_refused stays refused, identities_eq]
          rfl
      | appended draft member request_eq built unbound answer_eq made_eq
          identities_eq =>
          subst request_eq
          have succeeded :
              (world.perform ⟨target, .add draft⟩).2.answer.isOk = true :=
            congrArg Except.isOk answer_eq
          rw [identities_eq, admitted, if_pos ⟨rfl, succeeded⟩,
            List.length_append]
          rfl

theorem counted_performAll
    (contexts : Contexts setting size)
    (operations : List (Operation setting compounds size)) :
    let session := (start compounds contexts).performAll operations
    session.1.Counted (operations.zip session.2) := by
  have begun : (start compounds contexts).Counted [] := by
    intro home
    rw [compound_start]
    rfl
  exact
    keeps_performAll (fun history world => world.Counted history)
      (fun operation _ _ _ counted => counted.perform operation) [] begun

/-- An addition that succeeds appends the member that was made. -/
theorem appended_of_perform_add
    {world : World setting compounds size} {home : Fin compounds}
    {draft : Draft setting}
    (succeeded :
      (world.perform ⟨home, .add draft⟩).2.answer.isOk = true) :
    ∃ made : Member setting size, draft.build world.made = .ok made ∧
      (world.perform ⟨home, .add draft⟩).2.answer =
        .ok (.number (world.compounds.get home).members.length) ∧
      ((world.perform ⟨home, .add draft⟩).1.compounds.get home).identities =
        (world.compounds.get home).identities ++ [made.identity] := by
  have adds : (Request.add draft : Request setting size) ≠ .replace := nofun
  rw [compound_perform]
  cases Request.keeps_perform adds (world.scene home) with
  | same refused made_le identities_eq =>
      have failed :
          (world.perform ⟨home, .add draft⟩).2.answer.isOk = false :=
        refused draft rfl
      rw [failed] at succeeded
      cases succeeded
  | appended other member request_eq built unbound answer_eq made_eq
      identities_eq =>
      cases request_eq
      exact ⟨member, built, answer_eq, identities_eq⟩

/--
After any operations a compound has as many members as additions to it have
succeeded since it was put in its place, and no two of them are the same.  Each
of these additions was answered by the number of those before it, and by this
index, in whatever way it is used, the compound knows the member that was made
then.  Any further operation but the compound's replacement leaves the members
the ones that they are, in their order, but for an addition to a compound that
is not bound, which may append one.
-/
theorem members_of_performAll
    (contexts : Contexts setting size)
    (operations : List (Operation setting compounds size))
    (home : Fin compounds) :
    let session := (start compounds contexts).performAll operations
    let scene := session.1.scene home
    scene.compound.members.length =
        admissions home (operations.zip session.2) ∧
    (scene.compound.identities.map Identity.serial).Nodup ∧
    (∀ before draft after,
      operations = before ++ ⟨home, .add draft⟩ :: after →
      (∀ operation ∈ after, operation ≠ ⟨home, .replace⟩) →
      let earlier := (start compounds contexts).performAll before
      let answer := (earlier.1.perform ⟨home, .add draft⟩).2.answer
      let place := admissions home (before.zip earlier.2)
      answer.isOk = true →
        answer = .ok (.number place) ∧
        ∃ made present : Member setting size,
          draft.build earlier.1.made = .ok made ∧
            present.identity = made.identity ∧
            scene.Addresses place present) ∧
    (∀ operation, operation ≠ ⟨home, .replace⟩ →
      let next := session.1.perform operation
      let identities := (next.1.compounds.get home).identities
      identities = scene.compound.identities ∨
        ∃ (draft : Draft setting) (made : Member setting size),
          operation = ⟨home, .add draft⟩ ∧
            draft.build session.1.made = .ok made ∧
            scene.compound.bound = false ∧
            next.2.answer = .ok (.number scene.compound.members.length) ∧
            identities = scene.compound.identities ++ [made.identity]) := by
  intro session scene
  refine
    ⟨counted_performAll contexts operations home,
      ((distinct_start contexts).performAll operations).nodup home, ?_, ?_⟩
  · rintro before draft after rfl stays earlier answer place succeeded
    have counted : (earlier.1.compounds.get home).members.length = place :=
      counted_performAll contexts before home
    rcases appended_of_perform_add succeeded with
      ⟨made, built, answered, appended⟩
    rw [counted] at answered
    refine ⟨answered, made, ?_⟩
    have born :
        ((earlier.1.perform ⟨home, .add draft⟩).1.compounds.get
            home).identities[place]? = some made.identity := by
      rw [appended, ← counted, ← Compound.length_identities,
        List.getElem?_concat_length]
    have kept :=
      identities_prefix_performAll
        (earlier.1.perform ⟨home, .add draft⟩).1 stays
    have whole :
        session.1 =
          ((earlier.1.perform ⟨home, .add draft⟩).1.performAll after).1 := by
      show ((start compounds contexts).performAll _).1 = _
      rw [performAll_append]
      rfl
    rw [← whole] at kept
    rcases List.getElem?_eq_some_iff.mp born with ⟨inside, own⟩
    have there : scene.compound.identities[place]? = some made.identity := by
      rw [← own]
      exact List.prefix_iff_getElem?.mp kept place inside
    rcases Compound.identities_eq_some_iff.mp there with
      ⟨present, found, same⟩
    exact ⟨present, built, same, Scene.addresses_of_found found⟩
  · intro operation stays next identities
    rcases session.1.compound_perform_of_stays stays with
      left | ⟨request, rfl, own, left⟩
    · exact .inl (congrArg Compound.identities left)
    · cases Request.keeps_perform own scene with
      | same refused made_le identities_eq =>
          exact .inl ((congrArg Compound.identities left).trans identities_eq)
      | appended draft member request_eq built unbound answer_eq made_eq
          identities_eq =>
          subst request_eq
          exact
            .inr
              ⟨draft, member, rfl, built, unbound, answer_eq,
                (congrArg Compound.identities left).trans identities_eq⟩

end World

end Stepping
