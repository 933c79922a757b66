import Stepping.Proofs.Compound.Identities
import Stepping.Proofs.Compound.Life
import Stepping.Proofs.Schedule.Breakdown
import Stepping.Proofs.Schedule.Truncation
import Mathlib.Logic.Relation

/-!
# Members that segments name

A segment names a member by its index, and while the segment is run nothing but
this member takes steps.  So all that a segment does to the compound and the
contexts comes of steps of this member; its events name it, whatever is noted is
noted by it, and if the run fails by a member, it is this one.
-/

namespace Stepping

variable {setting : Setting} {size : Nat} {Memory : Type}

/-- What a member and the contexts become by some number of its steps. -/
def Member.Steps
    (before after : Member setting size × Contexts setting size) : Prop :=
  ∃ steps, before.1.step steps before.2 = .ok after

/-- A member that takes steps stays the one that it is. -/
theorem Member.identity_of_steps
    {before after : Member setting size × Contexts setting size}
    (moves : Relation.ReflTransGen Steps before after) :
    after.1.identity = before.1.identity := by
  induction moves with
  | refl => rfl
  | tail earlier last induction =>
      rcases last with ⟨steps, stepped⟩
      exact (identity_of_step stepped).trans induction

/-- A stretch, in the segment of an index, that concerns a single member only. -/
structure Stretch.Concerns (standing : Standing setting size Memory)
    (index place : Nat) (member moved : Member setting size)
    (stretch : Stretch setting size Memory) : Prop where
  /-- The contexts, and what has become of the member, come of its steps. -/
  moves :
    Relation.ReflTransGen Member.Steps (member, standing.contexts)
      (moved, stretch.standing.contexts)
  compound_eq :
    stretch.standing.compound =
      { standing.compound.put place moved with active := place }
  told : ∀ event ∈ stretch.events, event.member.toNat = place
  noted : ∀ entry ∈ stretch.trace.journal, entry.serial = member.serial
  blamed :
    ∀ failure culprit cause,
      stretch.ended = some (.error failure) →
        failure.cause = .member culprit cause →
          failure.segment = index ∧ culprit = place ∧
            moved.Complains stretch.standing.contexts cause

/-- The active member in its own place leaves the compound as it is. -/
theorem Compound.eq_put_of_active
    {compound : Compound setting size} {place : Nat}
    {member : Member setting size} (active : compound.active = place)
    (found : compound.members[place]? = some member) :
    compound = { compound.put place member with active := place } := by
  rcases List.getElem?_eq_some_iff.mp found with ⟨inside, rfl⟩
  subst active
  rw [put, List.set_getElem_self]

namespace Order

/-- If a member makes an order fail, it is the one that the segment names. -/
theorem complains_of_follow
    {observer : Observer Event Memory} {order : Order}
    {standing : Standing setting size Memory}
    (aligned : Aligned standing.compound.active [order])
    {failure : Schedule.Failure} {culprit : Nat} {cause : Member.Failure}
    (failed :
      (order.follow observer standing).ended = some (.error failure))
    (blamed : failure.cause = .member culprit cause) :
    ∃ segment done count failing,
      order = .take failure.segment segment done count ∧
        segment.member.toNat = culprit ∧
        (order.follow observer standing).standing.compound.members[culprit]? =
          some failing ∧
        failing.Complains (order.follow observer standing).standing.contexts
          cause := by
  have state {before after : Compound setting size × Contexts setting size}
      (same : after = before)
      (found : ∃ failing, before.1.members[culprit]? = some failing ∧
        failing.Complains before.2 cause) :
      ∃ failing, after.1.members[culprit]? = some failing ∧
        failing.Complains after.2 cause :=
    same ▸ found
  rcases (failure_of_follow failed).2 with
    ⟨segment, -, -, outside, -⟩ |
      ⟨segment, done, count, taken, answer, same, -⟩ |
      ⟨segment, done, count, taken, stepped, answer, same, -⟩
  · rw [blamed] at outside
    cases outside
  · rw [taken] at aligned
    rw [blamed] at answer
    rcases Compound.step_of_error answer with ⟨-, -, -, active⟩
    rcases state same (Compound.complains_of_step answer) with
      ⟨failing, found, complains⟩
    exact
      ⟨segment, done, count, failing, taken,
        aligned.1.trans (active culprit cause rfl).2.1.symm, found, complains⟩
  · rw [taken] at aligned
    rw [blamed] at answer
    rcases Compound.kineticEnergy_of_error answer with ⟨-, active, -⟩
    rw [Compound.active_step stepped] at active
    rcases state same (Compound.complains_of_kineticEnergy answer) with
      ⟨failing, found, complains⟩
    exact
      ⟨segment, done, count, failing, taken, aligned.1.trans active.symm,
        found, complains⟩

/-- Whatever comes of a chunk, its step is all that it does, and its event names the member. -/
theorem state_of_take
    (observer : Observer Event Memory) (index : Nat) (segment : Segment)
    (done count : Count) (standing : Standing setting size Memory) :
    let outcome := standing.compound.step count standing.contexts
    let stretch := (take index segment done count).follow observer standing
    stretch.standing.compound = outcome.compound ∧
      stretch.standing.contexts = outcome.contexts ∧
      stretch.trace.journal = outcome.trace.journal ∧
      ∀ event ∈ stretch.events, event.member = segment.member := by
  intro outcome stretch
  have taken :
      stretch =
        Schedule.takeChunk observer index segment done count standing :=
    rfl
  cases stepped : outcome.answer with
  | error cause =>
      rw [taken,
        Schedule.takeChunk_of_step_error observer index segment done stepped]
      exact ⟨rfl, rfl, rfl, by simp [Stretch.failing]⟩
  | ok nothing =>
      cases reported : outcome.compound.kineticEnergy outcome.contexts with
      | error cause =>
          rw [taken,
            Schedule.takeChunk_of_energy_error observer index segment done
              stepped reported]
          exact ⟨rfl, rfl, rfl, by simp [Stretch.failing]⟩
      | ok energy =>
          rw [taken,
            Schedule.takeChunk_of_ok observer index segment done stepped
              reported, Stretch.showing]
          dsimp only
          split
          · exact ⟨rfl, rfl, rfl, by simp⟩
          · exact ⟨rfl, rfl, List.append_nil _, by simp⟩

/-- A chunk of a segment concerns the member that the segment names. -/
theorem concerns_take
    (observer : Observer Event Memory) (index : Nat) {segment : Segment}
    (done count : Count) {standing : Standing setting size Memory}
    {member : Member setting size}
    (active : standing.compound.active = segment.member.toNat)
    (found :
      standing.compound.members[segment.member.toNat]? = some member) :
    ∃ moved,
      ((take index segment done count).follow observer standing).Concerns
        standing index segment.member.toNat member moved := by
  have aligned :
      Aligned standing.compound.active [take index segment done count] :=
    ⟨active.symm, trivial⟩
  rcases state_of_take observer index segment done count standing with
    ⟨compound, contexts, journal, events⟩
  have told :
      ∀ event ∈ ((take index segment done count).follow observer
        standing).events, event.member.toNat = segment.member.toNat :=
    fun event shown => congrArg UInt64.toNat (events event shown)
  -- whom a failure blames is known of the member that is there afterwards
  have blame {moved : Member setting size}
      (after :
        ((take index segment done count).follow observer
            standing).standing.compound.members[segment.member.toNat]? =
          some moved)
      (failure : Schedule.Failure) (culprit : Nat) (cause : Member.Failure)
      (failed :
        ((take index segment done count).follow observer standing).ended =
          some (.error failure))
      (blamed : failure.cause = .member culprit cause) :
      failure.segment = index ∧ culprit = segment.member.toNat ∧
        moved.Complains
          ((take index segment done count).follow observer
            standing).standing.contexts cause := by
    rcases complains_of_follow aligned failed blamed with
      ⟨_, _, _, failing, taken, rfl, there, complains⟩
    cases taken
    cases after.symm.trans there
    exact ⟨rfl, rfl, complains⟩
  cases answer : (standing.compound.step count standing.contexts).answer with
  | error cause =>
      rcases Compound.step_of_error answer with ⟨same, still, nothing, -⟩
      rw [same] at compound
      rw [still] at contexts
      rw [nothing] at journal
      refine ⟨member, ?_, ?_, told, ?_, blame (by rw [compound, found])⟩
      · rw [contexts]
      · rw [compound]
        exact Compound.eq_put_of_active active found
      · simp [journal]
  | ok nothing =>
      rcases Compound.step_of_ok answer with
        ⟨-, present, moved, after, there, stepped, outcome⟩
      rw [active] at there
      cases found.symm.trans there
      rw [outcome, active] at compound contexts journal
      have inside := (List.getElem?_eq_some_iff.mp found).1
      refine ⟨moved, ?_, ?_, told, ?_, blame ?_⟩
      · rw [contexts]
        exact .single ⟨count, stepped⟩
      · rw [compound]
        dsimp only
        rw [← active]
        rfl
      · intro entry noted
        rw [journal] at noted
        rw [Member.notes_eq] at noted
        exact (Tag.eq_of_mem_notes noted).1
      · rw [compound]
        exact List.getElem?_set_self inside

end Order

namespace Stretch

/-- What goes on with a member after a stretch that concerns it concerns it too. -/
theorem Concerns.andThen
    {standing : Standing setting size Memory} {index place : Nat}
    {member middle moved : Member setting size}
    {first : Stretch setting size Memory}
    {next : Standing setting size Memory → Stretch setting size Memory}
    (concerns : first.Concerns standing index place member middle)
    (going : first.ended = none)
    (later :
      (next first.standing).Concerns first.standing index place middle moved) :
    (first.andThen next).Concerns standing index place member moved := by
  have same : middle.serial = member.serial :=
    congrArg Identity.serial (Member.identity_of_steps concerns.moves)
  rw [andThen_of_not_ended going]
  refine ⟨concerns.moves.trans later.moves, ?_, ?_, ?_, later.blamed⟩
  · rw [later.compound_eq, concerns.compound_eq]
    simp only [Compound.put, List.set_set]
  · intro event shown
    exact (List.mem_append.mp shown).elim (concerns.told event) (later.told event)
  · intro entry noted
    rcases List.mem_append.mp noted with early | late
    · exact concerns.noted entry early
    · exact (later.noted entry late).trans same

/-- A member that a stretch concerns is there afterwards, and it is the active one. -/
theorem Concerns.there
    {standing : Standing setting size Memory} {index place : Nat}
    {member moved : Member setting size}
    {stretch : Stretch setting size Memory}
    (concerns : stretch.Concerns standing index place member moved)
    (found : standing.compound.members[place]? = some member) :
    stretch.standing.compound.members[place]? = some moved ∧
      stretch.standing.compound.active = place := by
  rw [concerns.compound_eq]
  exact
    ⟨List.getElem?_set_self (List.getElem?_eq_some_iff.mp found).1, rfl⟩

end Stretch

namespace Order

/-- So do all chunks of a segment, one after another. -/
theorem concerns_takes
    (observer : Observer Event Memory) (index : Nat) {segment : Segment}
    {orders : List Order}
    (chunks :
      ∀ order ∈ orders, ∃ done count, order = take index segment done count)
    {standing : Standing setting size Memory} {member : Member setting size}
    (active : standing.compound.active = segment.member.toNat)
    (found :
      standing.compound.members[segment.member.toNat]? = some member) :
    ∃ moved,
      (followAll observer orders standing).Concerns standing index
        segment.member.toNat member moved := by
  induction orders generalizing standing member with
  | nil =>
      refine
        ⟨member, .refl, Compound.eq_put_of_active active found, ?_, ?_, ?_⟩
      · exact List.forall_mem_nil _
      · exact List.forall_mem_nil _
      · intro failure culprit cause ended
        cases ended
  | cons order orders induction =>
      rcases chunks order List.mem_cons_self with ⟨done, count, rfl⟩
      rcases concerns_take observer index done count active found with
        ⟨middle, concerns⟩
      rw [followAll]
      by_cases going :
          ((take index segment done count).follow observer standing).ended =
            none
      · rcases concerns.there found with ⟨there, active⟩
        rcases induction
            (fun next member => chunks next (List.mem_cons_of_mem _ member))
            active there with
          ⟨moved, later⟩
        exact ⟨moved, concerns.andThen going later⟩
      · rw [Stretch.andThen_of_ended going]
        exact ⟨middle, concerns⟩

/-- To begin a segment concerns its member, if it is there. -/
theorem concerns_enter
    (observer : Observer Event Memory) (index : Nat) {segment : Segment}
    {standing : Standing setting size Memory} {member : Member setting size}
    (found :
      standing.compound.members[segment.member.toNat]? = some member) :
    ((enter index segment).follow observer standing).Concerns standing index
      segment.member.toNat member member := by
  rcases List.getElem?_eq_some_iff.mp found with ⟨inside, rfl⟩
  rw [follow_enter_of_lt observer index inside]
  refine ⟨.refl, ?_, ?_, ?_, ?_⟩
  · rw [Stretch.noting, Compound.select, if_pos inside, Compound.put,
      List.set_getElem_self]
  · exact List.forall_mem_nil _
  · intro entry noted
    rw [Stretch.noting, Trace.journal_append, Compound.journal_select] at noted
    cases noted
  · intro failure culprit cause ended
    cases ended

end Order

namespace Schedule

/-- A segment of a schedule, whenever it is run, concerns the member that it names. -/
theorem concerns_runSegment
    (schedule : Schedule) {segment : Segment}
    (listed : segment ∈ schedule.segments)
    (observer : Observer Event Memory) (index : Nat)
    {standing : Standing setting size Memory} {member : Member setting size}
    (found :
      standing.compound.members[segment.member.toNat]? = some member) :
    ∃ moved,
      (runSegment observer schedule.chunk index segment standing).Concerns
        standing index segment.member.toNat member moved := by
  have inside := (List.getElem?_eq_some_iff.mp found).1
  have going :
      ((Order.enter index segment).follow observer standing).ended = none := by
    rw [Order.follow_enter_of_lt observer index inside]
    rfl
  have entered := Order.concerns_enter observer index found
  rcases entered.there found with ⟨there, active⟩
  rw [runSegment_eq observer index
    (schedule.chunk_toNat_pos segment listed), segmentOrders, Order.followAll]
  have chunks :
      ∀ order ∈
          (List.range
            (chunkCount segment.steps (schedule.chunk.getD segment.steps))).map
            (Order.chunkAt index segment (schedule.chunk.getD segment.steps)),
        ∃ done count, order = .take index segment done count := by
    intro order ordered
    rcases List.mem_map.mp ordered with ⟨place, -, rfl⟩
    exact ⟨_, _, rfl⟩
  rcases Order.concerns_takes observer index chunks active there with
    ⟨moved, later⟩
  exact ⟨moved, entered.andThen going later⟩

/-- If a member makes a run fail, it is the one that the segment names. -/
theorem complains_of_run
    {schedule : Schedule} {observer : Observer Event Memory} {memory : Memory}
    {compound : Compound setting size} {contexts : Contexts setting size}
    {index culprit : Nat} {cause : Member.Failure}
    (failed :
      (schedule.run observer memory compound contexts).answer =
        .error ⟨index, .member culprit cause⟩) :
    let run := schedule.run observer memory compound contexts
    ∃ segment failing,
      schedule.segments[index]? = some segment ∧
        segment.member.toNat = culprit ∧
        run.standing.compound.members[culprit]? = some failing ∧
        failing.Complains run.standing.contexts cause := by
  intro run
  rcases halt_of_error failed with ⟨done, order, stretch, passage, halt⟩
  rcases Order.complains_of_follow halt.aligned halt.failed rfl with
    ⟨segment, before, count, failing, taken, named, found, complains⟩
  have standing :
      run.standing = (order.follow observer stretch.standing).standing := by
    show (schedule.run observer memory compound contexts).standing = _
    rw [halt.run_eq, conclude, Stretch.andThen_of_not_ended halt.going]
  rcases halt.split with ⟨rest, split⟩
  have ordered : order ∈ schedule.plan := by
    rw [split]
    exact List.mem_append_right _ List.mem_cons_self
  rw [taken] at ordered
  rw [standing]
  exact
    ⟨segment, failing, getElem?_of_mem_plan ordered, named, found, complains⟩

end Schedule

end Stepping
