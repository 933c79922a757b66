import Stepping.Proofs.Compound.Sparing
import Stepping.Proofs.Schedule.Naming
import Stepping.Proofs.Schedule.Selections

/-!
# What a run leaves as it is

A run does nothing but make members active and take steps with them.  Whichever
way it ends, all members keep their parameters, their kernels and their
attachments, the compound stays bound or not, and nothing but steps is noted in
the journal.  A member that no segment has named, as far as the run has come,
stays in every way as it is.

The active member afterwards is that of the segment begun last.  This is the last
segment of a run that completes, the segment of the last event of a run that is
stopped, and of a run that fails it is the segment that fails, or the one before
if there is no such member.
-/

namespace Stepping

variable {setting : Setting} {size : Nat} {Memory : Type}

/-! ## What steps leave of members -/

namespace Member

/-- The friction of a member, if it has any. -/
def friction : Member setting size → Option Float
  | .dynamics (.langevin friction) _ => some friction
  | _ => none

/-- One member is another in all but its step counter. -/
structure Keeps (old new : Member setting size) : Prop where
  uncounted_eq : new.uncounted = old.uncounted
  identity_eq : new.identity = old.identity
  stepSize_eq : new.stepSize = old.stepSize
  tolerance_eq : new.tolerance = old.tolerance
  friction_eq : new.friction = old.friction
  kernels_eq : new.kernels = old.kernels
  attachment_eq : new.attachment = old.attachment

/-- What does not look at the counter cannot tell the two members apart. -/
theorem keeps_of_uncounted
    {old new : Member setting size} (same : new.uncounted = old.uncounted) :
    old.Keeps new := by
  have alike {View : Type} (view : Member setting size → View)
      (blind : ∀ member, view (uncounted member) = view member) :
      view new = view old := by
    rw [← blind new, same, blind old]
  exact {
    uncounted_eq := same
    identity_eq := alike identity identity_uncounted
    stepSize_eq := alike stepSize fun member => by cases member <;> rfl
    tolerance_eq := alike tolerance fun member => by cases member <;> rfl
    friction_eq :=
      alike friction fun member => by
        rcases member with _ | ⟨scheme, _⟩ | _
        · rfl
        · cases scheme <;> rfl
        · rfl
    kernels_eq := alike kernels fun member => by cases member <;> rfl
    attachment_eq := alike attachment fun member => by cases member <;> rfl }

end Member

/-- In a run the members of a compound change nothing but their counters. -/
theorem uncountedChain :
    Chain fun (before : Compound setting size × Contexts setting size) _ after =>
      after.1.members.map Member.uncounted =
        before.1.members.map Member.uncounted where
  refl := fun _ => rfl
  trans := fun left right => right.trans left
  select := by
    intro compound contexts index
    rw [Compound.select]
    split <;> rfl
  step := by
    intro compound contexts count
    cases answer : (compound.step count contexts).answer with
    | error cause => rw [(Compound.step_of_error answer).1]
    | ok nothing =>
        rcases Compound.step_of_ok answer with
          ⟨-, member, moved, after, found, stepped, equality⟩
        rw [equality]
        exact
          Compound.map_members_put Member.uncounted found
            (Member.uncounted_of_step stepped)
  begun := fun _ _ _ _ => rfl
  stopped := fun _ _ => rfl

/-! ## Members that no segment names -/

/-- A stretch that concerns one member spares all others. -/
theorem Stretch.Concerns.spares
    {standing : Standing setting size Memory} {index place : Nat}
    {member moved : Member setting size}
    {stretch : Stretch setting size Memory}
    (concerns : stretch.Concerns standing index place member moved)
    (found : standing.compound.members[place]? = some member) :
    standing.compound.Spares [place] stretch.standing.compound := by
  have put :=
    Compound.spares_put found (Member.identity_of_steps concerns.moves)
  rw [concerns.compound_eq]
  exact ⟨put.bound_eq, put.identities_eq, put.others⟩

namespace Schedule

/-- A segment whose member is there selects it. -/
theorem mem_selections_runSegment
    (observer : Observer Event Memory) (chunk : Option Count) (index : Nat)
    {segment : Segment} {standing : Standing setting size Memory}
    (inside : segment.member.toNat < standing.compound.members.length) :
    segment.member.toNat ∈
      (runSegment observer chunk index segment standing).trace.selections := by
  have selected : standing.compound.select segment.member.toNat = _ :=
    if_pos inside
  rw [runSegment, selected]
  dsimp only
  rw [Stretch.andThen_of_not_ended rfl, Trace.selections_append]
  refine List.mem_append_left _ ?_
  rw [Stretch.noting, Trace.selections_append]
  exact List.mem_append_right _ (List.mem_singleton_self _)

/-- A segment spares all members but those that it selects. -/
theorem spares_runSegment
    (schedule : Schedule) {segment : Segment}
    (listed : segment ∈ schedule.segments)
    (observer : Observer Event Memory) (index : Nat)
    (standing : Standing setting size Memory) :
    let stretch := runSegment observer schedule.chunk index segment standing
    standing.compound.Spares stretch.trace.selections
      stretch.standing.compound := by
  intro stretch
  by_cases inside : segment.member.toNat < standing.compound.members.length
  · have found := List.getElem?_eq_getElem inside
    rcases schedule.concerns_runSegment listed observer index found with
      ⟨moved, concerns⟩
    have selected :=
      mem_selections_runSegment observer schedule.chunk index inside
    have among :
        [segment.member.toNat] ⊆ stretch.trace.selections := by
      rw [List.cons_subset]
      exact ⟨selected, List.nil_subset _⟩
    exact (concerns.spares found).mono among
  · have failing :
        stretch =
          .failing index
            (.indexOutOfRange segment.member.toNat
              standing.compound.members.length)
            .none standing := by
      show runSegment observer schedule.chunk index segment standing = _
      rw [runSegment, Compound.select_of_not_lt inside]
    rw [failing]
    exact .refl standing.compound

/-- So do segments one after another. -/
theorem spares_runSegments
    (schedule : Schedule) (observer : Observer Event Memory) (index : Nat)
    {segments : List Segment} (listed : segments ⊆ schedule.segments)
    (standing : Standing setting size Memory) :
    standing.compound.Spares
      (runSegments observer schedule.chunk index segments
        standing).trace.selections
      (runSegments observer schedule.chunk index segments
        standing).standing.compound := by
  induction segments generalizing index standing with
  | nil => exact .refl standing.compound
  | cons segment segments induction =>
      rcases List.cons_subset.mp listed with ⟨first, others⟩
      have here := schedule.spares_runSegment first observer index standing
      rw [runSegments]
      by_cases going :
          (runSegment observer schedule.chunk index segment standing).ended =
            none
      · rw [Stretch.andThen_of_not_ended going, Trace.selections_append]
        exact here.trans (induction (index + 1) others _)
      · rw [Stretch.andThen_of_ended going]
        exact here

/-- A run spares all members but those that it selects. -/
theorem spares_run
    (schedule : Schedule) (observer : Observer Event Memory) (memory : Memory)
    (compound : Compound setting size) (contexts : Contexts setting size) :
    let run := schedule.run observer memory compound contexts
    compound.Spares run.trace.selections run.standing.compound :=
  schedule.spares_runSegments observer 0 (List.Subset.refl _) _

/-! ## The member that is active afterwards -/

/-- The active member is that of the segment begun last, or the one from before. -/
theorem active_run
    (schedule : Schedule) (observer : Observer Event Memory) (memory : Memory)
    (compound : Compound setting size) (contexts : Contexts setting size) :
    let run := schedule.run observer memory compound contexts
    run.standing.compound.active =
      ((schedule.segments.take run.begun).getLast?.map
        fun segment => segment.member.toNat).getD compound.active := by
  intro run
  have led : compound.Led run.trace.selections run.standing.compound :=
    schedule.led_run observer memory compound contexts
  have selections : run.trace.selections = _ :=
    schedule.selections_run observer memory compound contexts
  rw [led.active_eq, selections, List.getLast?_map]

/-- Where a segment is the last one begun, its member is active. -/
theorem active_of_begun
    {schedule : Schedule} {observer : Observer Event Memory} {memory : Memory}
    {compound : Compound setting size} {contexts : Contexts setting size}
    {place : Nat} {segment : Segment}
    (begun :
      (schedule.run observer memory compound contexts).begun = place + 1)
    (found : schedule.segments[place]? = some segment) :
    (schedule.run observer memory compound contexts).standing.compound.active =
      segment.member.toNat := by
  have active := schedule.active_run observer memory compound contexts
  dsimp only at active
  rw [active, begun, List.take_add_one, found]
  simp

/-- A run that completes has finished all segments. -/
theorem segments_of_complete
    {schedule : Schedule} {observer : Observer Event Memory} {memory : Memory}
    {compound : Compound setting size} {contexts : Contexts setting size}
    {segments : Nat} {steps : Count}
    (complete :
      (schedule.run observer memory compound contexts).answer =
        .ok ⟨.complete, segments, steps⟩) :
    segments = schedule.segments.length := by
  rw [run_eq, conclude] at complete
  dsimp only at complete
  cases ended :
      (Order.followAll observer schedule.plan
        ⟨compound, contexts, memory, 0⟩).ended with
  | none =>
      rw [ended] at complete
      cases complete
      rfl
  | some answer =>
      rw [ended] at complete
      cases complete
      cases Order.stopped_of_followAll ended

/-- An event tells the segment that the run is in, and its member. -/
theorem segment_of_mem_events
    {schedule : Schedule} {observer : Observer Event Memory} {memory : Memory}
    {compound : Compound setting size} {contexts : Contexts setting size}
    {event : Event}
    (shown :
      event ∈ (schedule.run observer memory compound contexts).events) :
    ∃ segment, schedule.segments[event.segment]? = some segment ∧
      segment.member = event.member := by
  rw [run_eq] at shown
  have announced :=
    (Order.progress_followAll observer schedule.plan
      ⟨compound, contexts, memory, 0⟩).1
  rw [schedule.announced_plan.1] at announced
  have told : event.progress ∈ schedule.progress :=
    announced.subset (List.mem_map_of_mem shown)
  rcases List.mem_flatMap.mp told with ⟨⟨segment, index⟩, listed, chunk⟩
  rcases List.mem_map.mp chunk with ⟨place, -, same⟩
  have index_eq : index = event.segment := congrArg Progress.segment same
  have member_eq : segment.member = event.member :=
    congrArg Progress.member same
  rw [← index_eq]
  exact ⟨segment, List.mk_mem_zipIdx_iff_getElem?.mp listed, member_eq⟩

/-- A run that is stopped is so at an event. -/
theorem last_event_of_stopped
    {schedule : Schedule} {observer : Observer Event Memory} {memory : Memory}
    {compound : Compound setting size} {contexts : Contexts setting size}
    {segments : Nat} {steps : Count}
    (stopped :
      (schedule.run observer memory compound contexts).answer =
        .ok ⟨.stoppedByObserver, segments, steps⟩) :
    ∃ event,
      (schedule.run observer memory compound contexts).events.getLast? =
        some event := by
  let start : Standing setting size Memory := ⟨compound, contexts, memory, 0⟩
  rw [run_eq, conclude] at stopped ⊢
  dsimp only at stopped ⊢
  cases ended : (Order.followAll observer schedule.plan start).ended with
  | none =>
      rw [ended] at stopped
      cases stopped
  | some answer =>
      rw [ended] at stopped
      cases stopped
      rcases Order.split_of_followAll ended with
        ⟨done, order, rest, -, going, stops, joined⟩
      rcases Order.events_of_asked stops with ⟨event, events, -⟩
      rw [joined, Stretch.andThen_of_not_ended going, events]
      exact ⟨event, List.getLast?_concat⟩

/-- A run fails in one of its segments. -/
theorem segment_of_error
    {schedule : Schedule} {observer : Observer Event Memory} {memory : Memory}
    {compound : Compound setting size} {contexts : Contexts setting size}
    {failure : Failure}
    (failed :
      (schedule.run observer memory compound contexts).answer =
        .error failure) :
    ∃ segment, schedule.segments[failure.segment]? = some segment := by
  rcases halt_of_error failed with ⟨done, order, stretch, passage, halt⟩
  rcases halt.split with ⟨rest, split⟩
  have ordered : order ∈ schedule.plan := by
    rw [split]
    exact List.mem_append_right done List.mem_cons_self
  rcases cases_of_mem_plan ordered with ⟨index, segment, found, same⟩
  have index_eq : failure.segment = index := by
    rcases (Order.failure_of_follow halt.failed).2 with
      ⟨other, rfl, -⟩ | ⟨other, done, count, rfl, -⟩ |
        ⟨other, done, count, rfl, -⟩ <;>
      rcases same with same | ⟨done, count, same⟩ <;>
      cases same <;>
      rfl
  rw [index_eq]
  exact ⟨segment, found⟩

/-- After a run that completes, the member of the last segment is active. -/
theorem active_of_complete
    {schedule : Schedule} {observer : Observer Event Memory} {memory : Memory}
    {compound : Compound setting size} {contexts : Contexts setting size}
    {segments : Nat} {steps : Count}
    (complete :
      (schedule.run observer memory compound contexts).answer =
        .ok ⟨.complete, segments, steps⟩) :
    (schedule.run observer memory compound contexts).standing.compound.active =
      (schedule.segments.getLast schedule.nonempty).member.toNat := by
  have begun :
      (schedule.run observer memory compound contexts).begun =
        schedule.segments.length := by
    rw [Run.begun, complete]
    exact segments_of_complete complete
  have active := schedule.active_run observer memory compound contexts
  dsimp only at active
  rw [active, begun, List.take_length,
    List.getLast?_eq_some_getLast schedule.nonempty]
  rfl

/-- After a run that is stopped, the member of the last event is active. -/
theorem active_of_stopped
    {schedule : Schedule} {observer : Observer Event Memory} {memory : Memory}
    {compound : Compound setting size} {contexts : Contexts setting size}
    {segments : Nat} {steps : Count}
    (stopped :
      (schedule.run observer memory compound contexts).answer =
        .ok ⟨.stoppedByObserver, segments, steps⟩) :
    ∃ event,
      (schedule.run observer memory compound contexts).events.getLast? =
          some event ∧
        (schedule.run observer memory compound
            contexts).standing.compound.active =
          event.member.toNat := by
  rcases last_event_of_stopped stopped with ⟨event, last⟩
  rcases segment_of_mem_events (List.mem_of_getLast? last) with
    ⟨segment, found, member⟩
  have begun :
      (schedule.run observer memory compound contexts).begun =
        event.segment + 1 := by
    rw [Run.begun, stopped]
    dsimp only
    rw [last]
    rfl
  refine ⟨event, last, ?_⟩
  rw [← member]
  exact active_of_begun begun found

/-- After a run that fails in a segment whose member is there, the member is active. -/
theorem active_of_error
    {schedule : Schedule} {observer : Observer Event Memory} {memory : Memory}
    {compound : Compound setting size} {contexts : Contexts setting size}
    {index : Nat} {cause : Compound.Failure}
    (failed :
      (schedule.run observer memory compound contexts).answer =
        .error ⟨index, cause⟩)
    (inside : ∀ place length, cause ≠ .indexOutOfRange place length) :
    ∃ segment, schedule.segments[index]? = some segment ∧
      (schedule.run observer memory compound
          contexts).standing.compound.active =
        segment.member.toNat := by
  rcases segment_of_error failed with ⟨segment, found⟩
  have begun :
      (schedule.run observer memory compound contexts).begun = index + 1 := by
    rw [Run.begun, failed]
    cases cause with
    | indexOutOfRange place length => exact (inside place length rfl).elim
    | _ => rfl
  exact ⟨segment, found, active_of_begun begun found⟩

/-- Where the first segment has no member, the member from before the run stays active. -/
theorem active_of_first_outside
    {schedule : Schedule} {observer : Observer Event Memory} {memory : Memory}
    {compound : Compound setting size} {contexts : Contexts setting size}
    {place length : Nat}
    (failed :
      (schedule.run observer memory compound contexts).answer =
        .error ⟨0, .indexOutOfRange place length⟩) :
    (schedule.run observer memory compound contexts).standing.compound.active =
      compound.active := by
  have active := schedule.active_run observer memory compound contexts
  dsimp only at active
  rw [active, Run.begun, failed]
  rfl

/-- Where a later segment has no member, that of the segment before stays active. -/
theorem active_of_later_outside
    {schedule : Schedule} {observer : Observer Event Memory} {memory : Memory}
    {compound : Compound setting size} {contexts : Contexts setting size}
    {before place length : Nat}
    (failed :
      (schedule.run observer memory compound contexts).answer =
        .error ⟨before + 1, .indexOutOfRange place length⟩) :
    ∃ segment, schedule.segments[before]? = some segment ∧
      (schedule.run observer memory compound
          contexts).standing.compound.active =
        segment.member.toNat := by
  rcases segment_of_error failed with ⟨segment, found⟩
  have inside : before < schedule.segments.length :=
    Nat.lt_of_succ_lt (List.getElem?_eq_some_iff.mp found).1
  have earlier := List.getElem?_eq_getElem inside
  refine ⟨_, earlier, active_of_begun ?_ earlier⟩
  rw [Run.begun, failed]

/-! ## Whole runs -/

/--
However a run ends, the compound has as many members as before and is bound or
not as before; all members keep their parameters, kernels and attachments;
nothing but steps is noted in the journal; and a member that no segment begun
names is the same as before.  The active member is that of the last segment if
the run completes, and that of the last event if it is stopped.  If the run fails
in a segment, it is that of the segment, but if there is no such member, that of
the segment before, or for the first segment the one from before the run.
-/
theorem frame_of_run
    (schedule : Schedule) (observer : Observer Event Memory) (memory : Memory)
    (compound : Compound setting size) (contexts : Contexts setting size) :
    let run := schedule.run observer memory compound contexts
    let after := run.standing.compound
    after.members.length = compound.members.length ∧
    after.bound = compound.bound ∧
    (∀ (place : Nat) (member : Member setting size),
      compound.members[place]? = some member →
      ∃ moved, after.members[place]? = some moved ∧ member.Keeps moved) ∧
    (∀ entry ∈ run.trace.journal, ∃ steps, entry.call = .step steps) ∧
    (∀ place,
      (∀ segment ∈ schedule.segments.take run.begun,
        segment.member.toNat ≠ place) →
      after.members[place]? = compound.members[place]?) ∧
    (∀ segments steps, run.answer = .ok ⟨.complete, segments, steps⟩ →
      after.active =
        (schedule.segments.getLast schedule.nonempty).member.toNat) ∧
    (∀ segments steps,
      run.answer = .ok ⟨.stoppedByObserver, segments, steps⟩ →
      ∃ event, run.events.getLast? = some event ∧
        after.active = event.member.toNat) ∧
    (∀ index cause, run.answer = .error ⟨index, cause⟩ →
      (∀ place length, cause ≠ .indexOutOfRange place length) →
      ∃ segment, schedule.segments[index]? = some segment ∧
        after.active = segment.member.toNat) ∧
    (∀ index place length,
      run.answer = .error ⟨index, .indexOutOfRange place length⟩ →
      (index = 0 → after.active = compound.active) ∧
      (∀ before, index = before + 1 →
        ∃ segment, schedule.segments[before]? = some segment ∧
          after.active = segment.member.toNat)) := by
  intro run after
  have spares : compound.Spares run.trace.selections after :=
    schedule.spares_run observer memory compound contexts
  have selections : run.trace.selections = _ :=
    schedule.selections_run observer memory compound contexts
  have uncounted :
      after.members.map Member.uncounted =
        compound.members.map Member.uncounted :=
    uncountedChain.run schedule observer memory compound contexts
  have quiet : compound.Quiet run.trace.journal after :=
    schedule.quiet_run observer memory compound contexts
  refine
    ⟨spares.length_eq, spares.bound_eq, ?_, ?_, ?_,
      fun _ _ => active_of_complete, fun _ _ => active_of_stopped,
      fun _ _ => active_of_error, ?_⟩
  · intro place member found
    rcases Compound.getElem?_of_uncounted uncounted found with
      ⟨moved, there, same⟩
    exact ⟨moved, there, Member.keeps_of_uncounted same⟩
  · intro entry noted
    rcases quiet.steps entry noted with ⟨tag, -, -, steps, own⟩
    exact ⟨steps, (Tag.eq_of_mem_notes own).2⟩
  · intro place unnamed
    apply spares.others
    rw [selections, List.mem_map]
    rintro ⟨segment, begun, named⟩
    exact unnamed segment begun named
  · intro index place length failed
    constructor
    · rintro rfl
      exact active_of_first_outside failed
    · rintro before rfl
      exact active_of_later_outside failed

end Schedule

end Stepping
