import Stepping.Proofs.Schedule.Obstacles
import Stepping.Proofs.Schedule.Truncation
import Stepping.Proofs.Schedule.Validity

/-!
# Schedules one behind the other

A schedule may be the front of a longer one, and another one its rest.  What a
run does of the rest it does at later places: the segments that it speaks of are
moved by the number of those in front, and the totals that it tells by the steps
that were taken in front.  Besides these two numbers nothing is handed from one
segment to the next but the compound and the contexts.

So the run of the longer schedule is the run of its front, and then, unless that
failed, the run of the rest, moved to its place.
-/

namespace Stepping

variable {setting : Setting} {size : Nat}

/-! ## Moving behind other segments -/

/-- The notice behind so many segments. -/
def Notice.behind (segments : Nat) : Notice → Notice
  | .segment index steps member => .segment (segments + index) steps member
  | notice => notice

/-- The trace behind so many segments. -/
def Trace.behind (segments : Nat) (trace : Trace) : Trace :=
  ⟨trace.journal, trace.notices.map (Notice.behind segments)⟩

/-- The event behind so many segments that take so many steps. -/
def Event.behind (segments : Nat) (steps : Count) (event : Event) : Event :=
  { event with
    segment := segments + event.segment
    totalSteps := steps + event.totalSteps }

namespace Schedule

/-- The failure behind so many segments. -/
def Failure.behind (segments : Nat) (failure : Failure) : Failure :=
  { failure with segment := segments + failure.segment }

/-- The ending behind so many segments that take so many steps. -/
def Ending.behind (segments : Nat) (steps : Count) (ending : Ending) : Ending :=
  { ending with
    segments := segments + ending.segments
    steps := steps + ending.steps }

/-- The answer behind so many segments that take so many steps. -/
def answerBehind (segments : Nat) (steps : Count) :
    Except Failure Ending → Except Failure Ending
  | .ok ending => .ok (ending.behind segments steps)
  | .error failure => .error (failure.behind segments)

end Schedule

/-- Where a run stands behind so many steps. -/
def Standing.behind (steps : Count) (standing : Standing setting size Unit) :
    Standing setting size Unit :=
  { standing with total := steps + standing.total }

/-- The stretch behind so many segments that take so many steps. -/
def Stretch.behind (segments : Nat) (steps : Count)
    (stretch : Stretch setting size Unit) : Stretch setting size Unit where
  ended := stretch.ended.map (Schedule.answerBehind segments steps)
  events := stretch.events.map (Event.behind segments steps)
  standing := stretch.standing.behind steps
  trace := stretch.trace.behind segments

/-- The order behind so many segments. -/
def Order.behind (segments : Nat) : Order → Order
  | .enter index segment => .enter (segments + index) segment
  | .take index segment done count =>
      .take (segments + index) segment done count

/-! ## Orders behind others -/

theorem Trace.behind_append (segments : Nat) (first second : Trace) :
    (first ++ second).behind segments =
      first.behind segments ++ second.behind segments := by
  rw [behind, notices_append, List.map_append]
  rfl

/-- A compound does not speak of segments. -/
theorem Compound.behind_select
    (segments index : Nat) (compound : Compound setting size) :
    (compound.select index).2.2.behind segments =
      (compound.select index).2.2 := by
  have same :
      (compound.select index).2.2.notices.map (Notice.behind segments) =
        (compound.select index).2.2.notices := by
    rcases compound.notices_select index with none | switched
    · rw [none]
      rfl
    · rw [switched]
      rfl
  rw [Trace.behind, same]

theorem Compound.behind_step
    (segments : Nat) (steps : Count) (contexts : Contexts setting size)
    (compound : Compound setting size) :
    (compound.step steps contexts).trace.behind segments =
      (compound.step steps contexts).trace := by
  have same :
      (compound.step steps contexts).trace.notices.map (Notice.behind segments) =
        (compound.step steps contexts).trace.notices := by
    rcases compound.notices_step steps contexts with none | tried
    · rw [none]
      rfl
    · rw [tried]
      rfl
  rw [Trace.behind, same]

theorem Stretch.andThen_behind
    {segments : Nat} {steps : Count}
    {next later : Standing setting size Unit → Stretch setting size Unit}
    (moved :
      ∀ standing, later (standing.behind steps) =
        (next standing).behind segments steps)
    (first : Stretch setting size Unit) :
    (first.behind segments steps).andThen later =
      (first.andThen next).behind segments steps := by
  by_cases going : first.ended = none
  · have still : (first.behind segments steps).ended = none := by
      rw [behind, going]
      rfl
    have further :
        later (first.behind segments steps).standing =
          (next first.standing).behind segments steps :=
      moved first.standing
    rw [andThen_of_not_ended going, andThen_of_not_ended still, further]
    simp only [behind, List.map_append, Trace.behind_append]
  · have past : (first.behind segments steps).ended ≠ none := by
      rw [behind]
      simpa using going
    rw [andThen_of_ended going, andThen_of_ended past]

namespace Order

/-- Entering a segment is the same behind other segments, but at a later place. -/
theorem follow_enter_behind
    (segments : Nat) (steps : Count) (index : Nat) (segment : Segment)
    (standing : Standing setting size Unit) :
    (enter (segments + index) segment).follow .silent (standing.behind steps) =
      ((enter index segment).follow .silent standing).behind segments steps := by
  by_cases inside :
      segment.member.toNat < standing.compound.members.length
  · have there :
        segment.member.toNat < (standing.behind steps).compound.members.length :=
      inside
    rw [follow_enter_of_lt .silent index inside,
      follow_enter_of_lt .silent (segments + index) there, Stretch.behind]
    show _ = (⟨_, _, _, Trace.behind segments (_ ++ _)⟩ : Stretch setting size Unit)
    rw [Trace.behind_append, Compound.behind_select]
    rfl
  · have nowhere :
        ¬segment.member.toNat <
          (standing.behind steps).compound.members.length :=
      inside
    rw [follow_enter_of_not_lt .silent index inside,
      follow_enter_of_not_lt .silent (segments + index) nowhere]
    rfl

/-- So is a chunk, and the energy that it shows does not depend on the place. -/
theorem takeChunk_behind
    (segments : Nat) (steps : Count) (index : Nat) (segment : Segment)
    (done count : Count) (standing : Standing setting size Unit) :
    Schedule.takeChunk .silent (segments + index) segment done count
        (standing.behind steps) =
      (Schedule.takeChunk .silent index segment done count standing).behind
        segments steps := by
  let there := standing.behind steps
  have quiet :=
    standing.compound.behind_step segments count standing.contexts
  have total : there.total + count = steps + (standing.total + count) :=
    UInt64.add_assoc _ _ _
  cases stepped : (standing.compound.step count standing.contexts).answer with
  | error cause =>
      have later : (there.compound.step count there.contexts).answer = .error cause :=
        stepped
      rw [Schedule.takeChunk_of_step_error .silent index segment done stepped,
        Schedule.takeChunk_of_step_error .silent (segments + index) segment done
          later]
      rw [Stretch.behind, Stretch.failing, Stretch.failing]
      dsimp only
      rw [quiet]
      rfl
  | ok nothing =>
      have later : (there.compound.step count there.contexts).answer = .ok () :=
        stepped
      cases reported :
          (standing.compound.step count
              standing.contexts).compound.kineticEnergy
            (standing.compound.step count standing.contexts).contexts with
      | error cause =>
          have unknown :
              (there.compound.step count there.contexts).compound.kineticEnergy
                  (there.compound.step count there.contexts).contexts =
                .error cause :=
            reported
          rw [Schedule.takeChunk_of_energy_error .silent index segment done
              stepped reported,
            Schedule.takeChunk_of_energy_error .silent (segments + index) segment
              done later unknown,
            total]
          rw [Stretch.behind, Stretch.failing, Stretch.failing]
          dsimp only
          rw [quiet]
          rfl
      | ok energy =>
          have known :
              (there.compound.step count there.contexts).compound.kineticEnergy
                  (there.compound.step count there.contexts).contexts =
                .ok energy :=
            reported
          rw [Schedule.takeChunk_of_ok .silent index segment done stepped
              reported,
            Schedule.takeChunk_of_ok .silent (segments + index) segment done
              later known,
            total]
          rw [Stretch.behind, Stretch.showing, Stretch.showing]
          dsimp only [Observer.silent]
          rw [quiet]
          rfl

/-- An order does the same behind other segments, but speaks of a later place. -/
theorem follow_behind
    (segments : Nat) (steps : Count) (order : Order)
    (standing : Standing setting size Unit) :
    (order.behind segments).follow .silent (standing.behind steps) =
      (order.follow .silent standing).behind segments steps := by
  cases order with
  | enter index segment =>
      exact follow_enter_behind segments steps index segment standing
  | take index segment done count =>
      exact takeChunk_behind segments steps index segment done count standing

/-- Orders do the same behind other segments. -/
theorem followAll_behind
    (segments : Nat) (steps : Count) (orders : List Order)
    (standing : Standing setting size Unit) :
    followAll .silent (orders.map (behind segments)) (standing.behind steps) =
      (followAll .silent orders standing).behind segments steps := by
  induction orders generalizing standing with
  | nil => rfl
  | cons order orders induction =>
      rw [List.map_cons, followAll, followAll, follow_behind]
      exact Stretch.andThen_behind induction _

end Order

namespace Schedule

theorem segmentOrders_behind
    (chunk : Option Count) (segments index : Nat) (segment : Segment) :
    segmentOrders chunk (segments + index) segment =
      (segmentOrders chunk index segment).map (Order.behind segments) := by
  rw [segmentOrders, segmentOrders, List.map_cons, List.map_map]
  rfl

/-- The orders of segments that come later speak of later places. -/
theorem orders_behind
    (chunk : Option Count) (before index : Nat) (segments : List Segment) :
    orders chunk (before + index) segments =
      (orders chunk index segments).map (Order.behind before) := by
  induction segments generalizing index with
  | nil => rfl
  | cons segment segments induction =>
      rw [orders_cons, orders_cons, segmentOrders_behind, Nat.add_assoc,
        induction, List.map_append]

theorem orders_append
    (chunk : Option Count) (index : Nat) (first second : List Segment) :
    orders chunk index (first ++ second) =
      orders chunk index first ++ orders chunk (index + first.length) second := by
  rw [orders, orders, orders, List.zipIdx_append, List.flatMap_append]

/-! ## Schedules behind others -/

/-- A schedule is made of the segments of two, in the chunks of both. -/
structure Joins (whole front rest : Schedule) : Prop where
  segments_eq : whole.segments = front.segments ++ rest.segments
  front_chunk : whole.chunk = front.chunk
  rest_chunk : whole.chunk = rest.chunk

variable {whole front rest : Schedule}

theorem Joins.plan_eq (joins : whole.Joins front rest) :
    whole.plan =
      front.plan ++ rest.plan.map (Order.behind front.segments.length) := by
  have later := orders_behind rest.chunk front.segments.length 0 rest.segments
  rw [plan, joins.segments_eq, orders_append, Nat.zero_add]
  rw [Nat.add_zero] at later
  congr 1
  · rw [joins.front_chunk, plan]
  · rw [joins.rest_chunk, later, plan]

/-- The totals of two schedules that are joined have room in a count together. -/
theorem Joins.total_lt (joins : whole.Joins front rest) :
    front.totalSteps.toNat + rest.totalSteps.toNat < Count.limit := by
  have room := whole.total_lt
  rw [joins.segments_eq, Segment.total_append] at room
  rw [toNat_totalSteps, toNat_totalSteps]
  exact room

/-- No event of a run tells more steps than the schedule takes. -/
theorem totalSteps_le_of_mem_events
    {schedule : Schedule} {compound : Compound setting size}
    {contexts : Contexts setting size} {event : Event}
    (shown : event ∈ (schedule.runUnobserved compound contexts).events) :
    event.totalSteps.toNat ≤ schedule.totalSteps.toNat := by
  rw [runUnobserved, run_eq] at shown
  have announced :=
    (Order.progress_followAll .silent schedule.plan
      (⟨compound, contexts, (), 0⟩ : Standing setting size Unit)).1
  rw [schedule.announced_plan.1] at announced
  have told : event.progress ∈ schedule.progress :=
    announced.subset (List.mem_map_of_mem shown)
  rcases segment_of_mem_progress told with ⟨segment, found, -, most, total⟩
  have next := Segment.total_take_succ found
  have all :=
    Segment.total_append (schedule.segments.take (event.progress.segment + 1))
      (schedule.segments.drop (event.progress.segment + 1))
  rw [List.take_append_drop] at all
  have told_eq : event.totalSteps.toNat = event.progress.totalSteps := rfl
  rw [toNat_totalSteps]
  omega

/-- The total that an event of the rest tells is moved without a wrap. -/
theorem Joins.toNat_totalSteps_behind
    (joins : whole.Joins front rest) {compound : Compound setting size}
    {contexts : Contexts setting size} {event : Event}
    (shown : event ∈ (rest.runUnobserved compound contexts).events) :
    (event.behind front.segments.length front.totalSteps).totalSteps.toNat =
      front.totalSteps.toNat + event.totalSteps.toNat := by
  have early := totalSteps_le_of_mem_events shown
  have room := joins.total_lt
  show (front.totalSteps + event.totalSteps).toNat = _
  rw [UInt64.toNat_add]
  exact Nat.mod_eq_of_lt (Nat.lt_of_le_of_lt (by omega) room)

/-- A run that nobody observes completes, unless it fails. -/
theorem answer_of_runUnobserved
    (schedule : Schedule) (compound : Compound setting size)
    (contexts : Contexts setting size) :
    let stretch :=
      Order.followAll .silent schedule.plan ⟨compound, contexts, (), 0⟩
    let run := schedule.runUnobserved compound contexts
    (stretch.ended = none ∧
      stretch.standing.total = schedule.totalSteps ∧
      run.answer =
        .ok ⟨.complete, schedule.segments.length, schedule.totalSteps⟩) ∨
    ∃ failure, stretch.ended = some (.error failure) ∧
      run.answer = .error failure := by
  intro stretch run
  have whole : run = schedule.conclude stretch :=
    schedule.run_eq .silent () compound contexts
  cases ended : stretch.ended with
  | none =>
      have total : stretch.standing.total = schedule.totalSteps :=
        ((Order.progress_followAll _ _ _).2.2 ended).2.trans
          schedule.announced_plan.2
      refine .inl ⟨rfl, total, ?_⟩
      rw [whole, conclude, ended, total]
      rfl
  | some answer =>
      cases answer with
      | error failure =>
          refine .inr ⟨failure, rfl, ?_⟩
          rw [whole, conclude, ended]
          rfl
      | ok ending =>
          exact (Order.not_ok_of_silence (fun _ _ => rfl) ended).elim

theorem ending_of_runUnobserved
    {schedule : Schedule} {compound : Compound setting size}
    {contexts : Contexts setting size} {ending : Ending}
    (completed :
      (schedule.runUnobserved compound contexts).answer = .ok ending) :
    ending = ⟨.complete, schedule.segments.length, schedule.totalSteps⟩ := by
  rcases schedule.answer_of_runUnobserved compound contexts with
    ⟨-, -, answer⟩ | ⟨failure, -, failed⟩
  · cases answer.symm.trans completed
    rfl
  · cases failed.symm.trans completed

/-- If the front completes, what comes behind it is the run of the rest, moved there. -/
theorem Joins.run_of_ok
    (joins : whole.Joins front rest) {compound : Compound setting size}
    {contexts : Contexts setting size} {ending : Ending}
    (completed : (front.runUnobserved compound contexts).answer = .ok ending) :
    let begun := front.runUnobserved compound contexts
    let later :=
      rest.runUnobserved begun.standing.compound begun.standing.contexts
    let segments := front.segments.length
    let steps := front.totalSteps
    whole.runUnobserved compound contexts =
      { answer := answerBehind segments steps later.answer
        events := begun.events ++ later.events.map (Event.behind segments steps)
        standing := later.standing.behind steps
        trace := begun.trace ++ later.trace.behind segments } := by
  intro begun later segments steps
  let first :=
    Order.followAll .silent front.plan ⟨compound, contexts, (), 0⟩
  let middle : Standing setting size Unit :=
    ⟨first.standing.compound, first.standing.contexts, (), 0⟩
  let second := Order.followAll .silent rest.plan middle
  rcases front.answer_of_runUnobserved compound contexts with
    ⟨going, total, -⟩ | ⟨failure, -, failed⟩
  · have there : first.standing = middle.behind steps := by
      have added : steps + 0 = first.standing.total :=
        (UInt64.add_zero steps).trans total.symm
      rw [Standing.behind, added]
    have begun_eq : begun = front.conclude first :=
      front.run_eq .silent () compound contexts
    have later_eq : later = rest.conclude second := by
      show rest.run .silent () begun.standing.compound begun.standing.contexts = _
      rw [begun_eq]
      exact rest.run_eq .silent () _ _
    have whole_eq :
        whole.runUnobserved compound contexts =
          whole.conclude
            (first.andThen
              (Order.followAll .silent
                (rest.plan.map (Order.behind segments)))) := by
      rw [runUnobserved, whole.run_eq, joins.plan_eq, Order.followAll_append]
    have length :
        whole.segments.length = segments + rest.segments.length := by
      rw [joins.segments_eq, List.length_append]
    rw [whole_eq, Stretch.andThen_of_not_ended going, there,
      Order.followAll_behind, begun_eq, later_eq]
    show (⟨_, _, _, _⟩ : Run setting size Unit) = ⟨_, _, _, _⟩
    congr 1
    show ((second.ended.map (answerBehind segments steps)).getD
        (.ok ⟨.complete, whole.segments.length, steps + second.standing.total⟩)) =
      answerBehind segments steps
        (second.ended.getD
          (.ok ⟨.complete, rest.segments.length, second.standing.total⟩))
    rw [length]
    cases second.ended <;> rfl
  · cases completed.symm.trans failed

/-- If the front fails, nothing comes behind it. -/
theorem Joins.run_of_error
    (joins : whole.Joins front rest) {compound : Compound setting size}
    {contexts : Contexts setting size} {failure : Failure}
    (failed :
      (front.runUnobserved compound contexts).answer = .error failure) :
    whole.runUnobserved compound contexts =
      front.runUnobserved compound contexts := by
  rcases front.answer_of_runUnobserved compound contexts with
    ⟨-, -, completed⟩ | ⟨other, ended, -⟩
  · cases completed.symm.trans failed
  · have past :
        (Order.followAll .silent front.plan
          ⟨compound, contexts, (), 0⟩).ended ≠ none := by
      rw [ended]
      exact Option.some_ne_none _
    rw [runUnobserved, runUnobserved, run_eq, run_eq, joins.plan_eq,
      Order.followAll_append, Stretch.andThen_of_ended past, conclude, conclude,
      ended]
    rfl

/-- Segments of one schedule make two, wherever they are parted. -/
theorem exists_joins
    {front rest : List Segment} {chunk : Option Count}
    (front_nonempty : front ≠ []) (rest_nonempty : rest ≠ [])
    (valid : ScheduleParts.Valid ⟨front ++ rest, chunk⟩) :
    ∃ first second whole : Schedule,
      ScheduleParts.assemble ⟨front, chunk⟩ = .ok first ∧
      ScheduleParts.assemble ⟨rest, chunk⟩ = .ok second ∧
      ScheduleParts.assemble ⟨front ++ rest, chunk⟩ = .ok whole ∧
      first.segments = front ∧ whole.Joins first second := by
  have total := Segment.total_append front rest
  have part (segments : List Segment) (nonempty : segments ≠ [])
      (among : segments ⊆ front ++ rest)
      (less : Segment.total segments ≤ Segment.total (front ++ rest)) :
      ScheduleParts.Valid ⟨segments, chunk⟩ := {
    nonempty := nonempty
    steps_pos := fun segment listed => valid.steps_pos segment (among listed)
    total_lt := Nat.lt_of_le_of_lt less valid.total_lt
    chunk_pos := valid.chunk_pos }
  have front_valid :=
    part front front_nonempty (List.subset_append_left front rest) (by omega)
  have rest_valid :=
    part rest rest_nonempty (List.subset_append_right front rest) (by omega)
  rcases ScheduleParts.exists_assemble front_valid with ⟨first, made, first_eq⟩
  rcases ScheduleParts.exists_assemble rest_valid with ⟨second, put, second_eq⟩
  rcases ScheduleParts.exists_assemble valid with ⟨whole, joined, whole_eq⟩
  have front_eq : first.segments = front :=
    congrArg ScheduleParts.segments first_eq
  have rest_eq : second.segments = rest :=
    congrArg ScheduleParts.segments second_eq
  have chunk_eq : whole.chunk = chunk := congrArg ScheduleParts.chunk whole_eq
  refine ⟨first, second, whole, made, put, joined, front_eq, ?_⟩
  exact {
    segments_eq := by
      rw [front_eq, rest_eq]
      exact congrArg ScheduleParts.segments whole_eq
    front_chunk := chunk_eq.trans (congrArg ScheduleParts.chunk first_eq).symm
    rest_chunk := chunk_eq.trans (congrArg ScheduleParts.chunk second_eq).symm }

/--
A run of segments behind others is a run of those in front and then, from the
state that this leaves, a run of the rest.  The final state and the journal are
as after both, and the events are those of both, the later ones moved by the
segments and the steps in front, without a wrap.  If both complete, so does the
whole, and the segments and steps are added; if the rest fails, the whole fails
in the segment that this is now.  If the front fails, the whole does nothing else.
-/
theorem run_append
    (front rest : List Segment) (chunk : Option Count)
    (front_nonempty : front ≠ []) (rest_nonempty : rest ≠ [])
    (busy : ∀ segment ∈ front ++ rest, segment.steps ≠ 0)
    (small : Segment.total (front ++ rest) < Count.limit)
    (positive : ∀ size ∈ chunk, size ≠ 0)
    (compound : Compound setting size) (contexts : Contexts setting size) :
    ∃ first second whole : Schedule,
      ScheduleParts.assemble ⟨front, chunk⟩ = .ok first ∧
      ScheduleParts.assemble ⟨rest, chunk⟩ = .ok second ∧
      ScheduleParts.assemble ⟨front ++ rest, chunk⟩ = .ok whole ∧
      let begun := first.runUnobserved compound contexts
      let later :=
        second.runUnobserved begun.standing.compound begun.standing.contexts
      let run := whole.runUnobserved compound contexts
      (∀ ending, begun.answer = .ok ending →
        run.standing.compound = later.standing.compound ∧
        run.standing.contexts = later.standing.contexts ∧
        run.trace.journal = begun.trace.journal ++ later.trace.journal ∧
        run.events =
          begun.events ++
            later.events.map (Event.behind front.length first.totalSteps) ∧
        (∀ event ∈ later.events,
          (event.behind front.length first.totalSteps).totalSteps.toNat =
            Segment.total front + event.totalSteps.toNat) ∧
        (∀ last, later.answer = .ok last →
          ∃ steps,
            run.answer =
              .ok ⟨.complete, ending.segments + last.segments, steps⟩ ∧
            steps.toNat = ending.steps.toNat + last.steps.toNat) ∧
        ∀ failure, later.answer = .error failure →
          run.answer =
            .error ⟨front.length + failure.segment, failure.cause⟩) ∧
      ∀ failure, begun.answer = .error failure → run = begun := by
  have valid : ScheduleParts.Valid ⟨front ++ rest, chunk⟩ := {
    nonempty := List.append_ne_nil_of_left_ne_nil front_nonempty rest
    steps_pos := fun segment listed =>
      one_le_toNat_iff_ne_zero.mpr (busy segment listed)
    total_lt := small
    chunk_pos := fun size chosen =>
      one_le_toNat_iff_ne_zero.mpr (positive size chosen) }
  rcases exists_joins front_nonempty rest_nonempty valid with
    ⟨first, second, whole, made, put, joined, rfl, joins⟩
  refine ⟨first, second, whole, made, put, joined, ?_, ?_⟩
  · intro ending completed
    have run := joins.run_of_ok completed
    dsimp only at run ⊢
    rw [run]
    refine ⟨rfl, rfl, rfl, rfl, ?_, ?_, ?_⟩
    · intro event shown
      rw [← toNat_totalSteps]
      exact joins.toNat_totalSteps_behind shown
    · intro last ended
      cases ending_of_runUnobserved completed
      cases ending_of_runUnobserved ended
      rw [ended]
      refine ⟨first.totalSteps + second.totalSteps, rfl, ?_⟩
      rw [UInt64.toNat_add]
      exact Nat.mod_eq_of_lt joins.total_lt
    · intro failure failed
      rw [failed]
      rfl
  · intro failure failed
    exact joins.run_of_error failed

/-- Three segments, the last of which names a member that is not there. -/
theorem run_append_of_missing_member :
    let recorder : Member .clock 1 :=
      .recorder
        ⟨0, "recorder", 0, .ofPicoseconds 0.5, 1.0, .none, false, false, some 0⟩
    ∃ whole : Schedule,
      ScheduleParts.assemble ⟨[⟨0, 5⟩, ⟨0, 3⟩, ⟨1, 2⟩], some 2⟩ = .ok whole ∧
      (whole.runUnobserved ⟨[recorder], 0, true⟩ #v[0.0]).answer =
        .error ⟨2, .indexOutOfRange 1 1⟩ := by
  intro recorder
  rcases run_append [⟨0, 5⟩] [⟨0, 3⟩, ⟨1, 2⟩] (some 2) (by decide) (by decide)
      (by decide) (by decide) (by simp) ⟨[recorder], 0, true⟩ #v[0.0] with
    ⟨first, second, whole, made, put, joined, after, -⟩
  let front : Schedule := {
    segments := [⟨0, 5⟩]
    chunk := some 2
    nonempty := by decide
    steps_pos := by decide
    total_lt := by decide
    chunk_pos := by simp }
  let rest : Schedule := {
    segments := [⟨0, 3⟩, ⟨1, 2⟩]
    chunk := some 2
    nonempty := by decide
    steps_pos := by decide
    total_lt := by decide
    chunk_pos := by simp }
  have first_eq : first = front :=
    parts_injective (ScheduleParts.assemble_eq_ok_iff.mp made).2
  have second_eq : second = rest :=
    parts_injective (ScheduleParts.assemble_eq_ok_iff.mp put).2
  subst first_eq second_eq
  refine ⟨whole, joined, ?_⟩
  have completed :
      (front.runUnobserved ⟨[recorder], 0, true⟩ #v[0.0]).answer =
        .ok ⟨.complete, 1, 5⟩ := by
    decide +kernel
  exact (after _ completed).2.2.2.2.2.2 ⟨1, .indexOutOfRange 1 1⟩ (by decide +kernel)

end Schedule

end Stepping
