import Stepping.Proofs.Schedule.Progress
import Mathlib.Order.Bounds.Basic

/-!
# Observers truncate runs

An observer cannot change what a run does, only where it ends.  A free run is
one that no observer stops, and each of its orders does the same before any
observer: it shows nothing, or it shows one event, at which the observer may
stop the run.

So an observer that asks for nothing at the events of the free run leaves the
run as it is.  Otherwise the run ends at the first event at which it asks for a
stop, in the state in which the free run has just shown that event, whatever
would have become of the free run later.  It then counts the segments that are
finished, which are as many as fit in the steps taken.
-/

namespace Stepping

variable {setting : Setting} {size : Nat} {Memory : Type}

/-- The observer asks for nothing at any of the observations in order. -/
def Observer.Passes {Observation : Type}
    (observer : Observer Observation Memory) :
    Memory → List Observation → Prop
  | _, [] => True
  | memory, observation :: observations =>
      (observer.observe memory observation).2 = none ∧
        observer.Passes (observer.observe memory observation).1 observations

/-- A stretch, with the memory of an observer who has not been there. -/
def Stretch.remembering (memory : Memory)
    (stretch : Stretch setting size Unit) : Stretch setting size Memory :=
  ⟨stretch.ended, stretch.events, stretch.standing.remembering memory,
    stretch.trace⟩

namespace Order

/-- An event tells the segment of the order that has led to it, and the steps taken of it. -/
def Tells : Order → Event → Prop
  | .enter _ _, _ => False
  | .take index _ done count, event =>
      event.segment = index ∧ event.segmentSteps = done + count

end Order

namespace Stretch

theorem showing_of_none
    {observer : Observer Event Memory} {event : Event} {memory : Memory}
    (passed : (observer.observe memory event).2 = none)
    (finished : Nat) (trace : Trace) (next : Standing setting size Unit) :
    showing observer event finished trace (next.remembering memory) =
      ⟨none, [event],
        next.remembering (observer.observe memory event).1, trace⟩ := by
  simp [showing, Standing.remembering, passed]

theorem showing_of_stop
    {observer : Observer Event Memory} {event : Event} {memory : Memory}
    (stopped : (observer.observe memory event).2 = some .stopEarly)
    (finished : Nat) (trace : Trace) (next : Standing setting size Unit) :
    showing observer event finished trace (next.remembering memory) =
      ⟨some (.ok ⟨.stoppedByObserver, finished, next.total⟩), [event],
        next.remembering (observer.observe memory event).1,
        trace ++ .ofNotice (.stopped next.total)⟩ := by
  simp [showing, Standing.remembering, stopped]

end Stretch

namespace Order

/-- An observer that asks for nothing changes nothing but its memory. -/
theorem followAll_of_passes
    {observer : Observer Event Memory} {memory : Memory}
    {orders : List Order} {standing : Standing setting size Unit}
    (passes :
      observer.Passes memory (followAll .silent orders standing).events) :
    followAll observer orders (standing.remembering memory) =
      (followAll .silent orders standing).remembering
        (observer.memoryAfter memory
          (followAll .silent orders standing).events) := by
  induction orders generalizing standing memory with
  | nil => rfl
  | cons order orders induction =>
      rw [followAll] at passes ⊢
      rw [followAll]
      rcases follow_cases order standing with
        ⟨index, cause, trace, next, same⟩ |
          ⟨index, segment, trace, next, -, -, same⟩ |
          ⟨index, segment, done, count, energy, trace, next, -, -, same⟩
      · have silently : order.follow .silent standing = _ := same .silent ()
        rw [same observer memory, silently]
        rfl
      · have silently :
            order.follow .silent standing = ⟨none, [], next, trace⟩ :=
          same .silent ()
        rw [silently] at passes
        have later := induction passes
        rw [same observer memory, silently, Stretch.noting,
          Stretch.andThen_of_not_ended rfl, later]
        rfl
      · let event : Event :=
          ⟨index, segment.member, done + count, next.total, energy⟩
        have silently :
            order.follow .silent standing = ⟨none, [event], next, trace⟩ :=
          same .silent ()
        rw [silently] at passes
        rcases passes with ⟨passed, passes⟩
        have later := induction passes
        rw [same observer memory, Stretch.showing_of_none passed, silently,
          Stretch.andThen_of_not_ended rfl, later]
        rfl

/-- Halfway through orders one of them shows an event, and the run goes on. -/
structure Halfway (orders : List Order) (standing : Standing setting size Unit)
    (before : List Event) (order : Order) (event : Event)
    (stretch : Stretch setting size Unit) : Prop where
  /-- The order is one of them, and the stretch goes as far as that. -/
  split :
    ∃ done rest, orders = done ++ order :: rest ∧
      (followAll .silent done standing).events = before ∧
      followAll .silent (done ++ [order]) standing = stretch
  going : stretch.ended = none
  events : stretch.events = before ++ [event]
  /-- It tells how far the order has come. -/
  tells : order.Tells event
  /-- It tells how far the run has come. -/
  total : event.totalSteps = stretch.standing.total

theorem Halfway.cons
    {order : Order} {orders : List Order}
    {standing next : Standing setting size Unit}
    {events before : List Event} {trace : Trace}
    (first :
      order.follow .silent standing = ⟨none, events, next, trace⟩)
    {latest : Order} {event : Event} {stretch : Stretch setting size Unit}
    (halfway : Halfway orders next before latest event stretch) :
    Halfway (order :: orders) standing (events ++ before) latest event
      ⟨stretch.ended, events ++ stretch.events, stretch.standing,
        trace ++ stretch.trace⟩ where
  split := by
    rcases halfway.split with ⟨done, rest, split, earlier, whole⟩
    refine ⟨order :: done, rest, congrArg (order :: ·) split, ?_, ?_⟩
    · rw [followAll, first, Stretch.andThen_of_not_ended rfl, earlier]
    · rw [List.cons_append, followAll, first, Stretch.andThen_of_not_ended rfl,
        whole]
  going := halfway.going
  events := by rw [halfway.events, List.append_assoc]
  tells := halfway.tells
  total := halfway.total

/-- An observer stops a run at the first event at which it asks for that. -/
theorem followAll_of_stop
    {observer : Observer Event Memory} {memory : Memory}
    {orders : List Order} {standing : Standing setting size Unit}
    {before after : List Event} {event : Event}
    (shown :
      (followAll .silent orders standing).events = before ++ event :: after)
    (passes : observer.Passes memory before)
    (stops :
      (observer.observe (observer.memoryAfter memory before) event).2 =
        some .stopEarly) :
    ∃ order stretch,
      Halfway orders standing before order event stretch ∧
        followAll observer orders (standing.remembering memory) =
          ⟨some (.ok ⟨.stoppedByObserver, order.finished, event.totalSteps⟩),
            before ++ [event],
            stretch.standing.remembering
              (observer.memoryAfter memory (before ++ [event])),
            stretch.trace ++ .ofNotice (.stopped event.totalSteps)⟩ := by
  induction orders generalizing standing memory before with
  | nil => simp [followAll, Stretch.noting] at shown
  | cons order orders induction =>
      rw [followAll] at shown ⊢
      rcases follow_cases order standing with
        ⟨index, cause, trace, next, same⟩ |
          ⟨index, segment, trace, next, -, -, same⟩ |
          ⟨index, segment, done, count, energy, trace, next, rfl, -, same⟩
      · have first : order.follow .silent standing = _ := same .silent ()
        rw [first] at shown
        simp [Stretch.andThen, Stretch.failing] at shown
      · have first : order.follow .silent standing = ⟨none, [], next, trace⟩ :=
          same .silent ()
        rw [first] at shown
        rcases induction shown passes stops with
          ⟨latest, stretch, halfway, stopped⟩
        refine ⟨latest, _, halfway.cons first, ?_⟩
        rw [same observer memory, Stretch.noting,
          Stretch.andThen_of_not_ended rfl, stopped, Trace.append_assoc]
        rfl
      · let latest : Event :=
          ⟨index, segment.member, done + count, next.total, energy⟩
        have first :
            (take index segment done count).follow .silent standing =
              ⟨none, [latest], next, trace⟩ :=
          same .silent ()
        rw [first, Stretch.andThen_of_not_ended rfl] at shown
        rw [same observer memory]
        cases before with
        | nil =>
            rcases List.cons.inj shown with ⟨rfl, -⟩
            have alone :
                followAll .silent [take index segment done count] standing =
                  ⟨none, [latest], next, trace⟩ :=
              (Stretch.andThen_noting_none _).trans first
            have stops : (observer.observe memory latest).2 = some .stopEarly :=
              stops
            refine
              ⟨take index segment done count, ⟨none, [latest], next, trace⟩,
                ⟨⟨[], orders, rfl, rfl, alone⟩, rfl, rfl, ⟨rfl, rfl⟩, rfl⟩, ?_⟩
            rw [Stretch.showing_of_stop stops]
            exact Stretch.andThen_of_ended (Option.some_ne_none _) _
        | cons earlier before =>
            rcases List.cons.inj shown with ⟨rfl, further⟩
            rcases passes with ⟨passed, passes⟩
            rcases induction further passes stops with
              ⟨later, stretch, halfway, stopped⟩
            refine ⟨later, _, halfway.cons first, ?_⟩
            rw [Stretch.showing_of_none passed,
              Stretch.andThen_of_not_ended rfl, stopped, Trace.append_assoc]
            rfl

end Order

/-! ## Finished segments -/

theorem Segment.total_append (first second : List Segment) :
    total (first ++ second) = total first + total second := by
  induction first with
  | nil => exact (Nat.zero_add (total second)).symm
  | cons segment first induction =>
      rw [List.cons_append, total_cons, total_cons, induction, Nat.add_assoc]

theorem Segment.total_take_succ
    {segments : List Segment} {index : Nat} {segment : Segment}
    (found : segments[index]? = some segment) :
    total (segments.take (index + 1)) =
      total (segments.take index) + segment.steps.toNat := by
  rw [List.take_add_one, found, total_append]
  rfl

/-- Segments that all take steps need more steps the more of them there are. -/
theorem Segment.total_take_lt
    {segments : List Segment}
    (positive : ∀ segment ∈ segments, 0 < segment.steps)
    {fewer more : Nat} (less : fewer < more) (inside : more ≤ segments.length) :
    total (segments.take fewer) < total (segments.take more) := by
  induction more with
  | zero => exact (Nat.not_lt_zero fewer less).elim
  | succ more induction =>
      have found : segments[more]? = some segments[more] :=
        List.getElem?_eq_getElem inside
      have steps : 0 < segments[more].steps.toNat :=
        UInt64.lt_iff_toNat_lt.mp (positive _ (List.getElem_mem inside))
      rw [total_take_succ found]
      rcases Nat.lt_succ_iff_lt_or_eq.mp less with earlier | rfl
      · have grown := induction earlier (Nat.le_of_succ_le inside)
        omega
      · omega

namespace Schedule

/-- What the closed form says of a segment it names. -/
theorem segment_of_mem_progress
    {schedule : Schedule} {progress : Progress}
    (found : progress ∈ schedule.progress) :
    ∃ segment, schedule.segments[progress.segment]? = some segment ∧
      0 < progress.segmentSteps ∧
      progress.segmentSteps ≤ segment.steps.toNat ∧
      progress.totalSteps =
        Segment.total (schedule.segments.take progress.segment) +
          progress.segmentSteps := by
  rcases List.mem_flatMap.mp found with ⟨⟨segment, index⟩, listed, chunk⟩
  rcases List.mem_map.mp chunk with ⟨place, -, rfl⟩
  have held : schedule.segments[index]? = some segment :=
    List.mk_mem_zipIdx_iff_getElem?.mp listed
  have member : segment ∈ schedule.segments := List.mem_of_getElem? held
  have size := schedule.chunk_toNat_pos segment member
  have steps : 0 < segment.steps.toNat :=
    UInt64.lt_iff_toNat_lt.mp (schedule.steps_pos segment member)
  refine ⟨segment, held, ?_, Nat.min_le_right _ _, rfl⟩
  exact Nat.lt_min.mpr ⟨Nat.mul_pos (Nat.succ_pos place) size, steps⟩

/-- The segments finished are as many as fit in the steps taken. -/
theorem isGreatest_finished
    {schedule : Schedule} {progress : Progress}
    (found : progress ∈ schedule.progress) {segment : Segment}
    (held : schedule.segments[progress.segment]? = some segment) :
    IsGreatest
      {finished | finished ≤ schedule.segments.length ∧
        Segment.total (schedule.segments.take finished) ≤ progress.totalSteps}
      (if progress.segmentSteps = segment.steps.toNat then progress.segment + 1
        else progress.segment) := by
  rcases segment_of_mem_progress found with
    ⟨other, same, steps, most, total⟩
  cases Option.some.inj (held.symm.trans same)
  have inside : progress.segment < schedule.segments.length :=
    (List.getElem?_eq_some_iff.mp held).1
  have next := Segment.total_take_succ held
  have more {fewer more : Nat} (less : fewer < more)
      (inside : more ≤ schedule.segments.length) :=
    Segment.total_take_lt schedule.steps_pos less inside
  split_ifs with whole
  · refine ⟨⟨inside, by omega⟩, ?_⟩
    rintro finished ⟨possible, fits⟩
    by_contra beyond
    have further := more (Nat.lt_of_not_le beyond) possible
    omega
  · refine ⟨⟨Nat.le_of_lt inside, by omega⟩, ?_⟩
    rintro finished ⟨possible, fits⟩
    by_contra beyond
    have further :
        Segment.total (schedule.segments.take (progress.segment + 1)) ≤
          Segment.total (schedule.segments.take finished) := by
      rcases Nat.lt_or_eq_of_le (Nat.succ_le_of_lt (Nat.lt_of_not_le beyond)) with
        less | rfl
      · exact Nat.le_of_lt (more less possible)
      · exact Nat.le_refl _
    omega

theorem getElem?_of_mem_plan
    {schedule : Schedule} {index : Nat} {segment : Segment} {done count : Count}
    (ordered : .take index segment done count ∈ schedule.plan) :
    schedule.segments[index]? = some segment := by
  rcases cases_of_mem_plan ordered with
    ⟨place, other, found, same | ⟨done, count, same⟩⟩
  · cases same
  · cases same
    exact found

/-- Halfway through a plan the order that has shown the event knows the finished segments. -/
theorem isGreatest_of_halfway
    {schedule : Schedule} {compound : Compound setting size}
    {contexts : Contexts setting size} {before : List Event} {order : Order}
    {event : Event} {stretch : Stretch setting size Unit}
    (halfway :
      Order.Halfway schedule.plan ⟨compound, contexts, (), 0⟩ before order event
        stretch) :
    IsGreatest
      {finished | finished ≤ schedule.segments.length ∧
        Segment.total (schedule.segments.take finished) ≤
          event.totalSteps.toNat}
      order.finished := by
  rcases halfway.split with ⟨done, rest, split, -, whole⟩
  have told : event.progress ∈ schedule.progress := by
    have shown :=
      ((Order.progress_followAll .silent (done ++ [order])
        ⟨compound, contexts, (), 0⟩).2.2 (by rw [whole]; exact halfway.going)).1
    rw [whole, halfway.events] at shown
    have listed : schedule.plan = done ++ [order] ++ rest := by
      rw [split, List.append_assoc]
      rfl
    rw [← schedule.announced_plan.1, listed, Order.announced_append]
    apply List.mem_append_left
    show _ ∈ Order.announced 0 (done ++ [order])
    rw [← shown]
    exact List.mem_map_of_mem (by simp)
  cases order with
  | enter index segment => exact halfway.tells.elim
  | take index segment done count =>
      rcases halfway.tells with ⟨rfl, steps⟩
      have ordered : .take event.segment segment done count ∈ schedule.plan := by
        rw [split]
        simp
      have greatest :=
        isGreatest_finished told (getElem?_of_mem_plan ordered)
      rw [Order.finished, ← steps]
      simpa only [Event.progress, UInt64.toNat_inj] using greatest

end Schedule

/-! ## Whole runs -/

/-- Two runs achieve and show the same, note the same and lead to the same state. -/
structure Run.Agrees {First Second : Type}
    (first : Run setting size First) (second : Run setting size Second) :
    Prop where
  answer_eq : first.answer = second.answer
  events_eq : first.events = second.events
  compound_eq : first.standing.compound = second.standing.compound
  contexts_eq : first.standing.contexts = second.standing.contexts
  total_eq : first.standing.total = second.standing.total
  trace_eq : first.trace = second.trace

theorem Observer.passes_of_silence {Observation : Type}
    {observer : Observer Observation Memory}
    (silence :
      ∀ memory observation, (observer.observe memory observation).2 = none)
    (memory : Memory) (observations : List Observation) :
    observer.Passes memory observations := by
  induction observations generalizing memory with
  | nil => trivial
  | cons observation observations induction =>
      exact ⟨silence memory observation, induction _⟩

/--
An observer can only truncate a run.  If it asks for nothing at the events of the
free run, the run agrees with the free run.  If it asks for a stop at one of them
for the first time, then that is the last event of the run; the run ends in the
state of the free run halfway, when that event has just been shown, and counts
the steps that the event tells and as many segments as fit in them.
-/
theorem Schedule.run_truncates
    (schedule : Schedule) (observer : Observer Event Memory) (memory : Memory)
    (compound : Compound setting size) (contexts : Contexts setting size) :
    let free := schedule.runUnobserved compound contexts
    let run := schedule.run observer memory compound contexts
    (observer.Passes memory free.events →
      run.Agrees free ∧
        run.standing.memory = observer.memoryAfter memory free.events) ∧
    (∀ before event after,
      free.events = before ++ event :: after →
      observer.Passes memory before →
      (observer.observe (observer.memoryAfter memory before) event).2 =
          some .stopEarly →
        run.events = before ++ [event] ∧
        run.standing.memory =
          observer.memoryAfter memory (before ++ [event]) ∧
        ∃ segments order halfway rest,
          run.answer =
            .ok ⟨.stoppedByObserver, segments, event.totalSteps⟩ ∧
          IsGreatest
            {finished | finished ≤ schedule.segments.length ∧
              Segment.total (schedule.segments.take finished) ≤
                event.totalSteps.toNat}
            segments ∧
          Order.Halfway schedule.plan ⟨compound, contexts, (), 0⟩ before order
            event halfway ∧
          free =
            schedule.conclude (halfway.andThen (Order.followAll .silent rest)) ∧
          run.standing.compound = halfway.standing.compound ∧
          run.standing.contexts = halfway.standing.contexts ∧
          run.trace =
            halfway.trace ++ .ofNotice (.stopped event.totalSteps)) ∧
    ((∀ memory event, (observer.observe memory event).2 = none) →
      run.Agrees free) := by
  intro free run
  let start : Standing setting size Unit := ⟨compound, contexts, (), 0⟩
  have freely :
      free = schedule.conclude (Order.followAll .silent schedule.plan start) :=
    schedule.run_eq .silent () compound contexts
  have observed :
      run =
        schedule.conclude
          (Order.followAll observer schedule.plan (start.remembering memory)) :=
    schedule.run_eq observer memory compound contexts
  have passed (passes : observer.Passes memory free.events) :
      run.Agrees free ∧
        run.standing.memory = observer.memoryAfter memory free.events := by
    rw [freely] at passes ⊢
    rw [observed, Order.followAll_of_passes passes]
    exact ⟨⟨rfl, rfl, rfl, rfl, rfl, rfl⟩, rfl⟩
  refine ⟨passed, ?_, ?_⟩
  · intro before event after shown passes stops
    rw [freely] at shown
    rcases Order.followAll_of_stop shown passes stops with
      ⟨order, halfway, reached, stopped⟩
    rcases reached.split with ⟨done, rest, split, -, whole⟩
    rw [observed, stopped]
    refine
      ⟨rfl, rfl, order.finished, order, halfway, rest, rfl,
        isGreatest_of_halfway reached, reached, ?_, rfl, rfl, rfl⟩
    have parts : schedule.plan = done ++ [order] ++ rest := by
      rw [split, List.append_assoc]
      rfl
    rw [freely, ← whole, ← Order.followAll_append, ← parts]
  · intro silence
    exact (passed (Observer.passes_of_silence silence memory free.events)).1

/--
An observer that asks for a stop at the third event, at which the second of three
segments ends, sees three of four events, and two segments count.
-/
theorem Schedule.run_stopped_at_segment_end :
    let recorder : Member .clock 1 :=
      .recorder
        ⟨0, "recorder", 0, .ofPicoseconds 0.5, 1.0, .none, false, false, some 0⟩
    let schedule : Schedule :=
      { segments := [⟨0, 2⟩, ⟨0, 3⟩, ⟨0, 2⟩]
        chunk := some 2
        nonempty := by decide
        steps_pos := by decide
        total_lt := by decide
        chunk_pos := by simp }
    let counting : Observer Event Nat :=
      ⟨fun seen _ => (seen + 1, if seen = 2 then some .stopEarly else none)⟩
    let free := schedule.runUnobserved ⟨[recorder], 0, true⟩ #v[0.0]
    let run := schedule.run counting 0 ⟨[recorder], 0, true⟩ #v[0.0]
    free.events.map Event.totalSteps = [2, 4, 5, 7] ∧
      run.events = free.events.take 3 ∧ run.standing.memory = 3 ∧
      run.answer = .ok ⟨.stoppedByObserver, 2, 5⟩ := by
  intro recorder schedule counting free run
  have totals : free.events.map Event.totalSteps = [2, 4, 5, 7] := by
    decide +kernel
  refine ⟨totals, ?_⟩
  rcases List.map_eq_cons_iff.mp totals with ⟨first, _, shown, -, totals⟩
  rcases List.map_eq_cons_iff.mp totals with ⟨second, _, rfl, -, totals⟩
  rcases List.map_eq_cons_iff.mp totals with ⟨third, after, rfl, five, -⟩
  have truncated :=
    schedule.run_truncates counting 0 ⟨[recorder], 0, true⟩ #v[0.0]
  rcases truncated.2.1 [first, second] third after shown ⟨rfl, rfl, trivial⟩
      rfl with
    ⟨events, memory, segments, _, _, _, answer, greatest, -⟩
  rw [five] at answer greatest
  have two : segments = 2 := by
    have counted : 2 ≤ segments := greatest.2 (by decide)
    have within : segments ≤ 3 := greatest.1.1
    have unfinished : segments ≠ 3 := by
      rintro rfl
      exact absurd greatest.1.2 (by decide)
    omega
  rw [two] at answer
  refine ⟨events.trans ?_, memory, answer⟩
  rw [shown]
  rfl

end Stepping
