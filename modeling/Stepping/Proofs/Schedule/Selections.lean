import Stepping.Proofs.Compound.Selections
import Stepping.Proofs.Schedule.Breakdown

/-!
# Whom a run selects

A run makes the member of each segment active as it begins the segment, and
notes it.  It selects the members of a front of the segments, and how many these
are can be told from how it ends: all of them if it completes, those up to the
segment of the last event if it is stopped, and if it fails, those up to the
segment that fails, or before it if there is no such member.

The active member is that of the last segment begun, or the one from before.
-/

namespace Stepping

variable {setting : Setting} {size : Nat} {Memory : Type}

/-- The index of the member that a notice tells has become active for a segment. -/
def Notice.selected : Notice → Option Nat
  | .segment _ _ member => some member.toNat
  | _ => none

/-- The indices of the members that have become active for segments, in order. -/
def Trace.selections (trace : Trace) : List Nat :=
  trace.notices.filterMap Notice.selected

theorem Trace.selections_append (first second : Trace) :
    (first ++ second).selections = first.selections ++ second.selections :=
  List.filterMap_append

/-- How many segments a run has begun with their members active, by how it has ended. -/
def Run.begun (run : Run setting size Memory) : Nat :=
  match run.answer with
  | .ok ⟨.complete, segments, _⟩ => segments
  | .ok ⟨.stoppedByObserver, _, _⟩ =>
      (run.events.getLast?.map fun event => event.segment + 1).getD 0
  | .error ⟨segment, .indexOutOfRange _ _⟩ => segment
  | .error ⟨segment, _⟩ => segment + 1

namespace Compound

/-- A compound does not note selections for segments. -/
theorem selections_select (index : Nat) (compound : Compound setting size) :
    (compound.select index).2.2.selections = [] := by
  rw [Trace.selections]
  rcases compound.notices_select index with none | switched
  · rw [none]
    rfl
  · rw [switched]
    rfl

theorem selections_step
    (steps : Count) (contexts : Contexts setting size)
    (compound : Compound setting size) :
    (compound.step steps contexts).trace.selections = [] := by
  rw [Trace.selections]
  rcases compound.notices_step steps contexts with none | tried
  · rw [none]
    rfl
  · rw [tried]
    rfl

end Compound

namespace Order

/-- Whom an order selects if the run does not fail by it. -/
def selections : Order → List Nat
  | .enter _ segment => [segment.member.toNat]
  | .take _ _ _ _ => []

theorem selections_takeChunk
    (observer : Observer Event Memory) (index : Nat) (segment : Segment)
    (done count : Count) (standing : Standing setting size Memory) :
    (Schedule.takeChunk observer index segment done count
      standing).trace.selections = [] := by
  have step := standing.compound.selections_step count standing.contexts
  rw [Schedule.takeChunk]
  cases (standing.compound.step count standing.contexts).answer with
  | error cause => exact step
  | ok nothing =>
      dsimp only
      split
      · exact step
      · split
        · exact step
        · rw [Trace.selections_append, step]
          rfl

/-- An order that does not end the run selects whom it should, else nobody. -/
theorem selections_follow
    (observer : Observer Event Memory) (order : Order)
    (standing : Standing setting size Memory) :
    (order.follow observer standing).trace.selections =
      if (order.follow observer standing).ended = none then order.selections
      else [] := by
  cases order with
  | enter index segment =>
      by_cases inside :
          segment.member.toNat < standing.compound.members.length
      · rw [follow_enter_of_lt observer index inside]
        show (_ ++ Trace.ofNotice _ : Trace).selections = _
        rw [Trace.selections_append, Compound.selections_select]
        rfl
      · rw [follow_enter_of_not_lt observer index inside]
        rfl
  | take index segment done count =>
      rw [selections, ite_self]
      exact selections_takeChunk observer index segment done count standing

theorem led_follow
    (observer : Observer Event Memory) (order : Order)
    (standing : Standing setting size Memory) :
    standing.compound.Led (order.follow observer standing).trace.selections
      (order.follow observer standing).standing.compound := by
  cases order with
  | enter index segment =>
      rw [selections_follow]
      by_cases inside :
          segment.member.toNat < standing.compound.members.length
      · rw [follow_enter_of_lt observer index inside]
        exact Compound.led_select inside
      · rw [follow_enter_of_not_lt observer index inside]
        exact .refl standing.compound
  | take index segment done count =>
      have step := standing.compound.led_step count standing.contexts
      rw [selections_follow, selections, ite_self, follow, Schedule.takeChunk]
      cases (standing.compound.step count standing.contexts).answer with
      | error cause => exact step
      | ok nothing =>
          dsimp only
          split
          · exact step
          · split <;> exact step

/-- Orders lead from selection to selection, and the last one stays. -/
theorem led_followAll
    (observer : Observer Event Memory) (orders : List Order)
    (standing : Standing setting size Memory) :
    standing.compound.Led (followAll observer orders standing).trace.selections
      (followAll observer orders standing).standing.compound := by
  induction orders generalizing standing with
  | nil => exact .refl standing.compound
  | cons order orders induction =>
      have first := led_follow observer order standing
      rw [followAll]
      by_cases going : (order.follow observer standing).ended = none
      · rw [Stretch.andThen_of_not_ended going, Trace.selections_append]
        exact first.trans (induction _)
      · rw [Stretch.andThen_of_ended going]
        exact first

theorem selections_followAll
    {observer : Observer Event Memory} {orders : List Order}
    {standing : Standing setting size Memory}
    (going : (followAll observer orders standing).ended = none) :
    (followAll observer orders standing).trace.selections =
      orders.flatMap selections := by
  induction orders generalizing standing with
  | nil => rfl
  | cons order orders induction =>
      rw [followAll] at going ⊢
      have first := Stretch.not_ended_of_andThen going
      rw [Stretch.andThen_of_not_ended first] at going ⊢
      rw [Trace.selections_append, selections_follow, if_pos first,
        induction going, List.flatMap_cons]

end Order

namespace Schedule

theorem selections_segmentOrders
    (chunk : Option Count) (index : Nat) (segment : Segment) :
    (segmentOrders chunk index segment).flatMap Order.selections =
      [segment.member.toNat] := by
  have chunks (places : List Nat) (chunk : Count) :
      (places.map (Order.chunkAt index segment chunk)).flatMap
          Order.selections = [] := by
    rw [List.flatMap_map]
    exact List.flatMap_eq_nil_iff.mpr fun _ _ => rfl
  rw [segmentOrders, List.flatMap_cons, chunks]
  rfl

theorem selections_orders
    (chunk : Option Count) (index : Nat) (segments : List Segment) :
    (orders chunk index segments).flatMap Order.selections =
      segments.map fun segment => segment.member.toNat := by
  induction segments generalizing index with
  | nil => rfl
  | cons segment segments induction =>
      rw [orders_cons, List.flatMap_append, selections_segmentOrders, induction,
        List.map_cons]
      rfl

end Schedule

/-! ## How many segments are begun -/

/-- The number of segments that have been begun if the run ends by an order. -/
def Order.begun : Order → Nat
  | .enter index _ => index
  | .take index _ _ _ => index + 1

namespace Compound

/-- Only a selection is refused for want of the member. -/
theorem step_ne_indexOutOfRange
    {compound : Compound setting size} {steps : Count}
    {contexts : Contexts setting size} {index length : Nat} :
    (compound.step steps contexts).answer ≠
      .error (.indexOutOfRange index length) := by
  intro failed
  rw [step] at failed
  split_ifs at failed
  · cases failed
  · cases failed
  · dsimp only at failed
    split at failed
    · cases failed
    · split at failed <;> cases failed

theorem kineticEnergy_ne_indexOutOfRange
    {compound : Compound setting size} {contexts : Contexts setting size}
    {index length : Nat} :
    compound.kineticEnergy contexts ≠
      .error (.indexOutOfRange index length) := by
  intro failed
  have present : compound.activeMember ≠ .error (.indexOutOfRange index length) := by
    rw [activeMember]
    cases compound.members[compound.active]? <;> simp
  cases bound : compound.bound with
  | false =>
      rw [kineticEnergy_of_not_bound bound, bind_eq_error_iff] at failed
      rcases failed with missing | ⟨member, -, other⟩
      · exact present missing
      · cases other
  | true =>
      rw [kineticEnergy_of_bound bound, bind_eq_error_iff] at failed
      rcases failed with missing | ⟨member, -, blamed⟩
      · exact present missing
      · rcases blameActive_eq_error_iff.mp blamed with ⟨inner, -, other⟩
        cases other

end Compound

/-- Where the observer stops a run, an event of the segment has just been shown. -/
theorem Order.events_of_asked
    {observer : Observer Event Memory} {order : Order}
    {standing : Standing setting size Memory} {ending : Schedule.Ending}
    (ended : (order.follow observer standing).ended = some (.ok ending)) :
    ∃ event,
      (order.follow observer standing).events = [event] ∧
        order.begun = event.segment + 1 := by
  cases order with
  | enter index segment =>
      by_cases inside :
          segment.member.toNat < standing.compound.members.length
      · rw [follow_enter_of_lt observer index inside] at ended
        cases ended
      · rw [follow_enter_of_not_lt observer index inside] at ended
        cases ended
  | take index segment done count =>
      rcases progress_follow observer (take index segment done count) standing with
        ⟨failure, failed, -⟩ | ⟨shown, -, -⟩
      · cases ended.symm.trans failed
      · rw [progress] at shown
        rcases List.map_eq_singleton_iff.mp shown with ⟨event, events, told⟩
        have place : event.segment = index := congrArg Progress.segment told
        exact ⟨event, events, congrArg Nat.succ place.symm⟩

/-- The order by which a run ends tells how many segments it has begun. -/
theorem Run.begun_eq
    {run : Run setting size Memory} {observer : Observer Event Memory}
    {order : Order} {standing : Standing setting size Memory}
    (ended : (order.follow observer standing).ended = some run.answer)
    {earlier : List Event}
    (events_eq :
      run.events = earlier ++ (order.follow observer standing).events) :
    run.begun = order.begun := by
  rw [begun]
  cases answer : run.answer with
  | ok ending =>
      rw [answer] at ended
      rcases Order.asked_of_follow ended with ⟨stopped, -⟩
      rcases ending with ⟨status, segments, steps⟩
      cases stopped
      rcases Order.events_of_asked ended with ⟨event, events, begun⟩
      rw [events_eq, events, List.getLast?_concat, begun]
      rfl
  | error failure =>
      rw [answer] at ended
      rcases failure with ⟨place, cause⟩
      rcases (Order.failure_of_follow ended).2 with
        ⟨segment, rfl, -, rfl, -⟩ | ⟨segment, done, count, rfl, failed, -⟩ |
          ⟨segment, done, count, rfl, -, failed, -⟩
      · rfl
      · cases cause with
        | indexOutOfRange index length =>
            exact (Compound.step_ne_indexOutOfRange failed).elim
        | _ => rfl
      · cases cause with
        | indexOutOfRange index length =>
            exact (Compound.kineticEnergy_ne_indexOutOfRange failed).elim
        | _ => rfl

namespace Schedule

/-- What stands before an order selects the members of the segments begun by then. -/
theorem selections_before
    {schedule : Schedule} {done rest : List Order} {order : Order}
    (split : schedule.plan = done ++ order :: rest) :
    done.flatMap Order.selections =
      (schedule.segments.take order.begun).map
        fun segment => segment.member.toNat := by
  rcases split_of_plan split with
    ⟨index, segment, entered, further, found, rfl, inside⟩
  rw [List.flatMap_append, selections_orders]
  rcases cases_of_segmentOrders inside with
    ⟨rfl, rfl⟩ | ⟨chunks, done, count, rfl, takes, rfl⟩
  · exact List.append_nil _
  · have nobody : chunks.flatMap Order.selections = [] := by
      apply List.flatMap_eq_nil_iff.mpr
      intro earlier among
      rcases takes earlier among with ⟨done, count, rfl⟩
      rfl
    rw [Order.begun, List.take_add_one, found, List.map_append,
      List.flatMap_cons, nobody]
    rfl

/-- A run has selected the members of the segments that it has begun, in order. -/
theorem selections_run
    (schedule : Schedule) (observer : Observer Event Memory) (memory : Memory)
    (compound : Compound setting size) (contexts : Contexts setting size) :
    let run := schedule.run observer memory compound contexts
    run.trace.selections =
      (schedule.segments.take run.begun).map
        fun segment => segment.member.toNat := by
  intro run
  let start : Standing setting size Memory := ⟨compound, contexts, memory, 0⟩
  have whole :
      run = schedule.conclude (Order.followAll observer schedule.plan start) :=
    schedule.run_eq observer memory compound contexts
  cases ended : (Order.followAll observer schedule.plan start).ended with
  | none =>
      have begun : run.begun = schedule.segments.length := by
        rw [whole, Run.begun, conclude, ended]
        rfl
      rw [begun, List.take_length, whole]
      exact
        (Order.selections_followAll ended).trans
          (selections_orders schedule.chunk 0 schedule.segments)
  | some answer =>
      rcases Order.split_of_followAll ended with
        ⟨done, order, rest, split, going, stops, joined⟩
      have last : (order.follow observer
          (Order.followAll observer done start).standing).ended ≠ none := by
        rw [stops]
        exact Option.some_ne_none answer
      rw [joined, Stretch.andThen_of_not_ended going] at whole
      have selected :
          run.trace.selections = done.flatMap Order.selections := by
        rw [whole]
        show (_ ++ _ : Trace).selections = _
        rw [Trace.selections_append, Order.selections_followAll going,
          Order.selections_follow, if_neg last, List.append_nil]
      have answer_eq : run.answer = answer := by
        rw [whole, conclude]
        dsimp only
        rw [stops]
        rfl
      have begun : run.begun = order.begun := by
        rw [← answer_eq] at stops
        exact Run.begun_eq stops (congrArg Run.events whole)
      rw [selected, begun]
      exact selections_before split

/-- The member selected last is active after a run, or the one that was so before. -/
theorem led_run
    (schedule : Schedule) (observer : Observer Event Memory) (memory : Memory)
    (compound : Compound setting size) (contexts : Contexts setting size) :
    compound.Led
      (schedule.run observer memory compound contexts).trace.selections
      (schedule.run observer memory compound contexts).standing.compound := by
  rw [run_eq]
  exact
    Order.led_followAll observer schedule.plan ⟨compound, contexts, memory, 0⟩

end Schedule

end Stepping
