import Stepping.Schedule.Run
import Mathlib.Data.List.Basic
import Mathlib.Tactic.SplitIfs

/-!
# Plans

A run goes through segments and, inside them, through chunks.  Its plan is the
one list of what it does in all, in closed form: for every segment the order to
begin it, and then an order for each of its chunks, the `j`-th of which comes
after `j * c` steps of the segment and takes what is left of it, but at most
`c`.  A run of a schedule is nothing but its plan followed order by order, so
what holds of a run is shown by induction on a list.
-/

namespace Stepping

namespace Trace

@[simp]
theorem none_append (trace : Trace) : Trace.none ++ trace = trace :=
  rfl

@[simp]
theorem append_none (trace : Trace) : trace ++ Trace.none = trace := by
  show (⟨_, _⟩ : Trace) = trace
  simp [Trace.none]

theorem append_assoc (first second third : Trace) :
    first ++ second ++ third = first ++ (second ++ third) := by
  show (⟨_, _⟩ : Trace) = ⟨_, _⟩
  simp

end Trace

namespace Stretch

variable {setting : Setting} {size : Nat} {Memory : Type}

@[simp]
theorem noting_none_andThen
    (standing : Standing setting size Memory)
    (next : Standing setting size Memory → Stretch setting size Memory) :
    (Stretch.noting .none standing).andThen next = next standing := by
  rfl

theorem andThen_of_not_ended
    {first : Stretch setting size Memory} (going : first.ended = none)
    (next : Standing setting size Memory → Stretch setting size Memory) :
    first.andThen next =
      ⟨(next first.standing).ended,
        first.events ++ (next first.standing).events,
        (next first.standing).standing,
        first.trace ++ (next first.standing).trace⟩ := by
  simp [andThen, going]

theorem andThen_of_ended
    {first : Stretch setting size Memory} (past : first.ended ≠ none)
    (next : Standing setting size Memory → Stretch setting size Memory) :
    first.andThen next = first := by
  rw [andThen]
  cases ended : first.ended with
  | none => exact (past ended).elim
  | some result => rfl

/-- What goes on after a stretch did not end in it. -/
theorem not_ended_of_andThen
    {first : Stretch setting size Memory}
    {next : Standing setting size Memory → Stretch setting size Memory}
    (going : (first.andThen next).ended = none) : first.ended = none := by
  by_contra past
  rw [andThen_of_ended past] at going
  exact past going

@[simp]
theorem andThen_noting_none (first : Stretch setting size Memory) :
    first.andThen (.noting .none) = first := by
  by_cases going : first.ended = none
  · rw [andThen_of_not_ended going]
    cases first
    simp_all [noting]
  · exact andThen_of_ended going _

theorem andThen_assoc
    (first : Stretch setting size Memory)
    (second third : Standing setting size Memory → Stretch setting size Memory) :
    (first.andThen second).andThen third =
      first.andThen fun standing => (second standing).andThen third := by
  cases going : first.ended with
  | some result => simp [andThen, going]
  | none =>
      cases further : (second first.standing).ended with
      | some result => simp [andThen, going, further]
      | none =>
          simp [andThen, going, further, List.append_assoc,
            Trace.append_assoc]

end Stretch

/-- Where a run stands, with the memory of an observer who has not been there. -/
def Standing.remembering {setting : Setting} {size : Nat} {Memory : Type}
    (memory : Memory) (standing : Standing setting size Unit) :
    Standing setting size Memory :=
  ⟨standing.compound, standing.contexts, memory, standing.total⟩

/-- Where a run stands, whatever its observer remembers. -/
def Standing.forgetting {setting : Setting} {size : Nat} {Memory : Type}
    (standing : Standing setting size Memory) : Standing setting size Unit :=
  ⟨standing.compound, standing.contexts, (), standing.total⟩

/-- Show an event to the observer after a chunk of a segment, of which so many are finished. -/
def Stretch.showing
    {setting : Setting} {size : Nat} {Memory : Type}
    (observer : Observer Event Memory) (event : Event) (finished : Nat)
    (trace : Trace) (standing : Standing setting size Memory) :
    Stretch setting size Memory :=
  let (memory, action) := observer.observe standing.memory event
  let seen := { standing with memory := memory }
  match action with
  | none => ⟨none, [event], seen, trace⟩
  | some .stopEarly =>
      ⟨some (.ok ⟨.stoppedByObserver, finished, seen.total⟩), [event], seen,
        trace ++ .ofNotice (.stopped seen.total)⟩

namespace Schedule

variable {setting : Setting} {size : Nat} {Memory : Type}

theorem takeChunk_of_step_error
    (observer : Observer Event Memory) (index : Nat) (segment : Segment)
    (done : Count) {count : Count} {standing : Standing setting size Memory}
    {cause : Compound.Failure}
    (failed :
      (standing.compound.step count standing.contexts).answer = .error cause) :
    takeChunk observer index segment done count standing =
      .failing index cause
        (standing.compound.step count standing.contexts).trace
        { standing with
          compound := (standing.compound.step count standing.contexts).compound
          contexts :=
            (standing.compound.step count standing.contexts).contexts } := by
  rw [takeChunk, failed]

theorem takeChunk_of_energy_error
    (observer : Observer Event Memory) (index : Nat) (segment : Segment)
    (done : Count) {count : Count} {standing : Standing setting size Memory}
    {cause : Compound.Failure}
    (stepped :
      (standing.compound.step count standing.contexts).answer = .ok ())
    (failed :
      (standing.compound.step count standing.contexts).compound.kineticEnergy
          (standing.compound.step count standing.contexts).contexts =
        .error cause) :
    takeChunk observer index segment done count standing =
      .failing index cause
        (standing.compound.step count standing.contexts).trace
        { standing with
          compound := (standing.compound.step count standing.contexts).compound
          contexts := (standing.compound.step count standing.contexts).contexts
          total := standing.total + count } := by
  rw [takeChunk, stepped]
  dsimp only
  rw [failed]

theorem takeChunk_of_ok
    (observer : Observer Event Memory) (index : Nat) (segment : Segment)
    (done : Count) {count : Count} {standing : Standing setting size Memory}
    {energy : MolarEnergy}
    (stepped :
      (standing.compound.step count standing.contexts).answer = .ok ())
    (reported :
      (standing.compound.step count standing.contexts).compound.kineticEnergy
          (standing.compound.step count standing.contexts).contexts =
        .ok energy) :
    takeChunk observer index segment done count standing =
      .showing observer
        ⟨index, segment.member, done + count, standing.total + count, energy⟩
        (if done + count = segment.steps then index + 1 else index)
        (standing.compound.step count standing.contexts).trace
        { standing with
          compound := (standing.compound.step count standing.contexts).compound
          contexts := (standing.compound.step count standing.contexts).contexts
          total := standing.total + count } := by
  rw [takeChunk, stepped]
  dsimp only
  rw [reported]
  rfl

/-- A chunk after which the run goes on has shown an event and was not stopped at it. -/
theorem takeChunk_of_going
    {observer : Observer Event Memory} {index : Nat} {segment : Segment}
    {done count : Count} {standing : Standing setting size Memory}
    (going :
      (takeChunk observer index segment done count standing).ended = none) :
    ∃ energy,
      (standing.compound.step count standing.contexts).answer = .ok () ∧
      (standing.compound.step count standing.contexts).compound.kineticEnergy
          (standing.compound.step count standing.contexts).contexts =
        .ok energy ∧
      takeChunk observer index segment done count standing =
        ⟨none,
          [⟨index, segment.member, done + count, standing.total + count,
            energy⟩],
          { compound :=
              (standing.compound.step count standing.contexts).compound
            contexts :=
              (standing.compound.step count standing.contexts).contexts
            memory :=
              (observer.observe standing.memory
                ⟨index, segment.member, done + count, standing.total + count,
                  energy⟩).1
            total := standing.total + count },
          (standing.compound.step count standing.contexts).trace⟩ := by
  cases stepped :
      (standing.compound.step count standing.contexts).answer with
  | error cause =>
      rw [takeChunk_of_step_error observer index segment done stepped] at going
      cases going
  | ok nothing =>
      cases reported :
          (standing.compound.step count standing.contexts).compound.kineticEnergy
            (standing.compound.step count standing.contexts).contexts with
      | error cause =>
          rw [takeChunk_of_energy_error observer index segment done stepped
            reported] at going
          cases going
      | ok energy =>
          rw [takeChunk_of_ok observer index segment done stepped reported]
            at going ⊢
          refine ⟨energy, rfl, rfl, ?_⟩
          rw [Stretch.showing] at going ⊢
          generalize
            observer.observe standing.memory
                ⟨index, segment.member, done + count, standing.total + count,
                  energy⟩ = seen
            at going ⊢
          rcases seen with ⟨memory, action⟩
          rcases action with _ | ⟨⟨⟩⟩
          · rfl
          · cases going

end Schedule

/-- One thing that a run does. -/
inductive Order where
  | enter (index : Nat) (segment : Segment)
  /-- Take so many steps of a segment, after those that are done. -/
  | take (index : Nat) (segment : Segment) (done count : Count)

namespace Order

variable {setting : Setting} {size : Nat} {Memory : Type}

/-- Do what an order says, before an observer. -/
def follow (observer : Observer Event Memory) :
    Order → Standing setting size Memory → Stretch setting size Memory
  | .enter index segment, standing =>
      let (answer, compound, selecting) :=
        standing.compound.select segment.member.toNat
      let selected := { standing with compound := compound }
      match answer with
      | .error cause => .failing index cause selecting selected
      | .ok () =>
          .noting
            (selecting ++
              .ofNotice (.segment index segment.steps segment.member))
            selected
  | .take index segment done count, standing =>
      Schedule.takeChunk observer index segment done count standing

/-- Do what orders say, one after another, until the run ends. -/
def followAll (observer : Observer Event Memory) :
    List Order → Standing setting size Memory → Stretch setting size Memory
  | [], standing => .noting .none standing
  | order :: orders, standing =>
      (order.follow observer standing).andThen (followAll observer orders)

theorem follow_enter_of_lt
    (observer : Observer Event Memory) (index : Nat) {segment : Segment}
    {standing : Standing setting size Memory}
    (inside : segment.member.toNat < standing.compound.members.length) :
    (enter index segment).follow observer standing =
      .noting
        ((standing.compound.select segment.member.toNat).2.2 ++
          .ofNotice (.segment index segment.steps segment.member))
        { standing with
          compound := (standing.compound.select segment.member.toNat).2.1 } := by
  simp [follow, Compound.select, inside]

theorem follow_enter_of_not_lt
    (observer : Observer Event Memory) (index : Nat) {segment : Segment}
    {standing : Standing setting size Memory}
    (outside : ¬ segment.member.toNat < standing.compound.members.length) :
    (enter index segment).follow observer standing =
      .failing index
        (.indexOutOfRange segment.member.toNat standing.compound.members.length)
        .none standing := by
  simp [follow, Compound.select, outside]

/-- A segment that a run enters has a member. -/
theorem lt_of_follow_enter
    {observer : Observer Event Memory} {index : Nat} {segment : Segment}
    {standing : Standing setting size Memory}
    (going : ((enter index segment).follow observer standing).ended = none) :
    segment.member.toNat < standing.compound.members.length := by
  by_contra outside
  rw [follow_enter_of_not_lt observer index outside] at going
  cases going

/-- The segments that are finished when an order has been followed. -/
def finished : Order → Nat
  | .enter index _ => index
  | .take index segment done count =>
      if done + count = segment.steps then index + 1 else index

/--
Before all observers an order does the same.  The run fails by it, or a segment
is entered, or an event is shown, and then it depends on the observer only
whether the run goes on.
-/
theorem follow_cases (order : Order) (standing : Standing setting size Unit) :
    (∃ index cause trace, ∃ next : Standing setting size Unit,
      ∀ {Memory : Type} (observer : Observer Event Memory) (memory : Memory),
        order.follow observer (standing.remembering memory) =
          .failing index cause trace (next.remembering memory)) ∨
    (∃ index segment trace, ∃ next : Standing setting size Unit,
      order = .enter index segment ∧ next.total = standing.total ∧
        ∀ {Memory : Type} (observer : Observer Event Memory) (memory : Memory),
          order.follow observer (standing.remembering memory) =
            .noting trace (next.remembering memory)) ∨
    ∃ index segment done count energy trace,
      ∃ next : Standing setting size Unit,
        order = .take index segment done count ∧
        next.total = standing.total + count ∧
        ∀ {Memory : Type} (observer : Observer Event Memory) (memory : Memory),
          order.follow observer (standing.remembering memory) =
            .showing observer
              ⟨index, segment.member, done + count, next.total, energy⟩
              order.finished trace (next.remembering memory) := by
  cases order with
  | enter index segment =>
      by_cases inside :
          segment.member.toNat < standing.compound.members.length
      · exact
          .inr
            (.inl
              ⟨index, segment,
                (standing.compound.select segment.member.toNat).2.2 ++
                  .ofNotice (.segment index segment.steps segment.member),
                ⟨(standing.compound.select segment.member.toNat).2.1,
                  standing.contexts, (), standing.total⟩,
                rfl, rfl, fun observer _ =>
                  follow_enter_of_lt observer index inside⟩)
      · exact
          .inl
            ⟨index,
              .indexOutOfRange segment.member.toNat
                standing.compound.members.length,
              .none, standing, fun observer _ =>
                follow_enter_of_not_lt observer index inside⟩
  | take index segment done count =>
      let outcome := standing.compound.step count standing.contexts
      cases stepped : outcome.answer with
      | error cause =>
          exact
            .inl
              ⟨index, cause, outcome.trace,
                ⟨outcome.compound, outcome.contexts, (), standing.total⟩,
                fun observer _ =>
                  Schedule.takeChunk_of_step_error observer index segment done
                    stepped⟩
      | ok nothing =>
          cases reported : outcome.compound.kineticEnergy outcome.contexts with
          | error cause =>
              exact
                .inl
                  ⟨index, cause, outcome.trace,
                    ⟨outcome.compound, outcome.contexts, (),
                      standing.total + count⟩,
                    fun observer _ =>
                      Schedule.takeChunk_of_energy_error observer index segment
                        done stepped reported⟩
          | ok energy =>
              exact
                .inr
                  (.inr
                    ⟨index, segment, done, count, energy, outcome.trace,
                      ⟨outcome.compound, outcome.contexts, (),
                        standing.total + count⟩,
                      rfl, rfl, fun observer _ =>
                        Schedule.takeChunk_of_ok observer index segment done
                          stepped reported⟩)

/--
What ends a stretch is one of its orders, and it comes in a state that has what
all orders keep.
-/
theorem ended_of_followAll
    {observer : Observer Event Memory}
    (invariant : Standing setting size Memory → Prop)
    (keeps :
      ∀ (order : Order) standing, invariant standing →
        invariant (order.follow observer standing).standing)
    {orders : List Order} {standing : Standing setting size Memory}
    (held : invariant standing)
    {answer : Except Schedule.Failure Schedule.Ending}
    (ended : (followAll observer orders standing).ended = some answer) :
    ∃ (order : Order) (halt : Standing setting size Memory),
      invariant halt ∧ (order.follow observer halt).ended = some answer := by
  induction orders generalizing standing with
  | nil => cases ended
  | cons order orders induction =>
      rw [followAll] at ended
      by_cases going : (order.follow observer standing).ended = none
      · rw [Stretch.andThen_of_not_ended going] at ended
        exact induction (keeps order standing held) ended
      · rw [Stretch.andThen_of_ended going] at ended
        exact ⟨order, standing, held, ended⟩

theorem followAll_append
    (observer : Observer Event Memory) (first second : List Order)
    (standing : Standing setting size Memory) :
    followAll observer (first ++ second) standing =
      (followAll observer first standing).andThen
        (followAll observer second) := by
  induction first generalizing standing with
  | nil => rfl
  | cons order orders induction =>
      simp only [List.cons_append, followAll, Stretch.andThen_assoc]
      exact congrArg _ (funext induction)

/-- The `place`-th chunk of a segment in chunks of a size. -/
def chunkAt (index : Nat) (segment : Segment) (chunk : Count) (place : Nat) :
    Order :=
  .take index segment (.ofNat (place * chunk.toNat))
    (.ofNat
      (min chunk.toNat (segment.steps.toNat - place * chunk.toNat)))

end Order

namespace Schedule

variable {setting : Setting} {size : Nat} {Memory : Type}

/-! ## Counting chunks -/

theorem lt_chunkCount_iff
    {steps chunk : Count} (positive : 0 < chunk.toNat) {place : Nat} :
    place < chunkCount steps chunk ↔ place * chunk.toNat < steps.toNat := by
  rw [chunkCount, Nat.lt_iff_add_one_le, Nat.le_div_iff_mul_le positive,
    Nat.succ_mul]
  omega

/-- All chunks together have room for the steps. -/
theorem le_chunkCount_mul
    {steps chunk : Count} (positive : 0 < chunk.toNat) :
    steps.toNat ≤ chunkCount steps chunk * chunk.toNat := by
  by_contra short
  exact
    Nat.lt_irrefl _ ((lt_chunkCount_iff positive).mpr (Nat.lt_of_not_le short))

theorem toNat_min (first second : Count) :
    (min first second).toNat = min first.toNat second.toNat := by
  show (if first ≤ second then first else second).toNat = _
  split_ifs with ordered
  · exact (Nat.min_eq_left (UInt64.le_iff_toNat_le.mp ordered)).symm
  · rw [UInt64.le_iff_toNat_le] at ordered
    exact (Nat.min_eq_right (by omega)).symm

theorem toNat_ofNat_of_le
    {value : Nat} {count : Count} (small : value ≤ count.toNat) :
    (UInt64.ofNat value).toNat = value := by
  apply UInt64.toNat_ofNat_of_lt'
  exact Nat.lt_of_le_of_lt small count.toNat_lt

/-- The chunks that a run takes of a segment are those of the closed form. -/
theorem takeChunks_eq
    (observer : Observer Event Memory) (index : Nat) (segment : Segment)
    {chunk : Count} (positive : 0 < chunk.toNat)
    {first chunks : Nat}
    (inside : first + chunks ≤ chunkCount segment.steps chunk)
    (standing : Standing setting size Memory) :
    takeChunks observer index segment chunk chunks
        (.ofNat (first * chunk.toNat)) standing =
      Order.followAll observer
        ((List.range' first chunks).map (Order.chunkAt index segment chunk))
        standing := by
  induction chunks generalizing first standing with
  | zero => rfl
  | succ chunks induction =>
      have before : first * chunk.toNat < segment.steps.toNat :=
        (lt_chunkCount_iff positive).mp (by omega)
      have done :
          (UInt64.ofNat (first * chunk.toNat)).toNat = first * chunk.toNat :=
        toNat_ofNat_of_le (Nat.le_of_lt before)
      have count :
          min chunk (segment.steps - .ofNat (first * chunk.toNat)) =
            .ofNat
              (min chunk.toNat
                (segment.steps.toNat - first * chunk.toNat)) := by
        apply UInt64.toNat_inj.mp
        have left :
            (segment.steps - .ofNat (first * chunk.toNat)).toNat =
              segment.steps.toNat - first * chunk.toNat := by
          rw [UInt64.toNat_sub_of_le _ _ (UInt64.le_iff_toNat_le.mpr (by omega)),
            done]
        rw [toNat_min, left,
          toNat_ofNat_of_le (Nat.min_le_left chunk.toNat _)]
      rw [takeChunks, List.range'_succ, List.map_cons, Order.followAll]
      simp only [count]
      congr 1
      funext next
      cases chunks with
      | zero => rfl
      | succ chunks =>
          have after : (first + 1) * chunk.toNat < segment.steps.toNat :=
            (lt_chunkCount_iff positive).mp (by omega)
          have whole :
              UInt64.ofNat (first * chunk.toNat) +
                  .ofNat
                    (min chunk.toNat
                      (segment.steps.toNat - first * chunk.toNat)) =
                .ofNat ((first + 1) * chunk.toNat) := by
            rw [← UInt64.ofNat_add]
            congr 1
            rw [Nat.succ_mul] at after ⊢
            omega
          rw [whole, induction (by omega)]

/-- What a run does of one segment. -/
def segmentOrders (chunk : Option Count) (index : Nat) (segment : Segment) :
    List Order :=
  .enter index segment ::
    (List.range (chunkCount segment.steps (chunk.getD segment.steps))).map
      (Order.chunkAt index segment (chunk.getD segment.steps))

/-- What a run does of segments, the first of which has the given index. -/
def orders (chunk : Option Count) (index : Nat) (segments : List Segment) :
    List Order :=
  (segments.zipIdx index).flatMap fun (segment, index) =>
    segmentOrders chunk index segment

theorem orders_cons
    (chunk : Option Count) (index : Nat) (segment : Segment)
    (segments : List Segment) :
    orders chunk index (segment :: segments) =
      segmentOrders chunk index segment ++ orders chunk (index + 1) segments := by
  rw [orders, List.zipIdx_cons, List.flatMap_cons]
  rfl

/-- What a run of a schedule does, in order. -/
def plan (schedule : Schedule) : List Order :=
  orders schedule.chunk 0 schedule.segments

theorem runSegment_eq
    (observer : Observer Event Memory) {chunk : Option Count} (index : Nat)
    {segment : Segment} (positive : 0 < (chunk.getD segment.steps).toNat)
    (standing : Standing setting size Memory) :
    runSegment observer chunk index segment standing =
      Order.followAll observer (segmentOrders chunk index segment) standing := by
  have chunks (next : Standing setting size Memory) :
      takeChunks observer index segment (chunk.getD segment.steps)
          (chunkCount segment.steps (chunk.getD segment.steps)) 0 next =
        Order.followAll observer
          ((List.range
            (chunkCount segment.steps (chunk.getD segment.steps))).map
              (Order.chunkAt index segment (chunk.getD segment.steps)))
          next := by
    have all :
        0 + chunkCount segment.steps (chunk.getD segment.steps) ≤
          chunkCount segment.steps (chunk.getD segment.steps) := by
      omega
    have closed := takeChunks_eq observer index segment positive all next
    rwa [Nat.zero_mul, ← List.range_eq_range'] at closed
  rw [segmentOrders, Order.followAll, runSegment, Order.follow]
  rcases standing.compound.select segment.member.toNat with
    ⟨answer, compound, selecting⟩
  cases answer with
  | error cause => rfl
  | ok nothing =>
      show (Stretch.noting _ _).andThen _ = (Stretch.noting _ _).andThen _
      congr 1
      funext next
      exact chunks next

theorem runSegments_eq
    (observer : Observer Event Memory) {chunk : Option Count} (index : Nat)
    {segments : List Segment}
    (positive :
      ∀ segment ∈ segments, 0 < (chunk.getD segment.steps).toNat)
    (standing : Standing setting size Memory) :
    runSegments observer chunk index segments standing =
      Order.followAll observer (orders chunk index segments) standing := by
  induction segments generalizing index standing with
  | nil => rfl
  | cons segment segments induction =>
      have later :=
        induction (index + 1)
          (fun next member => positive next (List.mem_cons_of_mem _ member))
      rw [runSegments, runSegment_eq observer index
        (positive segment List.mem_cons_self), orders_cons,
        Order.followAll_append]
      congr 1
      funext next
      exact later next

/-- Every order of a plan is for a segment of the schedule. -/
theorem cases_of_mem_plan
    {schedule : Schedule} {order : Order} (ordered : order ∈ schedule.plan) :
    ∃ index segment, schedule.segments[index]? = some segment ∧
      (order = .enter index segment ∨
        ∃ done count, order = .take index segment done count) := by
  rcases List.mem_flatMap.mp ordered with ⟨⟨segment, index⟩, listed, own⟩
  refine ⟨index, segment, List.mk_mem_zipIdx_iff_getElem?.mp listed, ?_⟩
  rcases List.mem_cons.mp own with rfl | chunk
  · exact .inl rfl
  · rcases List.mem_map.mp chunk with ⟨place, -, rfl⟩
    exact .inr ⟨_, _, rfl⟩

theorem chunk_toNat_pos (schedule : Schedule) :
    ∀ segment ∈ schedule.segments,
      0 < (schedule.chunk.getD segment.steps).toNat := by
  intro segment member
  cases size : schedule.chunk with
  | none => exact UInt64.lt_iff_toNat_lt.mp (schedule.steps_pos segment member)
  | some chunk =>
      exact UInt64.lt_iff_toNat_lt.mp (schedule.chunk_pos chunk (by simp [size]))

/-- The run that a stretch through the whole plan amounts to. -/
def conclude (schedule : Schedule) (stretch : Stretch setting size Memory) :
    Run setting size Memory where
  answer :=
    stretch.ended.getD
      (.ok ⟨.complete, schedule.segments.length, stretch.standing.total⟩)
  events := stretch.events
  standing := stretch.standing
  trace := stretch.trace

/-- A run of a schedule is its plan, followed order by order. -/
theorem run_eq
    (schedule : Schedule) (observer : Observer Event Memory) (memory : Memory)
    (compound : Compound setting size) (contexts : Contexts setting size) :
    schedule.run observer memory compound contexts =
      schedule.conclude
        (Order.followAll observer schedule.plan
          ⟨compound, contexts, memory, 0⟩) := by
  rw [run, runSegments_eq observer 0 schedule.chunk_toNat_pos]
  rfl

end Schedule

end Stepping
