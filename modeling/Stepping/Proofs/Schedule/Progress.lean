import Stepping.Proofs.Schedule.Plan

/-!
# Progress of a run

The progress that an event tells is all of it but the energy: the segment, its
member, the steps taken of the segment and the steps taken in all.  What a plan
announces are the progresses of the events that it leads to, if nothing comes in
between.  In closed form the `j`-th event of segment `i`, of `n` steps in chunks
of `c`, announces `min ((j + 1) * c) n` steps of the segment, and as many in all
besides those of the segments before.

A run shows what its plan announces, up to where it ends.
-/

namespace Stepping

/-- What an event tells of how far a run has come. -/
structure Progress where
  segment : Nat
  member : Count
  segmentSteps : Nat
  totalSteps : Nat
deriving DecidableEq

/-- The progress that an event tells. -/
def Event.progress (event : Event) : Progress where
  segment := event.segment
  member := event.member
  segmentSteps := event.segmentSteps.toNat
  totalSteps := event.totalSteps.toNat

/-- What an observer remembers after observations in order. -/
def Observer.memoryAfter {Observation Memory : Type}
    (observer : Observer Observation Memory) (memory : Memory)
    (observations : List Observation) : Memory :=
  observations.foldl
    (fun memory observation => (observer.observe memory observation).1) memory

namespace Order

variable {setting : Setting} {size : Nat} {Memory : Type}

/-- The steps that an order takes. -/
def steps : Order → Count
  | .enter _ _ => 0
  | .take _ _ _ count => count

/-- The progress after an order that leads to so many steps in all, if it shows an event. -/
def progress (total : Count) : Order → List Progress
  | .enter _ _ => []
  | .take index segment done count =>
      [⟨index, segment.member, (done + count).toNat, total.toNat⟩]

/-- The steps taken in all after some orders. -/
def totalAfter (total : Count) (orders : List Order) : Count :=
  orders.foldl (fun total order => total + order.steps) total

/-- What orders announce that come after so many steps in all. -/
def announced (total : Count) : List Order → List Progress
  | [] => []
  | order :: orders =>
      order.progress (total + order.steps) ++
        announced (total + order.steps) orders

theorem announced_append
    (total : Count) (first second : List Order) :
    announced total (first ++ second) =
      announced total first ++ announced (totalAfter total first) second := by
  induction first generalizing total with
  | nil => rfl
  | cons order first induction =>
      simp only [List.cons_append, announced, induction, List.append_assoc]
      rfl

theorem totalAfter_append
    (total : Count) (first second : List Order) :
    totalAfter total (first ++ second) =
      totalAfter (totalAfter total first) second :=
  List.foldl_append

/-! ## What a run shows -/

theorem showing_shows
    (observer : Observer Event Memory) (event : Event) (finished : Nat)
    (trace : Trace) (standing : Standing setting size Memory) :
    (Stretch.showing observer event finished trace standing).events = [event] ∧
      (Stretch.showing observer event finished trace standing).standing =
        { standing with
          memory := observer.memoryAfter standing.memory [event] } := by
  rw [Stretch.showing, Observer.memoryAfter, List.foldl_cons, List.foldl_nil]
  rcases observer.observe standing.memory event with ⟨memory, action⟩
  rcases action with _ | ⟨⟨⟩⟩ <;> exact ⟨rfl, rfl⟩

/-- An order shows the event that it announces, unless the run fails by it. -/
theorem progress_follow
    (observer : Observer Event Memory) (order : Order)
    (standing : Standing setting size Memory) :
    (∃ failure,
      (order.follow observer standing).ended = some (.error failure) ∧
        (order.follow observer standing).events = [] ∧
        (order.follow observer standing).standing.memory = standing.memory) ∨
    ((order.follow observer standing).events.map Event.progress =
        order.progress (standing.total + order.steps) ∧
      (order.follow observer standing).standing.memory =
        observer.memoryAfter standing.memory
          (order.follow observer standing).events ∧
      (order.follow observer standing).standing.total =
        standing.total + order.steps) := by
  rcases follow_cases order standing.forgetting with
    ⟨index, cause, trace, next, same⟩ |
      ⟨index, segment, trace, next, rfl, total, same⟩ |
      ⟨index, segment, done, count, energy, trace, next, rfl, total, same⟩
  · have followed : order.follow observer standing = _ :=
      same observer standing.memory
    rw [followed]
    exact .inl ⟨_, rfl, rfl, rfl⟩
  · have followed : (enter index segment).follow observer standing = _ :=
      same observer standing.memory
    rw [followed]
    exact .inr ⟨rfl, rfl, total.trans (UInt64.add_zero standing.total).symm⟩
  · have followed :
        (take index segment done count).follow observer standing = _ :=
      same observer standing.memory
    have total : next.total = standing.total + count := total
    rw [followed, total]
    rcases showing_shows observer
        ⟨index, segment.member, done + count, standing.total + count, energy⟩
        (take index segment done count).finished trace
        (next.remembering standing.memory) with
      ⟨events, after⟩
    rw [events, after]
    exact .inr ⟨rfl, rfl, total⟩

/--
A stretch shows what its orders announce, all of it unless the run ends, and the
observer has observed just what was shown.
-/
theorem progress_followAll
    (observer : Observer Event Memory) (orders : List Order)
    (standing : Standing setting size Memory) :
    (followAll observer orders standing).events.map Event.progress <+:
        announced standing.total orders ∧
      (followAll observer orders standing).standing.memory =
        observer.memoryAfter standing.memory
          (followAll observer orders standing).events ∧
      ((followAll observer orders standing).ended = none →
        (followAll observer orders standing).events.map Event.progress =
            announced standing.total orders ∧
          (followAll observer orders standing).standing.total =
            totalAfter standing.total orders) := by
  induction orders generalizing standing with
  | nil => exact ⟨List.prefix_rfl, rfl, fun _ => ⟨rfl, rfl⟩⟩
  | cons order orders induction =>
      rw [followAll, announced]
      by_cases going : (order.follow observer standing).ended = none
      · rw [Stretch.andThen_of_not_ended going]
        rcases progress_follow observer order standing with
          ⟨failure, failed, -⟩ | ⟨shown, memory, total⟩
        · rw [going] at failed
          cases failed
        · have later := induction (order.follow observer standing).standing
          rw [total, memory] at later
          rw [List.map_append, shown]
          refine
            ⟨(List.prefix_append_right_inj _).mpr later.1, ?_, ?_⟩
          · rw [Observer.memoryAfter, List.foldl_append]
            exact later.2.1
          · intro past
            rcases later.2.2 past with ⟨events, after⟩
            exact ⟨congrArg _ events, after⟩
      · rw [Stretch.andThen_of_ended going]
        refine ⟨?_, ?_, fun past => (going past).elim⟩
        · rcases progress_follow observer order standing with
            ⟨failure, -, nothing, -⟩ | ⟨shown, -⟩
          · rw [nothing]
            exact List.nil_prefix
          · rw [shown]
            exact List.prefix_append _ _
        · rcases progress_follow observer order standing with
            ⟨failure, -, nothing, memory⟩ | ⟨-, memory, -⟩
          · rw [nothing]
            exact memory
          · exact memory

end Order

namespace Schedule

/-! ## The closed form -/

/-- The progress after each chunk of a segment, so many steps having been taken before it. -/
def segmentProgress (chunk : Option Count) (before index : Nat)
    (segment : Segment) : List Progress :=
  let chunk := chunk.getD segment.steps
  (List.range (chunkCount segment.steps chunk)).map fun place =>
    let done := min ((place + 1) * chunk.toNat) segment.steps.toNat
    ⟨index, segment.member, done, before + done⟩

/-- The progress after each chunk of a schedule, in order. -/
def progress (schedule : Schedule) : List Progress :=
  schedule.segments.zipIdx.flatMap fun (segment, index) =>
    segmentProgress schedule.chunk
      (Segment.total (schedule.segments.take index)) index segment

theorem announced_chunks
    (index : Nat) {segment : Segment} {chunk : Count}
    (positive : 0 < chunk.toNat) {before first chunks : Nat}
    (room : before + segment.steps.toNat < Count.limit)
    (inside : first + chunks ≤ chunkCount segment.steps chunk) :
    Order.announced
        (.ofNat (before + min (first * chunk.toNat) segment.steps.toNat))
        ((List.range' first chunks).map (Order.chunkAt index segment chunk)) =
      (List.range' first chunks).map (fun place =>
        ⟨index, segment.member,
          min ((place + 1) * chunk.toNat) segment.steps.toNat,
          before + min ((place + 1) * chunk.toNat) segment.steps.toNat⟩) ∧
    Order.totalAfter
        (.ofNat (before + min (first * chunk.toNat) segment.steps.toNat))
        ((List.range' first chunks).map (Order.chunkAt index segment chunk)) =
      .ofNat
        (before + min ((first + chunks) * chunk.toNat) segment.steps.toNat) := by
  induction chunks generalizing first with
  | zero => exact ⟨rfl, rfl⟩
  | succ chunks induction =>
      have started : first * chunk.toNat < segment.steps.toNat :=
        (lt_chunkCount_iff positive).mp (by omega)
      have reached :
          first * chunk.toNat +
              min chunk.toNat (segment.steps.toNat - first * chunk.toNat) =
            min ((first + 1) * chunk.toNat) segment.steps.toNat := by
        rw [Nat.succ_mul]
        omega
      have ofSegment :
          (UInt64.ofNat (first * chunk.toNat) +
              .ofNat
                (min chunk.toNat
                  (segment.steps.toNat - first * chunk.toNat))).toNat =
            min ((first + 1) * chunk.toNat) segment.steps.toNat := by
        rw [← UInt64.ofNat_add, reached]
        exact toNat_ofNat_of_le (Nat.min_le_right _ segment.steps.toNat)
      have ofAll :
          UInt64.ofNat (before + min (first * chunk.toNat) segment.steps.toNat) +
              .ofNat
                (min chunk.toNat
                  (segment.steps.toNat - first * chunk.toNat)) =
            .ofNat
              (before + min ((first + 1) * chunk.toNat) segment.steps.toNat) := by
        rw [← UInt64.ofNat_add, ← reached]
        congr 1
        omega
      have small :
          (UInt64.ofNat
              (before +
                min ((first + 1) * chunk.toNat) segment.steps.toNat)).toNat =
            before + min ((first + 1) * chunk.toNat) segment.steps.toNat := by
        apply UInt64.toNat_ofNat_of_lt'
        exact Nat.lt_of_le_of_lt (by omega) room
      have room : first + 1 + chunks ≤ chunkCount segment.steps chunk := by
        omega
      have later := induction room
      rw [List.range'_succ, List.map_cons, List.map_cons, Order.announced]
      refine ⟨?_, ?_⟩
      · rw [Order.chunkAt, Order.steps, ofAll, later.1, Order.progress,
          ofSegment, small]
        rfl
      · rw [Order.totalAfter, List.foldl_cons, Order.chunkAt, Order.steps, ofAll]
        have rest := later.2
        rw [Nat.add_assoc, Nat.add_comm 1 chunks] at rest
        exact rest

theorem announced_segmentOrders
    {chunk : Option Count} (index : Nat) {segment : Segment}
    (positive : 0 < (chunk.getD segment.steps).toNat) {before : Nat}
    (room : before + segment.steps.toNat < Count.limit) :
    Order.announced (.ofNat before) (segmentOrders chunk index segment) =
        segmentProgress chunk before index segment ∧
      Order.totalAfter (.ofNat before) (segmentOrders chunk index segment) =
        .ofNat (before + segment.steps.toNat) := by
  have all :
      0 + chunkCount segment.steps (chunk.getD segment.steps) ≤
        chunkCount segment.steps (chunk.getD segment.steps) := by
    omega
  have chunks := announced_chunks index positive room all
  rw [Nat.zero_mul, Nat.zero_min, Nat.add_zero, Nat.zero_add,
    Nat.min_eq_right (le_chunkCount_mul positive), ← List.range_eq_range'] at chunks
  have entered (orders : List Order) :
      Order.announced (.ofNat before) (.enter index segment :: orders) =
          Order.announced (.ofNat before) orders ∧
        Order.totalAfter (.ofNat before) (.enter index segment :: orders) =
          Order.totalAfter (.ofNat before) orders := by
    have same : UInt64.ofNat before + 0 = UInt64.ofNat before :=
      UInt64.add_zero _
    rw [Order.announced, Order.totalAfter, List.foldl_cons, Order.steps, same]
    exact ⟨rfl, rfl⟩
  rw [segmentOrders, (entered _).1, (entered _).2]
  exact chunks

/-- The plan of segments announces them in closed form, whatever was done before. -/
theorem announced_orders
    {chunk : Option Count} {segments : List Segment}
    (positive :
      ∀ segment ∈ segments, 0 < (chunk.getD segment.steps).toNat)
    (index : Nat) {before : Nat}
    (room : before + Segment.total segments < Count.limit) :
    Order.announced (.ofNat before) (orders chunk index segments) =
        ((segments.zipIdx index).flatMap fun (segment, place) =>
          segmentProgress chunk
            (before + Segment.total (segments.take (place - index)))
            place segment) ∧
      Order.totalAfter (.ofNat before) (orders chunk index segments) =
        .ofNat (before + Segment.total segments) := by
  induction segments generalizing index before with
  | nil => exact ⟨rfl, rfl⟩
  | cons segment segments induction =>
      have total :
          Segment.total (segment :: segments) =
            segment.steps.toNat + Segment.total segments :=
        rfl
      rw [total] at room ⊢
      have here : before + segment.steps.toNat < Count.limit := by omega
      have first :=
        announced_segmentOrders index (positive segment List.mem_cons_self) here
      have left :
          before + segment.steps.toNat + Segment.total segments <
            Count.limit := by
        omega
      have later :=
        induction
          (fun next member => positive next (List.mem_cons_of_mem _ member))
          (index + 1) left
      rw [orders_cons, Order.announced_append, Order.totalAfter_append, first.1,
        first.2, later.1, later.2, ← Nat.add_assoc, List.zipIdx_cons,
        List.flatMap_cons]
      refine ⟨?_, rfl⟩
      congr 1
      · simp
      · apply List.flatMap_congr
        rintro ⟨next, place⟩ member
        have behind : index + 1 ≤ place := List.le_snd_of_mem_zipIdx member
        have shift : place - index = place - (index + 1) + 1 := by omega
        simp [shift, Nat.add_assoc]

theorem totalSteps_eq (schedule : Schedule) :
    schedule.totalSteps = .ofNat (Segment.total schedule.segments) := by
  have summed (segments : List Segment) (before : Nat) :
      (segments.map Segment.steps).foldl (· + ·) (.ofNat before) =
        UInt64.ofNat (before + Segment.total segments) := by
    induction segments generalizing before with
    | nil => rfl
    | cons segment segments induction =>
        have added :
            UInt64.ofNat before + segment.steps =
              .ofNat (before + segment.steps.toNat) := by
          rw [UInt64.ofNat_add, UInt64.ofNat_toNat]
        rw [List.map_cons, List.foldl_cons, added, induction, Nat.add_assoc]
        rfl
  have all := summed schedule.segments 0
  rwa [Nat.zero_add] at all

/-- The steps of all segments are counted without a wrap. -/
theorem toNat_totalSteps (schedule : Schedule) :
    schedule.totalSteps.toNat = Segment.total schedule.segments := by
  rw [totalSteps_eq]
  exact UInt64.toNat_ofNat_of_lt' schedule.total_lt

/-- The plan of a schedule announces the closed form, and leads to its total. -/
theorem announced_plan (schedule : Schedule) :
    Order.announced 0 schedule.plan = schedule.progress ∧
      Order.totalAfter 0 schedule.plan = schedule.totalSteps := by
  have room : 0 + Segment.total schedule.segments < Count.limit := by
    rw [Nat.zero_add]
    exact schedule.total_lt
  rcases announced_orders schedule.chunk_toNat_pos 0 room with
    ⟨announced, total⟩
  rw [totalSteps_eq]
  rw [Nat.zero_add] at total
  refine ⟨announced.trans ?_, total⟩
  apply List.flatMap_congr
  rintro ⟨segment, place⟩ -
  dsimp only
  rw [Nat.zero_add, Nat.sub_zero]

end Schedule

end Stepping
