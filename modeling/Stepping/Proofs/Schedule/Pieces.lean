import Stepping.Proofs.Schedule.Commands

/-!
# Plans that are broken off

A plan is made of pieces, one for each segment, and each piece begins its segment
and then takes steps of it.  So in front of any order of a plan come all the
orders for the segments before, and some of those for the order's own segment.
-/

namespace Stepping

/-- What is found in a list made of pieces is found in one of the pieces. -/
theorem exists_of_flatMap_eq {α β : Type} {pieces : α → List β}
    {list : List α} {done rest : List β} {here : β}
    (split : list.flatMap pieces = done ++ here :: rest) :
    ∃ front place back inside further,
      list = front ++ place :: back ∧
        done = front.flatMap pieces ++ inside ∧
        pieces place = inside ++ here :: further := by
  induction list generalizing done with
  | nil => simp at split
  | cons first list induction =>
      rw [List.flatMap_cons] at split
      rcases List.append_eq_append_iff.mp split with
        ⟨later, rfl, remaining⟩ | ⟨later, parts, remaining⟩
      · rcases induction remaining with
          ⟨front, place, back, inside, further, rfl, rfl, found⟩
        exact
          ⟨first :: front, place, back, inside, further, rfl,
            by rw [List.flatMap_cons, List.append_assoc], found⟩
      · cases later with
        | nil =>
            have there : list.flatMap pieces = [] ++ here :: rest :=
              remaining.symm
            rcases induction there with
              ⟨front, place, back, inside, further, rfl, nothing, found⟩
            refine
              ⟨first :: front, place, back, inside, further, rfl, ?_, found⟩
            rw [List.flatMap_cons, List.append_assoc, ← nothing, parts,
              List.append_nil, List.append_nil]
        | cons other later =>
            rcases List.cons.inj remaining with ⟨rfl, rfl⟩
            exact ⟨[], first, list, done, later, rfl, rfl, parts⟩

namespace Schedule

/-- Before each order of a plan come those for the segments before, and some for its own. -/
theorem split_of_plan
    {schedule : Schedule} {done rest : List Order} {order : Order}
    (split : schedule.plan = done ++ order :: rest) :
    ∃ index segment entered further,
      schedule.segments[index]? = some segment ∧
        done =
          orders schedule.chunk 0 (schedule.segments.take index) ++ entered ∧
        segmentOrders schedule.chunk index segment =
          entered ++ order :: further := by
  rcases exists_of_flatMap_eq split with
    ⟨front, ⟨segment, index⟩, back, entered, further, listed, rfl, found⟩
  rcases List.zipIdx_eq_append_iff.mp listed with
    ⟨first, second, parts, rfl, behind⟩
  rcases List.zipIdx_eq_cons_iff.mp behind.symm with
    ⟨head, tail, rfl, same, -⟩
  cases same
  refine ⟨_, _, entered, further, ?_, ?_, found⟩
  · rw [parts]
    simp
  · rw [parts, orders]
    simp

/-- Of each segment the plan has an order to take steps. -/
theorem take_mem_orders
    {chunk : Option Count} {segments : List Segment} {segment : Segment}
    (listed : segment ∈ segments) (steps : 0 < segment.steps)
    (positive : 0 < (chunk.getD segment.steps).toNat) :
    ∃ index done count,
      .take index segment done count ∈ orders chunk 0 segments := by
  rcases List.mem_iff_getElem?.mp listed with ⟨index, found⟩
  have first :
      0 < chunkCount segment.steps (chunk.getD segment.steps) := by
    rw [lt_chunkCount_iff positive, Nat.zero_mul]
    exact UInt64.lt_iff_toNat_lt.mp steps
  refine
    ⟨index, _, _,
      List.mem_flatMap.mpr
        ⟨(segment, index), List.mk_mem_zipIdx_iff_getElem?.mpr found,
          List.mem_cons_of_mem _
            (List.mem_map_of_mem (List.mem_range.mpr first))⟩⟩

theorem enter_mem_orders
    {chunk : Option Count} {segments : List Segment} {segment : Segment}
    (listed : segment ∈ segments) :
    ∃ index, .enter index segment ∈ orders chunk 0 segments := by
  rcases List.mem_iff_getElem?.mp listed with ⟨index, found⟩
  exact
    ⟨index,
      List.mem_flatMap.mpr
        ⟨(segment, index), List.mk_mem_zipIdx_iff_getElem?.mpr found,
          List.mem_cons_self⟩⟩

/-- The first order for a segment begins it, and all others take steps of it. -/
theorem cases_of_segmentOrders
    {chunk : Option Count} {index : Nat} {segment : Segment}
    {entered further : List Order} {order : Order}
    (split : segmentOrders chunk index segment = entered ++ order :: further) :
    (entered = [] ∧ order = .enter index segment) ∨
      ∃ chunks done count,
        entered = .enter index segment :: chunks ∧
          (∀ earlier ∈ chunks, ∃ done count,
            earlier = .take index segment done count) ∧
          order = .take index segment done count := by
  cases entered with
  | nil =>
      rcases List.cons.inj split with ⟨rfl, -⟩
      exact .inl ⟨rfl, rfl⟩
  | cons first chunks =>
      rw [List.cons_append] at split
      rcases List.cons.inj split with ⟨rfl, parts⟩
      have each (other : Order) (among : other ∈ chunks ++ order :: further) :
          ∃ done count, other = .take index segment done count := by
        rw [← parts] at among
        rcases List.mem_map.mp among with ⟨place, -, rfl⟩
        exact ⟨_, _, rfl⟩
      rcases each order (by simp) with ⟨done, count, rfl⟩
      refine .inr ⟨chunks, done, count, rfl, ?_, rfl⟩
      intro earlier among
      exact each earlier (List.mem_append_left _ among)

/-- The commands of the first orders for a segment come first among its commands. -/
theorem command_prefix_of_segmentOrders
    {chunk : Option Count} {index : Nat} {segment : Segment}
    {entered further : List Order} {order : Order}
    (split : segmentOrders chunk index segment = entered ++ order :: further) :
    entered.map Order.command ++ [order.command] <+:
      segmentCommands chunk segment := by
  refine ⟨further.map Order.command, ?_⟩
  rw [← Order.map_command_segmentOrders chunk index, split, List.map_append,
    List.map_cons, List.append_assoc, List.singleton_append]

end Schedule

end Stepping
