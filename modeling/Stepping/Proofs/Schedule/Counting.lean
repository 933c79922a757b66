import Stepping.Proofs.Compound.Counting
import Stepping.Proofs.Schedule.Accounts
import Stepping.Proofs.Schedule.Naming

/-!
# Steps that runs count

A run takes steps with the members that its segments name, and the journal
accounts for them as for any steps.  A recorder notes no more steps in a run than
the segments that name it have, and just as many if the run completes.  Since the
total of a schedule fits in a count, no counter that starts from zero overflows.
-/

namespace Stepping

variable {size : Nat} {Memory : Type}

namespace Compound

/-- Whatever takes steps one after another is accounted for. -/
theorem accountsChain :
    Chain fun (before : Compound .clock size × Contexts .clock size) trace
        after => before.1.serials.Nodup → Accounts before trace.journal after where
  refl := fun state _ => accounts_of_same rfl state.2
  trans := by
    intro first second third earlier later left right distinct
    have front := left distinct
    exact front.trans (right (front.serials_eq ▸ distinct))
  select := by
    intro compound contexts index _
    rw [journal_select]
    refine accounts_of_same ?_ contexts
    rw [select]
    split <;> rfl
  step := by
    intro compound contexts count distinct
    cases answer : (compound.step count contexts).answer with
    | error cause =>
        rcases step_of_error answer with ⟨same, still, nothing, -⟩
        rw [same, still, nothing]
        exact accounts_of_same rfl contexts
    | ok nothing =>
        rcases step_of_ok answer with
          ⟨-, member, moved, after, found, stepped, equality⟩
        rw [equality]
        exact accounts_of_step distinct found stepped
  begun := fun state _ _ _ _ => accounts_of_same rfl state.2
  stopped := fun state _ _ => accounts_of_same rfl state.2

/-- A recorder stays in its place, whatever it has counted. -/
theorem Accounts.recorder
    {before after : Compound .clock size × Contexts .clock size}
    {journal : List Entry} (accounts : Accounts before journal after)
    {place : Nat} {recorder : Recorder size}
    (found : before.1.members[place]? = some (.recorder recorder)) :
    after.1.members[place]? =
      some (.recorder { recorder with
        stepsTaken :=
          recorder.stepsTaken + .ofNat (stepsOf recorder.serial journal) }) := by
  rcases getElem?_of_uncounted accounts.uncounted_eq found with
    ⟨new, there, same⟩
  have counted := accounts.counter_eq place _ new found there
  cases new with
  | idle serial => cases same
  | recorder other =>
      have equal : other.uncounted = recorder.uncounted := by
        injection same
      have taken :
          other.stepsTaken =
            recorder.stepsTaken + .ofNat (stepsOf recorder.serial journal) :=
        counted
      rw [there, ← taken, ← Recorder.eq_of_uncounted equal]

end Compound

namespace Order

/-- The steps that an order has the member at a place take. -/
def stepsFor (place : Nat) : Order → Nat
  | .enter _ _ => 0
  | .take _ segment _ count =>
      if segment.member.toNat = place then count.toNat else 0

/-- By an order a recorder notes no more steps than it is for, and all if the run goes on. -/
theorem stepsOf_follow
    (observer : Observer Event Memory) {order : Order}
    {standing : Standing .clock size Memory}
    (distinct : standing.compound.serials.Nodup)
    (aligned : Aligned standing.compound.active [order])
    {place : Nat} {recorder : Recorder size}
    (found : standing.compound.members[place]? = some (.recorder recorder)) :
    let stretch := order.follow observer standing
    let steps := stepsOf recorder.serial stretch.trace.journal
    steps ≤ order.stepsFor place ∧
      (stretch.ended = none → steps = order.stepsFor place) := by
  intro stretch steps
  cases order with
  | enter index segment =>
      have silent : stretch.trace.journal = [] := by
        by_cases inside :
            segment.member.toNat < standing.compound.members.length
        · show ((enter index segment).follow observer standing).trace.journal = _
          rw [follow_enter_of_lt observer index inside, Stretch.noting,
            Trace.journal_append, Compound.journal_select]
          rfl
        · show ((enter index segment).follow observer standing).trace.journal = _
          rw [follow_enter_of_not_lt observer index inside]
          rfl
      have none : steps = 0 := by
        show stepsOf recorder.serial stretch.trace.journal = 0
        rw [silent]
        rfl
      exact ⟨Nat.le_of_eq none, fun _ => none⟩
  | take index segment done count =>
      have active : segment.member.toNat = standing.compound.active := aligned.1
      rcases state_of_take observer index segment done count standing with
        ⟨-, -, journal, -⟩
      have noted :
          steps =
            stepsOf recorder.serial
              (standing.compound.step count standing.contexts).trace.journal :=
        congrArg (stepsOf recorder.serial) journal
      cases answer : (standing.compound.step count standing.contexts).answer with
      | error cause =>
          rcases Compound.step_of_error answer with ⟨-, -, nothing, -⟩
          rw [noted, nothing]
          refine ⟨Nat.zero_le _, fun going => ?_⟩
          rcases Schedule.takeChunk_of_going going with ⟨_, stepped, -, -⟩
          cases answer.symm.trans stepped
      | ok nothing =>
          rcases Compound.step_of_ok answer with
            ⟨-, member, moved, after, there, -, equality⟩
          have own :
              steps =
                stepsOf recorder.serial (member.notes (.step count)) := by
            rw [noted, equality]
            rfl
          have all : steps = (take index segment done count).stepsFor place := by
            rw [own, stepsFor]
            split_ifs with named
            · rw [← active, named] at there
              cases found.symm.trans there
              exact stepsOf_notes recorder count
            · have differ : standing.compound.active ≠ place :=
                active ▸ named
              have other :=
                Compound.serial_ne_of_ne distinct differ there found
              refine stepsOf_of_ne fun entry written => ?_
              rw [Member.notes_eq] at written
              rw [(Tag.eq_of_mem_notes written).1]
              exact other
          exact ⟨Nat.le_of_eq all, fun _ => all⟩

/-- So it is with orders one after another. -/
theorem stepsOf_followAll
    (observer : Observer Event Memory) {orders : List Order}
    {standing : Standing .clock size Memory}
    (distinct : standing.compound.serials.Nodup)
    (aligned : Aligned standing.compound.active orders)
    {place : Nat} {recorder : Recorder size}
    (found : standing.compound.members[place]? = some (.recorder recorder)) :
    let stretch := followAll observer orders standing
    let steps := stepsOf recorder.serial stretch.trace.journal
    steps ≤ (orders.map (stepsFor place)).sum ∧
      (stretch.ended = none → steps = (orders.map (stepsFor place)).sum) := by
  -- the recorder of the next order is this one with more steps counted
  induction orders generalizing standing recorder with
  | nil => exact ⟨Nat.le_refl 0, fun _ => rfl⟩
  | cons order orders induction =>
      have alone : Aligned standing.compound.active ([order] ++ orders) :=
        aligned
      have first : _ ∧ _ :=
        stepsOf_follow observer distinct (aligned_of_append alone) found
      rw [followAll, List.map_cons, List.sum_cons]
      by_cases going : (order.follow observer standing).ended = none
      · have accounts :=
          Compound.accountsChain.follow observer order standing distinct
        have kept :
            (order.follow observer standing).standing.compound.serials.Nodup :=
          accounts.serials_eq ▸ distinct
        have later :=
          induction kept (aligned_follow aligned going) (accounts.recorder found)
        rw [Stretch.andThen_of_not_ended going]
        dsimp only at later ⊢
        rw [Trace.journal_append, stepsOf_append, first.2 going]
        exact
          ⟨Nat.add_le_add_left later.1 _,
            fun on => congrArg (_ + ·) (later.2 on)⟩
      · rw [Stretch.andThen_of_ended going]
        exact ⟨Nat.le_add_right_of_le first.1, fun on => (going on).elim⟩

/-- The orders of a segment have the member that it names take its steps. -/
theorem stepsFor_segmentOrders
    {chunk : Option Count} {segment : Segment}
    (positive : 0 < (chunk.getD segment.steps).toNat) (place index : Nat) :
    ((Schedule.segmentOrders chunk index segment).map (stepsFor place)).sum =
      if segment.member.toNat = place then segment.steps.toNat else 0 := by
  have chunks (size : Count) (places : List Nat) :
      ((places.map (chunkAt index segment size)).map (stepsFor place)).sum =
        if segment.member.toNat = place then
          Command.total ((places.map (chunkAt index segment size)).map command)
        else 0 := by
    induction places with
    | nil => simp [Command.total]
    | cons first places induction =>
        rw [List.map_cons, List.map_cons, List.map_cons, List.sum_cons,
          induction, chunkAt, stepsFor, command, Command.total]
        split_ifs <;> rfl
  rw [← Schedule.total_segmentCommands positive,
    ← map_command_segmentOrders chunk index segment, Schedule.segmentOrders,
    List.map_cons, List.sum_cons, chunks, List.map_cons, command, Command.total,
    stepsFor, Nat.zero_add]

/-- The orders of segments have each member take the steps of the segments that name it. -/
theorem stepsFor_orders
    {chunk : Option Count} {segments : List Segment}
    (positive : ∀ segment ∈ segments, 0 < (chunk.getD segment.steps).toNat)
    (place index : Nat) :
    ((Schedule.orders chunk index segments).map (stepsFor place)).sum =
      Segment.total (segments.filter (·.member.toNat = place)) := by
  induction segments generalizing index with
  | nil => rfl
  | cons segment segments induction =>
      have own :=
        stepsFor_segmentOrders (positive segment List.mem_cons_self) place index
      have others :=
        induction
          (fun other listed => positive other (List.mem_cons_of_mem _ listed))
          (index + 1)
      rw [Schedule.orders_cons, List.map_append, List.sum_append, own, others]
      by_cases named : segment.member.toNat = place
      · rw [if_pos named, List.filter_cons_of_pos (by simpa using named),
          Segment.total_cons]
      · rw [if_neg named, List.filter_cons_of_neg (by simpa using named),
          Nat.zero_add]

end Order

/-! ## Whole runs -/

namespace Schedule

/-- The steps of the segments that name the member at a place. -/
def stepsNaming (schedule : Schedule) (place : Nat) : Nat :=
  Segment.total (schedule.segments.filter (·.member.toNat = place))

/-- The steps for each member have room in a count, since all together have. -/
theorem stepsNaming_lt (schedule : Schedule) (place : Nat) :
    schedule.stepsNaming place < Count.limit := by
  have fewer (segments : List Segment) :
      Segment.total (segments.filter (·.member.toNat = place)) ≤
        Segment.total segments := by
    induction segments with
    | nil => exact Nat.le_refl 0
    | cons segment segments induction =>
        rw [List.filter_cons]
        split_ifs
        · rw [Segment.total_cons, Segment.total_cons]
          exact Nat.add_le_add_left induction _
        · exact Nat.le_add_left_of_le induction
  exact Nat.lt_of_le_of_lt (fewer schedule.segments) schedule.total_lt

/--
In a run a recorder notes no more steps than the segments that name it have, and
just these if the run completes.
-/
theorem stepsOf_run
    (schedule : Schedule) (observer : Observer Event Memory) (memory : Memory)
    {compound : Compound .clock size} (distinct : compound.serials.Nodup)
    (contexts : Contexts .clock size) {place : Nat} {recorder : Recorder size}
    (found : compound.members[place]? = some (.recorder recorder)) :
    let run := schedule.run observer memory compound contexts
    let steps := stepsOf recorder.serial run.trace.journal
    steps ≤ schedule.stepsNaming place ∧
      ∀ ending, run.answer = .ok ending → ending.status = .complete →
        steps = schedule.stepsNaming place := by
  let standing : Standing .clock size Memory :=
    ⟨compound, contexts, memory, 0⟩
  have aligned : Order.Aligned standing.compound.active schedule.plan :=
    Order.aligned_orders _ schedule.chunk 0 schedule.segments
  have counted : _ ∧ _ :=
    Order.stepsOf_followAll observer distinct aligned found
  rw [plan, Order.stepsFor_orders schedule.chunk_toNat_pos] at counted
  rw [run_eq]
  refine ⟨counted.1, ?_⟩
  intro ending answered complete
  refine counted.2 ?_
  cases ended :
      (Order.followAll observer schedule.plan
        ⟨compound, contexts, memory, 0⟩).ended with
  | none => exact ended
  | some result =>
      have asked : result = .ok ending := by
        rw [← answered, conclude, ended]
        rfl
      rw [asked] at ended
      rw [Order.stopped_of_followAll ended] at complete
      cases complete

/--
A run leaves a recorder in its place, and its counter rises by the steps that it
notes, as far as they have room.  A counter that starts from zero has room for
them at every moment, however the run ends.
-/
theorem counter_of_run
    (schedule : Schedule) (observer : Observer Event Memory) (memory : Memory)
    {compound : Compound .clock size} (distinct : compound.serials.Nodup)
    (contexts : Contexts .clock size) {place : Nat} {recorder : Recorder size}
    (found : compound.members[place]? = some (.recorder recorder)) :
    let run := schedule.run observer memory compound contexts
    let steps := stepsOf recorder.serial run.trace.journal
    ∃ after : Recorder size,
      run.standing.compound.members[place]? = some (.recorder after) ∧
      (recorder.stepsTaken.toNat + steps < Count.limit →
        after.stepsTaken.toNat = recorder.stepsTaken.toNat + steps) ∧
      (recorder.stepsTaken = 0 →
        after.stepsTaken.toNat = steps ∧
          ∀ front, front <+: run.trace.journal →
            stepsOf recorder.serial front < Count.limit) := by
  intro run steps
  have accounts :=
    Compound.accountsChain.run schedule observer memory compound contexts
      distinct
  have below : steps < Count.limit :=
    Nat.lt_of_le_of_lt
      (stepsOf_run schedule observer memory distinct contexts found).1
      (schedule.stepsNaming_lt place)
  have exactly (room : recorder.stepsTaken.toNat + steps < Count.limit) :
      (recorder.stepsTaken + .ofNat steps).toNat =
        recorder.stepsTaken.toNat + steps := by
    rw [UInt64.toNat_add, UInt64.toNat_ofNat_of_lt' below]
    exact Nat.mod_eq_of_lt room
  refine ⟨_, accounts.recorder found, exactly, ?_⟩
  intro zero
  constructor
  · have none : recorder.stepsTaken.toNat = 0 := congrArg UInt64.toNat zero
    have room : recorder.stepsTaken.toNat + steps < Count.limit := by
      rw [none, Nat.zero_add]
      exact below
    show (recorder.stepsTaken + .ofNat steps).toNat = steps
    rw [exactly room, none, Nat.zero_add]
  · intro front before
    exact Nat.lt_of_le_of_lt (stepsOf_front_le _ before) below

end Schedule

end Stepping
