import Stepping.Proofs.Compound.Moving
import Stepping.Proofs.Schedule.Obstacles
import Stepping.Proofs.Schedule.Truncation
import Stepping.Proofs.Schedule.Validity

/-!
# Chunks of any size do the same

A compound of dynamics may run a schedule in chunks of any size.  Taking some
steps and then some more does to the system, to the member's counter and to the
run's total what taking all of them at once does; and a member that cannot take
steps says so at the first of them, whatever their number.  So runs in chunks of
different sizes end alike in the same state, and the events that end a segment
are the same in both.  What the system has become is the update of each finished
segment's member, applied as often as the segment has steps.
-/

namespace Stepping

variable {setting : Setting} {size : Nat} {Memory : Type}

namespace Compound

/-- Selections and steps leave all updates as they are. -/
theorem updateChain :
    Chain fun (before : Compound .particles size × Contexts .particles size) _
        after => after.1.update = before.1.update where
  refl := fun _ => rfl
  trans := fun first second => second.trans first
  select := fun compound _ index => by
    rw [select]
    split_ifs <;> rfl
  step := fun compound contexts count => by
    dsimp only
    cases answer : (compound.step count contexts).answer with
    | error cause => rw [(step_of_error answer).1]
    | ok nothing =>
        rcases step_of_ok answer with
          ⟨-, member, moved, after, found, stepped, equality⟩
        rw [equality]
        apply update_congr
        exact
          map_members_put Member.update found (Member.update_of_step stepped)
  begun := fun _ _ _ _ => rfl
  stopped := fun _ _ => rfl

end Compound

/-! ## Stretches that are the same but for some events -/

/-- Two stretches lead to the same, and show the same events of those to be kept. -/
structure Stretch.Same (keep : Event → Bool)
    (first second : Stretch setting size Memory) : Prop where
  ended_eq : first.ended = second.ended
  standing_eq : first.standing = second.standing
  events_eq : first.events.filter keep = second.events.filter keep

namespace Stretch

variable {keep : Event → Bool} {first second third : Stretch setting size Memory}

theorem Same.refl (stretch : Stretch setting size Memory) :
    stretch.Same keep stretch :=
  ⟨rfl, rfl, rfl⟩

theorem Same.symm (same : first.Same keep second) : second.Same keep first :=
  ⟨same.ended_eq.symm, same.standing_eq.symm, same.events_eq.symm⟩

theorem Same.trans (left : first.Same keep second)
    (right : second.Same keep third) : first.Same keep third :=
  ⟨left.ended_eq.trans right.ended_eq,
    left.standing_eq.trans right.standing_eq,
    left.events_eq.trans right.events_eq⟩

/-- What goes on in the same way from the same is the same. -/
theorem Same.andThen (same : first.Same keep second)
    {next other : Standing setting size Memory → Stretch setting size Memory}
    (further :
      first.ended = none →
        (next first.standing).Same keep (other first.standing)) :
    (first.andThen next).Same keep (second.andThen other) := by
  by_cases going : first.ended = none
  · have later := further going
    rw [andThen_of_not_ended going,
      andThen_of_not_ended (same.ended_eq.symm.trans going),
      ← same.standing_eq]
    refine ⟨later.ended_eq, later.standing_eq, ?_⟩
    rw [List.filter_append, List.filter_append, same.events_eq,
      later.events_eq]
  · have past : second.ended ≠ none := by
      rw [← same.ended_eq]
      exact going
    rw [andThen_of_ended going, andThen_of_ended past]
    exact same

end Stretch

/-! ## Chunks -/

namespace Schedule

/-- Dynamics without a fault take a chunk by their update, and an event is shown. -/
theorem takeChunk_of_sound
    {standing : Standing .particles size Unit}
    (bound : standing.compound.bound = true)
    {member : Member .particles size}
    (found :
      standing.compound.members[standing.compound.active]? = some member)
    (sound : member.fault = none)
    (index : Nat) (segment : Segment) (done count : Count) :
    ∃ energy trace,
      (member.counted count).kineticEnergy
          (member.update^[count.toNat] standing.contexts) = .ok energy ∧
        takeChunk .silent index segment done count standing =
          ⟨none,
            [⟨index, segment.member, done + count, standing.total + count,
              energy⟩],
            ⟨standing.compound.put standing.compound.active
                (member.counted count),
              member.update^[count.toNat] standing.contexts, (),
              standing.total + count⟩,
            trace⟩ := by
  rcases Compound.step_of_sound bound found sound count standing.contexts with
    ⟨trace, outcome⟩
  have inside := (List.getElem?_eq_some_iff.mp found).1
  cases told :
      (member.counted count).kineticEnergy
        (member.update^[count.toNat] standing.contexts) with
  | error cause =>
      have lacking := (Member.kineticEnergy_eq_error_iff_fault _).mp told
      rw [Member.fault_counted, sound] at lacking
      cases lacking
  | ok energy =>
      have stepped :
          (standing.compound.step count standing.contexts).answer = .ok () := by
        rw [outcome]
      have reported :
          (standing.compound.step count standing.contexts).compound.kineticEnergy
              (standing.compound.step count standing.contexts).contexts =
            .ok energy := by
        rw [outcome, Compound.kineticEnergy_eq_ok_iff]
        refine ⟨bound, member.counted count, ?_, told⟩
        simp [Compound.put, inside]
      refine ⟨energy, trace, rfl, ?_⟩
      rw [takeChunk_of_ok .silent index segment done stepped reported, outcome]
      rfl

/-- If a run cannot take a chunk, it fails in the same way whatever the chunk's size. -/
theorem takeChunk_of_closed
    {standing : Standing .particles size Unit}
    (moving : standing.compound.Moving)
    (inside : standing.compound.active < standing.compound.members.length)
    (closed :
      ¬ (standing.compound.bound = true ∧
        standing.compound.faults[standing.compound.active]? = some none)) :
    ∃ cause, ∀ index segment done count, ∃ trace,
      takeChunk .silent index segment done count standing =
        .failing index cause trace standing := by
  rcases Compound.step_of_closed moving inside closed with ⟨cause, failed⟩
  refine ⟨cause, ?_⟩
  intro index segment done count
  have refused := failed count standing.contexts
  rcases Compound.step_of_error refused with ⟨same, still, -⟩
  refine ⟨(standing.compound.step count standing.contexts).trace, ?_⟩
  rw [takeChunk_of_step_error .silent index segment done refused, same, still]

/-- Some steps and then some more are the same as all of them at once. -/
theorem same_of_split
    {keep : Event → Bool} {index : Nat} {segment : Segment}
    {done first second : Count}
    (room : first.toNat + second.toNat < Count.limit)
    (early :
      ∀ event : Event, event.segment = index →
        event.segmentSteps = done + first → keep event = false)
    {standing : Standing .particles size Unit}
    (moving : standing.compound.Moving)
    (inside : standing.compound.active < standing.compound.members.length) :
    (takeChunk .silent index segment done (first + second) standing).Same keep
      ((takeChunk .silent index segment done first standing).andThen
        (takeChunk .silent index segment (done + first) second)) := by
  by_cases open' :
      standing.compound.bound = true ∧
        standing.compound.faults[standing.compound.active]? = some none
  · rcases open' with ⟨bound, whole⟩
    rcases Compound.faults_eq_some_iff.mp whole with ⟨member, found, sound⟩
    rcases takeChunk_of_sound bound found sound index segment done
        (first + second) with
      ⟨energy, trace, told, atOnce⟩
    rcases takeChunk_of_sound bound found sound index segment done first with
      ⟨before, earlier, -, begun⟩
    let halfway : Standing .particles size Unit :=
      ⟨standing.compound.put standing.compound.active (member.counted first),
        member.update^[first.toNat] standing.contexts, (),
        standing.total + first⟩
    have present :
        halfway.compound.members[halfway.compound.active]? =
          some (member.counted first) := by
      simp [halfway, Compound.put, inside]
    have still : (member.counted first).fault = none := by
      rw [Member.fault_counted, sound]
    have bound : halfway.compound.bound = true := bound
    rcases takeChunk_of_sound bound present still index segment (done + first)
        second with
      ⟨after, later, reported, finished⟩
    have room : first.toNat + second.toNat < 2 ^ 64 := room
    have sum : (first + second).toNat = second.toNat + first.toNat := by
      rw [UInt64.toNat_add, Nat.mod_eq_of_lt room, Nat.add_comm]
    have compound_eq :
        halfway.compound.put halfway.compound.active
            ((member.counted first).counted second) =
          standing.compound.put standing.compound.active
            (member.counted (first + second)) := by
      simp [halfway, Compound.put]
    have contexts_eq :
        (member.counted first).update^[second.toNat] halfway.contexts =
          member.update^[(first + second).toNat] standing.contexts := by
      rw [Member.update_counted, sum, Function.iterate_add_apply]
    have total_eq :
        halfway.total + second = standing.total + (first + second) :=
      UInt64.add_assoc _ _ _
    -- Both ways lead to the same member and systems, and so to the same energy.
    rw [Member.counted_counted, contexts_eq] at reported
    cases told.symm.trans reported
    rw [compound_eq, contexts_eq, total_eq, UInt64.add_assoc] at finished
    rw [atOnce, begun, Stretch.andThen_of_not_ended rfl, finished]
    refine ⟨rfl, rfl, ?_⟩
    have hidden :
        ¬ keep
          ⟨index, segment.member, done + first, standing.total + first,
            before⟩ := by
      rw [early _ rfl rfl]
      exact Bool.false_ne_true
    rw [List.singleton_append, List.filter_cons_of_neg hidden]
  · rcases takeChunk_of_closed moving inside open' with ⟨cause, stuck⟩
    rcases stuck index segment done (first + second) with ⟨trace, atOnce⟩
    rcases stuck index segment done first with ⟨earlier, begun⟩
    rw [atOnce, begun, Stretch.andThen_of_ended (Option.some_ne_none _)]
    exact ⟨rfl, rfl, rfl⟩

/-- A chunk that is not the last one is whole, and leaves the rest of the steps behind it. -/
theorem rest_of_chunk
    {steps chunk : Count} {first : Nat}
    (more : (first + 1) * chunk.toNat < steps.toNat) :
    min chunk.toNat (steps.toNat - first * chunk.toNat) = chunk.toNat ∧
      UInt64.ofNat (first * chunk.toNat) + chunk =
        .ofNat ((first + 1) * chunk.toNat) ∧
      UInt64.ofNat (steps.toNat - first * chunk.toNat) =
        chunk + .ofNat (steps.toNat - (first + 1) * chunk.toNat) := by
  rw [Nat.succ_mul] at more ⊢
  have rest :
      steps.toNat - first * chunk.toNat =
        chunk.toNat + (steps.toNat - (first * chunk.toNat + chunk.toNat)) := by
    omega
  refine ⟨by omega, ?_, ?_⟩
  · rw [UInt64.ofNat_add, UInt64.ofNat_toNat]
  · rw [rest, UInt64.ofNat_add, UInt64.ofNat_toNat]

/-- After a chunk that was taken the same member is active, and it is there. -/
theorem active_lt_of_takeChunk
    {observer : Observer Event Memory} {index : Nat} {segment : Segment}
    {done count : Count} {standing : Standing setting size Memory}
    (inside : standing.compound.active < standing.compound.members.length)
    (going :
      (takeChunk observer index segment done count standing).ended = none) :
    let next := (takeChunk observer index segment done count standing).standing
    next.compound.active < next.compound.members.length := by
  rcases takeChunk_of_going going with ⟨energy, stepped, -, equality⟩
  have alike := Compound.alike_step count standing.contexts standing.compound
  rw [equality]
  show (standing.compound.step _ _).compound.active < _
  rw [Compound.active_step stepped, alike.length_eq]
  exact inside

/-- What is left of a segment is the same in one piece as in chunks. -/
theorem same_of_chunks
    {keep : Event → Bool} {index : Nat} {segment : Segment}
    (early :
      ∀ event : Event, event.segment = index →
        event.segmentSteps ≠ segment.steps → keep event = false)
    {chunk : Count} (positive : 0 < chunk.toNat) {first chunks : Nat}
    (all : first + chunks + 1 = chunkCount segment.steps chunk)
    {standing : Standing .particles size Unit}
    (moving : standing.compound.Moving)
    (inside : standing.compound.active < standing.compound.members.length) :
    (takeChunk .silent index segment (.ofNat (first * chunk.toNat))
        (.ofNat (segment.steps.toNat - first * chunk.toNat)) standing).Same keep
      (Order.followAll .silent
        ((List.range' first (chunks + 1)).map
          (Order.chunkAt index segment chunk))
        standing) := by
  induction chunks generalizing first standing with
  | zero =>
      have last : segment.steps.toNat ≤ (first + 1) * chunk.toNat := by
        rw [all]
        exact le_chunkCount_mul positive
      have rest :
          min chunk.toNat (segment.steps.toNat - first * chunk.toNat) =
            segment.steps.toNat - first * chunk.toNat := by
        rw [Nat.succ_mul] at last
        omega
      rw [List.range'_one, List.map_singleton, Order.followAll, Order.chunkAt,
        rest]
      show Stretch.Same keep _ (Stretch.andThen _ (Stretch.noting .none))
      rw [Stretch.andThen_noting_none]
      exact Stretch.Same.refl _
  | succ chunks induction =>
      have more : (first + 1) * chunk.toNat < segment.steps.toNat :=
        (lt_chunkCount_iff positive).mp (by omega)
      have further : first + 1 + chunks + 1 = chunkCount segment.steps chunk := by
        omega
      rcases rest_of_chunk more with ⟨count, next, parts⟩
      rw [List.range'_succ, List.map_cons, Order.followAll, Order.chunkAt, count,
        UInt64.ofNat_toNat, parts]
      -- The one piece falls into this chunk and the rest, and the rest into the other chunks.
      apply (same_of_split ?_ ?_ moving inside).trans
      · apply (Stretch.Same.refl _).andThen
        intro going
        rw [next]
        apply induction further
        · exact
            (quietChain.takeChunk .silent index segment _ chunk
              standing).moving moving
        · exact active_lt_of_takeChunk inside going
      · have small := segment.steps.toNat_lt_limit
        rw [toNat_ofNat_of_le (Nat.sub_le _ _), Nat.succ_mul]
        rw [Nat.succ_mul] at more
        omega
      · intro event here told
        apply early event here
        intro whole
        rw [told, next, ← UInt64.toNat_inj,
          toNat_ofNat_of_le (Nat.le_of_lt more)] at whole
        exact Nat.ne_of_lt more whole

/-! ## Segments -/

/-- A segment in chunks is the same as the segment in one piece. -/
theorem same_of_segment
    {keep : Event → Bool} {index : Nat} {segment : Segment}
    (early :
      ∀ event : Event, event.segment = index →
        event.segmentSteps ≠ segment.steps → keep event = false)
    (steps : 0 < segment.steps) {chunk : Option Count}
    (positive : 0 < (chunk.getD segment.steps).toNat)
    {standing : Standing .particles size Unit}
    (moving : standing.compound.Moving) :
    (((Order.enter index segment).follow .silent standing).andThen
        (takeChunk .silent index segment 0 segment.steps)).Same keep
      (Order.followAll .silent (segmentOrders chunk index segment) standing) := by
  rw [segmentOrders, Order.followAll]
  apply (Stretch.Same.refl _).andThen
  intro going
  have inside := Order.lt_of_follow_enter going
  have moves :=
    (quietChain.follow .silent (.enter index segment) standing).moving moving
  have some' :
      0 < chunkCount segment.steps (chunk.getD segment.steps) := by
    rw [lt_chunkCount_iff positive, Nat.zero_mul]
    exact UInt64.lt_iff_toNat_lt.mp steps
  rcases Nat.exists_eq_add_of_lt some' with ⟨chunks, all⟩
  have same :=
    same_of_chunks early positive all.symm moves (by
      rw [Order.follow_enter_of_lt .silent index inside]
      show (standing.compound.select _).2.1.active <
        (standing.compound.select _).2.1.members.length
      rw [Compound.active_select inside, (Compound.alike_select _ _).length_eq]
      exact inside)
  rw [Nat.zero_mul, Nat.sub_zero, UInt64.ofNat_toNat] at same
  rw [all, Nat.zero_add, List.range_eq_range']
  exact same

/-- Segments in chunks are the same, whatever the size of the chunks. -/
theorem same_of_orders
    {keep : Event → Bool} {segments : List Segment} {index : Nat}
    (early :
      ∀ pair ∈ segments.zipIdx index, ∀ event : Event,
        event.segment = pair.2 → event.segmentSteps ≠ pair.1.steps →
          keep event = false)
    (steps : ∀ segment ∈ segments, 0 < segment.steps)
    {first second : Option Count}
    (positive :
      ∀ segment ∈ segments, 0 < (first.getD segment.steps).toNat ∧
        0 < (second.getD segment.steps).toNat)
    {standing : Standing .particles size Unit}
    (moving : standing.compound.Moving) :
    (Order.followAll .silent (orders first index segments) standing).Same keep
      (Order.followAll .silent (orders second index segments) standing) := by
  induction segments generalizing index standing with
  | nil => exact Stretch.Same.refl _
  | cons segment segments induction =>
      rw [List.zipIdx_cons, List.forall_mem_cons] at early
      rw [List.forall_mem_cons] at steps positive
      rw [orders_cons, orders_cons, Order.followAll_append,
        Order.followAll_append]
      have one :=
        same_of_segment early.1 steps.1 positive.1.1 moving
      have other :=
        same_of_segment early.1 steps.1 positive.1.2 moving
      apply (one.symm.trans other).andThen
      intro going
      apply induction early.2 steps.2 positive.2
      exact
        (quietChain.followAll .silent (segmentOrders first index segment)
          standing).moving moving

/-- A segment does its steps to the systems, or the run fails before all of them. -/
theorem contexts_of_segment
    (index : Nat) (segment : Segment)
    {standing : Standing .particles size Unit}
    (moving : standing.compound.Moving) :
    let stretch :=
      ((Order.enter index segment).follow .silent standing).andThen
        (takeChunk .silent index segment 0 segment.steps)
    (stretch.ended = none ∧
        stretch.standing.contexts =
          (standing.compound.update
            segment.member.toNat)^[segment.steps.toNat] standing.contexts) ∨
      ∃ cause, stretch.ended = some (.error ⟨index, cause⟩) ∧
        stretch.standing.contexts = standing.contexts := by
  intro stretch
  by_cases inside : segment.member.toNat < standing.compound.members.length
  · let entered : Standing .particles size Unit :=
      { standing with
        compound := { standing.compound with active := segment.member.toNat } }
    have selected :
        (standing.compound.select segment.member.toNat).2.1 =
          entered.compound := by
      simp [entered, Compound.select, inside]
    have followed := Order.follow_enter_of_lt .silent index inside
    rw [selected] at followed
    by_cases open' :
        entered.compound.bound = true ∧
          entered.compound.faults[entered.compound.active]? = some none
    · left
      rcases Compound.faults_eq_some_iff.mp open'.2 with ⟨member, found, sound⟩
      rcases takeChunk_of_sound open'.1 found sound index segment 0
          segment.steps with
        ⟨energy, trace, -, taken⟩
      have updates :
          standing.compound.update segment.member.toNat = member.update :=
        Compound.update_of_getElem? found
      simp only [stretch, followed]
      rw [Stretch.andThen_of_not_ended rfl, Stretch.noting, taken, updates]
      exact ⟨rfl, rfl⟩
    · right
      have there : entered.compound.active < entered.compound.members.length :=
        inside
      have moves : entered.compound.Moving := moving
      rcases takeChunk_of_closed moves there open' with ⟨cause, stuck⟩
      rcases stuck index segment 0 segment.steps with ⟨trace, failed⟩
      refine ⟨cause, ?_⟩
      simp only [stretch, followed]
      rw [Stretch.andThen_of_not_ended rfl, Stretch.noting, failed]
      exact ⟨rfl, rfl⟩
  · right
    have followed := Order.follow_enter_of_not_lt .silent index inside
    simp only [stretch, followed]
    rw [Stretch.andThen_of_ended (Option.some_ne_none _)]
    exact ⟨_, rfl, rfl⟩

/-- Segments do their steps to the systems, up to the one in which the run fails. -/
theorem contexts_of_orders
    {chunk : Option Count} {segments : List Segment}
    (steps : ∀ segment ∈ segments, 0 < segment.steps)
    (positive :
      ∀ segment ∈ segments, 0 < (chunk.getD segment.steps).toNat)
    (index : Nat) {standing : Standing .particles size Unit}
    (moving : standing.compound.Moving) :
    let stretch := Order.followAll .silent (orders chunk index segments) standing
    (stretch.ended = none ∧
        stretch.standing.contexts =
          standing.compound.advance segments standing.contexts) ∨
      ∃ done cause, done < segments.length ∧
        stretch.ended = some (.error ⟨index + done, cause⟩) ∧
        stretch.standing.contexts =
          standing.compound.advance (segments.take done) standing.contexts := by
  induction segments generalizing index standing with
  | nil => exact .inl ⟨rfl, rfl⟩
  | cons segment segments induction =>
      rw [List.forall_mem_cons] at steps positive
      dsimp only
      rw [orders_cons, Order.followAll_append]
      let first :=
        Order.followAll .silent (segmentOrders chunk index segment) standing
      have same :
          Stretch.Same (fun _ => false) _ first :=
        same_of_segment (fun _ _ _ => rfl) steps.1 positive.1 moving
      have one := contexts_of_segment index segment moving
      dsimp only at one
      rw [same.ended_eq, same.standing_eq] at one
      rcases one with ⟨going, moved⟩ | ⟨cause, failed, still⟩
      · have moves : first.standing.compound.Moving :=
          (quietChain.followAll .silent (segmentOrders chunk index segment)
            standing).moving moving
        have updates : first.standing.compound.update = standing.compound.update :=
          Compound.updateChain.followAll .silent
            (segmentOrders chunk index segment) standing
        rw [Stretch.andThen_of_not_ended going]
        rcases induction steps.2 positive.2 (index + 1) moves with
          ⟨later, rest⟩ | ⟨done, cause, inside, failed, rest⟩
        · left
          refine ⟨later, rest.trans ?_⟩
          rw [Compound.advance_congr updates, moved]
          rfl
        · right
          refine
            ⟨done + 1, cause, Nat.succ_lt_succ inside, failed.trans ?_,
              rest.trans ?_⟩
          · rw [Nat.add_assoc, Nat.add_comm 1 done]
          · rw [Compound.advance_congr updates, moved]
            rfl
      · right
        rw [Stretch.andThen_of_ended (by rw [failed]; exact Option.some_ne_none _)]
        exact ⟨0, cause, Nat.zero_lt_succ _, failed, still⟩

end Schedule

/-! ## Runs -/

/-- The segments that a run has finished. -/
def Run.finished (run : Run setting size Memory) : Nat :=
  match run.answer with
  | .ok ending => ending.segments
  | .error failure => failure.segment

/-- Whether an event comes at the end of its segment. -/
def Event.endsOneOf (segments : List Segment) (event : Event) : Bool :=
  segments[event.segment]?.any fun segment =>
    event.segmentSteps == segment.steps

namespace Schedule

/-- Before an observer that asks for nothing a run is as it is before none. -/
theorem agrees_of_silence
    (schedule : Schedule) {observer : Observer Event Memory}
    (silence : ∀ memory event, (observer.observe memory event).2 = none)
    (memory : Memory) (compound : Compound setting size)
    (contexts : Contexts setting size) :
    (schedule.run observer memory compound contexts).Agrees
      (schedule.runUnobserved compound contexts) := by
  let start : Standing setting size Unit := ⟨compound, contexts, (), 0⟩
  have observed :
      Order.followAll observer schedule.plan (start.remembering memory) =
        (Order.followAll .silent schedule.plan start).remembering
          (observer.memoryAfter memory
            (Order.followAll .silent schedule.plan start).events) :=
    Order.followAll_of_passes (Observer.passes_of_silence silence memory _)
  rw [runUnobserved, run_eq, run_eq]
  show Run.Agrees (schedule.conclude (Order.followAll _ _ (start.remembering memory))) _
  rw [observed]
  exact ⟨rfl, rfl, rfl, rfl, rfl, rfl⟩

/-- A run that does not cut its segments shows an event at the end of each of them only. -/
theorem endsOneOf_of_whole
    {schedule : Schedule} (whole : schedule.chunk = none)
    {observer : Observer Event Memory} {memory : Memory}
    {compound : Compound setting size} {contexts : Contexts setting size}
    {event : Event}
    (shown : event ∈ (schedule.run observer memory compound contexts).events) :
    event.endsOneOf schedule.segments := by
  have announced :=
    (Order.progress_followAll observer schedule.plan
      ⟨compound, contexts, memory, 0⟩).1
  rw [schedule.announced_plan.1] at announced
  rw [run_eq] at shown
  have listed : event.progress ∈ schedule.progress :=
    announced.subset (List.mem_map_of_mem shown)
  rcases List.mem_flatMap.mp listed with ⟨⟨segment, index⟩, among, piece⟩
  have held : schedule.segments[index]? = some segment :=
    List.mk_mem_zipIdx_iff_getElem?.mp among
  rw [whole] at piece
  rcases List.mem_map.mp piece with ⟨place, -, told⟩
  have here : event.segment = index := (congrArg Progress.segment told).symm
  have steps : event.segmentSteps = segment.steps := by
    apply UInt64.toNat_inj.mp
    rw [← show _ = event.segmentSteps.toNat from
      congrArg Progress.segmentSteps told]
    exact Nat.min_eq_right (Nat.le_mul_of_pos_left _ (Nat.succ_pos place))
  simp [Event.endsOneOf, here, held, steps]

/-- Runs of the same segments are the same but for the events within segments. -/
theorem same_of_segments_eq
    {first second : Schedule} (segments : second.segments = first.segments)
    {compound : Compound .particles size} (moving : compound.Moving)
    (contexts : Contexts .particles size) :
    let run := first.runUnobserved compound contexts
    let other := second.runUnobserved compound contexts
    other.answer = run.answer ∧ other.standing = run.standing ∧
      other.events.filter (Event.endsOneOf first.segments) =
        run.events.filter (Event.endsOneOf first.segments) := by
  intro run other
  have same :
      (Order.followAll .silent second.plan ⟨compound, contexts, (), 0⟩).Same
        (Event.endsOneOf first.segments)
        (Order.followAll .silent first.plan ⟨compound, contexts, (), 0⟩) := by
    rw [plan, plan, segments]
    apply same_of_orders _ first.steps_pos _ moving
    · rintro ⟨segment, index⟩ among event here apart
      have held : first.segments[index]? = some segment :=
        List.mk_mem_zipIdx_iff_getElem?.mp among
      have here : event.segment = index := here
      simpa [Event.endsOneOf, here, held] using apart
    · intro segment listed
      refine ⟨second.chunk_toNat_pos segment ?_, first.chunk_toNat_pos segment listed⟩
      rw [segments]
      exact listed
  simp only [run, other, runUnobserved, run_eq]
  refine ⟨?_, same.standing_eq, same.events_eq⟩
  rw [conclude, conclude, same.ended_eq, same.standing_eq, segments]

/--
A run goes through just if it has finished all segments, and it leaves the
systems as those that it has finished make them.
-/
theorem finished_of_run
    (schedule : Schedule) {compound : Compound .particles size}
    (moving : compound.Moving) (contexts : Contexts .particles size) :
    let run := schedule.runUnobserved compound contexts
    (run.answer.isOk = true ↔ run.finished = schedule.segments.length) ∧
      run.standing.contexts =
        compound.advance (schedule.segments.take run.finished) contexts := by
  intro run
  let start : Standing .particles size Unit := ⟨compound, contexts, (), 0⟩
  have whole :
      run =
        schedule.conclude (Order.followAll .silent schedule.plan start) :=
    schedule.run_eq .silent () compound contexts
  have moves : start.compound.Moving := moving
  rcases contexts_of_orders schedule.steps_pos schedule.chunk_toNat_pos 0
      moves with
    ⟨going, moved⟩ | ⟨done, cause, inside, failed, moved⟩
  · have answered :
        run.answer =
          .ok ⟨.complete, schedule.segments.length, run.standing.total⟩ := by
      rw [whole, conclude, plan, going]
      rfl
    have finished : run.finished = schedule.segments.length := by
      rw [Run.finished, answered]
    rw [finished, List.take_length, answered, whole]
    exact ⟨iff_of_true rfl rfl, moved⟩
  · have answered : run.answer = .error ⟨done, cause⟩ := by
      rw [whole, conclude, plan, failed, Nat.zero_add]
      rfl
    have finished : run.finished = done := by
      rw [Run.finished, answered]
    rw [finished, answered, whole]
    exact ⟨iff_of_false Bool.false_ne_true (Nat.ne_of_lt inside), moved⟩

/--
Chunks of any size do the same with dynamics as none.  A run in chunks gives the
same answer and leaves the same systems and the same members as one that takes
each segment in one piece; the events that the latter shows are those of the
former that come at the end of a segment.  Both leave the systems as the updates
of the finished segments' members make them, each applied as often as its
segment has steps; these are all segments just if the runs do not fail.
-/
theorem run_in_chunks
    {segments : List Segment} {whole : Schedule}
    (made : ofSegments segments = .ok whole)
    {chunk : Count} (positive : 0 < chunk)
    {compound : Compound .particles size}
    (moving :
      ∀ member ∈ compound.members,
        member.kind = .verlet ∨ member.kind = .langevin)
    (contexts : Contexts .particles size) :
    ∃ cut, whole.chunked chunk = .ok cut ∧
      let alone := whole.runUnobserved compound contexts
      let pieces := cut.runUnobserved compound contexts
      pieces.answer = alone.answer ∧
        pieces.standing.contexts = alone.standing.contexts ∧
        pieces.standing.compound = alone.standing.compound ∧
        alone.standing.contexts =
          compound.advance (segments.take alone.finished) contexts ∧
        (alone.answer.isOk = true ↔ alone.finished = segments.length) ∧
        ∀ {Memory : Type} (observer : Observer Event Memory),
          (∀ memory event, (observer.observe memory event).2 = none) →
            ∀ memory,
              (whole.run observer memory compound contexts).events =
                (cut.run observer memory compound contexts).events.filter
                  (Event.endsOneOf segments) := by
  rcases ofSegments_eq_ok made with ⟨rfl, single⟩
  rcases whole.exists_chunked positive with ⟨cut, chunked, segments⟩
  refine ⟨cut, chunked, ?_⟩
  intro alone pieces
  have same := same_of_segments_eq segments moving contexts
  have finished := whole.finished_of_run moving contexts
  refine
    ⟨same.1, congrArg Standing.contexts same.2.1,
      congrArg Standing.compound same.2.1, finished.2, finished.1, ?_⟩
  intro Memory observer silence memory
  rw [(whole.agrees_of_silence silence memory compound contexts).events_eq,
    (cut.agrees_of_silence silence memory compound contexts).events_eq, same.2.2]
  symm
  apply List.filter_eq_self.mpr
  intro event shown
  exact endsOneOf_of_whole single shown

/-- A particle moved by either scheme, five steps and then four, in chunks of two. -/
theorem run_in_chunks_of_two :
    let verlet : Member .particles 1 := .dynamics .verlet ⟨0, 0.5, 1.0, 0, some 0⟩
    let langevin : Member .particles 1 :=
      .dynamics (.langevin 2.0) ⟨1, 0.25, 1.0, 0, some 0⟩
    let compound : Compound .particles 1 := ⟨[verlet, langevin], 0, true⟩
    let particle : Particles Float := ⟨[1.0], [0.0], [12.0], 3.0⟩
    let whole : Schedule :=
      { segments := [⟨0, 5⟩, ⟨1, 4⟩]
        chunk := none
        nonempty := by decide
        steps_pos := by decide
        total_lt := by decide
        chunk_pos := by simp }
    ofSegments [⟨0, 5⟩, ⟨1, 4⟩] = .ok whole ∧
      ∃ cut, whole.chunked 2 = .ok cut ∧
        (cut.runUnobserved compound #v[particle]).answer =
          (whole.runUnobserved compound #v[particle]).answer ∧
        (cut.runUnobserved compound #v[particle]).standing.contexts =
          (whole.runUnobserved compound #v[particle]).standing.contexts := by
  intro verlet langevin compound particle whole
  have made : ofSegments [⟨0, 5⟩, ⟨1, 4⟩] = .ok whole := rfl
  have moving :
      ∀ member ∈ compound.members,
        member.kind = .verlet ∨ member.kind = .langevin := by
    decide
  have positive : (0 : Count) < 2 := by decide
  rcases run_in_chunks made positive moving #v[particle] with
    ⟨cut, chunked, answer, systems, -⟩
  exact ⟨made, cut, chunked, answer, systems⟩

end Schedule

end Stepping
