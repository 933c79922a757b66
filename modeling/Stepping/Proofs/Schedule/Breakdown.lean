import Stepping.Proofs.Schedule.Accounts
import Stepping.Proofs.Schedule.Pieces

/-!
# Runs that break down

Before an observer that never stops it, a run fails just if one of its segments
names a member that is not there, or the compound is not bound, or one of the
members has a fault.  It then has taken all the steps of the segments before the
one that it names, and has obeyed some of the commands for that segment; what it
was told to do next could not be done, or the member that has just taken steps
could not report its energy.

An idle member takes steps and reports no energy.  Without one in the compound
the events tell of all steps that were taken, of each just once and in order,
whether the run completes or fails.
-/

namespace Stepping

variable {setting : Setting} {size : Nat} {Memory : Type}

/-! ## How a run breaks down -/

/-- A passage leads where a run has ended, and recorders have noted the same on both. -/
structure Passage.Reaches (passage : Passage setting size)
    (run : Run setting size Memory) : Prop where
  compound_eq : passage.compound = run.standing.compound
  contexts_eq : passage.contexts = run.standing.contexts
  journal_eq : passage.trace.journal = run.trace.journal

/--
Why a run fails in a segment, after some commands for it, the last of which have
led along a passage.
-/
inductive Segment.Breaks (segment : Segment) (commands : List Command)
    (passage : Passage setting size) :
    (entered : List Command) → Compound.Failure → Prop
  /-- The member is not there, and nothing has been done. -/
  | outside
      (outside :
        passage.compound.members.length ≤ segment.member.toNat) :
      Breaks segment commands passage []
        (.indexOutOfRange segment.member.toNat passage.compound.members.length)
  /-- The compound is not bound; no steps have been taken. -/
  | unbound
      (inside : segment.member.toNat < passage.compound.members.length)
      (unbound : passage.compound.bound = false) :
      Breaks segment commands passage [.select segment.member.toNat] .notBound
  /-- The member fails to take the steps that it should take next. -/
  | step {entered : List Command} {steps : Count}
      {member : Member setting size} {inner : Member.Failure}
      (next : entered ++ [.step steps] <+: commands)
      (found :
        passage.compound.members[segment.member.toNat]? = some member)
      (failed : member.step steps passage.contexts = .error inner) :
      Breaks segment commands passage entered
        (.member segment.member.toNat inner)
  /-- The member has just taken steps and fails to report its energy. -/
  | energy {entered : List Command} {steps : Count}
      {member : Member setting size} {inner : Member.Failure}
      (found :
        passage.compound.members[segment.member.toNat]? = some member)
      (failed : member.kineticEnergy passage.contexts = .error inner) :
      Breaks segment commands passage (entered ++ [.step steps])
        (.member segment.member.toNat inner)

theorem Segment.Breaks.indexOutOfRange_iff
    {segment : Segment} {commands entered : List Command}
    {passage : Passage setting size} {cause : Compound.Failure}
    (breaks : segment.Breaks commands passage entered cause) :
    cause =
        .indexOutOfRange segment.member.toNat passage.compound.members.length ↔
      passage.compound.members.length ≤ segment.member.toNat := by
  cases breaks with
  | outside outside => exact iff_of_true rfl outside
  | unbound inside unbound =>
      exact iff_of_false Compound.Failure.noConfusion (Nat.not_le_of_lt inside)
  | step next found failed =>
      have inside := (List.getElem?_eq_some_iff.mp found).1
      exact iff_of_false Compound.Failure.noConfusion (Nat.not_le_of_lt inside)
  | energy found failed =>
      have inside := (List.getElem?_eq_some_iff.mp found).1
      exact iff_of_false Compound.Failure.noConfusion (Nat.not_le_of_lt inside)

/-- By an order the run fails at once, or after steps whose energy is not reported. -/
theorem Order.failure_of_follow
    {observer : Observer Event Memory} {order : Order}
    {standing : Standing setting size Memory} {failure : Schedule.Failure}
    (failed : (order.follow observer standing).ended = some (.error failure)) :
    (order.follow observer standing).events = [] ∧
      ((∃ segment, order = .enter failure.segment segment ∧
          standing.compound.members.length ≤ segment.member.toNat ∧
          failure.cause =
            .indexOutOfRange segment.member.toNat
              standing.compound.members.length ∧
          (order.follow observer standing).standing.state = standing.state ∧
          (order.follow observer standing).trace.journal = []) ∨
        (∃ segment done count, order = .take failure.segment segment done count ∧
          (standing.compound.step count standing.contexts).answer =
            .error failure.cause ∧
          (order.follow observer standing).standing.state = standing.state ∧
          (order.follow observer standing).trace.journal = []) ∨
        ∃ segment done count, order = .take failure.segment segment done count ∧
          (standing.compound.step count standing.contexts).answer = .ok () ∧
          (standing.compound.step count
              standing.contexts).compound.kineticEnergy
              (standing.compound.step count standing.contexts).contexts =
            .error failure.cause ∧
          (order.follow observer standing).standing.state =
            ((standing.compound.step count standing.contexts).compound,
              (standing.compound.step count standing.contexts).contexts) ∧
          (order.follow observer standing).trace.journal =
            (standing.compound.step count
              standing.contexts).trace.journal) := by
  cases order with
  | enter index segment =>
      by_cases inside :
          segment.member.toNat < standing.compound.members.length
      · rw [follow_enter_of_lt observer index inside] at failed
        cases failed
      · rw [follow_enter_of_not_lt observer index inside] at failed ⊢
        cases failed
        exact
          ⟨rfl, .inl ⟨segment, rfl, Nat.le_of_not_lt inside, rfl, rfl, rfl⟩⟩
  | take index segment done count =>
      rw [follow] at failed ⊢
      cases stepped :
          (standing.compound.step count standing.contexts).answer with
      | error cause =>
          rw [Schedule.takeChunk_of_step_error observer index segment done
            stepped] at failed ⊢
          cases failed
          rcases Compound.step_of_error stepped with ⟨same, still, quiet, -⟩
          exact
            ⟨rfl,
              .inr
                (.inl
                  ⟨segment, done, count, rfl, stepped, Prod.ext same still,
                    quiet⟩)⟩
      | ok nothing =>
          cases reported :
              (standing.compound.step count
                  standing.contexts).compound.kineticEnergy
                (standing.compound.step count standing.contexts).contexts with
          | error cause =>
              rw [Schedule.takeChunk_of_energy_error observer index segment done
                stepped reported] at failed ⊢
              cases failed
              exact
                ⟨rfl,
                  .inr
                    (.inr
                      ⟨segment, done, count, rfl, stepped, reported, rfl, rfl⟩)⟩
          | ok energy =>
              rw [Schedule.takeChunk_of_ok observer index segment done stepped
                reported, Stretch.showing] at failed
              dsimp only at failed
              split at failed <;> cases failed

/--
Without idle members nothing is done by an order that fails, and its command is
refused for the same cause.
-/
theorem Order.refused_of_follow
    {observer : Observer Event Memory} {order : Order}
    {standing : Standing setting size Memory} {failure : Schedule.Failure}
    (active : ∀ member ∈ standing.compound.members, member.kind ≠ .idle)
    (failed : (order.follow observer standing).ended = some (.error failure)) :
    Command.obeyAll [order.command] standing.compound standing.contexts =
        .error failure.cause ∧
      (order.follow observer standing).standing.state = standing.state ∧
      (order.follow observer standing).trace.journal = [] := by
  rcases failure_of_follow failed with
    ⟨-, ⟨segment, rfl, outside, cause, stays, quiet⟩ |
      ⟨segment, before, count, rfl, refused, stays, quiet⟩ |
      ⟨segment, before, count, rfl, stepped, mute, -⟩⟩
  · refine ⟨?_, stays, quiet⟩
    rw [cause, command, Command.obeyAll, Compound.select,
      if_neg (Nat.not_lt_of_le outside)]
  · refine ⟨?_, stays, quiet⟩
    rw [command, Command.obeyAll, refused]
  · rcases Compound.exists_idle_of_mute stepped mute with
      ⟨member, there, idle⟩
    exact (active member there idle).elim

namespace Schedule

/-- A run has followed orders of its plan along a passage, and fails by the next of them. -/
structure Halt (schedule : Schedule) (observer : Observer Event Memory)
    (memory : Memory) (compound : Compound setting size)
    (contexts : Contexts setting size) (failure : Failure)
    (done : List Order) (order : Order)
    (stretch : Stretch setting size Memory) (passage : Passage setting size) :
    Prop where
  split : ∃ rest, schedule.plan = done ++ order :: rest
  stretch_eq :
    Order.followAll observer done ⟨compound, contexts, memory, 0⟩ = stretch
  going : stretch.ended = none
  failed :
    (order.follow observer stretch.standing).ended = some (.error failure)
  run_eq :
    schedule.run observer memory compound contexts =
      schedule.conclude (stretch.andThen (order.follow observer))
  aligned : Order.Aligned stretch.standing.compound.active [order]
  alike : compound.Alike stretch.standing.compound
  obeyed :
    Command.obeyAll (done.map Order.command) compound contexts = .ok passage
  agrees : passage.Matches stretch
  told :
    Event.told 0 stretch.events =
      Command.taken compound.active (done.map Order.command)

theorem halt_of_error
    {schedule : Schedule} {observer : Observer Event Memory} {memory : Memory}
    {compound : Compound setting size} {contexts : Contexts setting size}
    {failure : Failure}
    (failed :
      (schedule.run observer memory compound contexts).answer =
        .error failure) :
    ∃ done order stretch passage,
      Halt schedule observer memory compound contexts failure done order
        stretch passage := by
  let start : Standing setting size Memory := ⟨compound, contexts, memory, 0⟩
  rw [Schedule.run_eq, conclude] at failed
  dsimp only at failed
  cases ended : (Order.followAll observer schedule.plan start).ended with
  | none =>
      rw [ended] at failed
      cases failed
  | some answer =>
      rw [ended] at failed
      cases failed
      rcases Order.split_of_followAll ended with
        ⟨done, order, rest, split, going, stops, whole⟩
      have aligned :
          Order.Aligned compound.active (done ++ [order] ++ rest) := by
        rw [List.append_assoc, List.singleton_append, ← split]
        exact
          Order.aligned_orders compound.active schedule.chunk 0 schedule.segments
      have front := Order.aligned_of_append aligned
      have before := Order.aligned_of_append front
      rcases Order.obeyAll_of_followAll before going with
        ⟨passage, obeyed, agrees⟩
      refine
        ⟨done, order, Order.followAll observer done start, passage, {
          split := ⟨rest, split⟩
          stretch_eq := rfl
          going := going
          failed := stops
          run_eq := ?_
          aligned := Order.aligned_followAll front going
          alike := Compound.alikeChain.followAll observer done start
          obeyed := obeyed
          agrees := agrees
          told := Order.told_of_followAll before going }⟩
      rw [Schedule.run_eq, whole]

variable {schedule : Schedule} {observer : Observer Event Memory}
  {memory : Memory} {compound : Compound setting size}
  {contexts : Contexts setting size} {failure : Failure} {done : List Order}
  {order : Order} {stretch : Stretch setting size Memory}
  {passage : Passage setting size}

/-- A run that does nothing by the order that fails has ended where the passage leads. -/
theorem Halt.reaches
    (halt :
      Halt schedule observer memory compound contexts failure done order stretch
        passage)
    (stays :
      (order.follow observer stretch.standing).standing.state =
        stretch.standing.state)
    (quiet : (order.follow observer stretch.standing).trace.journal = []) :
    passage.Reaches (schedule.run observer memory compound contexts) := by
  rw [halt.run_eq, Stretch.andThen_of_not_ended halt.going]
  exact {
    compound_eq :=
      halt.agrees.compound_eq.trans (congrArg Prod.fst stays).symm
    contexts_eq :=
      halt.agrees.contexts_eq.trans (congrArg Prod.snd stays).symm
    journal_eq := by
      show _ = stretch.trace.journal ++ _
      rw [quiet, List.append_nil]
      exact halt.agrees.journal_eq }

/-- So does one that takes steps by that order, a little further. -/
theorem Halt.reaches_of_step
    (halt :
      Halt schedule observer memory compound contexts failure done order stretch
        passage)
    {count : Count}
    (stepped :
      (stretch.standing.compound.step count stretch.standing.contexts).answer =
        .ok ())
    (moved :
      (order.follow observer stretch.standing).standing.state =
        ((stretch.standing.compound.step count
            stretch.standing.contexts).compound,
          (stretch.standing.compound.step count
            stretch.standing.contexts).contexts))
    (noted :
      (order.follow observer stretch.standing).trace.journal =
        (stretch.standing.compound.step count
          stretch.standing.contexts).trace.journal) :
    ∃ further : Passage setting size,
      Command.obeyAll (done.map Order.command ++ [.step count]) compound
          contexts = .ok further ∧
        further.compound =
          (stretch.standing.compound.step count
            stretch.standing.contexts).compound ∧
        further.contexts =
          (stretch.standing.compound.step count
            stretch.standing.contexts).contexts ∧
        further.Reaches (schedule.run observer memory compound contexts) := by
  have compound_eq := halt.agrees.compound_eq
  have contexts_eq := halt.agrees.contexts_eq
  rw [Command.obeyAll_append halt.obeyed, compound_eq, contexts_eq,
    Command.obeyAll_step stepped, halt.run_eq,
    Stretch.andThen_of_not_ended halt.going]
  refine ⟨_, rfl, rfl, rfl, ?_⟩
  exact {
    compound_eq := (congrArg Prod.fst moved).symm
    contexts_eq := (congrArg Prod.snd moved).symm
    journal_eq := by
      show passage.trace.journal ++ (_ ++ []) = stretch.trace.journal ++ _
      rw [noted, halt.agrees.journal_eq, List.append_nil] }

/-- Without idle members the command of the order that fails is refused for the same cause. -/
theorem Halt.refused
    (halt :
      Halt schedule observer memory compound contexts failure done order stretch
        passage)
    (active : ∀ member ∈ compound.members, member.kind ≠ .idle) :
    Command.obeyAll (done.map Order.command ++ [order.command]) compound
          contexts =
        .error failure.cause ∧
      passage.Reaches (schedule.run observer memory compound contexts) := by
  have busy :
      ∀ member ∈ stretch.standing.compound.members, member.kind ≠ .idle := by
    intro member there idle
    rcases halt.alike.exists_idle_iff.mp ⟨member, there, idle⟩ with
      ⟨other, among, same⟩
    exact active other among same
  rcases Order.refused_of_follow busy halt.failed with ⟨refused, stays, quiet⟩
  refine ⟨?_, halt.reaches stays quiet⟩
  rw [Command.obeyAll_append halt.obeyed, halt.agrees.compound_eq,
    halt.agrees.contexts_eq, refused]
  rfl

theorem Halt.events_eq
    (halt :
      Halt schedule observer memory compound contexts failure done order stretch
        passage) :
    (schedule.run observer memory compound contexts).events = stretch.events := by
  have silent := (Order.failure_of_follow halt.failed).1
  rw [halt.run_eq, Stretch.andThen_of_not_ended halt.going]
  show stretch.events ++ _ = stretch.events
  rw [silent, List.append_nil]

/-- Before the order that fails nothing stood in the way of a run. -/
theorem Halt.open
    (silence : ∀ memory event, (observer.observe memory event).2 = none)
    (halt :
      Halt schedule observer memory compound contexts failure done order stretch
        passage) :
    ∀ earlier ∈ done, earlier.Open compound := by
  rcases halt.split with ⟨rest, split⟩
  have aligned : Order.Aligned compound.active (done ++ order :: rest) := by
    rw [← split]
    exact
      Order.aligned_orders compound.active schedule.chunk 0 schedule.segments
  have going :
      (Order.followAll observer done
        ⟨compound, contexts, memory, 0⟩).ended = none := by
    rw [halt.stretch_eq]
    exact halt.going
  exact
    (Order.followAll_going_iff silence (Order.aligned_of_append aligned)).mp
      going

/-- With a compound that is not bound a run begins the first segment and does no more. -/
theorem Halt.of_not_bound
    (silence : ∀ memory event, (observer.observe memory event).2 = none)
    {index : Nat} {segment : Segment} {chunks : List Order}
    (halt :
      Halt schedule observer memory compound contexts failure
        (orders schedule.chunk 0 (schedule.segments.take index) ++
          .enter index segment :: chunks)
        order stretch passage)
    (steps :
      ∀ earlier ∈ chunks, ∃ done count,
        earlier = .take index segment done count)
    (unbound : compound.bound = false) :
    index = 0 ∧ chunks = [] ∧ stretch.events = [] := by
  have closed (place : Nat) (other : Segment) (done count : Count) :
      ¬ (Order.take place other done count).Open compound := by
    rintro ⟨bound, -⟩
    rw [unbound] at bound
    cases bound
  have nothing : chunks = [] := by
    apply List.eq_nil_iff_forall_not_mem.mpr
    intro earlier among
    rcases steps earlier among with ⟨done, count, rfl⟩
    exact
      closed _ _ _ _
        (halt.open silence _
          (List.mem_append_right _ (List.mem_cons_of_mem _ among)))
  have first : schedule.segments.take index = [] := by
    apply List.eq_nil_iff_forall_not_mem.mpr
    intro earlier among
    have listed := List.mem_of_mem_take among
    rcases take_mem_orders among (schedule.steps_pos earlier listed)
        (schedule.chunk_toNat_pos earlier listed) with
      ⟨place, done, count, ordered⟩
    exact
      closed _ _ _ _
        (halt.open silence _ (List.mem_append_left _ ordered))
  have told := halt.told
  rw [first, nothing] at told
  refine ⟨?_, nothing, ?_⟩
  · rcases List.take_eq_nil_iff.mp first with begins | vacant
    · exact begins
    · exact (schedule.nonempty vacant).elim
  · cases shown : stretch.events with
    | nil => rfl
    | cons event events =>
        rw [shown] at told
        cases told

/--
A run has broken down in a segment.  It has taken all the steps of the segments
before, and commands for this one have led along a passage to its end.
-/
structure Breakdown (schedule : Schedule) (compound : Compound setting size)
    (contexts : Contexts setting size) (run : Run setting size Memory)
    (failure : Failure) (segment : Segment) (entered : List Command)
    (passage : Passage setting size) : Prop where
  found : schedule.segments[failure.segment]? = some segment
  begun : entered <+: segmentCommands schedule.chunk segment
  obeyed :
    Command.obeyAll
        ((schedule.segments.take failure.segment).flatMap
            (segmentCommands schedule.chunk) ++ entered)
        compound contexts = .ok passage
  reaches : passage.Reaches run
  alike : compound.Alike passage.compound
  breaks :
    segment.Breaks (segmentCommands schedule.chunk segment) passage entered
      failure.cause
  unbound :
    failure.cause = .notBound →
      compound.bound = false ∧ failure.segment = 0 ∧ run.events = []

section

variable {segment : Segment} {entered further chunks : List Order}
  {before count : Count}

theorem Halt.obeyed_entered
    (halt :
      Halt schedule observer memory compound contexts failure
        (orders schedule.chunk 0 (schedule.segments.take failure.segment) ++
          entered)
        order stretch passage) :
    Command.obeyAll
        ((schedule.segments.take failure.segment).flatMap
            (segmentCommands schedule.chunk) ++ entered.map Order.command)
        compound contexts = .ok passage := by
  rw [← Order.map_command_orders schedule.chunk 0, ← List.map_append]
  exact halt.obeyed

theorem Halt.alike_passage
    (halt :
      Halt schedule observer memory compound contexts failure done order stretch
        passage) :
    compound.Alike passage.compound := by
  rw [halt.agrees.compound_eq]
  exact halt.alike

/-- A segment whose member is not there is not begun. -/
theorem Halt.breakdown_of_enter
    (found : schedule.segments[failure.segment]? = some segment)
    (halt :
      Halt schedule observer memory compound contexts failure
        (orders schedule.chunk 0 (schedule.segments.take failure.segment) ++ [])
        (.enter failure.segment segment) stretch passage)
    (outside :
      stretch.standing.compound.members.length ≤ segment.member.toNat)
    (cause :
      failure.cause =
        .indexOutOfRange segment.member.toNat
          stretch.standing.compound.members.length)
    (reaches :
      passage.Reaches (schedule.run observer memory compound contexts)) :
    Breakdown schedule compound contexts
      (schedule.run observer memory compound contexts) failure segment []
      passage := by
  rw [← halt.agrees.compound_eq] at outside cause
  exact {
    found := found
    begun := List.nil_prefix
    obeyed := halt.obeyed_entered
    reaches := reaches
    alike := halt.alike_passage
    breaks := by
      rw [cause]
      exact .outside outside
    unbound := by
      rw [cause]
      exact Compound.Failure.noConfusion }

/-- Steps that are not taken lack a binding, or are refused by the segment's member. -/
theorem Halt.breakdown_of_step
    (silence : ∀ memory event, (observer.observe memory event).2 = none)
    (found : schedule.segments[failure.segment]? = some segment)
    (parts :
      segmentOrders schedule.chunk failure.segment segment =
        .enter failure.segment segment :: chunks ++
          .take failure.segment segment before count :: further)
    (earlier :
      ∀ other ∈ chunks, ∃ done count,
        other = .take failure.segment segment done count)
    (halt :
      Halt schedule observer memory compound contexts failure
        (orders schedule.chunk 0 (schedule.segments.take failure.segment) ++
          .enter failure.segment segment :: chunks)
        (.take failure.segment segment before count) stretch passage)
    (refused :
      (stretch.standing.compound.step count stretch.standing.contexts).answer =
        .error failure.cause)
    (reaches :
      passage.Reaches (schedule.run observer memory compound contexts)) :
    Breakdown schedule compound contexts
      (schedule.run observer memory compound contexts) failure segment
      ((.enter failure.segment segment :: chunks).map Order.command)
      passage := by
  have active : segment.member.toNat = stretch.standing.compound.active :=
    halt.aligned.1
  have inside : segment.member.toNat < compound.members.length :=
    halt.open silence (.enter failure.segment segment) (by simp)
  have there :
      stretch.standing.compound.active <
        stretch.standing.compound.members.length := by
    rw [← active, halt.alike.length_eq]
    exact inside
  have next := command_prefix_of_segmentOrders parts
  have alike := halt.alike_passage
  rcases Compound.step_of_error_of_lt there refused with
    ⟨unbound, cause⟩ | ⟨member, inner, -, present, stuck, cause⟩
  · rw [halt.alike.bound_eq] at unbound
    rcases halt.of_not_bound silence earlier unbound with ⟨first, rfl, silent⟩
    exact {
      found := found
      begun := (List.prefix_append _ _).trans next
      obeyed := halt.obeyed_entered
      reaches := reaches
      alike := alike
      breaks := by
        rw [cause]
        apply Segment.Breaks.unbound
        · rw [alike.length_eq]
          exact inside
        · rw [alike.bound_eq]
          exact unbound
      unbound := fun _ => ⟨unbound, first, halt.events_eq.trans silent⟩ }
  · rw [← active, ← halt.agrees.compound_eq] at present
    rw [← active] at cause
    rw [← halt.agrees.contexts_eq] at stuck
    exact {
      found := found
      begun := (List.prefix_append _ _).trans next
      obeyed := halt.obeyed_entered
      reaches := reaches
      alike := alike
      breaks := by
        rw [cause]
        exact .step next present stuck
      unbound := by
        rw [cause]
        exact Compound.Failure.noConfusion }

/-- Steps after which no energy is reported have been taken all the same. -/
theorem Halt.breakdown_of_energy
    (found : schedule.segments[failure.segment]? = some segment)
    (parts :
      segmentOrders schedule.chunk failure.segment segment =
        entered ++ .take failure.segment segment before count :: further)
    (halt :
      Halt schedule observer memory compound contexts failure
        (orders schedule.chunk 0 (schedule.segments.take failure.segment) ++
          entered)
        (.take failure.segment segment before count) stretch passage)
    (stepped :
      (stretch.standing.compound.step count stretch.standing.contexts).answer =
        .ok ())
    (lacking :
      (stretch.standing.compound.step count
          stretch.standing.contexts).compound.kineticEnergy
          (stretch.standing.compound.step count
            stretch.standing.contexts).contexts =
        .error failure.cause)
    (moved :
      ((Order.take failure.segment segment before count).follow observer
          stretch.standing).standing.state =
        ((stretch.standing.compound.step count
            stretch.standing.contexts).compound,
          (stretch.standing.compound.step count
            stretch.standing.contexts).contexts))
    (noted :
      ((Order.take failure.segment segment before count).follow observer
          stretch.standing).trace.journal =
        (stretch.standing.compound.step count
          stretch.standing.contexts).trace.journal) :
    ∃ onward,
      Breakdown schedule compound contexts
        (schedule.run observer memory compound contexts) failure segment
        (entered.map Order.command ++ [.step count]) onward := by
  have active : segment.member.toNat = stretch.standing.compound.active :=
    halt.aligned.1
  rcases Compound.kineticEnergy_of_error_of_step stepped lacking with
    ⟨member, mover, inner, -, -, present, mute, cause⟩
  rcases halt.reaches_of_step stepped moved noted with
    ⟨onward, obeyed, compound_eq, contexts_eq, reaches⟩
  rw [← active, ← compound_eq] at present
  rw [← active] at cause
  rw [← contexts_eq] at mute
  rw [List.map_append, Order.map_command_orders, List.append_assoc] at obeyed
  refine ⟨onward, ?_⟩
  exact {
    found := found
    begun := command_prefix_of_segmentOrders parts
    obeyed := obeyed
    reaches := reaches
    alike := by
      rw [compound_eq]
      exact halt.alike.trans (Compound.alike_step _ _ _)
    breaks := by
      rw [cause]
      exact .energy present mute
    unbound := by
      rw [cause]
      exact Compound.Failure.noConfusion }

end

/-- A run that fails has broken down in the segment that it names. -/
theorem breakdown_of_error
    (silence : ∀ memory event, (observer.observe memory event).2 = none)
    (failed :
      (schedule.run observer memory compound contexts).answer =
        .error failure) :
    ∃ segment entered passage,
      Breakdown schedule compound contexts
        (schedule.run observer memory compound contexts) failure segment entered
        passage := by
  rcases halt_of_error failed with ⟨done, order, stretch, passage, halt⟩
  rcases halt.split with ⟨rest, split⟩
  rcases split_of_plan split with
    ⟨index, segment, entered, further, found, rfl, parts⟩
  rcases Order.failure_of_follow halt.failed with
    ⟨-, ⟨other, named, outside, cause, stays, quiet⟩ |
      ⟨other, start, steps, named, refused, stays, quiet⟩ |
      ⟨other, start, steps, named, stepped, lacking, moved, noted⟩⟩
  · rcases cases_of_segmentOrders parts with
      ⟨rfl, rfl⟩ | ⟨chunks, before, count, -, -, rfl⟩
    · cases named
      exact
        ⟨segment, _, passage,
          halt.breakdown_of_enter found outside cause
            (halt.reaches stays quiet)⟩
    · cases named
  · rcases cases_of_segmentOrders parts with
      ⟨-, rfl⟩ | ⟨chunks, before, count, rfl, earlier, rfl⟩
    · cases named
    · cases named
      exact
        ⟨segment, _, passage,
          halt.breakdown_of_step silence found parts earlier refused
            (halt.reaches stays quiet)⟩
  · rcases cases_of_segmentOrders parts with
      ⟨-, rfl⟩ | ⟨chunks, before, count, -, -, rfl⟩
    · cases named
    · cases named
      exact
        ⟨segment, _,
          halt.breakdown_of_energy found parts stepped lacking moved noted⟩

/-! ## Runs before an observer that asks for nothing -/

/-- A run that goes through has followed its plan to the end. -/
theorem going_of_ok
    (silence : ∀ memory event, (observer.observe memory event).2 = none)
    {ending : Ending}
    (through :
      (schedule.run observer memory compound contexts).answer = .ok ending) :
    (Order.followAll observer schedule.plan
      ⟨compound, contexts, memory, 0⟩).ended = none := by
  rw [Schedule.run_eq, conclude] at through
  dsimp only at through
  cases ended :
      (Order.followAll observer schedule.plan
        ⟨compound, contexts, memory, 0⟩).ended with
  | none => rfl
  | some answer =>
      cases answer with
      | ok other => exact (Order.not_ok_of_silence silence ended).elim
      | error failure =>
          rw [ended] at through
          cases through

/-- A run fails just if it does not come to the end of its plan. -/
theorem exists_failure_iff
    (silence : ∀ memory event, (observer.observe memory event).2 = none) :
    (∃ failure,
        (schedule.run observer memory compound contexts).answer =
          .error failure) ↔
      ¬ ∀ order ∈ schedule.plan, order.Open compound := by
  let start : Standing setting size Memory := ⟨compound, contexts, memory, 0⟩
  have going :
      (Order.followAll observer schedule.plan start).ended = none ↔
        ∀ order ∈ schedule.plan, order.Open compound :=
    Order.followAll_going_iff silence
      (Order.aligned_orders compound.active schedule.chunk 0 schedule.segments)
  rw [← going]
  constructor
  · rintro ⟨failure, failed⟩ onward
    rw [Schedule.run_eq, conclude, onward] at failed
    cases failed
  · intro halted
    cases answer : (schedule.run observer memory compound contexts).answer with
    | ok ending => exact (halted (going_of_ok silence answer)).elim
    | error failure => exact ⟨failure, rfl⟩

/--
A run fails just if a segment names a member that is not there, or the compound
is not bound, or one of the segments' members fails.
-/
theorem fails_iff
    (silence : ∀ memory event, (observer.observe memory event).2 = none) :
    (∃ failure,
        (schedule.run observer memory compound contexts).answer =
          .error failure) ↔
      (∃ segment ∈ schedule.segments,
        compound.members.length ≤ segment.member.toNat) ∨
      compound.bound = false ∨
      ∃ segment ∈ schedule.segments, ∃ member,
        compound.members[segment.member.toNat]? = some member ∧
          member.Fails contexts := by
  have begun {segment : Segment} (listed : segment ∈ schedule.segments) :
      ∃ index, .enter index segment ∈ schedule.plan :=
    enter_mem_orders listed
  have stepped {segment : Segment} (listed : segment ∈ schedule.segments) :
      ∃ index done count, .take index segment done count ∈ schedule.plan :=
    take_mem_orders listed (schedule.steps_pos segment listed)
      (schedule.chunk_toNat_pos segment listed)
  rw [exists_failure_iff silence]
  constructor
  · intro closed
    by_contra fine
    apply closed
    intro order ordered
    rcases cases_of_mem_plan ordered with ⟨index, segment, found, own⟩
    have listed := List.mem_of_getElem? found
    have inside : segment.member.toNat < compound.members.length := by
      by_contra outside
      exact fine (.inl ⟨segment, listed, Nat.le_of_not_lt outside⟩)
    rcases own with rfl | ⟨done, count, rfl⟩
    · exact inside
    · have there := List.getElem?_eq_getElem inside
      constructor
      · by_contra unbound
        exact fine (.inr (.inl (Bool.eq_false_iff.mpr unbound)))
      · apply Compound.faults_eq_some_iff.mpr
        refine ⟨_, there, ?_⟩
        by_contra lacking
        exact
          fine
            (.inr
              (.inr
                ⟨segment, listed, _, there, Member.fails_iff.mpr lacking⟩))
  · rintro (⟨segment, listed, outside⟩ | unbound |
      ⟨segment, listed, member, found, fails⟩) fine
    · rcases begun listed with ⟨index, ordered⟩
      exact Nat.not_lt_of_le outside (fine _ ordered)
    · rcases List.exists_mem_of_ne_nil _ schedule.nonempty with
        ⟨segment, listed⟩
      rcases stepped listed with ⟨index, done, count, ordered⟩
      have bound := (fine _ ordered).1
      rw [unbound] at bound
      cases bound
    · rcases stepped listed with ⟨index, done, count, ordered⟩
      rcases Compound.faults_eq_some_iff.mp (fine _ ordered).2 with
        ⟨other, there, sound⟩
      cases found.symm.trans there
      exact Member.fails_iff.mp fails sound

/--
Without idle members the events of a run tell of the steps that were taken, and
the run obeys all commands of the schedule or fails by the first that it cannot
obey.
-/
theorem told_of_run
    (silence : ∀ memory event, (observer.observe memory event).2 = none)
    (active : ∀ member ∈ compound.members, member.kind ≠ .idle) :
    ∃ obeyed rest passage,
      schedule.commands = obeyed ++ rest ∧
        Command.obeyAll obeyed compound contexts = .ok passage ∧
        passage.Reaches (schedule.run observer memory compound contexts) ∧
        Event.told 0
            (schedule.run observer memory compound contexts).events =
          Command.taken compound.active obeyed ∧
        ((rest = [] ∧ ∃ ending,
            (schedule.run observer memory compound contexts).answer =
              .ok ending) ∨
          ∃ next later failure, rest = next :: later ∧
            (schedule.run observer memory compound contexts).answer =
              .error failure ∧
            Command.obeyAll (obeyed ++ [next]) compound contexts =
              .error failure.cause) := by
  cases answer : (schedule.run observer memory compound contexts).answer with
  | ok ending =>
      have aligned : Order.Aligned compound.active schedule.plan :=
        Order.aligned_orders compound.active schedule.chunk 0 schedule.segments
      have going := going_of_ok silence answer
      rcases Order.obeyAll_of_followAll aligned going with
        ⟨passage, obeyed, agrees⟩
      have told := Order.told_of_followAll aligned going
      rw [Order.map_command_plan] at obeyed told
      rw [Schedule.run_eq]
      refine
        ⟨schedule.commands, [], passage, (List.append_nil _).symm, obeyed, ?_,
          told, .inl ⟨rfl, ending, rfl⟩⟩
      exact ⟨agrees.compound_eq, agrees.contexts_eq, agrees.journal_eq⟩
  | error failure =>
      rcases halt_of_error answer with ⟨done, order, stretch, passage, halt⟩
      rcases halt.split with ⟨rest, split⟩
      rcases halt.refused active with ⟨refused, reaches⟩
      refine
        ⟨done.map Order.command, order.command :: rest.map Order.command,
          passage, ?_, halt.obeyed, reaches, ?_,
          .inr ⟨_, _, failure, rfl, rfl, refused⟩⟩
      · rw [← Order.map_command_plan, split, List.map_append, List.map_cons]
      · rw [halt.events_eq]
        exact halt.told

end Schedule

/--
A run that no observer stops fails just if one of its segments names a member
that is not there, or the compound is not bound, or a member of one of the
segments fails.

A failure names the segment in which the run has broken down, all segments
before having taken all their steps, and it names the cause.  The cause is an
index out of range just if the segment names such an index; it is the lack of a
binding only if the compound is not bound, and then nothing was done but to begin
the first segment; else it is the failure of the segment's own member.

Without idle members the events tell of all steps that were taken, in order,
whether the run completes or fails.
-/
theorem Schedule.run_breaks_down
    (schedule : Schedule) {observer : Observer Event Memory}
    (silence : ∀ memory event, (observer.observe memory event).2 = none)
    (memory : Memory) (compound : Compound setting size)
    (contexts : Contexts setting size) :
    let run := schedule.run observer memory compound contexts
    ((∃ failure, run.answer = .error failure) ↔
      (∃ segment ∈ schedule.segments,
        compound.members.length ≤ segment.member.toNat) ∨
      compound.bound = false ∨
      ∃ segment ∈ schedule.segments, ∃ member,
        compound.members[segment.member.toNat]? = some member ∧
          member.Fails contexts) ∧
    (∀ failure, run.answer = .error failure →
      ∃ segment entered passage,
        schedule.segments[failure.segment]? = some segment ∧
        (∀ earlier ∈ schedule.segments.take failure.segment,
          Command.total (segmentCommands schedule.chunk earlier) =
            earlier.steps.toNat) ∧
        entered <+: segmentCommands schedule.chunk segment ∧
        Command.obeyAll
            ((schedule.segments.take failure.segment).flatMap
                (segmentCommands schedule.chunk) ++ entered)
            compound contexts = .ok passage ∧
        passage.Reaches run ∧
        segment.Breaks (segmentCommands schedule.chunk segment) passage entered
          failure.cause ∧
        (failure.cause =
            .indexOutOfRange segment.member.toNat compound.members.length ↔
          compound.members.length ≤ segment.member.toNat) ∧
        (failure.cause = .notBound →
          compound.bound = false ∧ failure.segment = 0 ∧ run.events = []) ∧
        failure.cause ≠ .empty ∧ failure.cause ≠ .alreadyBound) ∧
    ((∀ member ∈ compound.members, member.kind ≠ .idle) →
      ∃ obeyed rest passage,
        schedule.commands = obeyed ++ rest ∧
        Command.obeyAll obeyed compound contexts = .ok passage ∧
        passage.Reaches run ∧
        Event.told 0 run.events = Command.taken compound.active obeyed ∧
        ((rest = [] ∧ ∃ ending, run.answer = .ok ending) ∨
          ∃ next later failure, rest = next :: later ∧
            run.answer = .error failure ∧
            Command.obeyAll (obeyed ++ [next]) compound contexts =
              .error failure.cause)) := by
  intro run
  refine ⟨fails_iff silence, ?_, told_of_run silence⟩
  intro failure failed
  rcases breakdown_of_error silence failed with
    ⟨segment, entered, passage, breakdown⟩
  have breaks := breakdown.breaks
  refine
    ⟨segment, entered, passage, breakdown.found, ?_, breakdown.begun,
      breakdown.obeyed, breakdown.reaches, breaks, ?_, breakdown.unbound, ?_, ?_⟩
  · intro earlier among
    apply total_segmentCommands
    exact schedule.chunk_toNat_pos earlier (List.mem_of_mem_take among)
  · rw [← breakdown.alike.length_eq]
    exact breaks.indexOutOfRange_iff
  · rintro same
    rw [same] at breaks
    cases breaks
  · rintro same
    rw [same] at breaks
    cases breaks

/-- A sound recorder takes three steps in chunks of two; the next one has faulted. -/
theorem Schedule.run_of_faulted_recorder :
    let recorder (serial : Nat) (faulted : Bool) : Member .clock 1 :=
      .recorder
        ⟨serial, "recorder", 0, .ofPicoseconds 0.5, 1.0, .none, false, faulted,
          some 0⟩
    let schedule : Schedule :=
      { segments := [⟨0, 3⟩, ⟨1, 2⟩]
        chunk := some 2
        nonempty := by decide
        steps_pos := by decide
        total_lt := by decide
        chunk_pos := by simp }
    let compound : Compound .clock 1 :=
      ⟨[recorder 0 false, recorder 1 true], 0, true⟩
    let run := schedule.runUnobserved compound #v[0.0]
    run.answer = .error ⟨1, .member 1 (.recorder (.faulted "recorder"))⟩ ∧
      Event.told 0 run.events = [(0, 2), (0, 1)] ∧
      ∃ obeyed rest passage,
        schedule.commands = obeyed ++ rest ∧
        Command.obeyAll obeyed compound #v[0.0] = .ok passage ∧
        passage.Reaches run ∧
        Event.told 0 run.events = Command.taken compound.active obeyed := by
  intro recorder schedule compound run
  have sound : ∀ member ∈ compound.members, member.kind ≠ .idle := by
    decide
  rcases (schedule.run_breaks_down (fun _ _ => rfl : ∀ memory event,
      (Observer.silent.observe memory event).2 = none) () compound
        #v[0.0]).2.2 sound with
    ⟨obeyed, rest, passage, commands, followed, reaches, told, -⟩
  exact
    ⟨by decide +kernel, by decide +kernel, obeyed, rest, passage, commands,
      followed, reaches, told⟩

end Stepping
