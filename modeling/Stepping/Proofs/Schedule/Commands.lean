import Stepping.Proofs.Compound.Calls
import Stepping.Proofs.Schedule.Progress
import Mathlib.Data.List.Forall2

/-!
# Runs that complete

What a run calls on its compound are commands, to make a member the active one
and to take steps.  In closed form the commands of a schedule are, segment by
segment, to select its member and then for each chunk to take the steps that are
left of the segment, but at most a chunk's.

A run that does not fail and is not stopped obeys exactly these commands.  It
shows one event after each step, with the progress in closed form and with the
kinetic energy that the segment's member reports right after the step.
-/

namespace Stepping

/-- What a run calls on its compound. -/
inductive Command where
  | select (index : Nat)
  | step (steps : Count)
deriving DecidableEq, Repr

/-- Where commands have led. -/
structure Passage (setting : Setting) (size : Nat) where
  compound : Compound setting size
  contexts : Contexts setting size
  trace : Trace
  /-- The compound and the contexts right after each step. -/
  halts : List (Compound setting size × Contexts setting size)

namespace Command

variable {setting : Setting} {size : Nat}

/-- Go on along a passage after a command. -/
def andThen (trace : Trace)
    (halts : List (Compound setting size × Contexts setting size))
    (passage : Passage setting size) : Passage setting size :=
  { passage with
    trace := trace ++ passage.trace
    halts := halts ++ passage.halts }

/-- Obey commands in order, none of which may fail. -/
def obeyAll :
    List Command → Compound setting size → Contexts setting size →
      Except Compound.Failure (Passage setting size)
  | [], compound, contexts => .ok ⟨compound, contexts, .none, []⟩
  | .select index :: commands, compound, contexts =>
      match compound.select index with
      | (.error cause, _, _) => .error cause
      | (.ok (), selected, trace) =>
          (obeyAll commands selected contexts).map (andThen trace [])
  | .step steps :: commands, compound, contexts =>
      let outcome := compound.step steps contexts
      match outcome.answer with
      | .error cause => .error cause
      | .ok () =>
          (obeyAll commands outcome.compound outcome.contexts).map
            (andThen outcome.trace [(outcome.compound, outcome.contexts)])

theorem obeyAll_select
    {compound : Compound setting size} {index : Nat}
    (inside : index < compound.members.length)
    (commands : List Command) (contexts : Contexts setting size) :
    obeyAll (.select index :: commands) compound contexts =
      (obeyAll commands (compound.select index).2.1 contexts).map
        (andThen (compound.select index).2.2 []) := by
  simp [obeyAll, Compound.select, inside]

theorem obeyAll_step
    {compound : Compound setting size} {steps : Count}
    {contexts : Contexts setting size}
    (stepped : (compound.step steps contexts).answer = .ok ())
    (commands : List Command) :
    obeyAll (.step steps :: commands) compound contexts =
      (obeyAll commands (compound.step steps contexts).compound
          (compound.step steps contexts).contexts).map
        (andThen (compound.step steps contexts).trace
          [((compound.step steps contexts).compound,
            (compound.step steps contexts).contexts)]) := by
  rw [obeyAll, stepped]

end Command

namespace Schedule

/-- The commands for one segment in closed form. -/
def segmentCommands (chunk : Option Count) (segment : Segment) : List Command :=
  let chunk := chunk.getD segment.steps
  .select segment.member.toNat ::
    (List.range (chunkCount segment.steps chunk)).map fun place =>
      .step
        (.ofNat (min chunk.toNat (segment.steps.toNat - place * chunk.toNat)))

/-- The commands of a schedule: those for its segments, in order. -/
def commands (schedule : Schedule) : List Command :=
  schedule.segments.flatMap (segmentCommands schedule.chunk)

end Schedule

namespace Order

/-- The command that an order has a run give. -/
def command : Order → Command
  | .enter _ segment => .select segment.member.toNat
  | .take _ _ _ count => .step count

theorem map_command_segmentOrders
    (chunk : Option Count) (index : Nat) (segment : Segment) :
    (Schedule.segmentOrders chunk index segment).map command =
      Schedule.segmentCommands chunk segment := by
  simp [Schedule.segmentOrders, Schedule.segmentCommands, command, chunkAt,
    Function.comp_def]

theorem map_command_orders
    (chunk : Option Count) (index : Nat) (segments : List Segment) :
    (Schedule.orders chunk index segments).map command =
      segments.flatMap (Schedule.segmentCommands chunk) := by
  rw [Schedule.orders, List.map_flatMap]
  conv_rhs => rw [← List.zipIdx_map_fst index segments, List.flatMap_map]
  exact
    List.flatMap_congr fun pair _ =>
      map_command_segmentOrders chunk pair.2 pair.1

theorem map_command_plan (schedule : Schedule) :
    schedule.plan.map command = schedule.commands :=
  map_command_orders schedule.chunk 0 schedule.segments

/-- Orders to take steps of a segment come while the segment's member is active. -/
def Aligned : (active : Nat) → List Order → Prop
  | _, [] => True
  | _, .enter _ segment :: orders => Aligned segment.member.toNat orders
  | active, .take _ segment _ _ :: orders =>
      segment.member.toNat = active ∧ Aligned active orders

theorem aligned_chunks
    (index : Nat) (segment : Segment) (chunk : Count) (places : List Nat)
    {orders : List Order} (aligned : Aligned segment.member.toNat orders) :
    Aligned segment.member.toNat
      (places.map (chunkAt index segment chunk) ++ orders) := by
  induction places with
  | nil => exact aligned
  | cons place places induction => exact ⟨rfl, induction⟩

theorem aligned_orders
    (active : Nat) (chunk : Option Count) (index : Nat)
    (segments : List Segment) :
    Aligned active (Schedule.orders chunk index segments) := by
  induction segments generalizing active index with
  | nil => trivial
  | cons segment segments induction =>
      exact
        aligned_chunks index segment (chunk.getD segment.steps) _
          (induction segment.member.toNat (index + 1))

end Order

/-- Whether a notice is a compound's, and not one of the run itself. -/
def Notice.ofCompound : Notice → Bool
  | .segment _ _ _ => false
  | .stopped _ => false
  | _ => true

variable {setting : Setting} {size : Nat} {Memory : Type}

namespace Compound

theorem ofCompound_select (index : Nat) (compound : Compound setting size) :
    (compound.select index).2.2.notices.filter Notice.ofCompound =
      (compound.select index).2.2.notices := by
  rcases compound.notices_select index with none | switched
  · rw [none]
    rfl
  · rw [switched]
    rfl

theorem ofCompound_step
    (steps : Count) (contexts : Contexts setting size)
    (compound : Compound setting size) :
    (compound.step steps contexts).trace.notices.filter Notice.ofCompound =
      (compound.step steps contexts).trace.notices := by
  rcases compound.notices_step steps contexts with none | tried
  · rw [none]
    rfl
  · rw [tried]
    rfl

end Compound

/-- A passage leads to where a stretch leads, and has halted where the stretch shows its events. -/
structure Passage.Matches (passage : Passage setting size)
    (stretch : Stretch setting size Memory) : Prop where
  compound_eq : passage.compound = stretch.standing.compound
  contexts_eq : passage.contexts = stretch.standing.contexts
  journal_eq : passage.trace.journal = stretch.trace.journal
  /-- The notices are the same but for those of the run itself. -/
  notices_eq :
    passage.trace.notices = stretch.trace.notices.filter Notice.ofCompound
  /-- Every event tells the energy that its member reports where the passage has halted. -/
  energies :
    List.Forall₂
      (fun halt event =>
        ∃ member, halt.1.members[event.member.toNat]? = some member ∧
          member.kineticEnergy halt.2 = .ok event.kineticEnergy)
      passage.halts stretch.events

theorem Passage.Matches.andThen
    {passage : Passage setting size}
    {first : Stretch setting size Memory} (going : first.ended = none)
    {next : Standing setting size Memory → Stretch setting size Memory}
    (later : passage.Matches (next first.standing))
    {trace : Trace}
    (journal : trace.journal = first.trace.journal)
    (notices : trace.notices = first.trace.notices.filter Notice.ofCompound)
    {halts : List (Compound setting size × Contexts setting size)}
    (energies :
      List.Forall₂
        (fun halt event =>
          ∃ member, halt.1.members[event.member.toNat]? = some member ∧
            member.kineticEnergy halt.2 = .ok event.kineticEnergy)
        halts first.events) :
    (Command.andThen trace halts passage).Matches (first.andThen next) := by
  rw [Stretch.andThen_of_not_ended going]
  exact {
    compound_eq := later.compound_eq
    contexts_eq := later.contexts_eq
    journal_eq := by
      show trace.journal ++ passage.trace.journal = _
      rw [journal, later.journal_eq]
      rfl
    notices_eq := by
      show trace.notices ++ passage.trace.notices = _
      rw [notices, later.notices_eq, ← List.filter_append]
      rfl
    energies := List.rel_append energies later.energies }

/-- Orders that are followed to their end give commands that can be obeyed. -/
theorem Order.obeyAll_of_followAll
    {observer : Observer Event Memory} {orders : List Order}
    {standing : Standing setting size Memory}
    (aligned : Aligned standing.compound.active orders)
    (going : (followAll observer orders standing).ended = none) :
    ∃ passage,
      Command.obeyAll (orders.map command) standing.compound
          standing.contexts = .ok passage ∧
        passage.Matches (followAll observer orders standing) := by
  induction orders generalizing standing with
  | nil => exact ⟨_, rfl, rfl, rfl, rfl, rfl, .nil⟩
  | cons order orders induction =>
      rw [followAll] at going ⊢
      have first := Stretch.not_ended_of_andThen going
      have later := going
      rw [Stretch.andThen_of_not_ended first] at later
      cases order with
      | enter index segment =>
          have inside := lt_of_follow_enter first
          rw [follow_enter_of_lt observer index inside] at later ⊢
          have active := Compound.active_select inside
          have next :
              Aligned
                (standing.compound.select segment.member.toNat).2.1.active
                orders := by
            rw [active]
            exact aligned
          rcases induction next later with ⟨passage, obeyed, agrees⟩
          refine
            ⟨_, ?_,
              agrees.andThen rfl (List.append_nil _).symm ?_ .nil⟩
          · rw [List.map_cons, command, Command.obeyAll_select inside]
            exact congrArg (Except.map _) obeyed
          · rw [Stretch.noting, Trace.notices_append, List.filter_append,
              Compound.ofCompound_select]
            exact (List.append_nil _).symm
      | take index segment done count =>
          rcases aligned with ⟨active, aligned⟩
          rcases Schedule.takeChunk_of_going first with
            ⟨energy, stepped, reported, equality⟩
          rw [follow, equality] at later ⊢
          have stays := Compound.active_step stepped
          rcases Compound.kineticEnergy_eq_ok_iff.mp reported with
            ⟨-, member, found, told⟩
          rw [stays, ← active] at found
          rw [← stays] at aligned
          rcases induction aligned later with ⟨passage, obeyed, agrees⟩
          refine
            ⟨Command.andThen
                (standing.compound.step count standing.contexts).trace
                [((standing.compound.step count standing.contexts).compound,
                  (standing.compound.step count standing.contexts).contexts)]
                passage, ?_,
              agrees.andThen rfl rfl (standing.compound.ofCompound_step _ _).symm
                (.cons ⟨member, found, told⟩ .nil)⟩
          rw [List.map_cons, command, Command.obeyAll_step stepped]
          exact congrArg (Except.map _) obeyed

/-- An order that ends the run without a failure ends it because the observer asks for that. -/
theorem Order.asked_of_follow
    {observer : Observer Event Memory} {order : Order}
    {standing : Standing setting size Memory} {ending : Schedule.Ending}
    (ended : (order.follow observer standing).ended = some (.ok ending)) :
    ending.status = .stoppedByObserver ∧
      ∃ memory event, (observer.observe memory event).2 = some .stopEarly := by
  rcases follow_cases order standing.forgetting with
    ⟨index, cause, trace, next, same⟩ |
      ⟨index, segment, trace, next, -, -, same⟩ |
      ⟨index, segment, done, count, energy, trace, next, -, -, same⟩
  · have followed : order.follow observer standing = _ :=
      same observer standing.memory
    rw [followed] at ended
    cases ended
  · have followed : order.follow observer standing = _ :=
      same observer standing.memory
    rw [followed] at ended
    cases ended
  · have followed : order.follow observer standing = _ :=
      same observer standing.memory
    rw [followed, Stretch.showing] at ended
    dsimp only at ended
    split at ended
    next => cases ended
    next asked =>
      cases ended
      exact ⟨rfl, _, _, asked⟩

theorem Order.stopped_of_followAll
    {observer : Observer Event Memory} {orders : List Order}
    {standing : Standing setting size Memory} {ending : Schedule.Ending}
    (ended : (followAll observer orders standing).ended = some (.ok ending)) :
    ending.status = .stoppedByObserver := by
  rcases ended_of_followAll (fun _ => True) (fun _ _ _ => trivial)
      trivial ended with
    ⟨order, halt, -, ended⟩
  exact (asked_of_follow ended).1

/--
A run that neither fails nor is stopped completes all segments and the total
number of steps.  It obeys the commands of the schedule, and the observer
observes one event after each step, with the progress in closed form and the
kinetic energy of the segment's member right after the step.
-/
theorem Schedule.run_of_completion
    (schedule : Schedule) (observer : Observer Event Memory) (memory : Memory)
    (compound : Compound setting size) (contexts : Contexts setting size)
    (unfailed :
      ∀ failure,
        (schedule.run observer memory compound contexts).answer ≠ .error failure)
    (unstopped :
      ∀ segments steps,
        (schedule.run observer memory compound contexts).answer ≠
          .ok ⟨.stoppedByObserver, segments, steps⟩) :
    let run := schedule.run observer memory compound contexts
    run.answer =
        .ok ⟨.complete, schedule.segments.length, schedule.totalSteps⟩ ∧
      schedule.totalSteps.toNat = Segment.total schedule.segments ∧
      run.events.map Event.progress = schedule.progress ∧
      run.standing.memory = observer.memoryAfter memory run.events ∧
      ∃ passage : Passage setting size,
        Command.obeyAll schedule.commands compound contexts = .ok passage ∧
          passage.compound = run.standing.compound ∧
          passage.contexts = run.standing.contexts ∧
          passage.trace.journal = run.trace.journal ∧
          passage.trace.notices =
            run.trace.notices.filter Notice.ofCompound ∧
          List.Forall₂
            (fun halt event =>
              ∃ member, halt.1.members[event.member.toNat]? = some member ∧
                member.kineticEnergy halt.2 = .ok event.kineticEnergy)
            passage.halts run.events := by
  intro run
  let stretch :=
    Order.followAll observer schedule.plan ⟨compound, contexts, memory, 0⟩
  have whole : run = schedule.conclude stretch :=
    schedule.run_eq observer memory compound contexts
  have going : stretch.ended = none := by
    cases ended : stretch.ended with
    | none => rfl
    | some answer =>
        have answered : run.answer = answer := by
          rw [whole, Schedule.conclude, ended]
          rfl
        cases answer with
        | error failure => exact (unfailed failure answered).elim
        | ok ending =>
            rcases ending with ⟨status, segments, steps⟩
            cases Order.stopped_of_followAll ended
            exact (unstopped segments steps answered).elim
  rcases Order.progress_followAll observer schedule.plan
      ⟨compound, contexts, memory, 0⟩ with
    ⟨-, remembered, shown⟩
  rcases shown going with ⟨events, total⟩
  rcases Order.obeyAll_of_followAll
      (Order.aligned_orders compound.active schedule.chunk 0 schedule.segments)
      going with
    ⟨passage, obeyed, agrees⟩
  rw [schedule.announced_plan.1] at events
  rw [schedule.announced_plan.2] at total
  rw [whole]
  refine
    ⟨?_, schedule.toNat_totalSteps, events, remembered, passage, ?_,
      agrees.compound_eq, agrees.contexts_eq, agrees.journal_eq,
      agrees.notices_eq, agrees.energies⟩
  · have total : stretch.standing.total = schedule.totalSteps := total
    rw [Schedule.conclude, going, total]
    rfl
  · rw [← Order.map_command_plan]
    exact obeyed

/-- Two recorders in turn, five steps in chunks of two and then two steps. -/
theorem Schedule.run_of_two_recorders :
    let recorder (serial : Nat) : Member .clock 1 :=
      .recorder
        ⟨serial, "recorder", 0, .ofPicoseconds 0.5, 1.0, .none, false, false,
          some 0⟩
    let schedule : Schedule :=
      { segments := [⟨0, 5⟩, ⟨1, 2⟩]
        chunk := some 2
        nonempty := by decide
        steps_pos := by decide
        total_lt := by decide
        chunk_pos := by simp }
    let run :=
      schedule.runUnobserved ⟨[recorder 0, recorder 1], 0, true⟩ #v[0.0]
    run.answer = .ok ⟨.complete, 2, 7⟩ ∧
      run.events.map Event.progress =
        [⟨0, 0, 2, 2⟩, ⟨0, 0, 4, 4⟩, ⟨0, 0, 5, 5⟩, ⟨1, 1, 2, 7⟩] ∧
      schedule.commands =
        [.select 0, .step 2, .step 2, .step 1, .select 1, .step 2] := by
  intro recorder schedule run
  have answer : run.answer = .ok ⟨.complete, 2, 7⟩ := by decide +kernel
  have completion :=
    schedule.run_of_completion .silent ()
      ⟨[recorder 0, recorder 1], 0, true⟩ #v[0.0]
      (fun failure failed => by cases answer.symm.trans failed)
      (fun segments steps stopped => by cases answer.symm.trans stopped)
  exact ⟨answer, completion.2.2.1.trans (by decide), by decide⟩

end Stepping
