import Stepping.Proofs.Schedule.Plan
import Stepping.Proofs.Compound.Ties

/-!
# What runs inherit from selecting and stepping

A run does nothing to its compound but select members and take steps with them.
So a relation between the state before, what is noted and the state after holds
of every run, however it ends, if it holds of each selection and each step, of
what the driver itself notes, and of one thing done after another.
-/

namespace Stepping

variable {setting : Setting} {size : Nat} {Memory : Type}

/-- A relation that selections, steps and a driver's notices have, one after another. -/
structure Chain
    (relation :
      Compound setting size × Contexts setting size → Trace →
        Compound setting size × Contexts setting size → Prop) : Prop where
  refl : ∀ state, relation state .none state
  trans :
    ∀ {first second third earlier later},
      relation first earlier second → relation second later third →
        relation first (earlier ++ later) third
  select :
    ∀ (compound : Compound setting size) contexts index,
      relation (compound, contexts) (compound.select index).2.2
        ((compound.select index).2.1, contexts)
  step :
    ∀ (compound : Compound setting size) contexts count,
      relation (compound, contexts) (compound.step count contexts).trace
        ((compound.step count contexts).compound,
          (compound.step count contexts).contexts)
  begun :
    ∀ state index steps member,
      relation state (.ofNotice (.segment index steps member)) state
  stopped : ∀ state steps, relation state (.ofNotice (.stopped steps)) state

namespace Standing

/-- What a run works on, without what belongs to the run itself. -/
def state (standing : Standing setting size Memory) :
    Compound setting size × Contexts setting size :=
  (standing.compound, standing.contexts)

end Standing

variable
  {relation :
    Compound setting size × Contexts setting size → Trace →
      Compound setting size × Contexts setting size → Prop}

theorem Chain.takeChunk
    (chain : Chain relation) (observer : Observer Event Memory)
    (index : Nat) (segment : Segment) (done count : Count)
    (standing : Standing setting size Memory) :
    relation standing.state
      (Schedule.takeChunk observer index segment done count standing).trace
      (Schedule.takeChunk observer index segment done count standing).standing.state := by
  have step := chain.step standing.compound standing.contexts count
  rw [Schedule.takeChunk]
  cases (standing.compound.step count standing.contexts).answer with
  | error cause => exact step
  | ok nothing =>
      dsimp only
      split
      · exact step
      · split
        · exact step
        · exact chain.trans step (chain.stopped _ _)

theorem Chain.follow
    (chain : Chain relation) (observer : Observer Event Memory)
    (order : Order) (standing : Standing setting size Memory) :
    relation standing.state (order.follow observer standing).trace
      (order.follow observer standing).standing.state := by
  cases order with
  | enter index segment =>
      have select :=
        chain.select standing.compound standing.contexts segment.member.toNat
      rw [Order.follow]
      generalize standing.compound.select segment.member.toNat = result
        at select ⊢
      rcases result with ⟨answer, compound, selecting⟩
      cases answer with
      | error cause => exact select
      | ok nothing => exact chain.trans select (chain.begun _ _ _ _)
  | take index segment done count =>
      exact chain.takeChunk observer index segment done count standing

theorem Chain.followAll
    (chain : Chain relation) (observer : Observer Event Memory)
    (orders : List Order) (standing : Standing setting size Memory) :
    relation standing.state (Order.followAll observer orders standing).trace
      (Order.followAll observer orders standing).standing.state := by
  induction orders generalizing standing with
  | nil => exact chain.refl standing.state
  | cons order orders induction =>
      rw [Order.followAll]
      have first := chain.follow observer order standing
      by_cases going : (order.follow observer standing).ended = none
      · rw [Stretch.andThen_of_not_ended going]
        exact chain.trans first (induction _)
      · rw [Stretch.andThen_of_ended going]
        exact first

/-- Whatever selections and steps have one after another, a run has. -/
theorem Chain.run
    (chain : Chain relation) (schedule : Schedule)
    (observer : Observer Event Memory) (memory : Memory)
    (compound : Compound setting size) (contexts : Contexts setting size) :
    relation (compound, contexts)
      (schedule.run observer memory compound contexts).trace
      (schedule.run observer memory compound contexts).standing.state := by
  rw [Schedule.run_eq]
  exact chain.followAll observer schedule.plan ⟨compound, contexts, memory, 0⟩

/-- To be quiet is such a relation. -/
theorem quietChain :
    Chain fun (before : Compound setting size × Contexts setting size)
        trace after => before.1.Quiet trace.journal after.1 where
  refl := fun state => Compound.Quiet.refl state.1
  trans := Compound.Quiet.trans
  select := fun compound contexts index => by
    rw [Compound.journal_select]
    exact Compound.quiet_select index compound
  step := fun compound contexts count =>
    Compound.quiet_step count contexts compound
  begun := fun state _ _ _ => Compound.Quiet.refl state.1
  stopped := fun state _ => Compound.Quiet.refl state.1

/-- A run is quiet. -/
theorem Schedule.quiet_run
    (schedule : Schedule) (observer : Observer Event Memory) (memory : Memory)
    (compound : Compound setting size) (contexts : Contexts setting size) :
    compound.Quiet
      (schedule.run observer memory compound contexts).trace.journal
      (schedule.run observer memory compound contexts).standing.compound :=
  quietChain.run schedule observer memory compound contexts

/-! ## Runs of tied compounds -/

/-- An order is quiet. -/
theorem Order.tied_follow
    (observer : Observer Event Memory) (order : Order)
    {standing : Standing setting size Memory} {context : Option (Fin size)}
    (tied : standing.compound.Tied context) :
    (order.follow observer standing).standing.compound.Tied context :=
  (quietChain.follow observer order standing).tied tied

/-- An order fails for no member's want of an attachment. -/
theorem Order.not_isUnbound_of_follow
    (observer : Observer Event Memory) {order : Order}
    {standing : Standing setting size Memory} {context : Option (Fin size)}
    (tied : standing.compound.Tied context)
    {segment index : Nat} {cause : Member.Failure}
    (failed :
      (order.follow observer standing).ended =
        some (.error ⟨segment, .member index cause⟩)) :
    ¬ cause.IsUnbound := by
  cases order with
  | enter place segment =>
      by_cases inside :
          segment.member.toNat < standing.compound.members.length
      · rw [Order.follow_enter_of_lt observer place inside] at failed
        cases failed
      · rw [Order.follow_enter_of_not_lt observer place inside] at failed
        cases failed
  | take place segment done count =>
      rw [Order.follow, Schedule.takeChunk] at failed
      cases answer :
          (standing.compound.step count standing.contexts).answer with
      | error other =>
          rw [answer] at failed
          cases failed
          exact tied.not_isUnbound_of_step answer
      | ok nothing =>
          rw [answer] at failed
          dsimp only at failed
          have moved :=
            (Compound.quiet_step count standing.contexts
              standing.compound).tied tied
          split at failed
          next other lacking =>
            cases failed
            exact moved.not_isUnbound_of_kineticEnergy lacking
          next energy reported =>
            split at failed <;> cases failed

theorem Order.not_isUnbound_of_followAll
    (observer : Observer Event Memory) {orders : List Order}
    {standing : Standing setting size Memory} {context : Option (Fin size)}
    (tied : standing.compound.Tied context)
    {segment index : Nat} {cause : Member.Failure}
    (failed :
      (Order.followAll observer orders standing).ended =
        some (.error ⟨segment, .member index cause⟩)) :
    ¬ cause.IsUnbound := by
  rcases Order.ended_of_followAll (·.compound.Tied context)
      (fun order _ => Order.tied_follow observer order) tied failed with
    ⟨order, halt, kept, stopped⟩
  exact Order.not_isUnbound_of_follow observer kept stopped

/-- A run with a tied compound fails for no member's want of an attachment. -/
theorem Schedule.not_isUnbound_of_run
    (schedule : Schedule) (observer : Observer Event Memory) (memory : Memory)
    {compound : Compound setting size} {context : Option (Fin size)}
    (tied : compound.Tied context) {contexts : Contexts setting size}
    {segment index : Nat} {cause : Member.Failure}
    (failed :
      (schedule.run observer memory compound contexts).answer =
        .error ⟨segment, .member index cause⟩) :
    ¬ cause.IsUnbound := by
  rw [Schedule.run_eq, Schedule.conclude] at failed
  dsimp only at failed
  cases ended :
      (Order.followAll observer schedule.plan
        ⟨compound, contexts, memory, 0⟩).ended with
  | none =>
      rw [ended] at failed
      cases failed
  | some answer =>
      rw [ended] at failed
      cases failed
      exact Order.not_isUnbound_of_followAll observer tied ended

end Stepping
