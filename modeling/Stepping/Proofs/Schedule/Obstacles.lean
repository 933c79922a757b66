import Stepping.Proofs.Compound.Faults
import Stepping.Proofs.Schedule.Chain
import Stepping.Proofs.Schedule.Commands

/-!
# What stands in the way of a run

A run cannot begin a segment whose member is not there.  It cannot take steps
with a compound that is not bound, nor with a member that has a fault.  Apart
from what its observer asks for, nothing else stops a run, and all this can be
told from the start: selecting members and taking steps with them change neither
the number of members nor their faults nor whether the compound is bound.
-/

namespace Stepping

variable {setting : Setting} {size : Nat} {Memory : Type}

namespace Compound

/-- Selections and steps lead from a compound to one alike. -/
theorem alikeChain :
    Chain fun (before : Compound setting size × Contexts setting size) _ after =>
      before.1.Alike after.1 where
  refl := fun _ => ⟨rfl, rfl⟩
  trans := Alike.trans
  select := fun compound _ index => alike_select index compound
  step := fun compound contexts count => alike_step count contexts compound
  begun := fun _ _ _ _ => ⟨rfl, rfl⟩
  stopped := fun _ _ => ⟨rfl, rfl⟩

end Compound

namespace Order

/-- Nothing stands in the way of an order with a compound. -/
def Open (compound : Compound setting size) : Order → Prop
  | .enter _ segment => segment.member.toNat < compound.members.length
  | .take _ segment _ _ =>
      compound.bound = true ∧
        compound.faults[segment.member.toNat]? = some none

theorem open_iff_of_alike
    {first second : Compound setting size} (alike : first.Alike second)
    (order : Order) : order.Open second ↔ order.Open first := by
  cases order with
  | enter index segment => rw [Open, Open, alike.length_eq]
  | take index segment done count =>
      rw [Open, Open, alike.bound_eq, alike.faults_eq]

/-- Behind an order that was followed, orders to take steps come in the right place as before. -/
theorem aligned_follow
    {observer : Observer Event Memory} {order : Order} {orders : List Order}
    {standing : Standing setting size Memory}
    (aligned : Aligned standing.compound.active (order :: orders))
    (going : (order.follow observer standing).ended = none) :
    Aligned (order.follow observer standing).standing.compound.active orders := by
  cases order with
  | enter index segment =>
      have inside := lt_of_follow_enter going
      rw [follow_enter_of_lt observer index inside]
      show Aligned (standing.compound.select _).2.1.active orders
      rw [Compound.active_select inside]
      exact aligned
  | take index segment done count =>
      rcases Schedule.takeChunk_of_going going with ⟨energy, stepped, -, equality⟩
      rw [follow, equality]
      show Aligned (standing.compound.step _ _).compound.active orders
      rw [Compound.active_step stepped]
      exact aligned.2

/-- Orders that come in the right place do so when they are cut off. -/
theorem aligned_of_append
    {active : Nat} {first second : List Order}
    (aligned : Aligned active (first ++ second)) : Aligned active first := by
  induction first generalizing active with
  | nil => trivial
  | cons order first induction =>
      cases order with
      | enter index segment => exact induction aligned
      | take index segment done count => exact ⟨aligned.1, induction aligned.2⟩

theorem aligned_followAll
    {observer : Observer Event Memory} {first second : List Order}
    {standing : Standing setting size Memory}
    (aligned : Aligned standing.compound.active (first ++ second))
    (going : (followAll observer first standing).ended = none) :
    Aligned (followAll observer first standing).standing.compound.active
      second := by
  induction first generalizing standing with
  | nil => exact aligned
  | cons order first induction =>
      rw [followAll] at going ⊢
      have next := Stretch.not_ended_of_andThen going
      rw [Stretch.andThen_of_not_ended next] at going ⊢
      exact induction (aligned_follow aligned next) going

/-- Before an observer that asks for nothing, a run goes on by an order just if it can. -/
theorem follow_going_iff
    {observer : Observer Event Memory}
    (silence : ∀ memory event, (observer.observe memory event).2 = none)
    {order : Order} {orders : List Order}
    {standing : Standing setting size Memory}
    (aligned : Aligned standing.compound.active (order :: orders)) :
    (order.follow observer standing).ended = none ↔
      order.Open standing.compound := by
  cases order with
  | enter index segment =>
      by_cases inside :
          segment.member.toNat < standing.compound.members.length
      · rw [follow_enter_of_lt observer index inside]
        exact iff_of_true rfl inside
      · rw [follow_enter_of_not_lt observer index inside]
        exact iff_of_false (Option.some_ne_none _) inside
  | take index segment done count =>
      have active : segment.member.toNat = standing.compound.active := aligned.1
      rw [Open, active]
      constructor
      · intro going
        rcases Schedule.takeChunk_of_going going with
          ⟨energy, stepped, reported, -⟩
        exact Compound.exists_energy_iff.mp ⟨stepped, energy, reported⟩
      · intro ready
        rcases Compound.exists_energy_iff.mpr ready with
          ⟨stepped, energy, reported⟩
        rw [follow,
          Schedule.takeChunk_of_ok observer index segment done stepped reported,
          Stretch.showing]
        dsimp only
        rw [silence]

/-- Before an observer that asks for nothing, a run follows orders to their end just if it can. -/
theorem followAll_going_iff
    {observer : Observer Event Memory}
    (silence : ∀ memory event, (observer.observe memory event).2 = none)
    {orders : List Order} {standing : Standing setting size Memory}
    (aligned : Aligned standing.compound.active orders) :
    (followAll observer orders standing).ended = none ↔
      ∀ order ∈ orders, order.Open standing.compound := by
  induction orders generalizing standing with
  | nil => exact iff_of_true rfl (by simp)
  | cons order orders induction =>
      rw [followAll, List.forall_mem_cons]
      by_cases going : (order.follow observer standing).ended = none
      · have alike :=
          Compound.alikeChain.follow observer order standing
        rw [Stretch.andThen_of_not_ended going,
          induction (aligned_follow aligned going)]
        have first := (follow_going_iff silence aligned).mp going
        rw [and_iff_right first]
        exact
          forall₂_congr fun later _ => open_iff_of_alike alike later
      · rw [Stretch.andThen_of_ended going]
        apply iff_of_false going
        rintro ⟨first, -⟩
        exact going ((follow_going_iff silence aligned).mpr first)

/-- An observer that asks for nothing ends no run. -/
theorem not_ok_of_silence
    {observer : Observer Event Memory}
    (silence : ∀ memory event, (observer.observe memory event).2 = none)
    {orders : List Order} {standing : Standing setting size Memory}
    {ending : Schedule.Ending} :
    (followAll observer orders standing).ended ≠ some (.ok ending) := by
  intro ended
  rcases ended_of_followAll (fun _ => True) (fun _ _ _ => trivial) trivial
      ended with
    ⟨order, halt, -, ended⟩
  rcases asked_of_follow ended with ⟨-, asked, event, stop⟩
  rw [silence] at stop
  cases stop

/-- The order that ends a stretch, and the orders that were followed before it. -/
theorem split_of_followAll
    {observer : Observer Event Memory} {orders : List Order}
    {standing : Standing setting size Memory}
    {answer : Except Schedule.Failure Schedule.Ending}
    (ended : (followAll observer orders standing).ended = some answer) :
    ∃ done order rest,
      orders = done ++ order :: rest ∧
        (followAll observer done standing).ended = none ∧
        (order.follow observer (followAll observer done standing).standing).ended =
          some answer ∧
        followAll observer orders standing =
          (followAll observer done standing).andThen (order.follow observer) := by
  induction orders generalizing standing with
  | nil => cases ended
  | cons order orders induction =>
      rw [followAll] at ended ⊢
      by_cases going : (order.follow observer standing).ended = none
      · rw [Stretch.andThen_of_not_ended going] at ended
        rcases induction ended with
          ⟨done, latest, rest, split, gone, stopped, whole⟩
        refine ⟨order :: done, latest, rest, congrArg (order :: ·) split, ?_⟩
        rw [followAll, Stretch.andThen_assoc, Stretch.andThen_of_not_ended going,
          Stretch.andThen_of_not_ended going, Stretch.andThen_of_not_ended going,
          whole]
        exact ⟨gone, stopped, rfl⟩
      · rw [Stretch.andThen_of_ended going] at ended
        refine ⟨[], order, orders, rfl, rfl, ended, ?_⟩
        rw [Stretch.andThen_of_ended going]
        rfl

end Order

namespace Command

theorem map_andThen
    (answer : Except Compound.Failure (Passage setting size))
    (earlier later : Trace)
    (first second : List (Compound setting size × Contexts setting size)) :
    (answer.map (andThen later second)).map (andThen earlier first) =
      answer.map (andThen (earlier ++ later) (first ++ second)) := by
  cases answer with
  | error cause => rfl
  | ok passage =>
      simp only [Except.map, andThen, Trace.append_assoc, List.append_assoc]

/-- Commands that can be obeyed lead to where the commands behind them begin. -/
theorem obeyAll_append
    {first : List Command} {compound : Compound setting size}
    {contexts : Contexts setting size} {passage : Passage setting size}
    (obeyed : obeyAll first compound contexts = .ok passage)
    (second : List Command) :
    obeyAll (first ++ second) compound contexts =
      (obeyAll second passage.compound passage.contexts).map
        (andThen passage.trace passage.halts) := by
  induction first generalizing compound contexts passage with
  | nil =>
      cases obeyed
      show obeyAll second compound contexts = _
      cases obeyAll second compound contexts <;> rfl
  | cons command first induction =>
      cases command with
      | select index =>
          rw [List.cons_append, obeyAll]
          rw [obeyAll] at obeyed
          generalize compound.select index = outcome at obeyed ⊢
          rcases outcome with ⟨answer, selected, trace⟩
          cases answer with
          | error cause => cases obeyed
          | ok nothing =>
              dsimp only at obeyed ⊢
              cases further : obeyAll first selected contexts with
              | error cause =>
                  rw [further] at obeyed
                  cases obeyed
              | ok later =>
                  rw [further] at obeyed
                  cases obeyed
                  rw [induction further, map_andThen]
                  rfl
      | step steps =>
          rw [List.cons_append, obeyAll]
          rw [obeyAll] at obeyed
          generalize compound.step steps contexts = outcome at obeyed ⊢
          rcases outcome with ⟨answer, stepped, after, trace⟩
          cases answer with
          | error cause => cases obeyed
          | ok nothing =>
              dsimp only at obeyed ⊢
              cases further : obeyAll first stepped after with
              | error cause =>
                  rw [further] at obeyed
                  cases obeyed
              | ok later =>
                  rw [further] at obeyed
                  cases obeyed
                  rw [induction further, map_andThen]
                  rfl

end Command

end Stepping
