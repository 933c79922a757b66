import Stepping.Proofs.Schedule.Obstacles

/-!
# Accounts of the steps taken

Commands take steps with the member that they have selected last, and events tell
how many steps have been taken in all.  The two accounts agree: each order that a
run has followed and that takes steps shows one event, which tells of just these
steps and of the member that took them.
-/

namespace Stepping

variable {setting : Setting} {size : Nat} {Memory : Type}

namespace Command

/-- The number of steps that commands take in all. -/
def total : List Command → Nat
  | [] => 0
  | .select _ :: commands => total commands
  | .step steps :: commands => steps.toNat + total commands

/-- The steps that commands take, each with the member that is active then. -/
def taken : (active : Nat) → List Command → List (Nat × Count)
  | _, [] => []
  | _, .select index :: commands => taken index commands
  | active, .step steps :: commands => (active, steps) :: taken active commands

theorem total_append (first second : List Command) :
    total (first ++ second) = total first + total second := by
  induction first with
  | nil => exact (Nat.zero_add (total second)).symm
  | cons command first induction =>
      cases command with
      | select index => exact induction
      | step steps =>
          rw [List.cons_append, total, total, induction, Nat.add_assoc]

end Command

/-- The commands for a segment take its steps, whatever the size of the chunks. -/
theorem Schedule.total_segmentCommands
    {chunk : Option Count} {segment : Segment}
    (positive : 0 < (chunk.getD segment.steps).toNat) :
    Command.total (segmentCommands chunk segment) = segment.steps.toNat := by
  let size := chunk.getD segment.steps
  have upTo (places : Nat) :
      Command.total
          ((List.range places).map fun place =>
            .step
              (.ofNat
                (min size.toNat (segment.steps.toNat - place * size.toNat)))) =
        min (places * size.toNat) segment.steps.toNat := by
    induction places with
    | zero => simp [Command.total]
    | succ places induction =>
        rw [List.range_succ, List.map_append, Command.total_append, induction,
          List.map_singleton, Command.total, Command.total,
          toNat_ofNat_of_le (Nat.min_le_left size.toNat _), Nat.succ_mul]
        omega
  exact (upTo _).trans (Nat.min_eq_right (le_chunkCount_mul positive))

/--
The steps that events tell of, each with the member that took them, so many
steps having been taken in all before.
-/
def Event.told : (before : Count) → List Event → List (Nat × Count)
  | _, [] => []
  | before, event :: events =>
      (event.member.toNat, event.totalSteps - before) ::
        told event.totalSteps events

namespace Order

/-- Events tell of the steps of the orders that were followed to their end. -/
theorem told_of_followAll
    {observer : Observer Event Memory} {orders : List Order}
    {standing : Standing setting size Memory}
    (aligned : Aligned standing.compound.active orders)
    (going : (followAll observer orders standing).ended = none) :
    Event.told standing.total (followAll observer orders standing).events =
      Command.taken standing.compound.active (orders.map command) := by
  induction orders generalizing standing with
  | nil => rfl
  | cons order orders induction =>
      rw [followAll] at going ⊢
      have first := Stretch.not_ended_of_andThen going
      rw [Stretch.andThen_of_not_ended first] at going ⊢
      have later := induction (aligned_follow aligned first) going
      cases order with
      | enter index segment =>
          have inside := lt_of_follow_enter first
          rw [follow_enter_of_lt observer index inside] at later ⊢
          dsimp only [Stretch.noting] at later ⊢
          rw [Compound.active_select inside] at later
          exact later
      | take index segment done count =>
          rcases Schedule.takeChunk_of_going first with
            ⟨energy, stepped, -, equality⟩
          rw [follow, equality] at later ⊢
          dsimp only at later ⊢
          rw [Compound.active_step stepped] at later
          have increase :
              standing.total + count - standing.total = count := by
            rw [UInt64.add_comm, UInt64.add_sub_cancel]
          rw [List.singleton_append, Event.told, later, increase, aligned.1]
          rfl

end Order

end Stepping
