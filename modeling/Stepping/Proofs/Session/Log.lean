import Stepping.Proofs.Compound.Log
import Stepping.Proofs.Session.Identities

/-!
# Logs over whole sessions

The log of a compound goes from its beginning through all operations on it,
whatever their outcomes, to its end.  At every moment its records, read off the
lines, tell what the compound is like: nothing that changes its members' number,
the active member or the flag goes unrecorded, and nothing is recorded twice.
-/

namespace Stepping

variable {setting : Setting} {compounds size : Nat}

/-- The log of a compound after one more operation; that of a new one is empty. -/
def logged (home : Fin compounds) (lines : List String) :
    Operation setting compounds size × Report setting size → List String
  | (⟨target, .replace⟩, _) => if target = home then [] else lines
  | (⟨target, _⟩, report) =>
      if target = home then lines ++ report.trace.lines else lines

/-- The lines that the operations on a compound have written since it was put in its place. -/
def logOf (home : Fin compounds)
    (history : List (Operation setting compounds size × Report setting size)) :
    List String :=
  history.foldl (logged home) []

theorem logOf_append
    (home : Fin compounds)
    (history : List (Operation setting compounds size × Report setting size))
    (latest : Operation setting compounds size × Report setting size) :
    logOf home (history ++ [latest]) = logged home (logOf home history) latest := by
  rw [logOf, List.foldl_append]
  rfl

theorem logged_of_ne
    {home : Fin compounds} {operation : Operation setting compounds size}
    (other : operation.compound ≠ home) (lines : List String)
    (report : Report setting size) :
    logged home lines (operation, report) = lines := by
  rcases operation with ⟨target, request⟩
  have apart : target ≠ home := other
  cases request <;> simp [logged, apart]

theorem logged_of_stays
    {home : Fin compounds} {request : Request setting size}
    (stays : request ≠ .replace) (lines : List String)
    (report : Report setting size) :
    logged home lines (⟨home, request⟩, report) =
      lines ++ report.trace.lines := by
  cases request with
  | replace => exact (stays rfl).elim
  | _ => simp [logged]

/-- Whatever goes on with the members that there are is logged. -/
theorem logCourse :
    Course fun (before : Compound setting size × Contexts setting size) trace
        after => before.1.Logged trace after.1 where
  refl := fun state => .refl state.1
  trans := Compound.Logged.trans
  select := fun compound _ index => compound.logged_select index
  step := fun compound contexts count => compound.logged_step count contexts
  begun := fun state _ _ _ =>
    Compound.logged_of_unrecorded (by simp [Trace.ofNotice, Notice.record]) rfl
  stopped := fun state _ =>
    Compound.logged_of_unrecorded (by simp [Trace.ofNotice, Notice.record]) rfl
  adjust := fun _ _ => Compound.logged_put _ _ [] _
  change := fun _ _ => Compound.logged_put _ _ _ _
  move := fun _ _ => Compound.logged_put _ _ _ _
  bind := fun compound contexts context => compound.logged_bind context contexts
  release := fun compound _ => compound.logged_release

/-- Every request is logged, unless it replaces the compound. -/
theorem Request.logged_perform
    {request : Request setting size} (stays : request ≠ .replace)
    (scene : Scene setting size) :
    scene.compound.Logged (request.perform scene).trace
      (request.perform scene).scene.compound := by
  rcases request.goesOn_cases with
    ⟨draft, rfl⟩ | ⟨context, poke, rfl⟩ | rfl | goesOn
  · show scene.compound.Logged (scene.add draft).trace
      (scene.add draft).scene.compound
    rcases scene.add_cases draft with
      ⟨cause, -, equality⟩ | ⟨member, -, -, equality⟩ |
        ⟨member, -, -, equality⟩
    · rw [equality]
      exact .refl scene.compound
    · rw [equality]
      exact Compound.logged_of_unrecorded (by simp) rfl
    · rw [equality]
      refine Compound.logged_of_record rfl rfl ?_
      simp [Compound.outline, Outline.after]
  · exact .refl scene.compound
  · exact (stays rfl).elim
  · exact (logCourse.perform goesOn scene).1

namespace Scene

variable {α : Type} {scene : Scene setting size} {value : α → Value setting size}
  {result : Except Compound.Failure α × Compound setting size × Trace}

theorem answer_done_of_ok {answer : α} (succeeded : result.1 = .ok answer) :
    (scene.done value result).answer = .ok (value answer) := by
  rcases result with ⟨_, compound, trace⟩
  cases succeeded
  rfl

theorem answer_done_of_error
    {cause : Compound.Failure} (failed : result.1 = .error cause) :
    (scene.done value result).answer = .error (.compound cause) := by
  rcases result with ⟨_, compound, trace⟩
  cases failed
  rfl

end Scene

namespace World

/-- The log of every compound tells what it is like. -/
def Told
    (history : List (Operation setting compounds size × Report setting size))
    (world : World setting compounds size) : Prop :=
  ∀ home : Fin compounds,
    Outline.empty.Leads (recordsOf (logOf home history))
      (world.compounds.get home).outline

theorem told_start (contexts : Contexts setting size) :
    (start compounds contexts).Told [] := by
  intro home
  rw [compound_start]
  exact Outline.Leads.refl .empty

theorem Told.perform
    {history : List (Operation setting compounds size × Report setting size)}
    {world : World setting compounds size} (told : world.Told history)
    (operation : Operation setting compounds size) :
    (world.perform operation).1.Told
      (history ++ [(operation, (world.perform operation).2)]) := by
  intro home
  rw [logOf_append]
  by_cases other : operation.compound ≠ home
  · rw [compound_perform_of_ne world other, logged_of_ne other]
    exact told home
  · rcases operation with ⟨target, request⟩
    cases not_not.mp other
    rw [compound_perform]
    by_cases stays : request = .replace
    · subst stays
      rw [logged, if_pos rfl]
      exact Outline.Leads.refl .empty
    · rw [logged_of_stays stays, recordsOf_append]
      exact
        (told target).trans (Request.logged_perform stays (world.scene target))

theorem told_performAll
    (contexts : Contexts setting size)
    (operations : List (Operation setting compounds size)) :
    let session := (start compounds contexts).performAll operations
    session.1.Told (operations.zip session.2) :=
  keeps_performAll (fun history world => world.Told history)
    (fun operation _ _ _ told => told.perform operation)
    [] (told_start contexts)

/--
The log of a compound replays its state.  After any operations, whatever their
outcomes, the records in its lines, read from the beginning on, tell how many
members it has, which one is active and whether it is bound; so they do when the
compound has come to its end.  Each record says what was so when it was written:
an addition the next index, a switch the active member and another one, a bind
the number of members and that they were not bound, and a release that they
were.  So the indices added are all numbers in order, and binds and releases
alternate, a bind first.  And a bind fails just if it warns of a refusal, which
names the member that it fails by, and as many members as it has released.
-/
theorem log_of_performAll
    (contexts : Contexts setting size)
    (operations : List (Operation setting compounds size))
    (home : Fin compounds) :
    let session := (start compounds contexts).performAll operations
    let compound := session.1.compounds.get home
    let parting := (session.1.perform ⟨home, .replace⟩).2.trace
    let records := recordsOf (logOf home (operations.zip session.2))
    let ended := records ++ recordsOf parting.lines
    records.foldl Outline.after .empty =
        ⟨compound.members.length, compound.active, compound.bound⟩ ∧
    ended.foldl Outline.after .empty =
        ⟨compound.members.length, compound.active, false⟩ ∧
    (∀ front record back, ended = front ++ record :: back →
      (front.foldl Outline.after .empty).Fits record) ∧
    ended.filterMap LogRecord.added? = List.range compound.members.length ∧
    List.IsChain (· ≠ ·) (false :: ended.filterMap LogRecord.flag?) ∧
    (∀ context,
      let report := (session.1.perform ⟨home, .bind context⟩).2
      let binding := recordsOf report.trace.lines
      (report.answer = .ok .nothing ∧
        ∀ index members, .refused index members ∉ binding) ∨
      ∃ place cause,
        report.answer = .error (.compound (.member place cause)) ∧
          ∀ index members,
            .refused index members ∈ binding ↔
              index = place ∧ members = place) := by
  intro session compound parting records ended
  have told : Outline.empty.Leads records compound.outline :=
    told_performAll contexts operations home
  have whole : Outline.empty.Leads ended compound.release.1.outline :=
    told.trans compound.logged_drop
  have state :
      compound.release.1.outline =
        ⟨compound.members.length, compound.active, false⟩ := by
    rw [Compound.outline, Compound.length_release, Compound.active_release,
      Compound.bound_release]
  rw [state] at whole
  refine ⟨told.foldl_eq, whole.foldl_eq, whole.fits, ?_, whole.flags_chain, ?_⟩
  · rcases whole.added_eq with ⟨added, number⟩
    have number :
        compound.members.length =
          0 + (ended.filterMap LogRecord.added?).length :=
      number
    rw [added, List.range_eq_range', number, Nat.zero_add]
    rfl
  · intro context report binding
    rcases Scene.bind_compound context (session.1.scene home) with
      ⟨-, noted, -⟩
    have lines :
        binding =
          recordsOf (compound.bind context session.1.contexts).2.2.lines :=
      congrArg (fun trace => recordsOf (Trace.lines trace)) noted
    rw [lines]
    rcases compound.refused_mem_bind_iff context session.1.contexts with
      ⟨succeeded, nothing⟩ | ⟨place, cause, failed, refusals⟩
    · exact .inl ⟨Scene.answer_done_of_ok succeeded, nothing⟩
    · exact
        .inr ⟨place, cause, Scene.answer_done_of_error failed, refusals⟩

end World

end Stepping
