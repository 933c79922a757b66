import Stepping.Proofs.Session.Requests

/-!
# Attachments over whole sessions

In an orderly session every compound is tied, at every moment, to the context of
its most recent bind that succeeded, or to none if it is not bound.  The history
of a session pairs each operation with its report, so the most recent bind can
be read off it.

It follows that the members of a bound compound never say that they are not
attached, and that those of a compound that is not bound always do.
-/

namespace Stepping

variable {setting : Setting} {compounds size : Nat}

/--
What an entry of a history settles about the context that a compound was last
bound to: a bind that succeeds gives one, and a compound that has just been put
in its place has had none.
-/
def boundTo (compound : Fin compounds) :
    Operation setting compounds size × Report setting size →
      Option (Option (Fin size))
  | (⟨target, .bind context⟩, report) =>
      if target = compound ∧ report.answer.isOk then some (some context) else none
  | (⟨target, .replace⟩, _) => if target = compound then some none else none
  | _ => none

/-- The context of a compound's most recent bind that succeeded, if there was one. -/
def lastBound (compound : Fin compounds)
    (history : List (Operation setting compounds size × Report setting size)) :
    Option (Fin size) :=
  (history.filterMap (boundTo compound)).getLast?.join

/-- The latest of what entries settle is what the last entry settles, if it settles anything. -/
theorem getLast?_join_append {Entry Settled : Type}
    (settles : Entry → Option (Option Settled)) (history : List Entry)
    (latest : Entry) :
    ((history ++ [latest]).filterMap settles).getLast?.join =
      (settles latest).getD (history.filterMap settles).getLast?.join := by
  rw [List.filterMap_append, List.getLast?_append]
  cases settled : settles latest <;> simp [settled]

theorem lastBound_append
    (compound : Fin compounds)
    (history : List (Operation setting compounds size × Report setting size))
    (latest : Operation setting compounds size × Report setting size) :
    lastBound compound (history ++ [latest]) =
      (boundTo compound latest).getD (lastBound compound history) :=
  getLast?_join_append (boundTo compound) history latest

theorem boundTo_of_other
    {compound : Fin compounds} {operation : Operation setting compounds size}
    (other : operation.compound ≠ compound) (report : Report setting size) :
    boundTo compound (operation, report) = none := by
  rcases operation with ⟨target, request⟩
  cases request with
  | bind context => exact if_neg fun both => other both.1
  | replace => exact if_neg other
  | _ => rfl

/-- What a request ties its compound to was given to it, or was so before. -/
theorem lastBound_of_tieAfter
    {operation : Operation setting compounds size}
    {report : Report setting size} {old : Option (Fin size)}
    {history : List (Operation setting compounds size × Report setting size)}
    (before :
      ∀ context, old = some context →
        lastBound operation.compound history = some context)
    {context : Fin size}
    (tied :
      operation.request.tieAfter old report.answer.isOk = some context) :
    lastBound operation.compound (history ++ [(operation, report)]) =
      some context := by
  rw [lastBound_append]
  rcases operation with ⟨target, request⟩
  cases request with
  | bind given =>
      cases success : report.answer.isOk with
      | false => simp [Request.tieAfter, success] at tied
      | true =>
          simp only [Request.tieAfter, success, if_true] at tied
          simp [boundTo, success, tied]
  | release => cases tied
  | replace => cases tied
  | _ => exact before context tied

/-- A compound that is tied to the most recent context, if to any, is tied as its flag says. -/
theorem Compound.Tied.of_lastBound
    {compound : Compound setting size} {tie last : Option (Fin size)}
    (tied : compound.Tied tie)
    (latest : ∀ context, tie = some context → last = some context) :
    compound.Tied (if compound.bound then last else none) := by
  cases tie with
  | none =>
      rw [tied.bound_eq]
      exact tied
  | some context =>
      rw [tied.bound_eq, latest context rfl]
      exact tied

namespace World

/--
What each operation keeps, together with the entry that it adds to the history,
all of them keep.
-/
theorem keeps_performAll
    (holds :
      List (Operation setting compounds size × Report setting size) →
        World setting compounds size → Prop)
    {operations : List (Operation setting compounds size)}
    (keeps :
      ∀ operation ∈ operations, ∀ history world, holds history world →
        holds (history ++ [(operation, (world.perform operation).2)])
          (world.perform operation).1)
    (history : List (Operation setting compounds size × Report setting size))
    {world : World setting compounds size} (held : holds history world) :
    holds (history ++ operations.zip (world.performAll operations).2)
      (world.performAll operations).1 := by
  induction operations generalizing history world with
  | nil => simpa [World.performAll] using held
  | cons operation operations induction =>
      have first := keeps operation List.mem_cons_self history world held
      have later :=
        induction
          (fun next member => keeps next (List.mem_cons_of_mem _ member)) _ first
      rw [List.append_assoc] at later
      exact later

/-- What each operation keeps of a world, all of them keep. -/
theorem holds_performAll
    (holds : World setting compounds size → Prop)
    {operations : List (Operation setting compounds size)}
    (keeps :
      ∀ operation ∈ operations, ∀ world, holds world →
        holds (world.perform operation).1)
    {world : World setting compounds size} (held : holds world) :
    holds (world.performAll operations).1 :=
  keeps_performAll (fun _ => holds)
    (fun operation member _ => keeps operation member) [] held

/-- Every compound is tied to the context of its most recent bind, or to none. -/
def Tied
    (history : List (Operation setting compounds size × Report setting size))
    (world : World setting compounds size) : Prop :=
  ∀ compound : Fin compounds,
    (world.compounds.get compound).Tied
      (if (world.compounds.get compound).bound then lastBound compound history
        else none)

theorem compound_start
    (contexts : Contexts setting size) (compound : Fin compounds) :
    (start compounds contexts).compounds.get compound = .empty := by
  show (Vector.replicate compounds Compound.empty)[compound.val] = _
  simp

theorem tied_start (contexts : Contexts setting size) :
    (start compounds contexts).Tied [] := by
  intro compound
  rw [compound_start]
  exact Compound.tied_empty

theorem compound_perform_self
    (world : World setting compounds size)
    (operation : Operation setting compounds size) :
    (world.perform operation).1.compounds.get operation.compound =
      (world.perform operation).2.compound := by
  show (world.perform operation).1.compounds[operation.compound.val] = _
  simp [perform]

theorem compound_perform_of_ne
    (world : World setting compounds size)
    {operation : Operation setting compounds size} {compound : Fin compounds}
    (other : operation.compound ≠ compound) :
    (world.perform operation).1.compounds.get compound =
      world.compounds.get compound := by
  have apart : operation.compound.val ≠ compound.val :=
    fun same => other (Fin.ext same)
  show (world.perform operation).1.compounds[compound.val] =
    world.compounds[compound.val]
  simp [perform, apart]

/-- One orderly operation keeps all ties. -/
theorem Tied.perform
    {history : List (Operation setting compounds size × Report setting size)}
    {world : World setting compounds size} (tied : world.Tied history)
    {operation : Operation setting compounds size}
    (orderly : operation.request.Orderly) :
    (world.perform operation).1.Tied
      (history ++ [(operation, (world.perform operation).2)]) := by
  intro compound
  by_cases same : operation.compound = compound
  · subst same
    rw [compound_perform_self]
    let scene : Scene setting size :=
      ⟨world.compounds.get operation.compound, world.contexts, world.made⟩
    have before : scene.compound.Tied _ := tied operation.compound
    have after := Request.tied_perform orderly before
    apply after.of_lastBound
    intro context tie
    refine lastBound_of_tieAfter ?_ tie
    intro earlier held
    split_ifs at held
    exact held
  · rw [compound_perform_of_ne world same, lastBound_append,
      boundTo_of_other same, Option.getD_none]
    exact tied compound

/-- Orderly operations in any number keep all ties. -/
theorem Tied.performAll
    {operations : List (Operation setting compounds size)}
    (orderly : ∀ operation ∈ operations, operation.request.Orderly)
    {history : List (Operation setting compounds size × Report setting size)}
    {world : World setting compounds size} (tied : world.Tied history) :
    (world.performAll operations).1.Tied
      (history ++ operations.zip (world.performAll operations).2) :=
  keeps_performAll (fun history world => world.Tied history)
    (fun operation member _ _ tied => tied.perform (orderly operation member))
    history tied

/-- The member at an index, asked past its compound, takes steps or says why it does not. -/
theorem answer_stepMember
    (world : World setting compounds size) {compound : Fin compounds}
    {index : Nat} {member : Member setting size}
    (found : (world.compounds.get compound).members[index]? = some member)
    {steps : Count} {cause : Member.Failure}
    (failed : member.step steps world.contexts = .error cause) :
    (world.perform ⟨compound, .stepMember index steps⟩).2.answer =
      .error (.member cause) := by
  simp [perform, Request.perform, Scene.withMember, Compound.member, found,
    Scene.stepMember, failed, Scene.tell]

/--
After any orderly operations on compounds that share contexts, the members of a
bound compound that can be attached are attached to the context of its most
recent successful bind, and the members of a compound that is not bound to none.
No member makes a step, a kinetic energy or a run of its compound fail by saying
that it is not attached; asked past a compound that is not bound, each does.
-/
theorem attachments_of_performAll
    (contexts : Contexts setting size)
    (operations : List (Operation setting compounds size))
    (orderly : ∀ operation ∈ operations, operation.request.Orderly)
    (index : Fin compounds) :
    let session := (start compounds contexts).performAll operations
    let world := session.1
    let compound := world.compounds.get index
    (compound.bound = true →
      ∃ context,
        lastBound index (operations.zip session.2) = some context ∧
          ∀ member ∈ compound.members, member.kind ≠ .idle →
            member.attachment = some context) ∧
    (compound.bound = false →
      ∀ member ∈ compound.members, member.attachment = none) ∧
    (∀ steps place cause,
      (compound.step steps world.contexts).answer =
        .error (.member place cause) → ¬ cause.IsUnbound) ∧
    (∀ place cause,
      compound.kineticEnergy world.contexts =
        .error (.member place cause) → ¬ cause.IsUnbound) ∧
    (∀ (schedule : Schedule) (Memory : Type)
        (observer : Observer Event Memory) memory segment place cause,
      (schedule.run observer memory compound world.contexts).answer =
        .error ⟨segment, .member place cause⟩ → ¬ cause.IsUnbound) ∧
    (compound.bound = false →
      ∀ place member steps, compound.members[place]? = some member →
        member.kind ≠ .idle →
          ∃ cause, cause.IsUnbound ∧
            (world.perform ⟨index, .stepMember place steps⟩).2.answer =
              .error (.member cause)) := by
  intro session world compound
  have tied :
      compound.Tied
        (if compound.bound then lastBound index (operations.zip session.2)
          else none) :=
    (tied_start contexts).performAll orderly index
  refine ⟨?_, ?_, ?_, ?_, ?_, ?_⟩
  · intro bound
    rw [bound] at tied
    have held := tied.bound_eq
    rw [bound] at held
    rcases Option.isSome_iff_exists.mp held.symm with ⟨context, latest⟩
    refine ⟨context, latest, ?_⟩
    intro member found active
    have attached :=
      tied.attachment_eq member.tag (List.mem_map_of_mem found) active
    exact attached.trans latest
  · intro unbound
    rw [unbound] at tied
    intro member found
    exact tied.free member.tag (List.mem_map_of_mem found)
  · intro steps place cause failed
    exact tied.not_isUnbound_of_step failed
  · intro place cause failed
    exact tied.not_isUnbound_of_kineticEnergy failed
  · intro schedule Memory observer memory segment place cause failed
    exact schedule.not_isUnbound_of_run observer memory tied failed
  · intro unbound place member steps found active
    rw [unbound] at tied
    have free : member.attachment = none :=
      tied.attachment_of_getElem? found active
    rcases (Member.step_isUnbound_iff active steps world.contexts).mpr free with
      ⟨cause, failed, complains⟩
    exact ⟨cause, complains, world.answer_stepMember found failed⟩

/-- Two compounds, of which one is bound and the other has failed to be bound again. -/
theorem attachments_of_failed_rebind :
    let operations : List (Operation .clock 2 2) :=
      [⟨0, .add (.recorder { name := "first" })⟩,
        ⟨0, .add (.recorder { name := "second" })⟩,
        ⟨1, .add (.recorder { name := "third" })⟩,
        ⟨0, .bind 0⟩,
        ⟨1, .bind 1⟩,
        ⟨0, .change 1 (.recorder [.refuseBind true])⟩,
        ⟨0, .bind 1⟩]
    let session := (start 2 #v[0.0, 0.0]).performAll operations
    ((session.1.compounds.get 0).bound = false ∧
      ∀ member ∈ (session.1.compounds.get 0).members, member.attachment = none) ∧
    ((session.1.compounds.get 1).bound = true ∧
      ∃ context,
        lastBound 1 (operations.zip session.2) = some context ∧
          ∀ member ∈ (session.1.compounds.get 1).members, member.kind ≠ .idle →
            member.attachment = some context) := by
  intro operations session
  have orderly : ∀ operation ∈ operations, operation.request.Orderly := by
    simp [operations, Request.Orderly, Changes.OfParameters,
      RecorderChange.OfParameter]
  have unbound : (session.1.compounds.get 0).bound = false := rfl
  have bound : (session.1.compounds.get 1).bound = true := rfl
  have first := attachments_of_performAll #v[0.0, 0.0] operations orderly 0
  have second := attachments_of_performAll #v[0.0, 0.0] operations orderly 1
  exact ⟨⟨unbound, first.2.1 unbound⟩, bound, second.1 bound⟩

end World

end Stepping
