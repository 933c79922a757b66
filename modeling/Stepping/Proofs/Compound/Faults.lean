import Stepping.Proofs.Compound.Ties
import Stepping.Proofs.Member.Faults

/-!
# Faults of a compound's members

Selecting members and taking steps with them change neither the number of members
nor their faults nor whether the compound is bound.  A step with an active member
that is there fails for want of a binding or by that member; once it has been
taken, only the member is to blame if no energy is reported.  So a bound compound
steps and reports an energy just if its active member has no fault.
-/

namespace Stepping

variable {setting : Setting} {size : Nat}

namespace Compound

/-- The faults of the members, in order. -/
def faults (compound : Compound setting size) : List (Option Member.Failure) :=
  compound.members.map Member.fault

theorem faults_eq_some_iff
    {compound : Compound setting size} {index : Nat}
    {fault : Option Member.Failure} :
    compound.faults[index]? = some fault ↔
      ∃ member, compound.members[index]? = some member ∧
        member.fault = fault := by
  rw [faults, List.getElem?_map, Option.map_eq_some_iff]

/-- A compound is bound just as another, and its members have the faults of the other's. -/
structure Alike (first second : Compound setting size) : Prop where
  bound_eq : second.bound = first.bound
  faults_eq : second.faults = first.faults

theorem Alike.length_eq
    {first second : Compound setting size} (alike : first.Alike second) :
    second.members.length = first.members.length := by
  simpa [faults] using congrArg List.length alike.faults_eq

theorem Alike.trans
    {first second third : Compound setting size}
    (left : first.Alike second) (right : second.Alike third) :
    first.Alike third where
  bound_eq := right.bound_eq.trans left.bound_eq
  faults_eq := right.faults_eq.trans left.faults_eq

theorem alike_select (index : Nat) (compound : Compound setting size) :
    compound.Alike (compound.select index).2.1 := by
  rw [select]
  split_ifs <;> exact ⟨rfl, rfl⟩

theorem alike_step
    (steps : Count) (contexts : Contexts setting size)
    (compound : Compound setting size) :
    compound.Alike (compound.step steps contexts).compound := by
  cases answer : (compound.step steps contexts).answer with
  | error cause =>
      rw [(step_of_error answer).1]
      exact ⟨rfl, rfl⟩
  | ok nothing =>
      rcases step_of_ok answer with
        ⟨-, member, moved, after, found, stepped, equality⟩
      rw [equality]
      exact
        ⟨rfl,
          map_members_put Member.fault found (Member.fault_of_step stepped)⟩

/-! ## Failures of the active member -/

/-- A step with a member that is there fails for want of a binding, or by the member. -/
theorem step_of_error_of_lt
    {compound : Compound setting size} {steps : Count}
    {contexts : Contexts setting size} {cause : Failure}
    (inside : compound.active < compound.members.length)
    (failed : (compound.step steps contexts).answer = .error cause) :
    (compound.bound = false ∧ cause = .notBound) ∨
      ∃ member inner,
        compound.bound = true ∧
          compound.members[compound.active]? = some member ∧
          member.step steps contexts = .error inner ∧
          cause = .member compound.active inner := by
  have blamed := (step_of_error failed).2.2.2
  have found := List.getElem?_eq_getElem inside
  rw [step] at failed
  split_ifs at failed with vacant unbound
  · rw [List.isEmpty_iff.mp vacant] at inside
    cases inside
  · cases failed
    exact .inl ⟨by simpa using unbound, rfl⟩
  · rw [found] at failed
    dsimp only at failed
    split at failed
    next inner lacking =>
      cases failed
      rcases blamed _ _ rfl with ⟨bound, -, member, there, refused⟩
      exact .inr ⟨member, inner, bound, there, refused, rfl⟩
    next => cases failed

/-- After a step of its own, only the active member is to blame for the lack of an energy. -/
theorem kineticEnergy_of_error_of_step
    {compound : Compound setting size} {steps : Count}
    {contexts : Contexts setting size} {cause : Failure}
    (stepped : (compound.step steps contexts).answer = .ok ())
    (failed :
      (compound.step steps contexts).compound.kineticEnergy
          (compound.step steps contexts).contexts =
        .error cause) :
    ∃ member moved inner,
      compound.members[compound.active]? = some member ∧
        member.step steps contexts =
          .ok (moved, (compound.step steps contexts).contexts) ∧
        (compound.step steps contexts).compound.members[compound.active]? =
          some moved ∧
        moved.kineticEnergy (compound.step steps contexts).contexts =
          .error inner ∧
        cause = .member compound.active inner := by
  rcases step_of_ok stepped with
    ⟨bound, member, moved, after, found, advanced, equality⟩
  rw [equality] at failed ⊢
  have inside := (List.getElem?_eq_some_iff.mp found).1
  have present :
      (compound.put compound.active moved).members[compound.active]? =
        some moved := by
    simp [put, inside]
  have bound : (compound.put compound.active moved).bound = true := bound
  rw [kineticEnergy_of_bound bound, activeMember_eq_ok_iff.mpr present] at failed
  rcases blameActive_eq_error_iff.mp failed with ⟨inner, lacking, rfl⟩
  exact ⟨member, moved, inner, found, advanced, present, lacking, rfl⟩

/-- Only idle members take steps and report no energy afterwards. -/
theorem exists_idle_of_mute
    {compound : Compound setting size} {steps : Count}
    {contexts : Contexts setting size} {cause : Failure}
    (stepped : (compound.step steps contexts).answer = .ok ())
    (mute :
      (compound.step steps contexts).compound.kineticEnergy
          (compound.step steps contexts).contexts =
        .error cause) :
    ∃ member ∈ compound.members, member.kind = .idle := by
  rcases kineticEnergy_of_error_of_step stepped mute with
    ⟨member, moved, inner, found, advanced, -, lacking, -⟩
  by_cases idle : member.kind = .idle
  · exact ⟨member, List.mem_of_getElem? found, idle⟩
  · rw [Member.kineticEnergy_eq_error_iff_fault, Member.fault_of_step advanced,
      Member.fault_eq_none_of_step idle advanced] at lacking
    cases lacking

/--
A compound takes steps and then reports an energy just if it is bound and its
active member has no fault.
-/
theorem exists_energy_iff
    {compound : Compound setting size} {steps : Count}
    {contexts : Contexts setting size} :
    ((compound.step steps contexts).answer = .ok () ∧
        ∃ energy,
          (compound.step steps contexts).compound.kineticEnergy
              (compound.step steps contexts).contexts =
            .ok energy) ↔
      compound.bound = true ∧
        compound.faults[compound.active]? = some none := by
  constructor
  · rintro ⟨stepped, energy, reported⟩
    rcases kineticEnergy_eq_ok_iff.mp reported with
      ⟨bound, member, found, told⟩
    have alike := alike_step steps contexts compound
    rw [← alike.bound_eq, ← alike.faults_eq, faults_eq_some_iff]
    rw [active_step stepped] at found
    refine ⟨bound, member, found, ?_⟩
    cases lacking : member.fault with
    | none => rfl
    | some cause =>
        rw [(Member.kineticEnergy_eq_error_iff_fault _).mpr lacking] at told
        cases told
  · rintro ⟨bound, sound⟩
    rcases faults_eq_some_iff.mp sound with ⟨member, found, whole⟩
    have inside := (List.getElem?_eq_some_iff.mp found).1
    cases stepped : (compound.step steps contexts).answer with
    | error cause =>
        rcases step_of_error_of_lt inside stepped with
          ⟨unbound, -⟩ | ⟨other, inner, -, there, failed, -⟩
        · rw [bound] at unbound
          cases unbound
        · cases found.symm.trans there
          rw [Member.step_eq_error_iff_fault, whole] at failed
          cases failed.2
    | ok nothing =>
        refine ⟨rfl, ?_⟩
        cases reported :
            (compound.step steps contexts).compound.kineticEnergy
              (compound.step steps contexts).contexts with
        | error cause =>
            rcases kineticEnergy_of_error_of_step stepped reported with
              ⟨other, moved, inner, there, advanced, -, failed, -⟩
            cases found.symm.trans there
            rw [Member.kineticEnergy_eq_error_iff_fault,
              Member.fault_of_step advanced, whole] at failed
            cases failed
        | ok energy => exact ⟨energy, rfl⟩

/-- Idle members are told by their fault, so alike compounds both have some or none. -/
theorem Alike.exists_idle_iff
    {first second : Compound setting size} (alike : first.Alike second) :
    (∃ member ∈ second.members, member.kind = .idle) ↔
      ∃ member ∈ first.members, member.kind = .idle := by
  have told (compound : Compound setting size) :
      (∃ member ∈ compound.members, member.kind = .idle) ↔
        some .idle ∈ compound.faults := by
    simp only [faults, List.mem_map, Member.fault_eq_some_idle_iff]
  rw [told, told, alike.faults_eq]

end Compound

end Stepping
