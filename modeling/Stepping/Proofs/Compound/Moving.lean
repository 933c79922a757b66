import Stepping.Proofs.Compound.Faults
import Stepping.Proofs.Member.Updates
import Stepping.Schedule

/-!
# Compounds of dynamics

A bound compound whose members are dynamics steps by the update of its active
member, or cannot take steps at all; in that case it says so in the same way
whatever their number.  Segments of a schedule advance the systems by the updates
of their members, each applied as often as the segment has steps.
-/

namespace Stepping

variable {setting : Setting} {size : Nat}

namespace Compound

/-- All members are dynamics of one of the schemes. -/
def Moving (compound : Compound setting size) : Prop :=
  ∀ member ∈ compound.members,
    member.kind = .verlet ∨ member.kind = .langevin

theorem moving_iff {compound : Compound setting size} :
    compound.Moving ↔
      ∀ tag ∈ compound.tags, tag.kind = .verlet ∨ tag.kind = .langevin := by
  simp [Moving, tags, Member.tag]

theorem Quiet.moving
    {old new : Compound setting size} {journal : List Entry}
    (quiet : old.Quiet journal new) (moving : old.Moving) : new.Moving := by
  rw [moving_iff, quiet.tags_eq]
  exact moving_iff.mp moving

theorem Moving.active
    {compound : Compound setting size} (moving : compound.Moving)
    {index : Nat} {member : Member setting size}
    (found : compound.members[index]? = some member) :
    member.kind ≠ .idle := by
  intro idle
  rcases moving member (List.mem_of_getElem? found) with scheme | scheme <;>
    rw [idle] at scheme <;> cases scheme

theorem occupied_of_lt
    {compound : Compound setting size} {index : Nat}
    (inside : index < compound.members.length) :
    compound.members.isEmpty = false := by
  apply List.isEmpty_eq_false_iff.mpr
  rintro vacant
  rw [vacant] at inside
  cases inside

/-- A bound compound steps by the update of its active member, if that is sound. -/
theorem step_of_sound
    {compound : Compound .particles size} (bound : compound.bound = true)
    {member : Member .particles size}
    (found : compound.members[compound.active]? = some member)
    (sound : member.fault = none) (steps : Count)
    (contexts : Contexts .particles size) :
    ∃ trace,
      compound.step steps contexts =
        ⟨.ok (), compound.put compound.active (member.counted steps),
          member.update^[steps.toNat] contexts, trace⟩ := by
  have inside := (List.getElem?_eq_some_iff.mp found).1
  have occupied := occupied_of_lt inside
  have stepped := Member.step_of_sound sound steps contexts
  exact ⟨_, by simp only [step, occupied, bound, found, stepped]; rfl⟩

/-- A compound that cannot take steps says so in the same way, whatever their number. -/
theorem step_of_closed
    {compound : Compound setting size} (moving : compound.Moving)
    (inside : compound.active < compound.members.length)
    (closed :
      ¬ (compound.bound = true ∧
        compound.faults[compound.active]? = some none)) :
    ∃ cause, ∀ steps contexts,
      (compound.step steps contexts).answer = .error cause := by
  have found := List.getElem?_eq_getElem inside
  generalize compound.members[compound.active] = member at found
  have occupied := occupied_of_lt inside
  cases bound : compound.bound with
  | false =>
      refine ⟨.notBound, ?_⟩
      intro steps contexts
      simp [step, occupied, bound]
  | true =>
      cases lacking : member.fault with
      | none =>
          exact
            (closed ⟨bound, faults_eq_some_iff.mpr ⟨member, found, lacking⟩⟩).elim
      | some cause =>
          refine ⟨.member compound.active cause, ?_⟩
          intro steps contexts
          have failed : member.step steps contexts = .error cause :=
            (Member.step_eq_error_iff_fault steps contexts).mpr
              ⟨moving.active found, lacking⟩
          simp [step, occupied, bound, found, failed]

/-- What one step with the member at an index makes of the systems. -/
def update (compound : Compound .particles size) (index : Nat) :
    Contexts .particles size → Contexts .particles size :=
  match compound.members[index]? with
  | some member => member.update
  | none => id

/-- What segments make of the systems, each by the update of its member. -/
def advance (compound : Compound .particles size) (segments : List Segment)
    (contexts : Contexts .particles size) : Contexts .particles size :=
  segments.foldl
    (fun contexts segment =>
      (compound.update segment.member.toNat)^[segment.steps.toNat] contexts)
    contexts

theorem update_of_getElem?
    {compound : Compound .particles size} {index : Nat}
    {member : Member .particles size}
    (found : compound.members[index]? = some member) :
    compound.update index = member.update := by
  rw [update, found]

theorem update_congr
    {first second : Compound .particles size}
    (same :
      second.members.map Member.update = first.members.map Member.update) :
    second.update = first.update := by
  funext index
  have here := congrArg (·[index]?) same
  simp only [List.getElem?_map] at here
  rw [update, update]
  cases left : first.members[index]? <;>
    cases right : second.members[index]? <;>
    simp_all

theorem advance_congr
    {first second : Compound .particles size}
    (same : second.update = first.update) :
    second.advance = first.advance := by
  funext segments contexts
  rw [advance, advance, same]

end Compound

end Stepping
