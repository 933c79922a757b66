import Stepping.Compound
import Stepping.Proofs.Member.Calls
import Mathlib.Tactic.SplitIfs

/-!
# What operations on the active member do

A compound hands steps, parameters and the question for the kinetic energy to
its active member.  The statements here say which member answered and what
became of it, or why there was no answer; the operations are not looked into
again after this.
-/

namespace Stepping.Compound

variable {setting : Setting} {size : Nat}

theorem activeMember_eq_ok_iff
    {compound : Compound setting size} {member : Member setting size} :
    compound.activeMember = .ok member ↔
      compound.members[compound.active]? = some member := by
  rw [activeMember]
  cases compound.members[compound.active]? <;> simp

theorem blameActive_eq_ok_iff {α : Type}
    {compound : Compound setting size}
    {answer : Except Member.Failure α} {value : α} :
    compound.blameActive answer = .ok value ↔ answer = .ok value := by
  cases answer <;> simp [blameActive]

theorem blameActive_eq_error_iff {α : Type}
    {compound : Compound setting size}
    {answer : Except Member.Failure α} {cause : Failure} :
    compound.blameActive answer = .error cause ↔
      ∃ inner, answer = .error inner ∧ cause = .member compound.active inner := by
  cases answer <;> simp [blameActive, eq_comm]

/-! ## Steps -/

/-- A step that succeeds is a step of the active member of a bound compound. -/
theorem step_of_ok
    {compound : Compound setting size} {steps : Count}
    {contexts : Contexts setting size}
    (succeeded : (compound.step steps contexts).answer = .ok ()) :
    compound.bound = true ∧
      ∃ member moved after,
        compound.members[compound.active]? = some member ∧
          member.step steps contexts = .ok (moved, after) ∧
          compound.step steps contexts =
            ⟨.ok (), compound.put compound.active moved, after,
              .ofNotice (.stepping compound.active steps) ++
                ⟨member.notes (.step steps), []⟩⟩ := by
  rw [step] at succeeded ⊢
  split_ifs at succeeded ⊢ with vacant unbound
  refine ⟨by simpa using unbound, ?_⟩
  cases found : compound.members[compound.active]? with
  | none => simp [found] at succeeded
  | some member =>
      cases stepped : member.step steps contexts with
      | error cause => simp [found, stepped] at succeeded
      | ok result =>
          rcases result with ⟨moved, after⟩
          exact ⟨member, moved, after, rfl, stepped, by simp [stepped]⟩

/--
A step that fails changes and notes nothing.  A member is to blame for it only
if the compound is bound and the member is the active one.
-/
theorem step_of_error
    {compound : Compound setting size} {steps : Count}
    {contexts : Contexts setting size} {cause : Failure}
    (failed : (compound.step steps contexts).answer = .error cause) :
    (compound.step steps contexts).compound = compound ∧
      (compound.step steps contexts).contexts = contexts ∧
      (compound.step steps contexts).trace.journal = [] ∧
      ∀ index inner, cause = .member index inner →
        compound.bound = true ∧ index = compound.active ∧
          ∃ member, compound.members[index]? = some member ∧
            member.step steps contexts = .error inner := by
  rw [step] at failed ⊢
  split_ifs at failed ⊢ with vacant unbound
  · cases failed
    simp [Trace.none]
  · cases failed
    simp [Trace.none]
  · cases found : compound.members[compound.active]? with
    | none =>
        simp only [found] at failed
        cases failed
        simp [Trace.ofNotice]
    | some member =>
        cases stepped : member.step steps contexts with
        | error inner =>
            simp only [found, stepped] at failed
            cases failed
            refine ⟨by simp [stepped], by simp [stepped],
              by simp [stepped, Trace.ofNotice], ?_⟩
            rintro index other ⟨⟩
            exact ⟨by simpa using unbound, rfl, member, found, stepped⟩
        | ok result =>
            rcases result with ⟨moved, after⟩
            simp only [found, stepped] at failed
            cases failed

theorem active_step
    {compound : Compound setting size} {steps : Count}
    {contexts : Contexts setting size}
    (stepped : (compound.step steps contexts).answer = .ok ()) :
    (compound.step steps contexts).compound.active = compound.active := by
  rcases step_of_ok stepped with ⟨-, member, moved, after, -, -, equality⟩
  rw [equality]
  rfl

theorem active_select
    {compound : Compound setting size} {index : Nat}
    (inside : index < compound.members.length) :
    (compound.select index).2.1.active = index := by
  simp [select, inside]

/-! ## Notices -/

/-- Of a selection a compound notes at most a switch. -/
theorem notices_select (index : Nat) (compound : Compound setting size) :
    (compound.select index).2.2.notices = [] ∨
      (compound.select index).2.2.notices =
        [.switched compound.active index] := by
  rw [select]
  split_ifs
  · exact .inl rfl
  · exact .inr rfl
  · exact .inl rfl

/-- Of a step it notes at most that it was tried. -/
theorem notices_step
    (steps : Count) (contexts : Contexts setting size)
    (compound : Compound setting size) :
    (compound.step steps contexts).trace.notices = [] ∨
      (compound.step steps contexts).trace.notices =
        [.stepping compound.active steps] := by
  rw [step]
  split_ifs
  · exact .inl rfl
  · exact .inl rfl
  · right
    dsimp only
    split
    · rfl
    · split <;> rfl

/-! ## Parameters -/

theorem adjust_of_ok
    {compound changed : Compound setting size} {adjustment : Adjustment}
    (accepted : compound.adjust adjustment = .ok changed) :
    ∃ member new,
      compound.members[compound.active]? = some member ∧
        member.adjust adjustment = .ok new ∧
        changed = compound.put compound.active new := by
  rcases bind_eq_ok_iff.mp accepted with ⟨member, present, accepted⟩
  rcases bind_eq_ok_iff.mp accepted with ⟨new, set, equality⟩
  exact
    ⟨member, new, activeMember_eq_ok_iff.mp present,
      blameActive_eq_ok_iff.mp set, (pure_eq_ok_iff.mp equality).symm⟩

/-! ## Kinetic energy -/

theorem kineticEnergy_of_bound
    {compound : Compound setting size} (bound : compound.bound = true)
    (contexts : Contexts setting size) :
    compound.kineticEnergy contexts =
      compound.activeMember >>= fun member =>
        compound.blameActive (member.kineticEnergy contexts) := by
  rw [kineticEnergy, bound]
  rfl

theorem kineticEnergy_of_not_bound
    {compound : Compound setting size} (unbound : compound.bound = false)
    (contexts : Contexts setting size) :
    compound.kineticEnergy contexts =
      compound.activeMember >>= fun _ => .error .notBound := by
  rw [kineticEnergy, unbound]
  rfl

theorem kineticEnergy_eq_ok_iff
    {compound : Compound setting size} {contexts : Contexts setting size}
    {energy : MolarEnergy} :
    compound.kineticEnergy contexts = .ok energy ↔
      compound.bound = true ∧
        ∃ member, compound.members[compound.active]? = some member ∧
          member.kineticEnergy contexts = .ok energy := by
  cases bound : compound.bound with
  | false => simp [kineticEnergy_of_not_bound bound, bind_eq_ok_iff]
  | true =>
      simp [kineticEnergy_of_bound bound, bind_eq_ok_iff,
        activeMember_eq_ok_iff, blameActive_eq_ok_iff]

/-- A member is to blame for the lack of an energy only in a bound compound. -/
theorem kineticEnergy_of_error
    {compound : Compound setting size} {contexts : Contexts setting size}
    {index : Nat} {inner : Member.Failure}
    (failed : compound.kineticEnergy contexts = .error (.member index inner)) :
    compound.bound = true ∧ index = compound.active ∧
      ∃ member, compound.members[index]? = some member ∧
        member.kineticEnergy contexts = .error inner := by
  have present :
      compound.activeMember ≠ .error (.member index inner) := by
    rw [activeMember]
    cases compound.members[compound.active]? <;> simp
  cases bound : compound.bound with
  | false =>
      simp [kineticEnergy_of_not_bound bound, bind_eq_error_iff, present] at failed
  | true =>
      rw [kineticEnergy_of_bound bound, bind_eq_error_iff] at failed
      rcases failed with absent | ⟨member, found, failed⟩
      · exact (present absent).elim
      · rcases blameActive_eq_error_iff.mp failed with ⟨_, failed, ⟨⟩⟩
        exact
          ⟨rfl, rfl, member, activeMember_eq_ok_iff.mp found, failed⟩

end Stepping.Compound
