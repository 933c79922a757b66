import Stepping.Proofs.Compound.Faults
import Stepping.Proofs.Compound.Binding

/-!
# Which member is active

A compound always holds a number for its active member, also while it has no
members.  The number is the index of the last selection, and zero before the
first one, and it is below the number of members as soon as there are any: only
an index that is there can be selected, and members are never taken away.

Besides a selection no operation touches the number, and besides an addition
none changes how many members there are.  So the active member is always found,
and an operation on it answers that there is none only for want of members.
-/

namespace Stepping

variable {setting : Setting} {size : Nat}

namespace Compound

/-! ## Selections in order -/

/-- From one compound to another some members have been selected, in order. -/
structure Led (before : Compound setting size) (selections : List Nat)
    (after : Compound setting size) : Prop where
  length_eq : after.members.length = before.members.length
  active_eq : after.active = selections.getLast?.getD before.active
  inside : ∀ index ∈ selections, index < before.members.length

/-- Nobody has been selected where the number and the active member are the same. -/
theorem Led.of_still
    {before after : Compound setting size}
    (length_eq : after.members.length = before.members.length)
    (active_eq : after.active = before.active) : before.Led [] after where
  length_eq := length_eq
  active_eq := active_eq
  inside := fun _ none => (List.not_mem_nil none).elim

theorem Led.refl (compound : Compound setting size) : compound.Led [] compound :=
  .of_still rfl rfl

theorem Led.trans
    {first second third : Compound setting size} {earlier later : List Nat}
    (left : first.Led earlier second) (right : second.Led later third) :
    first.Led (earlier ++ later) third where
  length_eq := right.length_eq.trans left.length_eq
  active_eq := by
    rw [right.active_eq, left.active_eq, List.getLast?_append]
    cases later.getLast? <;> rfl
  inside := by
    intro index selected
    rcases List.mem_append.mp selected with early | late
    · exact left.inside index early
    · exact left.length_eq ▸ right.inside index late

theorem led_put
    (compound : Compound setting size) (index : Nat)
    (member : Member setting size) :
    compound.Led [] (compound.put index member) :=
  .of_still List.length_set rfl

theorem led_select
    {compound : Compound setting size} {index : Nat}
    (inside : index < compound.members.length) :
    compound.Led [index] (compound.select index).2.1 where
  length_eq := (alike_select index compound).length_eq
  active_eq := by simp [select, inside]
  inside := by
    intro other selected
    rw [List.mem_singleton.mp selected]
    exact inside

theorem select_of_not_lt
    {compound : Compound setting size} {index : Nat}
    (outside : ¬index < compound.members.length) :
    compound.select index =
      (.error (.indexOutOfRange index compound.members.length), compound,
        .none) := by
  rw [select, if_neg outside]

/-- Just the indices of members can be selected. -/
theorem select_eq_ok_iff {compound : Compound setting size} {index : Nat} :
    (compound.select index).1 = .ok () ↔ index < compound.members.length := by
  by_cases inside : index < compound.members.length
  · simp [select, inside]
  · simp [select_of_not_lt inside, inside]

theorem led_step
    (compound : Compound setting size) (steps : Count)
    (contexts : Contexts setting size) :
    compound.Led [] (compound.step steps contexts).compound := by
  cases answer : (compound.step steps contexts).answer with
  | error cause =>
      rw [(step_of_error answer).1]
      exact .refl compound
  | ok nothing =>
      rcases step_of_ok answer with ⟨-, member, moved, after, -, -, equality⟩
      rw [equality]
      exact compound.led_put compound.active moved

theorem led_adjust
    {compound changed : Compound setting size} {adjustment : Adjustment}
    (accepted : compound.adjust adjustment = .ok changed) :
    compound.Led [] changed := by
  rcases adjust_of_ok accepted with ⟨member, new, -, -, rfl⟩
  exact compound.led_put compound.active new

theorem led_release (compound : Compound setting size) :
    compound.Led [] compound.release.1 := by
  rw [release]
  split_ifs
  · exact .of_still (List.length_map _) rfl
  · exact .refl compound

/-- As many members are attached or left over as there are. -/
theorem length_attachAll
    (context : Fin size) (contexts : Contexts setting size)
    (members : List (Member setting size)) :
    (attachAll context contexts members).attached.length +
        (attachAll context contexts members).untouched.length =
      members.length := by
  rcases attachAll_front context contexts members with ⟨front, split, each⟩
  conv_rhs => rw [split, List.length_append, each.length_eq]

theorem led_bindFresh
    (context : Fin size) (contexts : Contexts setting size)
    (compound : Compound setting size) :
    compound.Led [] (compound.bindFresh context contexts).2.1 := by
  have length := length_attachAll context contexts compound.members
  rw [bindFresh]
  cases refusal : (attachAll context contexts compound.members).refusal with
  | none =>
      rw [untouched_of_refusal_none refusal] at length
      exact .of_still length rfl
  | some cause =>
      refine .of_still ?_ rfl
      show (List.map Member.detach _ ++ _).length = _
      rw [List.length_append, List.length_map]
      exact length

theorem led_bind
    (context : Fin size) (contexts : Contexts setting size)
    (compound : Compound setting size) :
    compound.Led [] (compound.bind context contexts).2.1 := by
  rw [bind]
  split_ifs
  · exact compound.led_release.trans (led_bindFresh context contexts _)
  · exact led_bindFresh context contexts compound

/-! ## The number of the active member -/

/-- The number of the active member is that of the last selection, and it is in range. -/
structure Points (last : Option Nat) (compound : Compound setting size) : Prop where
  active_eq : compound.active = last.getD 0
  inside : ∀ index, last = some index → index < compound.members.length

theorem points_empty : (empty : Compound setting size).Points none where
  active_eq := rfl
  inside := fun _ none => (Option.some_ne_none _ none.symm).elim

/-- Selections move the number to the last of them. -/
theorem Points.led
    {before after : Compound setting size} {last : Option Nat}
    (points : before.Points last) {selections : List Nat}
    (led : before.Led selections after) :
    after.Points (selections.getLast?.or last) where
  active_eq := by
    rw [led.active_eq, points.active_eq]
    cases selections.getLast? <;> rfl
  inside := by
    intro index selected
    rw [led.length_eq]
    rcases Option.or_eq_some_iff.mp selected with late | ⟨-, early⟩
    · exact led.inside index (List.mem_of_getLast? late)
    · exact points.inside index early

/-- A further member is not in the way of the number. -/
theorem Points.append
    {compound : Compound setting size} {last : Option Nat}
    (points : compound.Points last) (members : List (Member setting size)) :
    Points last { compound with members := compound.members ++ members } where
  active_eq := points.active_eq
  inside := by
    intro index selected
    rw [List.length_append]
    exact Nat.lt_add_right _ (points.inside index selected)

theorem Points.active_lt
    {compound : Compound setting size} {last : Option Nat}
    (points : compound.Points last) (occupied : compound.members ≠ []) :
    compound.active < compound.members.length := by
  rw [points.active_eq]
  cases last with
  | none => exact List.length_pos_iff.mpr occupied
  | some index => exact points.inside index rfl

/-- There is an active member as soon as there are members. -/
theorem Points.activeIndex_eq
    {compound : Compound setting size} {last : Option Nat}
    (points : compound.Points last) (occupied : compound.members ≠ []) :
    compound.activeIndex = some (last.getD 0) := by
  rw [activeIndex, if_neg (by simpa using occupied), points.active_eq]

theorem activeIndex_eq_none_iff {compound : Compound setting size} :
    compound.activeIndex = none ↔ compound.members = [] := by
  rw [activeIndex]
  cases compound.members <;> simp

/-! ## Compounds without members -/

/-- The active member is missing only for want of members. -/
theorem Points.activeMember_eq_empty_iff
    {compound : Compound setting size} {last : Option Nat}
    (points : compound.Points last) :
    compound.activeMember = .error .empty ↔ compound.members = [] := by
  constructor
  · intro missing
    by_contra occupied
    have found := List.getElem?_eq_getElem (points.active_lt occupied)
    rw [activeMember_eq_ok_iff.mpr found] at missing
    cases missing
  · intro none
    rw [activeMember, none]
    rfl

theorem blameActive_ne_empty {α : Type}
    {compound : Compound setting size} {answer : Except Member.Failure α} :
    compound.blameActive answer ≠ .error .empty := by
  cases answer <;> simp [blameActive]

/-- What goes on with the active member says that there is none only if that is so. -/
theorem Points.bind_eq_empty_iff {α : Type}
    {compound : Compound setting size} {last : Option Nat}
    (points : compound.Points last)
    {next : Member setting size → Except Failure α}
    (never : ∀ member, next member ≠ .error .empty) :
    compound.activeMember >>= next = .error .empty ↔ compound.members = [] := by
  rw [bind_eq_error_iff, ← points.activeMember_eq_empty_iff]
  constructor
  · rintro (missing | ⟨member, -, further⟩)
    · exact missing
    · exact (never member further).elim
  · exact .inl

/-- To answer that there is no active member, just when there are no members. -/
structure TellsEmpty (contexts : Contexts setting size)
    (compound : Compound setting size) : Prop where
  step :
    ∀ steps, (compound.step steps contexts).answer = .error .empty ↔
      compound.members = []
  kineticEnergy :
    compound.kineticEnergy contexts = .error .empty ↔ compound.members = []
  stepSize : compound.stepSize = .error .empty ↔ compound.members = []
  setStepSize :
    ∀ time, compound.setStepSize time = .error .empty ↔ compound.members = []
  tolerance : compound.tolerance = .error .empty ↔ compound.members = []
  setTolerance :
    ∀ value, compound.setTolerance value = .error .empty ↔
      compound.members = []

/-- A step of a compound with members fails for another reason, if it fails. -/
theorem Points.step_eq_empty_iff
    {compound : Compound setting size} {last : Option Nat}
    (points : compound.Points last) (steps : Count)
    (contexts : Contexts setting size) :
    (compound.step steps contexts).answer = .error .empty ↔
      compound.members = [] := by
  constructor
  · intro missing
    by_contra occupied
    rcases step_of_error_of_lt (points.active_lt occupied) missing with
      ⟨-, other⟩ | ⟨member, inner, -, -, -, other⟩
    · cases other
    · cases other
  · intro none
    rw [step, none]
    rfl

/-- An adjustment of a compound with members fails for another reason, if it fails. -/
theorem Points.adjust_eq_empty_iff
    {compound : Compound setting size} {last : Option Nat}
    (points : compound.Points last) (adjustment : Adjustment) :
    compound.adjust adjustment = .error .empty ↔ compound.members = [] := by
  apply points.bind_eq_empty_iff
  intro member refused
  rcases bind_eq_error_iff.mp refused with blamed | ⟨new, -, none⟩
  · exact blameActive_ne_empty blamed
  · cases none

/-- Whether or not it is bound, a compound tells that it has no members just if that is so. -/
theorem Points.tellsEmpty
    {compound : Compound setting size} {last : Option Nat}
    (points : compound.Points last) (contexts : Contexts setting size) :
    compound.TellsEmpty contexts where
  step := fun steps => points.step_eq_empty_iff steps contexts
  kineticEnergy := by
    cases bound : compound.bound with
    | false =>
        rw [kineticEnergy_of_not_bound bound]
        exact points.bind_eq_empty_iff fun member => by simp
    | true =>
        rw [kineticEnergy_of_bound bound]
        exact points.bind_eq_empty_iff fun member => blameActive_ne_empty
  stepSize := points.bind_eq_empty_iff fun member none => by cases none
  setStepSize := fun time => points.adjust_eq_empty_iff (.stepSize time)
  tolerance := points.bind_eq_empty_iff fun member none => by cases none
  setTolerance := fun value => points.adjust_eq_empty_iff (.tolerance value)

end Compound

end Stepping
