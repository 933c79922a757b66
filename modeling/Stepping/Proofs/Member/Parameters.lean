import Stepping.Member.Draft
import Stepping.Proofs.Member.Identity
import Mathlib.Data.List.TakeWhile
import Mathlib.Tactic.SplitIfs

/-!
# Parameters of dynamics

Dynamics keep a step size and a tolerance, and Langevin dynamics a friction.  A
value that is offered for one of them is kept if it meets the condition of the
parameter; otherwise it is refused, the refusal carries it, and the dynamics stay
as they are.

A record lists the values that members have accepted, in order.  What a member
keeps of a parameter is the latest value that it has accepted for it.
-/

namespace Stepping

/-- The parameters that dynamics keep. -/
inductive Parameter where
  | stepSize
  | tolerance
  | friction
deriving DecidableEq

namespace Parameter

/-- The condition that the values of a parameter meet. -/
def Allows : Parameter → Float → Prop
  | .stepSize, value => value.isFinite = true ∧ 0.0 < value
  | .tolerance, value => value.isFinite = true ∧ 0.0 < value
  | .friction, value => value.isFinite = true ∧ 0.0 ≤ value

instance (parameter : Parameter) (value : Float) :
    Decidable (parameter.Allows value) := by
  cases parameter <;> exact inferInstanceAs (Decidable (_ ∧ _))

/-- The refusal of a value that is offered for a parameter. -/
def refusal : Parameter → Float → Dynamics.Failure
  | .stepSize => .invalidStepSize
  | .tolerance => .invalidTolerance
  | .friction => .invalidFriction

/-- The value, if the parameter may have it. -/
def checked (parameter : Parameter) (value : Float) :
    Except Dynamics.Failure Float :=
  if parameter.Allows value then .ok value else .error (parameter.refusal value)

/-- The standard tolerance may be one. -/
theorem allows_standardTolerance :
    tolerance.Allows Dynamics.standardTolerance := by
  decide +kernel

end Parameter

/-- The parameter that an adjustment is of. -/
def Adjustment.parameter : Adjustment → Parameter
  | .stepSize _ => .stepSize
  | .tolerance _ => .tolerance

namespace Dynamics

theorem positive_iff {value : Float} :
    positive value = true ↔ value.isFinite = true ∧ 0.0 < value := by
  rw [positive, Bool.and_eq_true, decide_eq_true_iff]

theorem nonNegative_iff {value : Float} :
    nonNegative value = true ↔ value.isFinite = true ∧ 0.0 ≤ value := by
  rw [nonNegative, Bool.and_eq_true, decide_eq_true_iff]

/-- A value is checked by the condition of its parameter. -/
theorem checkedBy_eq
    {value : Float} (condition : Float → Bool) (parameter : Parameter)
    (asked : condition value = true ↔ parameter.Allows value) :
    checkedBy condition parameter.refusal value = parameter.checked value :=
  if_congr asked rfl rfl

theorem checkedStepSize_eq (value : Float) :
    checkedStepSize value = Parameter.stepSize.checked value :=
  checkedBy_eq positive .stepSize positive_iff

theorem checkedTolerance_eq (value : Float) :
    checkedTolerance value = Parameter.tolerance.checked value :=
  checkedBy_eq positive .tolerance positive_iff

theorem checked_eq (adjustment : Adjustment) :
    checked adjustment = adjustment.parameter.checked adjustment.number := by
  cases adjustment with
  | stepSize time => exact checkedStepSize_eq time.picoseconds
  | tolerance value => exact checkedTolerance_eq value

theorem checkedFriction_eq (value : Float) :
    checkedFriction value = Parameter.friction.checked value :=
  checkedBy_eq nonNegative .friction nonNegative_iff

end Dynamics

/-! ## What has been accepted -/

/-- A value that a member has accepted for a parameter. -/
structure Acceptance where
  serial : Nat
  parameter : Parameter
  value : Float

namespace Acceptance

/-- The value, if it was accepted by the member with a number for a parameter. -/
def valueFor (serial : Nat) (parameter : Parameter) (accepted : Acceptance) :
    Option Float :=
  if accepted.serial = serial ∧ accepted.parameter = parameter then
    some accepted.value
  else none

/-- The value that the member with a number has accepted last for a parameter. -/
def latest (serial : Nat) (parameter : Parameter) (record : List Acceptance) :
    Option Float :=
  (record.filterMap (valueFor serial parameter)).getLast?

/-- What has been accepted later comes first. -/
theorem latest_append
    (serial : Nat) (parameter : Parameter) (earlier later : List Acceptance) :
    latest serial parameter (earlier ++ later) =
      (latest serial parameter later).or (latest serial parameter earlier) := by
  rw [latest, List.filterMap_append, List.getLast?_append]
  rfl

/-- What others have accepted does not matter. -/
theorem latest_of_ne
    {serial : Nat} {record : List Acceptance}
    (strange : ∀ accepted ∈ record, accepted.serial ≠ serial)
    (parameter : Parameter) : latest serial parameter record = none := by
  have nothing : record.filterMap (valueFor serial parameter) = [] := by
    rw [List.filterMap_eq_nil_iff]
    intro accepted listed
    exact if_neg fun own => strange accepted listed own.1
  rw [latest, nothing]
  rfl

theorem mem_of_latest
    {serial : Nat} {parameter : Parameter} {record : List Acceptance}
    {value : Float} (last : latest serial parameter record = some value) :
    ⟨serial, parameter, value⟩ ∈ record := by
  rcases List.mem_filterMap.mp (List.mem_of_getLast? last) with
    ⟨accepted, listed, told⟩
  rw [valueFor] at told
  split_ifs at told with own
  cases accepted
  rcases own with ⟨rfl, rfl⟩
  cases told
  exact listed

end Acceptance

/-! ## What members keep -/

namespace Member

variable {setting : Setting} {size : Nat}

/-- The value that a member keeps of a parameter, if it is one of dynamics that have it. -/
def kept : Parameter → Member setting size → Option Float
  | .stepSize, .dynamics _ member => some member.stepSize
  | .tolerance, .dynamics _ member => some member.tolerance
  | .friction, .dynamics (.langevin friction) _ => some friction
  | _, _ => none

/-- The member with another value of a parameter, if it is one of dynamics that have it. -/
def keeping (parameter : Parameter) (value : Float) :
    Member setting size → Member setting size
  | .recorder member => .recorder member
  | .idle serial => .idle serial
  | .dynamics scheme member =>
      match parameter, scheme with
      | .stepSize, scheme => .dynamics scheme { member with stepSize := value }
      | .tolerance, scheme => .dynamics scheme { member with tolerance := value }
      | .friction, .langevin _ => .dynamics (.langevin value) member
      | .friction, .verlet => .dynamics .verlet member

/-- What a member makes of a value that it is offered for a parameter. -/
def accept (parameter : Parameter) (value : Float)
    (member : Member setting size) : Except Failure (Member setting size) :=
  if parameter.Allows value then .ok (member.keeping parameter value)
  else .error (.dynamics (parameter.refusal value))

/-- What is put on record of a value that a member is offered for a parameter. -/
def acceptances (parameter : Parameter) (value : Float)
    (member : Member setting size) : List Acceptance :=
  if (member.kept parameter).isSome ∧ parameter.Allows value then
    [⟨member.serial, parameter, value⟩]
  else []

/-- Of an offer nothing else can come on record. -/
theorem eq_of_mem_acceptances
    {parameter : Parameter} {value : Float} {member : Member setting size}
    {accepted : Acceptance}
    (listed : accepted ∈ member.acceptances parameter value) :
    accepted = ⟨member.serial, parameter, value⟩ := by
  rw [acceptances] at listed
  split_ifs at listed
  · exact List.mem_singleton.mp listed
  · cases listed

theorem serial_of_mem_acceptances
    {parameter : Parameter} {value : Float} {member : Member setting size}
    {accepted : Acceptance}
    (listed : accepted ∈ member.acceptances parameter value) :
    accepted.serial = member.serial :=
  congrArg Acceptance.serial (eq_of_mem_acceptances listed)

theorem allows_of_mem_acceptances
    {parameter : Parameter} {value : Float} {member : Member setting size}
    {accepted : Acceptance}
    (listed : accepted ∈ member.acceptances parameter value) :
    accepted.parameter.Allows accepted.value := by
  rw [acceptances] at listed
  split_ifs at listed with told
  · rw [List.mem_singleton.mp listed]
    exact told.2
  · cases listed

theorem kept_detach (parameter : Parameter) (member : Member setting size) :
    member.detach.kept parameter = member.kept parameter := by
  rcases member with _ | ⟨_ | _, _⟩ | _ <;> cases parameter <;> rfl

theorem serial_keeping
    (parameter : Parameter) (value : Float) (member : Member setting size) :
    (member.keeping parameter value).serial = member.serial := by
  rcases member with _ | ⟨_ | _, _⟩ | _ <;> cases parameter <;> rfl

/-- The value takes the place of the one that was kept, and all others stay. -/
theorem kept_keeping
    (parameter other : Parameter) (value : Float)
    (member : Member setting size) :
    (member.keeping parameter value).kept other =
      if parameter = other then (member.kept other).map fun _ => value
      else member.kept other := by
  rcases member with _ | ⟨_ | _, _⟩ | _ <;> cases parameter <;>
    cases other <;> rfl

/-- One member comes of another by what is on record of it since. -/
structure Takes (old : Member setting size) (record : List Acceptance)
    (new : Member setting size) : Prop where
  serial_eq : new.serial = old.serial
  kept_eq :
    ∀ parameter, new.kept parameter =
      (Acceptance.latest old.serial parameter record).or (old.kept parameter)

theorem Takes.of_same
    {old new : Member setting size} (serial_eq : new.serial = old.serial)
    (kept_eq : ∀ parameter, new.kept parameter = old.kept parameter) :
    old.Takes [] new where
  serial_eq := serial_eq
  kept_eq := kept_eq

theorem Takes.refl (member : Member setting size) : member.Takes [] member :=
  .of_same rfl fun _ => rfl

/-- What others put on record leaves a member as it is. -/
theorem Takes.of_ne
    {member : Member setting size} {record : List Acceptance}
    (strange : ∀ accepted ∈ record, accepted.serial ≠ member.serial) :
    member.Takes record member where
  serial_eq := rfl
  kept_eq := by
    intro parameter
    rw [Acceptance.latest_of_ne strange]
    rfl

theorem Takes.trans
    {first second third : Member setting size}
    {earlier later : List Acceptance}
    (left : first.Takes earlier second) (right : second.Takes later third) :
    first.Takes (earlier ++ later) third where
  serial_eq := right.serial_eq.trans left.serial_eq
  kept_eq := by
    intro parameter
    rw [right.kept_eq, left.kept_eq, left.serial_eq, Acceptance.latest_append,
      Option.or_assoc]

/-- A value that a member keeps from now on is on record if the parameter allows it. -/
theorem takes_keeping
    {parameter : Parameter} {value : Float} (allowed : parameter.Allows value)
    (member : Member setting size) :
    member.Takes (member.acceptances parameter value)
      (member.keeping parameter value) := by
  rw [acceptances]
  cases before : member.kept parameter with
  | none =>
      rw [if_neg (fun there => by cases there.1)]
      refine .of_same (member.serial_keeping parameter value) fun other => ?_
      rw [kept_keeping]
      split_ifs with same
      · subst same
        rw [before]
        rfl
      · rfl
  | some old =>
      rw [if_pos ⟨rfl, allowed⟩]
      refine ⟨member.serial_keeping parameter value, fun other => ?_⟩
      rw [kept_keeping]
      split_ifs with same
      · subst same
        rw [before]
        simp [Acceptance.latest, Acceptance.valueFor]
      · simp [Acceptance.latest, Acceptance.valueFor, same]

/-! ### Offers -/

/-- Dynamics are adjusted as they are offered the new value. -/
theorem adjust_of_kept
    {member : Member setting size} {adjustment : Adjustment}
    (keeps : (member.kept adjustment.parameter).isSome = true) :
    member.adjust adjustment =
      member.accept adjustment.parameter adjustment.number := by
  cases member with
  | recorder recorder => cases adjustment <;> cases keeps
  | idle serial => cases adjustment <;> cases keeps
  | dynamics scheme dynamics =>
      rw [adjust, Dynamics.adjust, Dynamics.checked_eq, Parameter.checked, accept]
      split_ifs
      · cases adjustment <;> rfl
      · rfl

/-- A member that is adjusted puts the new value on record if it keeps it. -/
theorem takes_of_adjust
    {member changed : Member setting size} {adjustment : Adjustment}
    (set : member.adjust adjustment = .ok changed) :
    member.Takes (member.acceptances adjustment.parameter adjustment.number)
      changed := by
  cases member with
  | recorder recorder =>
      rcases ofRecorder_eq_ok_iff.mp set with ⟨inner, granted, rfl⟩
      rcases Recorder.adjust_eq_ok_iff.mp granted with ⟨-, rfl⟩
      cases adjustment <;>
        exact .of_same rfl fun parameter => by cases parameter <;> rfl
  | idle serial =>
      cases set
      cases adjustment <;> exact .refl _
  | dynamics scheme dynamics =>
      rw [adjust_of_kept (by cases adjustment <;> rfl), accept] at set
      split_ifs at set with allowed
      cases set
      exact takes_keeping allowed _

/-- A member that refuses an adjustment puts nothing on record. -/
theorem acceptances_of_adjust
    {member : Member setting size} {adjustment : Adjustment} {cause : Failure}
    (refused : member.adjust adjustment = .error cause) :
    member.acceptances adjustment.parameter adjustment.number = [] := by
  refine if_neg fun told => ?_
  rw [adjust_of_kept told.1, accept, if_pos told.2] at refused
  cases refused

end Member

/-! ## Changes past the compound -/

namespace LangevinChange

variable {size : Nat}

/-- Whether Langevin dynamics take a change, which no change before it decides. -/
def possible (contexts : Contexts .particles size) : LangevinChange size → Bool
  | .setFriction friction => decide (Parameter.friction.Allows friction)
  | .attach context => !(contexts.get context).positions.isEmpty
  | .detach => true

/-- The friction that a change sets, if it sets one. -/
def friction : LangevinChange size → Option Float
  | .setFriction friction => some friction
  | _ => none

end LangevinChange

namespace Changes

variable {setting : Setting} {size : Nat}

/--
What is put on record of changes to a member: the frictions that are set by
those before the first one that is refused.
-/
def acceptances (contexts : Contexts setting size) :
    Changes size → Member setting size → List Acceptance
  | .langevin changes, .dynamics (.langevin _) member =>
      ((changes.takeWhile (LangevinChange.possible contexts)).filterMap
        LangevinChange.friction).map fun friction =>
          ⟨member.serial, .friction, friction⟩
  | _, _ => []

/-- Only frictions of the member itself are put on record of changes to it. -/
theorem exists_eq_of_mem_acceptances
    {contexts : Contexts setting size} {changes : Changes size}
    {member : Member setting size} {accepted : Acceptance}
    (listed : accepted ∈ changes.acceptances contexts member) :
    ∃ value, accepted = ⟨member.serial, .friction, value⟩ := by
  rw [acceptances.eq_def] at listed
  split at listed
  · rcases List.mem_map.mp listed with ⟨friction, -, rfl⟩
    exact ⟨friction, rfl⟩
  · cases listed

theorem serial_of_mem_acceptances
    {contexts : Contexts setting size} {changes : Changes size}
    {member : Member setting size} {accepted : Acceptance}
    (listed : accepted ∈ changes.acceptances contexts member) :
    accepted.serial = member.serial := by
  rcases exists_eq_of_mem_acceptances listed with ⟨value, rfl⟩
  rfl

theorem allows_of_mem_acceptances
    {contexts : Contexts setting size} {changes : Changes size}
    {member : Member setting size} {accepted : Acceptance}
    (listed : accepted ∈ changes.acceptances contexts member) :
    accepted.parameter.Allows accepted.value := by
  rw [acceptances.eq_def] at listed
  split at listed
  · rcases List.mem_map.mp listed with ⟨friction, set, rfl⟩
    rcases List.mem_filterMap.mp set with ⟨change, front, told⟩
    have possible := List.mem_takeWhile_imp front
    cases change with
    | setFriction own =>
        cases told
        exact of_decide_eq_true possible
    | _ => cases told
  · cases listed

/-- A possible change is made, and a friction that it sets is put on record. -/
theorem ofLangevin_of_possible
    {contexts : Contexts .particles size} {change : LangevinChange size}
    (possible : change.possible contexts = true)
    (pair : Float × Dynamics size) :
    ∃ changed, ofLangevin contexts pair change = .ok (changed, []) ∧
      (Member.dynamics (.langevin pair.1) pair.2).Takes
        (change.friction.toList.map fun friction =>
          ⟨pair.2.serial, .friction, friction⟩)
        (.dynamics (.langevin changed.1) changed.2) := by
  cases change with
  | setFriction friction =>
      have allowed : Parameter.friction.Allows friction :=
        of_decide_eq_true possible
      refine ⟨(friction, pair.2), ?_, ?_⟩
      · rw [ofLangevin, Dynamics.checkedFriction_eq, Parameter.checked,
          if_pos allowed]
        rfl
      · have takes :=
          Member.takes_keeping allowed (.dynamics (.langevin pair.1) pair.2)
        rwa [Member.acceptances, if_pos ⟨rfl, allowed⟩] at takes
  | attach context =>
      have occupied : (contexts.get context).positions.isEmpty = false :=
        (Bool.not_eq_true' _).mp possible
      refine ⟨(pair.1, { pair.2 with attachment := some context }), ?_, ?_⟩
      · rw [ofLangevin, Dynamics.attach_eq_ok_iff.mpr ⟨occupied, rfl⟩]
        rfl
      · exact .of_same rfl fun parameter => by cases parameter <;> rfl
  | detach =>
      exact
        ⟨(pair.1, pair.2.detach), rfl,
          .of_same rfl fun parameter => by cases parameter <;> rfl⟩

/-- A change that is not possible is refused. -/
theorem ofLangevin_of_not_possible
    {contexts : Contexts .particles size} {change : LangevinChange size}
    (impossible : change.possible contexts = false)
    (pair : Float × Dynamics size) :
    ∃ cause, ofLangevin contexts pair change = .error cause := by
  cases change with
  | setFriction friction =>
      refine ⟨.invalidFriction friction, ?_⟩
      rw [ofLangevin, Dynamics.checkedFriction_eq, Parameter.checked,
        if_neg (of_decide_eq_false impossible)]
      rfl
  | attach context =>
      have vacant : (contexts.get context).positions.isEmpty = true :=
        (Bool.not_eq_eq_eq_not.mp impossible)
      refine ⟨.noParticles, ?_⟩
      rw [ofLangevin, Dynamics.attach, if_pos vacant]
      rfl
  | detach => cases impossible

/-- Changes in turn put on record what those of them set that are made. -/
theorem takes_inTurn
    (contexts : Contexts .particles size)
    (changes : List (LangevinChange size)) (pair : Float × Dynamics size) :
    let changed := (inTurn (ofLangevin contexts) changes pair).2.1
    (Member.dynamics (.langevin pair.1) pair.2).Takes
      (acceptances contexts (.langevin changes)
        (.dynamics (.langevin pair.1) pair.2))
      (.dynamics (.langevin changed.1) changed.2) := by
  induction changes generalizing pair with
  | nil => exact .refl _
  | cons change changes induction =>
      cases possible : change.possible contexts with
      | false =>
          rcases ofLangevin_of_not_possible possible pair with ⟨cause, refused⟩
          rw [inTurn, refused, acceptances,
            List.takeWhile_cons_of_neg (by rw [possible]; exact Bool.false_ne_true)]
          exact .refl _
      | true =>
          rcases ofLangevin_of_possible possible pair with ⟨changed, made, takes⟩
          have further := takes.trans (induction changed)
          have same : changed.2.serial = pair.2.serial := takes.serial_eq
          rw [inTurn, made, acceptances, List.takeWhile_cons_of_pos possible]
          rw [acceptances, same] at further
          cases told : change.friction with
          | none =>
              rw [List.filterMap_cons_none told]
              rw [told] at further
              exact further
          | some friction =>
              rw [List.filterMap_cons_some told]
              rw [told] at further
              exact further

/-- Changes to Verlet dynamics leave all that these keep. -/
theorem takes_of_verlet
    {contexts : Contexts .particles size} {dynamics changed : Dynamics size}
    {change : VerletChange size} {notes : List Entry}
    (made : ofVerlet contexts dynamics change = .ok (changed, notes)) :
    (Member.dynamics .verlet dynamics).Takes [] (.dynamics .verlet changed) := by
  rcases ofVerlet_eq_ok made with ⟨⟨attachment, rfl⟩, -⟩
  exact .of_same rfl fun parameter => by cases parameter <;> rfl

/-- Changes to a member put on record what they set of what it keeps. -/
theorem takes_of_make
    {changes : Changes size} {contexts : Contexts setting size}
    {member changed : Member setting size}
    {answer : Except Member.Failure Unit} {notes : List Entry}
    (made : changes.make contexts member = some (answer, changed, notes)) :
    member.Takes (changes.acceptances contexts member) changed := by
  have same : changed.serial = member.serial :=
    congrArg Identity.serial (changed_of_make made).identity_eq
  cases member with
  | recorder recorder =>
      cases changes with
      | recorder changes =>
          cases made
          exact .of_same same fun parameter => by cases parameter <;> rfl
      | _ => cases made
  | dynamics scheme dynamics =>
      cases scheme with
      | verlet =>
          cases changes with
          | verlet changes =>
              cases made
              exact
                inTurn_relates
                  (fun old _ new =>
                    (Member.dynamics .verlet old).Takes []
                      (.dynamics .verlet new))
                  (fun old => .refl _) Member.Takes.trans changes
                  (fun _ _ _ _ _ => takes_of_verlet) dynamics
          | _ => cases made
      | langevin friction =>
          cases changes with
          | langevin changes =>
              cases made
              exact takes_inTurn contexts changes (friction, dynamics)
          | _ => cases made
  | idle serial =>
      cases changes with
      | idle =>
          cases made
          exact .refl _
      | _ => cases made

/-- A single friction is accepted or refused as other parameters are. -/
theorem make_setFriction
    {member : Member setting size}
    (keeps : (member.kept .friction).isSome = true)
    (contexts : Contexts setting size) (friction : Float) :
    (langevin [.setFriction friction]).make contexts member =
      some
        (match member.accept .friction friction with
          | .ok changed => (.ok (), changed, [])
          | .error cause => (.error cause, member, [])) := by
  rcases member with _ | ⟨_ | old, dynamics⟩ | _
  · cases keeps
  · cases keeps
  · rw [make, inTurn, ofLangevin, Dynamics.checkedFriction_eq,
      Parameter.checked, Member.accept]
    split_ifs <;> rfl
  · cases keeps

/-- Changes in turn go on from what the first of them have left, if none of these is refused. -/
theorem inTurn_append {α Change Cause : Type}
    {make : α → Change → Except Cause (α × List Entry)}
    (first rest : List Change) (value : α) :
    inTurn make (first ++ rest) value =
      match inTurn make first value with
      | (.error cause, left, notes) => (.error cause, left, notes)
      | (.ok (), left, notes) =>
          let (answer, last, further) := inTurn make rest left
          (answer, last, notes ++ further) := by
  induction first generalizing value with
  | nil => rfl
  | cons change first induction =>
      rw [List.cons_append, inTurn, inTurn]
      cases make value change with
      | error cause => rfl
      | ok result =>
          dsimp only
          rw [induction]
          rcases inTurn make first result.1 with ⟨_ | _, left, notes⟩
          · rfl
          · simp

/--
Changes that are made to Langevin dynamics leave such dynamics, to which the
changes behind them are made.
-/
theorem make_langevin_append
    {contexts : Contexts setting size} {first : List (LangevinChange size)}
    {member changed : Member setting size} {notes : List Entry}
    (made : (langevin first).make contexts member = some (.ok (), changed, notes))
    (rest : List (LangevinChange size)) :
    ∃ answer last further,
      (langevin rest).make contexts changed = some (answer, last, further) ∧
        (langevin (first ++ rest)).make contexts member =
          some (answer, last, notes ++ further) := by
  rcases member with _ | ⟨_ | friction, dynamics⟩ | _
  · cases made
  · cases made
  · rw [make, inTurn_append]
    rw [make] at made
    cases done : inTurn (ofLangevin contexts) first (friction, dynamics) with
    | mk result left =>
        rw [done] at made
        cases result with
        | error cause => cases made
        | ok nothing =>
            cases made
            exact ⟨_, _, _, rfl, rfl⟩
  · cases made

/-- Where changes to Langevin dynamics come to no end, those behind them are not looked at. -/
theorem make_langevin_append_of_refused
    {contexts : Contexts setting size} {first : List (LangevinChange size)}
    {member : Member setting size}
    (refused :
      ∀ changed notes,
        (langevin first).make contexts member ≠ some (.ok (), changed, notes))
    (rest : List (LangevinChange size)) :
    (langevin (first ++ rest)).make contexts member =
      (langevin first).make contexts member := by
  rcases member with _ | ⟨_ | friction, dynamics⟩ | _
  · rfl
  · rfl
  · rw [make] at refused
    rw [make, make, inTurn_append]
    cases done : inTurn (ofLangevin contexts) first (friction, dynamics) with
    | mk result left =>
        rw [done] at refused
        cases result with
        | error cause => rfl
        | ok nothing => exact (refused _ _ rfl).elim
  · rfl

/-- Changes that are for another kind of member put nothing on record. -/
theorem acceptances_of_make
    {changes : Changes size} {contexts : Contexts setting size}
    {member : Member setting size}
    (unmade : changes.make contexts member = none) :
    changes.acceptances contexts member = [] := by
  rw [acceptances.eq_def]
  split
  · cases unmade
  · rfl

end Changes

/-! ## Construction -/

namespace Draft

variable {setting : Setting} {size : Nat}

/-- The values that dynamics are made with, in the order in which they are looked at. -/
def values : Draft setting → List (Parameter × Float)
  | .dynamics .verlet stepSize =>
      [(.stepSize, stepSize), (.tolerance, Dynamics.standardTolerance)]
  | .dynamics (.langevin friction) stepSize =>
      [(.stepSize, stepSize), (.tolerance, Dynamics.standardTolerance),
        (.friction, friction)]
  | _ => []

/-- All values that dynamics are made with meet the conditions of their parameters. -/
def Allowed (draft : Draft setting) : Prop :=
  ∀ pair ∈ draft.values, pair.1.Allows pair.2

instance (draft : Draft setting) : Decidable draft.Allowed :=
  inferInstanceAs (Decidable (∀ pair ∈ draft.values, pair.1.Allows pair.2))

/-- What is put on record of a member that is made under a number. -/
def acceptances (serial : Nat) (draft : Draft setting) : List Acceptance :=
  if draft.Allowed then
    draft.values.map fun pair => ⟨serial, pair.1, pair.2⟩
  else []

/-- The member that dynamics are made as if all their values are allowed. -/
theorem build_dynamics
    {scheme : Dynamics.Scheme} {stepSize : Float} (serial : Nat)
    (allowed : (Draft.dynamics scheme stepSize).Allowed) :
    (Draft.dynamics scheme stepSize).build serial =
      .ok
        (.dynamics scheme
          (⟨serial, stepSize, Dynamics.standardTolerance, 0, none⟩ :
            Dynamics size)) := by
  have positive : Parameter.stepSize.Allows stepSize := by
    cases scheme <;> exact allowed (.stepSize, stepSize) List.mem_cons_self
  rw [build, Dynamics.ofStepSize, Dynamics.checkedStepSize_eq, Parameter.checked,
    if_pos positive]
  cases scheme with
  | verlet => rfl
  | langevin friction =>
      have nonNegative : Parameter.friction.Allows friction :=
        allowed (.friction, friction) (by simp [values])
      rw [Dynamics.checkedScheme, Dynamics.checkedFriction_eq,
        Parameter.checked, if_pos nonNegative]
      rfl

theorem mem_values_of_mem_acceptances
    {serial : Nat} {draft : Draft setting} {accepted : Acceptance}
    (listed : accepted ∈ draft.acceptances serial) :
    draft.Allowed ∧ (accepted.parameter, accepted.value) ∈ draft.values := by
  rw [acceptances] at listed
  split_ifs at listed with allowed
  · rcases List.mem_map.mp listed with ⟨pair, made, rfl⟩
    exact ⟨allowed, made⟩
  · cases listed

theorem allows_of_mem_acceptances
    {serial : Nat} {draft : Draft setting} {accepted : Acceptance}
    (listed : accepted ∈ draft.acceptances serial) :
    accepted.parameter.Allows accepted.value := by
  rcases mem_values_of_mem_acceptances listed with ⟨allowed, made⟩
  exact allowed _ made

theorem exists_of_allowed
    {draft : Draft setting} (allowed : draft.Allowed) (serial : Nat) :
    ∃ member : Member setting size, draft.build serial = .ok member := by
  cases draft with
  | recorder draft => exact ⟨_, rfl⟩
  | idle => exact ⟨_, rfl⟩
  | dynamics scheme stepSize => exact ⟨_, build_dynamics serial allowed⟩

/-- Of the values that are not allowed the first one is refused. -/
theorem build_of_find?
    {draft : Draft setting} {parameter : Parameter} {value : Float}
    (first :
      draft.values.find? (fun pair => ¬ pair.1.Allows pair.2) =
        some (parameter, value))
    (serial : Nat) :
    (draft.build serial : Except Member.Failure (Member setting size)) =
      .error (.dynamics (parameter.refusal value)) := by
  cases draft with
  | recorder draft => cases first
  | idle => cases first
  | dynamics scheme stepSize =>
      by_cases positive : Parameter.stepSize.Allows stepSize
      · cases scheme with
        | verlet =>
            simp [values, positive, Parameter.allows_standardTolerance] at first
        | langevin friction =>
            have own :
                ¬ Parameter.friction.Allows friction ∧
                  .friction = parameter ∧ friction = value := by
              simpa [values, positive, Parameter.allows_standardTolerance]
                using first
            rcases own with ⟨refused, rfl, rfl⟩
            rw [build, Dynamics.ofStepSize, Dynamics.checkedStepSize_eq,
              Parameter.checked, if_pos positive, Dynamics.checkedScheme,
              Dynamics.checkedFriction_eq, Parameter.checked, if_neg refused]
            rfl
      · have found : (Parameter.stepSize, stepSize) = (parameter, value) := by
          cases scheme <;> simpa [values, positive] using first
        cases found
        rw [build, Dynamics.ofStepSize, Dynamics.checkedStepSize_eq,
          Parameter.checked, if_neg positive]
        rfl

/-- A member is made just if all its values are allowed. -/
theorem allowed_of_build
    {draft : Draft setting} {serial : Nat} {member : Member setting size}
    (built : draft.build serial = .ok member) : draft.Allowed := by
  intro pair listed
  cases first :
      draft.values.find? (fun pair => ¬ pair.1.Allows pair.2) with
  | none => simpa using List.find?_eq_none.mp first pair listed
  | some refused =>
      rw [build_of_find? first] at built
      cases built

/-- What a member is made with is all that is on record of its number. -/
theorem kept_of_build
    {draft : Draft setting} {serial : Nat} {member : Member setting size}
    (built : draft.build serial = .ok member) (parameter : Parameter) :
    member.kept parameter =
      Acceptance.latest serial parameter (draft.acceptances serial) := by
  have allowed := allowed_of_build built
  rw [acceptances, if_pos allowed]
  cases draft with
  | recorder draft =>
      cases built
      cases parameter <;> rfl
  | idle =>
      cases built
      cases parameter <;> rfl
  | dynamics scheme stepSize =>
      cases (build_dynamics serial allowed).symm.trans built
      cases scheme <;> cases parameter <;>
        simp [Member.kept, values, Acceptance.latest, Acceptance.valueFor]

end Draft

end Stepping
