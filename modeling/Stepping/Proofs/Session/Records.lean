import Stepping.Proofs.Member.Parameters
import Stepping.Proofs.Session.Routing

/-!
# Records of accepted values

What dynamics keep of a parameter can be told from what has been put on record:
the values that they were made with, and each value that was offered to them
since, be it through their compound or past it, and that the parameter allows.
Of these they keep the latest, whatever else was done.  As only allowed values
are put on record, only such are kept.

The record goes by the numbers of members.  No two members share one, so what is
put on record of one member tells nothing of another.
-/

namespace Stepping

variable {setting : Setting} {compounds size : Nat}

namespace Member

/-- The number of a member, and what it keeps. -/
def holding (member : Member setting size) :
    Nat × (Parameter → Option Float) :=
  (member.serial, fun parameter => member.kept parameter)

theorem holding_detach (member : Member setting size) :
    member.detach.holding = member.holding := by
  refine Prod.ext ?_ (funext (kept_detach · member))
  cases member <;> rfl

theorem holding_uncounted (member : Member setting size) :
    member.uncounted.holding = member.holding := by
  refine Prod.ext ?_ (funext fun parameter => ?_)
  · cases member <;> rfl
  · rcases member with _ | ⟨_ | _, _⟩ | _ <;> cases parameter <;> rfl

end Member

/-! ## The record of a session -/

/-- What the member at an index puts on record, if there is one. -/
def Compound.acceptances (compound : Compound setting size) (index : Nat)
    (accepts : Member setting size → List Acceptance) : List Acceptance :=
  (compound.members[index]?).toList.flatMap accepts

/-- What is put on record of a request. -/
def Request.acceptances (scene : Scene setting size) :
    Request setting size → List Acceptance
  | .add draft => draft.acceptances scene.made
  | .setStepSize time =>
      scene.compound.acceptances scene.compound.active
        (Member.acceptances .stepSize time.picoseconds)
  | .setTolerance value =>
      scene.compound.acceptances scene.compound.active
        (Member.acceptances .tolerance value)
  | .setMemberStepSize index time =>
      scene.compound.acceptances index
        (Member.acceptances .stepSize time.picoseconds)
  | .setMemberTolerance index value =>
      scene.compound.acceptances index (Member.acceptances .tolerance value)
  | .change index changes =>
      scene.compound.acceptances index (changes.acceptances scene.contexts)
  | _ => []

/-- What is put on record of operations, in order. -/
def World.acceptances (world : World setting compounds size) :
    List (Operation setting compounds size) → List Acceptance
  | [] => []
  | operation :: operations =>
      operation.request.acceptances (world.scene operation.compound) ++
        (world.perform operation).1.acceptances operations

/-! ## Requests -/

/-- A scene whose members have numbers of their own, none of them the next one. -/
structure Scene.Distinct (scene : Scene setting size) : Prop where
  nodup : scene.compound.serials.Nodup
  serial_lt : ∀ member ∈ scene.compound.members, member.serial < scene.made

/-- What has come of the values that members keep is on record. -/
structure Scene.Takes (before : Scene setting size) (record : List Acceptance)
    (after : Scene setting size) : Prop where
  made_le : before.made ≤ after.made
  own :
    ∀ accepted ∈ record,
      accepted.serial ∈ before.compound.serials ∨
        before.made ≤ accepted.serial ∧ accepted.serial < after.made
  kept :
    ∀ new ∈ after.compound.members,
      (∃ old ∈ before.compound.members, old.Takes record new) ∨
        before.made ≤ new.serial ∧
          ∀ parameter, new.kept parameter =
            Acceptance.latest new.serial parameter record

namespace Scene

variable {scene : Scene setting size}

/-- Where all members keep what they kept, nothing need be on record. -/
theorem takes_of_same
    {after : Scene setting size} (made_eq : after.made = scene.made)
    (same :
      after.compound.members.map Member.holding =
        scene.compound.members.map Member.holding) :
    scene.Takes [] after where
  made_le := Nat.le_of_eq made_eq.symm
  own := List.forall_mem_nil _
  kept := by
    intro new there
    have shown : new.holding ∈ after.compound.members.map Member.holding :=
      List.mem_map_of_mem there
    rw [same] at shown
    rcases List.mem_map.mp shown with ⟨old, found, alike⟩
    exact
      .inl
        ⟨old, found,
          .of_same (congrArg Prod.fst alike).symm fun parameter =>
            (congrFun (congrArg Prod.snd alike) parameter).symm⟩

theorem takes_refl (scene : Scene setting size) : scene.Takes [] scene :=
  takes_of_same rfl rfl

/-- One member comes of another in its place by what it puts on record. -/
theorem takes_put
    (distinct : scene.Distinct) {index : Nat} {old new : Member setting size}
    (found : scene.compound.members[index]? = some old)
    {record : List Acceptance} (takes : old.Takes record new)
    (own : ∀ accepted ∈ record, accepted.serial = old.serial) :
    scene.Takes record
      (scene.withCompound (scene.compound.put index new)) where
  made_le := Nat.le_refl _
  own := fun accepted listed =>
    .inl
      (Compound.mem_serials_iff.mpr
        ⟨old, List.mem_of_getElem? found, (own accepted listed).symm⟩)
  kept := by
    intro member there
    rcases List.mem_iff_getElem?.mp there with ⟨place, held⟩
    rw [withCompound] at held
    by_cases same : index = place
    · subst same
      rw [Compound.getElem?_put_self found] at held
      cases held
      exact .inl ⟨old, List.mem_of_getElem? found, takes⟩
    -- the record is of one member, and all others have other numbers
    · rw [Compound.getElem?_put_of_ne same] at held
      refine .inl ⟨member, List.mem_of_getElem? held, .of_ne ?_⟩
      intro accepted listed
      rw [own accepted listed]
      exact Compound.serial_ne_of_ne distinct.nodup same found held

/-- A member that takes another parameter or refuses it. -/
theorem takes_adjustedMember
    (distinct : scene.Distinct) {index : Nat} {member : Member setting size}
    (found : scene.compound.members[index]? = some member)
    {record : List Acceptance}
    (own : ∀ accepted ∈ record, accepted.serial = member.serial)
    {answer : Except Member.Failure (Member setting size)}
    (taken : ∀ new, answer = .ok new → member.Takes record new)
    (refused : ∀ cause, answer = .error cause → record = []) :
    scene.Takes record (scene.adjustedMember index answer).scene := by
  cases answer with
  | ok new => exact takes_put distinct found (taken new rfl) own
  | error cause =>
      rw [refused cause rfl]
      exact scene.takes_refl

/-- What a member is made with is put on record, whether or not the compound takes it. -/
theorem takes_add
    (distinct : scene.Distinct) (draft : Draft setting) :
    scene.Takes (draft.acceptances scene.made) (scene.add draft).scene := by
  have own :
      ∀ accepted ∈ draft.acceptances scene.made,
        accepted.serial = scene.made := by
    intro accepted listed
    rw [Draft.acceptances] at listed
    split_ifs at listed
    · rcases List.mem_map.mp listed with ⟨pair, -, rfl⟩
      rfl
    · cases listed
  have stays (member : Member setting size)
      (there : member ∈ scene.compound.members) :
      member.Takes (draft.acceptances scene.made) member := by
    refine .of_ne fun accepted listed => ?_
    rw [own accepted listed]
    exact (Nat.ne_of_lt (distinct.serial_lt member there)).symm
  rcases scene.add_cases draft with
    ⟨cause, failed, equality⟩ | ⟨member, -, -, equality⟩ |
      ⟨member, built, -, equality⟩
  · have nothing : draft.acceptances scene.made = [] := by
      refine if_neg fun allowed => ?_
      have made :
          ∃ member : Member setting size,
            draft.build scene.made = .ok member :=
        Draft.exists_of_allowed allowed scene.made
      rw [failed] at made
      rcases made with ⟨member, built⟩
      cases built
    rw [equality, nothing]
    exact scene.takes_refl
  · rw [equality]
    refine ⟨Nat.le_succ _, fun accepted listed => .inr ?_, ?_⟩
    · rw [own accepted listed]
      exact ⟨Nat.le_refl _, Nat.lt_succ_self _⟩
    · exact fun new there => .inl ⟨new, there, stays new there⟩
  · rw [equality]
    refine ⟨Nat.le_succ _, fun accepted listed => .inr ?_, ?_⟩
    · rw [own accepted listed]
      exact ⟨Nat.le_refl _, Nat.lt_succ_self _⟩
    · intro new there
      rcases List.mem_append.mp there with old | added
      · exact .inl ⟨new, old, stays new old⟩
      · cases List.mem_singleton.mp added
        have serial : member.serial = scene.made :=
          (Draft.tag_of_build built).1
        rw [serial]
        exact .inr ⟨Nat.le_refl _, Draft.kept_of_build built⟩

/-- What changes to a member set is put on record. -/
theorem takes_change
    (distinct : scene.Distinct) {index : Nat} {member : Member setting size}
    (found : scene.compound.members[index]? = some member)
    (changes : Changes size) :
    scene.Takes (changes.acceptances scene.contexts member)
      (scene.change index changes member).scene := by
  rw [change]
  cases made : changes.make scene.contexts member with
  | none =>
      rw [Changes.acceptances_of_make made]
      exact scene.takes_refl
  | some result =>
      exact
        takes_put distinct found (Changes.takes_of_make made)
          fun _ => Changes.serial_of_mem_acceptances

end Scene

namespace Compound

variable {compound : Compound setting size} {index : Nat}
  {accepts : Member setting size → List Acceptance}

theorem acceptances_of_found
    {member : Member setting size}
    (found : compound.members[index]? = some member) :
    compound.acceptances index accepts = accepts member := by
  rw [acceptances, found]
  exact List.append_nil _

theorem acceptances_of_absent (absent : compound.members[index]? = none) :
    compound.acceptances index accepts = [] := by
  rw [acceptances, absent]
  rfl

theorem exists_of_mem_acceptances
    {accepted : Acceptance}
    (listed : accepted ∈ compound.acceptances index accepts) :
    ∃ member, accepted ∈ accepts member := by
  rcases List.mem_flatMap.mp listed with ⟨member, -, own⟩
  exact ⟨member, own⟩

end Compound

namespace Request

variable {scene : Scene setting size}

/-- What a request does with the member at an index is on record, if there is one. -/
theorem takes_withMember
    {index : Nat} {accepts : Member setting size → List Acceptance}
    {action : Member setting size → Effect setting size}
    (takes :
      ∀ member, scene.compound.members[index]? = some member →
        scene.Takes (accepts member) (action member).scene) :
    scene.Takes (scene.compound.acceptances index accepts)
      (scene.withMember index action).scene := by
  rw [Scene.withMember, Compound.member]
  cases found : scene.compound.members[index]? with
  | none =>
      rw [Compound.acceptances_of_absent found]
      exact scene.takes_refl
  | some member =>
      rw [Compound.acceptances_of_found found]
      exact takes member found

theorem takes_adjustMember
    (distinct : scene.Distinct) (index : Nat) (adjustment : Adjustment) :
    scene.Takes
      (scene.compound.acceptances index
        (Member.acceptances adjustment.parameter adjustment.number))
      ((adjustMember index adjustment).perform scene).scene := by
  rw [perform_adjustMember]
  exact
    takes_withMember fun _ found =>
      Scene.takes_adjustedMember distinct found
        (fun _ => Member.serial_of_mem_acceptances)
        (fun _ => Member.takes_of_adjust)
        (fun _ => Member.acceptances_of_adjust)

/-- A parameter that is set through a compound is set as at the active member. -/
theorem scene_of_adjust (adjustment : Adjustment) (scene : Scene setting size) :
    ((adjust adjustment).perform scene).scene =
      ((adjustMember scene.compound.active adjustment).perform scene).scene := by
  rw [perform_adjust, perform_adjustMember]
  cases found : scene.compound.members[scene.compound.active]? with
  | some member =>
      rw [Compound.adjust_of_found found, Scene.withMember_of_found found]
      cases member.adjust adjustment <;> rfl
  | none =>
      have absent : scene.compound.activeMember = .error .empty := by
        rw [Compound.activeMember, found]
      rw [Compound.adjust, absent, Scene.withMember, Compound.member, found]
      rfl

/-- Of an adjustment is on record what the member puts there that it is of. -/
theorem acceptances_adjust (adjustment : Adjustment) (scene : Scene setting size) :
    (adjust adjustment).acceptances scene =
      scene.compound.acceptances scene.compound.active
        (Member.acceptances adjustment.parameter adjustment.number) := by
  cases adjustment <;> rfl

theorem acceptances_adjustMember
    (index : Nat) (adjustment : Adjustment) (scene : Scene setting size) :
    (adjustMember index adjustment).acceptances scene =
      scene.compound.acceptances index
        (Member.acceptances adjustment.parameter adjustment.number) := by
  cases adjustment <;> rfl

/-- A request that offers nothing puts nothing on record. -/
theorem acceptances_of_unadjusting
    {request : Request setting size} (goesOn : request.GoesOn)
    (unchanging : request.Unchanging) (unadjusting : request.Unadjusting)
    (scene : Scene setting size) : request.acceptances scene = [] := by
  cases request with
  | add draft => exact goesOn.elim
  | change index changes => exact unchanging.elim
  | setStepSize _ | setTolerance _ => exact unadjusting.elim
  | setMemberStepSize _ _ | setMemberTolerance _ _ => exact unadjusting.elim
  | _ => rfl

/-- A request that does nothing to single members but have them take steps. -/
theorem takes_of_unadjusting
    {request : Request setting size} (goesOn : request.GoesOn)
    (unchanging : request.Unchanging) (unadjusting : request.Unadjusting)
    (scene : Scene setting size) :
    scene.Takes [] (request.perform scene).scene := by
  by_cases still : request.Still
  · have continues :=
      (bindCalls_of_view Member.holding_detach).perform goesOn still unchanging
        unadjusting scene
    exact Scene.takes_of_same continues.2 continues.1
  · have continues :=
      (motion_of_view Member.holding_uncounted).perform goesOn still scene
    exact Scene.takes_of_same continues.2 continues.1

/-- Whatever a request makes of the values that members keep is on record. -/
theorem takes_perform
    (request : Request setting size) (distinct : scene.Distinct) :
    scene.Takes (request.acceptances scene) (request.perform scene).scene := by
  rcases request.goesOn_cases with
    ⟨draft, rfl⟩ | ⟨context, poke, rfl⟩ | rfl | goesOn
  · exact Scene.takes_add distinct draft
  · exact Scene.takes_of_same rfl rfl
  · exact ⟨Nat.le_refl _, List.forall_mem_nil _, List.forall_mem_nil _⟩
  · by_cases unchanging : request.Unchanging
    · rcases request.adjust_cases with
        unadjusting | ⟨adjustment, rfl⟩ | ⟨index, adjustment, rfl⟩
      · rw [acceptances_of_unadjusting goesOn unchanging unadjusting]
        exact takes_of_unadjusting goesOn unchanging unadjusting scene
      · rw [acceptances_adjust, scene_of_adjust]
        exact takes_adjustMember distinct _ adjustment
      · rw [acceptances_adjustMember]
        exact takes_adjustMember distinct index adjustment
    · cases request with
      | change index changes =>
          exact
            takes_withMember fun _ found =>
              Scene.takes_change distinct found changes
      | _ => exact (unchanging trivial).elim

/-- Only values that their parameters allow are put on record. -/
theorem allows_of_mem_acceptances
    {request : Request setting size} {accepted : Acceptance}
    (listed : accepted ∈ request.acceptances scene) :
    accepted.parameter.Allows accepted.value := by
  cases request with
  | add draft => exact Draft.allows_of_mem_acceptances listed
  | setStepSize _ | setTolerance _ =>
      rcases Compound.exists_of_mem_acceptances listed with ⟨member, offered⟩
      exact Member.allows_of_mem_acceptances offered
  | setMemberStepSize _ _ | setMemberTolerance _ _ =>
      rcases Compound.exists_of_mem_acceptances listed with ⟨member, offered⟩
      exact Member.allows_of_mem_acceptances offered
  | change index changes =>
      rcases Compound.exists_of_mem_acceptances listed with ⟨member, offered⟩
      exact Changes.allows_of_mem_acceptances offered
  | _ => cases listed

end Request

namespace World

/-! ## Operations -/

/-- All that members keep is on record, and nothing of members to come. -/
structure Recorded (record : List Acceptance)
    (world : World setting compounds size) : Prop where
  distinct : world.Distinct
  serial_lt : ∀ accepted ∈ record, accepted.serial < world.made
  kept_eq :
    ∀ home, ∀ member ∈ (world.compounds.get home).members, ∀ parameter,
      member.kept parameter =
        Acceptance.latest member.serial parameter record

theorem recorded_start (contexts : Contexts setting size) :
    (start compounds contexts).Recorded [] where
  distinct := distinct_start contexts
  serial_lt := List.forall_mem_nil _
  kept_eq := by
    intro home member found
    rw [compound_start] at found
    cases found

theorem Distinct.scene
    {world : World setting compounds size} (distinct : world.Distinct)
    (home : Fin compounds) : (world.scene home).Distinct where
  nodup := distinct.nodup home
  serial_lt := fun member there =>
    distinct.serial_lt home member.identity (List.mem_map_of_mem there)

/-- After an operation all that members keep is on record if it was before. -/
theorem Recorded.perform
    {record : List Acceptance} {world : World setting compounds size}
    (recorded : world.Recorded record)
    (operation : Operation setting compounds size) :
    (world.perform operation).1.Recorded
      (record ++
        operation.request.acceptances (world.scene operation.compound)) := by
  rcases operation with ⟨target, request⟩
  have distinct := recorded.distinct
  have kept := distinct.perform ⟨target, request⟩
  have takes := request.takes_perform (distinct.scene target)
  refine ⟨kept.1, ?_, ?_⟩
  · intro accepted listed
    rcases List.mem_append.mp listed with before | now
    · exact Nat.lt_of_lt_of_le (recorded.serial_lt accepted before) kept.2
    · rcases takes.own accepted now with old | ⟨-, fresh⟩
      · exact Nat.lt_of_lt_of_le (distinct.serial_lt_made old) kept.2
      · exact fresh
  · intro home new there parameter
    rw [Acceptance.latest_append]
    by_cases other : target ≠ home
    -- nobody in another compound has a number that the request records
    · rw [compound_perform_of_ne world other] at there
      rw [Acceptance.latest_of_ne ?_, Option.none_or,
        recorded.kept_eq home new there]
      intro accepted listed same
      have own : new.identity ∈ (world.compounds.get home).identities :=
        List.mem_map_of_mem there
      rcases takes.own accepted listed with strange | ⟨fresh, -⟩
      · rcases List.mem_map.mp strange with ⟨stranger, present, numbered⟩
        exact
          distinct.apart target home other stranger present new.identity own
            (numbered.trans same)
      · rw [same] at fresh
        exact
          Nat.not_lt_of_le fresh (distinct.serial_lt home new.identity own)
    · cases not_not.mp other
      rw [compound_perform] at there
      rcases takes.kept new there with ⟨old, found, change⟩ | ⟨fresh, made⟩
      · rw [change.kept_eq, change.serial_eq,
          recorded.kept_eq target old found]
      · have strange :
            ∀ accepted ∈ record, accepted.serial ≠ new.serial := by
          intro accepted listed
          exact
            Nat.ne_of_lt
              (Nat.lt_of_lt_of_le (recorded.serial_lt accepted listed) fresh)
        rw [made, Acceptance.latest_of_ne strange, Option.or_none]

/-- Whatever the operations and their outcomes, all that members keep is on record. -/
theorem Recorded.performAll
    {record : List Acceptance} {world : World setting compounds size}
    (recorded : world.Recorded record)
    (operations : List (Operation setting compounds size)) :
    (world.performAll operations).1.Recorded
      (record ++ world.acceptances operations) := by
  induction operations generalizing world record with
  | nil =>
      rw [acceptances, List.append_nil]
      exact recorded
  | cons operation operations induction =>
      rw [acceptances, ← List.append_assoc]
      exact induction (recorded.perform operation)

theorem allows_of_mem_acceptances
    {world : World setting compounds size}
    {operations : List (Operation setting compounds size)}
    {accepted : Acceptance} (listed : accepted ∈ world.acceptances operations) :
    accepted.parameter.Allows accepted.value := by
  induction operations generalizing world with
  | nil => cases listed
  | cons operation operations induction =>
      rcases List.mem_append.mp listed with now | later
      · exact Request.allows_of_mem_acceptances now
      · exact induction later

/-- What a member keeps is the latest value on record, and its parameter allows it. -/
theorem Recorded.latest_of_kept
    {world : World setting compounds size}
    {operations : List (Operation setting compounds size)}
    {contexts : Contexts setting size}
    (recorded :
      world.Recorded ((start compounds contexts).acceptances operations))
    {home : Fin compounds} {member : Member setting size}
    (there : member ∈ (world.compounds.get home).members)
    {parameter : Parameter} {value : Float}
    (kept : member.kept parameter = some value) :
    parameter.Allows value ∧
      Acceptance.latest member.serial parameter
          ((start compounds contexts).acceptances operations) =
        some value := by
  have last := (recorded.kept_eq home member there parameter).symm.trans kept
  exact ⟨allows_of_mem_acceptances (Acceptance.mem_of_latest last), last⟩

theorem recorded_performAll
    (contexts : Contexts setting size)
    (operations : List (Operation setting compounds size)) :
    ((start compounds contexts).performAll operations).1.Recorded
      ((start compounds contexts).acceptances operations) :=
  (recorded_start contexts).performAll operations

end World

end Stepping
