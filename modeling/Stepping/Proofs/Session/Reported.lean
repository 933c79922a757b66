import Stepping.Proofs.Quantity.Reading
import Stepping.Proofs.Session.Parameters

/-!
# Parameters that members report

Members refuse step sizes and tolerances of zero or below, so what they report
should be above zero.  Two things pass by this.  A recorder asks whether it is
given zero or below; what is no number is neither, so the recorder takes it and
reports it from then on.  Dynamics ask for a finite value above zero, but keep
picoseconds and report a time: a step size for which there are no seconds but
zero is accepted when they are made, and reported as zero.  A step size that they
are given later has been a time before, and is never lost.

Nothing else passes: all that is reported is above zero but for what a recorder
was given that is no number, and for vanishing step sizes that dynamics were made
with.
-/

namespace Stepping

variable {setting : Setting} {compounds size : Nat}

/-! ## What is asked of parameters -/

/-- The step size that a request gives to a member, if any. -/
def Request.givenStepSize : Request setting size → Option Time
  | .setStepSize time => some time
  | .setMemberStepSize _ time => some time
  | _ => none

/-- The tolerance that a request gives to a member, if any. -/
def Request.givenTolerance : Request setting size → Option Float
  | .setTolerance value => some value
  | .setMemberTolerance _ value => some value
  | _ => none

/-- The request is to make dynamics with a step size. -/
def Request.MakesDynamics (stepSize : Float) : Request setting size → Prop
  | .add draft => (.stepSize, stepSize) ∈ draft.values
  | _ => False

/-- The value of a parameter that a member reports, a step size in picoseconds. -/
def Member.reported : Parameter → Member setting size → Option Float
  | .stepSize, member => some member.stepSize.picoseconds
  | .tolerance, member => some member.tolerance
  | .friction, member => member.kept .friction

section

variable (accepts : Time → Prop) (tolerates : Float → Prop)

/-- If it is a recorder, its step size and its tolerance meet these conditions. -/
def Member.Conforms : Member setting size → Prop
  | .recorder member => accepts member.stepSize ∧ tolerates member.tolerance
  | _ => True

/-- A recorder made of the draft meets these conditions. -/
def Draft.Conforms : Draft setting → Prop
  | .recorder draft => accepts draft.stepSize ∧ tolerates draft.tolerance
  | _ => True

/-- The new value that an adjustment offers meets the condition on its parameter. -/
def Adjustment.Conforms : Adjustment → Prop
  | .stepSize time => accepts time
  | .tolerance value => tolerates value

/-- All recorders of a compound meet these conditions. -/
def Compound.Conforms (compound : Compound setting size) : Prop :=
  ∀ member ∈ compound.members, member.Conforms accepts tolerates

/-- Whatever recorders take of a request meets these conditions. -/
structure Request.Grants (request : Request setting size) : Prop where
  made : ∀ draft, request = .add draft → draft.Conforms accepts tolerates
  stepSize :
    ∀ time, request.givenStepSize = some time →
      ¬ time.picoseconds ≤ 0.0 → accepts time
  tolerance :
    ∀ value, request.givenTolerance = some value →
      ¬ value ≤ 0.0 → tolerates value

end

/-- A recorder made of the draft has a step size and a tolerance above zero. -/
def Draft.Positive (draft : Draft setting) : Prop :=
  draft.Conforms (fun time => 0.0 < time.picoseconds) (fun value => 0.0 < value)

variable {accepts : Time → Prop} {tolerates : Float → Prop}

/-! ## Members -/

namespace Member

/-- The step size that idle members report. -/
theorem idle_stepSize_pos : 0.0 < (Time.ofPicoseconds 0.001).picoseconds := by
  decide +kernel

theorem conforms_detach (member : Member setting size) :
    member.detach.Conforms accepts tolerates = member.Conforms accepts tolerates := by
  cases member <;> rfl

theorem conforms_uncounted (member : Member setting size) :
    member.uncounted.Conforms accepts tolerates =
      member.Conforms accepts tolerates := by
  cases member <;> rfl

/-- A recorder that takes a new value was not given zero or below. -/
theorem conforms_of_adjust
    {member changed : Member setting size} {adjustment : Adjustment}
    (set : member.adjust adjustment = .ok changed)
    (granted :
      ¬ adjustment.number ≤ 0.0 → adjustment.Conforms accepts tolerates)
    (conforms : member.Conforms accepts tolerates) :
    changed.Conforms accepts tolerates := by
  cases member with
  | recorder recorder =>
      rcases ofRecorder_eq_ok_iff.mp set with ⟨inner, taken, rfl⟩
      rcases Recorder.adjust_eq_ok_iff.mp taken with ⟨positive, rfl⟩
      have own := granted positive
      cases adjustment with
      | stepSize time => exact ⟨own, conforms.2⟩
      | tolerance value => exact ⟨conforms.1, own⟩
  | dynamics scheme dynamics =>
      rcases ofDynamics_eq_ok_iff.mp set with ⟨inner, -, rfl⟩
      exact trivial
  | idle serial =>
      cases set
      exact trivial

/-- A recorder takes any new value that is not zero or below. -/
theorem exists_adjust
    {member : Member setting size} (recorder : member.kind = .recorder)
    {adjustment : Adjustment} (positive : ¬ adjustment.number ≤ 0.0) :
    ∃ new, member.adjust adjustment = .ok new ∧
      new.reported adjustment.parameter = some adjustment.number := by
  rcases member with own | ⟨_ | _, _⟩ | _
  · refine ⟨.recorder (own.adjusted adjustment), ?_, ?_⟩
    · rw [adjust, Recorder.adjust, if_neg positive]
      rfl
    · cases adjustment <;> rfl
  · cases recorder
  · cases recorder
  · cases recorder

end Member

/-- Changes to recorders leave their step sizes and tolerances. -/
theorem Changes.parameters_of_recorder
    {recorder changed : Recorder size} {change : RecorderChange size}
    {notes : List Entry}
    (made : ofRecorder recorder change = .ok (changed, notes)) :
    changed.stepSize = recorder.stepSize ∧
      changed.tolerance = recorder.tolerance := by
  cases change with
  | attach context =>
      rcases ofRecorder_attach_eq_ok made with ⟨rfl, -⟩
      exact ⟨rfl, rfl⟩
  | _ =>
      cases made
      exact ⟨rfl, rfl⟩

theorem Changes.conforms_of_make
    {changes : Changes size} {contexts : Contexts setting size}
    {member changed : Member setting size}
    {answer : Except Member.Failure Unit} {notes : List Entry}
    (made : changes.make contexts member = some (answer, changed, notes))
    (conforms : member.Conforms accepts tolerates) :
    changed.Conforms accepts tolerates := by
  cases changes with
  | recorder list =>
      rcases member with recorder | ⟨_ | _, _⟩ | _ <;> cases made
      have same :
          let changed := (inTurn ofRecorder list recorder).2.1
          changed.stepSize = recorder.stepSize ∧
            changed.tolerance = recorder.tolerance :=
        inTurn_relates
          (fun (old : Recorder size) _ new =>
            new.stepSize = old.stepSize ∧ new.tolerance = old.tolerance)
          (fun _ => ⟨rfl, rfl⟩)
          (fun left right =>
            ⟨right.1.trans left.1, right.2.trans left.2⟩)
          list (fun _ _ _ _ _ => parameters_of_recorder) recorder
      rw [Member.Conforms, same.1, same.2]
      exact conforms
  | verlet list =>
      rcases member with _ | ⟨_ | _, _⟩ | _ <;> cases made
      exact trivial
  | langevin list =>
      rcases member with _ | ⟨_ | _, _⟩ | _ <;> cases made
      exact trivial
  | idle =>
      rcases member with _ | ⟨_ | _, _⟩ | _ <;> cases made
      exact trivial
  | foreign => rcases member with _ | ⟨_ | _, _⟩ | _ <;> cases made

/-! ## Requests -/

namespace Scene

variable {scene : Scene setting size}

theorem conforms_put
    (conforms : scene.compound.Conforms accepts tolerates)
    {new : Member setting size} (own : new.Conforms accepts tolerates)
    (index : Nat) : (scene.compound.put index new).Conforms accepts tolerates := by
  intro member there
  rcases List.mem_or_eq_of_mem_set there with old | rfl
  · exact conforms member old
  · exact own

theorem conforms_adjustedMember
    (conforms : scene.compound.Conforms accepts tolerates) (index : Nat)
    {answer : Except Member.Failure (Member setting size)}
    (own : ∀ new, answer = .ok new → new.Conforms accepts tolerates) :
    (scene.adjustedMember index answer).scene.compound.Conforms accepts
      tolerates := by
  cases answer with
  | ok new => exact conforms_put conforms (own new rfl) index
  | error cause => exact conforms

theorem conforms_change
    (conforms : scene.compound.Conforms accepts tolerates) (index : Nat)
    {member : Member setting size} (own : member.Conforms accepts tolerates)
    (changes : Changes size) :
    (scene.change index changes member).scene.compound.Conforms accepts
      tolerates := by
  rw [change]
  cases made : changes.make scene.contexts member with
  | none => exact conforms
  | some result => exact conforms_put conforms (Changes.conforms_of_make made own) index

theorem conforms_add
    (conforms : scene.compound.Conforms accepts tolerates)
    {draft : Draft setting} (own : draft.Conforms accepts tolerates) :
    (scene.add draft).scene.compound.Conforms accepts tolerates := by
  rcases scene.add_cases draft with
    ⟨cause, -, equality⟩ | ⟨member, -, -, equality⟩ |
      ⟨member, built, -, equality⟩
  · rw [equality]
    exact conforms
  · rw [equality]
    exact conforms
  · rw [equality]
    intro new there
    rcases List.mem_append.mp there with old | added
    · exact conforms new old
    · cases List.mem_singleton.mp added
      cases draft with
      | recorder draft =>
          cases built
          exact own
      | idle =>
          cases built
          exact trivial
      | dynamics scheme stepSize =>
          have allowed := Draft.allowed_of_build built
          cases (Draft.build_dynamics scene.made allowed).symm.trans built
          exact trivial

theorem conforms_withMember
    (conforms : scene.compound.Conforms accepts tolerates) {index : Nat}
    {action : Member setting size → Effect setting size}
    (own :
      ∀ member, member.Conforms accepts tolerates →
        (action member).scene.compound.Conforms accepts tolerates) :
    (scene.withMember index action).scene.compound.Conforms accepts tolerates := by
  rw [withMember, Compound.member]
  cases found : scene.compound.members[index]? with
  | none => exact conforms
  | some member =>
      exact own member (conforms member (List.mem_of_getElem? found))

/-- Where members look the same, they meet the same conditions. -/
theorem conforms_of_same
    {after : Compound setting size}
    (same :
      after.members.map (Member.Conforms accepts tolerates) =
        scene.compound.members.map (Member.Conforms accepts tolerates))
    (conforms : scene.compound.Conforms accepts tolerates) :
    after.Conforms accepts tolerates := by
  intro member there
  have listed := List.mem_map_of_mem (f := Member.Conforms accepts tolerates) there
  rw [same] at listed
  rcases List.mem_map.mp listed with ⟨old, found, alike⟩
  rw [← alike]
  exact conforms old found

end Scene

namespace Request

variable {scene : Scene setting size}

theorem conforms_adjustMember
    (conforms : scene.compound.Conforms accepts tolerates)
    {adjustment : Adjustment}
    (granted :
      ¬ adjustment.number ≤ 0.0 → adjustment.Conforms accepts tolerates)
    (index : Nat) :
    ((adjustMember index adjustment).perform
      scene).scene.compound.Conforms accepts tolerates := by
  rw [perform_adjustMember]
  exact
    Scene.conforms_withMember conforms fun _ own =>
      Scene.conforms_adjustedMember conforms index fun _ set =>
        Member.conforms_of_adjust set granted own

/-- What a request gives to a member is granted as an adjustment. -/
theorem Grants.of_adjustment
    {request : Request setting size} {adjustment : Adjustment}
    (grants : request.Grants accepts tolerates)
    (gives :
      request = adjust adjustment ∨
        ∃ index, request = adjustMember index adjustment)
    (positive : ¬ adjustment.number ≤ 0.0) :
    adjustment.Conforms accepts tolerates := by
  cases adjustment with
  | stepSize time =>
      refine grants.stepSize time ?_ positive
      rcases gives with rfl | ⟨index, rfl⟩ <;> rfl
  | tolerance value =>
      refine grants.tolerance value ?_ positive
      rcases gives with rfl | ⟨index, rfl⟩ <;> rfl

/-- What recorders keep after a request they have kept before, or taken of it. -/
theorem conforms_perform
    {request : Request setting size}
    (grants : request.Grants accepts tolerates)
    (conforms : scene.compound.Conforms accepts tolerates) :
    (request.perform scene).scene.compound.Conforms accepts tolerates := by
  rcases request.goesOn_cases with
    ⟨draft, rfl⟩ | ⟨context, poke, rfl⟩ | rfl | goesOn
  · exact Scene.conforms_add conforms (grants.made draft rfl)
  · exact conforms
  · exact List.forall_mem_nil _
  · by_cases unchanging : request.Unchanging
    · rcases request.adjust_cases with
        unadjusting | ⟨adjustment, rfl⟩ | ⟨index, adjustment, rfl⟩
      · by_cases still : request.Still
        · have blind (member : Member setting size) :
              member.detach.Conforms accepts tolerates =
                member.Conforms accepts tolerates :=
            member.conforms_detach
          have continues :=
            (bindCalls_of_view blind).perform goesOn still unchanging
              unadjusting scene
          exact Scene.conforms_of_same continues.1 conforms
        · have blind (member : Member setting size) :
              member.uncounted.Conforms accepts tolerates =
                member.Conforms accepts tolerates :=
            member.conforms_uncounted
          have continues := (motion_of_view blind).perform goesOn still scene
          exact Scene.conforms_of_same continues.1 conforms
      · rw [scene_of_adjust]
        exact conforms_adjustMember conforms (grants.of_adjustment (.inl rfl)) _
      · exact
          conforms_adjustMember conforms
            (grants.of_adjustment (.inr ⟨index, rfl⟩)) index
    · cases request with
      | change index changes =>
          exact
            Scene.conforms_withMember conforms fun member own =>
              Scene.conforms_change conforms index own changes
      | _ => exact (unchanging trivial).elim

/-- A recorder takes what is no number, whichever way it is given, and reports it. -/
theorem reported_of_isNaN
    (scene : Scene setting size) {request : Request setting size}
    {offer : Offer}
    (offers : request.offer scene.compound = some offer)
    {member : Member setting size}
    (found : scene.compound.members[offer.index]? = some member)
    (recorder : member.kind = .recorder) (other : offer.parameter ≠ .friction)
    (strange : offer.value.isNaN = true) :
    (request.perform scene).answer.isOk = true ∧
      ∃ new,
        (request.perform scene).scene.compound.members[offer.index]? =
            some new ∧
          new.reported offer.parameter = some offer.value := by
  have positive := Double.not_le_zero_iff.mpr (.inr strange)
  rcases offer_cases offers with
    ⟨adjustment, rfl, rfl⟩ | ⟨index, adjustment, rfl, rfl⟩ |
      ⟨index, friction, rfl, rfl⟩
  · rcases Member.exists_adjust recorder positive with ⟨new, set, same⟩
    rw [perform_adjust, Compound.adjust_of_found found, set]
    exact ⟨rfl, new, Compound.getElem?_put_self found, same⟩
  · rcases Member.exists_adjust recorder positive with ⟨new, set, same⟩
    rw [perform_adjustMember, Scene.withMember_of_found found, set]
    exact ⟨rfl, new, Compound.getElem?_put_self found, same⟩
  · exact (other rfl).elim

/-- A step size on record does not vanish, unless dynamics are made with it. -/
theorem lasting_of_mem_acceptances
    {request : Request setting size} {accepted : Acceptance}
    (listed : accepted ∈ request.acceptances scene)
    (own : accepted.parameter = .stepSize) :
    Time.vanishing < accepted.value ∨ request.MakesDynamics accepted.value := by
  have allowed := allows_of_mem_acceptances listed
  rw [own] at allowed
  -- a step size that is set has been read of a time
  have set {index : Nat} (adjustment : Adjustment)
      (there :
        accepted ∈ scene.compound.acceptances index
          (Member.acceptances adjustment.parameter adjustment.number)) :
      Time.vanishing < accepted.value := by
    rcases Compound.exists_of_mem_acceptances there with ⟨member, offered⟩
    cases Member.eq_of_mem_acceptances offered
    cases adjustment with
    | stepSize time => exact Time.vanishing_lt_picoseconds allowed.1 allowed.2
    | tolerance value => cases own
  cases request with
  | add draft =>
      have made := (Draft.mem_values_of_mem_acceptances listed).2
      rw [own] at made
      exact .inr made
  | setStepSize time => exact .inl (set (.stepSize time) listed)
  | setTolerance value => exact .inl (set (.tolerance value) listed)
  | setMemberStepSize index time => exact .inl (set (.stepSize time) listed)
  | setMemberTolerance index value => exact .inl (set (.tolerance value) listed)
  | change index changes =>
      rcases Compound.exists_of_mem_acceptances listed with ⟨member, offered⟩
      rcases Changes.exists_eq_of_mem_acceptances offered with ⟨value, rfl⟩
      cases own
  | _ => cases listed

end Request

/-! ## Sessions -/

namespace World

theorem conforms_perform
    {world : World setting compounds size}
    {operation : Operation setting compounds size}
    (grants : operation.request.Grants accepts tolerates)
    (conforms :
      ∀ home, (world.compounds.get home).Conforms accepts tolerates)
    (home : Fin compounds) :
    ((world.perform operation).1.compounds.get home).Conforms accepts
      tolerates := by
  rcases operation with ⟨target, request⟩
  by_cases other : target ≠ home
  · rw [compound_perform_of_ne world other]
    exact conforms home
  · cases not_not.mp other
    rw [compound_perform]
    exact Request.conforms_perform grants (conforms home)

/-- What recorders keep after operations they have kept before, or taken of these. -/
theorem conforms_performAll
    {world : World setting compounds size}
    {operations : List (Operation setting compounds size)}
    (grants :
      ∀ operation ∈ operations, operation.request.Grants accepts tolerates)
    (conforms :
      ∀ home, (world.compounds.get home).Conforms accepts tolerates)
    (home : Fin compounds) :
    ((world.performAll operations).1.compounds.get home).Conforms accepts
      tolerates :=
  holds_performAll
    (fun next =>
      ∀ home, (next.compounds.get home).Conforms accepts tolerates)
    (fun operation member _ conforms =>
      conforms_perform (grants operation member) conforms)
    conforms home

theorem lasting_of_mem_acceptances
    {world : World setting compounds size}
    {operations : List (Operation setting compounds size)}
    {accepted : Acceptance} (listed : accepted ∈ world.acceptances operations)
    (own : accepted.parameter = .stepSize) :
    Time.vanishing < accepted.value ∨
      ∃ operation ∈ operations,
        operation.request.MakesDynamics accepted.value := by
  induction operations generalizing world with
  | nil => cases listed
  | cons operation operations induction =>
      rcases List.mem_append.mp listed with now | later
      · rcases Request.lasting_of_mem_acceptances now own with lasting | made
        · exact .inl lasting
        · exact .inr ⟨operation, List.mem_cons_self, made⟩
      · rcases induction later with lasting | ⟨maker, there, made⟩
        · exact .inl lasting
        · exact .inr ⟨maker, List.mem_cons_of_mem _ there, made⟩

/-- A step size that is above zero, or is no number and was given to a member. -/
def AcceptedStepSize (operations : List (Operation setting compounds size))
    (time : Time) : Prop :=
  0.0 < time.picoseconds ∨
    time.picoseconds.isNaN = true ∧
      ∃ operation ∈ operations, operation.request.givenStepSize = some time

/-- A tolerance that is above zero, or is no number and was given to a member. -/
def AcceptedTolerance (operations : List (Operation setting compounds size))
    (value : Float) : Prop :=
  0.0 < value ∨
    value.isNaN = true ∧
      ∃ operation ∈ operations, operation.request.givenTolerance = some value

/-- Recorders that are made with parameters above zero take no others but what is no number. -/
theorem grants_of_created
    {operations : List (Operation setting compounds size)}
    {operation : Operation setting compounds size}
    (listed : operation ∈ operations)
    (created :
      ∀ draft, operation.request = .add draft → draft.Positive) :
    operation.request.Grants (AcceptedStepSize operations)
      (AcceptedTolerance operations) where
  made := by
    intro draft added
    have positive := created draft added
    cases draft with
    | recorder draft => exact ⟨.inl positive.1, .inl positive.2⟩
    | _ => exact trivial
  stepSize := by
    intro time given accepted
    rcases Double.not_le_zero_iff.mp accepted with positive | strange
    · exact .inl positive
    · exact .inr ⟨strange, operation, listed, given⟩
  tolerance := by
    intro value given accepted
    rcases Double.not_le_zero_iff.mp accepted with positive | strange
    · exact .inl positive
    · exact .inr ⟨strange, operation, listed, given⟩

/-- After any operations recorders have kept accepted parameters only. -/
theorem accepted_performAll
    (contexts : Contexts setting size)
    {operations : List (Operation setting compounds size)}
    (created :
      ∀ operation ∈ operations, ∀ draft, operation.request = .add draft →
        draft.Positive)
    (home : Fin compounds) :
    (((start compounds contexts).performAll operations).1.compounds.get
        home).Conforms (AcceptedStepSize operations)
      (AcceptedTolerance operations) := by
  refine conforms_performAll (fun operation listed => ?_) (fun home => ?_) home
  · exact grants_of_created listed (created operation listed)
  · rw [compound_start]
    exact List.forall_mem_nil _

/--
What dynamics report of the step size that they keep: it is above zero unless
the step size vanishes, and such a one has been there since they were made.
-/
theorem Recorded.reported_of_kept
    {world : World setting compounds size}
    {operations : List (Operation setting compounds size)}
    {contexts : Contexts setting size}
    (recorded :
      world.Recorded ((start compounds contexts).acceptances operations))
    {home : Fin compounds} {member : Member setting size}
    (there : member ∈ (world.compounds.get home).members) {value : Float}
    (kept : member.kept .stepSize = some value) :
    (Time.vanishing < value ∧ 0.0 < member.stepSize.picoseconds) ∨
      (¬ Time.vanishing < value ∧ member.stepSize.picoseconds = 0.0 ∧
        ∃ operation ∈ operations, operation.request.MakesDynamics value) := by
  rcases recorded.latest_of_kept there kept with ⟨⟨finite, positive⟩, last⟩
  have same : member.stepSize = .ofPicoseconds value := by
    rcases member with _ | ⟨_ | _, _⟩ | _ <;> cases kept <;> rfl
  rw [same]
  by_cases lasting : Time.vanishing < value
  · exact
      .inl
        ⟨lasting, Time.picoseconds_ofPicoseconds_pos finite positive lasting⟩
  · have listed := Acceptance.mem_of_latest last
    refine .inr ⟨lasting, ?_, ?_⟩
    · exact Time.picoseconds_ofPicoseconds_eq_zero finite positive lasting
    · exact (lasting_of_mem_acceptances listed rfl).resolve_left lasting

/--
After any operations, whatever their outcomes, the step size and the tolerance
that a member reports are above zero but for two cases, provided that recorders
were made with such.  A recorder may report what is no number, as given to it.
Dynamics may report a step size of zero, if they keep one that vanishes in
seconds; with such a one dynamics must have been made.

Both cases do occur.  Dynamics that keep a vanishing step size report zero for
it.  A recorder takes what is no number whichever way it is given.
-/
theorem reported_of_performAll
    (contexts : Contexts setting size)
    (operations : List (Operation setting compounds size))
    (created :
      ∀ operation ∈ operations, ∀ draft, operation.request = .add draft →
        draft.Positive)
    (home : Fin compounds) :
    let world := ((start compounds contexts).performAll operations).1
    let compound := world.compounds.get home
    (∀ member ∈ compound.members,
      0.0 < member.stepSize.picoseconds ∨
        (member.kind = .recorder ∧ member.stepSize.picoseconds.isNaN = true ∧
          ∃ operation ∈ operations,
            operation.request.givenStepSize = some member.stepSize) ∨
        (member.stepSize.picoseconds = 0.0 ∧
          ∃ value, member.kept .stepSize = some value ∧
            ¬ Time.vanishing < value ∧
            ∃ operation ∈ operations,
              operation.request.MakesDynamics value)) ∧
    (∀ member ∈ compound.members,
      0.0 < member.tolerance ∨
        (member.kind = .recorder ∧ member.tolerance.isNaN = true ∧
          ∃ operation ∈ operations,
            operation.request.givenTolerance = some member.tolerance)) ∧
    (∀ member ∈ compound.members, ∀ value,
      member.kept .stepSize = some value → ¬ Time.vanishing < value →
        member.stepSize.picoseconds = 0.0) ∧
    (∀ (request : Request setting size) (offer : Offer)
        (member : Member setting size),
      request.offer compound = some offer →
      compound.members[offer.index]? = some member →
      member.kind = .recorder → offer.parameter ≠ .friction →
      offer.value.isNaN = true →
      let performed := world.perform ⟨home, request⟩
      performed.2.answer.isOk = true ∧
        ∃ new,
          (performed.1.compounds.get home).members[offer.index]? = some new ∧
            new.reported offer.parameter = some offer.value) := by
  intro world compound
  have recorded : world.Recorded _ := recorded_performAll contexts operations
  have accepted : compound.Conforms _ _ :=
    accepted_performAll contexts created home
  refine ⟨?_, ?_, ?_, ?_⟩
  · intro member there
    cases kept : member.kept .stepSize with
    | some value =>
        rcases recorded.reported_of_kept there kept with
          ⟨-, positive⟩ | ⟨lost, zero, made⟩
        · exact .inl positive
        · exact .inr (.inr ⟨zero, value, rfl, lost, made⟩)
    | none =>
        cases member with
        | recorder recorder =>
            rcases (accepted _ there).1 with positive | strange
            · exact .inl positive
            · exact .inr (.inl ⟨rfl, strange⟩)
        | dynamics scheme dynamics => cases kept
        | idle serial => exact .inl Member.idle_stepSize_pos
  · intro member there
    cases member with
    | recorder recorder =>
        rcases (accepted _ there).2 with positive | strange
        · exact .inl positive
        · exact .inr ⟨rfl, strange⟩
    | dynamics scheme dynamics =>
        have kept :
            (Member.dynamics scheme dynamics).kept .tolerance =
              some dynamics.tolerance :=
          rfl
        exact .inl (recorded.latest_of_kept there kept).1.2
    | idle serial => exact .inl Parameter.allows_standardTolerance.2
  · intro member there value kept lost
    rcases recorded.reported_of_kept there kept with
      ⟨lasting, -⟩ | ⟨-, zero, -⟩
    · exact (lost lasting).elim
    · exact zero
  · intro request offer member offers found recorder other strange performed
    rcases Request.reported_of_isNaN (world.scene home) offers found recorder
        other strange with
      ⟨answered, new, held, shown⟩
    refine ⟨answered, new, ?_, shown⟩
    rw [compound_perform]
    exact held

/-- A recorder that is given numbers only reports parameters above zero. -/
theorem reported_of_numbers :
    let operations : List (Operation .clock 1 1) :=
      [⟨0, .add (.recorder { name := "first" })⟩,
        ⟨0, .setStepSize (.ofPicoseconds 0.004)⟩,
        ⟨0, .setMemberTolerance 0 (-1.0)⟩]
    let compound :=
      ((start 1 #v[0.0]).performAll operations).1.compounds.get 0
    (∀ operation ∈ operations, ∀ draft, operation.request = .add draft →
      draft.Positive) ∧
    compound.members.length = 1 ∧
    ∀ member ∈ compound.members,
      0.0 < member.stepSize.picoseconds ∧ 0.0 < member.tolerance := by
  intro operations compound
  have created :
      ∀ operation ∈ operations, ∀ draft, operation.request = .add draft →
        draft.Positive := by
    intro operation listed draft added
    simp only [operations, List.mem_cons, List.not_mem_nil, or_false] at listed
    rcases listed with rfl | rfl | rfl <;> cases added
    exact ⟨by decide +kernel, by decide +kernel⟩
  have reported := reported_of_performAll #v[0.0] operations created 0
  have numbers :
      ∀ operation ∈ operations,
        (operation.request.givenStepSize.map (·.picoseconds.isNaN)) ≠ some true ∧
        (operation.request.givenTolerance.map (·.isNaN)) ≠ some true := by
    decide +kernel
  refine ⟨created, rfl, fun member there => ⟨?_, ?_⟩⟩
  · rcases reported.1 member there with
      positive | ⟨-, strange, operation, listed, given⟩ |
        ⟨-, value, -, -, operation, listed, made⟩
    · exact positive
    · refine ((numbers operation listed).1 ?_).elim
      rw [given, Option.map_some, strange]
    · simp only [operations, List.mem_cons, List.not_mem_nil, or_false] at listed
      rcases listed with rfl | rfl | rfl <;> cases made
  · rcases reported.2.1 member there with
      positive | ⟨-, strange, operation, listed, given⟩
    · exact positive
    · refine ((numbers operation listed).2 ?_).elim
      rw [given, Option.map_some, strange]

/--
Recorders that were given what is no number report nothing above zero, however
they were made, nor do dynamics that were made with the least step size above zero.
-/
theorem reported_not_positive :
    (let draft : RecorderDraft := { name := "first" }
    let operations : List (Operation .clock 1 1) :=
      [⟨0, .add (.recorder draft)⟩,
        ⟨0, .setStepSize (.ofPicoseconds (0.0 / 0.0))⟩,
        ⟨0, .setTolerance (0.0 / 0.0)⟩]
    let compound :=
      ((start 1 #v[0.0]).performAll operations).1.compounds.get 0
    0.0 < draft.stepSize.picoseconds ∧ 0.0 < draft.tolerance ∧
      ∃ member ∈ compound.members,
        ¬ 0.0 < member.stepSize.picoseconds ∧ ¬ 0.0 < member.tolerance) ∧
    (let operations : List (Operation .particles 1 1) :=
      [⟨0, .add (.dynamics .verlet (.ofBits 1))⟩]
    let vacant : Particles Float := ⟨[], [], [], 1.0⟩
    let compound :=
      ((start 1 #v[vacant]).performAll operations).1.compounds.get 0
    ∃ member ∈ compound.members, ¬ 0.0 < member.stepSize.picoseconds) := by
  decide +kernel

end World

end Stepping
