import Stepping.Proofs.Session.Records

/-!
# Parameters over whole sessions

A value may be offered to dynamics through the compound, for the active member,
or past it, to the member at an index; the friction is only offered past it.
Whichever path it takes, the value is refused just if it does not meet the
condition of its parameter, and then nothing is changed.  With what is on record
this tells which values dynamics keep after any operations.
-/

namespace Stepping

variable {setting : Setting} {compounds size : Nat}

/-! ## Offers -/

/-- A value that is offered to the member at an index for a parameter. -/
structure Offer where
  index : Nat
  parameter : Parameter
  value : Float

/-- The value that a request offers to a single member of a compound. -/
def Request.offer (compound : Compound setting size) :
    Request setting size → Option Offer
  | .setStepSize time => some ⟨compound.active, .stepSize, time.picoseconds⟩
  | .setTolerance value => some ⟨compound.active, .tolerance, value⟩
  | .setMemberStepSize index time => some ⟨index, .stepSize, time.picoseconds⟩
  | .setMemberTolerance index value => some ⟨index, .tolerance, value⟩
  | .change index (.langevin [.setFriction friction]) =>
      some ⟨index, .friction, friction⟩
  | _ => none

/-- What a request answers if the member refuses what it is offered. -/
def Request.refusal (offer : Offer) : Request setting size → Refusal
  | .setStepSize _ =>
      .compound
        (.member offer.index (.dynamics (offer.parameter.refusal offer.value)))
  | .setTolerance _ =>
      .compound
        (.member offer.index (.dynamics (offer.parameter.refusal offer.value)))
  | _ => .member (.dynamics (offer.parameter.refusal offer.value))

namespace Request

variable {scene : Scene setting size}

/-- What comes of an offer: the value is kept, or it is refused and nothing else is done. -/
structure Meets (scene : Scene setting size) (offer : Offer)
    (member : Member setting size) (refusal : Refusal)
    (effect : Effect setting size) : Prop where
  accepted :
    offer.parameter.Allows offer.value →
      effect.answer.isOk = true ∧
        effect.scene =
          scene.withCompound
            (scene.compound.put offer.index
              (member.keeping offer.parameter offer.value))
  refused :
    ¬ offer.parameter.Allows offer.value →
      effect = scene.tell (.error refusal)

theorem meets_adjustedMember
    (index : Nat) {member : Member setting size} (adjustment : Adjustment)
    (keeps : (member.kept adjustment.parameter).isSome = true) :
    Meets scene ⟨index, adjustment.parameter, adjustment.number⟩ member
      (.member
        (.dynamics (adjustment.parameter.refusal adjustment.number)))
      (scene.adjustedMember index (member.adjust adjustment)) := by
  rw [Member.adjust_of_kept keeps, Member.accept]
  constructor
  · intro allowed
    rw [if_pos allowed]
    exact ⟨rfl, rfl⟩
  · intro refused
    rw [if_neg refused]
    rfl

theorem meets_adjusted
    {member : Member setting size} (adjustment : Adjustment)
    (found : scene.compound.members[scene.compound.active]? = some member)
    (keeps : (member.kept adjustment.parameter).isSome = true) :
    Meets scene
      ⟨scene.compound.active, adjustment.parameter, adjustment.number⟩ member
      (.compound
        (.member scene.compound.active
          (.dynamics (adjustment.parameter.refusal adjustment.number))))
      (scene.adjusted (scene.compound.adjust adjustment)) := by
  rw [Compound.adjust_of_found found, Member.adjust_of_kept keeps, Member.accept]
  constructor
  · intro allowed
    rw [if_pos allowed]
    exact ⟨rfl, rfl⟩
  · intro refused
    rw [if_neg refused]
    rfl

/-- A single friction is set past the compound as other parameters are. -/
theorem meets_setFriction
    {index : Nat} {friction : Float} {member : Member setting size}
    (found : scene.compound.members[index]? = some member)
    (keeps : (member.kept .friction).isSome = true) :
    Meets scene ⟨index, .friction, friction⟩ member
      (.member (.dynamics (.invalidFriction friction)))
      (scene.change index (.langevin [.setFriction friction]) member) := by
  rw [Scene.change, Changes.make_setFriction keeps, Member.accept]
  constructor
  · intro allowed
    rw [if_pos allowed]
    exact ⟨rfl, rfl⟩
  · intro refused
    rw [if_neg refused]
    rcases List.getElem?_eq_some_iff.mp found with ⟨inside, rfl⟩
    have same :
        scene.compound.put index scene.compound.members[index] =
          scene.compound := by
      rw [Compound.put, List.set_getElem_self]
    dsimp only
    rw [same]
    rfl

/-- What offers a value adjusts a member, through its compound or past it, or sets a friction. -/
theorem offer_cases
    {request : Request setting size} {compound : Compound setting size}
    {offer : Offer} (offers : request.offer compound = some offer) :
    (∃ adjustment : Adjustment,
      request = adjust adjustment ∧
        offer =
          ⟨compound.active, adjustment.parameter, adjustment.number⟩) ∨
    (∃ index, ∃ adjustment : Adjustment,
      request = adjustMember index adjustment ∧
        offer = ⟨index, adjustment.parameter, adjustment.number⟩) ∨
    ∃ index friction,
      request = .change index (.langevin [.setFriction friction]) ∧
        offer = ⟨index, .friction, friction⟩ := by
  rw [Request.offer.eq_def] at offers
  split at offers
  · exact .inl ⟨.stepSize _, rfl, (Option.some.inj offers).symm⟩
  · exact .inl ⟨.tolerance _, rfl, (Option.some.inj offers).symm⟩
  · exact .inr (.inl ⟨_, .stepSize _, rfl, (Option.some.inj offers).symm⟩)
  · exact .inr (.inl ⟨_, .tolerance _, rfl, (Option.some.inj offers).symm⟩)
  · exact .inr (.inr ⟨_, _, rfl, (Option.some.inj offers).symm⟩)
  · cases offers

/-- A request that offers a value has it accepted or refused, whichever path it takes. -/
theorem meets_perform
    {request : Request setting size} {offer : Offer}
    (offers : request.offer scene.compound = some offer)
    {member : Member setting size}
    (found : scene.compound.members[offer.index]? = some member)
    (keeps : (member.kept offer.parameter).isSome = true) :
    Meets scene offer member (request.refusal offer) (request.perform scene) := by
  rcases offer_cases offers with
    ⟨adjustment, rfl, rfl⟩ | ⟨index, adjustment, rfl, rfl⟩ |
      ⟨index, friction, rfl, rfl⟩
  · rw [perform_adjust]
    cases adjustment <;> exact meets_adjusted _ found keeps
  · rw [perform_adjustMember, Scene.withMember_of_found found]
    cases adjustment <;> exact meets_adjustedMember index _ keeps
  · rw [perform, Scene.withMember_of_found found]
    exact meets_setFriction found keeps

/-- A request to make changes says so if all of them are made. -/
theorem made_of_change
    {index : Nat} {changes : Changes size} {member : Member setting size}
    (told :
      (scene.change index changes member).answer = .ok (.changed true)) :
    ∃ changed notes,
      changes.make scene.contexts member = some (.ok (), changed, notes) := by
  rw [Scene.change] at told
  cases made : changes.make scene.contexts member with
  | none =>
      rw [made] at told
      cases told
  | some result =>
      rw [made] at told
      rcases result with ⟨cause | nothing, changed, notes⟩
      · cases told
      · exact ⟨changed, notes, rfl⟩

/-- Where no change is refused, those behind them are made as by a request of their own. -/
theorem change_append_of_made
    {index : Nat} {first : List (LangevinChange size)}
    {member changed : Member setting size} {notes : List Entry}
    (found : scene.compound.members[index]? = some member)
    (made :
      (Changes.langevin first).make scene.contexts member =
        some (.ok (), changed, notes))
    (rest : List (LangevinChange size)) :
    let before := scene.change index (.langevin first) member
    let after := (change index (.langevin rest)).perform before.scene
    let both := scene.change index (.langevin (first ++ rest)) member
    before.answer = .ok (.changed true) ∧
      both.answer = after.answer ∧ both.scene = after.scene := by
  intro before after both
  rcases Changes.make_langevin_append made rest with
    ⟨answer, last, further, next, all⟩
  have left :
      before =
        ⟨.ok (.changed true),
          scene.withCompound (scene.compound.put index changed), ⟨notes, []⟩⟩ := by
    show scene.change index (.langevin first) member = _
    rw [Scene.change, made]
  have there : before.scene.compound.members[index]? = some changed := by
    rw [left]
    exact Compound.getElem?_put_self found
  have contexts : before.scene.contexts = scene.contexts := by
    rw [left]
    rfl
  have right : after = before.scene.change index (.langevin rest) changed :=
    Scene.withMember_of_found there _
  have same : both = scene.change index (.langevin (first ++ rest)) member :=
    rfl
  rw [Scene.change, contexts, next] at right
  rw [Scene.change, all] at same
  rw [same, right, left]
  refine ⟨rfl, rfl, ?_⟩
  simp [Scene.withCompound, Compound.put]

/--
Several changes to Langevin dynamics are those of a request for each, up to the
first refused.
-/
theorem perform_changes_append
    (scene : Scene setting size) (index : Nat)
    (first rest : List (LangevinChange size)) :
    let before := (change index (.langevin first)).perform scene
    let both := (change index (.langevin (first ++ rest))).perform scene
    (before.answer = .ok (.changed true) →
      let after := (change index (.langevin rest)).perform before.scene
      both.answer = after.answer ∧ both.scene = after.scene) ∧
    (before.answer ≠ .ok (.changed true) →
      both.answer = before.answer ∧ both.scene = before.scene) := by
  intro before both
  cases found : scene.compound.members[index]? with
  | none =>
      have absent (changes : Changes size) :
          (change index changes).perform scene =
            scene.tell
              (.error
                (.compound
                  (.indexOutOfRange index scene.compound.members.length))) := by
        rw [perform, Scene.withMember, Compound.member, found]
      have left : before = _ := absent (.langevin first)
      have same : both = _ := absent (.langevin (first ++ rest))
      rw [left, same]
      refine ⟨fun told => ?_, fun _ => ⟨rfl, rfl⟩⟩
      cases told
  | some member =>
      have left : before = scene.change index (.langevin first) member :=
        Scene.withMember_of_found found _
      have same : both = scene.change index (.langevin (first ++ rest)) member :=
        Scene.withMember_of_found found _
      rw [left, same]
      constructor
      · intro told
        rcases made_of_change told with ⟨changed, notes, made⟩
        exact (change_append_of_made found made rest).2
      · intro untold
        have refused :
            ∀ changed notes,
              (Changes.langevin first).make scene.contexts member ≠
                some (.ok (), changed, notes) := by
          intro changed notes made
          exact untold (change_append_of_made found made []).1
        rw [Scene.change, Scene.change,
          Changes.make_langevin_append_of_refused refused]
        exact ⟨rfl, rfl⟩

end Request

namespace World

/-! ## Operations -/

/-- An operation leaves of its compound's scene what its request leaves. -/
theorem perform_eq_set
    (world : World setting compounds size) (home : Fin compounds)
    (request : Request setting size) :
    let after := (request.perform (world.scene home)).scene
    (world.perform ⟨home, request⟩).1 =
        ⟨world.compounds.set home after.compound, after.contexts, after.made⟩ ∧
      (world.perform ⟨home, request⟩).1.scene home = after := by
  intro after
  refine ⟨rfl, ?_⟩
  rw [scene, compound_perform]
  rfl

/-- An operation that leaves nothing but another compound. -/
theorem perform_of_withCompound
    (world : World setting compounds size) {home : Fin compounds}
    {request : Request setting size} {changed : Compound setting size}
    (left :
      (request.perform (world.scene home)).scene =
        (world.scene home).withCompound changed) :
    (world.perform ⟨home, request⟩).1 =
      { world with compounds := world.compounds.set home changed } := by
  rw [(world.perform_eq_set home request).1, left]
  rfl

/-- Several changes to Langevin dynamics are those of an operation for each. -/
theorem perform_changes_append
    (world : World setting compounds size) (home : Fin compounds) (index : Nat)
    (first rest : List (LangevinChange size)) :
    let before := world.perform ⟨home, .change index (.langevin first)⟩
    let both := world.perform ⟨home, .change index (.langevin (first ++ rest))⟩
    (before.2.answer = .ok (.changed true) →
      let after := before.1.perform ⟨home, .change index (.langevin rest)⟩
      both.2.answer = after.2.answer ∧ both.1 = after.1) ∧
    (before.2.answer ≠ .ok (.changed true) →
      both.2.answer = before.2.answer ∧ both.1 = before.1) := by
  intro before both
  rcases Request.perform_changes_append (world.scene home) index first rest with
    ⟨made, refused⟩
  rcases world.perform_eq_set home (.change index (.langevin first)) with
    ⟨left, there⟩
  rcases world.perform_eq_set home (.change index (.langevin (first ++ rest)))
    with ⟨all, -⟩
  constructor
  · intro told after
    rcases made told with ⟨answer, same⟩
    rw [← there] at answer same
    refine ⟨answer, all.trans ?_⟩
    rcases before.1.perform_eq_set home (.change index (.langevin rest)) with
      ⟨right, -⟩
    rw [right, same, left, Vector.set_set]
  · intro untold
    rcases refused untold with ⟨answer, same⟩
    refine ⟨answer, all.trans ?_⟩
    rw [left, same]

/--
After any operations, whatever their outcomes, the step size and the tolerance of
dynamics are finite and above zero, and the friction of Langevin dynamics is
finite and not below zero.  Each is the latest that these have accepted, be it
when they were made, through the compound, or past it; a step size is taken in
picoseconds.

An offer is refused just if the value fails its condition.  The refusal carries
the value, and everything stays as it is; otherwise the member keeps the value
from then on, and nothing else changes.  Several frictions that are set at once
are set one after another, up to the first that is refused.  Of the values that
dynamics are to be made with, the first that fails its condition is refused.
-/
theorem parameters_of_performAll
    (contexts : Contexts setting size)
    (operations : List (Operation setting compounds size))
    (home : Fin compounds) :
    let before := start compounds contexts
    let world := (before.performAll operations).1
    let compound := world.compounds.get home
    (∀ member ∈ compound.members, ∀ parameter value,
      member.kept parameter = some value →
        parameter.Allows value ∧
          Acceptance.latest member.serial parameter
            (before.acceptances operations) = some value) ∧
    (∀ (request : Request setting size) (offer : Offer)
        (member : Member setting size),
      request.offer compound = some offer →
      compound.members[offer.index]? = some member →
      (member.kept offer.parameter).isSome = true →
      let performed := world.perform ⟨home, request⟩
      (offer.parameter.Allows offer.value →
        performed.2.answer.isOk = true ∧
        performed.1 =
          { world with
            compounds :=
              world.compounds.set home
                (compound.put offer.index
                  (member.keeping offer.parameter offer.value)) }) ∧
      (¬ offer.parameter.Allows offer.value →
        performed.2.answer = .error (request.refusal offer) ∧
          performed.1 = world ∧ performed.2.trace = .none)) ∧
    (∀ index (first rest : List (LangevinChange size)),
      let made := world.perform ⟨home, .change index (.langevin first)⟩
      let both :=
        world.perform ⟨home, .change index (.langevin (first ++ rest))⟩
      (made.2.answer = .ok (.changed true) →
        let after := made.1.perform ⟨home, .change index (.langevin rest)⟩
        both.2.answer = after.2.answer ∧ both.1 = after.1) ∧
      (made.2.answer ≠ .ok (.changed true) →
        both.2.answer = made.2.answer ∧ both.1 = made.1)) ∧
    (∀ draft : Draft setting,
      (draft.Allowed ↔
        ∃ member : Member setting size, draft.build world.made = .ok member) ∧
      ∀ parameter value,
        draft.values.find? (fun pair => ¬ pair.1.Allows pair.2) =
            some (parameter, value) →
          let performed := world.perform ⟨home, .add draft⟩
          performed.2.answer =
              .error (.member (.dynamics (parameter.refusal value))) ∧
            performed.1 = world ∧ performed.2.trace = .none) := by
  intro before world compound
  have recorded : world.Recorded (before.acceptances operations) :=
    recorded_performAll contexts operations
  refine ⟨?_, ?_, world.perform_changes_append home, ?_⟩
  · intro member there parameter value kept
    exact recorded.latest_of_kept there kept
  · intro request offer member offers found keeps performed
    have meets : Request.Meets (world.scene home) offer member _ _ :=
      Request.meets_perform offers found keeps
    constructor
    · intro allowed
      rcases meets.accepted allowed with ⟨answered, left⟩
      exact ⟨answered, world.perform_of_withCompound left⟩
    · intro refused
      rcases world.perform_of_tell (meets.refused refused) with
        ⟨same, answer, trace⟩
      exact ⟨answer, same, trace⟩
  · intro draft
    refine ⟨⟨(Draft.exists_of_allowed · _), ?_⟩, ?_⟩
    · rintro ⟨member, built⟩
      exact Draft.allowed_of_build built
    · intro parameter value first performed
      have tells :
          (Request.add draft).perform (world.scene home) =
            (world.scene home).tell
              (.error (.member (.dynamics (parameter.refusal value)))) := by
        rw [Request.perform, Scene.add, Draft.build_of_find? first]
      rcases world.perform_of_tell tells with ⟨same, answer, trace⟩
      exact ⟨answer, same, trace⟩

/-- Of several values that are offered, those are kept that were last among the allowed ones. -/
example :
    let operations : List (Operation .particles 1 1) :=
      [⟨0, .add (.dynamics (.langevin 0.5) 0.0)⟩,
        ⟨0, .add (.dynamics (.langevin 0.5) 0.002)⟩,
        ⟨0, .setStepSize ⟨1.0 / 0.0⟩⟩,
        ⟨0, .setTolerance 1e-7⟩,
        ⟨0, .setMemberTolerance 0 (0.0 / 0.0)⟩,
        ⟨0, .change 0
          (.langevin [.setFriction 2.0, .attach 0, .setFriction 3.0])⟩]
    let vacant : Particles Float := ⟨[], [], [], 1.0⟩
    let world := ((start 1 #v[vacant]).performAll operations).1
    (world.compounds.get 0).members.map
        (fun member =>
          (member.kept .stepSize, member.kept .tolerance,
            member.kept .friction)) =
      [(some 0.002, some 1e-7, some 2.0)] := by
  decide +kernel

end World

end Stepping
