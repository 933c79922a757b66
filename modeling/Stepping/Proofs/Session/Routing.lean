import Stepping.Proofs.Compound.Moving
import Stepping.Proofs.Compound.Sparing
import Stepping.Proofs.Session.Indices
import Stepping.Proofs.Session.Refusals
import Stepping.Proofs.Session.Selections

/-!
# The compound as its active member

A compound answers for its active member: to ask it for a parameter, to change
one, to take steps with it or to ask for its kinetic energy is to do so with the
active member itself.  The two ways lead to the same state and to the same
answer, but that a compound names the member that it blames.  Steps and energies
need a compound that is bound; one without members says so before all else.

Whatever comes of such a call, the other members and the compound's own data stay
as they are.
-/

namespace Stepping

variable {setting : Setting} {compounds size : Nat}

/-! ## Calls on the active member -/

namespace Compound

variable {compound : Compound setting size} {member : Member setting size}

theorem stepSize_of_found
    (found : compound.members[compound.active]? = some member) :
    compound.stepSize = .ok member.stepSize := by
  rw [stepSize, activeMember_eq_ok_iff.mpr found]
  rfl

theorem tolerance_of_found
    (found : compound.members[compound.active]? = some member) :
    compound.tolerance = .ok member.tolerance := by
  rw [tolerance, activeMember_eq_ok_iff.mpr found]
  rfl

theorem adjust_of_found
    (found : compound.members[compound.active]? = some member)
    (adjustment : Adjustment) :
    compound.adjust adjustment =
      (compound.blameActive (member.adjust adjustment)).map
        (compound.put compound.active) := by
  rw [adjust, activeMember_eq_ok_iff.mpr found]
  show compound.blameActive (member.adjust adjustment) >>= _ = _
  cases member.adjust adjustment <;> rfl

theorem kineticEnergy_of_found
    (found : compound.members[compound.active]? = some member)
    (bound : compound.bound = true) (contexts : Contexts setting size) :
    compound.kineticEnergy contexts =
      compound.blameActive (member.kineticEnergy contexts) := by
  rw [kineticEnergy_of_bound bound, activeMember_eq_ok_iff.mpr found]
  rfl

/-- A bound compound with an active member steps as that member does. -/
theorem step_of_found
    (found : compound.members[compound.active]? = some member)
    (bound : compound.bound = true) (steps : Count)
    (contexts : Contexts setting size) :
    (∀ cause, member.step steps contexts = .error cause →
      compound.step steps contexts =
        ⟨.error (.member compound.active cause), compound, contexts,
          .ofNotice (.stepping compound.active steps)⟩) ∧
    (∀ moved after, member.step steps contexts = .ok (moved, after) →
      compound.step steps contexts =
        ⟨.ok (), compound.put compound.active moved, after,
          .ofNotice (.stepping compound.active steps) ++
            ⟨member.notes (.step steps), []⟩⟩) := by
  have occupied :=
    occupied_of_lt (List.getElem?_eq_some_iff.mp found).1
  constructor
  · intro cause failed
    simp [step, occupied, bound, found, failed]
  · intro moved after stepped
    simp [step, occupied, bound, found, stepped]

end Compound

/-- A call that a compound hands on to its active member. -/
inductive Routed where
  | stepSize
  | setStepSize (stepSize : Time)
  | tolerance
  | setTolerance (tolerance : Float)
  | step (steps : Count)
  | kineticEnergy

/-- A refusal for a member's cause, as the compound that blames the member tells it. -/
def Refusal.blaming (index : Nat) : Refusal → Refusal
  | .member cause => .compound (.member index cause)
  | refusal => refusal

namespace Routed

/-- The call as a request to the compound. -/
def request : Routed → Request setting size
  | .stepSize => .stepSize
  | .setStepSize time => .setStepSize time
  | .tolerance => .tolerance
  | .setTolerance value => .setTolerance value
  | .step steps => .step steps
  | .kineticEnergy => .kineticEnergy

/-- The call as a request for the member at an index; what it is asked for is part of its view. -/
def direct (index : Nat) : Routed → Request setting size
  | .stepSize => .view index
  | .setStepSize time => .setMemberStepSize index time
  | .tolerance => .view index
  | .setTolerance value => .setMemberTolerance index value
  | .step steps => .stepMember index steps
  | .kineticEnergy => .view index

/-- What the call answers if the member has answered a value or shown itself. -/
def told : Routed → Value setting size → Except Refusal (Value setting size)
  | .stepSize, .view member => .ok (.time member.stepSize)
  | .tolerance, .view member => .ok (.real member.tolerance)
  | .kineticEnergy, .view member =>
      (member.kineticEnergy.map .energy).mapError .member
  | _, value => .ok value

/-- Only a bound compound hands the call on. -/
def NeedsBinding : Routed → Prop
  | .step _ => True
  | .kineticEnergy => True
  | _ => False

end Routed

/-! ## Requests -/

/-- The compound's effect comes of the member's, with another answer. -/
structure Effect.Routes
    (tell :
      Except Refusal (Value setting size) → Except Refusal (Value setting size))
    (direct routed : Effect setting size) : Prop where
  scene_eq : routed.scene = direct.scene
  journal_eq : routed.trace.journal = direct.trace.journal
  answer_eq : routed.answer = tell direct.answer

namespace Routed

variable {scene : Scene setting size}

/-- What a compound answers when the member at an index has answered. -/
def retold (call : Routed) (index : Nat)
    (answer : Except Refusal (Value setting size)) :
    Except Refusal (Value setting size) :=
  (answer.bind call.told).mapError (Refusal.blaming index)

/-- A compound without members says so, bound or not. -/
theorem perform_of_empty
    (call : Routed) (vacant : scene.compound.members = []) :
    call.request.perform scene = scene.tell (.error (.compound .empty)) := by
  have absent : scene.compound.activeMember = .error .empty := by
    rw [Compound.activeMember, vacant]
    rfl
  cases call with
  | stepSize =>
      rw [request, Request.perform, Compound.stepSize, absent]
      rfl
  | setStepSize _ | setTolerance _ =>
      show scene.adjusted (scene.compound.adjust _) = _
      rw [Compound.adjust, absent]
      rfl
  | tolerance =>
      rw [request, Request.perform, Compound.tolerance, absent]
      rfl
  | step steps =>
      rw [request, Request.perform, Scene.step, Compound.step, vacant]
      rfl
  | kineticEnergy =>
      rw [request, Request.perform, Compound.kineticEnergy, absent]
      rfl

/-- Without a binding there are neither steps nor an energy. -/
theorem perform_of_not_bound
    {call : Routed} (needs : call.NeedsBinding)
    (occupied : scene.compound.active < scene.compound.members.length)
    (unbound : scene.compound.bound = false) :
    call.request.perform scene = scene.tell (.error (.compound .notBound)) := by
  cases call with
  | step steps =>
      have refused :
          scene.compound.step steps scene.contexts =
            ⟨.error .notBound, scene.compound, scene.contexts, .none⟩ := by
        simp [Compound.step, Compound.occupied_of_lt occupied, unbound]
      rw [request, Request.perform, Scene.step, refused]
      rfl
  | kineticEnergy =>
      have present :=
        Compound.activeMember_eq_ok_iff.mpr (List.getElem?_eq_getElem occupied)
      rw [request, Request.perform, Compound.kineticEnergy_of_not_bound unbound,
        present]
      rfl
  | _ => exact needs.elim

/-- A compound that hands a call on does what the active member does. -/
theorem routes_perform
    {call : Routed} {member : Member setting size}
    (found : scene.compound.members[scene.compound.active]? = some member)
    (bound : call.NeedsBinding → scene.compound.bound = true) :
    Effect.Routes (call.retold scene.compound.active)
      ((call.direct scene.compound.active).perform scene)
      (call.request.perform scene) := by
  have viewed :
      (Request.view scene.compound.active).perform scene =
        scene.tell (.ok (.view (member.view scene.contexts))) := by
    rw [Request.perform, Compound.member, found]
    rfl
  cases call with
  | stepSize =>
      rw [request, direct, viewed, Request.perform,
        Compound.stepSize_of_found found]
      exact ⟨rfl, rfl, rfl⟩
  | tolerance =>
      rw [request, direct, viewed, Request.perform,
        Compound.tolerance_of_found found]
      exact ⟨rfl, rfl, rfl⟩
  | kineticEnergy =>
      have energy :
          (member.view scene.contexts).kineticEnergy =
            member.kineticEnergy scene.contexts :=
        rfl
      rw [request, direct, viewed, Request.perform,
        Compound.kineticEnergy_of_found found (bound trivial)]
      cases reported : member.kineticEnergy scene.contexts with
      | ok value =>
          refine ⟨rfl, rfl, ?_⟩
          show _ = ((told .kineticEnergy (.view _)).mapError _)
          rw [told, energy, reported]
          rfl
      | error cause =>
          refine ⟨rfl, rfl, ?_⟩
          show _ = ((told .kineticEnergy (.view _)).mapError _)
          rw [told, energy, reported]
          rfl
  | setStepSize _ | setTolerance _ =>
      rw [direct, Request.perform, Scene.withMember_of_found found]
      show Effect.Routes _ (scene.adjustedMember _ (member.adjust _))
        (scene.adjusted (scene.compound.adjust _))
      rw [Compound.adjust_of_found found]
      generalize member.adjust _ = answer
      cases answer <;> exact ⟨rfl, rfl, rfl⟩
  | step steps =>
      rcases Compound.step_of_found found (bound trivial) steps
          scene.contexts with
        ⟨refused, taken⟩
      rw [request, direct, Request.perform, Request.perform,
        Scene.withMember_of_found found, Scene.step, Scene.stepMember]
      cases stepped : member.step steps scene.contexts with
      | error cause =>
          rw [refused cause stepped]
          exact ⟨rfl, rfl, rfl⟩
      | ok result =>
          rw [taken result.1 result.2 stepped]
          exact ⟨rfl, rfl, rfl⟩

/-- Whatever comes of the call, all members are spared but the active one. -/
theorem spares_perform (call : Routed) (scene : Scene setting size) :
    scene.compound.Spares [scene.compound.active]
        (call.request.perform scene).scene.compound ∧
      scene.compound.Led [] (call.request.perform scene).scene.compound := by
  have same (answer : Except Refusal (Value setting size)) :
      scene.compound.Spares [scene.compound.active]
        (scene.tell answer).scene.compound :=
    (Compound.Spares.refl scene.compound).mono (List.nil_subset _)
  have adjusted (adjustment : Adjustment) :
      scene.compound.Spares [scene.compound.active]
        (scene.adjusted (scene.compound.adjust adjustment)).scene.compound := by
    cases accepted : scene.compound.adjust adjustment with
    | error cause => exact same _
    | ok changed => exact Compound.spares_adjust accepted
  refine ⟨?_, Request.steady_perform (by cases call <;> trivial) scene⟩
  cases call with
  | stepSize =>
      rw [request, Request.perform]
      cases scene.compound.stepSize <;> exact same _
  | tolerance =>
      rw [request, Request.perform]
      cases scene.compound.tolerance <;> exact same _
  | kineticEnergy =>
      rw [request, Request.perform]
      cases scene.compound.kineticEnergy scene.contexts <;> exact same _
  | setStepSize time => exact adjusted (.stepSize time)
  | setTolerance value => exact adjusted (.tolerance value)
  | step steps =>
      have spares := scene.compound.spares_step steps scene.contexts
      rw [request, Request.perform, Scene.step]
      cases (scene.compound.step steps scene.contexts).answer <;> exact spares

end Routed

/-! ## Sessions -/

namespace World

/-- An operation that only answers leaves the world as it is and notes nothing. -/
theorem perform_of_tell
    (world : World setting compounds size) {home : Fin compounds}
    {request : Request setting size}
    {answer : Except Refusal (Value setting size)}
    (tells :
      request.perform (world.scene home) = (world.scene home).tell answer) :
    (world.perform ⟨home, request⟩).1 = world ∧
      (world.perform ⟨home, request⟩).2.answer = answer ∧
      (world.perform ⟨home, request⟩).2.trace = .none := by
  have effect :
      request.perform
          ⟨world.compounds.get home, world.contexts, world.made⟩ =
        (world.scene home).tell answer :=
    tells
  have same :
      world.compounds.set home (world.compounds.get home) = world.compounds :=
    Vector.set_getElem_self home.isLt
  simp [perform, effect, Scene.tell, scene, same]

/--
After any operations a compound answers six calls for its active member.

Without members it answers that it is empty, bound or not.  Without a binding it
takes no steps and tells no energy, and says that it is not bound; no member is
called.  Else the active member is there, and the call does what it does when it
is made on that member: the same is left, the same is noted in the journal, and
the same is answered, but that a failure of the member is told as that of the
member at its index.

Whatever comes of it, no other member and no other compound changes, and the
compound keeps the members that it has, its active one and its binding.
-/
theorem routed_of_performAll
    (contexts : Contexts setting size)
    (operations : List (Operation setting compounds size))
    (home : Fin compounds) (call : Routed) :
    let world := ((start compounds contexts).performAll operations).1
    let compound := world.compounds.get home
    let routed := world.perform ⟨home, call.request⟩
    let next := routed.1.compounds.get home
    (compound.members = [] →
      routed.1 = world ∧ routed.2.answer = .error (.compound .empty) ∧
        routed.2.trace = .none) ∧
    (∀ index, compound.activeIndex = some index →
      index < compound.members.length ∧
      (call.NeedsBinding → compound.bound = false →
        routed.1 = world ∧ routed.2.answer = .error (.compound .notBound) ∧
          routed.2.trace = .none) ∧
      ((call.NeedsBinding → compound.bound = true) →
        let direct := world.perform ⟨home, call.direct index⟩
        routed.1 = direct.1 ∧
          routed.2.trace.journal = direct.2.trace.journal ∧
          routed.2.answer = call.retold index direct.2.answer)) ∧
    (∀ place, place ≠ compound.active →
      next.members[place]? = compound.members[place]?) ∧
    next.identities = compound.identities ∧
    next.active = compound.active ∧ next.bound = compound.bound ∧
    ∀ other, home ≠ other →
      routed.1.compounds.get other = world.compounds.get other := by
  intro world compound routed next
  have points : compound.Points _ := points_performAll contexts operations home
  have left : next = (call.request.perform (world.scene home)).scene.compound :=
    world.compound_perform home call.request
  rcases call.spares_perform (world.scene home) with ⟨spares, led⟩
  rw [← left] at spares led
  refine ⟨?_, ?_, ?_, spares.identities_eq, led.active_eq, spares.bound_eq, ?_⟩
  · intro vacant
    exact world.perform_of_tell (call.perform_of_empty vacant)
  · intro index chosen
    have occupied : compound.members ≠ [] := by
      intro vacant
      rw [Compound.activeIndex_eq_none_iff.mpr vacant] at chosen
      cases chosen
    have inside := points.active_lt occupied
    have active : compound.active = index := by
      rw [Compound.activeIndex, if_neg (by simpa using occupied)] at chosen
      exact Option.some.inj chosen
    subst active
    refine ⟨inside, ?_, ?_⟩
    · intro needs unbound
      exact
        world.perform_of_tell (call.perform_of_not_bound needs inside unbound)
    · intro bound direct
      have found :
          (world.scene home).compound.members[compound.active]? =
            some compound.members[compound.active] :=
        List.getElem?_eq_getElem inside
      have routes := Routed.routes_perform found bound
      exact
        ⟨world.perform_eq_of_scene routes.scene_eq, routes.journal_eq,
          routes.answer_eq⟩
  · intro place differ
    exact
      spares.others place fun among => differ (List.mem_singleton.mp among)
  · intro other away
    exact compound_perform_of_ne world away

end World

end Stepping
