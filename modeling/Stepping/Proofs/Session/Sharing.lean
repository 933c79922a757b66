import Stepping.Proofs.Member.Calls
import Stepping.Proofs.Particles.Each
import Stepping.Proofs.Schedule.Chunking
import Stepping.Proofs.Session.Indices

/-!
# Members share their steps

All that dynamics put into the system that they are attached to is their scheme
and their step size.  Their counter does not act on it, and no step leaves
anything behind but the system and the counter.  So steps taken in two calls are
the steps of both in one, and among dynamics that follow one scheme at one step
size on one system it makes no difference which of them takes how many of the
steps, in what order, and whether they take them by themselves or through a
compound that makes them active first.
-/

namespace Stepping

variable {compounds size : Nat}

/-! ## Turns -/

/-- Steps to be taken with one member of one of the compounds. -/
structure Turn (compounds : Nat) where
  compound : Fin compounds
  index : Nat
  steps : Count
  /-- Whether the member is made the active one, and its compound takes the steps. -/
  throughCompound : Bool
deriving DecidableEq

/-- The operations of a turn, in order. -/
def Turn.operations (turn : Turn compounds) :
    List (Operation .particles compounds size) :=
  if turn.throughCompound then
    [⟨turn.compound, .select turn.index⟩, ⟨turn.compound, .step turn.steps⟩]
  else
    [⟨turn.compound, .stepMember turn.index turn.steps⟩]

/-- The number of steps that are taken in all turns together. -/
def Turn.total (turns : List (Turn compounds)) : Nat :=
  (turns.map fun turn => turn.steps.toNat).sum

/--
A turn may be taken as with the given dynamics: its member follows their scheme
at their step size on the system that they are attached to.  A compound that
takes the steps must be bound.
-/
structure World.Admits (world : World .particles compounds size)
    (scheme : Dynamics.Scheme) (dynamics : Dynamics size)
    (turn : Turn compounds) : Prop where
  found :
    ∃ other,
      (world.compounds.get turn.compound).members[turn.index]? =
          some (.dynamics scheme other) ∧
        other.stepSize = dynamics.stepSize ∧
        other.attachment = dynamics.attachment
  bound :
    turn.throughCompound = true →
      (world.compounds.get turn.compound).bound = true

/-! ## What steps leave as it is -/

namespace Compound

/-- A compound that is as before but for counters and for which member is active. -/
structure Steady (first second : Compound .particles size) : Prop where
  alike : first.Alike second
  update_eq : second.update = first.update

theorem Steady.refl (compound : Compound .particles size) :
    compound.Steady compound :=
  ⟨⟨rfl, rfl⟩, rfl⟩

theorem Steady.trans {first second third : Compound .particles size}
    (left : first.Steady second) (right : second.Steady third) :
    first.Steady third :=
  ⟨left.alike.trans right.alike, right.update_eq.trans left.update_eq⟩

theorem steady_activated (compound : Compound .particles size) (index : Nat) :
    compound.Steady { compound with active := index } :=
  ⟨⟨rfl, rfl⟩, rfl⟩

theorem steady_put_counted
    {compound : Compound .particles size} {index : Nat}
    {member : Member .particles size}
    (found : compound.members[index]? = some member) (steps : Count) :
    compound.Steady (compound.put index (member.counted steps)) :=
  ⟨⟨rfl, map_members_put Member.fault found (Member.fault_counted steps member)⟩,
    update_congr
      (map_members_put Member.update found
        (Member.update_counted steps member))⟩

/-- The member at an index can take steps, each of which changes the systems in one way. -/
structure Offers (compound : Compound .particles size) (index : Nat)
    (change : Contexts .particles size → Contexts .particles size) : Prop where
  sound : compound.faults[index]? = some none
  update_eq : compound.update index = change

theorem Steady.offers {first second : Compound .particles size}
    (steady : first.Steady second) {index : Nat}
    {change : Contexts .particles size → Contexts .particles size}
    (offers : first.Offers index change) : second.Offers index change where
  sound := by rw [steady.alike.faults_eq, offers.sound]
  update_eq := by rw [steady.update_eq, offers.update_eq]

theorem Offers.member {compound : Compound .particles size} {index : Nat}
    {change : Contexts .particles size → Contexts .particles size}
    (offers : compound.Offers index change) :
    ∃ member, compound.members[index]? = some member ∧
      member.fault = none ∧ member.update = change := by
  rcases faults_eq_some_iff.mp offers.sound with ⟨member, found, sound⟩
  refine ⟨member, found, sound, ?_⟩
  rw [← offers.update_eq, update_of_getElem? found]

end Compound

/-! ## Single requests -/

/--
An effect that answers with nothing, changes the systems in a certain way, and
leaves the compound as it was but for counters and for which member is active.
-/
structure Effect.Smooth (scene : Scene .particles size)
    (change : Contexts .particles size → Contexts .particles size)
    (effect : Effect .particles size) : Prop where
  answer_eq : effect.answer = .ok .nothing
  contexts_eq : effect.scene.contexts = change scene.contexts
  steady : scene.compound.Steady effect.scene.compound

namespace Request

variable {scene : Scene .particles size} {index : Nat}
  {change : Contexts .particles size → Contexts .particles size}

theorem smooth_stepMember (offers : scene.compound.Offers index change)
    (steps : Count) :
    ((Request.stepMember index steps).perform scene).Smooth scene
      change^[steps.toNat] := by
  rcases offers.member with ⟨member, found, sound, rfl⟩
  rw [perform, Scene.withMember_of_found found, Scene.stepMember,
    Member.step_of_sound sound]
  exact ⟨rfl, rfl, Compound.steady_put_counted found steps⟩

theorem perform_select_of_offers (offers : scene.compound.Offers index change) :
    ∃ trace,
      (Request.select index).perform scene =
        ⟨.ok .nothing,
          scene.withCompound { scene.compound with active := index }, trace⟩ := by
  rcases offers.member with ⟨member, found, -, -⟩
  have inside := (List.getElem?_eq_some_iff.mp found).1
  rw [perform, Compound.select, if_pos inside]
  exact ⟨_, rfl⟩

theorem smooth_step
    (bound : scene.compound.bound = true)
    (offers : scene.compound.Offers scene.compound.active change)
    (steps : Count) :
    ((Request.step steps).perform scene).Smooth scene
      change^[steps.toNat] := by
  rcases offers.member with ⟨member, found, sound, rfl⟩
  rcases Compound.step_of_sound bound found sound steps scene.contexts with
    ⟨trace, stepped⟩
  rw [perform, Scene.step, stepped]
  exact ⟨rfl, rfl, Compound.steady_put_counted found steps⟩

end Request

namespace World

variable {world : World .particles compounds size}
  {change : Contexts .particles size → Contexts .particles size}

/-! ## Single turns -/

/-- A turn can be taken, and each of its steps changes the systems in one way. -/
structure Opens (world : World .particles compounds size)
    (change : Contexts .particles size → Contexts .particles size)
    (turn : Turn compounds) : Prop where
  offers : (world.compounds.get turn.compound).Offers turn.index change
  bound :
    turn.throughCompound = true →
      (world.compounds.get turn.compound).bound = true

/--
After operations in a world all of them have been answered with nothing, the
systems have changed in a certain way, and every compound is as it was but for
counters and for which member is active.
-/
structure Smooth (world : World .particles compounds size)
    (change : Contexts .particles size → Contexts .particles size)
    (session :
      World .particles compounds size × List (Report .particles size)) :
    Prop where
  answers : ∀ report ∈ session.2, report.answer = .ok .nothing
  contexts_eq : session.1.contexts = change world.contexts
  steady :
    ∀ home,
      (world.compounds.get home).Steady (session.1.compounds.get home)

/-- A turn that can be taken can still be taken after others. -/
theorem Smooth.opens
    {other : Contexts .particles size → Contexts .particles size}
    {session : World .particles compounds size × List (Report .particles size)}
    (smooth : world.Smooth other session) {turn : Turn compounds}
    (opens : world.Opens change turn) : session.1.Opens change turn where
  offers := (smooth.steady turn.compound).offers opens.offers
  bound := fun through => by
    rw [(smooth.steady turn.compound).alike.bound_eq]
    exact opens.bound through

theorem smooth_nil (world : World .particles compounds size) :
    world.Smooth id (world.performAll []) where
  answers := by simp [performAll]
  contexts_eq := rfl
  steady := fun home => .refl (world.compounds.get home)

theorem smooth_append
    {first second : Contexts .particles size → Contexts .particles size}
    {earlier later : List (Operation .particles compounds size)}
    (front : world.Smooth first (world.performAll earlier))
    (back :
      (world.performAll earlier).1.Smooth second
        ((world.performAll earlier).1.performAll later)) :
    world.Smooth (second ∘ first) (world.performAll (earlier ++ later)) := by
  rw [performAll_append]
  constructor
  case answers =>
    intro report told
    rcases List.mem_append.mp told with told | told
    · exact front.answers report told
    · exact back.answers report told
  case contexts_eq =>
    rw [back.contexts_eq, front.contexts_eq]
    rfl
  case steady =>
    exact fun home => (front.steady home).trans (back.steady home)

/-- What an operation leaves to the compound that it was for. -/
theorem scene_perform
    (world : World .particles compounds size) (home : Fin compounds)
    (request : Request .particles size) :
    (world.perform ⟨home, request⟩).1.scene home =
      (request.perform (world.scene home)).scene := by
  have left := world.compound_perform home request
  rw [scene, left]
  rfl

/-- A smooth effect on the compound that an operation is for is all that it does. -/
theorem smooth_single
    {home : Fin compounds} {request : Request .particles size}
    (smooth :
      (request.perform (world.scene home)).Smooth (world.scene home) change) :
    world.Smooth change (world.performAll [⟨home, request⟩]) where
  answers := by
    intro report told
    cases List.mem_singleton.mp told
    exact smooth.answer_eq
  contexts_eq := smooth.contexts_eq
  steady := by
    intro other
    by_cases here : home = other
    · subst here
      show Compound.Steady _ ((world.perform ⟨home, request⟩).1.compounds.get home)
      rw [compound_perform]
      exact smooth.steady
    · show Compound.Steady _ ((world.perform ⟨home, request⟩).1.compounds.get other)
      rw [compound_perform_of_ne world here]
      exact .refl _

/-- A turn changes the systems as often as it has steps, whichever way it is taken. -/
theorem Opens.smooth {turn : Turn compounds} (opens : world.Opens change turn) :
    world.Smooth change^[turn.steps.toNat] (world.performAll turn.operations) := by
  rcases turn with ⟨home, index, steps, throughCompound⟩
  cases throughCompound with
  | false => exact smooth_single (Request.smooth_stepMember opens.offers steps)
  | true =>
      have offers : (world.scene home).compound.Offers index change :=
        opens.offers
      rcases Request.perform_select_of_offers offers with ⟨trace, selected⟩
      have activated :=
        (world.compounds.get home).steady_activated index
      have front :
          world.Smooth id (world.performAll [⟨home, .select index⟩]) := by
        apply smooth_single
        rw [selected]
        exact ⟨rfl, rfl, activated⟩
      have between :
          (world.performAll [⟨home, .select index⟩]).1.scene home =
            (world.scene home).withCompound
              { world.compounds.get home with active := index } :=
        (world.scene_perform home _).trans (congrArg Effect.scene selected)
      refine smooth_append front (smooth_single ?_)
      rw [between]
      exact
        Request.smooth_step (opens.bound rfl) (activated.offers offers) steps

/-! ## Many turns -/

/-- Turns change the systems as often as they have steps in all. -/
theorem smooth_turns {turns : List (Turn compounds)}
    (opens : ∀ turn ∈ turns, world.Opens change turn) :
    world.Smooth change^[Turn.total turns]
      (world.performAll (turns.flatMap Turn.operations)) := by
  induction turns generalizing world with
  | nil => exact smooth_nil world
  | cons turn turns induction =>
      have front := (opens turn List.mem_cons_self).smooth
      have back :=
        induction fun next among =>
          front.opens (opens next (List.mem_cons_of_mem turn among))
      have whole :
          change^[Turn.total (turn :: turns)] =
            change^[Turn.total turns] ∘ change^[turn.steps.toNat] := by
        rw [← Function.iterate_add, Nat.add_comm]
        rfl
      rw [whole, List.flatMap_cons]
      exact smooth_append front back

/-- A turn that may be taken as with dynamics changes the systems as they do. -/
theorem Admits.opens {scheme : Dynamics.Scheme} {dynamics : Dynamics size}
    {context : Fin size} (attached : dynamics.attachment = some context)
    {turn : Turn compounds} (admits : world.Admits scheme dynamics turn) :
    world.Opens (dynamics.update scheme) turn where
  offers := by
    rcases admits.found with ⟨other, found, stepSize_eq, attachment_eq⟩
    constructor
    case sound =>
      refine Compound.faults_eq_some_iff.mpr ⟨_, found, ?_⟩
      rw [Member.fault, Dynamics.system, attachment_eq, attached]
    case update_eq =>
      rw [Compound.update_of_getElem? found, Member.update]
      funext systems
      rw [Dynamics.update, Dynamics.update, stepSize_eq, attachment_eq]
  bound := admits.bound

/-- Turns taken as with dynamics make of the systems what these make of them in all the steps. -/
theorem smooth_turns_of_admits {scheme : Dynamics.Scheme} {dynamics : Dynamics size}
    {context : Fin size} (attached : dynamics.attachment = some context)
    {turns : List (Turn compounds)}
    (admits : ∀ turn ∈ turns, world.Admits scheme dynamics turn) :
    world.Smooth
      (fun systems =>
        systems.set context
          ((systems.get context).advanced scheme dynamics.stepSize
            (Turn.total turns))
          context.isLt)
      (world.performAll (turns.flatMap Turn.operations)) := by
  have smooth :=
    smooth_turns fun turn among => (admits turn among).opens attached
  have change :
      (dynamics.update scheme)^[Turn.total turns] =
        fun systems =>
          systems.set context
            ((systems.get context).advanced scheme dynamics.stepSize
              (Turn.total turns))
            context.isLt := by
    funext systems
    rw [Dynamics.iterate_update attached, Particles.advanced,
      Particles.repeated_eq]
  rwa [change] at smooth

end World

namespace Dynamics

/-! ## Steps of one and of many -/

theorem step_zero
    {dynamics : Dynamics size} {context : Fin size}
    (attached : dynamics.attachment = some context) (scheme : Scheme)
    (systems : Contexts .particles size) :
    dynamics.step scheme 0 systems = .ok (dynamics, systems) := by
  rw [step_eq_iterate attached, UInt64.add_zero]
  rfl

/-- Dynamics take steps in two calls as they take them in one. -/
theorem step_step
    {dynamics : Dynamics size} {context : Fin size}
    (attached : dynamics.attachment = some context) (scheme : Scheme)
    {first second : Count}
    (fits :
      dynamics.stepsTaken.toNat + (first.toNat + second.toNat) < Count.limit)
    (systems : Contexts .particles size) :
    ∃ once middle twice after,
      dynamics.step scheme first systems = .ok (once, middle) ∧
        once.step scheme second middle = .ok (twice, after) ∧
        dynamics.step scheme (first + second) systems = .ok (twice, after) ∧
        twice.stepsTaken.toNat =
          dynamics.stepsTaken.toNat + (first.toNat + second.toNat) := by
  have sum : (first + second).toNat = first.toNat + second.toNat :=
    (Count.add?_eq_some_iff.mp (if_pos (by omega))).symm
  have counter :
      (dynamics.stepsTaken + (first + second)).toNat =
        dynamics.stepsTaken.toNat + (first + second).toNat :=
    (Count.add?_eq_some_iff.mp (if_pos (by rwa [sum]))).symm
  let once : Dynamics size :=
    { dynamics with stepsTaken := dynamics.stepsTaken + first }
  have still : once.attachment = some context := attached
  have again :=
    step_eq_iterate still scheme second
      ((dynamics.update scheme)^[first.toNat] systems)
  refine
    ⟨once, _, _, _, step_eq_iterate attached scheme first systems, again, ?_, ?_⟩
  · rw [step_eq_iterate attached, sum, Nat.add_comm first.toNat,
      Function.iterate_add_apply, ← UInt64.add_assoc]
    rfl
  · show (dynamics.stepsTaken + first + second).toNat = _
    rw [UInt64.add_assoc, counter, sum]

/--
Attached dynamics take no step without any change, and they take steps in two
calls as they take them in one.  Steps that are shared out in turns among members
like them, each of which takes its own by itself or through its compound, are all
taken, and they make of the systems what any other turns make of them that have
as many steps in all, be they those of a single member: the system to which the
members are attached advances by all these steps, and no other one changes.
-/
theorem steps_shared
    {dynamics : Dynamics size} {context : Fin size}
    (attached : dynamics.attachment = some context) (scheme : Scheme) :
    (∀ systems, dynamics.step scheme 0 systems = .ok (dynamics, systems)) ∧
    (∀ (first second : Count) (systems : Contexts .particles size),
      dynamics.stepsTaken.toNat + (first.toNat + second.toNat) < Count.limit →
        ∃ once middle twice after,
          dynamics.step scheme first systems = .ok (once, middle) ∧
            once.step scheme second middle = .ok (twice, after) ∧
            dynamics.step scheme (first + second) systems =
              .ok (twice, after) ∧
            twice.stepsTaken.toNat =
              dynamics.stepsTaken.toNat + (first.toNat + second.toNat)) ∧
    ∀ {compounds : Nat} (world : World .particles compounds size)
        (turns others : List (Turn compounds)),
      (∀ turn ∈ turns ++ others, world.Admits scheme dynamics turn) →
      Turn.total turns = Turn.total others →
        let session := world.performAll (turns.flatMap Turn.operations)
        let another := world.performAll (others.flatMap Turn.operations)
        (∀ report ∈ session.2 ++ another.2, report.answer = .ok .nothing) ∧
          session.1.contexts = another.1.contexts ∧
          session.1.contexts =
            world.contexts.set context
              (Particles.advanced scheme dynamics.stepSize (Turn.total turns)
                (world.contexts.get context))
              context.isLt := by
  refine ⟨step_zero attached scheme, ?_, ?_⟩
  · exact fun first second systems fits =>
      step_step attached scheme fits systems
  · intro compounds world turns others admits total session another
    have own : world.Smooth _ session :=
      World.smooth_turns_of_admits attached fun turn among =>
        admits turn (List.mem_append_left others among)
    have other : world.Smooth _ another :=
      World.smooth_turns_of_admits attached fun turn among =>
        admits turn (List.mem_append_right turns among)
    refine ⟨?_, ?_, own.contexts_eq⟩
    · intro report told
      rcases List.mem_append.mp told with told | told
      · exact own.answers report told
      · exact other.answers report told
    · rw [own.contexts_eq, other.contexts_eq, total]

/-- Nine steps shared among three members of two compounds, or all taken by one of them. -/
theorem steps_shared_by_three_members :
    let first : Dynamics 1 := ⟨0, 0.5, 1.0, 0, some 0⟩
    let second : Dynamics 1 := ⟨1, 0.5, 2.0, 7, some 0⟩
    let third : Dynamics 1 := ⟨2, 0.5, 3.0, 5, some 0⟩
    let scheme : Scheme := .langevin 2.0
    let world : World .particles 2 1 :=
      ⟨#v[⟨[.dynamics scheme first, .dynamics scheme second], 0, true⟩,
          ⟨[.dynamics scheme third], 0, true⟩],
        #v[⟨[1.0, 2.0], [0.0, 1.0], [12.0, 3.0], 3.0⟩], 3⟩
    let turns : List (Turn 2) :=
      [⟨0, 1, 4, true⟩, ⟨1, 0, 2, true⟩, ⟨0, 0, 3, false⟩]
    let whole : Turn 2 := ⟨1, 0, 9, true⟩
    first.attachment = some 0 ∧
      first.stepsTaken.toNat + ((4 : Count).toNat + (5 : Count).toNat) <
        Count.limit ∧
      (∃ once middle twice after,
        first.step scheme 4 world.contexts = .ok (once, middle) ∧
          once.step scheme 5 middle = .ok (twice, after) ∧
          first.step scheme (4 + 5) world.contexts = .ok (twice, after) ∧
          twice.stepsTaken.toNat = 9) ∧
      (∀ turn ∈ turns ++ [whole], world.Admits scheme first turn) ∧
      Turn.total turns = Turn.total [whole] ∧
      (world.performAll (turns.flatMap Turn.operations)).1.contexts =
        (world.performAll whole.operations).1.contexts := by
  intro first second third scheme world turns whole
  have attached : first.attachment = some 0 := rfl
  have fits :
      first.stepsTaken.toNat + ((4 : Count).toNat + (5 : Count).toNat) <
        Count.limit := by decide
  have admits : ∀ turn ∈ turns ++ [whole], world.Admits scheme first turn := by
    intro turn among
    simp only [turns, List.cons_append, List.nil_append, List.mem_cons,
      List.not_mem_nil, or_false] at among
    rcases among with rfl | rfl | rfl | rfl
    · exact ⟨⟨second, rfl, rfl, rfl⟩, fun _ => rfl⟩
    · exact ⟨⟨third, rfl, rfl, rfl⟩, fun _ => rfl⟩
    · exact ⟨⟨first, rfl, rfl, rfl⟩, fun through => by cases through⟩
    · exact ⟨⟨third, rfl, rfl, rfl⟩, fun _ => rfl⟩
  have total : Turn.total turns = Turn.total [whole] := by decide
  have shared := steps_shared attached scheme
  refine
    ⟨attached, fits, shared.2.1 4 5 world.contexts fits, admits, total, ?_⟩
  have same := (shared.2.2 world turns [whole] admits total).2.1
  rwa [List.flatMap_singleton] at same

end Dynamics

end Stepping
