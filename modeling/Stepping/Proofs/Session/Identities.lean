import Stepping.Proofs.Compound.Identities
import Stepping.Proofs.Session.Course
import Stepping.Proofs.Session.Lifecycle
import Mathlib.Data.List.Nodup

/-!
# Identities of members over whole sessions

Whatever goes on with the members that there are leaves their identities, and an
addition that succeeds appends one.  So but for a compound's replacement, the
list of its members only grows, and only at its end.

Every member is made under a number of its own.  So members of one number are
one member, be they of one compound or of several.
-/

namespace Stepping

variable {setting : Setting} {compounds size : Nat}

/-- What an operation on a compound of a world works on. -/
def World.scene (world : World setting compounds size)
    (home : Fin compounds) : Scene setting size :=
  ⟨world.compounds.get home, world.contexts, world.made⟩

/-! ## Requests -/

/-- Whatever goes on with the members that there are leaves their identities. -/
theorem identityCourse :
    Course fun (before : Compound setting size × Contexts setting size) _
        after => after.1.identities = before.1.identities where
  refl := fun _ => rfl
  trans := fun left right => right.trans left
  select := fun compound _ index =>
    (Compound.quiet_select index compound).identities_eq
  step := fun compound contexts count =>
    (Compound.quiet_step count contexts compound).identities_eq
  begun := fun _ _ _ _ => rfl
  stopped := fun _ _ => rfl
  adjust := fun found adjusted =>
    Compound.identities_put found (Member.Adjusted.identity_eq adjusted)
  change := fun found made =>
    Compound.identities_put found (Changes.changed_of_make made).identity_eq
  move := fun found stepped =>
    Compound.identities_put found (Member.identity_of_step stepped)
  bind := fun compound contexts context =>
    Compound.identities_bind context contexts compound
  release := fun compound _ => Compound.identities_release compound

/-- What a request makes of the identities of the members of its compound. -/
inductive Scene.Keeps (scene : Scene setting size)
    (request : Request setting size) (effect : Effect setting size) : Prop where
  | same
      (refused : ∀ draft, request = .add draft → effect.answer.isOk = false)
      (made_le : scene.made ≤ effect.scene.made)
      (identities_eq :
        effect.scene.compound.identities = scene.compound.identities)
  | appended (draft : Draft setting) (member : Member setting size)
      (request_eq : request = .add draft)
      (built : draft.build scene.made = .ok member)
      (unbound : scene.compound.bound = false)
      (answer_eq : effect.answer = .ok (.number scene.compound.members.length))
      (made_eq : effect.scene.made = scene.made + 1)
      (identities_eq :
        effect.scene.compound.identities =
          scene.compound.identities ++ [member.identity])

/-- A request keeps the members of its compound, unless it replaces the compound. -/
theorem Request.keeps_perform
    {request : Request setting size} (stays : request ≠ .replace)
    (scene : Scene setting size) :
    scene.Keeps request (request.perform scene) := by
  rcases request.goesOn_cases with
    ⟨draft, rfl⟩ | ⟨context, poke, rfl⟩ | rfl | goesOn
  · show scene.Keeps (.add draft) (scene.add draft)
    rcases scene.add_cases draft with
      ⟨cause, -, equality⟩ | ⟨member, -, -, equality⟩ |
        ⟨member, built, unbound, equality⟩
    · rw [equality]
      exact .same (fun _ _ => rfl) (Nat.le_refl _) rfl
    · rw [equality]
      exact .same (fun _ _ => rfl) (Nat.le_succ _) rfl
    · rw [equality]
      exact
        .appended draft member rfl built unbound rfl rfl List.map_append
  · exact .same (fun _ => nofun) (Nat.le_refl _) rfl
  · exact (stays rfl).elim
  · have continues := identityCourse.perform goesOn scene
    refine .same ?_ (Nat.le_of_eq continues.2.symm) continues.1
    rintro draft rfl
    exact goesOn.elim

namespace World

/-! ## Operations -/

theorem compound_perform
    (world : World setting compounds size) (home : Fin compounds)
    (request : Request setting size) :
    (world.perform ⟨home, request⟩).1.compounds.get home =
      (request.perform (world.scene home)).scene.compound :=
  world.compound_perform_self ⟨home, request⟩

/--
An operation that does not replace a compound leaves it, or it is a request for
it other than its replacement.
-/
theorem compound_perform_of_stays
    (world : World setting compounds size) {home : Fin compounds}
    {operation : Operation setting compounds size}
    (stays : operation ≠ ⟨home, .replace⟩) :
    (world.perform operation).1.compounds.get home =
        world.compounds.get home ∨
      ∃ request, operation = ⟨home, request⟩ ∧ request ≠ .replace ∧
        (world.perform operation).1.compounds.get home =
          (request.perform (world.scene home)).scene.compound := by
  by_cases other : operation.compound ≠ home
  · exact .inl (compound_perform_of_ne world other)
  · rcases operation with ⟨target, request⟩
    cases not_not.mp other
    refine .inr ⟨request, rfl, ?_, world.compound_perform target request⟩
    rintro rfl
    exact stays rfl

/-- Operations that do not replace a compound only append to its members. -/
theorem identities_prefix_performAll
    (world : World setting compounds size) {home : Fin compounds}
    {operations : List (Operation setting compounds size)}
    (stays : ∀ operation ∈ operations, operation ≠ ⟨home, .replace⟩) :
    (world.compounds.get home).identities <+:
      ((world.performAll operations).1.compounds.get home).identities := by
  refine
    holds_performAll
      (fun next =>
        (world.compounds.get home).identities <+:
          (next.compounds.get home).identities)
      (fun operation listed next before => before.trans ?_) List.prefix_rfl
  rcases next.compound_perform_of_stays (stays operation listed) with
    left | ⟨request, -, own, left⟩
  · rw [left]
  · rw [left]
    cases Request.keeps_perform own (next.scene home) with
    | same refused made_le identities_eq =>
        rw [identities_eq]
        exact List.prefix_rfl
    | appended draft member request_eq built unbound answer_eq made_eq
        identities_eq =>
        rw [identities_eq]
        exact List.prefix_append _ _

/-! ## Serial numbers -/

/-- No two members of all compounds have one serial number, and the next one is not used. -/
structure Distinct (world : World setting compounds size) : Prop where
  serial_lt :
    ∀ home, ∀ identity ∈ (world.compounds.get home).identities,
      identity.serial < world.made
  nodup :
    ∀ home, ((world.compounds.get home).identities.map Identity.serial).Nodup
  apart :
    ∀ home other, home ≠ other →
      ∀ identity ∈ (world.compounds.get home).identities,
        ∀ stranger ∈ (world.compounds.get other).identities,
          identity.serial ≠ stranger.serial

theorem distinct_start (contexts : Contexts setting size) :
    (start compounds contexts).Distinct where
  serial_lt := by
    intro home identity found
    rw [compound_start] at found
    cases found
  nodup := by
    intro home
    rw [compound_start]
    exact List.nodup_nil
  apart := by
    intro home other _ identity found
    rw [compound_start] at found
    cases found

theorem Distinct.serial_lt_made
    {world : World setting compounds size} (distinct : world.Distinct)
    {home : Fin compounds} {serial : Nat}
    (own : serial ∈ (world.compounds.get home).serials) :
    serial < world.made := by
  rcases List.mem_map.mp own with ⟨identity, found, rfl⟩
  exact distinct.serial_lt home identity found

/-- What is new in one compound has a number that was not used yet. -/
theorem Distinct.of_one
    {world next : World setting compounds size} (distinct : world.Distinct)
    {home : Fin compounds} (made_le : world.made ≤ next.made)
    (others :
      ∀ other, home ≠ other →
        next.compounds.get other = world.compounds.get other)
    (own :
      ∀ identity ∈ (next.compounds.get home).identities,
        identity ∈ (world.compounds.get home).identities ∨
          world.made ≤ identity.serial ∧ identity.serial < next.made)
    (nodup :
      ((next.compounds.get home).identities.map Identity.serial).Nodup) :
    next.Distinct := by
  have strange (other : Fin compounds) (away : home ≠ other)
      (identity : Identity)
      (found : identity ∈ (next.compounds.get home).identities)
      (stranger : Identity)
      (there : stranger ∈ (next.compounds.get other).identities) :
      identity.serial ≠ stranger.serial := by
    rw [others other away] at there
    have below := distinct.serial_lt other stranger there
    rcases own identity found with old | ⟨fresh, -⟩
    · exact distinct.apart home other away identity old stranger there
    · omega
  constructor
  · intro other identity found
    by_cases same : home = other
    · subst same
      rcases own identity found with old | ⟨-, fresh⟩
      · exact Nat.lt_of_lt_of_le (distinct.serial_lt home identity old) made_le
      · exact fresh
    · rw [others other same] at found
      exact
        Nat.lt_of_lt_of_le (distinct.serial_lt other identity found) made_le
  · intro other
    by_cases same : home = other
    · subst same
      exact nodup
    · rw [others other same]
      exact distinct.nodup other
  · intro first second differ identity found stranger there
    by_cases left : home = first
    · subst left
      exact strange second differ identity found stranger there
    · by_cases right : home = second
      · subst right
        exact (strange first left stranger there identity found).symm
      · rw [others first left] at found
        rw [others second right] at there
        exact distinct.apart first second differ identity found stranger there

theorem Distinct.perform
    {world : World setting compounds size} (distinct : world.Distinct)
    (operation : Operation setting compounds size) :
    (world.perform operation).1.Distinct ∧
      world.made ≤ (world.perform operation).1.made := by
  rcases operation with ⟨home, request⟩
  have others (other : Fin compounds) (away : home ≠ other) :
      (world.perform ⟨home, request⟩).1.compounds.get other =
        world.compounds.get other :=
    compound_perform_of_ne world away
  have compound := world.compound_perform home request
  by_cases stays : request = .replace
  · subst stays
    have vacant :
        ((world.perform ⟨home, .replace⟩).1.compounds.get home).identities =
          [] := by
      rw [compound]
      rfl
    refine ⟨distinct.of_one (Nat.le_refl _) others ?_ ?_, Nat.le_refl _⟩
    · rw [vacant]
      exact List.forall_mem_nil _
    · rw [vacant]
      exact List.nodup_nil
  · have made :
        (world.perform ⟨home, request⟩).1.made =
          (request.perform (world.scene home)).scene.made :=
      rfl
    cases Request.keeps_perform stays (world.scene home) with
    | same refused made_le identities_eq =>
        rw [← compound] at identities_eq
        rw [← made] at made_le
        refine ⟨distinct.of_one made_le others ?_ ?_, made_le⟩
        · rw [identities_eq]
          exact fun _ => .inl
        · rw [identities_eq]
          exact distinct.nodup home
    | appended draft member request_eq built unbound answer_eq made_eq
        identities_eq =>
        rw [← compound] at identities_eq
        rw [← made] at made_eq
        have serial : member.identity.serial = world.made :=
          (Draft.tag_of_build built).1
        have before :
            (world.scene home).compound.identities =
              (world.compounds.get home).identities :=
          rfl
        have made_le : world.made ≤ (world.perform ⟨home, request⟩).1.made := by
          rw [made_eq]
          exact Nat.le_succ _
        refine ⟨distinct.of_one made_le others ?_ ?_, made_le⟩
        · intro identity found
          rw [identities_eq, List.mem_append, List.mem_singleton] at found
          refine found.imp id ?_
          rintro rfl
          rw [serial, made_eq]
          exact ⟨Nat.le_refl _, Nat.lt_succ_self _⟩
        · rw [identities_eq, before, List.map_append, List.map_singleton,
            List.nodup_append]
          refine ⟨distinct.nodup home, List.nodup_singleton _, ?_⟩
          intro number used new fresh
          rcases List.mem_map.mp used with ⟨identity, found, rfl⟩
          rw [List.mem_singleton.mp fresh, serial]
          exact Nat.ne_of_lt (distinct.serial_lt home identity found)

theorem Distinct.performAll
    {world : World setting compounds size} (distinct : world.Distinct)
    (operations : List (Operation setting compounds size)) :
    (world.performAll operations).1.Distinct :=
  holds_performAll World.Distinct
    (fun operation _ _ distinct => (distinct.perform operation).1) distinct

end World

end Stepping
