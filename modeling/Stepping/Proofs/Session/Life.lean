import Stepping.Proofs.Compound.Life
import Stepping.Proofs.Session.Lifecycle
import Mathlib.Data.List.FinRange

/-!
# Lives over whole sessions

A recorder is made by the operation that adds it to a compound, and it stays in
that compound, its home, until it comes to its end; a bound compound refuses it,
and then that end comes at once.  Its serial number was not used before, so
until then no compound shows it and no entry of the journal is its own.

From there on every operation follows its life, whatever the operation is and
whichever compound it is for, and at the end of the session all compounds end.
So what a recorder has noted over a whole session is a whole life.
-/

namespace Stepping

variable {setting : Setting} {compounds size : Nat}

/-! ## Requests -/

namespace Scene

variable {scene : Scene setting size}

/-- To add a member follows the life of every other one. -/
theorem follows_add
    (draft : Draft setting) {serial : Nat}
    (apart :
      serial = scene.made → (scene.add draft).scene.made = scene.made) :
    scene.compound.Follows serial (scene.add draft).trace.journal
      (scene.add draft).scene.compound := by
  have stays := (Compound.Quiet.refl scene.compound).follows serial
  rcases scene.add_cases draft with
    ⟨cause, -, equality⟩ | ⟨member, built, -, equality⟩ |
      ⟨member, built, -, equality⟩
  · rw [equality]
    exact stays
  · rw [equality] at apart ⊢
    have other : member.tag.serial ≠ serial := by
      rw [(Draft.tag_of_build built).1]
      intro same
      simp [same] at apart
    have nothing : callsOf serial (member.notes .drop) = [] := by
      rw [Member.notes_eq]
      exact Tag.callsOf_notes_of_ne other .drop
    intro phase shown
    exact ⟨phase, shown, by rw [nothing, Phase.afterAll_nil]⟩
  · rw [equality] at apart ⊢
    have other : member.tag.serial ≠ serial := by
      rw [(Draft.tag_of_build built).1]
      intro same
      simp [same] at apart
    intro phase shown
    refine ⟨phase, shown.congr ?_, rfl⟩
    simp [Compound.tags, Tag.under, other]

end Scene

/-- An orderly request follows the life of every recorder that it does not make. -/
theorem Request.follows_perform
    {request : Request setting size} (orderly : request.Orderly)
    {scene : Scene setting size} {old : Option (Fin size)}
    (tied : scene.compound.Tied old) {serial : Nat}
    (apart :
      serial = scene.made → (request.perform scene).scene.made = scene.made) :
    scene.compound.Follows serial (request.perform scene).trace.journal
      (request.perform scene).scene.compound := by
  rcases Request.cases_of_orderly orderly with
    ⟨draft, rfl⟩ | ⟨context, rfl⟩ | rfl | rfl | ordinary
  · exact Scene.follows_add draft apart
  · rcases Scene.bind_compound context scene with ⟨left, noted, -⟩
    rw [left, noted]
    exact tied.follows_bind context scene.contexts serial
  · exact tied.follows_release serial
  · intro phase shown
    exact ⟨.ended, rfl, tied.afterAll_drop shown⟩
  · exact (Request.quiet_perform ordinary scene).1.follows serial

/-- The number of members made never falls. -/
theorem Request.made_le_perform
    {request : Request setting size} (orderly : request.Orderly)
    (scene : Scene setting size) :
    scene.made ≤ (request.perform scene).scene.made := by
  rcases Request.cases_of_orderly orderly with
    ⟨draft, rfl⟩ | ⟨context, rfl⟩ | rfl | rfl | ordinary
  · show scene.made ≤ (scene.add draft).scene.made
    rcases scene.add_cases draft with
      ⟨cause, -, equality⟩ | ⟨member, -, -, equality⟩ |
        ⟨member, -, -, equality⟩
    · rw [equality]
      exact Nat.le_refl scene.made
    · rw [equality]
      exact Nat.le_succ scene.made
    · rw [equality]
      exact Nat.le_succ scene.made
  · rw [(Scene.bind_compound context scene).1]
    exact Nat.le_refl scene.made
  · exact Nat.le_refl scene.made
  · exact Nat.le_refl scene.made
  · exact (Request.quiet_perform ordinary scene).2.ge

namespace World

/-! ## Operations -/

/-- The compounds show a recorder in a phase, and none but its home shows it at all. -/
structure Shows (serial : Nat) (home : Fin compounds) (phase : Phase)
    (world : World setting compounds size) : Prop where
  home_shown : phase.Shown serial (world.compounds.get home).tags
  others_ended :
    ∀ other, other ≠ home →
      Phase.ended.Shown serial (world.compounds.get other).tags

theorem shows_start
    (contexts : Contexts setting size) (serial : Nat) (home : Fin compounds) :
    (start compounds contexts).Shows serial home .ended := by
  have absent (compound : Fin compounds) :
      Phase.ended.Shown serial ((start compounds contexts).compounds.get compound).tags := by
    rw [compound_start]
    rfl
  exact ⟨absent home, fun other _ => absent other⟩

theorem Shows.perform
    {serial : Nat} {home : Fin compounds} {phase : Phase}
    {world : World setting compounds size}
    (shows : world.Shows serial home phase)
    {history : List (Operation setting compounds size × Report setting size)}
    (tied : world.Tied history)
    {operation : Operation setting compounds size}
    (orderly : operation.request.Orderly)
    (apart :
      serial = world.made → (world.perform operation).1.made = world.made) :
    ∃ next : Phase,
      (world.perform operation).1.Shows serial home next ∧
        phase.afterAll
          (callsOf serial (world.perform operation).2.trace.journal) =
            some next := by
  let scene : Scene setting size :=
    ⟨world.compounds.get operation.compound, world.contexts, world.made⟩
  have before : scene.compound.Tied _ := tied operation.compound
  have follows := Request.follows_perform orderly before apart
  by_cases same : operation.compound = home
  · subst same
    rcases follows phase shows.home_shown with ⟨next, shown, noted⟩
    refine ⟨next, ⟨?_, ?_⟩, noted⟩
    · rw [compound_perform_self]
      exact shown
    · intro other apart
      rw [compound_perform_of_ne world (Ne.symm apart)]
      exact shows.others_ended other apart
  · have absent : Phase.ended.Shown serial scene.compound.tags :=
      shows.others_ended operation.compound same
    rcases follows .ended absent with ⟨next, shown, noted⟩
    rcases Phase.eq_nil_of_afterAll_ended noted with ⟨nothing, rfl⟩
    have silent :
        callsOf serial (world.perform operation).2.trace.journal = [] :=
      nothing
    refine ⟨phase, ⟨?_, ?_⟩, by rw [silent, Phase.afterAll_nil]⟩
    · rw [compound_perform_of_ne world same]
      exact shows.home_shown
    · intro other apart
      by_cases here : operation.compound = other
      · subst here
        rw [compound_perform_self]
        exact shown
      · rw [compound_perform_of_ne world here]
        exact shows.others_ended other apart

theorem made_le_perform
    (world : World setting compounds size)
    {operation : Operation setting compounds size}
    (orderly : operation.request.Orderly) :
    world.made ≤ (world.perform operation).1.made :=
  Request.made_le_perform orderly
    ⟨world.compounds.get operation.compound, world.contexts, world.made⟩

theorem made_le_performAll
    (world : World setting compounds size)
    {operations : List (Operation setting compounds size)}
    (orderly : ∀ operation ∈ operations, operation.request.Orderly) :
    world.made ≤ (world.performAll operations).1.made :=
  holds_performAll (fun next => world.made ≤ next.made)
    (fun operation member next before =>
      Nat.le_trans before (next.made_le_perform (orderly operation member)))
    (Nat.le_refl world.made)

/-- What operations have noted, in order. -/
def journalOf (reports : List (Report setting size)) : List Entry :=
  reports.flatMap fun report => report.trace.journal

/--
Operations follow the life of a recorder, as long as they do not make it: it was
made before them, or it will only be made after them.
-/
theorem Shows.performAll
    {serial : Nat} {home : Fin compounds} {phase : Phase}
    {world : World setting compounds size}
    (shows : world.Shows serial home phase)
    {history : List (Operation setting compounds size × Report setting size)}
    (tied : world.Tied history)
    {operations : List (Operation setting compounds size)}
    (orderly : ∀ operation ∈ operations, operation.request.Orderly)
    (apart :
      serial < world.made ∨ (world.performAll operations).1.made ≤ serial) :
    ∃ next : Phase,
      (world.performAll operations).1.Shows serial home next ∧
        phase.afterAll
          (callsOf serial (journalOf (world.performAll operations).2)) =
            some next := by
  induction operations generalizing phase world history with
  | nil => exact ⟨phase, shows, rfl⟩
  | cons operation operations induction =>
      have first := orderly operation List.mem_cons_self
      have others :
          ∀ next ∈ operations, next.request.Orderly :=
        fun next member => orderly next (List.mem_cons_of_mem _ member)
      have grows := world.made_le_perform first
      have later :
          (world.perform operation).1.made ≤
            (world.performAll (operation :: operations)).1.made :=
        made_le_performAll _ others
      rcases shows.perform tied first (by omega) with
        ⟨middle, shows, noted⟩
      have further :
          serial < (world.perform operation).1.made ∨
            ((world.perform operation).1.performAll operations).1.made ≤
              serial :=
        apart.imp (fun born => Nat.lt_of_lt_of_le born grows) id
      rcases induction shows (tied.perform first) others further with
        ⟨next, shows, rest⟩
      refine ⟨next, shows, ?_⟩
      have split :
          journalOf (world.performAll (operation :: operations)).2 =
            (world.perform operation).2.trace.journal ++
              journalOf ((world.perform operation).1.performAll operations).2 :=
        rfl
      rw [split, callsOf_append]
      exact Phase.afterAll_append noted rest

/-! ## Beginning and end -/

/-- The operation that makes a recorder begins its life, and ends it if the compound is bound. -/
theorem Shows.perform_add
    {world : World .clock compounds size} {home : Fin compounds}
    (absent : world.Shows world.made home .ended) (draft : RecorderDraft) :
    ∃ next : Phase,
      (world.perform ⟨home, .add (.recorder draft)⟩).1.Shows world.made home next ∧
        Phase.detached.afterAll
            (callsOf world.made
              (world.perform ⟨home, .add (.recorder draft)⟩).2.trace.journal) =
          some next ∧
        ((world.compounds.get home).bound = true →
          next = .ended ∧
            callsOf world.made
              (world.perform ⟨home, .add (.recorder draft)⟩).2.trace.journal =
                [.drop]) ∧
        world.made <
          (world.perform ⟨home, .add (.recorder draft)⟩).1.made := by
  let operation : Operation .clock compounds size :=
    ⟨home, .add (.recorder draft)⟩
  let scene : Scene .clock size :=
    ⟨world.compounds.get home, world.contexts, world.made⟩
  have compound :
      (world.perform operation).1.compounds.get home =
        (scene.add (.recorder draft)).scene.compound :=
    world.compound_perform_self operation
  have others :
      ∀ other, other ≠ home →
        Phase.ended.Shown world.made
          ((world.perform operation).1.compounds.get other).tags := by
    intro other apart
    rw [compound_perform_of_ne world (Ne.symm apart)]
    exact absent.others_ended other apart
  have vacant : Tag.under world.made scene.compound.tags = [] :=
    absent.home_shown
  show ∃ next : Phase,
    (world.perform operation).1.Shows world.made home next ∧
      Phase.detached.afterAll
          (callsOf world.made (scene.add (.recorder draft)).trace.journal) =
        some next ∧
      (scene.compound.bound = true →
        next = .ended ∧
          callsOf world.made (scene.add (.recorder draft)).trace.journal =
            [.drop]) ∧
      scene.made < (scene.add (.recorder draft)).scene.made
  rcases scene.add_cases (.recorder draft) with
    ⟨cause, built, -⟩ | ⟨member, built, bound, equality⟩ |
      ⟨member, built, unbound, equality⟩
  · cases built
  · cases built
    have noted :
        callsOf world.made (scene.add (.recorder draft)).trace.journal =
          [.drop] := by
      rw [equality]
      simp [callsOf, Member.notes, Recorder.entry, scene]
    refine ⟨.ended, ⟨?_, others⟩, ?_, fun _ => ⟨rfl, noted⟩, ?_⟩
    · rw [compound, equality]
      exact vacant
    · rw [noted]
      rfl
    · rw [equality]
      exact Nat.lt_succ_self scene.made
  · have tag : member.tag = ⟨world.made, .recorder, some draft.name, none⟩ := by
      cases built
      rfl
    refine ⟨.detached, ⟨?_, others⟩, ?_, ?_, ?_⟩
    · rw [compound, equality]
      refine
        ⟨⟨world.made, .recorder, some draft.name, none⟩, ?_,
          ⟨rfl, Kind.noConfusion⟩, rfl⟩
      rw [Compound.tags, List.map_append, Tag.under_append]
      rw [Compound.tags] at vacant
      rw [vacant]
      simp [Tag.under, tag]
    · rw [equality]
      rfl
    · intro bound
      rw [unbound] at bound
      cases bound
    · rw [equality]
      exact Nat.lt_succ_self scene.made

theorem journal_finish (world : World setting compounds size) :
    world.finish.journal =
      world.compounds.toList.flatMap fun compound => compound.drop.journal := by
  have noted (list : List (Compound setting size)) (trace : Trace) :
      (list.foldl (fun trace compound => trace ++ compound.drop) trace).journal =
        trace.journal ++ list.flatMap fun compound => compound.drop.journal := by
    induction list generalizing trace with
    | nil => simp
    | cons compound list induction => simp [induction]
  exact noted world.compounds.toList .none

theorem toList_compounds (world : World setting compounds size) :
    world.compounds.toList =
      (List.finRange compounds).map world.compounds.get := by
  apply List.ext_getElem
  · simp
  · intro place inside _
    simp [Vector.get]

/-- At the end of a session every recorder comes to its end. -/
theorem Shows.afterAll_finish
    {serial : Nat} {home : Fin compounds} {phase : Phase}
    {world : World setting compounds size}
    (shows : world.Shows serial home phase)
    {history : List (Operation setting compounds size × Report setting size)}
    (tied : world.Tied history) :
    phase.afterAll (callsOf serial world.finish.journal) = some .ended := by
  have silent (other : Fin compounds) (apart : other ≠ home) :
      callsOf serial (world.compounds.get other).drop.journal = [] :=
    (Phase.eq_nil_of_afterAll_ended
      ((tied other).afterAll_drop (shows.others_ended other apart))).1
  have journal :
      world.finish.journal =
        (List.finRange compounds).flatMap fun compound =>
          (world.compounds.get compound).drop.journal := by
    rw [journal_finish, toList_compounds, List.flatMap_map]
  rcases List.append_of_mem (List.mem_finRange home) with ⟨front, back, split⟩
  have distinct := List.nodup_finRange compounds
  rw [split, List.nodup_middle, List.nodup_cons, List.mem_append] at distinct
  have absent (others : List (Fin compounds)) (apart : home ∉ others) :
      callsOf serial
        (others.flatMap fun compound =>
          (world.compounds.get compound).drop.journal) = [] :=
    callsOf_flatMap_eq_nil fun other found =>
      silent other fun same => apart (same ▸ found)
  rw [journal, split, List.flatMap_append, List.flatMap_cons, callsOf_append,
    callsOf_append, absent front fun found => distinct.1 (.inl found),
    absent back fun found => distinct.1 (.inr found), List.nil_append,
    List.append_nil]
  exact (tied home).afterAll_drop shows.home_shown

/-! ## Whole lives -/

theorem performAll_append
    (world : World setting compounds size)
    (first second : List (Operation setting compounds size)) :
    world.performAll (first ++ second) =
      (((world.performAll first).1.performAll second).1,
        (world.performAll first).2 ++
          ((world.performAll first).1.performAll second).2) := by
  induction first generalizing world with
  | nil => rfl
  | cons operation first induction => simp [performAll, induction]

theorem journalOf_append (first second : List (Report setting size)) :
    journalOf (first ++ second) = journalOf first ++ journalOf second :=
  List.flatMap_append

/--
What a recorder has noted, from the operation that makes it to the end of the
session, is a word of `(bind step* release)* drop`; if its compound is bound when
it is made, it is the word `drop`.  And whenever a compound comes to its end, the
releases of all its members, if it is bound, come in order before the ends of
all of them in order.
-/
theorem calls_mem_whole
    (contexts : Contexts .clock size)
    (before after : List (Operation .clock compounds size))
    (home : Fin compounds) (draft : RecorderDraft)
    (orderly : ∀ operation ∈ before ++ after, operation.request.Orderly) :
    let earlier := ((start compounds contexts).performAll before).1
    let session :=
      (start compounds contexts).performAll
        (before ++ ⟨home, .add (.recorder draft)⟩ :: after)
    let calls :=
      callsOf earlier.made (journalOf session.2 ++ session.1.finish.journal)
    let parting := fun compound : Compound .clock size =>
      (if compound.bound then Compound.notesOf .release compound.members else []) ++
        Compound.notesOf .drop compound.members
    calls ∈ Life.whole ∧
      ((earlier.compounds.get home).bound = true → calls = [.drop]) ∧
      session.1.finish.journal = session.1.compounds.toList.flatMap parting ∧
      ∀ other : Fin compounds,
        (session.1.perform ⟨other, .replace⟩).2.trace.journal =
          parting (session.1.compounds.get other) := by
  intro earlier session calls parting
  have early : ∀ operation ∈ before, operation.request.Orderly :=
    fun operation member => orderly operation (List.mem_append_left _ member)
  have late : ∀ operation ∈ after, operation.request.Orderly :=
    fun operation member => orderly operation (List.mem_append_right _ member)
  let adding : Operation .clock compounds size :=
    ⟨home, .add (.recorder draft)⟩
  let added := earlier.perform adding
  let later := added.1.performAll after
  -- until it is made, no entry is the recorder's own
  have tied := (tied_start contexts).performAll early
  rcases (shows_start contexts earlier.made home).performAll
      (tied_start contexts) early (.inr (Nat.le_refl earlier.made)) with
    ⟨unborn, absent, silent⟩
  rcases Phase.eq_nil_of_afterAll_ended silent with ⟨nothing, rfl⟩
  -- from there on, every part of the session leads on from phase to phase
  rcases absent.perform_add draft with ⟨born, begun, birth, refused, made⟩
  have easy : adding.request.Orderly := trivial
  have tied := tied.perform easy
  rcases begun.performAll tied late (.inl made) with ⟨last, lasting, lived⟩
  have ending := lasting.afterAll_finish (tied.performAll late)
  have parts :
      calls =
        callsOf earlier.made added.2.trace.journal ++
          (callsOf earlier.made (journalOf later.2) ++
            callsOf earlier.made later.1.finish.journal) := by
    have whole :
        session =
          (later.1,
            ((start compounds contexts).performAll before).2 ++
              added.2 :: later.2) :=
      performAll_append (start compounds contexts) before (adding :: after)
    have split :
        journalOf (added.2 :: later.2) =
          added.2.trace.journal ++ journalOf later.2 :=
      rfl
    show callsOf earlier.made (journalOf session.2 ++ session.1.finish.journal) = _
    rw [whole, journalOf_append, split, callsOf_append, callsOf_append, nothing,
      callsOf_append, List.nil_append, List.append_assoc]
  refine ⟨?_, ?_, ?_, ?_⟩
  · apply Life.mem_whole_of_afterAll
    rw [parts]
    exact
      Phase.afterAll_append birth (Phase.afterAll_append lived ending)
  · intro bound
    rcases refused bound with ⟨rfl, noted⟩
    rcases Phase.eq_nil_of_afterAll_ended lived with ⟨quiet, rfl⟩
    rcases Phase.eq_nil_of_afterAll_ended ending with ⟨silence, -⟩
    have drop : callsOf earlier.made added.2.trace.journal = [.drop] := noted
    rw [parts, drop, quiet, silence]
    rfl
  · rw [journal_finish]
    exact
      congrArg (List.flatMap · session.1.compounds.toList)
        (funext Compound.journal_drop)
  · intro other
    exact Compound.journal_drop (session.1.compounds.get other)

/-- A recorder whose compound fails to be bound again, since the member behind it refuses. -/
theorem calls_of_failed_rebind :
    let after : List (Operation .clock 1 2) :=
      [⟨0, .add (.recorder { name := "second" })⟩,
        ⟨0, .bind 0⟩,
        ⟨0, .step 3⟩,
        ⟨0, .change 1 (.recorder [.refuseBind true])⟩,
        ⟨0, .bind 1⟩]
    let session :=
      (start 1 #v[0.0, 0.0]).performAll
        (⟨0, .add (.recorder { name := "first" })⟩ :: after)
    let calls := callsOf 0 (journalOf session.2 ++ session.1.finish.journal)
    calls ∈ Life.whole ∧
      calls = [.bind, .step 3, .release, .bind, .release, .drop] := by
  intro after session calls
  have orderly : ∀ operation ∈ [] ++ after, operation.request.Orderly := by
    simp [after, Request.Orderly, Changes.OfParameters,
      RecorderChange.OfParameter]
  have lives :=
    calls_mem_whole #v[0.0, 0.0] [] after 0 { name := "first" } orderly
  exact ⟨lives.1, rfl⟩

end World

end Stepping
