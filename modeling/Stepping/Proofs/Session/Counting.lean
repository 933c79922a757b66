import Stepping.Proofs.Schedule.Counting
import Stepping.Proofs.Session.Identities
import Stepping.Proofs.Session.Life
import Stepping.Proofs.Session.Refusals

/-!
# Steps counted over whole sessions

The journal of a session accounts for all counters and all clocks.  Whatever the
operations and their outcomes, each recorder has counted the steps that it has
noted; and unless a clock is changed past all compounds, it shows what comes of
its first value by the steps of the recorders attached to it, in the order in
which they were noted.

An operation that has steps taken leaves attachments and step sizes as they are,
so each recorder is taken as it is when the operation begins.  All others take no
steps, and neither does a step that fails.
-/

namespace Stepping

variable {setting : Setting} {compounds size : Nat}

/-! ## Requests -/

/-- Whatever is done with a compound but for steps takes none. -/
theorem restCalls :
    ChangeCalls fun (before : Compound setting size × Contexts setting size) trace
        after => before.1.Rests trace.journal after.1 where
  refl := fun state => .refl state.1
  select := fun compound _ index => Compound.rests_select index compound
  adjust := by
    intro compound contexts index member changed found adjusted
    have same : member.Changed [] changed :=
      ⟨Member.Adjusted.identity_eq adjusted,
        Member.Adjusted.counter_eq adjusted,
        List.forall_mem_nil _⟩
    exact Compound.rests_put found same
  change := fun found made =>
    Compound.rests_put found (Changes.changed_of_make made)
  bind := fun compound contexts context =>
    Compound.rests_bind context contexts compound
  release := fun compound _ => Compound.rests_release compound

/-- Whatever steps are taken of recorders are accounted for. -/
theorem countMotion :
    Motion fun (before : Compound .clock size × Contexts .clock size) trace
        after =>
      before.1.serials.Nodup →
        Compound.Accounts before trace.journal after :=
  { Compound.accountsChain with
    move := fun found stepped distinct =>
      Compound.accounts_of_step distinct found stepped }

/-- A member that was made has not counted any steps. -/
theorem Draft.counter_of_build
    {serial : Nat} {draft : Draft .clock} {member : Member .clock size}
    (built : draft.build serial = .ok member) : member.counter = 0 := by
  cases draft <;> cases built <;> rfl

/-- What a request makes of the steps counted and noted. -/
structure Scene.Counts (scene : Scene setting size)
    (effect : Effect setting size) : Prop where
  noted :
    ∀ entry ∈ effect.trace.journal,
      entry.serial ∈ scene.compound.serials ∨
        scene.made ≤ entry.serial ∧ entry.serial < effect.scene.made
  counted :
    ∀ new ∈ effect.scene.compound.members,
      (∃ old ∈ scene.compound.members,
        old.serial = new.serial ∧
          new.counter =
            old.counter + .ofNat (stepsOf new.serial effect.trace.journal)) ∨
        scene.made ≤ new.serial ∧ new.counter = 0 ∧ effect.trace.journal = []

namespace Scene

/-- A compound that is the same has counted nothing, as long as no steps are noted. -/
theorem counts_of_same
    {scene : Scene setting size} {effect : Effect setting size}
    (same : effect.scene.compound = scene.compound)
    (noted :
      ∀ entry ∈ effect.trace.journal,
        scene.made ≤ entry.serial ∧ entry.serial < effect.scene.made)
    (rests :
      ∀ entry ∈ effect.trace.journal, ∀ steps, entry.call ≠ .step steps) :
    scene.Counts effect := by
  refine ⟨fun entry written => .inr (noted entry written), ?_⟩
  intro member there
  rw [same] at there
  have none : stepsOf member.serial effect.trace.journal = 0 :=
    stepsOf_eq_zero fun entry written _ => rests entry written
  rw [none]
  exact
    .inl ⟨member, there, rfl, (UInt64.add_zero member.counter).symm⟩

/-- All that is noted of an addition is the end of the member, if it is refused. -/
theorem noted_add (scene : Scene .clock size) (draft : Draft .clock) :
    ∀ entry ∈ (scene.add draft).trace.journal,
      entry.call = .drop ∧ scene.made ≤ entry.serial ∧
        entry.serial < (scene.add draft).scene.made := by
  rcases scene.add_cases draft with
    ⟨cause, -, equality⟩ | ⟨member, built, -, equality⟩ |
      ⟨member, -, -, equality⟩
  · rw [equality]
    exact List.forall_mem_nil _
  · rw [equality]
    intro entry noted
    rw [Member.notes_eq] at noted
    rcases Tag.eq_of_mem_notes noted with ⟨serial, called⟩
    rw [serial, (Draft.tag_of_build built).1]
    exact ⟨called, Nat.le_refl _, Nat.lt_succ_self _⟩
  · rw [equality]
    exact List.forall_mem_nil _

/-- A member that is added has counted nothing. -/
theorem counts_add (scene : Scene .clock size) (draft : Draft .clock) :
    scene.Counts (scene.add draft) := by
  have noted := scene.noted_add draft
  have rests :
      ∀ entry ∈ (scene.add draft).trace.journal,
        ∀ steps, entry.call ≠ .step steps := by
    intro entry written steps
    rw [(noted entry written).1]
    exact Call.noConfusion
  have same (stays : (scene.add draft).scene.compound = scene.compound) :
      scene.Counts (scene.add draft) :=
    counts_of_same stays (fun entry written => (noted entry written).2) rests
  rcases scene.add_cases draft with
    ⟨cause, -, equality⟩ | ⟨member, -, -, equality⟩ |
      ⟨member, built, -, equality⟩
  · exact same (by rw [equality, tell])
  · exact same (by rw [equality])
  · rw [equality]
    refine ⟨List.forall_mem_nil _, ?_⟩
    intro new there
    rcases List.mem_append.mp there with old | added
    · exact
        .inl ⟨new, old, rfl, (UInt64.add_zero new.counter).symm⟩
    · cases List.mem_singleton.mp added
      exact
        .inr
          ⟨Nat.le_of_eq (Draft.tag_of_build built).1.symm,
            Draft.counter_of_build built, rfl⟩

end Scene

namespace Request

theorem goesOn_of_moving
    {request : Request setting size} (direct : ¬ request.IsPoke)
    (moving : ¬ request.Still) : request.GoesOn := by
  rcases request.goesOn_cases with
    ⟨draft, rfl⟩ | ⟨context, poke, rfl⟩ | rfl | goesOn
  · exact (moving trivial).elim
  · exact (direct trivial).elim
  · exact (moving trivial).elim
  · exact goesOn

/-- A request by which no member takes steps notes none. -/
theorem noted_of_still
    {request : Request .clock size} (still : request.Still)
    (scene : Scene .clock size) :
    ∀ entry ∈ (request.perform scene).trace.journal,
      ∀ steps, entry.call ≠ .step steps := by
  intro entry noted
  rcases request.goesOn_cases with
    ⟨draft, rfl⟩ | ⟨context, poke, rfl⟩ | rfl | goesOn
  · intro steps
    rw [(scene.noted_add draft entry noted).1]
    exact Call.noConfusion
  · exact still.elim
  · exact (scene.compound.noted_drop entry noted).2
  · have rests := (restCalls.perform goesOn still scene).1
    exact (rests.noted entry noted).2

/-- A request to take steps at once, with the active member or another one. -/
def IsStep : Request setting size → Prop
  | .step _ => True
  | .stepMember _ _ => True
  | _ => False

/-- A request to take steps that fails leaves everything as it is. -/
theorem untouched_of_failed_step
    {request : Request setting size} (stepping : request.IsStep)
    {scene : Scene setting size} {refusal : Refusal}
    (failed : (request.perform scene).answer = .error refusal) :
    (request.perform scene).Untouched scene := by
  have single : request.Single := by
    cases request with
    | step steps => trivial
    | stepMember index steps => trivial
    | _ => exact stepping.elim
  rcases Request.perform_of_error single failed with
    untouched | ⟨draft, _, rfl, _⟩
  · exact untouched
  · exact stepping.elim

/-- Each counter rises by the steps that a request has its recorder note. -/
theorem counts_perform
    (request : Request .clock size) {scene : Scene .clock size}
    (distinct : scene.compound.serials.Nodup) :
    scene.Counts (request.perform scene) := by
  rcases request.goesOn_cases with
    ⟨draft, rfl⟩ | ⟨context, poke, rfl⟩ | rfl | goesOn
  · exact scene.counts_add draft
  · exact
      Scene.counts_of_same rfl (List.forall_mem_nil _) (List.forall_mem_nil _)
  · exact
      ⟨fun entry noted => .inl (scene.compound.noted_drop entry noted).1,
        List.forall_mem_nil _⟩
  · by_cases still : request.Still
    · have rests := (restCalls.perform goesOn still scene).1
      exact
        ⟨fun entry noted => .inl (rests.noted entry noted).1,
          fun new there => .inl (rests.counted there)⟩
    · have accounts :=
        (countMotion.perform goesOn still scene).1 distinct
      exact
        ⟨fun entry noted => .inl (accounts.own entry noted),
          fun new there => .inl (accounts.counted there)⟩

end Request

namespace World

/-! ## Operations -/

/-- The recorder with a serial number, if it is a member of a compound. -/
def recorder? (serial : Nat) (world : World setting compounds size) :
    Option (Recorder size) :=
  (List.finRange compounds).findSome? fun home =>
    (world.compounds.get home).recorder? serial

/-- A recorder with the number of a member of a compound is found there. -/
theorem recorder?_of_mem_serials
    {world : World setting compounds size} (distinct : world.Distinct)
    {home : Fin compounds} {serial : Nat}
    (own : serial ∈ (world.compounds.get home).serials) :
    world.recorder? serial = (world.compounds.get home).recorder? serial := by
  refine findSome?_eq_of_alone (List.mem_finRange home) fun other _ known => ?_
  have there := Compound.mem_serials_of_recorder? known
  rcases List.mem_map.mp own with ⟨identity, found, numbered⟩
  rcases List.mem_map.mp there with ⟨stranger, present, alike⟩
  by_cases same : other = home
  · rw [same]
  · exact
      (distinct.apart other home same stranger present identity found
        (alike.trans numbered.symm)).elim

theorem mem_of_recorder?
    {world : World .clock compounds size} {serial : Nat}
    {recorder : Recorder size} (known : world.recorder? serial = some recorder) :
    ∃ home, .recorder recorder ∈ (world.compounds.get home).members ∧
      recorder.serial = serial := by
  rcases List.exists_of_findSome?_eq_some known with ⟨home, -, there⟩
  exact ⟨home, Compound.mem_of_recorder? there⟩

/-- Each recorder has counted the steps that it has noted. -/
structure Tallied (journal : List Entry)
    (world : World .clock compounds size) : Prop where
  distinct : world.Distinct
  noted : ∀ entry ∈ journal, entry.serial < world.made
  counter_eq :
    ∀ home, ∀ member ∈ (world.compounds.get home).members,
      member.counter = .ofNat (stepsOf member.serial journal)

theorem tallied_start (contexts : Contexts .clock size) :
    (start compounds contexts).Tallied [] where
  distinct := distinct_start contexts
  noted := List.forall_mem_nil _
  counter_eq := by
    intro home member found
    rw [compound_start] at found
    cases found

/-- A member of another compound than that of an operation notes no steps in it. -/
theorem Distinct.stepsOf_eq_zero
    {world : World .clock compounds size} (distinct : world.Distinct)
    {target home : Fin compounds} (other : target ≠ home) {serial : Nat}
    (own : serial ∈ (world.compounds.get home).serials)
    (request : Request .clock size) :
    stepsOf serial (world.perform ⟨target, request⟩).2.trace.journal = 0 := by
  have counts : (world.scene target).Counts (request.perform _) :=
    request.counts_perform (distinct.nodup target)
  refine stepsOf_of_ne fun entry noted => ?_
  rcases counts.noted entry noted with strange | ⟨fresh, -⟩
  · rcases List.mem_map.mp strange with ⟨stranger, present, numbered⟩
    rcases List.mem_map.mp own with ⟨identity, found, rfl⟩
    rw [← numbered]
    exact distinct.apart target home other stranger present identity found
  · exact
      (Nat.ne_of_lt (Nat.lt_of_lt_of_le (distinct.serial_lt_made own) fresh)).symm

/-- Every operation has each counter rise by the steps that its recorder notes. -/
theorem Tallied.perform
    {journal : List Entry} {world : World .clock compounds size}
    (tallied : world.Tallied journal)
    (operation : Operation .clock compounds size) :
    (world.perform operation).1.Tallied
      (journal ++ (world.perform operation).2.trace.journal) := by
  rcases operation with ⟨target, request⟩
  have distinct := tallied.distinct
  have kept := distinct.perform ⟨target, request⟩
  have counts : (world.scene target).Counts (request.perform _) :=
    request.counts_perform (distinct.nodup target)
  refine ⟨kept.1, ?_, ?_⟩
  · intro entry noted
    rcases List.mem_append.mp noted with before | now
    · exact Nat.lt_of_lt_of_le (tallied.noted entry before) kept.2
    · rcases counts.noted entry now with old | ⟨-, fresh⟩
      · exact Nat.lt_of_lt_of_le (distinct.serial_lt_made old) kept.2
      · exact fresh
  · intro home new there
    rw [stepsOf_append, UInt64.ofNat_add]
    by_cases other : target ≠ home
    · rw [compound_perform_of_ne world other] at there
      have own : new.serial ∈ (world.compounds.get home).serials :=
        Compound.mem_serials_iff.mpr ⟨new, there, rfl⟩
      rw [distinct.stepsOf_eq_zero other own, tallied.counter_eq home new there]
      exact (UInt64.add_zero _).symm
    · cases not_not.mp other
      rw [compound_perform] at there
      rcases counts.counted new there with
        ⟨old, found, numbered, counted⟩ | ⟨fresh, uncounted, nothing⟩
      · rw [counted, tallied.counter_eq target old found, numbered]
        rfl
      -- the number of a new member was not used before
      · have before : stepsOf new.serial journal = 0 := by
          refine stepsOf_of_ne fun entry noted => Nat.ne_of_lt ?_
          exact Nat.lt_of_lt_of_le (tallied.noted entry noted) fresh
        have now :
            (world.perform ⟨target, request⟩).2.trace.journal = [] :=
          nothing
        rw [uncounted, before, now]
        rfl

/-- A recorder that goes on has counted the steps that it has noted since. -/
theorem Tallied.stepsTaken_perform
    {journal : List Entry} {world : World .clock compounds size}
    (tallied : world.Tallied journal)
    {operation : Operation .clock compounds size} {serial : Nat}
    {old new : Recorder size} (before : world.recorder? serial = some old)
    (after : (world.perform operation).1.recorder? serial = some new) :
    new.stepsTaken =
      old.stepsTaken +
        .ofNat (stepsOf serial (world.perform operation).2.trace.journal) := by
  rcases mem_of_recorder? before with ⟨home, found, numbered⟩
  rcases mem_of_recorder? after with ⟨other, there, own⟩
  have counted : old.stepsTaken = .ofNat (stepsOf old.serial journal) :=
    tallied.counter_eq home _ found
  have now :
      new.stepsTaken =
        .ofNat
          (stepsOf new.serial
            (journal ++ (world.perform operation).2.trace.journal)) :=
    (tallied.perform operation).counter_eq other _ there
  rw [now, counted, own, numbered, stepsOf_append, UInt64.ofNat_add]

/-- The steps of an operation are accounted for in its compound. -/
theorem accounts_perform
    {world : World .clock compounds size} (distinct : world.Distinct)
    {operation : Operation .clock compounds size}
    (direct : ¬ operation.request.IsPoke)
    (moving : ¬ operation.request.Still) :
    Compound.Accounts
      (world.compounds.get operation.compound, world.contexts)
      (world.perform operation).2.trace.journal
      ((world.perform operation).1.compounds.get operation.compound,
        (world.perform operation).1.contexts) := by
  have goesOn := Request.goesOn_of_moving direct moving
  have accounts :=
    (countMotion.perform goesOn moving (world.scene operation.compound)).1
      (distinct.nodup operation.compound)
  rw [compound_perform_self]
  exact accounts

/-- Recorders that take steps keep their attachments and step sizes. -/
theorem uncounted_perform
    {world : World .clock compounds size} (distinct : world.Distinct)
    {operation : Operation .clock compounds size}
    (direct : ¬ operation.request.IsPoke)
    (moving : ¬ operation.request.Still) (serial : Nat) :
    ((world.perform operation).1.recorder? serial).map Recorder.uncounted =
      (world.recorder? serial).map Recorder.uncounted := by
  have accounts := accounts_perform distinct direct moving
  have same (home : Fin compounds) :
      (((world.perform operation).1.compounds.get home).recorder?
          serial).map Recorder.uncounted =
        ((world.compounds.get home).recorder? serial).map
          Recorder.uncounted := by
    by_cases other : operation.compound ≠ home
    · rw [compound_perform_of_ne world other]
    · cases not_not.mp other
      exact Compound.recorder?_of_uncounted accounts.uncounted_eq serial
  rw [recorder?, recorder?, List.map_findSome?, List.map_findSome?]
  exact congrArg (List.findSome? · _) (funext same)

/-- The steps that are noted show on the clocks of their recorders. -/
theorem clock_perform
    {world : World .clock compounds size} (distinct : world.Distinct)
    {operation : Operation .clock compounds size}
    (direct : ¬ operation.request.IsPoke)
    (moving : ¬ operation.request.Still) (clock : Fin size) :
    (world.perform operation).1.contexts.get clock =
      ((world.perform operation).2.trace.journal.filterMap
        (Entry.advance (world.recorder? ·) clock)).foldl advanced
          (world.contexts.get clock) := by
  have accounts := accounts_perform distinct direct moving
  -- whoever notes a step is found in the operation's own compound
  have found :
      (world.perform operation).2.trace.journal.filterMap
          (Entry.advance (world.recorder? ·) clock) =
        (world.perform operation).2.trace.journal.filterMap
          (Entry.advance
            (world.compounds.get operation.compound).recorder? clock) := by
    refine List.filterMap_congr fun entry noted => ?_
    have known := recorder?_of_mem_serials distinct (accounts.own entry noted)
    rw [Entry.advance, Entry.advance, known]
  rw [found]
  exact accounts.clock_eq clock

/-- Operations that are not for steps, or fail to take them at once, leave counters and clocks. -/
theorem Tallied.rests_perform
    {journal : List Entry} {world : World .clock compounds size}
    (tallied : world.Tallied journal)
    {operation : Operation .clock compounds size}
    (rests :
      operation.request.Still ∨
        operation.request.IsStep ∧
          (world.perform operation).2.answer.isOk = false) :
    (∀ entry ∈ (world.perform operation).2.trace.journal,
      ∀ steps, entry.call ≠ .step steps) ∧
    (world.perform operation).1.contexts = world.contexts ∧
    ∀ serial old new, world.recorder? serial = some old →
      (world.perform operation).1.recorder? serial = some new →
        new.stepsTaken = old.stepsTaken := by
  have quiet :
      (∀ entry ∈ (world.perform operation).2.trace.journal,
        ∀ steps, entry.call ≠ .step steps) ∧
        (world.perform operation).1.contexts = world.contexts := by
    let scene := world.scene operation.compound
    rcases rests with still | ⟨stepping, failed⟩
    · exact
        ⟨Request.noted_of_still still scene,
          Request.contexts_perform still scene⟩
    · cases answer : (operation.request.perform scene).answer with
      | ok value =>
          have accepted : (world.perform operation).2.answer = .ok value := answer
          rw [accepted] at failed
          cases failed
      | error refusal =>
          have untouched :=
            Request.untouched_of_failed_step stepping answer
          have nothing : (world.perform operation).2.trace.journal = [] :=
            untouched.journal_eq
          rw [nothing]
          exact
            ⟨List.forall_mem_nil _,
              untouched.contexts_eq⟩
  refine ⟨quiet.1, quiet.2, ?_⟩
  intro serial old new before after
  rw [tallied.stepsTaken_perform before after,
    stepsOf_eq_zero fun entry noted _ => quiet.1 entry noted]
  exact UInt64.add_zero old.stepsTaken

/-- Operations that are for steps change nothing of recorders but their counters. -/
theorem Tallied.recorder?_perform
    {journal : List Entry} {world : World .clock compounds size}
    (tallied : world.Tallied journal)
    {operation : Operation .clock compounds size}
    (direct : ¬ operation.request.IsPoke)
    (moving : ¬ operation.request.Still) (serial : Nat) :
    (world.perform operation).1.recorder? serial =
      (world.recorder? serial).map fun recorder =>
        { recorder with
          stepsTaken :=
            recorder.stepsTaken +
              .ofNat
                (stepsOf serial
                  (world.perform operation).2.trace.journal) } := by
  have same := uncounted_perform tallied.distinct direct moving serial
  cases before : world.recorder? serial with
  | none =>
      rw [before] at same
      exact Option.map_eq_none_iff.mp same
  | some old =>
      rw [before] at same
      rcases Option.map_eq_some_iff.mp same with ⟨new, after, alike⟩
      rw [after, Option.map_some, ← tallied.stepsTaken_perform before after,
        ← Recorder.eq_of_uncounted alike]

/-! ## Whole sessions -/

/-- By what steps advance a clock, each recorder taken as it is when its operation begins. -/
def advances (clock : Fin size) (world : World .clock compounds size) :
    List (Operation .clock compounds size) → List (Time × Count)
  | [] => []
  | operation :: operations =>
      (world.perform operation).2.trace.journal.filterMap
          (Entry.advance (world.recorder? ·) clock) ++
        advances clock (world.perform operation).1 operations

/-- Operations that change no clock past the compounds advance clocks by steps only. -/
theorem clock_performAll
    {world : World .clock compounds size} (distinct : world.Distinct)
    {operations : List (Operation .clock compounds size)}
    (direct : ∀ operation ∈ operations, ¬ operation.request.IsPoke)
    (clock : Fin size) :
    (world.performAll operations).1.contexts.get clock =
      (world.advances clock operations).foldl advanced
        (world.contexts.get clock) := by
  induction operations generalizing world with
  | nil => rfl
  | cons operation operations induction =>
      have later :=
        induction (distinct.perform operation).1
          (fun next listed => direct next (List.mem_cons_of_mem _ listed))
      have own := direct operation List.mem_cons_self
      rw [advances, List.foldl_append]
      refine later.trans (congrArg (List.foldl advanced · _) ?_)
      by_cases still : operation.request.Still
      · have same := Request.contexts_perform still (world.scene operation.compound)
        have silent :=
          Request.noted_of_still still (world.scene operation.compound)
        have nothing :
            (world.perform operation).2.trace.journal.filterMap
                (Entry.advance (world.recorder? ·) clock) =
              [] :=
          List.filterMap_eq_nil_iff.mpr fun entry noted =>
            Entry.advance_eq_none (silent entry noted) _ clock
        rw [nothing]
        exact congrArg (Vector.get · clock) same
      · exact clock_perform distinct own still clock

theorem tallied_performAll
    (contexts : Contexts .clock size)
    (operations : List (Operation .clock compounds size)) :
    let session := (start compounds contexts).performAll operations
    session.1.Tallied (journalOf session.2) := by
  suffices tallied :
      ∀ (journal : List Entry) (world : World .clock compounds size),
        world.Tallied journal →
          (world.performAll operations).1.Tallied
            (journal ++ journalOf (world.performAll operations).2) from
    tallied [] _ (tallied_start contexts)
  induction operations with
  | nil =>
      intro journal world tallied
      rw [performAll, journalOf, List.flatMap_nil, List.append_nil]
      exact tallied
  | cons operation operations induction =>
      intro journal world tallied
      have later := induction _ _ (tallied.perform operation)
      rw [List.append_assoc] at later
      exact later

/--
The journal of a session on clocks accounts for its counters and its clocks.  As
long as the steps that a recorder has noted have room in a count, it has counted
just these; and unless a clock was changed past all compounds, it shows what
comes of its first value by the steps that advance it, in order.  An operation
that is not for steps, or that fails to take them at once, adds no steps to the
journal and leaves all counters and clocks; any other changes nothing of recorders
but their counters, by what is noted.  In a run the counter of a recorder rises by
the steps that it notes, and if the run completes, these are the steps of the
segments that name the recorder.  However a run ends, no counter that starts from
zero overflows in it.
-/
theorem steps_of_performAll
    (contexts : Contexts .clock size)
    (operations : List (Operation .clock compounds size))
    (direct : ∀ operation ∈ operations, ¬ operation.request.IsPoke) :
    let session := (start compounds contexts).performAll operations
    let world := session.1
    let journal := journalOf session.2
    (∀ home, ∀ recorder : Recorder size,
      .recorder recorder ∈ (world.compounds.get home).members →
        stepsOf recorder.serial journal < Count.limit →
          recorder.stepsTaken.toNat = stepsOf recorder.serial journal) ∧
    (∀ clock : Fin size, world.contexts.get clock =
      ((start compounds contexts).advances clock operations).foldl advanced
        (contexts.get clock)) ∧
    (∀ operation, ¬ operation.request.IsPoke →
      let next := world.perform operation
      let noted := next.2.trace.journal
      (operation.request.Still ∨
          operation.request.IsStep ∧ next.2.answer.isOk = false →
        (∀ entry ∈ noted, ∀ steps, entry.call ≠ .step steps) ∧
          next.1.contexts = world.contexts ∧
          ∀ serial old new, world.recorder? serial = some old →
            next.1.recorder? serial = some new →
              new.stepsTaken = old.stepsTaken) ∧
      (¬ operation.request.Still →
        ∀ serial, next.1.recorder? serial =
          (world.recorder? serial).map fun recorder =>
            { recorder with
              stepsTaken :=
                recorder.stepsTaken + .ofNat (stepsOf serial noted) })) ∧
    (∀ home place (recorder : Recorder size),
      (world.compounds.get home).members[place]? = some (.recorder recorder) →
        ∀ {Memory : Type} (schedule : Schedule)
          (observer : Observer Event Memory) (memory : Memory),
          let run :=
            schedule.run observer memory (world.compounds.get home)
              world.contexts
          let steps := stepsOf recorder.serial run.trace.journal
          ∃ after : Recorder size,
            run.standing.compound.members[place]? = some (.recorder after) ∧
            (recorder.stepsTaken.toNat + steps < Count.limit →
              after.stepsTaken.toNat = recorder.stepsTaken.toNat + steps) ∧
            (∀ ending, run.answer = .ok ending → ending.status = .complete →
              steps = schedule.stepsNaming place) ∧
            (recorder.stepsTaken = 0 →
              after.stepsTaken.toNat = steps ∧
                ∀ front, front <+: run.trace.journal →
                  stepsOf recorder.serial front < Count.limit)) := by
  intro session world journal
  have tallied : world.Tallied journal := tallied_performAll contexts operations
  refine
    ⟨?_, clock_performAll (distinct_start contexts) direct, ?_, ?_⟩
  · intro home recorder found room
    have counted :
        recorder.stepsTaken = .ofNat (stepsOf recorder.serial journal) :=
      tallied.counter_eq home _ found
    rw [counted]
    exact UInt64.toNat_ofNat_of_lt' room
  · intro operation own next noted
    exact
      ⟨tallied.rests_perform, tallied.recorder?_perform own⟩
  · intro home place recorder found Memory schedule observer memory run steps
    have distinct : (world.compounds.get home).serials.Nodup :=
      tallied.distinct.nodup home
    rcases schedule.counter_of_run observer memory distinct world.contexts found
      with ⟨after, there, exactly, zero⟩
    exact
      ⟨after, there, exactly,
        (schedule.stepsOf_run observer memory distinct world.contexts found).2,
        zero⟩

/-- Two recorders advance one clock, the first of them later by another step size. -/
theorem steps_of_two_recorders :
    let operations : List (Operation .clock 2 2) :=
      [⟨0, .add (.recorder { name := "first" })⟩,
        ⟨1, .add (.recorder
          { name := "second", stepSize := .ofPicoseconds 0.004 })⟩,
        ⟨0, .bind 0⟩,
        ⟨1, .bind 0⟩,
        ⟨0, .step 3⟩,
        ⟨1, .stepMember 0 2⟩,
        ⟨0, .setStepSize (.ofPicoseconds 0.001)⟩,
        ⟨0, .step 4⟩]
    let world := ((start 2 #v[0.0, 0.0]).performAll operations).1
    let schedule : Schedule :=
      { segments := [⟨0, 5⟩]
        chunk := some 2
        nonempty := by decide
        steps_pos := by decide
        total_lt := by decide
        chunk_pos := by simp }
    let run := schedule.runUnobserved (world.compounds.get 0) world.contexts
    ∃ before after : Recorder 2,
      (world.compounds.get 0).members[0]? = some (.recorder before) ∧
        before.stepsTaken.toNat = 7 ∧
        world.contexts.get 0 =
          [(.ofPicoseconds 0.002, 3), (.ofPicoseconds 0.004, 2),
            (.ofPicoseconds 0.001, 4)].foldl advanced 0.0 ∧
        run.standing.compound.members[0]? = some (.recorder after) ∧
        after.stepsTaken.toNat = 12 := by
  intro operations world schedule run
  have direct : ∀ operation ∈ operations, ¬ operation.request.IsPoke := by
    simp [operations, Request.IsPoke]
  have counted := steps_of_performAll #v[0.0, 0.0] operations direct
  let before : Recorder 2 :=
    ⟨0, "first", 7, .ofPicoseconds 0.001, Dynamics.standardTolerance, .none,
      false, false, some 0⟩
  have found :
      (world.compounds.get 0).members[0]? = some (.recorder before) := by
    rfl
  have seven : before.stepsTaken.toNat = 7 :=
    counted.1 0 before (List.mem_of_getElem? found) (by decide +kernel)
  rcases counted.2.2.2 0 0 before found schedule .silent () with
    ⟨after, there, exactly, all, -⟩
  have five : stepsOf before.serial run.trace.journal = 5 :=
    all ⟨.complete, 1, 5⟩ (by decide +kernel) rfl
  have twelve : before.stepsTaken.toNat + 5 = 12 := by rw [seven]
  refine ⟨before, after, found, seven, counted.2.1 0, there, ?_⟩
  rw [← twelve, ← five]
  refine exactly ?_
  show before.stepsTaken.toNat + stepsOf before.serial run.trace.journal < _
  rw [five, twelve]
  decide

end World

end Stepping
