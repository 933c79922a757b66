import Stepping.Proofs.Compound.Identities
import Stepping.Proofs.Compound.Life
import Mathlib.Data.List.Nodup
import Mathlib.Algebra.GroupWithZero.Nat

/-!
# Steps that recorders count

A recorder counts the steps that it notes, and for each of them it advances the
clock that it is attached to by its step size.  So what is done with the members
of a compound is accounted for by the journal: the counter of each recorder rises
by the steps that it has noted, and each clock goes on by those of the recorders
attached to it.

This is so of every step, and of steps one after another, as long as no other
thing is done between them; what else is done with members notes no steps and
leaves their counters.
-/

namespace Stepping

variable {setting : Setting} {size : Nat}

/-! ## Steps in a journal -/

/-- The number of steps that a call takes. -/
def Call.steps : Call → Nat
  | .step steps => steps.toNat
  | _ => 0

/-- The number of steps that the recorder with a serial number has noted in all. -/
def stepsOf (serial : Nat) (journal : List Entry) : Nat :=
  ((callsOf serial journal).map Call.steps).sum

theorem stepsOf_append (serial : Nat) (earlier later : List Entry) :
    stepsOf serial (earlier ++ later) =
      stepsOf serial earlier + stepsOf serial later := by
  simp [stepsOf]

theorem stepsOf_front_le
    (serial : Nat) {front journal : List Entry} (before : front <+: journal) :
    stepsOf serial front ≤ stepsOf serial journal := by
  rcases before with ⟨rest, rfl⟩
  rw [stepsOf_append]
  exact Nat.le_add_right _ _

/-- Where a recorder has noted no steps, it has noted zero of them. -/
theorem stepsOf_eq_zero
    {serial : Nat} {journal : List Entry}
    (none : ∀ entry ∈ journal, entry.serial = serial →
      ∀ steps, entry.call ≠ .step steps) :
    stepsOf serial journal = 0 := by
  rw [stepsOf, List.sum_eq_zero_iff_forall_eq_nat]
  intro number listed
  rcases List.mem_map.mp listed with ⟨call, noted, rfl⟩
  rcases mem_callsOf_iff.mp noted with ⟨entry, written, own, rfl⟩
  have other := none entry written own
  cases called : entry.call with
  | step steps => exact (other steps called).elim
  | _ => rfl

theorem stepsOf_of_ne
    {serial : Nat} {journal : List Entry}
    (others : ∀ entry ∈ journal, entry.serial ≠ serial) :
    stepsOf serial journal = 0 :=
  stepsOf_eq_zero fun entry written own => (others entry written own).elim

/-- What a recorder notes of steps is their number. -/
theorem stepsOf_notes (recorder : Recorder size) (steps : Count) :
    stepsOf recorder.serial
        ((Member.recorder recorder).notes (.step steps)) =
      steps.toNat := by
  simp [stepsOf, callsOf, Member.notes, Recorder.entry, Call.steps]

theorem mem_notesOf
    {call : Call} {members : List (Member setting size)} {entry : Entry}
    (noted : entry ∈ Compound.notesOf call members) :
    ∃ member ∈ members, entry.serial = member.serial ∧ entry.call = call := by
  rcases List.mem_flatMap.mp noted with ⟨member, found, own⟩
  rw [Member.notes_eq] at own
  exact ⟨member, found, Tag.eq_of_mem_notes own⟩

namespace Member

theorem counter_detach (member : Member setting size) :
    member.detach.counter = member.counter := by
  cases member <;> rfl

end Member

namespace Compound

/-! ## What takes no steps -/

/-- The members are the ones that they were, none has counted a step, and none has noted one. -/
structure Rests (before : Compound setting size) (journal : List Entry)
    (after : Compound setting size) : Prop where
  identities_eq : after.identities = before.identities
  counters_eq :
    after.members.map Member.counter = before.members.map Member.counter
  noted :
    ∀ entry ∈ journal,
      entry.serial ∈ before.serials ∧ ∀ steps, entry.call ≠ .step steps

theorem Rests.refl (compound : Compound setting size) :
    compound.Rests [] compound where
  identities_eq := rfl
  counters_eq := rfl
  noted := List.forall_mem_nil _

/-- Where no steps are taken, each member comes of one that has counted as many. -/
theorem Rests.counted
    {before after : Compound setting size} {journal : List Entry}
    (rests : before.Rests journal after) {new : Member setting size}
    (there : new ∈ after.members) :
    ∃ old ∈ before.members,
      old.serial = new.serial ∧
        new.counter = old.counter + .ofNat (stepsOf new.serial journal) := by
  rcases List.mem_iff_getElem?.mp there with ⟨place, there⟩
  have known : before.identities[place]? = some new.identity := by
    rw [← rests.identities_eq]
    exact identities_eq_some_iff.mpr ⟨new, there, rfl⟩
  rcases identities_eq_some_iff.mp known with ⟨old, found, same⟩
  have counters := congrArg (fun counters => counters[place]?) rests.counters_eq
  simp only [List.getElem?_map, found, there] at counters
  have silent : stepsOf new.serial journal = 0 :=
    stepsOf_eq_zero fun entry written _ => (rests.noted entry written).2
  rw [silent]
  exact
    ⟨old, List.mem_of_getElem? found, congrArg Identity.serial same,
      (Option.some.inj counters).trans (UInt64.add_zero old.counter).symm⟩

theorem rests_select (index : Nat) (compound : Compound setting size) :
    compound.Rests (compound.select index).2.2.journal
      (compound.select index).2.1 := by
  rw [journal_select, select]
  split
  · exact ⟨rfl, rfl, List.forall_mem_nil _⟩
  · exact .refl compound

theorem rests_put
    {compound : Compound setting size} {index : Nat}
    {old new : Member setting size} {notes : List Entry}
    (found : compound.members[index]? = some old)
    (changed : old.Changed notes new) :
    compound.Rests notes (compound.put index new) where
  identities_eq := identities_put found changed.identity_eq
  counters_eq := map_members_put Member.counter found changed.counter_eq
  noted := by
    intro entry written
    rcases changed.noted entry written with ⟨own, rests⟩
    exact
      ⟨mem_serials_iff.mpr ⟨old, List.mem_of_getElem? found, own.symm⟩, rests⟩

/-- What members note of a call that takes no steps. -/
theorem noted_notesOf
    {call : Call} (rests : ∀ steps, call ≠ .step steps)
    {compound : Compound setting size} {members : List (Member setting size)}
    (among : ∀ member ∈ members, member ∈ compound.members) :
    ∀ entry ∈ notesOf call members,
      entry.serial ∈ compound.serials ∧ ∀ steps, entry.call ≠ .step steps := by
  intro entry noted
  rcases mem_notesOf noted with ⟨member, found, own, called⟩
  rw [called]
  exact ⟨mem_serials_iff.mpr ⟨member, among member found, own.symm⟩, rests⟩

theorem noted_release (compound : Compound setting size) :
    ∀ entry ∈ compound.release.2.journal,
      entry.serial ∈ compound.serials ∧ ∀ steps, entry.call ≠ .step steps := by
  rw [release_trace]
  split_ifs
  · exact noted_notesOf (fun _ => Call.noConfusion) fun _ => id
  · exact List.forall_mem_nil _

theorem rests_release (compound : Compound setting size) :
    compound.Rests compound.release.2.journal compound.release.1 where
  identities_eq := identities_release compound
  counters_eq := map_members_release Member.counter_detach compound
  noted := compound.noted_release

theorem rests_bind
    (context : Fin size) (contexts : Contexts setting size)
    (compound : Compound setting size) :
    compound.Rests (compound.bind context contexts).2.2.journal
      (compound.bind context contexts).2.1 where
  identities_eq := identities_bind context contexts compound
  counters_eq :=
    map_members_bind Member.counter_detach context contexts compound
  noted := by
    have released := compound.noted_release
    have before :
        ((if compound.bound then .ofNotice .rebinding else .none) ++
            compound.release.2 : Trace).journal =
          compound.release.2.journal := by
      rw [journal_before_bind, release_trace]
      split_ifs <;> rfl
    cases first : compound.firstRefusal context contexts with
    | none =>
        rw [bind_of_accepting (accepting_of_firstRefusal first)]
        intro entry noted
        rw [Trace.journal_append, before] at noted
        rcases List.mem_append.mp noted with early | late
        · exact released entry early
        · exact
            noted_notesOf (fun _ => Call.noConfusion) (fun _ => id) entry late
    | some place =>
        rcases refusal_of_firstRefusal first with
          ⟨member, cause, found, refuses, accepting⟩
        rw [bind_of_first_refusal found refuses accepting]
        intro entry noted
        rw [Trace.journal_append, before] at noted
        rcases List.mem_append.mp noted with early | late
        · exact released entry early
        · rcases List.mem_append.mp late with bound | undone
          · exact
              noted_notesOf (fun _ => Call.noConfusion)
                (fun _ => List.mem_of_mem_take) entry bound
          · exact
              noted_notesOf (fun _ => Call.noConfusion)
                (fun _ => List.mem_of_mem_take) entry undone

/-- The end of a compound takes no steps. -/
theorem noted_drop (compound : Compound setting size) :
    ∀ entry ∈ compound.drop.journal,
      entry.serial ∈ compound.serials ∧ ∀ steps, entry.call ≠ .step steps := by
  rw [journal_drop]
  intro entry noted
  rcases List.mem_append.mp noted with early | late
  · split_ifs at early
    · exact
        noted_notesOf (fun _ => Call.noConfusion) (fun _ => id) entry early
    · cases early
  · exact noted_notesOf (fun _ => Call.noConfusion) (fun _ => id) entry late

end Compound

/-! ## Finding recorders -/

/-- Where whatever is found is the same, it is found. -/
theorem findSome?_eq_of_alone {α β : Type}
    {find : α → Option β} {list : List α} {value : α} (listed : value ∈ list)
    (alone : ∀ other ∈ list, find other ≠ none → find other = find value) :
    list.findSome? find = find value := by
  cases found : list.findSome? find with
  | none => exact (List.findSome?_eq_none_iff.mp found value listed).symm
  | some result =>
      rcases List.exists_of_findSome?_eq_some found with ⟨other, there, same⟩
      rw [← same]
      exact alone other there (by simp [same])

theorem Recorder.eq_of_uncounted
    {first second : Recorder size} (same : first.uncounted = second.uncounted) :
    first = { second with stepsTaken := first.stepsTaken } := by
  cases first
  cases second
  cases same
  rfl

namespace Member

/-- The recorder with a serial number, if it is this member. -/
def recorder? (serial : Nat) : Member setting size → Option (Recorder size)
  | .recorder member => if member.serial = serial then some member else none
  | _ => none

theorem identity_uncounted (member : Member setting size) :
    member.uncounted.identity = member.identity :=
  congrArg Tag.identity member.tag_uncounted

theorem serial_of_uncounted
    {first second : Member setting size}
    (same : first.uncounted = second.uncounted) :
    first.serial = second.serial := by
  have identity := congrArg Member.identity same
  rw [identity_uncounted, identity_uncounted] at identity
  exact congrArg Identity.serial identity

theorem recorder?_uncounted (serial : Nat) (member : Member setting size) :
    member.uncounted.recorder? serial =
      (member.recorder? serial).map Recorder.uncounted := by
  cases member with
  | recorder recorder =>
      rw [uncounted, recorder?, recorder?]
      split_ifs with own other other
      · rfl
      · exact (other own).elim
      · exact (own other).elim
      · rfl
  | _ => rfl

theorem serial_of_recorder?
    {serial : Nat} {member : Member setting size}
    (found : member.recorder? serial ≠ none) : member.serial = serial := by
  cases member with
  | recorder recorder =>
      rw [recorder?] at found
      split_ifs at found with own
      · exact own
      · exact (found rfl).elim
  | _ => exact (found rfl).elim

end Member

namespace Compound

/-- The recorder with a serial number, if it is a member. -/
def recorder? (serial : Nat) (compound : Compound setting size) :
    Option (Recorder size) :=
  compound.members.findSome? (Member.recorder? serial)

/-- Of members with different numbers each is found by its own. -/
theorem recorder?_of_mem
    {compound : Compound setting size} (distinct : compound.serials.Nodup)
    {member : Member setting size} (found : member ∈ compound.members) :
    compound.recorder? member.serial = member.recorder? member.serial := by
  rw [serials_eq] at distinct
  refine findSome?_eq_of_alone found fun other there known => ?_
  rw [List.inj_on_of_nodup_map distinct there found
    (Member.serial_of_recorder? known)]

theorem mem_serials_of_recorder?
    {compound : Compound setting size} {serial : Nat}
    (known : compound.recorder? serial ≠ none) :
    serial ∈ compound.serials := by
  rcases Option.ne_none_iff_exists'.mp known with ⟨recorder, known⟩
  rcases List.exists_of_findSome?_eq_some known with ⟨member, found, own⟩
  exact
    mem_serials_iff.mpr
      ⟨member, found, Member.serial_of_recorder? (by simp [own])⟩

theorem mem_of_recorder?
    {compound : Compound .clock size} {serial : Nat} {recorder : Recorder size}
    (known : compound.recorder? serial = some recorder) :
    .recorder recorder ∈ compound.members ∧ recorder.serial = serial := by
  rcases List.exists_of_findSome?_eq_some known with ⟨member, found, own⟩
  cases member with
  | recorder other =>
      rw [Member.recorder?] at own
      split_ifs at own with numbered
      cases own
      exact ⟨found, numbered⟩
  | idle number => cases own

/-- Members that differ by the steps counted are found alike. -/
theorem recorder?_of_uncounted
    {before after : Compound setting size}
    (same :
      after.members.map Member.uncounted = before.members.map Member.uncounted)
    (serial : Nat) :
    (after.recorder? serial).map Recorder.uncounted =
      (before.recorder? serial).map Recorder.uncounted := by
  have seen (compound : Compound setting size) :
      (compound.recorder? serial).map Recorder.uncounted =
        (compound.members.map Member.uncounted).findSome?
          (Member.recorder? serial) := by
    rw [recorder?, List.map_findSome?, List.findSome?_map]
    congr 1
    funext member
    exact (Member.recorder?_uncounted serial member).symm
  rw [seen, seen, same]

theorem identities_of_uncounted
    {before after : Compound setting size}
    (same :
      after.members.map Member.uncounted =
        before.members.map Member.uncounted) :
    after.identities = before.identities := by
  have seen (compound : Compound setting size) :
      compound.identities =
        (compound.members.map Member.uncounted).map Member.identity := by
    simp [identities, Function.comp_def, Member.identity_uncounted]
  rw [seen, seen, same]

end Compound

/-! ## What takes steps -/

/--
By what a step that was noted advances a clock, if the recorder that is found by
its number is attached to this clock.
-/
def Entry.advance (find : Nat → Option (Recorder size)) (clock : Fin size)
    (entry : Entry) : Option (Time × Count) :=
  match entry.call, find entry.serial with
  | .step steps, some recorder =>
      if recorder.attachment = some clock then some (recorder.stepSize, steps)
      else none
  | _, _ => none

/-- What a clock shows after so many steps of a size. -/
def advanced (value : Float) (advance : Time × Count) : Float :=
  value + advance.1.picoseconds * advance.2.toFloat

theorem Entry.advance_uncounted
    (find : Nat → Option (Recorder size)) (clock : Fin size) (entry : Entry) :
    entry.advance (fun serial => (find serial).map Recorder.uncounted) clock =
      entry.advance find clock := by
  rw [advance, advance]
  cases entry.call with
  | step steps => cases find entry.serial <;> rfl
  | _ => rfl

/-- How many steps a recorder has counted before makes no difference to its clock. -/
theorem Entry.advance_congr
    {first second : Nat → Option (Recorder size)}
    (same :
      ∀ serial, (first serial).map Recorder.uncounted =
        (second serial).map Recorder.uncounted) :
    advance first = advance second := by
  funext clock entry
  rw [← advance_uncounted first, ← advance_uncounted second, funext same]

theorem Entry.advance_eq_none
    {entry : Entry} (rests : ∀ steps, entry.call ≠ .step steps)
    (find : Nat → Option (Recorder size)) (clock : Fin size) :
    entry.advance find clock = none := by
  rw [advance]
  cases called : entry.call with
  | step steps => exact (rests steps called).elim
  | _ => rfl

namespace Compound

/-- The journal accounts for all counters of a compound, and for the clocks. -/
structure Accounts (before : Compound .clock size × Contexts .clock size)
    (journal : List Entry)
    (after : Compound .clock size × Contexts .clock size) : Prop where
  uncounted_eq :
    after.1.members.map Member.uncounted =
      before.1.members.map Member.uncounted
  own : ∀ entry ∈ journal, entry.serial ∈ before.1.serials
  counter_eq :
    ∀ (place : Nat) (old new : Member .clock size),
      before.1.members[place]? = some old →
        after.1.members[place]? = some new →
          new.counter = old.counter + .ofNat (stepsOf old.serial journal)
  clock_eq :
    ∀ clock : Fin size, after.2.get clock =
      (journal.filterMap (Entry.advance before.1.recorder? clock)).foldl
        advanced (before.2.get clock)

/-- Where members are the same, nothing is to be accounted for. -/
theorem accounts_of_same
    {before after : Compound .clock size} (same : after.members = before.members)
    (contexts : Contexts .clock size) :
    Accounts (before, contexts) [] (after, contexts) where
  uncounted_eq := congrArg _ same
  own := List.forall_mem_nil _
  counter_eq := by
    intro place old new found there
    rw [same] at there
    cases found.symm.trans there
    exact (UInt64.add_zero old.counter).symm
  clock_eq := fun _ => rfl

/-- A member has one with its serial number in its place, with or without more steps counted. -/
theorem getElem?_of_uncounted
    {before after : Compound setting size}
    (same :
      after.members.map Member.uncounted = before.members.map Member.uncounted)
    {place : Nat} {old : Member setting size}
    (found : before.members[place]? = some old) :
    ∃ new, after.members[place]? = some new ∧ new.uncounted = old.uncounted := by
  have there := congrArg (fun members => members[place]?) same
  rw [List.getElem?_map, List.getElem?_map, found, Option.map_some] at there
  exact Option.map_eq_some_iff.mp there

theorem Accounts.serials_eq
    {before after : Compound .clock size × Contexts .clock size}
    {journal : List Entry} (accounts : Accounts before journal after) :
    after.1.serials = before.1.serials :=
  congrArg (List.map Identity.serial)
    (identities_of_uncounted accounts.uncounted_eq)

/-- Each member comes of one that has not yet counted the steps that it has noted since. -/
theorem Accounts.counted
    {before after : Compound .clock size × Contexts .clock size}
    {journal : List Entry} (accounts : Accounts before journal after)
    {new : Member .clock size} (there : new ∈ after.1.members) :
    ∃ old ∈ before.1.members,
      old.serial = new.serial ∧
        new.counter = old.counter + .ofNat (stepsOf new.serial journal) := by
  rcases List.mem_iff_getElem?.mp there with ⟨place, there⟩
  rcases getElem?_of_uncounted accounts.uncounted_eq.symm there with
    ⟨old, found, same⟩
  have serial : old.serial = new.serial :=
    Member.serial_of_uncounted same
  refine ⟨old, List.mem_of_getElem? found, serial, ?_⟩
  rw [← serial]
  exact accounts.counter_eq place old new found there

theorem Accounts.trans
    {first second third : Compound .clock size × Contexts .clock size}
    {earlier later : List Entry}
    (left : Accounts first earlier second) (right : Accounts second later third) :
    Accounts first (earlier ++ later) third where
  uncounted_eq := right.uncounted_eq.trans left.uncounted_eq
  own := by
    intro entry noted
    rcases List.mem_append.mp noted with early | late
    · exact left.own entry early
    · rw [← left.serials_eq]
      exact right.own entry late
  counter_eq := by
    intro place old new found there
    rcases getElem?_of_uncounted left.uncounted_eq found with
      ⟨middle, between, same⟩
    have serial : middle.serial = old.serial :=
      Member.serial_of_uncounted same
    rw [right.counter_eq place middle new between there,
      left.counter_eq place old middle found between, serial, stepsOf_append,
      UInt64.ofNat_add, UInt64.add_assoc]
  clock_eq := by
    intro clock
    have alike :=
      Entry.advance_congr (recorder?_of_uncounted left.uncounted_eq)
    rw [right.clock_eq, left.clock_eq, alike, List.filterMap_append,
      List.foldl_append]

/-- Of members with different numbers no two places have one number. -/
theorem serial_ne_of_ne
    {compound : Compound setting size} (distinct : compound.serials.Nodup)
    {first second : Nat} (differ : first ≠ second)
    {member other : Member setting size}
    (found : compound.members[first]? = some member)
    (there : compound.members[second]? = some other) :
    member.serial ≠ other.serial := by
  intro same
  have left : compound.serials[first]? = some member.serial := by
    rw [serials_eq, List.getElem?_map, found]
    rfl
  have right : compound.serials[second]? = some other.serial := by
    rw [serials_eq, List.getElem?_map, there]
    rfl
  rw [← same, ← left] at right
  exact
    differ
      ((List.getElem?_inj (List.getElem?_eq_some_iff.mp left).1 distinct).mp
        right.symm)

theorem getElem?_put_self
    {compound : Compound setting size} {index : Nat}
    {old new : Member setting size}
    (found : compound.members[index]? = some old) :
    (compound.put index new).members[index]? = some new :=
  List.getElem?_set_self (List.getElem?_eq_some_iff.mp found).1

theorem getElem?_put_of_ne
    {compound : Compound setting size} {index place : Nat}
    {new : Member setting size} (differ : index ≠ place) :
    (compound.put index new).members[place]? = compound.members[place]? :=
  List.getElem?_set_ne differ

theorem recorder?_of_getElem?
    {compound : Compound .clock size} (distinct : compound.serials.Nodup)
    {place : Nat} {recorder : Recorder size}
    (found : compound.members[place]? = some (.recorder recorder)) :
    compound.recorder? recorder.serial = some recorder := by
  have own := recorder?_of_mem distinct (List.mem_of_getElem? found)
  rw [Member.serial] at own
  rw [own, Member.recorder?, if_pos rfl]

/-- When one recorder takes steps, each counter rises by the steps that its member notes. -/
theorem counter_put_of_step
    {compound : Compound .clock size} (distinct : compound.serials.Nodup)
    {index : Nat} {recorder : Recorder size} (steps : Count)
    (found : compound.members[index]? = some (.recorder recorder))
    {place : Nat} {old new : Member .clock size}
    (there : compound.members[place]? = some old)
    (now :
      (compound.put index
        (.recorder { recorder with
          stepsTaken := recorder.stepsTaken + steps })).members[place]? =
        some new) :
    new.counter =
      old.counter +
        .ofNat
          (stepsOf old.serial
            ((Member.recorder recorder).notes (.step steps))) := by
  -- all others have other numbers, so they note nothing
  by_cases same : index = place
  · subst same
    cases found.symm.trans there
    rw [getElem?_put_self found] at now
    cases now
    have counted :
        stepsOf (Member.recorder recorder).serial
            ((Member.recorder recorder).notes (.step steps)) =
          steps.toNat :=
      stepsOf_notes recorder steps
    rw [counted, UInt64.ofNat_toNat]
    rfl
  · rw [getElem?_put_of_ne same] at now
    cases there.symm.trans now
    have other := serial_ne_of_ne distinct same found there
    have nothing :
        stepsOf old.serial
            ((Member.recorder recorder).notes (.step steps)) = 0 := by
      refine stepsOf_of_ne fun entry noted => ?_
      rw [List.mem_singleton.mp noted]
      exact other
    rw [nothing]
    exact (UInt64.add_zero old.counter).symm

/-- A recorder that takes steps advances its clock by them, and no other one. -/
theorem clock_of_step
    (find : Nat → Option (Recorder size)) {recorder : Recorder size}
    (known : find recorder.serial = some recorder) {context : Fin size}
    (attached : recorder.attachment = some context)
    (steps : Count) (clocks : Contexts .clock size) (clock : Fin size) :
    (clocks.set context
        (advanced (clocks.get context) (recorder.stepSize, steps))
        context.isLt).get clock =
      (((Member.recorder recorder).notes (.step steps)).filterMap
        (Entry.advance find clock)).foldl advanced (clocks.get clock) := by
  have advance :
      Entry.advance find clock (recorder.entry (.step steps)) =
        if some context = some clock then some (recorder.stepSize, steps)
        else none := by
    rw [← attached, Entry.advance]
    simp only [Recorder.entry, known]
  rw [Member.notes, List.filterMap_cons, List.filterMap_nil, advance]
  split_ifs with same
  · cases same
    exact Vector.getElem_set_self context.isLt
  · have apart : context.val ≠ clock.val :=
      fun equal => same (congrArg some (Fin.ext equal))
    exact Vector.getElem_set_ne context.isLt clock.isLt apart

/-- The steps of a member are accounted for by what it notes of them. -/
theorem accounts_of_step
    {compound : Compound .clock size} (distinct : compound.serials.Nodup)
    {contexts after : Contexts .clock size} {index : Nat}
    {member moved : Member .clock size} {steps : Count}
    (found : compound.members[index]? = some member)
    (stepped : member.step steps contexts = .ok (moved, after)) :
    Accounts (compound, contexts) (member.notes (.step steps))
      (compound.put index moved, after) := by
  cases member with
  | idle serial =>
      cases stepped
      refine accounts_of_same ?_ contexts
      rcases List.getElem?_eq_some_iff.mp found with ⟨inside, own⟩
      rw [put, ← own, List.set_getElem_self]
  | recorder recorder =>
      rcases Member.ofRecorder_eq_ok_iff.mp stepped with
        ⟨result, accepted, equality⟩
      rcases Recorder.step_eq_ok_iff.mp accepted with ⟨context, live, rfl⟩
      cases equality
      have known := recorder?_of_getElem? distinct found
      have attached := Recorder.attachment_of_live live
      refine ⟨map_members_put Member.uncounted found rfl, ?_, ?_, ?_⟩
      · intro entry noted
        rw [List.mem_singleton.mp noted]
        exact mem_serials_iff.mpr ⟨_, List.mem_of_getElem? found, rfl⟩
      · intro place old new there now
        exact counter_put_of_step distinct steps found there now
      · exact clock_of_step (compound.recorder? ·) known attached steps contexts

end Compound

end Stepping
