import Stepping.Proofs.Compound.Binding
import Stepping.Proofs.Member.Life

/-!
# What operations on a compound mean for a recorder's life

A recorder is followed by its serial number, so the calls that it has noted can
be picked out of a journal, and its tag out of the tags of a compound.  The tags
show the phase that the recorder is in: it has come to its end if no tag has its
number, and else it is attached just if its tag is.

An operation follows a recorder's life if the calls noted may come in the phase
shown before and lead to the phase shown after.  Operations of a compound do so
whenever the compound is tied.
-/

namespace Stepping

variable {setting : Setting} {size : Nat}

/-- The calls that the recorder with a serial number has noted, in order. -/
def callsOf (serial : Nat) (journal : List Entry) : List Call :=
  (journal.filter fun entry => entry.serial = serial).map Entry.call

@[simp]
theorem callsOf_nil (serial : Nat) : callsOf serial [] = [] :=
  rfl

@[simp]
theorem callsOf_append (serial : Nat) (earlier later : List Entry) :
    callsOf serial (earlier ++ later) =
      callsOf serial earlier ++ callsOf serial later := by
  simp [callsOf]

theorem callsOf_flatMap_eq_nil {α : Type}
    {serial : Nat} {values : List α} {journal : α → List Entry}
    (silent : ∀ value ∈ values, callsOf serial (journal value) = []) :
    callsOf serial (values.flatMap journal) = [] := by
  induction values with
  | nil => rfl
  | cons value values induction =>
      rw [List.flatMap_cons, callsOf_append, silent value List.mem_cons_self,
        induction fun next member => silent next (List.mem_cons_of_mem _ member)]
      rfl

theorem mem_callsOf_iff {serial : Nat} {journal : List Entry} {call : Call} :
    call ∈ callsOf serial journal ↔
      ∃ entry ∈ journal, entry.serial = serial ∧ entry.call = call := by
  simp [callsOf, and_assoc]

namespace Tag

/-- The tag is that of a member that notes calls and can be attached. -/
def OfRecorder (tag : Tag size) : Prop :=
  tag.name.isSome ∧ tag.kind ≠ .idle

/-- The tags with a serial number. -/
def under (serial : Nat) (tags : List (Tag size)) : List (Tag size) :=
  tags.filter fun tag => tag.serial = serial

@[simp]
theorem under_append (serial : Nat) (front back : List (Tag size)) :
    under serial (front ++ back) = under serial front ++ under serial back :=
  List.filter_append front back

theorem under_map
    {change : Tag size → Tag size}
    (same : ∀ tag, (change tag).serial = tag.serial)
    (serial : Nat) (tags : List (Tag size)) :
    under serial (tags.map change) = (under serial tags).map change := by
  simp [under, List.filter_map, Function.comp_def, same]

theorem mem_under_iff {serial : Nat} {tags : List (Tag size)} {tag : Tag size} :
    tag ∈ under serial tags ↔ tag ∈ tags ∧ tag.serial = serial := by
  simp [under]

theorem eq_of_mem_notes
    {tag : Tag size} {call : Call} {entry : Entry}
    (noted : entry ∈ tag.notes call) :
    entry.serial = tag.serial ∧ entry.call = call := by
  rw [notes, Option.mem_toList] at noted
  rcases Option.map_eq_some_iff.mp noted with ⟨name, -, rfl⟩
  exact ⟨rfl, rfl⟩

theorem callsOf_notes
    {tag : Tag size} (recorder : tag.OfRecorder) (call : Call) :
    callsOf tag.serial (tag.notes call) = [call] := by
  rcases Option.isSome_iff_exists.mp recorder.1 with ⟨name, named⟩
  simp [callsOf, notes, named]

theorem callsOf_notes_of_ne
    {tag : Tag size} {serial : Nat} (other : tag.serial ≠ serial)
    (call : Call) : callsOf serial (tag.notes call) = [] := by
  rw [List.eq_nil_iff_forall_not_mem]
  intro noted found
  rcases mem_callsOf_iff.mp found with ⟨entry, written, number, -⟩
  rw [(eq_of_mem_notes written).1] at number
  exact other number

/-- What the members with a number note is all that counts for its life. -/
theorem callsOf_flatMap_notes
    (serial : Nat) (call : Call) (tags : List (Tag size)) :
    callsOf serial (tags.flatMap (notes call)) =
      callsOf serial ((under serial tags).flatMap (notes call)) := by
  induction tags with
  | nil => rfl
  | cons tag tags induction =>
      rw [under, List.filter_cons, ← under, List.flatMap_cons, callsOf_append,
        induction]
      split_ifs with same
      · rw [List.flatMap_cons, callsOf_append]
      · have other : tag.serial ≠ serial := by simpa using same
        rw [callsOf_notes_of_ne other, List.nil_append]

end Tag

/-! ## Phases shown by tags -/

/-- The tags show that the recorder with a serial number is in a phase. -/
def Phase.Shown (serial : Nat) (tags : List (Tag size)) : Phase → Prop
  | .ended => Tag.under serial tags = []
  | .detached =>
      ∃ tag, Tag.under serial tags = [tag] ∧ tag.OfRecorder ∧
        tag.attachment = none
  | .attached =>
      ∃ tag, Tag.under serial tags = [tag] ∧ tag.OfRecorder ∧
        tag.attachment ≠ none

namespace Phase

theorem Shown.congr
    {serial : Nat} {old new : List (Tag size)} {phase : Phase}
    (shown : phase.Shown serial old)
    (same : Tag.under serial new = Tag.under serial old) :
    phase.Shown serial new := by
  cases phase <;> simpa only [Shown, same] using shown

theorem callsOf_of_ended
    {serial : Nat} {tags : List (Tag size)}
    (shown : ended.Shown serial tags) (call : Call) :
    callsOf serial (tags.flatMap (Tag.notes call)) = [] := by
  have absent : Tag.under serial tags = [] := shown
  rw [Tag.callsOf_flatMap_notes, absent]
  rfl

theorem callsOf_of_under
    {serial : Nat} {tags : List (Tag size)} {tag : Tag size}
    (only : Tag.under serial tags = [tag]) (recorder : tag.OfRecorder)
    (call : Call) :
    callsOf serial (tags.flatMap (Tag.notes call)) = [call] := by
  have number : tag.serial = serial := by
    have found : tag ∈ Tag.under serial tags := by simp [only]
    exact (Tag.mem_under_iff.mp found).2
  rw [Tag.callsOf_flatMap_notes, only, List.flatMap_singleton, ← number]
  exact Tag.callsOf_notes recorder call

/-- A recorder whose compound is tied to none is not attached. -/
theorem Shown.not_attached
    {serial : Nat} {compound : Compound setting size}
    (tied : compound.Tied none) : ¬ attached.Shown serial compound.tags := by
  rintro ⟨tag, only, -, held⟩
  have found : tag ∈ Tag.under serial compound.tags := by simp [only]
  exact held (tied.free tag (Tag.mem_under_iff.mp found).1)

/-- A recorder whose compound is bound and tied is attached. -/
theorem Shown.not_detached
    {serial : Nat} {compound : Compound setting size}
    {context : Option (Fin size)} (tied : compound.Tied context)
    (bound : compound.bound = true) :
    ¬ detached.Shown serial compound.tags := by
  rintro ⟨tag, only, recorder, free⟩
  have found : tag ∈ Tag.under serial compound.tags := by simp [only]
  have same :=
    tied.attachment_eq tag (Tag.mem_under_iff.mp found).1 recorder.2
  rw [free] at same
  rw [tied.bound_eq, ← same] at bound
  cases bound

end Phase

namespace Compound

/--
The calls that the recorder with a serial number has noted lead from the phase
that it was in to the one that it is in now.
-/
def Follows (serial : Nat) (old : Compound setting size) (journal : List Entry)
    (new : Compound setting size) : Prop :=
  ∀ phase : Phase, phase.Shown serial old.tags →
    ∃ next : Phase, next.Shown serial new.tags ∧
      phase.afterAll (callsOf serial journal) = some next

theorem Follows.trans
    {serial : Nat} {first second third : Compound setting size}
    {earlier later : List Entry}
    (left : first.Follows serial earlier second)
    (right : second.Follows serial later third) :
    first.Follows serial (earlier ++ later) third := by
  intro phase shown
  rcases left phase shown with ⟨middle, shown, before⟩
  rcases right middle shown with ⟨next, shown, after⟩
  refine ⟨next, shown, ?_⟩
  rw [callsOf_append]
  exact Phase.afterAll_append before after

/-- A quiet operation follows a life: only an attached recorder notes anything, and only steps. -/
theorem Quiet.follows
    {old new : Compound setting size} {journal : List Entry}
    (quiet : old.Quiet journal new) (serial : Nat) :
    old.Follows serial journal new := by
  intro phase shown
  refine ⟨phase, by rwa [quiet.tags_eq], ?_⟩
  have steps :
      ∀ call ∈ callsOf serial journal,
        (∃ count, call = .step count) ∧
          ∃ tag ∈ Tag.under serial old.tags, tag.attachment ≠ none := by
    intro call noted
    rcases mem_callsOf_iff.mp noted with ⟨entry, written, number, rfl⟩
    rcases quiet.steps entry written with ⟨tag, found, held, count, note⟩
    rcases Tag.eq_of_mem_notes note with ⟨same, step⟩
    exact
      ⟨⟨count, step⟩, tag,
        Tag.mem_under_iff.mpr ⟨found, same.symm.trans number⟩, held⟩
  cases phase with
  | attached =>
      exact
        Phase.afterAll_attached_of_steps fun call noted => (steps call noted).1
  | detached =>
      rcases shown with ⟨tag, only, -, free⟩
      have nothing : callsOf serial journal = [] := by
        rw [List.eq_nil_iff_forall_not_mem]
        intro call noted
        rcases (steps call noted).2 with ⟨other, found, held⟩
        rw [only, List.mem_singleton] at found
        exact held (found ▸ free)
      rw [nothing, Phase.afterAll_nil]
  | ended =>
      have absent : Tag.under serial old.tags = [] := shown
      have nothing : callsOf serial journal = [] := by
        rw [List.eq_nil_iff_forall_not_mem]
        intro call noted
        rcases (steps call noted).2 with ⟨tag, found, -⟩
        rw [absent] at found
        cases found
      rw [nothing, Phase.afterAll_nil]

/-! ## Releasing, binding and dropping -/

theorem Tied.follows_release
    {compound : Compound setting size} {context : Option (Fin size)}
    (tied : compound.Tied context) (serial : Nat) :
    compound.Follows serial compound.release.2.journal compound.release.1 := by
  cases bound : compound.bound with
  | false =>
      rw [release_of_not_bound bound]
      exact (Quiet.refl compound).follows serial
  | true =>
      intro phase shown
      rw [tags_release_of_bound bound, journal_release_of_bound bound]
      cases phase with
      | ended =>
          refine ⟨.ended, ?_, ?_⟩
          · have absent : Tag.under serial compound.tags = [] := shown
            rw [Phase.Shown, Tag.under_map Tag.serial_detached, absent]
            rfl
          · rw [Phase.callsOf_of_ended shown, Phase.afterAll_nil]
      | detached => exact (Phase.Shown.not_detached tied bound shown).elim
      | attached =>
          rcases shown with ⟨tag, only, recorder, -⟩
          refine ⟨.detached, ⟨tag.detached, ?_, recorder, rfl⟩, ?_⟩
          · rw [Tag.under_map Tag.serial_detached, only]
            rfl
          · rw [Phase.callsOf_of_under only recorder]
            rfl

theorem Tied.follows_bindFresh
    {compound : Compound setting size} (tied : compound.Tied none)
    (context : Fin size) (contexts : Contexts setting size) (serial : Nat) :
    compound.Follows serial
      (compound.bindFresh context contexts).2.2.journal
      (compound.bindFresh context contexts).2.1 := by
  intro phase shown
  cases answer : (compound.bindFresh context contexts).1 with
  | ok nothing =>
      rcases bindFresh_of_ok answer with ⟨-, tags, journal⟩
      rw [tags, journal]
      cases phase with
      | ended =>
          refine ⟨.ended, ?_, ?_⟩
          · have absent : Tag.under serial compound.tags = [] := shown
            rw [Phase.Shown, Tag.under_map (Tag.serial_attached context), absent]
            rfl
          · rw [Phase.callsOf_of_ended shown, Phase.afterAll_nil]
      | detached =>
          rcases shown with ⟨tag, only, recorder, -⟩
          have held : (tag.attached context).attachment ≠ none := by
            simp [Tag.attachment_attached recorder.2]
          refine
            ⟨.attached,
              ⟨tag.attached context, ?_, by simpa [Tag.OfRecorder] using recorder,
                held⟩, ?_⟩
          · rw [Tag.under_map (Tag.serial_attached context), only]
            rfl
          · rw [Phase.callsOf_of_under only recorder]
            rfl
      | attached => exact (Phase.Shown.not_attached tied shown).elim
  | error cause =>
      rcases bindFresh_of_error answer with
        ⟨-, front, back, split, tags, journal⟩
      rw [tags, tied.detached_front split, journal]
      refine ⟨phase, shown, ?_⟩
      rw [callsOf_append]
      cases phase with
      | ended =>
          have absent : Tag.under serial compound.tags = [] := shown
          rw [split, Tag.under_append, List.append_eq_nil_iff] at absent
          have none : Phase.ended.Shown serial front := absent.1
          rw [Phase.callsOf_of_ended none, Phase.callsOf_of_ended none]
          rfl
      | detached =>
          rcases shown with ⟨tag, only, recorder, -⟩
          rw [split, Tag.under_append, List.append_eq_singleton_iff] at only
          rcases only with ⟨none, -⟩ | ⟨only, -⟩
          · have none : Phase.ended.Shown serial front := none
            rw [Phase.callsOf_of_ended none, Phase.callsOf_of_ended none]
            rfl
          · rw [Phase.callsOf_of_under only recorder,
              Phase.callsOf_of_under only recorder]
            rfl
      | attached => exact (Phase.Shown.not_attached tied shown).elim

theorem Tied.follows_bind
    {compound : Compound setting size} {old : Option (Fin size)}
    (tied : compound.Tied old)
    (context : Fin size) (contexts : Contexts setting size) (serial : Nat) :
    compound.Follows serial (compound.bind context contexts).2.2.journal
      (compound.bind context contexts).2.1 := by
  have released := tied.follows_release serial
  have fresh := tied.release.follows_bindFresh context contexts serial
  cases bound : compound.bound with
  | true =>
      have both := released.trans fresh
      simpa only [Compound.bind, bound, if_true, Trace.journal_append,
        Trace.ofNotice, List.nil_append] using both
  | false =>
      rw [release_of_not_bound bound] at fresh
      simpa [Compound.bind, bound] using fresh

/-- At the end of a compound each of its recorders comes to its end. -/
theorem Tied.afterAll_drop
    {compound : Compound setting size} {context : Option (Fin size)}
    (tied : compound.Tied context) {serial : Nat} {phase : Phase}
    (shown : phase.Shown serial compound.tags) :
    phase.afterAll (callsOf serial compound.drop.journal) = some .ended := by
  have journal :
      compound.drop.journal =
        compound.release.2.journal ++
          compound.release.1.tags.flatMap (Tag.notes .drop) := by
    rw [drop, Trace.journal_append, Trace.journal_append, notesOf_eq]
    split_ifs <;> rfl
  rcases tied.follows_release serial phase shown with ⟨next, shown, released⟩
  rw [journal, callsOf_append]
  apply Phase.afterAll_append released
  cases next with
  | ended => rw [Phase.callsOf_of_ended shown, Phase.afterAll_nil]
  | detached =>
      rcases shown with ⟨tag, only, recorder, -⟩
      rw [Phase.callsOf_of_under only recorder]
      rfl
  | attached => exact (Phase.Shown.not_attached tied.release shown).elim

/-- At its end a bound compound releases its members, in order, before the first of them ends. -/
theorem journal_drop (compound : Compound setting size) :
    compound.drop.journal =
      (if compound.bound then notesOf .release compound.members else []) ++
        notesOf .drop compound.members := by
  cases bound : compound.bound with
  | false =>
      rw [drop, release_of_not_bound bound]
      simp [bound, Trace.none]
  | true =>
      simp [drop, release, bound, notesOf_map_detach, Trace.ofNotice]

end Compound

end Stepping
