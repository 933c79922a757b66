import Stepping.Document.Record
import Stepping.Proofs.Schedule.Progress
import Stepping.Proofs.Schedule.Validity

/-!
# Where schedules come from

A schedule is made of segments, read from a node of a document, or cut anew from
another schedule.  What a document names are only parts; they are put together
once all of them have been read, and what is wrong with them is what would be
wrong with segments and a chunk size that were given otherwise.

So whichever way a schedule comes about, it has the segments and the last chunk
size that were named for it, and these are as they must be.
-/

namespace Stepping

open Document (Dialect Fault Node readParts readSchedule)

/-! ## Documents -/

namespace Document

theorem readSchedule_of_readParts
    {dialect : Dialect} {node : Node} {parts : ScheduleParts}
    (named : readParts dialect node = .ok parts) :
    readSchedule dialect node =
      parts.assemble.mapError fun defect => .misfit (.schedule defect) := by
  rw [readSchedule, named]
  show (pure parts >>= _) = _
  rw [pure_bind]
  cases parts.assemble <;> rfl

theorem readSchedule_eq_ok_iff
    {dialect : Dialect} {node : Node} {schedule : Schedule} :
    readSchedule dialect node = .ok schedule ↔
      ∃ parts, readParts dialect node = .ok parts ∧
        parts.Valid ∧ schedule.parts = parts := by
  constructor
  · intro read
    rw [readSchedule, bind_eq_ok_iff] at read
    rcases read with ⟨parts, named, put⟩
    refine ⟨parts, named, ?_⟩
    rw [← ScheduleParts.assemble_eq_ok_iff]
    split at put
    next other made =>
      cases put
      exact made
    next => cases put
  · rintro ⟨parts, named, whole⟩
    rw [readSchedule_of_readParts named,
      ScheduleParts.assemble_eq_ok_iff.mpr whole]
    rfl

end Document

/-! ## Origins -/

theorem toOption_eq_some_iff {ε α : Type} {answer : Except ε α} {value : α} :
    answer.toOption = some value ↔ answer = .ok value := by
  cases answer <;> simp [Except.toOption]

/-- A way to come by a schedule. -/
inductive Origin where
  | given (segments : List Segment)
  /-- A node of a document, be it the whole of the document or a part of it. -/
  | document (dialect : Dialect) (node : Node)
  | chunked (size : Count) (origin : Origin)

namespace Origin

/-- The schedule that comes of it, unless something on the way is refused. -/
def schedule? : Origin → Option Schedule
  | .given segments => (Schedule.ofSegments segments).toOption
  | .document dialect node => (readSchedule dialect node).toOption
  | .chunked size origin =>
      origin.schedule?.bind fun schedule => (schedule.chunked size).toOption

/-- The parts that are named for the schedule, whether or not they make one. -/
def parts? : Origin → Option ScheduleParts
  | .given segments => some ⟨segments, none⟩
  | .document dialect node => (readParts dialect node).toOption
  | .chunked size origin =>
      origin.parts?.map fun parts => { parts with chunk := some size }

/-- A schedule is made of the parts that are named for it. -/
theorem parts?_of_schedule?
    {origin : Origin} {schedule : Schedule}
    (made : origin.schedule? = some schedule) :
    origin.parts? = some schedule.parts := by
  induction origin generalizing schedule with
  | given segments =>
      have whole := toOption_eq_some_iff.mp made
      rw [parts?, (Schedule.ofSegments_eq_ok_iff.mp whole).2]
  | document dialect node =>
      have read := toOption_eq_some_iff.mp made
      rcases Document.readSchedule_eq_ok_iff.mp read with
        ⟨parts, named, -, rfl⟩
      rw [parts?, named]
      rfl
  | chunked size origin induction =>
      rw [schedule?, Option.bind_eq_some_iff] at made
      rcases made with ⟨earlier, before, cut⟩
      have cut := toOption_eq_some_iff.mp cut
      rw [parts?, induction before, (Schedule.chunked_eq_ok_iff.mp cut).2]
      rfl

end Origin

/--
Segments are refused if there are none, else for the first that takes no steps,
else for a total that is no count; all others make a schedule without a chunk
size.  A chunk size is refused just if it is zero, else it replaces the one
before.  The parts that a document names are put together as if they had been
given one by one.

Hence a schedule, wherever it comes from, has the segments and the chunk size
that were named for it last, and they are valid; its total is their sum.
-/
theorem Schedule.comes_of_valid_parts :
    (∀ segments : List Segment,
      (ofSegments segments = .error .empty ↔ segments = []) ∧
      (∀ index,
        ofSegments segments = .error (.zeroSteps index) ↔
          IsLeast (Segment.idlePlaces segments) index) ∧
      (ofSegments segments = .error .tooManySteps ↔
        segments ≠ [] ∧ (∀ segment ∈ segments, segment.steps ≠ 0) ∧
          Count.limit ≤ Segment.total segments) ∧
      (segments ≠ [] → (∀ segment ∈ segments, segment.steps ≠ 0) →
        Segment.total segments < Count.limit →
          ∃ schedule, ofSegments segments = .ok schedule ∧
            schedule.segments = segments ∧ schedule.chunk = none)) ∧
    (∀ (schedule : Schedule) (size : Count),
      (schedule.chunked size = .error .zeroChunk ↔ size = 0) ∧
      (size ≠ 0 →
        ∃ next, schedule.chunked size = .ok next ∧
          next.segments = schedule.segments ∧ next.chunk = some size)) ∧
    (∀ (segments : List Segment) (sizes : List Count) (schedule : Schedule),
      prepare segments sizes = .ok schedule ↔
        ScheduleParts.Valid ⟨segments, none⟩ ∧ 0 ∉ sizes ∧
          schedule.parts = ⟨segments, sizes.getLast?⟩) ∧
    (∀ parts : ScheduleParts,
      parts.assemble = prepare parts.segments parts.chunk.toList ∧
      (∀ defect, ofSegments parts.segments = .error defect →
        parts.assemble = .error defect) ∧
      (parts.assemble = .error .zeroChunk ↔
        ScheduleParts.Valid ⟨parts.segments, none⟩ ∧ parts.chunk = some 0) ∧
      ∀ dialect node, readParts dialect node = .ok parts →
        readSchedule dialect node =
          parts.assemble.mapError fun defect => .misfit (.schedule defect)) ∧
    (∀ (origin : Origin) (schedule : Schedule),
      origin.schedule? = some schedule →
        ∃ parts, origin.parts? = some parts ∧ schedule.parts = parts ∧
          parts.Valid ∧
          schedule.totalSteps.toNat = Segment.total parts.segments) := by
  refine ⟨?_, ?_, ?_, ?_, ?_⟩
  · intro segments
    refine
      ⟨ofSegments_eq_empty_iff, fun _ => ofSegments_eq_zeroSteps_iff,
        ofSegments_eq_tooManySteps_iff, ?_⟩
    intro nonempty busy small
    have valid : ScheduleParts.Valid ⟨segments, none⟩ := {
      nonempty := nonempty
      steps_pos := fun segment listed =>
        one_le_toNat_iff_ne_zero.mpr (busy segment listed)
      total_lt := small
      chunk_pos := by simp }
    rcases exists_ofSegments valid with ⟨schedule, made⟩
    exact ⟨schedule, made, ofSegments_eq_ok made⟩
  · intro schedule size
    constructor
    · rw [chunked_eq_error_iff, and_iff_left rfl]
    · intro nonzero
      rcases schedule.exists_chunked (UInt64.pos_iff_ne_zero.mpr nonzero) with
        ⟨next, cut, segments⟩
      have same := (chunked_eq_ok_iff.mp cut).2
      exact ⟨next, cut, segments, congrArg ScheduleParts.chunk same⟩
  · intro segments sizes schedule
    exact prepare_eq_ok_iff
  · intro parts
    refine
      ⟨parts.assemble_eq_prepare, fun _ => ScheduleParts.assemble_of_error,
        ScheduleParts.assemble_eq_zeroChunk_iff, ?_⟩
    intro dialect node named
    exact Document.readSchedule_of_readParts named
  · intro origin schedule made
    exact
      ⟨schedule.parts, Origin.parts?_of_schedule? made, rfl,
        schedule.valid_parts, schedule.toNat_totalSteps⟩

/-- Two segments that are cut twice, and three whose total is one too many. -/
theorem Schedule.parts_of_two_chunk_sizes :
    let segments : List Segment := [⟨0, 10⟩, ⟨1, 25⟩]
    let origin : Origin := .chunked 4 (.chunked 3 (.given segments))
    (∃ schedule, origin.schedule? = some schedule ∧
      schedule.parts = ⟨segments, some 4⟩ ∧
      schedule.parts.Valid ∧ schedule.totalSteps.toNat = 35) ∧
    ofSegments [⟨0, 18446744073709551613⟩, ⟨1, 1⟩, ⟨0, 2⟩] =
      .error .tooManySteps := by
  intro segments origin
  constructor
  · rcases made : origin.schedule? with _ | schedule
    · cases made
    · rcases comes_of_valid_parts.2.2.2.2 origin schedule made with
        ⟨parts, named, same, valid, total⟩
      cases named
      exact ⟨schedule, rfl, same, same ▸ valid, total⟩
  · rw [(comes_of_valid_parts.1 _).2.2.1]
    decide

end Stepping
