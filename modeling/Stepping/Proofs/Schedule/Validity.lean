import Stepping.Schedule
import Stepping.Proofs.Member.Calls
import Mathlib.Data.List.Basic
import Mathlib.Order.Bounds.Basic
import Mathlib.Tactic.SplitIfs

/-!
# What makes a schedule

Segments make a schedule just if there are some, each takes steps, and all of
them together take no more steps than a count can tell.  What is looked at first
is refused first: no segments at all, then the first segment without steps, then
the total.  A chunk size only has to be positive; it replaces the one before, so
of several the last one counts.

Parts that are named together are looked at in the same order, the chunk size
last.
-/

namespace Stepping

/-- What parts must be like to make a schedule. -/
structure ScheduleParts.Valid (parts : ScheduleParts) : Prop where
  nonempty : parts.segments ≠ []
  steps_pos : ∀ segment ∈ parts.segments, 1 ≤ segment.steps.toNat
  total_lt : Segment.total parts.segments < Count.limit
  chunk_pos : ∀ size ∈ parts.chunk, 1 ≤ size.toNat

/-- The places of the segments that take no steps. -/
def Segment.idlePlaces (segments : List Segment) : Set Nat :=
  {place | ∃ segment, segments[place]? = some segment ∧ segment.steps = 0}

theorem Segment.isLeast_idlePlaces_iff
    {segments : List Segment} {index : Nat} :
    IsLeast (idlePlaces segments) index ↔
      segments.findIdx? (fun segment => segment.steps == 0) = some index := by
  rw [List.findIdx?_eq_some_iff_getElem]
  constructor
  · rintro ⟨⟨segment, found, idle⟩, least⟩
    rcases List.getElem?_eq_some_iff.mp found with ⟨inside, rfl⟩
    refine ⟨inside, by simpa using idle, ?_⟩
    intro earlier before rests
    have there := List.getElem?_eq_getElem (Nat.lt_trans before inside)
    have early : index ≤ earlier := least ⟨_, there, by simpa using rests⟩
    exact Nat.not_lt_of_le early before
  · rintro ⟨inside, idle, none⟩
    refine ⟨⟨_, List.getElem?_eq_getElem inside, by simpa using idle⟩, ?_⟩
    rintro place ⟨segment, found, rests⟩
    by_contra before
    rcases List.getElem?_eq_some_iff.mp found with ⟨there, rfl⟩
    exact none place (Nat.lt_of_not_le before) (by simpa using rests)

namespace Schedule

/-- The parts of a schedule. -/
def parts (schedule : Schedule) : ScheduleParts where
  segments := schedule.segments
  chunk := schedule.chunk

theorem parts_injective : Function.Injective parts := by
  intro first second same
  cases first
  cases second
  cases same
  rfl

theorem one_le_toNat_iff {count : Count} : 1 ≤ count.toNat ↔ 0 < count :=
  Iff.symm UInt64.lt_iff_toNat_lt

theorem one_le_toNat_iff_ne_zero {count : Count} :
    1 ≤ count.toNat ↔ count ≠ 0 :=
  one_le_toNat_iff.trans UInt64.pos_iff_ne_zero

/-- The parts of a schedule are as they must be. -/
theorem valid_parts (schedule : Schedule) : schedule.parts.Valid where
  nonempty := schedule.nonempty
  steps_pos segment listed :=
    one_le_toNat_iff.mpr (schedule.steps_pos segment listed)
  total_lt := schedule.total_lt
  chunk_pos size chosen := one_le_toNat_iff.mpr (schedule.chunk_pos size chosen)

/-! ## Segments -/

/-- A schedule of segments has just these segments, and no chunk size. -/
theorem ofSegments_eq_ok
    {segments : List Segment} {schedule : Schedule}
    (made : ofSegments segments = .ok schedule) :
    schedule.segments = segments ∧ schedule.chunk = none := by
  rw [ofSegments] at made
  split at made
  · cases made
  · split at made
    · cases made
    · split at made
      · cases made
      · cases made
        exact ⟨rfl, rfl⟩

/-- Segments are refused for the first defect that they have, or they make a schedule. -/
theorem ofSegments_cases (segments : List Segment) :
    (segments = [] ∧ ofSegments segments = .error .empty) ∨
    (∃ index, IsLeast (Segment.idlePlaces segments) index ∧
      ofSegments segments = .error (.zeroSteps index)) ∨
    (segments ≠ [] ∧ (∀ segment ∈ segments, segment.steps ≠ 0) ∧
      Count.limit ≤ Segment.total segments ∧
      ofSegments segments = .error .tooManySteps) ∨
    ∃ schedule, ScheduleParts.Valid ⟨segments, none⟩ ∧
      ofSegments segments = .ok schedule := by
  cases made : ofSegments segments with
  | ok schedule =>
      rcases ofSegments_eq_ok made with ⟨rfl, whole⟩
      have valid := schedule.valid_parts
      rw [parts, whole] at valid
      exact .inr (.inr (.inr ⟨schedule, valid, rfl⟩))
  | error defect =>
      rw [ofSegments] at made
      split at made
      next vacant =>
        cases made
        exact .inl ⟨vacant, rfl⟩
      next occupied =>
        split at made
        next index first =>
          cases made
          exact
            .inr (.inl ⟨index, Segment.isLeast_idlePlaces_iff.mpr first, rfl⟩)
        next busy =>
          split at made
          next great =>
            cases made
            refine
              .inr (.inr (.inl ⟨occupied, ?_,
                Segment.countedTotal_eq_none_iff.mp great, rfl⟩))
            intro segment listed
            simpa using List.findIdx?_eq_none_iff.mp busy segment listed
          next => cases made

/-- Valid segments have none of the defects. -/
theorem not_idle_of_valid
    {segments : List Segment} (valid : ScheduleParts.Valid ⟨segments, none⟩) :
    Segment.idlePlaces segments = ∅ := by
  apply Set.eq_empty_of_forall_notMem
  rintro place ⟨segment, found, idle⟩
  have busy := valid.steps_pos segment (List.mem_of_getElem? found)
  exact one_le_toNat_iff_ne_zero.mp busy idle

theorem ofSegments_eq_empty_iff {segments : List Segment} :
    ofSegments segments = .error .empty ↔ segments = [] := by
  rcases ofSegments_cases segments with
    ⟨vacant, made⟩ | ⟨index, first, made⟩ | ⟨occupied, -, -, made⟩ |
      ⟨schedule, valid, made⟩
  · exact iff_of_true made vacant
  · apply iff_of_false (by simp [made])
    rintro rfl
    rcases first.1 with ⟨segment, found, -⟩
    cases found
  · exact iff_of_false (by simp [made]) occupied
  · exact iff_of_false (by simp [made]) valid.nonempty

/-- The first segment without steps is refused, if there is one. -/
theorem ofSegments_eq_zeroSteps_iff {segments : List Segment} {index : Nat} :
    ofSegments segments = .error (.zeroSteps index) ↔
      IsLeast (Segment.idlePlaces segments) index := by
  rcases ofSegments_cases segments with
    ⟨rfl, made⟩ | ⟨place, first, made⟩ | ⟨-, busy, -, made⟩ |
      ⟨schedule, valid, made⟩
  · apply iff_of_false (by simp [made])
    rintro ⟨⟨segment, found, -⟩, -⟩
    cases found
  · rw [made, Except.error.injEq, Defect.zeroSteps.injEq]
    constructor
    · rintro rfl
      exact first
    · exact first.unique
  · apply iff_of_false (by simp [made])
    rintro ⟨⟨segment, found, idle⟩, -⟩
    exact busy segment (List.mem_of_getElem? found) idle
  · apply iff_of_false (by simp [made])
    rintro ⟨idle, -⟩
    rw [not_idle_of_valid valid] at idle
    exact idle

theorem ofSegments_eq_tooManySteps_iff {segments : List Segment} :
    ofSegments segments = .error .tooManySteps ↔
      segments ≠ [] ∧ (∀ segment ∈ segments, segment.steps ≠ 0) ∧
        Count.limit ≤ Segment.total segments := by
  rcases ofSegments_cases segments with
    ⟨vacant, made⟩ | ⟨index, first, made⟩ | ⟨occupied, busy, great, made⟩ |
      ⟨schedule, valid, made⟩
  · exact iff_of_false (by simp [made]) fun both => both.1 vacant
  · apply iff_of_false (by simp [made])
    rintro ⟨-, busy, -⟩
    rcases first.1 with ⟨segment, found, idle⟩
    exact busy segment (List.mem_of_getElem? found) idle
  · exact iff_of_true made ⟨occupied, busy, great⟩
  · apply iff_of_false (by simp [made])
    rintro ⟨-, -, great⟩
    exact Nat.not_lt_of_le great valid.total_lt

/-- Valid segments make a schedule. -/
theorem exists_ofSegments
    {segments : List Segment} (valid : ScheduleParts.Valid ⟨segments, none⟩) :
    ∃ schedule, ofSegments segments = .ok schedule := by
  rcases ofSegments_cases segments with
    ⟨vacant, -⟩ | ⟨index, first, -⟩ | ⟨-, -, great, -⟩ | ⟨schedule, -, made⟩
  · exact (valid.nonempty vacant).elim
  · have idle := first.1
    rw [not_idle_of_valid valid] at idle
    exact idle.elim
  · exact (Nat.not_lt_of_le great valid.total_lt).elim
  · exact ⟨schedule, made⟩

theorem ofSegments_eq_ok_iff {segments : List Segment} {schedule : Schedule} :
    ofSegments segments = .ok schedule ↔
      ScheduleParts.Valid ⟨segments, none⟩ ∧
        schedule.parts = ⟨segments, none⟩ := by
  constructor
  · intro made
    rcases ofSegments_eq_ok made with ⟨rfl, whole⟩
    have same : schedule.parts = ⟨schedule.segments, none⟩ := by
      rw [parts, whole]
    exact ⟨same ▸ schedule.valid_parts, same⟩
  · rintro ⟨valid, same⟩
    rcases exists_ofSegments valid with ⟨other, made⟩
    rcases ofSegments_eq_ok made with ⟨rfl, whole⟩
    rw [made]
    apply congrArg Except.ok
    apply parts_injective
    rw [same, parts, whole]

/-! ## Chunk sizes -/

theorem chunked_eq_error_iff
    {schedule : Schedule} {size : Count} {defect : Defect} :
    schedule.chunked size = .error defect ↔ size = 0 ∧ defect = .zeroChunk := by
  rw [chunked]
  split_ifs with positive
  · apply iff_of_false (by simp)
    rintro ⟨rfl, -⟩
    exact UInt64.lt_irrefl 0 positive
  · have zero : size = 0 := by
      by_contra nonzero
      exact positive (UInt64.pos_iff_ne_zero.mpr nonzero)
    rw [and_iff_right zero, Except.error.injEq, eq_comm]

theorem chunked_eq_ok_iff {schedule next : Schedule} {size : Count} :
    schedule.chunked size = .ok next ↔
      size ≠ 0 ∧ next.parts = { schedule.parts with chunk := some size } := by
  rw [chunked, ← UInt64.pos_iff_ne_zero]
  split_ifs with positive
  · rw [Except.ok.injEq, and_iff_right positive, eq_comm]
    exact parts_injective.eq_iff.symm
  · exact iff_of_false (by simp) fun both => positive both.1

theorem exists_chunked
    (schedule : Schedule) {chunk : Count} (positive : 0 < chunk) :
    ∃ cut, schedule.chunked chunk = .ok cut ∧
      cut.segments = schedule.segments :=
  ⟨_, dif_pos positive, rfl⟩

/-- Of several chunk sizes, none of which may be zero, the last one counts. -/
theorem foldlM_chunked_eq_ok_iff
    {sizes : List Count} {schedule last : Schedule} :
    sizes.foldlM (fun schedule size => schedule.chunked size) schedule =
        .ok last ↔
      0 ∉ sizes ∧
        last.parts =
          { schedule.parts with
            chunk := sizes.getLast?.or schedule.chunk } := by
  induction sizes generalizing schedule with
  | nil =>
      rw [List.foldlM_nil, pure_eq_ok_iff, eq_comm, ← parts_injective.eq_iff]
      exact (and_iff_right List.not_mem_nil).symm
  | cons size sizes induction =>
      rw [List.foldlM_cons, bind_eq_ok_iff]
      constructor
      · rintro ⟨next, cut, further⟩
        rcases chunked_eq_ok_iff.mp cut with ⟨nonzero, same⟩
        rcases induction.mp further with ⟨others, rest⟩
        have size_eq : next.chunk = some size := congrArg ScheduleParts.chunk same
        refine ⟨by simp [nonzero.symm, others], ?_⟩
        rw [rest, same, size_eq, List.getLast?_cons]
        cases sizes.getLast? <;> rfl
      · rintro ⟨nonzero, same⟩
        rw [List.mem_cons, not_or] at nonzero
        rcases nonzero with ⟨nonzero, others⟩
        rcases schedule.exists_chunked
            (UInt64.pos_iff_ne_zero.mpr (Ne.symm nonzero)) with
          ⟨next, cut, -⟩
        have parts_eq := (chunked_eq_ok_iff.mp cut).2
        have size_eq : next.chunk = some size :=
          congrArg ScheduleParts.chunk parts_eq
        refine ⟨next, cut, induction.mpr ⟨others, ?_⟩⟩
        rw [same, parts_eq, size_eq, List.getLast?_cons]
        cases sizes.getLast? <;> rfl

theorem prepare_eq_ok_iff
    {segments : List Segment} {sizes : List Count} {schedule : Schedule} :
    prepare segments sizes = .ok schedule ↔
      ScheduleParts.Valid ⟨segments, none⟩ ∧ 0 ∉ sizes ∧
        schedule.parts = ⟨segments, sizes.getLast?⟩ := by
  rw [prepare, bind_eq_ok_iff]
  constructor
  · rintro ⟨whole, made, cut⟩
    rcases ofSegments_eq_ok_iff.mp made with ⟨valid, same⟩
    rcases foldlM_chunked_eq_ok_iff.mp cut with ⟨nonzero, last⟩
    have none : whole.chunk = none := congrArg ScheduleParts.chunk same
    rw [same, none, Option.or_none] at last
    exact ⟨valid, nonzero, last⟩
  · rintro ⟨valid, nonzero, last⟩
    rcases exists_ofSegments valid with ⟨whole, made⟩
    have same := (ofSegments_eq_ok_iff.mp made).2
    have none : whole.chunk = none := congrArg ScheduleParts.chunk same
    refine ⟨whole, made, foldlM_chunked_eq_ok_iff.mpr ⟨nonzero, ?_⟩⟩
    rw [same, none, Option.or_none]
    exact last

end Schedule

/-! ## Parts -/

namespace ScheduleParts

/-- Parts are put together as segments and a chunk size are, if there is one. -/
theorem assemble_eq_prepare (parts : ScheduleParts) :
    parts.assemble =
      Schedule.prepare parts.segments parts.chunk.toList := by
  rw [assemble, Schedule.prepare]
  congr 1
  funext schedule
  cases parts.chunk with
  | none => rfl
  | some size =>
      show _ = schedule.chunked size >>= pure
      exact (bind_pure _).symm

theorem assemble_eq_ok_iff {parts : ScheduleParts} {schedule : Schedule} :
    parts.assemble = .ok schedule ↔ parts.Valid ∧ schedule.parts = parts := by
  rw [assemble_eq_prepare, Schedule.prepare_eq_ok_iff]
  rcases parts with ⟨segments, chunk⟩
  have last : chunk.toList.getLast? = chunk := by cases chunk <;> rfl
  dsimp only
  rw [last, ← and_assoc]
  refine and_congr_left fun _ => ?_
  constructor
  · rintro ⟨valid, nonzero⟩
    refine ⟨valid.nonempty, valid.steps_pos, valid.total_lt, ?_⟩
    rintro size chosen
    rw [Schedule.one_le_toNat_iff_ne_zero]
    rintro rfl
    exact nonzero (Option.mem_toList.mpr chosen)
  · intro valid
    refine ⟨⟨valid.nonempty, valid.steps_pos, valid.total_lt, by simp⟩, ?_⟩
    intro zero
    have positive := valid.chunk_pos 0 (Option.mem_toList.mp zero)
    exact Nat.not_succ_le_zero 0 positive

/-- Valid parts make a schedule. -/
theorem exists_assemble {parts : ScheduleParts} (valid : parts.Valid) :
    ∃ schedule, parts.assemble = .ok schedule ∧ schedule.parts = parts := by
  let schedule : Schedule := {
    segments := parts.segments
    chunk := parts.chunk
    nonempty := valid.nonempty
    steps_pos := fun segment listed =>
      Schedule.one_le_toNat_iff.mp (valid.steps_pos segment listed)
    total_lt := valid.total_lt
    chunk_pos := fun size chosen =>
      Schedule.one_le_toNat_iff.mp (valid.chunk_pos size chosen) }
  exact ⟨schedule, assemble_eq_ok_iff.mpr ⟨valid, rfl⟩, rfl⟩

/-- A defect of the segments is found before one of the chunk size. -/
theorem assemble_of_error
    {parts : ScheduleParts} {defect : Schedule.Defect}
    (refused : Schedule.ofSegments parts.segments = .error defect) :
    parts.assemble = .error defect := by
  rw [assemble, refused]
  rfl

theorem assemble_eq_zeroChunk_iff {parts : ScheduleParts} :
    parts.assemble = .error .zeroChunk ↔
      Valid ⟨parts.segments, none⟩ ∧ parts.chunk = some 0 := by
  rw [assemble, bind_eq_error_iff]
  constructor
  · rintro (refused | ⟨whole, made, cut⟩)
    · rcases Schedule.ofSegments_cases parts.segments with
        ⟨-, made⟩ | ⟨index, -, made⟩ | ⟨-, -, -, made⟩ | ⟨schedule, -, made⟩ <;>
        cases made.symm.trans refused
    · refine ⟨(Schedule.ofSegments_eq_ok_iff.mp made).1, ?_⟩
      cases chosen : parts.chunk with
      | none =>
          rw [chosen] at cut
          cases cut
      | some size =>
          rw [chosen] at cut
          rw [(Schedule.chunked_eq_error_iff.mp cut).1]
  · rintro ⟨valid, chosen⟩
    rcases Schedule.exists_ofSegments valid with ⟨whole, made⟩
    rw [chosen]
    exact
      .inr ⟨whole, made, Schedule.chunked_eq_error_iff.mpr ⟨rfl, rfl⟩⟩

end ScheduleParts

end Stepping
