import Stepping.Count

/-!
# Schedules

A schedule is a list of segments, each of which takes a number of steps with
one member of a compound, and perhaps a chunk size, which cuts every segment
into chunks of at most so many steps.  A schedule has at least one segment, no
segment and no chunk without steps, and a total that fits in a count; its parts
can only be put together in this way.
-/

namespace Stepping

/-- A stretch of steps with one member. -/
structure Segment where
  /-- The index of the member in its compound. -/
  member : Count
  steps : Count
deriving DecidableEq, Repr

namespace Segment

/-- The steps of all segments, added up without a limit. -/
def total (segments : List Segment) : Nat :=
  segments.foldr (fun segment total => segment.steps.toNat + total) 0

@[simp]
theorem total_nil : total [] = 0 :=
  rfl

@[simp]
theorem total_cons (segment : Segment) (segments : List Segment) :
    total (segment :: segments) = segment.steps.toNat + total segments :=
  rfl

/-- The steps of all segments, added up in order as long as the sum is a count. -/
def countedTotal (segments : List Segment) : Option Count :=
  segments.foldlM (fun total segment => Count.add? total segment.steps) 0

/-- Whatever has been counted before, counting goes on just if the whole sum is a count. -/
theorem foldlM_add?_eq_some_iff {segments : List Segment} {before sum : Count} :
    segments.foldlM (fun total segment => Count.add? total segment.steps) before =
        some sum ↔
      before.toNat + total segments = sum.toNat := by
  induction segments generalizing before with
  | nil => simp [UInt64.toNat_inj]
  | cons segment segments induction =>
      rw [List.foldlM_cons, Option.bind_eq_bind, Option.bind_eq_some_iff, total_cons]
      constructor
      · rintro ⟨middle, first, rest⟩
        have first := Count.add?_eq_some_iff.mp first
        have rest := induction.mp rest
        omega
      · intro whole
        have small : before.toNat + segment.steps.toNat < Count.limit :=
          Nat.lt_of_le_of_lt (by omega) sum.toNat_lt_limit
        have middle :
            (UInt64.ofNat (before.toNat + segment.steps.toNat)).toNat =
              before.toNat + segment.steps.toNat :=
          UInt64.toNat_ofNat_of_lt' small
        refine ⟨_, Count.add?_eq_some_iff.mpr middle.symm, induction.mpr ?_⟩
        omega

theorem countedTotal_eq_some_iff {segments : List Segment} {sum : Count} :
    countedTotal segments = some sum ↔ total segments = sum.toNat := by
  rw [countedTotal, foldlM_add?_eq_some_iff]
  exact iff_of_eq (congrArg (· = sum.toNat) (Nat.zero_add _))

/-- Counting comes to an end just if the sum without a limit is a count. -/
theorem countedTotal_eq_none_iff {segments : List Segment} :
    countedTotal segments = none ↔ Count.limit ≤ total segments := by
  rw [← Nat.not_lt, Option.eq_none_iff_forall_ne_some]
  constructor
  · intro none small
    exact none _
      (countedTotal_eq_some_iff.mpr (UInt64.toNat_ofNat_of_lt' small).symm)
  · intro great sum counted
    rw [countedTotal_eq_some_iff] at counted
    exact great (counted ▸ sum.toNat_lt_limit)

end Segment

/-- Segments to run in order, and the size of the chunks that they are run in. -/
structure Schedule where
  segments : List Segment
  /-- The greatest number of steps in a chunk; none runs each segment in one piece. -/
  chunk : Option Count
  nonempty : segments ≠ []
  steps_pos : ∀ segment ∈ segments, 0 < segment.steps
  total_lt : Segment.total segments < Count.limit
  chunk_pos : ∀ size ∈ chunk, 0 < size

namespace Schedule

/-- Why segments or a chunk size make no schedule. -/
inductive Defect where
  | empty
  /-- The segment at this index takes no steps. -/
  | zeroSteps (index : Nat)
  | tooManySteps
  | zeroChunk
deriving DecidableEq, Repr

/-- The defect in words. -/
def Defect.message : Defect → String
  | .empty => "schedule must contain at least one segment"
  | .zeroSteps index => s!"segment {index} must take at least one step"
  | .tooManySteps => "schedule takes more steps in total than fit in a usize"
  | .zeroChunk => "chunk must be at least one step"

/-- The schedule of some segments, each in one piece. -/
def ofSegments (segments : List Segment) : Except Defect Schedule :=
  if nonempty : segments = [] then
    .error .empty
  else
    match idle : segments.findIdx? (fun segment => segment.steps == 0) with
    | some index => .error (.zeroSteps index)
    | none =>
        match counted : Segment.countedTotal segments with
        | none => .error .tooManySteps
        | some sum => .ok {
            segments := segments
            chunk := none
            nonempty := nonempty
            steps_pos := by
              intro segment member
              have := List.findIdx?_eq_none_iff.mp idle segment member
              exact UInt64.pos_iff_ne_zero.mpr (by simpa using this)
            total_lt := by
              rw [Segment.countedTotal_eq_some_iff.mp counted]
              exact sum.toNat_lt_limit
            chunk_pos := by simp }

/-- The same segments in chunks of at most so many steps. -/
def chunked (size : Count) (schedule : Schedule) : Except Defect Schedule :=
  if positive : 0 < size then
    .ok { schedule with
      chunk := some size
      chunk_pos := by
        intro chunk member
        cases member
        exact positive }
  else
    .error .zeroChunk

/-- Make a schedule of segments and cut it into chunks; the last chunk size counts. -/
def prepare (segments : List Segment) (chunks : List Count) :
    Except Defect Schedule := do
  let schedule ← ofSegments segments
  chunks.foldlM (fun schedule size => schedule.chunked size) schedule

/-- The total number of steps. -/
def totalSteps (schedule : Schedule) : Count :=
  (schedule.segments.map Segment.steps).foldl (· + ·) 0

instance : DecidableEq Schedule := fun first second =>
  if same : first.segments = second.segments ∧ first.chunk = second.chunk then
    isTrue (by cases first; cases second; simp_all)
  else
    isFalse (by intro equality; subst equality; simp at same)

end Schedule

/-- The parts of a schedule as a file names them, before they are looked at. -/
structure ScheduleParts where
  segments : List Segment
  chunk : Option Count
deriving DecidableEq, Repr

namespace ScheduleParts

/-- The schedule of the parts.  Defects of the segments come before that of the chunk size. -/
def assemble (parts : ScheduleParts) : Except Schedule.Defect Schedule := do
  let schedule ← Schedule.ofSegments parts.segments
  match parts.chunk with
  | none => return schedule
  | some size => schedule.chunked size

end ScheduleParts

end Stepping
