import Stepping.Proofs.Schedule.Truncation
import Mathlib.Logic.Function.Iterate
import Mathlib.Algebra.GroupWithZero.Nat

/-!
# Round by round

A run goes through two loops, one in the other.  The outer loop begins one
segment after another; a round of the inner one takes as many steps of the
segment as are left, but at most those of a chunk, and the loop is left when all
steps of the segment are done.

All counting is done in words.  What keeps it exact is how far the loops have
come: of the segment no more steps are done than it has, and in all as many as
the segments before it have, and those.  So a round asks for at least one step,
no difference of words wraps and no sum of them, even if the steps of the
schedule are as many as a word can count.  As each round takes a chunk's steps or
the last ones, a segment is done after `⌈n / c⌉` rounds.
-/

namespace Stepping

variable {setting : Setting} {size : Nat} {Memory : Type}

/-! ## The loops -/

/-- Where the loops of a run stand. -/
inductive Place where
  /-- Before the segments that are left, the first of which has this index. -/
  | between (index : Nat) (left : List Segment)
  /-- In a segment of which so many steps are done. -/
  | within (index : Nat) (segment : Segment) (done : Count)
      (left : List Segment)

/-- A moment in a run: where its loops stand and what has been done by then. -/
structure Moment (setting : Setting) (size : Nat) (Memory : Type) where
  place : Place
  past : Stretch setting size Memory

namespace Schedule

/-- The most steps that a round takes of a segment. -/
def most (schedule : Schedule) (segment : Segment) : Count :=
  schedule.chunk.getD segment.steps

/-- The steps that a round takes of a segment of which so many are done. -/
def stride (schedule : Schedule) (segment : Segment) (done : Count) : Count :=
  min (schedule.most segment) (segment.steps - done)

/-- The moment at which a run starts. -/
def start (schedule : Schedule) (memory : Memory)
    (compound : Compound setting size) (contexts : Contexts setting size) :
    Moment setting size Memory where
  place := .between 0 schedule.segments
  past := .noting .none ⟨compound, contexts, memory, 0⟩

/-- The end of a stretch that has come through all segments, if it has not ended before. -/
def close (schedule : Schedule) (stretch : Stretch setting size Memory) :
    Stretch setting size Memory :=
  { stretch with
    ended :=
      some
        (stretch.ended.getD
          (.ok ⟨.complete, schedule.segments.length, stretch.standing.total⟩)) }

/-- What the loops do next at a moment.  After the end of the run this is nothing. -/
def next (schedule : Schedule) (observer : Observer Event Memory)
    (moment : Moment setting size Memory) : Moment setting size Memory :=
  match moment.past.ended with
  | some _ => moment
  | none =>
      match moment.place with
      | .between _ [] => { moment with past := schedule.close moment.past }
      | .between index (segment :: left) =>
          ⟨.within index segment 0 left,
            moment.past.andThen ((Order.enter index segment).follow observer)⟩
      | .within index segment done left =>
          if done < segment.steps then
            let count := schedule.stride segment done
            ⟨.within index segment (done + count) left,
              moment.past.andThen
                (takeChunk observer index segment done count)⟩
          else ⟨.between (index + 1) left, moment.past⟩

/-- The moment after so many rounds of the loops. -/
def momentAfter (schedule : Schedule) (observer : Observer Event Memory)
    (rounds : Nat) (moment : Moment setting size Memory) :
    Moment setting size Memory :=
  (schedule.next observer)^[rounds] moment

theorem momentAfter_succ
    (schedule : Schedule) (observer : Observer Event Memory) (rounds : Nat)
    (moment : Moment setting size Memory) :
    schedule.momentAfter observer (rounds + 1) moment =
      schedule.momentAfter observer rounds (schedule.next observer moment) :=
  Function.iterate_succ_apply _ rounds moment

theorem momentAfter_succ'
    (schedule : Schedule) (observer : Observer Event Memory) (rounds : Nat)
    (moment : Moment setting size Memory) :
    schedule.momentAfter observer (rounds + 1) moment =
      schedule.next observer (schedule.momentAfter observer rounds moment) :=
  Function.iterate_succ_apply' _ rounds moment

theorem momentAfter_add
    (schedule : Schedule) (observer : Observer Event Memory)
    (first second : Nat) (moment : Moment setting size Memory) :
    schedule.momentAfter observer (first + second) moment =
      schedule.momentAfter observer second
        (schedule.momentAfter observer first moment) := by
  rw [Nat.add_comm]
  exact Function.iterate_add_apply _ second first moment

theorem next_of_ended
    (schedule : Schedule) (observer : Observer Event Memory)
    {moment : Moment setting size Memory} (past : moment.past.ended ≠ none) :
    schedule.next observer moment = moment := by
  rcases Option.ne_none_iff_exists'.mp past with ⟨answer, ended⟩
  rw [next, ended]

/-- After its end a run stays as it is. -/
theorem momentAfter_of_ended
    (schedule : Schedule) (observer : Observer Event Memory)
    {moment : Moment setting size Memory} (past : moment.past.ended ≠ none)
    (rounds : Nat) :
    schedule.momentAfter observer rounds moment = moment :=
  Function.iterate_fixed (schedule.next_of_ended observer past) rounds

theorem next_of_done
    (schedule : Schedule) (observer : Observer Event Memory)
    {past : Stretch setting size Memory} (going : past.ended = none)
    (index : Nat) :
    schedule.next observer ⟨.between index [], past⟩ =
      ⟨.between index [], schedule.close past⟩ := by
  rw [next, going]

theorem next_of_between
    (schedule : Schedule) (observer : Observer Event Memory)
    {past : Stretch setting size Memory} (going : past.ended = none)
    (index : Nat) (segment : Segment) (left : List Segment) :
    schedule.next observer ⟨.between index (segment :: left), past⟩ =
      ⟨.within index segment 0 left,
        past.andThen ((Order.enter index segment).follow observer)⟩ := by
  rw [next, going]

theorem next_of_lt
    (schedule : Schedule) (observer : Observer Event Memory)
    {past : Stretch setting size Memory} (going : past.ended = none)
    (index : Nat) {segment : Segment} {done : Count}
    (less : done < segment.steps) (left : List Segment) :
    schedule.next observer ⟨.within index segment done left, past⟩ =
      ⟨.within index segment (done + schedule.stride segment done) left,
        past.andThen
          (takeChunk observer index segment done
            (schedule.stride segment done))⟩ := by
  rw [next, going]
  exact if_pos less

theorem next_of_steps
    (schedule : Schedule) (observer : Observer Event Memory)
    {past : Stretch setting size Memory} (going : past.ended = none)
    (index : Nat) (segment : Segment) (left : List Segment) :
    schedule.next observer ⟨.within index segment segment.steps left, past⟩ =
      ⟨.between (index + 1) left, past⟩ := by
  rw [next, going]
  exact if_neg (UInt64.lt_irrefl _)

/-! ## What a round asks for -/

theorem toNat_left
    {segment : Segment} {done : Count} (fits : done ≤ segment.steps) :
    (segment.steps - done).toNat = segment.steps.toNat - done.toNat :=
  UInt64.toNat_sub_of_le _ _ fits

theorem toNat_stride
    (schedule : Schedule) {segment : Segment} {done : Count}
    (fits : done ≤ segment.steps) :
    (schedule.stride segment done).toNat =
      min (schedule.most segment).toNat
        (segment.steps.toNat - done.toNat) := by
  rw [stride, toNat_min, toNat_left fits]

/-- With a round's steps no more are done than the segment has, and they are counted exactly. -/
theorem toNat_add_stride
    (schedule : Schedule) {segment : Segment} {done : Count}
    (fits : done ≤ segment.steps) :
    (done + schedule.stride segment done).toNat =
      done.toNat + (schedule.stride segment done).toNat := by
  have small := segment.steps.toNat_lt
  have most := UInt64.le_iff_toNat_le.mp fits
  have count := schedule.toNat_stride fits
  rw [UInt64.toNat_add, Nat.mod_eq_of_lt (by omega)]

theorem add_stride_le
    (schedule : Schedule) {segment : Segment} {done : Count}
    (fits : done ≤ segment.steps) :
    done + schedule.stride segment done ≤ segment.steps := by
  have most := UInt64.le_iff_toNat_le.mp fits
  have count := schedule.toNat_stride fits
  rw [UInt64.le_iff_toNat_le, schedule.toNat_add_stride fits]
  omega

/-- The segments up to one of them have no more steps than all together. -/
theorem total_take_le (schedule : Schedule) (place : Nat) :
    Segment.total (schedule.segments.take place) ≤
      schedule.totalSteps.toNat := by
  rw [schedule.toNat_totalSteps]
  conv_rhs => rw [← List.take_append_drop place schedule.segments]
  rw [Segment.total_append]
  exact Nat.le_add_right _ _

/--
A round that finds steps left asks for some of them, and for no more than it may.
All that it counts with words is what it would be without a limit.
-/
structure SafeRound (schedule : Schedule) (index : Nat) (segment : Segment)
    (done total : Count) : Prop where
  listed : schedule.segments[index]? = some segment
  done_le : done ≤ segment.steps
  left_eq :
    (segment.steps - done).toNat = segment.steps.toNat - done.toNat
  stride_pos : 1 ≤ schedule.stride segment done
  stride_le_chunk :
    ∀ chunk, schedule.chunk = some chunk →
      schedule.stride segment done ≤ chunk
  stride_le_left : schedule.stride segment done ≤ segment.steps - done
  done_eq :
    (done + schedule.stride segment done).toNat =
      done.toNat + (schedule.stride segment done).toNat
  done_add_le : done + schedule.stride segment done ≤ segment.steps
  total_eq :
    (total + schedule.stride segment done).toNat =
      total.toNat + (schedule.stride segment done).toNat
  total_add_le : total + schedule.stride segment done ≤ schedule.totalSteps

/-- How far the loops have come, so many steps having been counted in all. -/
inductive Fits (schedule : Schedule) (total : Count) : Place → Prop
  | between (index : Nat)
      (counted :
        total.toNat = Segment.total (schedule.segments.take index)) :
      Fits schedule total (.between index (schedule.segments.drop index))
  | within {index : Nat} {segment : Segment} {done : Count}
      (listed : schedule.segments[index]? = some segment)
      (done_le : done ≤ segment.steps)
      (counted :
        total.toNat =
          Segment.total (schedule.segments.take index) + done.toNat) :
      Fits schedule total
        (.within index segment done (schedule.segments.drop (index + 1)))

/-- Where the loops have come as far as they should, the next round is safe. -/
theorem safeRound_of_fits
    {schedule : Schedule} {total : Count} {index : Nat} {segment : Segment}
    {done : Count} {left : List Segment}
    (fits : schedule.Fits total (.within index segment done left))
    (less : done < segment.steps) :
    schedule.SafeRound index segment done total := by
  cases fits with
  | within listed done_le counted =>
      have positive : 0 < (schedule.most segment).toNat :=
        schedule.chunk_toNat_pos segment (List.mem_of_getElem? listed)
      have before := UInt64.lt_iff_toNat_lt.mp less
      have count := schedule.toNat_stride done_le
      -- the sum has room, since the steps of this segment are counted in the total
      have room := schedule.total_take_le (index + 1)
      rw [Segment.total_take_succ listed] at room
      have total_eq :
          (total + schedule.stride segment done).toNat =
            total.toNat + (schedule.stride segment done).toNat := by
        have small := schedule.totalSteps.toNat_lt
        rw [UInt64.toNat_add, Nat.mod_eq_of_lt (by omega)]
      refine {
        listed := listed
        done_le := done_le
        left_eq := toNat_left done_le
        stride_pos := ?_
        stride_le_chunk := ?_
        stride_le_left := ?_
        done_eq := schedule.toNat_add_stride done_le
        done_add_le := schedule.add_stride_le done_le
        total_eq := total_eq
        total_add_le := ?_ }
      · rw [UInt64.le_iff_toNat_le, UInt64.toNat_one]
        omega
      · intro chunk set
        rw [UInt64.le_iff_toNat_le, count, most, set]
        exact Nat.min_le_left _ _
      · rw [UInt64.le_iff_toNat_le, toNat_left done_le]
        omega
      · rw [UInt64.le_iff_toNat_le, total_eq]
        omega

/-! ## What every round preserves -/

/-- As long as the run goes on, its loops have come as far as they should. -/
def Sound (schedule : Schedule) (moment : Moment setting size Memory) : Prop :=
  moment.past.ended = none →
    schedule.Fits moment.past.standing.total moment.place

theorem sound_start
    (schedule : Schedule) (memory : Memory)
    (compound : Compound setting size) (contexts : Contexts setting size) :
    schedule.Sound (schedule.start memory compound contexts) :=
  fun _ => .between 0 rfl

/-- To begin a segment is to do none of its steps yet. -/
theorem total_of_enter
    {observer : Observer Event Memory} {index : Nat} {segment : Segment}
    {standing : Standing setting size Memory}
    (going :
      ((Order.enter index segment).follow observer standing).ended = none) :
    ((Order.enter index segment).follow observer standing).standing.total =
      standing.total := by
  have inside := Order.lt_of_follow_enter going
  rw [Order.follow_enter_of_lt observer index inside]
  rfl

theorem total_of_takeChunk
    {observer : Observer Event Memory} {index : Nat} {segment : Segment}
    {done count : Count} {standing : Standing setting size Memory}
    (going :
      (takeChunk observer index segment done count standing).ended = none) :
    (takeChunk observer index segment done count standing).standing.total =
      standing.total + count := by
  rcases takeChunk_of_going going with ⟨energy, -, -, equality⟩
  rw [equality]

/-- The loops come as far as they should in every round. -/
theorem sound_next
    (schedule : Schedule) (observer : Observer Event Memory)
    {moment : Moment setting size Memory} (sound : schedule.Sound moment) :
    schedule.Sound (schedule.next observer moment) := by
  intro still
  by_cases going : moment.past.ended = none
  · have fits := sound going
    rcases moment with ⟨place, past⟩
    dsimp only at fits going
    cases fits with
    | between index counted =>
        by_cases inside : index < schedule.segments.length
        · have listed := List.getElem?_eq_getElem inside
          rw [List.drop_eq_getElem_cons inside,
            next_of_between schedule observer going] at still ⊢
          rw [Stretch.andThen_of_not_ended going] at still ⊢
          refine .within listed UInt64.zero_le ?_
          dsimp only at still ⊢
          rw [total_of_enter still, counted]
          rfl
        · rw [List.drop_eq_nil_of_le (Nat.le_of_not_lt inside),
            next_of_done schedule observer going] at still
          cases still
    | @within index segment done listed done_le counted =>
        rcases UInt64.lt_or_eq_of_le done_le with less | rfl
        · have safe := safeRound_of_fits (.within listed done_le counted) less
          rw [next_of_lt schedule observer going index less,
            Stretch.andThen_of_not_ended going] at still ⊢
          refine .within listed safe.done_add_le ?_
          dsimp only at still ⊢
          rw [total_of_takeChunk still, safe.total_eq, safe.done_eq, counted,
            Nat.add_assoc]
        · rw [next_of_steps schedule observer going]
          refine .between (index + 1) ?_
          rw [Segment.total_take_succ listed]
          exact counted
  · rw [next_of_ended schedule observer going] at still ⊢
    exact sound still

theorem sound_momentAfter
    (schedule : Schedule) (observer : Observer Event Memory) (rounds : Nat)
    {moment : Moment setting size Memory} (sound : schedule.Sound moment) :
    schedule.Sound (schedule.momentAfter observer rounds moment) := by
  induction rounds with
  | zero => exact sound
  | succ rounds induction =>
      rw [momentAfter_succ']
      exact schedule.sound_next observer induction

/-! ## The inner loop -/

/--
The rounds of the inner loop, from a moment on.  All of them have something to
do, and after the last one the run has ended or the segment is done.
-/
structure Loops (schedule : Schedule) (observer : Observer Event Memory)
    (index : Nat) (segment : Segment) (left : List Segment) (rounds : Nat)
    (moment : Moment setting size Memory) : Prop where
  each :
    ∀ round < rounds,
      (schedule.momentAfter observer round moment).past.ended = none ∧
        ∃ done < segment.steps,
          (schedule.momentAfter observer round moment).place =
            .within index segment done left
  last :
    (schedule.momentAfter observer rounds moment).past.ended ≠ none ∨
      (schedule.momentAfter observer rounds moment).place =
        .within index segment segment.steps left

theorem Loops.succ
    {schedule : Schedule} {observer : Observer Event Memory} {index : Nat}
    {segment : Segment} {left : List Segment} {rounds : Nat} {done : Count}
    {past : Stretch setting size Memory} (going : past.ended = none)
    (less : done < segment.steps)
    (loops :
      schedule.Loops observer index segment left rounds
        (schedule.next observer ⟨.within index segment done left, past⟩)) :
    schedule.Loops observer index segment left (rounds + 1)
      ⟨.within index segment done left, past⟩ where
  each := by
    intro round early
    cases round with
    | zero => exact ⟨going, done, less, rfl⟩
    | succ round =>
        rw [momentAfter_succ]
        exact loops.each round (Nat.lt_of_succ_lt_succ early)
  last := by
    rw [momentAfter_succ]
    exact loops.last

/--
From where so many steps of a segment are done, so many chunks being left of it,
the inner loop does what these chunks do, in no more rounds than there are chunks.
-/
theorem loops_of_chunks
    (schedule : Schedule) (observer : Observer Event Memory) (index : Nat)
    {segment : Segment} (left : List Segment) {chunks : Nat} {done : Count}
    (done_le : done ≤ segment.steps)
    (amount :
      ∀ place, place < chunks ↔
        place * (schedule.most segment).toNat <
          segment.steps.toNat - done.toNat)
    {past : Stretch setting size Memory} (going : past.ended = none) :
    ∃ rounds ≤ chunks,
      schedule.Loops observer index segment left rounds
          ⟨.within index segment done left, past⟩ ∧
        (schedule.momentAfter observer rounds
            ⟨.within index segment done left, past⟩).past =
          past.andThen
            (takeChunks observer index segment (schedule.most segment) chunks
              done) := by
  induction chunks generalizing done past with
  | zero =>
      have none : ¬ (0 : Nat) < 0 := Nat.lt_irrefl 0
      rw [amount 0] at none
      have all : done = segment.steps := by
        rw [← UInt64.toNat_inj]
        have most := UInt64.le_iff_toNat_le.mp done_le
        omega
      refine ⟨0, Nat.le_refl 0, ⟨?_, .inr ?_⟩, ?_⟩
      · exact fun round early => (Nat.not_lt_zero round early).elim
      · rw [all]
        rfl
      · exact (Stretch.andThen_noting_none past).symm
  | succ chunks induction =>
      have first := (amount 0).mp (Nat.succ_pos chunks)
      have less : done < segment.steps := by
        rw [UInt64.lt_iff_toNat_lt]
        omega
      let count := schedule.stride segment done
      have count_eq := schedule.toNat_stride done_le
      have done_eq := schedule.toNat_add_stride done_le
      have step := next_of_lt schedule observer going index less left
      have unfolded :
          past.andThen
              (takeChunks observer index segment (schedule.most segment)
                (chunks + 1) done) =
            (past.andThen
              (takeChunk observer index segment done count)).andThen
              (takeChunks observer index segment (schedule.most segment) chunks
                (done + count)) :=
        (Stretch.andThen_assoc past _ _).symm
      rw [unfolded]
      by_cases still :
          (past.andThen
            (takeChunk observer index segment done count)).ended = none
      · have amount :
            ∀ place, place < chunks ↔
              place * (schedule.most segment).toNat <
                segment.steps.toNat - (done + count).toNat := by
          intro place
          rw [← Nat.succ_lt_succ_iff, amount, Nat.succ_mul, done_eq, count_eq]
          omega
        rcases induction (schedule.add_stride_le done_le) amount still with
          ⟨rounds, few, loops, reached⟩
        rw [← step] at loops
        refine ⟨rounds + 1, Nat.succ_le_succ few, loops.succ going less, ?_⟩
        rw [momentAfter_succ, step]
        exact reached
      · refine
          ⟨1, Nat.succ_le_succ (Nat.zero_le chunks),
            Loops.succ going less ⟨?_, .inl ?_⟩, ?_⟩
        · exact fun round early => (Nat.not_lt_zero round early).elim
        · rw [step]
          exact still
        · rw [Stretch.andThen_of_ended still]
          exact congrArg Moment.past step

/-- The inner loop ends, after as many rounds as a segment has chunks at most. -/
theorem loops_of_segment
    (schedule : Schedule) (observer : Observer Event Memory) (index : Nat)
    {segment : Segment} (listed : segment ∈ schedule.segments)
    (left : List Segment)
    {past : Stretch setting size Memory} (going : past.ended = none) :
    ∃ rounds ≤ chunkCount segment.steps (schedule.most segment),
      schedule.Loops observer index segment left rounds
          ⟨.within index segment 0 left, past⟩ ∧
        (schedule.momentAfter observer rounds
            ⟨.within index segment 0 left, past⟩).past =
          past.andThen
            (takeChunks observer index segment (schedule.most segment)
              (chunkCount segment.steps (schedule.most segment)) 0) :=
  schedule.loops_of_chunks observer index left UInt64.zero_le
    (fun _ => lt_chunkCount_iff (schedule.chunk_toNat_pos segment listed)) going

/-! ## The outer loop -/

/-- What is done after a stretch by segments, the first of which is begun and then gone through. -/
theorem andThen_runSegments_cons
    (schedule : Schedule) (observer : Observer Event Memory) (index : Nat)
    (segment : Segment) (left : List Segment)
    (past : Stretch setting size Memory) :
    past.andThen
        (runSegments observer schedule.chunk index (segment :: left)) =
      ((past.andThen ((Order.enter index segment).follow observer)).andThen
          (takeChunks observer index segment (schedule.most segment)
            (chunkCount segment.steps (schedule.most segment)) 0)).andThen
        (runSegments observer schedule.chunk (index + 1) left) := by
  have begun (standing : Standing setting size Memory) :
      runSegment observer schedule.chunk index segment standing =
        ((Order.enter index segment).follow observer standing).andThen
          (takeChunks observer index segment (schedule.most segment)
            (chunkCount segment.steps (schedule.most segment)) 0) := by
    rw [runSegment, Order.follow]
    rcases standing.compound.select segment.member.toNat with
      ⟨answer, compound, selecting⟩
    cases answer <;> rfl
  rw [Stretch.andThen_assoc, Stretch.andThen_assoc]
  congr 1
  funext standing
  rw [runSegments, begun, Stretch.andThen_assoc]

/-- What has ended before is not ended again. -/
theorem close_of_ended
    (schedule : Schedule) {stretch : Stretch setting size Memory}
    (past : stretch.ended ≠ none) : schedule.close stretch = stretch := by
  rcases Option.ne_none_iff_exists'.mp past with ⟨answer, ended⟩
  rw [close, ended]
  cases stretch
  cases ended
  rfl

/-- The loops come to their end by what the segments that are left do one after another. -/
theorem exists_rounds
    (schedule : Schedule) (observer : Observer Event Memory) (index : Nat)
    {left : List Segment} (listed : left ⊆ schedule.segments)
    {past : Stretch setting size Memory} (going : past.ended = none) :
    ∃ rounds,
      (schedule.momentAfter observer rounds ⟨.between index left, past⟩).past =
        schedule.close
          (past.andThen (runSegments observer schedule.chunk index left)) := by
  induction left generalizing index past with
  | nil =>
      refine ⟨1, ?_⟩
      have none :
          past.andThen (runSegments observer schedule.chunk index []) = past :=
        Stretch.andThen_noting_none past
      rw [none]
      exact congrArg Moment.past (next_of_done schedule observer going index)
  | cons segment left induction =>
      rcases List.cons_subset.mp listed with ⟨first, others⟩
      have begin := next_of_between schedule observer going index segment left
      rw [andThen_runSegments_cons]
      generalize
        past.andThen ((Order.enter index segment).follow observer) = entered
        at begin ⊢
      by_cases begun : entered.ended = none
      · rcases schedule.loops_of_segment observer index first left begun with
          ⟨rounds, -, loops, reached⟩
        have looped :
            schedule.momentAfter observer (rounds + 1)
                ⟨.between index (segment :: left), past⟩ =
              schedule.momentAfter observer rounds
                ⟨.within index segment 0 left, entered⟩ := by
          rw [momentAfter_succ, begin]
        rw [← reached]
        -- the next segment is only begun if the run goes on behind the inner loop
        by_cases still :
            (schedule.momentAfter observer rounds
              ⟨.within index segment 0 left, entered⟩).past.ended = none
        · have place := loops.last.resolve_left (not_not_intro still)
          rcases induction (index + 1) others still with ⟨further, closed⟩
          refine ⟨rounds + 1 + (further + 1), ?_⟩
          rw [momentAfter_add, looped, momentAfter_succ, ← closed]
          generalize
            schedule.momentAfter observer rounds
              ⟨.within index segment 0 left, entered⟩ = moment
            at still place ⊢
          rcases moment with ⟨_, past⟩
          cases place
          rw [next_of_steps schedule observer still]
        · refine ⟨rounds + 1, ?_⟩
          rw [looped, Stretch.andThen_of_ended still,
            close_of_ended schedule still]
      · refine ⟨1, ?_⟩
        rw [Stretch.andThen_of_ended begun, Stretch.andThen_of_ended begun,
          close_of_ended schedule begun]
        exact congrArg Moment.past begin

/-! ## Whole runs -/

/--
A run is safe in every round of its loops.  In a round of the inner loop, done at
a moment of the run, at least one step is asked for, no more than are left and no
more than a chunk has; the difference that tells how many are left does not wrap,
and neither do the two sums, which exceed neither the steps of the segment nor
those of the schedule.  From the beginning of a segment the inner loop ends after
`⌈n / c⌉` rounds at most.  After some rounds the whole run has ended, and what it
has done by then is all that it ever does.
-/
theorem rounds_safe
    (schedule : Schedule) (observer : Observer Event Memory) (memory : Memory)
    (compound : Compound setting size) (contexts : Contexts setting size) :
    let run := schedule.run observer memory compound contexts
    let moment (rounds : Nat) :=
      schedule.momentAfter observer rounds
        (schedule.start memory compound contexts)
    schedule.totalSteps.toNat = Segment.total schedule.segments ∧
    Segment.total schedule.segments < 2 ^ 64 ∧
    (∀ rounds index segment done left,
      (moment rounds).past.ended = none →
      (moment rounds).place = .within index segment done left →
      done ≤ segment.steps ∧
        (moment rounds).past.standing.total ≤ schedule.totalSteps ∧
        (done < segment.steps →
          schedule.SafeRound index segment done
            (moment rounds).past.standing.total)) ∧
    (∀ rounds index segment left,
      (moment rounds).past.ended = none →
      (moment rounds).place = .within index segment 0 left →
      ∃ further ≤ chunkCount segment.steps (schedule.most segment),
        schedule.Loops observer index segment left further (moment rounds)) ∧
    ∃ rounds, ∀ further,
      (moment (rounds + further)).past =
        ⟨some run.answer, run.events, run.standing, run.trace⟩ := by
  intro run moment
  have sound (rounds : Nat) : schedule.Sound (moment rounds) :=
    schedule.sound_momentAfter observer rounds
      (schedule.sound_start memory compound contexts)
  refine ⟨schedule.toNat_totalSteps, schedule.total_lt, ?_, ?_, ?_⟩
  · intro rounds index segment done left going place
    have fits := sound rounds going
    rw [place] at fits
    refine ⟨?_, ?_, safeRound_of_fits fits⟩
    · cases fits with
      | within listed done_le counted => exact done_le
    · cases fits with
      | within listed done_le counted =>
          have room := schedule.total_take_le (index + 1)
          rw [Segment.total_take_succ listed] at room
          rw [UInt64.le_iff_toNat_le] at done_le ⊢
          omega
  · intro rounds index segment left going place
    have fits := sound rounds going
    generalize moment rounds = here at going place fits ⊢
    rcases here with ⟨_, past⟩
    cases place
    cases fits with
    | within listed done_le counted =>
        rcases schedule.loops_of_segment observer index
            (List.mem_of_getElem? listed) _ going with
          ⟨further, few, loops, -⟩
        exact ⟨further, few, loops⟩
  · have going :
        (schedule.start memory compound contexts).past.ended = none :=
      rfl
    rcases schedule.exists_rounds observer 0 (List.Subset.refl _) going with
      ⟨rounds, reached⟩
    have last :
        (moment rounds).past =
          ⟨some run.answer, run.events, run.standing, run.trace⟩ :=
      reached
    have ended : (moment rounds).past.ended ≠ none := by
      rw [last]
      exact Option.some_ne_none _
    have stays (further : Nat) :
        moment (rounds + further) = moment rounds :=
      (schedule.momentAfter_add observer rounds further _).trans
        (schedule.momentAfter_of_ended observer ended further)
    refine ⟨rounds, fun further => ?_⟩
    rw [stays]
    exact last

end Schedule

end Stepping
