import Stepping.Journal
import Mathlib.Computability.Language

/-!
# Lives of recorders

Over its life a recorder is attached and detached any number of times, takes
steps only while it is attached, and comes to its end once, while it is
detached.  The calls that it notes are then a word of the language
`(bind step* release)* drop`.

A life is followed phase by phase: a phase says which calls may come next, and
the calls that lead from the first phase to the last one are the words of that
language.
-/

namespace Stepping

open scoped Computability

/-- Where a recorder is in its life. -/
inductive Phase where
  | detached
  | attached
  | ended
deriving DecidableEq, Repr

namespace Phase

/-- The phase after a call, if the call may come in this phase. -/
def after (phase : Phase) (call : Call) : Option Phase :=
  match phase, call with
  | .detached, .bind => some .attached
  | .attached, .step _ => some .attached
  | .attached, .release => some .detached
  | .detached, .drop => some .ended
  | _, _ => none

/-- The phase after calls in order, if each may come when it does. -/
def afterAll (phase : Phase) (calls : List Call) : Option Phase :=
  calls.foldlM after phase

@[simp]
theorem afterAll_nil (phase : Phase) : phase.afterAll [] = some phase :=
  rfl

theorem afterAll_cons (phase : Phase) (call : Call) (calls : List Call) :
    phase.afterAll (call :: calls) =
      (phase.after call).bind fun next => next.afterAll calls :=
  rfl

theorem afterAll_append
    {first second third : Phase} {earlier later : List Call}
    (left : first.afterAll earlier = some second)
    (right : second.afterAll later = some third) :
    first.afterAll (earlier ++ later) = some third := by
  rw [afterAll, List.foldlM_append]
  rw [afterAll] at left
  rw [left]
  exact right

/-- Nothing comes after the end. -/
theorem eq_nil_of_afterAll_ended
    {calls : List Call} {phase : Phase}
    (followed : ended.afterAll calls = some phase) :
    calls = [] ∧ phase = ended := by
  cases calls with
  | nil =>
      cases followed
      exact ⟨rfl, rfl⟩
  | cons call calls => cases call <;> cases followed

/-- Steps, in any number, leave a recorder attached. -/
theorem afterAll_attached_of_steps
    {calls : List Call} (steps : ∀ call ∈ calls, ∃ count, call = .step count) :
    attached.afterAll calls = some attached := by
  induction calls with
  | nil => rfl
  | cons call calls induction =>
      rcases steps call List.mem_cons_self with ⟨count, rfl⟩
      exact
        induction fun next member => steps next (List.mem_cons_of_mem _ member)

end Phase

/-! ## The language of lives -/

namespace Life

/-- One call by which a recorder takes steps. -/
def stepping : Language Call :=
  Set.range fun count => [Call.step count]

/-- One attachment: `bind step* release`. -/
def attachment : Language Call :=
  {[Call.bind]} * stepping∗ * {[Call.release]}

/-- A whole life: `(bind step* release)* drop`. -/
def whole : Language Call :=
  attachment∗ * {[Call.drop]}

theorem mem_kstar_mul
    {first second : Language Call} {word : List Call} (held : word ∈ second) :
    word ∈ first∗ * second :=
  Language.append_mem_mul (Language.nil_mem_kstar first) held

theorem append_mem_kstar_mul
    {first second : Language Call} {word rest : List Call}
    (once : word ∈ first) (again : rest ∈ first∗ * second) :
    word ++ rest ∈ first∗ * second := by
  rcases Language.mem_mul.mp again with ⟨front, words, back, held, rfl⟩
  rcases Language.mem_kstar.mp words with ⟨parts, rfl, each⟩
  rw [← List.append_assoc, ← List.flatten_cons]
  apply Language.append_mem_mul _ held
  apply Language.join_mem_kstar
  intro part found
  rcases List.mem_cons.mp found with rfl | found
  · exact once
  · exact each part found

/-- What may be noted from a phase to the end of a life. -/
def rest : Phase → Language Call
  | .detached => whole
  | .attached => stepping∗ * ({[Call.release]} * whole)
  | .ended => 1

theorem bind_mem_whole
    {calls : List Call} (held : calls ∈ rest .attached) :
    Call.bind :: calls ∈ whole := by
  rcases Language.mem_mul.mp held with ⟨steps, stepped, back, later, rfl⟩
  rcases Language.mem_mul.mp later with ⟨release, rfl, life, whole, rfl⟩
  have once : [Call.bind] ++ steps ++ [Call.release] ∈ attachment :=
    Language.append_mem_mul (Language.append_mem_mul rfl stepped) rfl
  have word :
      Call.bind :: (steps ++ ([Call.release] ++ life)) =
        [Call.bind] ++ steps ++ [Call.release] ++ life := by
    simp
  rw [word]
  exact append_mem_kstar_mul once whole

/-- Calls that lead from a phase to the end are what may be noted until then. -/
theorem mem_rest_of_afterAll
    {phase : Phase} {calls : List Call}
    (followed : phase.afterAll calls = some .ended) : calls ∈ rest phase := by
  induction calls generalizing phase with
  | nil =>
      cases followed
      exact Language.nil_mem_one
  | cons call calls induction =>
      rw [Phase.afterAll_cons] at followed
      rcases Option.bind_eq_some_iff.mp followed with ⟨next, allowed, later⟩
      have further := induction later
      cases phase with
      | detached =>
          cases call with
          | bind =>
              cases allowed
              exact bind_mem_whole further
          | drop =>
              cases allowed
              cases further
              exact mem_kstar_mul rfl
          | _ => cases allowed
      | attached =>
          cases call with
          | step count =>
              cases allowed
              have once : [Call.step count] ∈ stepping := ⟨count, rfl⟩
              exact append_mem_kstar_mul once further
          | release =>
              cases allowed
              have once : [Call.release] ++ calls ∈ {[Call.release]} * whole :=
                Language.append_mem_mul rfl further
              exact mem_kstar_mul once
          | _ => cases allowed
      | ended => cases call <;> cases allowed

/-- Calls that lead from the first phase to the last are a whole life. -/
theorem mem_whole_of_afterAll
    {calls : List Call}
    (followed : Phase.detached.afterAll calls = some .ended) :
    calls ∈ whole :=
  mem_rest_of_afterAll followed

end Life

end Stepping
