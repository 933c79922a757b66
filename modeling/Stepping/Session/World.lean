import Stepping.Session.Scene

/-!
# Sessions

A session is a sequence of operations on a fixed number of compounds that share
a fixed number of contexts and one journal.  An operation answers, or fails for
a cause, and leaves a world; its report tells the answer, how the compound it
was for stands afterwards, and what it noted.  At the end of the session all
compounds come to their end in order.
-/

namespace Stepping

/-- A request for one of the compounds of a session. -/
structure Operation (setting : Setting) (compounds size : Nat) where
  compound : Fin compounds
  request : Request setting size

/-- All that a session works on. -/
structure World (setting : Setting) (compounds size : Nat) where
  compounds : Vector (Compound setting size) compounds
  contexts : Contexts setting size
  made : Nat

/-- What is told of one operation. -/
structure Report (setting : Setting) (size : Nat) where
  answer : Except Refusal (Value setting size)
  /-- The compound that the operation was for, afterwards. -/
  compound : Compound setting size
  trace : Trace

namespace World

variable {setting : Setting} {compounds size : Nat}

/-- The world at the start of a session: empty compounds and the given contexts. -/
def start (compounds : Nat) (contexts : Contexts setting size) :
    World setting compounds size :=
  ⟨Vector.replicate compounds .empty, contexts, 0⟩

/-- Carry out one operation. -/
def perform (world : World setting compounds size)
    (operation : Operation setting compounds size) :
    World setting compounds size × Report setting size :=
  let effect := operation.request.perform
    ⟨world.compounds.get operation.compound, world.contexts, world.made⟩
  (⟨world.compounds.set operation.compound effect.scene.compound,
      effect.scene.contexts, effect.scene.made⟩,
    ⟨effect.answer, effect.scene.compound, effect.trace⟩)

/-- Carry out operations in order. -/
def performAll (world : World setting compounds size) :
    List (Operation setting compounds size) →
      World setting compounds size × List (Report setting size)
  | [] => (world, [])
  | operation :: operations =>
      let (next, report) := world.perform operation
      let (last, reports) := next.performAll operations
      (last, report :: reports)

/-- The end of a session: all compounds come to their end in order. -/
def finish (world : World setting compounds size) : Trace :=
  world.compounds.toList.foldl
    (fun trace compound => trace ++ compound.drop) .none

end World

end Stepping
