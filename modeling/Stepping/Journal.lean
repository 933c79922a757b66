import Stepping.Count

/-!
# The journal

Recorders note every call that succeeds on them, and their own end.  An entry
carries the serial number of the recorder that made it, so the entries of two
recorders of one name can be told apart.
-/

namespace Stepping

/-- What happened to a recorder. -/
inductive Call where
  | bind
  | release
  | step (steps : Count)
  | drop
deriving DecidableEq, Repr

/-- One note in the journal. -/
structure Entry where
  serial : Nat
  name : String
  call : Call
deriving DecidableEq, Repr

end Stepping
