import Stepping.Count
import Stepping.Journal

/-!
# Notices

A compound and a schedule tell what they do by notices.  A notice keeps the
numbers that it speaks of, so the history of a compound can be read off its
notices; only `Notice.line` turns one into text.

What an operation adds to the journal and to the notices is its trace.  Traces
of operations that follow one another are put one behind the other.
-/

namespace Stepping

/-- How much a notice matters. -/
inductive Level where
  | warn
  | debug
  | trace
deriving DecidableEq, Repr

/-- The level in capitals. -/
def Level.label : Level → String
  | .warn => "WARN"
  | .debug => "DEBUG"
  | .trace => "TRACE"

/-- What a compound or a schedule has to tell. -/
inductive Notice where
  | added (index : Nat)
  | switched (previous next : Nat)
  | stepping (index : Nat) (steps : Count)
  /-- A bound compound is about to be bound again. -/
  | rebinding
  /-- The member at this index refused; as many members before it are released. -/
  | refused (index : Nat)
  | bound (members : Nat)
  | released (members : Nat)
  | droppedBound
  | segment (index : Nat) (steps : Count) (member : Count)
  | stopped (steps : Count)
deriving DecidableEq, Repr

namespace Notice

/-- How much the notice matters. -/
def level : Notice → Level
  | .refused _ => .warn
  | .droppedBound => .warn
  | .stepping _ _ => .trace
  | _ => .debug

/-- The notice in words. -/
def message : Notice → String
  | .added index => s!"added member {index} to compound integrator"
  | .switched previous next => s!"switching active member from {previous} to {next}"
  | .stepping index steps => s!"stepping member {index} by {steps} step(s)"
  | .rebinding => "rebinding compound integrator"
  | .refused index =>
      s!"member {index} failed to bind, releasing {index} bound member(s)"
  | .bound members => s!"bound {members} member(s)"
  | .released members => s!"released {members} member(s)"
  | .droppedBound => "compound integrator dropped while bound, releasing members"
  | .segment index steps member =>
      s!"segment {index}: {steps} step(s) on member {member}"
  | .stopped steps => s!"schedule stopped by observer after {steps} step(s)"

/-- The notice as a line of a log. -/
def line (notice : Notice) : String :=
  notice.level.label ++ " " ++ notice.message

end Notice

/-- What an operation adds to the journal and to the notices. -/
structure Trace where
  journal : List Entry
  notices : List Notice
deriving DecidableEq, Repr

namespace Trace

/-- Nothing added. -/
def none : Trace := ⟨[], []⟩

/-- One notice and no journal entry. -/
def ofNotice (notice : Notice) : Trace := ⟨[], [notice]⟩

instance : Append Trace where
  append first second :=
    ⟨first.journal ++ second.journal, first.notices ++ second.notices⟩

@[simp]
theorem journal_append (first second : Trace) :
    (first ++ second).journal = first.journal ++ second.journal :=
  rfl

@[simp]
theorem notices_append (first second : Trace) :
    (first ++ second).notices = first.notices ++ second.notices :=
  rfl

end Trace

end Stepping
