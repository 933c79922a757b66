import Stepping.Member
import Stepping.Notice

/-!
# Compounds

A compound owns any number of members and presents them as one.  Exactly one
member is active: steps, parameters and the kinetic energy are those of the
active member, while binding, releasing and kernel names concern all of them.

A member is known by its index.  Members are only ever appended, and only while
the compound is not bound, so an index never changes its meaning.  All members
are bound to one context in one operation; if one of them refuses, those bound
before it are released again and the compound stays unbound.
-/

namespace Stepping

/-- Members of one setting, one of them active. -/
structure Compound (setting : Setting) (size : Nat) where
  members : List (Member setting size)
  /-- The index of the active member; zero if there is none. -/
  active : Nat
  bound : Bool

namespace Compound

/-- Why an operation on a compound failed. -/
inductive Failure where
  | indexOutOfRange (index members : Nat)
  | empty
  | notBound
  | alreadyBound
  | member (index : Nat) (cause : Member.Failure)
deriving DecidableEq

/-- The failure in words. -/
def Failure.message : Failure → String
  | .indexOutOfRange index members =>
      s!"member index {index} is out of range for {members} member(s)"
  | .empty => "compound integrator has no members"
  | .notBound => "compound integrator is not bound to a context"
  | .alreadyBound =>
      "members cannot be added while the compound integrator is bound"
  | .member index cause => s!"member {index} failed: " ++ cause.message

variable {setting : Setting} {size : Nat}

/-- A compound without members. -/
def empty : Compound setting size := ⟨[], 0, false⟩

/-! ## Members -/

/--
Append a member.  A bound compound takes none, and the member it is offered
comes to its end.
-/
def add (member : Member setting size) (compound : Compound setting size) :
    Except Failure Nat × Compound setting size × Trace :=
  if compound.bound then
    (.error .alreadyBound, compound, ⟨member.notes .drop, []⟩)
  else
    (.ok compound.members.length,
      { compound with members := compound.members ++ [member] },
      .ofNotice (.added compound.members.length))

/-- The member at an index. -/
def member (index : Nat) (compound : Compound setting size) :
    Except Failure (Member setting size) :=
  match compound.members[index]? with
  | some member => .ok member
  | none => .error (.indexOutOfRange index compound.members.length)

/-- The compound with another member in the place of the one at an index. -/
def put (index : Nat) (member : Member setting size)
    (compound : Compound setting size) : Compound setting size :=
  { compound with members := compound.members.set index member }

/-- The index of the active member; a compound without members has none. -/
def activeIndex (compound : Compound setting size) : Option Nat :=
  if compound.members.isEmpty then none else some compound.active

/-- Make the member at an index the active one. -/
def select (index : Nat) (compound : Compound setting size) :
    Except Failure Unit × Compound setting size × Trace :=
  if index < compound.members.length then
    (.ok (), { compound with active := index },
      if index = compound.active then .none
      else .ofNotice (.switched compound.active index))
  else
    (.error (.indexOutOfRange index compound.members.length), compound, .none)

/-- The active member. -/
def activeMember (compound : Compound setting size) :
    Except Failure (Member setting size) :=
  match compound.members[compound.active]? with
  | some member => .ok member
  | none => .error .empty

/-- Blame a failure on the active member. -/
def blameActive {α : Type} (compound : Compound setting size) :
    Except Member.Failure α → Except Failure α
  | .ok value => .ok value
  | .error cause => .error (.member compound.active cause)

/-! ## Parameters of the active member -/

/-- The step size of the active member. -/
def stepSize (compound : Compound setting size) : Except Failure Time := do
  return (← compound.activeMember).stepSize

/-- The constraint tolerance of the active member. -/
def tolerance (compound : Compound setting size) : Except Failure Float := do
  return (← compound.activeMember).tolerance

/-- Change a parameter of the active member. -/
def adjust (adjustment : Adjustment) (compound : Compound setting size) :
    Except Failure (Compound setting size) := do
  let member ← compound.activeMember
  let member ← compound.blameActive (member.adjust adjustment)
  return compound.put compound.active member

/-- Change the step size of the active member. -/
def setStepSize (stepSize : Time) :
    Compound setting size → Except Failure (Compound setting size) :=
  adjust (.stepSize stepSize)

/-- Change the constraint tolerance of the active member. -/
def setTolerance (tolerance : Float) :
    Compound setting size → Except Failure (Compound setting size) :=
  adjust (.tolerance tolerance)

/-! ## Stepping -/

/-- What an operation that may change contexts leaves behind. -/
structure Outcome (setting : Setting) (size : Nat) (α : Type) where
  answer : Except Failure α
  compound : Compound setting size
  contexts : Contexts setting size
  trace : Trace

/--
Take steps with the active member.  No other member is touched, and a step that
fails changes nothing; that it was tried is noted.
-/
def step (steps : Count) (contexts : Contexts setting size)
    (compound : Compound setting size) : Outcome setting size Unit :=
  if compound.members.isEmpty then
    ⟨.error .empty, compound, contexts, .none⟩
  else if !compound.bound then
    ⟨.error .notBound, compound, contexts, .none⟩
  else
    let tried := Trace.ofNotice (.stepping compound.active steps)
    match compound.members[compound.active]? with
    | none => ⟨.error .empty, compound, contexts, tried⟩
    | some member =>
        match member.step steps contexts with
        | .error cause =>
            ⟨.error (.member compound.active cause), compound, contexts, tried⟩
        | .ok (moved, contexts) =>
            ⟨.ok (), compound.put compound.active moved, contexts,
              tried ++ ⟨member.notes (.step steps), []⟩⟩

/-- The kinetic energy that the active member reports. -/
def kineticEnergy (contexts : Contexts setting size)
    (compound : Compound setting size) : Except Failure MolarEnergy := do
  let member ← compound.activeMember
  if !compound.bound then throw .notBound
  compound.blameActive (member.kineticEnergy contexts)

/-- The kernels of all members, whichever is active. -/
def kernels (compound : Compound setting size) : Kernels :=
  .unions (compound.members.map Member.kernels)

/-! ## Binding -/

/-- The notes that members make of a call, in order. -/
def notesOf (call : Call) (members : List (Member setting size)) : List Entry :=
  members.flatMap (Member.notes call)

/-- How far members could be attached one after another. -/
structure Attaching (setting : Setting) (size : Nat) where
  attached : List (Member setting size)
  /-- Why the next member refused, if one did. -/
  refusal : Option Member.Failure
  /-- That member and those behind it, as they were. -/
  untouched : List (Member setting size)

/-- Attach members in order up to the first that refuses. -/
def attachAll (context : Fin size) (contexts : Contexts setting size) :
    List (Member setting size) → Attaching setting size
  | [] => ⟨[], none, []⟩
  | member :: members =>
      match member.attach context contexts with
      | .error cause => ⟨[], some cause, member :: members⟩
      | .ok attached =>
          let further := attachAll context contexts members
          { further with attached := attached :: further.attached }

/-- Release every member, in order.  A compound that is not bound stays as it is. -/
def release (compound : Compound setting size) :
    Compound setting size × Trace :=
  if compound.bound then
    ({ compound with
        members := compound.members.map Member.detach
        bound := false },
      ⟨notesOf .release compound.members, [.released compound.members.length]⟩)
  else
    (compound, .none)

/-- Bind every member of a compound that is not bound. -/
def bindFresh (context : Fin size) (contexts : Contexts setting size)
    (compound : Compound setting size) :
    Except Failure Unit × Compound setting size × Trace :=
  let attaching := attachAll context contexts compound.members
  let index := attaching.attached.length
  let notes := notesOf .bind attaching.attached
  match attaching.refusal with
  | none =>
      (.ok (), { compound with members := attaching.attached, bound := true },
        ⟨notes, [.bound compound.members.length]⟩)
  | some cause =>
      (.error (.member index cause),
        { compound with
          members := attaching.attached.map Member.detach ++ attaching.untouched },
        ⟨notes ++ notesOf .release attaching.attached, [.refused index]⟩)

/--
Bind every member to a context, in order.  A compound that is bound already is
released first.
-/
def bind (context : Fin size) (contexts : Contexts setting size)
    (compound : Compound setting size) :
    Except Failure Unit × Compound setting size × Trace :=
  if compound.bound then
    let (released, releasing) := compound.release
    let (answer, compound, binding) := released.bindFresh context contexts
    (answer, compound, .ofNotice .rebinding ++ releasing ++ binding)
  else
    compound.bindFresh context contexts

/-- The end of a compound: it releases its members if it is bound, then they end in order. -/
def drop (compound : Compound setting size) : Trace :=
  let (released, releasing) := compound.release
  (if compound.bound then .ofNotice .droppedBound else .none) ++ releasing ++
    ⟨notesOf .drop released.members, []⟩

end Compound

end Stepping
