import Stepping.Member

/-!
# Changes of members

A change is made to a member whose kind is known, past the compound that owns
it.  Several changes are made one after another, up to the first that is
refused; those before it remain made.
-/

namespace Stepping

/-- The kinds of members, and a kind that no member has. -/
inductive Kind where
  | recorder
  | verlet
  | langevin
  | idle
  | foreign
deriving DecidableEq, Repr

/-- The kind of a member. -/
def Member.kind {setting : Setting} {size : Nat} : Member setting size → Kind
  | .recorder _ => .recorder
  | .dynamics .verlet _ => .verlet
  | .dynamics (.langevin _) _ => .langevin
  | .idle _ => .idle

/-- A change to a recorder. -/
inductive RecorderChange (size : Nat) where
  | refuseBind (refuses : Bool)
  | fault (faulted : Bool)
  | declare (kernel : String)
  | attach (context : Fin size)
  | detach
deriving DecidableEq

/-- A change to Verlet dynamics. -/
inductive VerletChange (size : Nat) where
  | attach (context : Fin size)
  | detach
deriving DecidableEq

/-- A change to Langevin dynamics. -/
inductive LangevinChange (size : Nat) where
  | setFriction (friction : Float)
  | attach (context : Fin size)
  | detach
deriving DecidableEq

/-- Changes to a member of one kind. -/
inductive Changes (size : Nat) where
  | recorder (changes : List (RecorderChange size))
  | verlet (changes : List (VerletChange size))
  | langevin (changes : List (LangevinChange size))
  | idle
  /-- No changes to a member of a kind that no member has. -/
  | foreign
deriving DecidableEq

namespace Changes

variable {setting : Setting} {size : Nat}

/-- Make one change to a recorder: the recorder, and what it notes. -/
def ofRecorder (recorder : Recorder size) :
    RecorderChange size → Except Recorder.Failure (Recorder size × List Entry)
  | .refuseBind refuses => .ok ({ recorder with refusesBind := refuses }, [])
  | .fault faulted => .ok ({ recorder with faulted := faulted }, [])
  | .declare kernel =>
      .ok ({ recorder with kernels := recorder.kernels.insert kernel }, [])
  | .attach context =>
      match recorder.attach context with
      | .error cause => .error cause
      | .ok attached => .ok (attached, [attached.entry .bind])
  | .detach => .ok (recorder.detach, [recorder.entry .release])

/-- Make one change to Verlet dynamics, which note nothing. -/
def ofVerlet (contexts : Contexts .particles size) (dynamics : Dynamics size) :
    VerletChange size → Except Dynamics.Failure (Dynamics size × List Entry)
  | .attach context =>
      (dynamics.attach context (contexts.get context)).map fun dynamics => (dynamics, [])
  | .detach => .ok (dynamics.detach, [])

/-- Make one change to a friction and Langevin dynamics, which note nothing. -/
def ofLangevin (contexts : Contexts .particles size) :
    Float × Dynamics size → LangevinChange size →
      Except Dynamics.Failure ((Float × Dynamics size) × List Entry)
  | (_, dynamics), .setFriction friction =>
      (Dynamics.checkedFriction friction).map fun friction => ((friction, dynamics), [])
  | (friction, dynamics), .attach context =>
      (dynamics.attach context (contexts.get context)).map fun dynamics =>
        ((friction, dynamics), [])
  | (friction, dynamics), .detach => .ok ((friction, dynamics.detach), [])

/--
Make changes one after another up to the first that is refused: the answer, what
the changes made of the value, and what was noted.
-/
def inTurn {α Change Cause : Type}
    (make : α → Change → Except Cause (α × List Entry)) :
    List Change → α → Except Cause Unit × α × List Entry
  | [], value => (.ok (), value, [])
  | change :: changes, value =>
      match make value change with
      | .error cause => (.error cause, value, [])
      | .ok (value, notes) =>
          let (answer, value, further) := inTurn make changes value
          (answer, value, notes ++ further)

/--
Make changes to a member.  There is no result if the member is not of the kind
that the changes are for.
-/
def make (contexts : Contexts setting size) :
    Changes size → Member setting size →
      Option (Except Member.Failure Unit × Member setting size × List Entry)
  | .recorder changes, .recorder member =>
      let (answer, member, notes) := inTurn ofRecorder changes member
      some (Member.ofRecorder id answer, .recorder member, notes)
  | .verlet changes, .dynamics .verlet member =>
      let (answer, member, notes) := inTurn (ofVerlet contexts) changes member
      some (Member.ofDynamics id answer, .dynamics .verlet member, notes)
  | .langevin changes, .dynamics (.langevin friction) member =>
      let (answer, (friction, member), notes) :=
        inTurn (ofLangevin contexts) changes (friction, member)
      some (Member.ofDynamics id answer, .dynamics (.langevin friction) member, notes)
  | .idle, .idle serial => some (.ok (), .idle serial, [])
  | _, _ => none

end Changes

end Stepping
