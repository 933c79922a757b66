import Stepping.Compound.Description
import Stepping.Session.Request

/-!
# Carrying out requests

A request reaches one compound, the contexts, and the number of members made so
far.  Carrying it out answers it, leaves these three, and adds a trace.  A
request that fails leaves everything as it was, but for what its operation does
before it fails: a run keeps the chunks before its failure, a compound that
refuses to be bound again has been released, and of several changes to a member
those before the refused one remain made.
-/

namespace Stepping

/-- What a request for one compound can reach. -/
structure Scene (setting : Setting) (size : Nat) where
  compound : Compound setting size
  contexts : Contexts setting size
  /-- The number of members made so far, which is the next one's serial number. -/
  made : Nat

/-- What a request does: it answers, leaves a scene and notes something. -/
structure Effect (setting : Setting) (size : Nat) where
  answer : Except Refusal (Value setting size)
  scene : Scene setting size
  trace : Trace

namespace Scene

variable {setting : Setting} {size : Nat}

/-- Answer and leave everything as it is. -/
def tell (scene : Scene setting size)
    (answer : Except Refusal (Value setting size)) : Effect setting size :=
  ⟨answer, scene, .none⟩

/-- Answer a question about the compound. -/
def ask {α : Type} (scene : Scene setting size) (value : α → Value setting size) :
    Except Compound.Failure α → Effect setting size
  | .ok answer => scene.tell (.ok (value answer))
  | .error cause => scene.tell (.error (.compound cause))

/-- Leave another compound in the place of this one. -/
def withCompound (scene : Scene setting size)
    (compound : Compound setting size) : Scene setting size :=
  { scene with compound := compound }

/-- Report an operation on the compound that leaves the contexts alone. -/
def done {α : Type} (scene : Scene setting size) (value : α → Value setting size) :
    Except Compound.Failure α × Compound setting size × Trace →
      Effect setting size
  | (.ok answer, compound, trace) =>
      ⟨.ok (value answer), scene.withCompound compound, trace⟩
  | (.error cause, compound, trace) =>
      ⟨.error (.compound cause), scene.withCompound compound, trace⟩

/-- Leave the compound that a change of a parameter results in. -/
def adjusted (scene : Scene setting size) :
    Except Compound.Failure (Compound setting size) → Effect setting size
  | .ok compound => ⟨.ok .nothing, scene.withCompound compound, .none⟩
  | .error cause => scene.tell (.error (.compound cause))

/-- Do something with the member at an index, if there is one. -/
def withMember (scene : Scene setting size) (index : Nat)
    (action : Member setting size → Effect setting size) : Effect setting size :=
  match scene.compound.member index with
  | .ok member => action member
  | .error cause => scene.tell (.error (.compound cause))

/-- Leave the member that a change results in at an index. -/
def adjustedMember (scene : Scene setting size) (index : Nat) :
    Except Member.Failure (Member setting size) → Effect setting size
  | .ok member =>
      ⟨.ok .nothing, scene.withCompound (scene.compound.put index member), .none⟩
  | .error cause => scene.tell (.error (.member cause))

/-- Make a member and add it to the compound. -/
def add (scene : Scene setting size) (draft : Draft setting) :
    Effect setting size :=
  match draft.build scene.made with
  | .error cause => scene.tell (.error (.member cause))
  | .ok member =>
      let scene := { scene with made := scene.made + 1 }
      scene.done .number (scene.compound.add member)

/-- Take steps with the active member. -/
def step (scene : Scene setting size) (steps : Count) : Effect setting size :=
  let outcome := scene.compound.step steps scene.contexts
  let scene :=
    { scene with compound := outcome.compound, contexts := outcome.contexts }
  match outcome.answer with
  | .ok () => ⟨.ok .nothing, scene, outcome.trace⟩
  | .error cause => ⟨.error (.compound cause), scene, outcome.trace⟩

/-- Take steps with a member that was found at an index. -/
def stepMember (scene : Scene setting size) (index : Nat) (steps : Count)
    (member : Member setting size) : Effect setting size :=
  match member.step steps scene.contexts with
  | .error cause => scene.tell (.error (.member cause))
  | .ok (moved, contexts) =>
      ⟨.ok .nothing,
        { scene with
          compound := scene.compound.put index moved
          contexts := contexts },
        ⟨member.notes (.step steps), []⟩⟩

/-- Make changes to a member that was found at an index. -/
def change (scene : Scene setting size) (index : Nat) (changes : Changes size)
    (member : Member setting size) : Effect setting size :=
  match changes.make scene.contexts member with
  | none => scene.tell (.ok (.changed false))
  | some (answer, changed, notes) =>
      ⟨match answer with
        | .ok () => .ok (.changed true)
        | .error cause => .error (.member cause),
        scene.withCompound (scene.compound.put index changed), ⟨notes, []⟩⟩

/-- Report a run, with the events that were recorded. -/
def ran {Memory : Type} (scene : Scene setting size)
    (run : Run setting size Memory) (events : List Event) : Effect setting size :=
  ⟨match run.answer with
    | .ok ending => .ok (.run ending events)
    | .error failure => .error (.run failure events),
    { scene with
      compound := run.standing.compound
      contexts := run.standing.contexts },
    run.trace⟩

/-- Run a schedule.  Without a rule nobody observes the run and no events are recorded. -/
def run (scene : Scene setting size) (schedule : Schedule)
    (rule : Option StopRule) : Effect setting size :=
  match rule with
  | none =>
      scene.ran (schedule.runUnobserved scene.compound scene.contexts) []
  | some rule =>
      let run := schedule.run rule.observer 0 scene.compound scene.contexts
      scene.ran run run.events

/-- Run a schedule before an observer that decides by all events that it has seen. -/
def watch (scene : Scene setting size) (schedule : Schedule)
    (stops : List Event → Bool) : Effect setting size :=
  let run := schedule.run (.ofHistory stops) [] scene.compound scene.contexts
  scene.ran run run.events

end Scene

namespace Request

variable {setting : Setting} {size : Nat}

/-- Carry out a request. -/
def perform (scene : Scene setting size) :
    Request setting size → Effect setting size
  | .add draft => scene.add draft
  | .length => scene.tell (.ok (.number scene.compound.members.length))
  | .isEmpty => scene.tell (.ok (.flag scene.compound.members.isEmpty))
  | .isBound => scene.tell (.ok (.flag scene.compound.bound))
  | .activeIndex => scene.tell (.ok (.index scene.compound.activeIndex))
  | .select index => scene.done (fun _ => .nothing) (scene.compound.select index)
  | .step steps => scene.step steps
  | .stepSize => scene.ask .time scene.compound.stepSize
  | .setStepSize time => scene.adjusted (scene.compound.setStepSize time)
  | .tolerance => scene.ask .real scene.compound.tolerance
  | .setTolerance value => scene.adjusted (scene.compound.setTolerance value)
  | .kineticEnergy =>
      scene.ask .energy (scene.compound.kineticEnergy scene.contexts)
  | .kernels => scene.tell (.ok (.kernels scene.compound.kernels))
  | .bind context =>
      scene.done (fun _ => .nothing) (scene.compound.bind context scene.contexts)
  | .release =>
      let (released, trace) := scene.compound.release
      scene.done (fun _ => .nothing) (.ok (), released, trace)
  | .describe =>
      scene.tell (.ok
        (.description scene.compound.describe scene.compound.describeInLines))
  | .viewAll =>
      scene.tell (.ok
        (.views (scene.compound.members.map (Member.view scene.contexts))))
  | .view index =>
      scene.ask (fun member => .view (member.view scene.contexts))
        (scene.compound.member index)
  | .stepMember index steps =>
      scene.withMember index (scene.stepMember index steps)
  | .setMemberStepSize index time =>
      scene.withMember index fun member =>
        scene.adjustedMember index (member.setStepSize time)
  | .setMemberTolerance index value =>
      scene.withMember index fun member =>
        scene.adjustedMember index (member.setTolerance value)
  | .inspect index kind =>
      scene.withMember index fun member =>
        scene.tell (.ok (.member (if member.kind = kind then some member else none)))
  | .change index changes => scene.withMember index (scene.change index changes)
  | .lookAt context => scene.tell (.ok (.context (scene.contexts.get context)))
  | .poke context alteration =>
      ⟨.ok .nothing,
        { scene with
          contexts :=
            scene.contexts.set context
              (alteration.apply (scene.contexts.get context)) context.isLt },
        .none⟩
  | .runSchedule segments chunks rule =>
      match Schedule.prepare segments chunks with
      | .error defect => scene.tell (.error (.schedule defect))
      | .ok schedule => scene.run schedule rule
  | .watch schedule stops => scene.watch schedule stops
  | .replace =>
      ⟨.ok .nothing, scene.withCompound .empty, scene.compound.drop⟩

end Request

end Stepping
