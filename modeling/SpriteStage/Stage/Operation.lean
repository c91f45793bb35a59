import SpriteStage.Stage.Clock

/-!
# Operations

The public operations of a stage as data, with one function that performs them. An operation that is
refused is answered with the error, on the stage it was refused on.
-/

namespace SpriteStage

inductive Operation where
  | addActor
  | insertActor (actor : Actor)
  | removeActor (id : ActorId)
  | setActive (id : ActorId)
  | rename (id : ActorId) (name : String)
  | setPosition (id : ActorId) (x y : Float)
  | setHeading (id : ActorId) (degrees : Int)
  | append (id : ActorId) (command : Command)
  | patchCommand (id : ActorId) (index : Nat) (patch : Patch)
  | removeCommand (id : ActorId) (index : Nat)
  | swapPrograms (a b : ActorId)
  | executeImmediate (id : ActorId) (command : Command)
  | play
  | stop
  | tick
  | advanceTime (elapsed : Duration)
  | subscribe
  | unsubscribe (number : Nat)

inductive Response where
  | done
  | id (id : ActorId)
  | actor (actor : Actor)
  | command (command : Command)
  | report (report : TickReport)
  | reports (reports : List TickReport)
  | observer (number : Nat)
  | found (found : Bool)
  | refused (error : StageError)

/-- An outcome with its answer made a response. -/
def Outcome.respond {α : Type} (respond : α → Response) (outcome : Outcome α) : Outcome Response :=
  { outcome with value := respond outcome.value }

namespace Stage

/-- A refusal is an answer too, with the stage that it leaves. -/
def answer {α : Type} (respond : α → Response) :
    Attempt (Outcome α) → Except Fault (Outcome Response)
  | .ok outcome => .ok (outcome.respond respond)
  | .error (.refused refusal) => .ok (refusal.respond .refused)
  | .error (.faulted fault) => .error fault

def perform (stage : Stage) : Operation → Except Fault (Outcome Response)
  | .addActor => do return (← stage.addActor).respond .id
  | .insertActor actor => answer .id (stage.insertActor actor)
  | .removeActor id => answer .actor (stage.removeActor id)
  | .setActive id => answer (fun _ => .done) (stage.setActive id)
  | .rename id name => answer (fun _ => .done) (stage.rename id name)
  | .setPosition id x y => answer (fun _ => .done) (stage.setPosition id x y)
  | .setHeading id degrees => answer (fun _ => .done) (stage.setHeading id degrees)
  | .append id command => answer (fun _ => .done) (stage.append id command)
  | .patchCommand id index patch => answer (fun _ => .done) (stage.patchCommand id index patch)
  | .removeCommand id index => answer .command (stage.removeCommand id index)
  | .swapPrograms a b => answer (fun _ => .done) (stage.swapPrograms a b)
  | .executeImmediate id command =>
    answer (fun _ => .done) (stage.executeImmediate id command)
  | .play => do return (← stage.play).respond fun _ => .done
  | .stop => .ok (stage.stop.respond fun _ => .done)
  | .tick => do return (← stage.tick).respond .report
  | .advanceTime elapsed => do return (← stage.advanceTime elapsed).respond .reports
  | .subscribe => .ok (stage.subscribe.respond .observer)
  | .unsubscribe number => .ok ((stage.unsubscribe number).respond .found)

end Stage

end SpriteStage
