import SpriteStage.Stage

/-!
# The playbill

A playbill lists the cast and says whether the show runs. It can be read off a stage, or kept by
someone who only follows the events.
-/

namespace SpriteStage

/-- The cast in order of arrival, and whether playback runs. -/
structure Playbill where
  cast : List ActorId
  running : Bool
deriving DecidableEq

namespace Playbill

def follow (playbill : Playbill) : StageEvent → Playbill
  | .actorAdded id => { playbill with cast := playbill.cast ++ [id] }
  | .actorRemoved id => { playbill with cast := playbill.cast.erase id }
  | .playbackStarted => { playbill with running := true }
  | .playbackStopped _ => { playbill with running := false }
  | .actorUpdated _ | .programsSwapped _ | .bubbleCleared _ _ => playbill

end Playbill

def Stage.playbill (stage : Stage) : Playbill := ⟨stage.actors.map (·.id), stage.isRunning⟩

end SpriteStage
