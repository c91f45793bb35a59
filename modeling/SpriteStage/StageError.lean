import SpriteStage.ActorId
import SpriteStage.Command.Kind

/-!
# Refused requests

Each constructor is one cause for which a request is refused; `StageError.message` holds the wording.
-/

namespace SpriteStage

/-- Why a request to the stage was refused. -/
inductive StageError where
  | actorNotFound (id : ActorId)
  | duplicateActor (id : ActorId)
  | commandIndexOutOfRange (id : ActorId) (index length : Nat)
  | nestedRepeat
  /-- The patch names fields that the command does not have. -/
  | invalidPatch (kind : CommandKind) (fields : List Field)
deriving DecidableEq

def StageError.message : StageError → String
  | .actorNotFound id => s!"actor {id} not found"
  | .duplicateActor id => s!"actor {id} already exists"
  | .commandIndexOutOfRange id index length =>
    s!"command index {index} out of range for actor {id} (program length {length})"
  | .nestedRepeat => "repeat blocks may not contain other repeat blocks"
  | .invalidPatch kind fields =>
    "patch does not apply to a " ++ kind.name ++ " command: "
      ++ ", ".intercalate (fields.map Field.name)

end SpriteStage
