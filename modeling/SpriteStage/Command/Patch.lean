import SpriteStage.Command

/-!
# Patches

A patch names fields and their new values. It applies to a command when every named field belongs
to the command's kind; it then overwrites exactly those fields. A duration is optional twice: a
patch may leave it alone, clear it, or set it.
-/

namespace SpriteStage

structure Patch where
  distance : Option Float := none
  degrees : Option Int := none
  x : Option Float := none
  y : Option Float := none
  text : Option String := none
  duration : Option (Option Float) := none
  count : Option Int := none
  body : Option (List Command) := none

namespace Patch

def names (patch : Patch) : Field → Bool
  | .distance => patch.distance.isSome
  | .degrees => patch.degrees.isSome
  | .x => patch.x.isSome
  | .y => patch.y.isSome
  | .text => patch.text.isSome
  | .duration => patch.duration.isSome
  | .count => patch.count.isSome
  | .body => patch.body.isSome

/-- The fields a patch names that commands of a kind do not have. -/
def foreign (patch : Patch) (kind : CommandKind) : List Field :=
  Field.all.filter fun field => patch.names field && !kind.has field

/-- One patch after another: where both name a field the second one counts. -/
def override (first second : Patch) : Patch where
  distance := second.distance <|> first.distance
  degrees := second.degrees <|> first.degrees
  x := second.x <|> first.x
  y := second.y <|> first.y
  text := second.text <|> first.text
  duration := second.duration <|> first.duration
  count := second.count <|> first.count
  body := second.body <|> first.body

end Patch

namespace Command

/-- The command with the named fields of its own kind replaced. -/
def overwrite (patch : Patch) : Command → Command
  | .move distance => .move (patch.distance.getD distance)
  | .turn degrees => .turn (patch.degrees.getD degrees)
  | .goTo x y => .goTo (patch.x.getD x) (patch.y.getD y)
  | .bubble kind text duration =>
    .bubble kind (patch.text.getD text) (patch.duration.getD duration)
  | .repeatTimes count body => .repeatTimes (patch.count.getD count) (patch.body.getD body)

/-- The command with a patch applied. Foreign fields are refused first, then a nested repeat. -/
def patched (command : Command) (patch : Patch) : Except StageError Command := do
  let foreign := patch.foreign command.kind
  unless foreign.isEmpty do
    throw (.invalidPatch command.kind foreign)
  let updated := command.overwrite patch
  updated.validate
  return updated

end Command

end SpriteStage
