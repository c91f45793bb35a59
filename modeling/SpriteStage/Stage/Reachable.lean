import SpriteStage.Stage.Operation

/-!
# Reachable stages

A stage is reachable when operations lead to it from an empty stage or from the default cast. What a
step may be is a parameter: `Reachable` takes every operation, `ReachableWithRoom` adds an actor only
while an identifier is left for it. Main statement: fewer allowed steps reach no more stages.
-/

namespace SpriteStage

/-- Whether an operation that needs an unused identifier finds one. -/
def Operation.hasRoom (stage : Stage) : Operation → Bool
  | .addActor => stage.actors.length ≤ maxActorNumber
  | _ => true

namespace Stage

/-- The stages to start from: an empty one of a valid configuration, and the default cast on it. -/
inductive Opening (config : Config) : Stage → Prop
  | empty {stage : Stage} : ofConfig config = .ok stage → Opening config stage
  | cast {stage populated : Stage} : ofConfig config = .ok stage →
      stage.placeAll defaultCast = .ok populated → Opening config populated

/-- The stages that allowed operations lead to. -/
inductive ReachableBy (allowed : Stage → Operation → Prop) (config : Config) : Stage → Prop
  | opening {stage : Stage} : Opening config stage → ReachableBy allowed config stage
  | step {stage : Stage} {operation : Operation} {outcome : Outcome Response} :
      ReachableBy allowed config stage → allowed stage operation →
      stage.perform operation = .ok outcome → ReachableBy allowed config outcome.stage

/-- The stages that any operations lead to. -/
abbrev Reachable : Config → Stage → Prop := ReachableBy fun _ _ => True

/-- The stages that operations lead to which find an identifier for every actor they add. -/
abbrev ReachableWithRoom : Config → Stage → Prop :=
  ReachableBy fun stage operation => operation.hasRoom stage

theorem ReachableBy.mono {fewer more : Stage → Operation → Prop} {config : Config} {stage : Stage}
    (weaker : ∀ stage operation, fewer stage operation → more stage operation)
    (h : ReachableBy fewer config stage) : ReachableBy more config stage := by
  induction h with
  | opening start => exact .opening start
  | step _ allowed performed ih => exact .step ih (weaker _ _ allowed) performed

theorem ReachableWithRoom.reachable {config : Config} {stage : Stage}
    (h : ReachableWithRoom config stage) : Reachable config stage :=
  h.mono fun _ _ _ => trivial

end Stage

end SpriteStage
