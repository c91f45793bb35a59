import SpriteStage.Json
import SpriteStage.Stage

/-!
# Snapshots

A snapshot holds what a view shows of a stage. It can be written as a document.
-/

namespace SpriteStage

structure ActorSnapshot where
  id : ActorId
  name : String
  x : Float
  y : Float
  heading : Int
  program : List Command
  programCounter : Nat
  speech : String
  thought : String
  scheduled : Bool

structure Snapshot where
  timeMs : Nat
  running : Bool
  ticks : Nat
  active : Option ActorId
  actors : List ActorSnapshot

def Actor.snapshot (actor : Actor) (scheduled : Bool) : ActorSnapshot where
  id := actor.id
  name := actor.name
  x := actor.x
  y := actor.y
  heading := actor.heading
  program := actor.program
  programCounter := actor.cursor.pc
  speech := actor.speech
  thought := actor.thought
  scheduled := scheduled

def Stage.snapshot (stage : Stage) : Snapshot where
  timeMs := stage.now.millis
  running := stage.isRunning
  ticks := stage.playback.ticks
  active := stage.active
  actors := stage.actors.map fun actor => actor.snapshot (stage.isScheduled actor.id)

mutual

def Command.toJson : Command → Json
  | .move distance => .record [("type", .ofString "move"), ("distance", .ofFloat distance)]
  | .turn degrees => .record [("type", .ofString "turn"), ("degrees", .ofInt degrees)]
  | .goTo x y => .record [("type", .ofString "go_to"), ("x", .ofFloat x), ("y", .ofFloat y)]
  | .bubble kind text duration => .record
    [("type", .ofString (match kind with | .speech => "say" | .thought => "think")),
      ("text", .ofString text), ("duration", (duration.map Json.ofFloat).getD .null)]
  | .repeatTimes count body => .record
    [("type", .ofString "repeat"), ("count", .ofInt count), ("body", .array (programToJson body))]

def programToJson : List Command → List Json
  | [] => []
  | command :: rest => command.toJson :: programToJson rest

end

def playStateName (running : Bool) : String := if running then "running" else "idle"

def ActorSnapshot.toJson (actor : ActorSnapshot) : Json :=
  .record
    [("id", .ofInt actor.id.number), ("name", .ofString actor.name), ("x", .ofFloat actor.x),
      ("y", .ofFloat actor.y), ("heading", .ofInt actor.heading),
      ("program", .array (programToJson actor.program)),
      ("program_counter", .ofInt actor.programCounter), ("speech", .ofString actor.speech),
      ("thought", .ofString actor.thought), ("scheduled", .bool actor.scheduled)]

def Snapshot.toJson (snapshot : Snapshot) : Json :=
  .record
    [("time_ms", .ofInt snapshot.timeMs), ("state", .ofString (playStateName snapshot.running)),
      ("ticks", .ofInt snapshot.ticks),
      ("active", (snapshot.active.map fun id => Json.ofInt id.number).getD .null),
      ("actors", .array (snapshot.actors.map ActorSnapshot.toJson))]

end SpriteStage
