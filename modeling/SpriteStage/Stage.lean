import SpriteStage.Actor
import SpriteStage.Collision
import SpriteStage.Config
import SpriteStage.Execution
import SpriteStage.Playback

/-!
# The stage

A stage holds actors in order of arrival, the actor selected for editing, playback, the bubble
timers and the clock. Every operation on it yields an `Outcome`: an answer, the stage after it, and
the notices of what changed, each with the instant it was given out. Observers are known by number;
each registered observer gets every notice.
-/

namespace SpriteStage

inductive StopReason where
  | requested
  /-- No scheduled program had anything left to run. -/
  | finished
deriving DecidableEq, Repr

inductive StageEvent where
  | actorAdded (id : ActorId)
  | actorRemoved (id : ActorId)
  /-- The pose, program, name or bubble of an actor changed. -/
  | actorUpdated (id : ActorId)
  | programsSwapped (pair : ActorPair)
  | playbackStarted
  | playbackStopped (reason : StopReason)
  /-- A bubble cleared by itself. -/
  | bubbleCleared (id : ActorId) (kind : BubbleKind)
deriving DecidableEq

structure Notice where
  time : Duration
  event : StageEvent
deriving DecidableEq

structure TickReport where
  time : Duration
  stepped : List ActorId := []
  /-- Actors whose program ran out. -/
  completed : List ActorId := []
  swaps : List ActorPair := []
  /-- Whether playback became idle at the end. -/
  finished : Bool := false

structure Stage where
  config : Config
  actors : List Actor := []
  active : Option ActorId := none
  playback : Playback
  timers : TimerQueue := .empty
  now : Duration := .zero
  observers : List Nat := []
  /-- The number of registrations so far. -/
  registrations : Nat := 0

/-- An answer, the stage after the operation, and what observers are told. -/
structure Outcome (α : Type) where
  value : α
  stage : Stage
  notices : List Notice := []

/-- Why an operation did not come to its end. -/
inductive Failure where
  /-- The request is refused: the error, the stage by then, and what observers were told by then. -/
  | refused (refusal : Outcome StageError)
  /-- The engine broke down. -/
  | faulted (fault : Fault)

/-- A result, unless the request is refused or the engine breaks down. -/
abbrev Attempt (α : Type) := Except Failure α

/-- A step that may break down. -/
def sound {α : Type} (result : Except Fault α) : Attempt α := result.mapError .faulted

/-- The list with the first actor of this identifier changed. -/
def changeFirst (id : ActorId) (change : Actor → Actor) : List Actor → List Actor
  | [] => []
  | actor :: rest =>
    if actor.id = id then change actor :: rest else actor :: changeFirst id change rest

namespace Stage

/-- An empty stage, without a check of the configuration. -/
def unchecked (config : Config) : Stage where
  config := config
  playback := { period := config.tickPeriod }

def default : Stage := unchecked {}

def ofConfig (config : Config) : Except ConfigError Stage := do
  config.validate
  return unchecked config

def bounds (stage : Stage) : Bounds := stage.config.bounds

/-- What commands carried out now depend on. -/
def setting (stage : Stage) : Setting := ⟨stage.bounds, stage.config.motion, stage.now⟩

def actor? (stage : Stage) (id : ActorId) : Option Actor := stage.actors.find? (·.id == id)

def isRunning (stage : Stage) : Bool := stage.playback.isRunning

def isScheduled (stage : Stage) (id : ActorId) : Bool := stage.playback.isScheduled id

def isQuiescent (stage : Stage) : Bool := !stage.isRunning && stage.timers.isEmpty

def modify (stage : Stage) (id : ActorId) (change : Actor → Actor) : Stage :=
  { stage with actors := changeFirst id change stage.actors }

def notice (stage : Stage) (event : StageEvent) : Notice := ⟨stage.now, event⟩

/-- The stage as an outcome, with events given out now. -/
def outcome {α : Type} (stage : Stage) (value : α) (events : List StageEvent) : Outcome α :=
  ⟨value, stage, events.map stage.notice⟩

/-- Ends playback when nothing is scheduled any more. -/
def finishIfDrained (stage : Stage) : Stage × List StageEvent :=
  ({ stage with playback := stage.playback.finishIfDrained },
    if stage.playback.isDrained then [.playbackStopped .finished] else [])

theorem finishIfDrained_eq (stage : Stage) :
    stage.finishIfDrained =
      if stage.playback.isDrained then
        ({ stage with playback := stage.playback.stop }, [.playbackStopped .finished])
      else (stage, []) := by
  unfold finishIfDrained Playback.finishIfDrained
  split <;> rfl

/-- Turns the request down, with the stage as it is now. -/
def refuse {α : Type} (stage : Stage) (error : StageError) : Attempt α :=
  .error (.refused (stage.outcome error []))

/-- A check that may turn the request down. -/
def check {α : Type} (stage : Stage) : Except StageError α → Attempt α
  | .ok value => .ok value
  | .error error => stage.refuse error

def require (stage : Stage) (id : ActorId) : Attempt Actor :=
  match stage.actor? id with
  | some actor => .ok actor
  | none => stage.refuse (.actorNotFound id)

/-- Each event reaches every observer in order of registration. -/
def deliveries (stage : Stage) (notices : List Notice) : List (Nat × Notice) :=
  notices.flatMap fun notice => stage.observers.map (·, notice)

end Stage

end SpriteStage
