import SpriteStage.Stage.Programs
import SpriteStage.Stepping

/-!
# Playback on the stage

Playing starts every program from the top. On a tick every scheduled actor takes one step, in order
of identifiers, and collisions are resolved after each of them. Playback ends by itself when no
actor is scheduled any more.
-/

namespace SpriteStage

namespace Stage

def resetAll (stage : Stage) : Stage :=
  { stage with
    actors := stage.actors.map Actor.rewound
    timers := stage.actors.foldl (fun timers actor => timers.cancel? actor.bubbleTimer)
      stage.timers }

/-- Starts playback from the top of every program, also while it runs already. -/
def play (stage : Stage) : Except Fault (Outcome Unit) := do
  let stage := stage.resetAll
  let ready := (stage.actors.filter fun actor => !actor.program.isEmpty).map (·.id)
  let playback ← stage.playback.start stage.now ready
  let (stage, events) := { stage with playback }.finishIfDrained
  return stage.outcome () (.playbackStarted :: events)

/-- Stops playback, rewinds every program and clears every bubble. -/
def stop (stage : Stage) : Outcome Unit :=
  let events := if stage.isRunning then [.playbackStopped .requested] else []
  let reset := stage.resetAll
  { reset with
    playback := reset.playback.stop
    timers := reset.timers.clear }.outcome () events

end Stage

/-- A tick under way. -/
structure TickState where
  stage : Stage
  /-- Actors that traded programs during this tick. -/
  busy : IdSet := ∅
  report : TickReport
  events : List StageEvent := []

namespace TickState

/-- Takes an actor without anything to run off the schedule. -/
def drop (tick : TickState) (id : ActorId) : TickState :=
  { tick with stage := { tick.stage with playback := tick.stage.playback.unschedule id } }

def resolve (tick : TickState) : TickState :=
  let resolution := resolveCollisions tick.stage.config.collisionDistance tick.stage.actors
    tick.busy tick.stage.timers
  let traded := { tick.stage with actors := resolution.actors, timers := resolution.timers }
  { stage := resolution.swaps.foldl Stage.afterSwap traded
    busy := resolution.busy
    report := { tick.report with swaps := tick.report.swaps ++ resolution.swaps }
    events := tick.events ++ resolution.swaps.map .programsSwapped }

def retire (tick : TickState) (id : ActorId) : TickState :=
  if (tick.stage.actor? id).any Actor.isFinished then
    { tick with
      stage := { tick.stage.modify id fun actor => { actor with cursor := .start } with
        playback := tick.stage.playback.unschedule id }
      report := { tick.report with completed := tick.report.completed ++ [id] } }
  else tick

def moved (tick : TickState) (id : ActorId) (outcome : StepOutcome) (actor : Actor)
    (timers : TimerQueue) : TickState :=
  { tick with
    stage := { tick.stage.modify id fun _ => actor with timers }
    report := if outcome = .exhausted then tick.report
      else { tick.report with stepped := tick.report.stepped ++ [id] }
    events := tick.events ++ [.actorUpdated id] }

/-- Gives one scheduled actor its turn: a step, the collisions after it, and its retirement if its
program has run out. -/
def turn (tick : TickState) (id : ActorId) : Except Fault TickState :=
  match tick.stage.actor? id with
  | none => .ok (tick.drop id)
  | some actor =>
    if tick.stage.isRunning && !actor.program.isEmpty then do
      let (outcome, actor, timers) ← actor.advance tick.stage.setting tick.stage.timers
      return ((tick.moved id outcome actor timers).resolve).retire id
    else .ok (tick.drop id)

end TickState

namespace Stage

def runTick (stage : Stage) : Except Fault (Outcome TickReport) := do
  let start : TickState := { stage, report := { time := stage.now } }
  let ended ← stage.playback.scheduled.ids.foldlM
    (fun tick id => if tick.stage.isScheduled id then tick.turn id else return tick) start
  let playback ← ended.stage.playback.tickCompleted stage.now
  let (finished, events) := { ended.stage with playback }.finishIfDrained
  return finished.outcome { ended.report with finished := playback.isDrained }
    (ended.events ++ events)

/-- Runs one tick now; does nothing while idle. -/
def tick (stage : Stage) : Except Fault (Outcome TickReport) :=
  if stage.isRunning then stage.runTick else return stage.outcome { time := stage.now } []

end Stage

end SpriteStage
