import SpriteStage.Command.Patch
import SpriteStage.Stage.Cast

/-!
# Editing programs

Commands are appended, patched and removed, programs traded, and single commands carried out at
once. Editing is allowed while playback runs: the cursor follows the edit, and a repeat that is
patched starts over.
-/

namespace SpriteStage

/-- The most passes of a repeat that is carried out at once. -/
def immediateRepeatLimit : Int := 1000

namespace Stage

def requireCommand (stage : Stage) (actor : Actor) (index : Nat) : Attempt Command :=
  match actor.program[index]? with
  | some command => .ok command
  | none => stage.refuse (.commandIndexOutOfRange actor.id index actor.program.length)

def append (stage : Stage) (id : ActorId) (command : Command) : Attempt (Outcome Unit) := do
  stage.check command.validate
  let _ ← stage.require id
  return stage.update id fun actor => { actor with program := actor.program ++ [command] }

/-- Patches a command. If its repeat is running, it starts over. -/
def patchCommand (stage : Stage) (id : ActorId) (index : Nat) (patch : Patch) : Attempt (Outcome Unit) := do
  let actor ← stage.require id
  let command ← stage.requireCommand actor index
  let patched ← stage.check (command.patched patch)
  return stage.update id fun actor =>
    { actor with
      program := actor.program.set index patched
      cursor := actor.cursor.exitLoop index }

def removeCommand (stage : Stage) (id : ActorId) (index : Nat) : Attempt (Outcome Command) := do
  let actor ← stage.require id
  let command ← stage.requireCommand actor index
  let edited := stage.update id fun actor =>
    { actor with
      program := actor.program.eraseIdx index
      cursor := actor.cursor.commandRemoved index }
  return { edited with value := command }

/-- Puts an actor on the schedule if it has a program, takes it off otherwise. -/
def reschedule (stage : Stage) (id : ActorId) : Stage :=
  let hasProgram := (stage.actor? id).any fun actor => !actor.program.isEmpty
  { stage with playback :=
    if hasProgram then stage.playback.schedule id else stage.playback.unschedule id }

/-- Brings the schedule in line with a trade of programs. -/
def afterSwap (stage : Stage) (pair : ActorPair) : Stage :=
  (stage.reschedule pair.first).reschedule pair.second

/-- Trades the programs of two actors; both start over. An actor does not trade with itself. -/
def swapPrograms (stage : Stage) (a b : ActorId) : Attempt (Outcome Unit) := do
  let _ ← stage.require a
  let _ ← stage.require b
  match tradeIn? stage.actors stage.timers a b with
  | none => return stage.outcome () []
  | some (actors, timers) =>
    let pair := ActorPair.of a b
    return ({ stage with actors, timers }.afterSwap pair).outcome () [.programsSwapped pair]

/-- Carries out a command at once, outside of playback. The bubble is cleared first. -/
def executeImmediate (stage : Stage) (id : ActorId) (command : Command) : Attempt (Outcome Unit) := do
  stage.check command.validate
  let actor ← stage.require id
  let (actor, timers) ← sound <| (command.capped immediateRepeatLimit).unfold.foldlM
    (fun (actor, timers) command => command.apply stage.setting actor timers)
    (actor.withoutBubble, stage.timers.cancel? actor.bubbleTimer)
  return { stage with timers }.update id fun _ => actor

end Stage

end SpriteStage
