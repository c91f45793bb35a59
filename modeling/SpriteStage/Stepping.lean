import SpriteStage.Execution

/-!
# Steps of a program

A step settles the cursor, carries out the one command it stands on, and settles it again.
-/

namespace SpriteStage

/-- What a step came to. -/
inductive StepOutcome where
  /-- A command ran and more are left. -/
  | progress
  /-- A command ran and it was the last one. -/
  | completed
  /-- No command was left to run. -/
  | exhausted
deriving DecidableEq, Repr

/-- Runs the next command of an actor's program. -/
def Actor.advance (setting : Setting) (actor : Actor) (timers : TimerQueue) :
    Except Fault (StepOutcome × Actor × TimerQueue) := do
  let settled := actor.cursor.settle actor.program
  match actor.program[settled.pc]? with
  | none => return (.exhausted, { actor with cursor := settled }, timers)
  | some block =>
    let (command, fetched) ← settled.fetch block
    let (actor, timers) ← command.apply setting { actor with cursor := fetched } timers
    let actor := { actor with cursor := actor.cursor.settle actor.program }
    return (if actor.isFinished then .completed else .progress, actor, timers)

end SpriteStage
