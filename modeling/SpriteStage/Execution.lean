import SpriteStage.Actor
import SpriteStage.Duration.Seconds
import SpriteStage.Geometry.Bounds
import SpriteStage.Geometry.Heading
import SpriteStage.Motion

/-!
# Carrying out a command

One command acts on one actor and on the timer queue, nothing else. A repeat block is never carried
out as such; it is a fault to try.
-/

namespace SpriteStage

/-- What a command depends on besides the actor and the timers. -/
structure Setting where
  bounds : Bounds
  motion : Motion
  /-- The current instant, from which bubble deadlines are counted. -/
  now : Duration

namespace Actor

def move (setting : Setting) (actor : Actor) (distance : Float) : Except Fault Actor := do
  match setting.motion with
  | .horizontal floor =>
    let x ← setting.bounds.clampX (actor.x + distance)
    match floor with
    | none => return { actor with x }
    | some floor =>
      let y ← setting.bounds.clampY (raiseTo floor actor.y)
      return { actor with x, y }
  | .heading =>
    let angle := radians actor.heading
    let (x, y) ← setting.bounds.clamp
      (actor.x + distance * angle.sin) (actor.y + distance * angle.cos)
    return { actor with x, y }

/-- Turns an actor. The degrees are brought into one turn first, so the sum stays in range unless
the heading was far out of it. -/
def turn (actor : Actor) (degrees : Int) : Except Fault Actor :=
  let sum := actor.heading + degrees % 360
  if sum ≤ maxHeading then .ok { actor with heading := normalizeHeading sum }
  else .error .headingOverflow

/-- When a bubble shown at `now` clears itself: after a positive number of seconds, unless that
lies past the end of the clock. -/
def bubbleDeadline (now : Duration) (duration : Option Float) : Option Duration := do
  let seconds ← duration
  if 0 < seconds then now.add? (← Duration.ofSeconds? seconds) else none

/-- Shows a bubble in place of the one before, whose timer is disarmed. -/
def display (setting : Setting) (actor : Actor) (timers : TimerQueue) (kind : BubbleKind)
    (text : String) (duration : Option Float) : Actor × TimerQueue :=
  let timers := timers.cancel? actor.bubbleTimer
  match bubbleDeadline setting.now duration with
  | none => ({ actor with bubble := some ⟨kind, text, none⟩ }, timers)
  | some deadline =>
    let (handle, timers) := timers.arm actor.id kind deadline
    ({ actor with bubble := some ⟨kind, text, some handle⟩ }, timers)

end Actor

def Command.apply (setting : Setting) (actor : Actor) (timers : TimerQueue) :
    Command → Except Fault (Actor × TimerQueue)
  | .move distance => return (← actor.move setting distance, timers)
  | .turn degrees => return (← actor.turn degrees, timers)
  | .goTo x y => do
    let (x, y) ← setting.bounds.clamp x y
    return ({ actor with x, y }, timers)
  | .bubble kind text duration => .ok (actor.display setting timers kind text duration)
  | .repeatTimes _ _ => .error .repeatExecuted

end SpriteStage
