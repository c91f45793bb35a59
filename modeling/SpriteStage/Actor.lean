import SpriteStage.Cursor
import SpriteStage.Timers

/-!
# Actors

An actor is a sprite with a pose, a program, the cursor into it, and at most one bubble. A bubble
knows the timer that clears it by its handle only.
-/

namespace SpriteStage

structure Bubble where
  kind : BubbleKind
  text : String
  /-- The timer that clears the bubble, if one was armed. -/
  timer : Option Nat
deriving DecidableEq

structure Actor where
  id : ActorId
  name : String
  x : Float := 0
  y : Float := 100
  heading : Int := 90
  program : List Command := []
  cursor : Cursor := .start
  bubble : Option Bubble := none

namespace Actor

/-- The text of a bubble of one kind; empty when none is shown. -/
def bubbleText (actor : Actor) (kind : BubbleKind) : String :=
  match actor.bubble with
  | some bubble => if bubble.kind = kind then bubble.text else ""
  | none => ""

def speech (actor : Actor) : String := actor.bubbleText .speech

def thought (actor : Actor) : String := actor.bubbleText .thought

def bubbleTimer (actor : Actor) : Option Nat := actor.bubble.bind (·.timer)

def withoutBubble (actor : Actor) : Actor := { actor with bubble := none }

/-- The actor at the start of its program, without its bubble. -/
def rewound (actor : Actor) : Actor := { actor with cursor := .start, bubble := none }

def isFinished (actor : Actor) : Bool := actor.program.length ≤ actor.cursor.pc

end Actor

end SpriteStage
