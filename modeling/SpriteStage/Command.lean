import SpriteStage.StageError

/-!
# Commands

A program is a list of commands. Every command but the repeat block is carried out directly; a
repeat block is unfolded by the program cursor. A block is well formed when no repeat body holds
another repeat.
-/

namespace SpriteStage

/-- One block of a program. -/
inductive Command where
  | move (distance : Float)
  /-- Turns clockwise by a signed number of degrees. -/
  | turn (degrees : Int)
  | goTo (x y : Float)
  /-- Shows a bubble, for a number of seconds or until further notice. -/
  | bubble (kind : BubbleKind) (text : String) (duration : Option Float)
  /-- Runs the body a number of times; zero or less skips it. -/
  | repeatTimes (count : Int) (body : List Command)
deriving Inhabited

namespace Command

def kind : Command → CommandKind
  | .move _ => .move
  | .turn _ => .turn
  | .goTo _ _ => .goTo
  | .bubble kind _ _ => .bubble kind
  | .repeatTimes _ _ => .repeatTimes

def isRepeat : Command → Bool
  | .repeatTimes _ _ => true
  | _ => false

def isFlat : Command → Bool
  | .repeatTimes _ body => body.all (!·.isRepeat)
  | _ => true

def validate (command : Command) : Except StageError Unit :=
  if command.isFlat then .ok () else .error .nestedRepeat

/-- The plain commands a command amounts to: itself, or the passes of a repeat one after another. -/
def unfold : Command → List Command
  | .repeatTimes count body => (List.replicate count.toNat body).flatten
  | command => [command]

/-- The command with at most a number of passes. -/
def capped (limit : Int) : Command → Command
  | .repeatTimes count body => .repeatTimes (min count limit) body
  | command => command

theorem validate_eq_ok_iff {command : Command} : command.validate = .ok () ↔ command.isFlat := by
  unfold validate
  split <;> simp_all

end Command

end SpriteStage
