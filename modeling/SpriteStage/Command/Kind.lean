/-!
# Kinds of commands and their fields

`CommandKind.has` is the one table that says which field belongs to which kind. A request that
names a field outside this table is refused by the rules of `Command/Patch`.
-/

namespace SpriteStage

inductive BubbleKind where
  | speech
  | thought
deriving DecidableEq, Repr

/-- The kinds of blocks a program is made of. -/
inductive CommandKind where
  | move
  | turn
  | goTo
  | bubble (kind : BubbleKind)
  | repeatTimes
deriving DecidableEq, Repr

def CommandKind.name : CommandKind → String
  | .move => "move"
  | .turn => "turn"
  | .goTo => "goto"
  | .bubble .speech => "say"
  | .bubble .thought => "think"
  | .repeatTimes => "repeat"

inductive Field where
  | distance
  | degrees
  | x
  | y
  | text
  | duration
  | count
  | body
deriving DecidableEq, Repr

namespace Field

/-- Every field, in the order in which messages list them. -/
def all : List Field := [.distance, .degrees, .x, .y, .text, .duration, .count, .body]

def name : Field → String
  | .distance => "distance"
  | .degrees => "degrees"
  | .x => "x"
  | .y => "y"
  | .text => "text"
  | .duration => "duration"
  | .count => "count"
  | .body => "body"

theorem mem_all (field : Field) : field ∈ all := by cases field <;> decide

end Field

def CommandKind.has : CommandKind → Field → Bool
  | .move, .distance => true
  | .turn, .degrees => true
  | .goTo, .x | .goTo, .y => true
  | .bubble _, .text | .bubble _, .duration => true
  | .repeatTimes, .count | .repeatTimes, .body => true
  | _, _ => false

end SpriteStage
