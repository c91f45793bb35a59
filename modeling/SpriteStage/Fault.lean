/-!
# Faults

A `Fault` is a broken contract inside the engine. It ends the operation that met it and leaves no
stage, unlike a refused request, which is answered.
-/

namespace SpriteStage

/-- A broken contract inside the engine. -/
inductive Fault where
  /-- A value was to be held between limits that are not in order. -/
  | unorderedLimits
  /-- The next tick would lie past the end of the clock. -/
  | clockOverflow
  | headingOverflow
  /-- A repeat block was handed to the executor. -/
  | repeatExecuted
  /-- The cursor pointed past the end of a repeat body. -/
  | bodyExhausted
  /-- A tick did not move the next tick forward. -/
  | clockStalled
deriving DecidableEq, Repr

def Fault.message : Fault → String
  | .unorderedLimits => "the limits are not in order"
  | .clockOverflow => "the next tick lies past the end of the clock"
  | .headingOverflow => "the heading left its range"
  | .repeatExecuted =>
    "repeat commands are unfolded by the program cursor, never executed directly"
  | .bodyExhausted => "the cursor stands past the end of a repeat body"
  | .clockStalled => "the next tick does not lie after the current one"

end SpriteStage
