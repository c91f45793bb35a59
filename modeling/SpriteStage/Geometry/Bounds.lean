import SpriteStage.Fault

/-!
# Bounds of the stage

The bounds are the rectangle that the centre of a sprite may not leave. Holding a coordinate
between two limits compares and selects; it computes nothing, so a coordinate inside keeps its
exact value.
-/

namespace SpriteStage

/-- The rectangle a sprite centre stays inside. -/
structure Bounds where
  minX : Float
  maxX : Float
  minY : Float
  maxY : Float

/-- Holds a value between two limits. A value that is not a number goes to zero first. Limits that
are not in order are a fault. -/
def clampBetween (lo hi value : Float) : Except Fault Float :=
  if lo ≤ hi then
    let value := if value.isNaN then 0 else value
    .ok (if value < lo then lo else if hi < value then hi else value)
  else .error .unorderedLimits

/-- The larger of a value and a floor. A value or floor that is not a number gives way to the
other; of two equal ones, such as zeros of different sign, the floor is taken. -/
def raiseTo (floor value : Float) : Float :=
  if floor.isNaN then value else if floor < value then value else floor

namespace Bounds

/-- The bounds that leave room for a sprite of the given size on a stage centred on the origin. -/
def around (stageWidth stageHeight spriteWidth spriteHeight : Float) : Bounds :=
  let halfX := (stageWidth - spriteWidth) / 2
  let halfY := (stageHeight - spriteHeight) / 2
  ⟨-halfX, halfX, -halfY, halfY⟩

def clampX (b : Bounds) (x : Float) : Except Fault Float := clampBetween b.minX b.maxX x

def clampY (b : Bounds) (y : Float) : Except Fault Float := clampBetween b.minY b.maxY y

/-- Holds a point inside, each coordinate by itself. -/
def clamp (b : Bounds) (x y : Float) : Except Fault (Float × Float) := do
  return (← b.clampX x, ← b.clampY y)

/-- Whether a point lies inside, edges included. -/
def contains (b : Bounds) (x y : Float) : Bool :=
  decide (b.minX ≤ x) && decide (x ≤ b.maxX) && decide (b.minY ≤ y) && decide (y ≤ b.maxY)

end Bounds

end SpriteStage
