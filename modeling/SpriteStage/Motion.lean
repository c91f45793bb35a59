/-!
# Motion

How a sprite moves along a distance.
-/

namespace SpriteStage

/-- How a distance becomes a displacement. -/
inductive Motion where
  /-- Along x only; y is raised to the floor if there is one. -/
  | horizontal (floor : Option Float)
  | heading

end SpriteStage
