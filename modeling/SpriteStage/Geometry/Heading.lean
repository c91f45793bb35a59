/-!
# Headings

A heading is a whole number of degrees; zero points up and ninety to the right.
-/

namespace SpriteStage

/-- The heading in `0..360` that points the same way. -/
def normalizeHeading (degrees : Int) : Int := degrees % 360

/-- The largest heading that a sum of degrees may reach. -/
def maxHeading : Int := 9223372036854775807

theorem normalizeHeading_nonneg (degrees : Int) : 0 ≤ normalizeHeading degrees :=
  Int.emod_nonneg _ (by decide)

theorem normalizeHeading_lt (degrees : Int) : normalizeHeading degrees < 360 :=
  Int.emod_lt_of_pos _ (by decide)

def pi : Float := 3.141592653589793

def radians (heading : Int) : Float := Float.ofInt heading * (pi / 180)

end SpriteStage
