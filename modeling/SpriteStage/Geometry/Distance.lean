/-!
# Distance of two points

The distance is the root of the sum of squares. Sides that are far from one are moved towards it
first, so that their squares neither overflow nor vanish, and the rounded root is corrected once.
-/

namespace SpriteStage

/-- Root of the sum of the squares of two sides, the longer one first. `excess` is what the square
of the rounded root has over the sum; its terms are grouped so that what is large cancels before
anything is rounded. One step of Newton's method takes the excess back. -/
def correctedRoot (long short : Float) : Float :=
  let root := (long * long + short * short).sqrt
  let excess :=
    if root ≤ 2 * short then
      let rest := root - short
      long * (2 * rest - long) + (rest - 2 * (long - short)) * rest
    else
      let rest := root - long
      2 * rest * (long - 2 * short) + ((4 * rest - short) * short + rest * rest)
  root - excess / (2 * root)

/-- A power of two, exactly. -/
def powerOfTwo (exponent : Nat) : Float := Float.ofNat (Nat.pow 2 exponent)

/-- Length of the hypotenuse over two sides of any sign. An infinite side makes it infinite;
otherwise a side that is not a number leaves no number. A side too short to count in a square
beside the other is added to it. -/
def hypotenuse (dx dy : Float) : Float :=
  if dx.isInf || dy.isInf then 1 / 0
  else
    let (long, short) := if dx.abs < dy.abs then (dy.abs, dx.abs) else (dx.abs, dy.abs)
    if short * powerOfTwo 54 ≤ long then long + short
    else if powerOfTwo 511 < long then
      correctedRoot (long / powerOfTwo 600) (short / powerOfTwo 600) * powerOfTwo 600
    else if short < 1 / powerOfTwo 459 then
      correctedRoot (long * powerOfTwo 600) (short * powerOfTwo 600) / powerOfTwo 600
    else correctedRoot long short

end SpriteStage
