import SpriteStage.Decimal.Binary

/-!
# The shortest decimal of a double

The reals that round to a double form an interval. Of the decimals in it this module selects one
with the fewest digits, and of those the one nearest to the double; a tie between two is decided
by the format that writes the number. The comparisons are exact.
-/

namespace SpriteStage

/-- The value `digits * 10 ^ exponent`. -/
structure Decimal where
  digits : Nat
  exponent : Int
deriving DecidableEq, Repr

inductive Tie where
  | toEven
  | up
deriving DecidableEq, Repr

/-- Compares `a * 10 ^ i` with `b * 2 ^ j`. -/
def compareScaled (a : Nat) (i : Int) (b : Nat) (j : Int) : Ordering :=
  compare ((a * Nat.pow 10 i.toNat) <<< (-j).toNat) ((b * Nat.pow 10 (-i).toNat) <<< j.toNat)

namespace Binary

/-- Whether a decimal lies in the interval of the reals that round to this double. The ends, which
are halfway to the neighbours, belong to it when the mantissa is even. -/
def covers (b : Binary) (d : Decimal) : Bool :=
  let quarters := 4 * b.mantissa
  let below := if b.startsBinade then quarters - 1 else quarters - 2
  let fromBelow := compareScaled d.digits d.exponent below (b.exponent - 2)
  let fromAbove := compareScaled d.digits d.exponent (quarters + 2) (b.exponent - 2)
  if fromBelow = .eq ∨ fromAbove = .eq then b.mantissa % 2 == 0
  else fromBelow = .gt && fromAbove = .lt

/-- The least power of ten above the magnitude, found near the one its binary logarithm gives. -/
def magnitude (b : Binary) : Int :=
  let guess := ((b.mantissa.log2 : Int) + b.exponent) * 30103 / 100000
  let above (k : Int) : Bool := compareScaled 1 k b.mantissa b.exponent == .gt
  if above guess then guess else if above (guess + 1) then guess + 1 else guess + 2

/-- The integer part of the magnitude measured in units of `10 ^ unit`. -/
def floorAt (b : Binary) (unit : Int) : Nat :=
  (b.mantissa * Nat.pow 10 (-unit).toNat) <<< b.exponent.toNat
    / Nat.pow 10 unit.toNat <<< (-b.exponent).toNat

/-- Of the two neighbours of the magnitude on the grid of step `10 ^ unit`, the nearer one that
is covered. -/
def onGrid? (tie : Tie) (b : Binary) (unit : Int) : Option Decimal :=
  let low := b.floorAt unit
  let below : Decimal := ⟨low, unit⟩
  let above : Decimal := ⟨low + 1, unit⟩
  match b.covers below, b.covers above with
  | true, false => some below
  | false, true => some above
  | false, false => none
  | true, true =>
    match compareScaled (2 * low + 1) unit b.mantissa (b.exponent + 1) with
    | .gt => some below
    | .lt => some above
    | .eq => match tie with
      | .up => some above
      | .toEven => some (if low % 2 = 0 then below else above)

def exactDecimal (b : Binary) : Decimal :=
  if 0 ≤ b.exponent then ⟨b.mantissa <<< b.exponent.toNat, 0⟩
  else ⟨b.mantissa * Nat.pow 5 (-b.exponent).toNat, b.exponent⟩

end Binary

/-- Moves the zeros at the end of the digits into the exponent, `fuel` of them at most. -/
def Decimal.strip : Nat → Decimal → Decimal
  | 0, d => d
  | fuel + 1, d =>
    if d.digits ≠ 0 ∧ d.digits % 10 = 0 then Decimal.strip fuel ⟨d.digits / 10, d.exponent + 1⟩
    else d

/-- The shortest decimal that rounds to a double; zero has the digit zero. -/
def Binary.shortest (tie : Tie) (b : Binary) : Decimal :=
  if b.mantissa = 0 then ⟨0, 0⟩
  else
    let top := b.magnitude
    let found := (List.range' 1 17).findSome? fun count => b.onGrid? tie (top - (count : Nat))
    let chosen := found.getD b.exactDecimal
    chosen.strip (chosen.digits.log2 + 1)

end SpriteStage
