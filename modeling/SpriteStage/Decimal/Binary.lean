/-!
# Doubles as exact numbers

A finite double is a sign and a product `mantissa * 2 ^ exponent`. This module takes a double
apart and rounds exact quotients.
-/

namespace SpriteStage

/-- A finite double: a sign and the value `mantissa * 2 ^ exponent`. -/
structure Binary where
  negative : Bool
  mantissa : Nat
  exponent : Int
deriving DecidableEq, Repr

def signBit (x : Float) : Bool := x.toBits.toNat >>> 63 == 1

/-- The weight of the leading bit of a mantissa, which 52 bits follow. -/
def leadingBit : Nat := 1 <<< 52

namespace Binary

/-- The parts of a finite double; the infinities and the value that is not a number have none. -/
def ofFloat? (x : Float) : Option Binary :=
  let bits := x.toBits.toNat
  let scale : Nat := bits / leadingBit % 2048
  let fraction : Nat := bits % leadingBit
  if scale = 2047 then none
  else if scale = 0 then some ⟨signBit x, fraction, -1074⟩
  else some ⟨signBit x, leadingBit + fraction, (scale : Int) - 1075⟩

/-- Whether the next double towards zero is half as far away as the one on the other side. -/
def startsBinade (b : Binary) : Bool := b.mantissa == leadingBit && b.exponent > -1074

end Binary

/-- The integer nearest to a quotient; a tie goes to the even one. -/
def roundQuotient (num den : Nat) : Nat :=
  let quotient := num / den
  let remainder := num % den
  if 2 * remainder < den then quotient
  else if den < 2 * remainder then quotient + 1
  else quotient + quotient % 2

end SpriteStage
