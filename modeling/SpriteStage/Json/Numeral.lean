import SpriteStage.Decimal.Binary

/-!
# Numerals

The grammar of written numbers, and the number a numeral stands for. A numeral without point and
exponent that fits 64 bits is read exactly. Any other gathers its digits in a 64-bit significand,
which is then scaled by a power of ten in double arithmetic.
-/

namespace SpriteStage

/-- A written number, taken apart. -/
structure Numeral where
  negative : Bool
  whole : List Char
  /-- Digits behind the point; none if there is no point. -/
  fraction : List Char
  exponent : Option Int
deriving DecidableEq

def digitsValue (digits : List Char) : Nat :=
  digits.foldl (fun value digit => value * 10 + (digit.toNat - '0'.toNat)) 0

/-- An exponent: an optional sign and at least one digit. -/
def exponentValue? (chars : List Char) : Option Int :=
  let (negative, digits) := match chars with
    | '-' :: rest => (true, rest)
    | '+' :: rest => (false, rest)
    | _ => (false, chars)
  if digits ≠ [] ∧ digits.all Char.isDigit then
    some (if negative then -(digitsValue digits : Int) else digitsValue digits)
  else none

namespace Numeral

/-- Takes a written number apart. No sign but a minus, no zero in front of another digit, at least
one digit on either side of a point. -/
def ofChars? (chars : List Char) : Option Numeral := do
  let (negative, chars) := match chars with
    | '-' :: rest => (true, rest)
    | _ => (false, chars)
  let (whole, chars) := chars.span Char.isDigit
  guard (whole ≠ [] ∧ (whole.head? ≠ some '0' ∨ whole.length = 1))
  let (fraction, chars) ← match chars with
    | '.' :: rest =>
      let (fraction, rest) := rest.span Char.isDigit
      if fraction = [] then none else some (fraction, rest)
    | _ => some ([], chars)
  match chars with
  | [] => return ⟨negative, whole, fraction, none⟩
  | mark :: rest =>
    guard (mark = 'e' ∨ mark = 'E')
    return ⟨negative, whole, fraction, some (← exponentValue? rest)⟩

def isPlain (n : Numeral) : Bool := n.fraction.isEmpty && n.exponent.isNone

/-- The natural number of a plain numeral without sign, if it fits 64 bits. -/
def natural? (n : Numeral) : Option UInt64 :=
  let value := digitsValue n.whole
  if n.isPlain && !n.negative && value < UInt64.size then some (UInt64.ofNat value) else none

/-- Gathers digits into a significand as long as it fits 64 bits; what is left over is returned. -/
def gather (significand : Nat) : List Char → Nat × List Char
  | [] => (significand, [])
  | digit :: rest =>
    let next := significand * 10 + (digit.toNat - '0'.toNat)
    if next < UInt64.size then gather next rest else (significand, digit :: rest)

/-- Multiplies by a power of ten, in steps that a double can hold; none when the product is too
large for a double. -/
def scale (x : Float) (exponent : Int) : Option Float :=
  if exponent.natAbs ≤ 308 then
    let power := Float.ofScientific 1 false exponent.natAbs
    if 0 ≤ exponent then
      if (x * power).isInf then none else some (x * power)
    else some (x / power)
  else if x == 0 then some x
  else if h : 0 ≤ exponent then none
  else scale (x / 1e308) (exponent + 308)
termination_by exponent.natAbs
decreasing_by omega

/-- The double a numeral stands for; none if it is too large. -/
def double? (n : Numeral) : Option Float := do
  let value := digitsValue n.whole
  let magnitude ←
    if n.isPlain ∧ value < UInt64.size then some (Float.ofNat value)
    else
      let (significand, dropped) := gather 0 n.whole
      let (significand, ignored) := gather significand n.fraction
      let kept := n.fraction.length - ignored.length
      scale (Float.ofNat significand) (n.exponent.getD 0 + dropped.length - kept)
  return if n.negative then -magnitude else magnitude

end Numeral

end SpriteStage
