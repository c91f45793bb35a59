import SpriteStage.Decimal.Shortest

/-!
# Written forms of numbers

A `Notation` record holds the decisions of a number format. Two formats are in use: the one of
messages, which is positional throughout, and the one of documents, which always shows a point
or an exponent.
-/

namespace SpriteStage

structure NumberFormat where
  /-- Numbers whose leading digit has an exponent in `[plainFrom, plainBelow)` are positional. -/
  plainFrom : Int
  plainBelow : Int
  /-- Whether a positional integer ends in `.0`. -/
  pointZero : Bool
  tie : Tie
  notANumber : String
  infinity : String

/-- Numbers in messages are positional, whatever their size, and integers show no point. -/
def messageFormat : NumberFormat where
  plainFrom := -400
  plainBelow := 400
  pointZero := false
  tie := .up
  notANumber := "NaN"
  infinity := "inf"

/-- Numbers in documents are positional from 10^-5 up to 10^16 and show a point or an exponent. -/
def documentFormat : NumberFormat where
  plainFrom := -5
  plainBelow := 16
  pointZero := true
  tie := .toEven
  notANumber := "null"
  infinity := "null"

def zeros (count : Nat) : List Char := List.replicate count '0'

def exponentText (e : Int) : List Char :=
  (if e < 0 then '-' else '+') :: (toString e.natAbs).toList

namespace NumberFormat

/-- The text of a positive decimal or of zero. -/
def layout (format : NumberFormat) (d : Decimal) : List Char :=
  let digits := (toString d.digits).toList
  let lead : Int := d.exponent + digits.length - 1
  if format.plainFrom ≤ lead ∧ lead < format.plainBelow then
    if 0 ≤ d.exponent then
      digits ++ zeros d.exponent.toNat ++ (if format.pointZero then ['.', '0'] else [])
    else if 0 ≤ lead then
      digits.take (lead.toNat + 1) ++ '.' :: digits.drop (lead.toNat + 1)
    else
      '0' :: '.' :: (zeros (-lead - 1).toNat ++ digits)
  else
    match digits with
    | [] => []
    | [only] => only :: 'e' :: exponentText lead
    | first :: rest => first :: '.' :: (rest ++ 'e' :: exponentText lead)

def render (format : NumberFormat) (x : Float) : String :=
  match Binary.ofFloat? x with
  | some b =>
    String.ofList ((if b.negative then ['-'] else []) ++ format.layout (b.shortest format.tie))
  | none =>
    if x.isNaN then format.notANumber
    else if signBit x then "-" ++ format.infinity else format.infinity

end NumberFormat

end SpriteStage
