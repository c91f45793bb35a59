import SpriteStage.Decimal.Binary
import SpriteStage.Duration

/-!
# Seconds as a span of time

A double counts seconds exactly; the span is that count in nanoseconds, rounded to the nearest
one.
-/

namespace SpriteStage

/-- The span of this many seconds: the exact number of nanoseconds rounded to the nearest integer,
ties to even. Negative counts, counts past the clock and non-numbers have none. -/
def Duration.ofSeconds? (seconds : Float) : Option Duration :=
  match Binary.ofFloat? seconds with
  | none => none
  | some b =>
    if b.negative && b.mantissa != 0 then none
    else Duration.ofNanos?
      (roundQuotient ((b.mantissa * 1000000000) <<< b.exponent.toNat) (1 <<< (-b.exponent).toNat))

end SpriteStage
