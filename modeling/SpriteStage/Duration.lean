/-!
# Spans of virtual time

A `Duration` is a span of time, or an instant counted from the start of the clock, in whole
nanoseconds. It carries the proof that it fits the clock, so sums are either refused (`add?`) or
held at the end of the clock (`saturatingAdd`).
-/

namespace SpriteStage

/-- The largest span: 2^64 - 1 seconds and 999999999 nanoseconds. -/
def maxNanos : Nat := 18446744073709551615999999999

/-- A span of time, or an instant counted from the start of the clock. -/
@[ext] structure Duration where
  nanos : Nat
  nanos_le : nanos ≤ maxNanos
deriving DecidableEq

namespace Duration

instance : LE Duration := ⟨fun a b => a.nanos ≤ b.nanos⟩
instance : LT Duration := ⟨fun a b => a.nanos < b.nanos⟩

theorem le_def {a b : Duration} : a ≤ b ↔ a.nanos ≤ b.nanos := Iff.rfl
theorem lt_def {a b : Duration} : a < b ↔ a.nanos < b.nanos := Iff.rfl

instance (a b : Duration) : Decidable (a ≤ b) := decidable_of_iff _ le_def.symm
instance (a b : Duration) : Decidable (a < b) := decidable_of_iff _ lt_def.symm

/-- The empty span, and the start of the clock. -/
def zero : Duration := ⟨0, Nat.zero_le _⟩

def last : Duration := ⟨maxNanos, Nat.le_refl _⟩

instance : Inhabited Duration := ⟨zero⟩

/-- A count of nanoseconds, if it fits the clock. -/
def ofNanos? (n : Nat) : Option Duration :=
  if h : n ≤ maxNanos then some ⟨n, h⟩ else none

/-- A 64-bit count of milliseconds always fits the clock. -/
def ofMillis (ms : UInt64) : Duration :=
  ⟨ms.toNat * 1000000, by have := ms.toNat_lt; unfold maxNanos; omega⟩

/-- A 64-bit count of seconds always fits the clock. -/
def ofSeconds (seconds : UInt64) : Duration :=
  ⟨seconds.toNat * 1000000000, by have := seconds.toNat_lt; unfold maxNanos; omega⟩

def millis (d : Duration) : Nat := d.nanos / 1000000

/-- The sum, unless it lies past the end of the clock. -/
def add? (a b : Duration) : Option Duration := ofNanos? (a.nanos + b.nanos)

/-- The sum, held at the end of the clock. -/
def saturatingAdd (a b : Duration) : Duration :=
  ⟨min (a.nanos + b.nanos) maxNanos, Nat.min_le_right _ _⟩

def later (a b : Duration) : Duration := if a ≤ b then b else a

theorem le_refl (a : Duration) : a ≤ a := Nat.le_refl _

theorem le_trans {a b c : Duration} (ab : a ≤ b) (bc : b ≤ c) : a ≤ c := Nat.le_trans ab bc

theorem le_of_lt {a b : Duration} (h : a < b) : a ≤ b := Nat.le_of_lt h

theorem lt_of_not_le {a b : Duration} (h : ¬ a ≤ b) : b < a := Nat.lt_of_not_le h

theorem not_le_of_lt {a b : Duration} (h : a < b) : ¬ b ≤ a := Nat.not_le_of_lt h

theorem le_saturatingAdd (now elapsed : Duration) : now ≤ now.saturatingAdd elapsed :=
  Nat.le_min.mpr ⟨Nat.le_add_right _ _, now.nanos_le⟩

theorem add?_eq_some_iff {a b c : Duration} : a.add? b = some c ↔ c.nanos = a.nanos + b.nanos := by
  simp only [add?, ofNanos?, Duration.ext_iff, Option.dite_none_right_eq_some, Option.some.injEq]
  exact ⟨fun ⟨_, h⟩ => h.symm, fun h => ⟨h ▸ c.nanos_le, h.symm⟩⟩

theorem add?_eq_none_iff {a b : Duration} : a.add? b = none ↔ maxNanos < a.nanos + b.nanos := by
  simp [add?, ofNanos?]

end Duration

end SpriteStage
