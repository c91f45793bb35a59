import SpriteStage.Proofs.Geometry.Sign

/-!
# The order of doubles

Doubles that are numbers are totally ordered: each is at most itself, and of two that are not less
the other way round the first is at most the second. So whatever value is held between two limits
ends up between them (`clampBetween_within`), also one that is infinite or not a number.
-/

namespace SpriteStage

open Float.Model (UnpackedFloat)

theorem compare_swap (a b : UnpackedFloat) : b.compare a = (a.compare b).map Ordering.swap := by
  cases a with
  | notANumber => cases b <;> rfl
  | infinity s =>
    cases b with
    | infinity t => cases s <;> cases t <;> rfl
    | _ => cases s <;> rfl
  | zero s =>
    cases b with
    | infinity t => cases t <;> rfl
    | finite t => cases t <;> rfl
    | _ => rfl
  | finite s m e =>
    cases b with
    | notANumber => rfl
    | infinity t => cases t <;> rfl
    | zero t => cases s <;> rfl
    | finite t n f =>
      have turned : (compare f e).then (compare n m) = ((compare e f).then (compare m n)).swap := by
        rw [Ordering.swap_then, Int.compare_swap, Nat.compare_swap]
      cases s <;> cases t
      · exact congrArg (some ·.swap) turned
      · rfl
      · rfl
      · exact congrArg some turned

/-- Two numbers compare. -/
theorem exists_compare {a b : UnpackedFloat} (first : a.isNaN = false) (second : b.isNaN = false) :
    ∃ order, a.compare b = some order := by
  cases a with
  | notANumber => cases first
  | infinity s =>
    cases b with
    | notANumber => cases second
    | _ => cases s <;> exact ⟨_, rfl⟩
  | zero s =>
    cases b with
    | notANumber => cases second
    | infinity t => cases t <;> exact ⟨_, rfl⟩
    | finite t => cases t <;> exact ⟨_, rfl⟩
    | zero t => exact ⟨_, rfl⟩
  | finite s =>
    cases b with
    | notANumber => cases second
    | infinity t => cases t <;> exact ⟨_, rfl⟩
    | zero t => cases s <;> exact ⟨_, rfl⟩
    | finite t => cases s <;> cases t <;> exact ⟨_, rfl⟩

/-- Of two numbers the second is at most the first unless the first is less. -/
theorem float_le_of_not_lt {a b : Float} (first : a.isNaN = false) (second : b.isNaN = false)
    (notLess : ¬ a < b) : b ≤ a := by
  obtain ⟨order, compared⟩ := exists_compare (a := a.toModel.unpack) (b := b.toModel.unpack) first second
  rw [float_lt_iff] at notLess
  rw [float_le_iff]
  unfold UnpackedFloat.lt at notLess
  unfold UnpackedFloat.le
  rw [compare_swap, compared]
  rw [compared] at notLess
  cases order with
  | lt => exact absurd rfl notLess
  | eq => rfl
  | gt => rfl

theorem float_le_self {a : Float} (number : a.isNaN = false) : a ≤ a := by
  by_cases less : a < a
  · rw [float_lt_iff] at less
    rw [float_le_iff]
    unfold UnpackedFloat.lt at less
    unfold UnpackedFloat.le
    rw [eq_of_beq less]
    rfl
  · exact float_le_of_not_lt number number less

/-- What is held between two limits ends up between them. -/
theorem clampBetween_within {lo hi value held : Float} (clamped : clampBetween lo hi value = .ok held) :
    lo ≤ held ∧ held ≤ hi := by
  unfold clampBetween at clamped
  split at clamped
  · rename_i ordered
    obtain ⟨loNumber, hiNumber⟩ := isNaN_of_le ordered
    have number : (if value.isNaN then 0 else value).isNaN = false := by
      by_cases nan : value.isNaN
      · rw [if_pos nan]
        rfl
      · rw [if_neg nan]
        exact Bool.eq_false_iff.mpr nan
    dsimp only at clamped
    generalize (if value.isNaN then 0 else value) = value at clamped number
    by_cases below : value < lo
    · rw [if_pos below] at clamped
      cases clamped
      exact ⟨float_le_self loNumber, ordered⟩
    · rw [if_neg below] at clamped
      by_cases above : hi < value
      · rw [if_pos above] at clamped
        cases clamped
        exact ⟨ordered, float_le_self hiNumber⟩
      · rw [if_neg above] at clamped
        cases clamped
        exact ⟨float_le_of_not_lt number loNumber below, float_le_of_not_lt hiNumber number above⟩
  · cases clamped

namespace Bounds

variable {bounds : Bounds} {x y : Float}

theorem contains_iff : bounds.contains x y = true ↔
    (bounds.minX ≤ x ∧ x ≤ bounds.maxX) ∧ bounds.minY ≤ y ∧ y ≤ bounds.maxY := by
  simp [contains, and_assoc]

/-- A point inside has two numbers for coordinates. -/
theorem isNaN_of_contains (inside : bounds.contains x y = true) : x.isNaN = false ∧ y.isNaN = false := by
  obtain ⟨⟨fromLeft, -⟩, fromBelow, -⟩ := contains_iff.mp inside
  exact ⟨(isNaN_of_le fromLeft).2, (isNaN_of_le fromBelow).2⟩

end Bounds

end SpriteStage
