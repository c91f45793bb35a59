import Mathlib.Algebra.Group.Nat.Defs
import SpriteStage.Geometry.Bounds

/-!
# Signs of doubles

Rounding never changes a sign, so the sign of a result is known without its value. Half of a
difference that is not negative is not negative, and such a value is not below its own negation
(`neg_le_self`, `half_sub_sign`). This is all the arithmetic that the order of the stage's limits
rests on.
-/

namespace SpriteStage

open Float.Model (Format UnpackedFloat)
open Float.Model.UnpackedFloat (Sign Accuracy packComponents unpackSign unpackMantissa unpackExponent)

/-- The sign of an unpacked double; what is not a number has none. -/
def signOf? : UnpackedFloat → Option Sign
  | .notANumber => none
  | .infinity sign | .zero sign | .finite sign .. => some sign

/-- The sign of a double. -/
def floatSign? (x : Float) : Option Sign := signOf? x.toModel.unpack

theorem float_le_iff {a b : Float} : a ≤ b ↔ a.toModel.unpack.le b.toModel.unpack = true := by
  show decide (a.toModel.unpack.le b.toModel.unpack = true) = true ↔ _
  rw [decide_eq_true_iff]

theorem float_lt_iff {a b : Float} : a < b ↔ a.toModel.unpack.lt b.toModel.unpack = true := by
  show decide (a.toModel.unpack.lt b.toModel.unpack = true) = true ↔ _
  rw [decide_eq_true_iff]

/-! ### Packing keeps the sign -/

private theorem unpackSign_packComponents {spec : Format} {sign : Sign}
    {exponent : BitVec spec.exponentBits} {mantissa : BitVec spec.mantissaBitsWithoutImplicit} :
    unpackSign (packComponents spec sign exponent mantissa) = sign.toBitVec := by
  ext bit inside
  have only : bit = 0 := Nat.lt_one_iff.mp inside
  delta unpackSign
  simp [packComponents, only, BitVec.getLsbD_append, BitVec.getElem_append]

private theorem ofBitVec_toBitVec (sign : Sign) : Sign.ofBitVec sign.toBitVec = sign := by
  cases sign <;> rfl

/-- What is unpacked has the sign of the bits, unless it is not a number. -/
private theorem signOf?_unpack {spec : Format} (bits : BitVec spec.numBits)
    (number : unpackExponent bits = -1#_ → unpackMantissa bits = 0#_) :
    signOf? (UnpackedFloat.unpack spec bits) = some (Sign.ofBitVec (unpackSign bits)) := by
  unfold UnpackedFloat.unpack
  by_cases top : unpackExponent bits = -1#_
  · rw [if_pos top, if_pos (number top)]
    rfl
  · rw [if_neg top]
    by_cases bottom : unpackExponent bits = 0#_
    · rw [if_pos bottom]
      by_cases none : unpackMantissa bits = 0#_
      · rw [dif_pos none]
        rfl
      · rw [dif_neg none]
        rfl
    · rw [if_neg bottom]
      rfl

private theorem signOf?_unpack_packComponents {spec : Format} (sign : Sign)
    (exponent : BitVec spec.exponentBits) (mantissa : BitVec spec.mantissaBitsWithoutImplicit)
    (number : exponent = -1#_ → mantissa = 0#_) :
    signOf? (UnpackedFloat.unpack spec (packComponents spec sign exponent mantissa)) = some sign := by
  rw [signOf?_unpack, unpackSign_packComponents, ofBitVec_toBitVec]
  rw [UnpackedFloat.unpackMantissa_packComponents, UnpackedFloat.unpackExponent_packComponents]
  exact number

/-- Packing may round to infinity or lose bits of the mantissa, but the sign stays. -/
theorem signOf?_unpack_pack (f : UnpackedFloat) :
    signOf? (Float.Model.pack f).unpack = signOf? f := by
  show signOf? (UnpackedFloat.unpack .binary64 (UnpackedFloat.pack .binary64 f)) = signOf? f
  fun_cases UnpackedFloat.pack with
  | case1 => rfl
  | case2 sign => exact signOf?_unpack_packComponents sign _ _ fun _ => rfl
  | case3 sign => exact signOf?_unpack_packComponents sign _ _ fun _ => rfl
  | case4 sign => exact signOf?_unpack_packComponents sign _ _ fun _ => rfl
  | case5 sign m e positive bits biased small normal =>
    refine signOf?_unpack_packComponents sign _ _ fun top => ?_
    have below : biased + 1 < 2 ^ 11 := Nat.lt_of_not_le small
    have value := congrArg BitVec.toNat top
    rw [BitVec.toNat_ofNat, Nat.mod_eq_of_lt (show biased < 2 ^ 11 by omega)] at value
    simp at value
    omega
  | case6 sign m e positive bits biased small subnormal =>
    refine signOf?_unpack_packComponents sign _ _ fun top => ?_
    exact absurd top (by decide)

/-! ### Order from signs -/

/-- What is negative, a negative zero included, is not above what is positive. -/
theorem le_of_signs {a b : UnpackedFloat} (below : signOf? a = some .negative)
    (above : signOf? b = some .positive) : a.le b = true := by
  cases a <;> cases b <;> cases below <;> cases above <;> rfl

theorem signOf?_neg {f : UnpackedFloat} {sign : Sign} (has : signOf? f = some sign) :
    signOf? f.neg = some (-sign) := by
  cases f with
  | notANumber => cases has
  | _ => cases has; rfl

theorem neg_le_self {x : Float} (positive : floatSign? x = some .positive) : -x ≤ x := by
  rw [float_le_iff]
  apply le_of_signs _ positive
  show signOf? (Float.Model.pack x.toModel.unpack.neg).unpack = _
  rw [signOf?_unpack_pack]
  exact signOf?_neg positive

/-- What is not a number is neither below nor above anything. -/
theorem isNaN_of_le {a b : Float} (le : a ≤ b) : a.isNaN = false ∧ b.isNaN = false := by
  rw [float_le_iff] at le
  change a.toModel.unpack.isNaN = false ∧ b.toModel.unpack.isNaN = false
  cases first : a.toModel.unpack with
  | notANumber =>
    rw [first] at le
    cases le
  | _ =>
    refine ⟨rfl, ?_⟩
    cases second : b.toModel.unpack with
    | notANumber =>
      rw [first, second] at le
      cases le
    | _ => rfl

/-! ### Half a difference -/

private theorem signOf?_zero_or_finite {zero : Prop} [Decidable zero] (sign : Sign) (mantissa : Nat)
    (exponent : Int) (positive : ¬ zero → 0 < mantissa) :
    signOf? (if h : zero then .zero sign else .finite sign mantissa exponent (positive h)) =
      some sign := by
  by_cases h : zero
  · rw [dif_pos h]
    rfl
  · rw [dif_neg h]
    rfl

theorem signOf?_roundWithAccuracy (spec : Format) (sign : Sign) (mantissa : Nat) (exponent : Int)
    (accuracy : Accuracy) :
    signOf? (UnpackedFloat.roundWithAccuracy spec sign mantissa exponent accuracy) = some sign := by
  unfold UnpackedFloat.roundWithAccuracy
  exact signOf?_zero_or_finite ..

theorem signOf?_normalize {spec : Format} {mantissa : Int} (exponent : Int)
    (nonneg : 0 ≤ mantissa) :
    signOf? (UnpackedFloat.normalize spec mantissa exponent .positive) = some .positive := by
  unfold UnpackedFloat.normalize
  split
  · rename_i below
    have := Int.compare_eq_lt.mp below
    omega
  · rfl
  · exact signOf?_roundWithAccuracy ..

/-- An unpacked mantissa has at most 53 bits, and exactly that many above the least exponent. -/
theorem unpack_canonical {bits : BitVec 64} {sign : Sign} {mantissa : Nat} {exponent : Int}
    {positive : 0 < mantissa}
    (is : UnpackedFloat.unpack .binary64 bits = .finite sign mantissa exponent positive) :
    mantissa < 2 ^ 53 ∧ -1074 ≤ exponent ∧ (-1074 < exponent → 2 ^ 52 ≤ mantissa) := by
  have small := (@unpackMantissa .binary64 bits).isLt
  have bias : (Format.binary64.exponentBias : Int) +
      Format.binary64.mantissaBitsWithoutImplicit = 1075 := rfl
  unfold UnpackedFloat.unpack at is
  dsimp only at is
  by_cases top : @unpackExponent .binary64 bits = -1#_
  · rw [if_pos top] at is
    by_cases none : @unpackMantissa .binary64 bits = 0#_
    · rw [if_pos none] at is
      cases is
    · rw [if_neg none] at is
      cases is
  · rw [if_neg top] at is
    by_cases bottom : @unpackExponent .binary64 bits = 0#_
    · rw [if_pos bottom] at is
      by_cases none : @unpackMantissa .binary64 bits = 0#_
      · rw [dif_pos none] at is
        cases is
      · rw [dif_neg none] at is
        cases is
        rw [bottom, bias]
        simp at small ⊢
        omega
    · rw [if_neg bottom] at is
      cases is
      have large : 0 < (@unpackExponent .binary64 bits).toNat := by
        rw [BitVec.toNat_pos, BitVec.pos_iff_ne_zero]
        exact bottom
      rw [BitVec.toNat_append, ← Nat.shiftLeft_add_eq_or_of_lt small, bias]
      simp [Nat.shiftLeft_eq] at small ⊢
      omega

/-- Of two positive doubles, one that is not less has the larger exponent, or the same exponent and
no smaller mantissa. -/
theorem exponent_order {m n : Nat} {e f : Int} {hm : 0 < m} {hn : 0 < n}
    (notLess : UnpackedFloat.lt (.finite .positive m e hm) (.finite .positive n f hn) = false) :
    f < e ∨ f = e ∧ n ≤ m := by
  change (some ((compare e f).then (compare m n)) == some Ordering.lt) = false at notLess
  rcases Int.lt_trichotomy e f with below | same | above
  · simp [Int.compare_eq_lt.mpr below, Ordering.then] at notLess
  · subst same
    rcases Nat.lt_or_ge m n with less | atLeast
    · simp [Nat.compare_eq_lt.mpr less, Ordering.then] at notLess
    · exact .inr ⟨rfl, atLeast⟩
  · exact .inl above

/-- A difference that is not negative has a positive sign. -/
theorem signOf?_sub {x y : BitVec 64} {m n : Nat} {e f : Int} {hm : 0 < m} {hn : 0 < n}
    (xIs : UnpackedFloat.unpack .binary64 x = .finite .positive m e hm)
    (yIs : UnpackedFloat.unpack .binary64 y = .finite .positive n f hn)
    (notLess : UnpackedFloat.lt (.finite .positive m e hm) (.finite .positive n f hn) = false) :
    signOf? (UnpackedFloat.sub .binary64 (.finite .positive m e hm) (.finite .positive n f hn)) =
      some .positive := by
  obtain ⟨-, -, full⟩ := unpack_canonical xIs
  obtain ⟨bounded, least, -⟩ := unpack_canonical yIs
  apply signOf?_normalize
  simp only [Sign.apply]
  rcases exponent_order notLess with above | ⟨rfl, atLeast⟩
  · -- The larger exponent shifts a full mantissa past every mantissa.
    have nearest : min e f = f := by omega
    have full := full (by omega)
    have shifted : m * 2 ≤ m <<< (e - f).toNat := by
      rw [Nat.shiftLeft_eq]
      exact Nat.mul_le_mul_left m (Nat.le_self_pow (by omega) 2)
    simp only [nearest, Int.sub_self, Int.toNat_zero, Nat.shiftLeft_zero]
    omega
  · simp only [Int.min_self, Int.sub_self, Int.toNat_zero, Nat.shiftLeft_zero]
    omega

theorem signOf?_div {f : UnpackedFloat} {m : Nat} {e : Int} {hm : 0 < m}
    (positive : signOf? f = some .positive) :
    signOf? (UnpackedFloat.div .binary64 f (.finite .positive m e hm)) = some .positive := by
  cases f with
  | notANumber => cases positive
  | infinity sign => cases positive; rfl
  | zero sign => cases positive; rfl
  | finite sign m e h => cases positive; exact signOf?_roundWithAccuracy ..

private theorem unpack_two :
    (2 : Float).toModel.unpack = .finite .positive (2 ^ 52) (-51) (by decide) := rfl

private theorem unpack_zero : (0 : Float).toModel.unpack = .zero .positive := rfl

/-- A finite double that is not at most zero is positive. -/
theorem unpack_of_positive {x : Float} (finite : x.isFinite = true) (above : ¬ x ≤ 0) :
    ∃ m e hm, x.toModel.unpack = .finite .positive m e hm := by
  rw [float_le_iff, unpack_zero] at above
  change x.toModel.unpack.isFinite = true at finite
  cases unpacked : x.toModel.unpack with
  | notANumber => rw [unpacked] at finite; cases finite
  | infinity sign => rw [unpacked] at finite; cases finite
  | zero sign => rw [unpacked] at above; exact absurd rfl above
  | finite sign m e hm =>
    cases sign with
    | positive => exact ⟨m, e, hm, rfl⟩
    | negative => rw [unpacked] at above; exact absurd rfl above

/-- Half the difference of two positive finite doubles, the first not below the second. -/
theorem half_sub_sign {a b : Float} (finiteA : a.isFinite = true) (aboveA : ¬ a ≤ 0)
    (finiteB : b.isFinite = true) (aboveB : ¬ b ≤ 0) (notLess : ¬ a < b) :
    floatSign? ((a - b) / 2) = some .positive := by
  obtain ⟨m, e, hm, aIs⟩ := unpack_of_positive finiteA aboveA
  obtain ⟨n, f, hn, bIs⟩ := unpack_of_positive finiteB aboveB
  have order : UnpackedFloat.lt (.finite .positive m e hm) (.finite .positive n f hn) = false := by
    rw [float_lt_iff, aIs, bIs] at notLess
    exact Bool.eq_false_iff.mpr notLess
  have difference : signOf? (a - b).toModel.unpack = some .positive := by
    show signOf? (Float.Model.pack (UnpackedFloat.sub .binary64 a.toModel.unpack
      b.toModel.unpack)).unpack = _
    rw [signOf?_unpack_pack, aIs, bIs]
    exact signOf?_sub aIs bIs order
  show signOf? (Float.Model.pack (UnpackedFloat.div .binary64 (a - b).toModel.unpack
    (2 : Float).toModel.unpack)).unpack = _
  rw [signOf?_unpack_pack, unpack_two]
  exact signOf?_div difference

end SpriteStage
