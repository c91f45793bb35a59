import SpriteStage.Config
import SpriteStage.Proofs.Geometry.Sign

/-!
# Valid configurations

What a configuration that passes validation is good for: its bounds are in order, so clamping to
them never breaks down (`bounds_ordered`), and its ticks are some time apart (`tickPeriod_pos`).
-/

namespace SpriteStage

/-- Both pairs of limits are in order. -/
structure Bounds.Ordered (bounds : Bounds) : Prop where
  horizontal : bounds.minX ≤ bounds.maxX
  vertical : bounds.minY ≤ bounds.maxY

theorem clampBetween_ok {lo hi : Float} (ordered : lo ≤ hi) (value : Float) :
    ∃ held, clampBetween lo hi value = .ok held := by
  unfold clampBetween
  rw [if_pos ordered]
  exact ⟨_, rfl⟩

namespace Bounds

variable {bounds : Bounds}

theorem Ordered.clampX (ordered : bounds.Ordered) (x : Float) :
    ∃ held, bounds.clampX x = .ok held := clampBetween_ok ordered.horizontal x

theorem Ordered.clampY (ordered : bounds.Ordered) (y : Float) :
    ∃ held, bounds.clampY y = .ok held := clampBetween_ok ordered.vertical y

theorem Ordered.clamp (ordered : bounds.Ordered) (x y : Float) :
    ∃ held, bounds.clamp x y = .ok held := by
  obtain ⟨heldX, xIs⟩ := ordered.clampX x
  obtain ⟨heldY, yIs⟩ := ordered.clampY y
  exact ⟨(heldX, heldY), by rw [Bounds.clamp, xIs, yIs]; rfl⟩

end Bounds

namespace Config

/-- The checks a configuration passes. -/
structure Valid (config : Config) : Prop where
  positive : ∀ dimension, config.isPositive dimension = true
  widthFits : ¬ config.stageWidth < config.spriteWidth
  heightFits : ¬ config.stageHeight < config.spriteHeight
  distance : config.collisionDistance.isFinite = true ∧ ¬ config.collisionDistance < 0
  period : config.tickPeriodMs ≠ 0

theorem valid_of_validate {config : Config} (passes : config.validate = .ok ()) : config.Valid := by
  unfold validate at passes
  split at passes
  · cases passes
  · rename_i none
    have positive (dimension : Dimension) : config.isPositive dimension = true := by
      simpa using List.find?_eq_none.mp none dimension (Dimension.mem_all dimension)
    split at passes
    · cases passes
    · rename_i fits
      split at passes
      · cases passes
      · rename_i distance
        split at passes
        · cases passes
        · rename_i period
          exact ⟨positive, fun less => fits (.inl less), fun less => fits (.inr less),
            by simpa using distance, period⟩

theorem isPositive_iff {config : Config} {dimension : Dimension} :
    config.isPositive dimension = true ↔
      (dimension.value config).isFinite = true ∧ ¬ dimension.value config ≤ 0 := by
  simp [isPositive]

theorem Valid.bounds_ordered {config : Config} (valid : config.Valid) : config.bounds.Ordered := by
  obtain ⟨stageWidth, stageWidthPos⟩ := isPositive_iff.mp (valid.positive .stageWidth)
  obtain ⟨stageHeight, stageHeightPos⟩ := isPositive_iff.mp (valid.positive .stageHeight)
  obtain ⟨spriteWidth, spriteWidthPos⟩ := isPositive_iff.mp (valid.positive .spriteWidth)
  obtain ⟨spriteHeight, spriteHeightPos⟩ := isPositive_iff.mp (valid.positive .spriteHeight)
  constructor
  · exact neg_le_self
      (half_sub_sign stageWidth stageWidthPos spriteWidth spriteWidthPos valid.widthFits)
  · exact neg_le_self
      (half_sub_sign stageHeight stageHeightPos spriteHeight spriteHeightPos valid.heightFits)

theorem Valid.tickPeriod_pos {config : Config} (valid : config.Valid) :
    0 < config.tickPeriod.nanos := by
  have nonzero : config.tickPeriodMs.toNat ≠ 0 := by
    intro zero
    exact valid.period (UInt64.toNat_inj.mp zero)
  show 0 < config.tickPeriodMs.toNat * 1000000
  omega

end Config

end SpriteStage
