import SpriteStage.Decimal.Notation
import SpriteStage.Duration
import SpriteStage.Geometry.Bounds
import SpriteStage.Motion

/-!
# Configuration

The dimensions of a stage, the distance of collisions, the period of ticks and the kind of motion.
`Config.validate` refuses what clamping and ticking could not work with; the first problem in a
fixed order is reported.
-/

namespace SpriteStage

/-- The configuration of a stage; the defaults are the usual stage. -/
structure Config where
  stageWidth : Float := 480
  stageHeight : Float := 360
  spriteWidth : Float := 80
  spriteHeight : Float := 80
  /-- Centres closer than this collide. -/
  collisionDistance : Float := 40
  tickPeriodMs : UInt64 := 500
  motion : Motion := .horizontal (some 0)

/-- The dimensions that have to be positive. -/
inductive Dimension where
  | stageWidth
  | stageHeight
  | spriteWidth
  | spriteHeight
deriving DecidableEq, Repr

namespace Dimension

/-- Every dimension, in the order in which they are checked. -/
def all : List Dimension := [.stageWidth, .stageHeight, .spriteWidth, .spriteHeight]

/-- The name of a dimension in documents and messages. -/
def name : Dimension → String
  | .stageWidth => "stage_width"
  | .stageHeight => "stage_height"
  | .spriteWidth => "sprite_width"
  | .spriteHeight => "sprite_height"

def value (config : Config) : Dimension → Float
  | .stageWidth => config.stageWidth
  | .stageHeight => config.stageHeight
  | .spriteWidth => config.spriteWidth
  | .spriteHeight => config.spriteHeight

theorem mem_all (dimension : Dimension) : dimension ∈ all := by cases dimension <;> decide

end Dimension

inductive ConfigError where
  | unreadable
  /-- The text is no document of a configuration. -/
  | malformed
  | notPositive (dimension : Dimension) (value : Float)
  | spriteTooLarge
  | negativeDistance (value : Float)
  | zeroPeriod

namespace ConfigError

def invalid (detail : String) : String := "invalid config: " ++ detail

def message : ConfigError → String
  | .unreadable => "the configuration could not be read"
  | .malformed => "the configuration is malformed"
  | .notPositive dimension value =>
    invalid (dimension.name ++ " must be positive, got " ++ messageFormat.render value)
  | .spriteTooLarge => invalid "sprite is larger than the stage"
  | .negativeDistance value =>
    invalid ("collision_distance must be non-negative, got " ++ messageFormat.render value)
  | .zeroPeriod => invalid "tick_period_ms must be at least 1"

end ConfigError

namespace Config

def isPositive (config : Config) (dimension : Dimension) : Bool :=
  (dimension.value config).isFinite && !decide (dimension.value config ≤ 0)

/-- Refuses a configuration with its first problem: a dimension that is not positive, a sprite
larger than the stage, a negative collision distance, no time between ticks. -/
def validate (config : Config) : Except ConfigError Unit :=
  match Dimension.all.find? fun dimension => !config.isPositive dimension with
  | some dimension => .error (.notPositive dimension (dimension.value config))
  | none =>
    if config.stageWidth < config.spriteWidth ∨ config.stageHeight < config.spriteHeight then
      .error .spriteTooLarge
    else if !config.collisionDistance.isFinite ∨ config.collisionDistance < 0 then
      .error (.negativeDistance config.collisionDistance)
    else if config.tickPeriodMs = 0 then .error .zeroPeriod
    else .ok ()

def bounds (config : Config) : Bounds :=
  Bounds.around config.stageWidth config.stageHeight config.spriteWidth config.spriteHeight

def tickPeriod (config : Config) : Duration := Duration.ofMillis config.tickPeriodMs

end Config

end SpriteStage
