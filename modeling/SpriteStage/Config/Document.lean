import SpriteStage.Config
import SpriteStage.Json.Numeral
import SpriteStage.Json.Reader

/-!
# Configurations as documents

A configuration is written as an object and read from an object or from an array of its fields in
order. A field that is missing has its default. A known field may occur once; unknown fields are
passed over. Only the motion is an object with a tag of its own, and everything in it has to be
readable, whether it is used or not.
-/

namespace SpriteStage

namespace Motion

def toJson : Motion → Json
  | .horizontal floor => .record
    [("mode", .ofString "horizontal"), ("floor_y", (floor.map Json.ofFloat).getD .null)]
  | .heading => .record [("mode", .ofString "heading")]

end Motion

/-- The fields of a configuration in documents, in order. -/
def Config.fieldNames : List String :=
  Dimension.all.map Dimension.name ++ ["collision_distance", "tick_period_ms", "motion"]

def Config.toJson (config : Config) : Json :=
  .record (Config.fieldNames.zip
    [.ofFloat config.stageWidth, .ofFloat config.stageHeight, .ofFloat config.spriteWidth,
      .ofFloat config.spriteHeight, .ofFloat config.collisionDistance,
      .ofInt config.tickPeriodMs.toNat, config.motion.toJson])

namespace Json

def double? : Json → Option Float
  | .number written => do (← Numeral.ofChars? written.toList).double?
  | _ => none

def natural? : Json → Option UInt64
  | .number written => do (← Numeral.ofChars? written.toList).natural?
  | _ => none

def string? : Json → Option String
  | .text written => decodeText? written.toList
  | _ => none

def optionalDouble? : Json → Option (Option Float)
  | .null => some none
  | json => json.double?.map some

/-- Whether all numbers and texts of a document can be read and it is nested at most `depth`
deep. -/
def isReadable : Nat → Json → Bool
  | _, .null => true
  | _, .bool _ => true
  | _, .number written => ((Numeral.ofChars? written.toList).bind Numeral.double?).isSome
  | _, .text written => (decodeText? written.toList).isSome
  | 0, .array _ => false
  | 0, .object _ => false
  | depth + 1, .array items => items.all (isReadable depth)
  | depth + 1, .object fields =>
    fields.all fun (key, value) => (decodeText? key.toList).isSome && isReadable depth value

/-- The fields of an object with their keys read. -/
def fieldsByName? (fields : List (String × Json)) : Option (List (String × Json)) :=
  fields.mapM fun (key, value) => do return (← decodeText? key.toList, value)

end Json

/-- The value of a field that may occur once: nothing if it is missing, a failure if it occurs
more often. -/
def uniqueField? (fields : List (String × Json)) (name : String) : Option (Option Json) :=
  match fields.filter (·.1 == name) with
  | [] => some none
  | [(_, value)] => some (some value)
  | _ => none

/-- How deep arrays and objects may be nested in a configuration. -/
def maxDepth : Nat := 127

/-- Reads a motion: an object with a mode, or an array that starts with one. -/
def Motion.ofJson? (json : Json) : Option Motion := do
  guard (json.isReadable (maxDepth - 1))
  match json with
  | .object fields =>
    let fields ← Json.fieldsByName? fields
    let mode ← (← uniqueField? fields "mode") >>= Json.string?
    match mode with
    | "heading" => return .heading
    | "horizontal" =>
      match ← uniqueField? fields "floor_y" with
      | none => return .horizontal none
      | some floor => return .horizontal (← floor.optionalDouble?)
    | _ => none
  | .array (mode :: rest) =>
    match ← mode.string?, rest with
    | "heading", [] => return .heading
    | "horizontal", [floor] => return .horizontal (← floor.optionalDouble?)
    | _, _ => none
  | _ => none

namespace Config

/-- The values given for the fields, in order; a missing one is nothing. -/
def slots? : Json → Option (List (Option Json))
  | .object fields => do
    let fields ← Json.fieldsByName? fields
    fieldNames.mapM (uniqueField? fields)
  | .array items =>
    if items.length ≤ fieldNames.length then
      some (items.map some ++ List.replicate (fieldNames.length - items.length) none)
    else none
  | _ => none

def readSlot {α : Type} (read : Json → Option α) (default : α) : Option Json → Option α
  | none => some default
  | some json => read json

def ofJson? (json : Json) : Option Config := do
  let usual : Config := {}
  match ← slots? json with
  | [stageWidth, stageHeight, spriteWidth, spriteHeight, distance, period, motion] =>
    return {
      stageWidth := ← readSlot Json.double? usual.stageWidth stageWidth
      stageHeight := ← readSlot Json.double? usual.stageHeight stageHeight
      spriteWidth := ← readSlot Json.double? usual.spriteWidth spriteWidth
      spriteHeight := ← readSlot Json.double? usual.spriteHeight spriteHeight
      collisionDistance := ← readSlot Json.double? usual.collisionDistance distance
      tickPeriodMs := ← readSlot Json.natural? usual.tickPeriodMs period
      motion := ← readSlot Motion.ofJson? usual.motion motion }
  | _ => none

/-- Reads and checks a configuration file, given its bytes if there is such a file. -/
def load (contents : Option ByteArray) : Except ConfigError Config := do
  let some text := contents.bind String.fromUTF8? | throw .unreadable
  let some config := (Json.read? text).bind ofJson? | throw .malformed
  config.validate
  return config

end Config

end SpriteStage
