import SpriteStage.Json
import SpriteStage.Json.Token

/-!
# Reading documents

The reader takes one token at a time and keeps the arrays and objects around the current place on
a stack, so documents may be nested to any depth.
-/

namespace SpriteStage

/-- An array or object around the current place. Items and fields are held in reverse. -/
inductive Frame where
  | array (items : List Json)
  | object (fields : List (String × Json)) (key : String)

/-- What is expected next. -/
inductive Reader where
  | atValue (stack : List Frame)
  /-- The first item of an array, or its end. -/
  | atFirstItem (stack : List Frame)
  /-- A key, or, if it is the first, the end of the object. -/
  | atKey (stack : List Frame) (fields : List (String × Json)) (isFirst : Bool)
  | atColon (stack : List Frame) (fields : List (String × Json)) (key : String)
  | afterItem (stack : List Frame) (items : List Json)
  | afterField (stack : List Frame) (fields : List (String × Json))
  | done (json : Json)

namespace Reader

def place (json : Json) : List Frame → Reader
  | [] => .done json
  | .array items :: stack => .afterItem stack (json :: items)
  | .object fields key :: stack => .afterField stack ((key, json) :: fields)

def beginValue (stack : List Frame) : Token → Option Reader
  | .openArray => some (.atFirstItem stack)
  | .openObject => some (.atKey stack [] true)
  | .null => some (place .null stack)
  | .bool value => some (place (.bool value) stack)
  | .number written => some (place (.number written) stack)
  | .text written => some (place (.text written) stack)
  | _ => none

def step : Reader → Token → Option Reader
  | .atValue stack, token => beginValue stack token
  | .atFirstItem stack, .closeArray => some (place (.array []) stack)
  | .atFirstItem stack, token => beginValue (.array [] :: stack) token
  | .atKey stack fields true, .closeObject => some (place (.object fields.reverse) stack)
  | .atKey stack fields _, .text written => some (.atColon stack fields written)
  | .atColon stack fields key, .colon => some (.atValue (.object fields key :: stack))
  | .afterItem stack items, .comma => some (.atValue (.array items :: stack))
  | .afterItem stack items, .closeArray => some (place (.array items.reverse) stack)
  | .afterField stack fields, .comma => some (.atKey stack fields false)
  | .afterField stack fields, .closeObject => some (place (.object fields.reverse) stack)
  | _, _ => none

end Reader

/-- The document a text is; none if it is none, or more than one. -/
def Json.read? (text : String) : Option Json := do
  match ← (← tokens? text.toList).foldlM Reader.step (.atValue []) with
  | .done json => some json
  | _ => none

end SpriteStage
