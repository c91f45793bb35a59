import SpriteStage.Decimal.Notation
import SpriteStage.Json.Text

/-!
# Documents

A `Json` tree keeps numbers and texts as they are written, so that a document can be accepted
without giving every number and text in it a meaning. Documents are written on one line or
indented by two blanks per level.
-/

namespace SpriteStage

/-- A document. Texts and keys are held as they stand between their quotes. -/
inductive Json where
  | null
  | bool (value : Bool)
  | number (written : String)
  | text (written : String)
  | array (items : List Json)
  | object (fields : List (String × Json))
deriving Inhabited

namespace Json

def ofString (text : String) : Json := .text (String.ofList (escapeText text))

def ofInt (n : Int) : Json := .number (toString n)

/-- A double as a document; there is no number for an infinity or a non-number. -/
def ofFloat (x : Float) : Json :=
  if x.isFinite then .number (documentFormat.render x) else .null

/-- An object whose keys are plain names. -/
def record (fields : List (String × Json)) : Json := .object fields

def quoted (written : String) : String := "\"" ++ written ++ "\""

mutual

def compact : Json → String
  | .null => "null"
  | .bool true => "true"
  | .bool false => "false"
  | .number written => written
  | .text written => quoted written
  | .array items => "[" ++ compactItems items ++ "]"
  | .object fields => "\x7b" ++ compactFields fields ++ "\x7d"

def compactItems : List Json → String
  | [] => ""
  | [item] => compact item
  | item :: rest => compact item ++ "," ++ compactItems rest

def compactFields : List (String × Json) → String
  | [] => ""
  | [(key, value)] => quoted key ++ ":" ++ compact value
  | (key, value) :: rest => quoted key ++ ":" ++ compact value ++ "," ++ compactFields rest

end

def indentation (level : Nat) : String := "\n" ++ String.ofList (List.replicate (2 * level) ' ')

mutual

/-- A document over several lines; empty arrays and objects stay on one. -/
def pretty (level : Nat) : Json → String
  | .null => "null"
  | .bool true => "true"
  | .bool false => "false"
  | .number written => written
  | .text written => quoted written
  | .array [] => "[]"
  | .array items => "[" ++ prettyItems (level + 1) items ++ indentation level ++ "]"
  | .object [] => "\x7b\x7d"
  | .object fields => "\x7b" ++ prettyFields (level + 1) fields ++ indentation level ++ "\x7d"

def prettyItems (level : Nat) : List Json → String
  | [] => ""
  | [item] => indentation level ++ pretty level item
  | item :: rest => indentation level ++ pretty level item ++ "," ++ prettyItems level rest

def prettyFields (level : Nat) : List (String × Json) → String
  | [] => ""
  | [(key, value)] => indentation level ++ quoted key ++ ": " ++ pretty level value
  | (key, value) :: rest =>
    indentation level ++ quoted key ++ ": " ++ pretty level value ++ "," ++ prettyFields level rest

end

def prettyLines (json : Json) : List String := (pretty 0 json).splitOn "\n"

end Json

end SpriteStage
