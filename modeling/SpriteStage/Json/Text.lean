/-!
# Written texts

Between its quotes a text is written with escapes. `textUnits?` takes the written form apart into
characters and halves of surrogate pairs; `joinUnits?` puts the halves together and refuses a half
that stands alone; `escapeText` writes a text.
-/

namespace SpriteStage

/-- A character, or one half of a pair that stands for a character. -/
inductive TextUnit where
  | char (c : Char)
  | half (code : Nat)
deriving DecidableEq

def hexValue? (c : Char) : Option Nat :=
  if '0' ≤ c ∧ c ≤ '9' then some (c.toNat - '0'.toNat)
  else if 'a' ≤ c ∧ c ≤ 'f' then some (c.toNat - 'a'.toNat + 10)
  else if 'A' ≤ c ∧ c ≤ 'F' then some (c.toNat - 'A'.toNat + 10)
  else none

def TextUnit.ofCode (code : Nat) : TextUnit :=
  if 0xD800 ≤ code ∧ code < 0xE000 then .half code else .char (Char.ofNat code)

def shortEscape? : Char → Option Char
  | '"' => some '"'
  | '\\' => some '\\'
  | '/' => some '/'
  | 'b' => some '\x08'
  | 'f' => some '\x0c'
  | 'n' => some '\n'
  | 'r' => some '\r'
  | 't' => some '\t'
  | _ => none

/-- The units of a written text; none if an escape is malformed, or if a quote or a control
character stands unescaped. -/
def textUnits? : List Char → Option (List TextUnit)
  | [] => some []
  | '\\' :: 'u' :: a :: b :: c :: d :: rest => do
    let code := ((← hexValue? a) * 16 + (← hexValue? b)) * 256 + (← hexValue? c) * 16 + (← hexValue? d)
    return TextUnit.ofCode code :: (← textUnits? rest)
  | '\\' :: letter :: rest => do
    return .char (← shortEscape? letter) :: (← textUnits? rest)
  | c :: rest => do
    if c = '\\' ∨ c = '"' ∨ c.toNat < 0x20 then none
    else return .char c :: (← textUnits? rest)

/-- The characters of a list of units; none if half a pair stands alone. -/
def joinUnits? : List TextUnit → Option (List Char)
  | [] => some []
  | .char c :: rest => do return c :: (← joinUnits? rest)
  | .half high :: .half low :: rest =>
    if high < 0xDC00 ∧ 0xDC00 ≤ low then do
      return Char.ofNat (0x10000 + (high - 0xD800) * 0x400 + (low - 0xDC00)) :: (← joinUnits? rest)
    else none
  | .half _ :: _ => none

def decodeText? (written : List Char) : Option String := do
  return String.ofList (← joinUnits? (← textUnits? written))

def hexDigit (n : Nat) : Char :=
  if n < 10 then Char.ofNat ('0'.toNat + n) else Char.ofNat ('a'.toNat + n - 10)

/-- How a character is written: the quote, the backslash and control characters are escaped, all
others stand for themselves. -/
def escapeChar (c : Char) : List Char :=
  match c with
  | '"' => ['\\', '"']
  | '\\' => ['\\', '\\']
  | '\x08' => ['\\', 'b']
  | '\x0c' => ['\\', 'f']
  | '\n' => ['\\', 'n']
  | '\r' => ['\\', 'r']
  | '\t' => ['\\', 't']
  | c =>
    if c.toNat < 0x20 then ['\\', 'u', '0', '0', hexDigit (c.toNat / 16), hexDigit (c.toNat % 16)]
    else [c]

/-- How a text is written between its quotes. -/
def escapeText (text : String) : List Char := text.toList.flatMap escapeChar

end SpriteStage
