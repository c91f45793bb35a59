import SpriteStage.Json.Numeral
import SpriteStage.Json.Text

/-!
# Tokens of a document

A document is cut into tokens one character at a time. Numbers and texts are checked against their
grammar when they end; what they stand for is not asked here.
-/

namespace SpriteStage

inductive Token where
  | openArray
  | closeArray
  | openObject
  | closeObject
  | comma
  | colon
  | null
  | bool (value : Bool)
  | number (written : String)
  | text (written : String)
deriving DecidableEq, Repr

/-- What the characters since the last token belong to; they are held in reverse. -/
inductive Pending where
  | nothing
  | number (chars : List Char)
  | word (chars : List Char)
  | text (chars : List Char)
  /-- A text right behind a backslash. -/
  | escape (chars : List Char)

/-- The tokens found so far, in reverse, and the characters that wait for an end. -/
structure Lexer where
  tokens : List Token := []
  pending : Pending := .nothing

namespace Lexer

def isBlank (c : Char) : Bool := c = ' ' || c = '\n' || c = '\t' || c = '\r'

def inNumber (c : Char) : Bool :=
  c.isDigit || c = '-' || c = '+' || c = '.' || c = 'e' || c = 'E'

def mark? : Char → Option Token
  | '[' => some .openArray
  | ']' => some .closeArray
  | '\x7b' => some .openObject
  | '\x7d' => some .closeObject
  | ',' => some .comma
  | ':' => some .colon
  | _ => none

def word? (chars : List Char) : Option Token :=
  if chars = ['n', 'u', 'l', 'l'] then some .null
  else if chars = ['t', 'r', 'u', 'e'] then some (.bool true)
  else if chars = ['f', 'a', 'l', 's', 'e'] then some (.bool false)
  else none

/-- Ends a number or a word; a text that has not ended is refused. -/
def finish (lexer : Lexer) : Option (List Token) :=
  match lexer.pending with
  | .nothing => some lexer.tokens
  | .number chars => do
    let _ ← Numeral.ofChars? chars.reverse
    return .number (String.ofList chars.reverse) :: lexer.tokens
  | .word chars => do return (← word? chars.reverse) :: lexer.tokens
  | .text _ | .escape _ => none

def begin (tokens : List Token) (c : Char) : Option Lexer :=
  if isBlank c then some ⟨tokens, .nothing⟩
  else if c = '"' then some ⟨tokens, .text []⟩
  else if c.isDigit || c = '-' then some ⟨tokens, .number [c]⟩
  else if c.isAlpha then some ⟨tokens, .word [c]⟩
  else do return ⟨(← mark? c) :: tokens, .nothing⟩

def step (lexer : Lexer) (c : Char) : Option Lexer :=
  match lexer.pending with
  | .nothing => begin lexer.tokens c
  | .number chars =>
    if inNumber c then some ⟨lexer.tokens, .number (c :: chars)⟩
    else do begin (← lexer.finish) c
  | .word chars =>
    if c.isAlpha then some ⟨lexer.tokens, .word (c :: chars)⟩
    else do begin (← lexer.finish) c
  | .text chars =>
    if c = '"' then do
      let _ ← textUnits? chars.reverse
      return ⟨.text (String.ofList chars.reverse) :: lexer.tokens, .nothing⟩
    else if c = '\\' then some ⟨lexer.tokens, .escape (c :: chars)⟩
    else some ⟨lexer.tokens, .text (c :: chars)⟩
  | .escape chars => some ⟨lexer.tokens, .text (c :: chars)⟩

end Lexer

/-- The tokens of a text; none if some part of it is no token. -/
def tokens? (text : List Char) : Option (List Token) := do
  let lexer ← text.foldlM Lexer.step {}
  return (← lexer.finish).reverse

end SpriteStage
