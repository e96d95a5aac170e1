import TableTalk.Stream
import TableTalk.Text.Escape
import TableTalk.Text.Utf8

/-! The bytes that the token rules tell apart, and the words for a byte that no rule allows. -/
namespace TableTalk.Lexing

def isDigit (b : UInt8) : Bool := 0x30 ≤ b && b ≤ 0x39

def isLetter (b : UInt8) : Bool := 0x41 ≤ b && b ≤ 0x5A || 0x61 ≤ b && b ≤ 0x7A

/-- A letter or one of `!?-*+/`. -/
def startsWord (b : UInt8) : Bool :=
  isLetter b || b == 0x21 || b == 0x3F || b == 0x2D || b == 0x2A || b == 0x2B || b == 0x2F

def continuesWord (b : UInt8) : Bool := startsWord b || isDigit b

def newline : UInt8 := 0x0A
def space : UInt8 := 0x20
def opening : UInt8 := 0x28
def closing : UInt8 := 0x29
def quotation : UInt8 := 0x22
def backslash : UInt8 := 0x5C

/-- A space, tab or carriage return. -/
def isBlank (b : UInt8) : Bool := b == space || b == 0x0D || b == 0x09

/-- What may stand behind a number, a word or a closing bracket. -/
def endsRun (b : UInt8) : Bool := b == space || b == newline || b == closing

/-- Where a malformed number or word is taken to end. -/
def endsRecovery (b : UInt8) : Bool := endsRun b || b == opening

/-- NUL, carriage return, vertical tab and form feed. -/
def isForbidden (b : UInt8) : Bool := b == 0 || b == 0x0D || b == 0x0B || b == 0x0C

/-- Tokens without quotes: runs of bytes of one class. -/
inductive Run
  | number
  | word
  deriving DecidableEq, Repr

namespace Run

def accepts : Run → UInt8 → Bool
  | number => isDigit
  | word => continuesWord

def label : Run → String
  | number => "number"
  | word => "keyword"

end Run

/-- The character a cursor stands on, or its byte if that begins no character. No character has more
than four bytes. -/
def describe (c : Cursor) : String :=
  let (filled, window) := c.lookahead [0, 0, 0, 0]
  match Utf8.pieces (window.take filled) with
  | some char :: _ =>
    let number := String.ofList ((Text.hex 4 char.toNat).map Char.toUpper)
    Text.quoteChar char ++ " (U+" ++ number ++ ")"
  | _ => "byte 0x" ++ String.ofList (Text.hex 2 (window.headD 0).toNat)

end TableTalk.Lexing
