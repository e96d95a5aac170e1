import TableTalk.Breach
import TableTalk.Text.Utf8

/-! The verbs the game knows. They are spelled in capitals, and understood in any case. -/
namespace TableTalk

inductive Keyword
  | exit
  | look
  | say
  | shutdown
  deriving DecidableEq, Repr, Ord

namespace Keyword

/-- Ascending, by rank and by spelling. -/
def all : Array Keyword := #[.exit, .look, .say, .shutdown]

def spelling : Keyword → String
  | exit => "EXIT"
  | look => "LOOK"
  | say => "SAY"
  | shutdown => "SHUTDOWN"

/-- How many keywords come before this one. -/
def rank (k : Keyword) : Nat := all.countP fun other => compare other k = .lt

def capital (b : UInt8) : UInt8 := if 0x61 ≤ b ∧ b ≤ 0x7A then b - 0x20 else b

/-- On which side of a word, written in capitals, a spelling lies. -/
def side (k : Keyword) (word : Bytes) : Ordering :=
  compare (Utf8.encode k.spelling) (word.map capital)

/-- The keyword that a word is, and its position among all. -/
def find? (word : Bytes) : Option (Keyword × Nat) :=
  (bisect (fun i => all[i]?.elim .gt (·.side word)) 0 all.size).bind fun i =>
    all[i]?.map fun k => (k, i)

/-- The keyword at a position. -/
def at? (position : Nat) : Except Breach Keyword :=
  match all[position]? with
  | some k => .ok k
  | none => .error (.indexOutOfBounds all.size position)

end Keyword
end TableTalk
