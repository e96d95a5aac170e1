import TableTalk.Breach
import TableTalk.Text.Clusters

/-! Typing: a backspace takes back what was typed last, by clusters. -/
namespace TableTalk

/-- A line while it is typed. -/
structure Typing where
  /-- Reversed. -/
  text : List Char := []
  /-- The bytes that each further backspace takes back. -/
  widths : List Nat := []
  deriving DecidableEq, Repr

namespace Typing

def backspace : Char := '\x08'

/-- The bytes of a cluster, counted in one byte: the count starts over at 256. -/
def width (cluster : List Char) : Nat := cluster.foldl (fun n c => n + c.utf8Size) 0 % 256

/-- A reversed text without so many bytes at its end, unless they begin within a character. -/
def takeBack : (bytes : Nat) → List Char → Except Breach (List Char)
  | 0, s => .ok s
  | _ + 1, [] => .ok []
  | n + 1, c :: s =>
    if c.utf8Size ≤ n + 1 then takeBack (n + 1 - c.utf8Size) s else .error .splitCharacter

/-- On an empty line a backspace does nothing. -/
def enter (t : Typing) (cluster : List Char) : Except Breach Typing :=
  if cluster = [backspace] then
    match t.widths with
    | [] => .ok t
    | n :: widths => (takeBack n t.text).map fun text => ⟨text, widths⟩
  else .ok ⟨cluster.reverse ++ t.text, width cluster :: t.widths⟩

/-- What is left of a line once all in it has been typed. -/
def result (line : String) : Except Breach String :=
  ((Text.clusters line.toList).foldlM enter {}).map fun t => String.ofList t.text.reverse

end Typing
end TableTalk
