import TableTalk.SkipList.Traverse
import TableTalk.Text.Escape
import TableTalk.Text.Utf8

/-! What a list looks like: its entries as a map, its links as a graph. -/
namespace TableTalk.SkipList
variable {α : Type}

/-- At most `fuel` entries along one level. -/
def chainFrom (l : SkipList α) (level : Nat) : (fuel : Nat) → Option Nat → List (Node α)
  | 0, _ => []
  | fuel + 1, upcoming =>
    match upcoming.bind (l.nodes[·]?) with
    | none => []
    | some node => node :: chainFrom l level fuel (node.tower[level]?).join

def chain (l : SkipList α) (level : Nat) : List (Node α) :=
  l.chainFrom level l.size (l.next .head level)

/-- One level: its two ends, then the link from each stop to the following one. -/
def drawLevel (l : SkipList α) (level : Nat) : List String :=
  let named (s : String) := "\"" ++ s ++ " " ++ toString level ++ "\""
  let stops := "root" :: (l.chain level).map (fun node => Utf8.lossy node.key) ++ ["tail"]
  [named "root", named "tail"] ++
    (stops.zip stops.tail).map fun (a, b) => named a ++ " -> " ++ named b

/-- The links of every level as a directed graph in the DOT language. -/
def draw (l : SkipList α) : String :=
  let lines := ["digraph dump \x7b"] ++ (List.range l.levels).flatMap l.drawLevel ++ ["\x7d"]
  String.join (lines.map (· ++ "\n"))

/-- Each key in quotes, with what `render` makes of its data. -/
def pairs (l : SkipList α) (render : α → String) : List String :=
  l.toList.map fun (key, data) => Text.quote (Utf8.lossy key) ++ ": " ++ render data

/-- On one line. -/
def shortText (l : SkipList α) (render : α → String) : String :=
  "\x7b" ++ ", ".intercalate (l.pairs render) ++ "\x7d"

/-- One entry a line, indented. -/
def longText (l : SkipList α) (render : α → String) : String :=
  match l.pairs render with
  | [] => "\x7b\x7d"
  | lines => "\x7b\n" ++ String.join (lines.map fun s => "    " ++ s ++ ",\n") ++ "\x7d"

end TableTalk.SkipList
