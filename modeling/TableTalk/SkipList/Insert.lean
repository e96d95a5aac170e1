import TableTalk.SkipList.Search

/-! Insertion: a new entry takes over the links of the places that its key was missed at. -/
namespace TableTalk.SkipList
variable {α : Type}

/-- Puts an entry of the given height behind the places of a path. Where it is taller than the list,
the head gains levels that lead to it. -/
def splice (l : SkipList α) (path : List Place) (height : Nat) (key : Bytes) (data : α) :
    SkipList α :=
  let id := l.size
  let tower := (List.range height).map fun level => (path[level]?).bind (l.next · level)
  let linked := (path.take height).zipIdx.foldl (fun l (p, level) => l.link p level id) l
  { head := linked.head ++ Array.replicate (height - l.levels) (some id)
    nodes := linked.nodes.push ⟨key, data, tower.toArray⟩ }

/-- The list with a new key in it, or nothing if the key is there already. -/
def insert? (l : SkipList α) (height : Nat) (key : Bytes) (data : α) : Option (SkipList α) :=
  match l.descend key with
  | .found _ => none
  | .absent path => some (l.splice path height key data)

end TableTalk.SkipList
