import TableTalk.SkipList.Basic

/-! The search for a key: along a level as far as the keys are less, then down a level. -/
namespace TableTalk.SkipList
variable {α : Type}

/-- Where the way along one level ends. -/
inductive Stop
  | found (id : Nat)
  | before (p : Place)
  deriving DecidableEq, Repr

/-- Follows at most `fuel` links of one level while they lead to lesser keys. -/
def walk (l : SkipList α) (key : Bytes) (level : Nat) : (fuel : Nat) → Place → Stop
  | 0, p => .before p
  | fuel + 1, p =>
    match l.next p level with
    | none => .before p
    | some id =>
      match l.nodes[id]? with
      | none => .before p
      | some node =>
        match compare node.key key with
        | .lt => walk l key level fuel (.node id)
        | .eq => .found id
        | .gt => .before p

/-- An absent key is missed at one place on each level; `path[k]` is that place on level `k`. -/
inductive Descent
  | found (id : Nat)
  | absent (path : List Place)
  deriving DecidableEq, Repr

/-- Goes down the levels below `level`; `path` holds the places on the levels above. No chain has
more links than the arena has entries. -/
def descendFrom (l : SkipList α) (key : Bytes) : (level : Nat) → Place → List Place → Descent
  | 0, _, path => .absent path
  | level + 1, p, path =>
    match l.walk key level l.size p with
    | .found id => .found id
    | .before p => descendFrom l key level p (p :: path)

def descend (l : SkipList α) (key : Bytes) : Descent := l.descendFrom key l.levels .head []

def findId? (l : SkipList α) (key : Bytes) : Option Nat :=
  match l.descend key with
  | .found id => some id
  | .absent _ => none

/-- The stored key and its data. -/
def find? (l : SkipList α) (key : Bytes) : Option (Bytes × α) :=
  ((l.findId? key).bind (l.nodes[·]?)).map fun node => (node.key, node.data)

def contains (l : SkipList α) (key : Bytes) : Bool := (l.findId? key).isSome

/-- Changes the data of a key, if it is there. -/
def modify (l : SkipList α) (key : Bytes) (f : α → α) : SkipList α :=
  match l.findId? key with
  | some id => { l with nodes := l.nodes.modify id fun node => { node with data := f node.data } }
  | none => l

end TableTalk.SkipList
