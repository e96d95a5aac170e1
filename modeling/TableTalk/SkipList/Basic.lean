import TableTalk.Bytes

/-! Skip lists: entries in an arena, chained in key order on several levels, each level a part of
the one below. Links are indices, so a list is a plain value. -/
namespace TableTalk

namespace SkipList

/-- An entry and its tower: the entry that follows on each level it stands on. -/
structure Node (α : Type) where
  key : Bytes
  data : α
  tower : Array (Option Nat)
  deriving DecidableEq, Repr

/-- Where a search can stand. -/
inductive Place
  | head
  | node (id : Nat)
  deriving DecidableEq, Repr

end SkipList

structure SkipList (α : Type) where
  /-- The first entry on each level. -/
  head : Array (Option Nat) := #[]
  /-- In the order in which they came. -/
  nodes : Array (SkipList.Node α) := #[]
  deriving DecidableEq, Repr

namespace SkipList
variable {α : Type}

def size (l : SkipList α) : Nat := l.nodes.size

def levels (l : SkipList α) : Nat := l.head.size

def tower (l : SkipList α) : Place → Array (Option Nat)
  | .head => l.head
  | .node id => (l.nodes[id]?).elim #[] (·.tower)

/-- The entry after a place on one level. -/
def next (l : SkipList α) (p : Place) (level : Nat) : Option Nat :=
  ((l.tower p)[level]?).join

/-- Lets one link of a place lead to entry `id`. -/
def link (l : SkipList α) (p : Place) (level id : Nat) : SkipList α :=
  match p with
  | .head => { l with head := l.head.setIfInBounds level (some id) }
  | .node n =>
    { l with
      nodes := l.nodes.modify n fun node =>
        { node with tower := node.tower.setIfInBounds level (some id) } }

end SkipList
end TableTalk
