import TableTalk.SkipList.Basic

/-! Going through a list in key order, by the links of the lowest level: reading it, or taking it
apart. -/
namespace TableTalk.SkipList
variable {α : Type}

/-- The entry a reader comes to next, and how many it has yet to hand out. -/
structure Reader where
  upcoming : Option Nat
  left : Nat
  deriving DecidableEq, Repr

def reader (l : SkipList α) : Reader := ⟨l.next .head 0, l.size⟩

def Reader.next? (r : Reader) (l : SkipList α) : Option ((Bytes × α) × Reader) :=
  (r.upcoming.bind (l.nodes[·]?)).map fun node =>
    ((node.key, node.data), ⟨(node.tower[0]?).join, r.left - 1⟩)

/-- What a reader hands out in at most `fuel` steps. -/
def Reader.take (l : SkipList α) : (fuel : Nat) → Reader → List (Bytes × α)
  | 0, _ => []
  | fuel + 1, r =>
    match r.next? l with
    | none => []
    | some (entry, r) => entry :: Reader.take l fuel r

def toList (l : SkipList α) : List (Bytes × α) := l.reader.take l l.size

def foldl {β : Type} (l : SkipList α) (f : β → Bytes → α → β) (init : β) : β :=
  l.toList.foldl (fun b entry => f b entry.1 entry.2) init

/-- A list being taken apart: each entry is in its slot until it has been handed out. -/
structure Drain (α : Type) where
  slots : Array (Option (Bytes × α × Option Nat))
  upcoming : Option Nat

def drain (l : SkipList α) : Drain α :=
  { slots := l.nodes.map fun node => some (node.key, node.data, (node.tower[0]?).join)
    upcoming := l.next .head 0 }

def Drain.next? (d : Drain α) : Option ((Bytes × α) × Drain α) :=
  match d.upcoming with
  | none => none
  | some id =>
    match (d.slots[id]?).join with
    | none => none
    | some (key, data, next) => some ((key, data), ⟨d.slots.setIfInBounds id none, next⟩)

/-- What is handed out in at most `fuel` steps. -/
def Drain.take : (fuel : Nat) → Drain α → List (Bytes × α)
  | 0, _ => []
  | fuel + 1, d =>
    match d.next? with
    | none => []
    | some (entry, d) => entry :: take fuel d

/-- All entries, the list being used up. -/
def intoList (l : SkipList α) : List (Bytes × α) := l.drain.take l.size

def intoKeys (l : SkipList α) : List Bytes := l.intoList.map (·.1)

end TableTalk.SkipList
