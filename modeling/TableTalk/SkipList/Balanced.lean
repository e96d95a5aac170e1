import TableTalk.SkipList.Basic
import TableTalk.Breach
import TableTalk.Failure
import TableTalk.Memory

/-! Building a list from keys that come in ascending order and whose number is known. Every second
entry of a level stands on the next one, so each entry's height follows from its position alone and
the whole takes linear time. -/
namespace TableTalk.SkipList
variable {α : Type}

/-- How often two divides a positive number. -/
def twos (n : Nat) : Nat :=
  if n ≠ 0 ∧ n % 2 = 0 then twos (n / 2) + 1 else 0
termination_by n
decreasing_by omega

/-- As many levels as `n` has binary digits, but at least one. -/
def levelsFor (n : Nat) : Nat := if n = 0 then 1 else n.log2 + 1

/-- The height of the entry at a position, counted from zero. -/
def heightAt (position levels : Nat) : Nat := min (twos (position + 1) + 1) levels

structure Builder (α : Type) where
  expected : Nat
  list : SkipList α
  /-- The last place on each level. -/
  tails : Array Place
  deriving DecidableEq, Repr

namespace Builder

/-- The bytes of one entry in the arena. -/
def entryWidth : Nat := 48

/-- An empty list with room for `expected` entries. -/
def new (expected : Nat) : Except Failure (Builder α) :=
  if Memory.Fits entryWidth expected then
    .ok
      { expected
        list := { head := Array.replicate (levelsFor expected) none }
        tails := Array.replicate (levelsFor expected) .head }
  else .error ⟨.capacity, none⟩

def size (b : Builder α) : Nat := b.list.size

def isComplete (b : Builder α) : Bool := b.size = b.expected

/-- Puts an entry behind the last place of every level it stands on. -/
def append (b : Builder α) (key : Bytes) (data : α) : Builder α :=
  let id := b.size
  let height := heightAt id b.list.levels
  let linked := (List.range height).foldl
    (fun l level => (b.tails[level]?).elim l (l.link · level id)) b.list
  { b with
    list := { linked with
      nodes := linked.nodes.push ⟨key, data, Array.replicate height none⟩ }
    tails := b.tails.mapIdx fun level p => if level < height then .node id else p }

/-- Adds the next key, and says whether it was the last one. -/
def add (b : Builder α) (key : Bytes) (data : α) : Except Breach (Bool × Builder α) :=
  if b.isComplete then .error (.keyAfterLast b.expected)
  else if b.list.nodes.back?.any fun last => compare last.key key ≠ .lt then
    .error .keyOutOfOrder
  else
    let b := b.append key data
    .ok (b.isComplete, b)

def addAll (b : Builder α) (entries : List (Bytes × α)) : Except Breach (Builder α) :=
  entries.foldlM (fun b entry => (·.2) <$> b.add entry.1 entry.2) b

/-- The finished list, once every key is in. -/
def finish (b : Builder α) : Except Breach (SkipList α) :=
  if b.isComplete then .ok b.list else .error (.finishedEarly b.size b.expected)

/-- The keys so far, in the order they came. -/
def keys (b : Builder α) : List Bytes := b.list.nodes.toList.map (·.key)

end Builder
end TableTalk.SkipList
