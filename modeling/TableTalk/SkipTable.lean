import TableTalk.Chance.Coins
import TableTalk.SkipList.Balanced
import TableTalk.SkipList.Insert
import TableTalk.SkipList.Show

/-! Tables from keys to data, in key order: a skip list, and the coins that decide how tall its new
entries are. -/
namespace TableTalk

structure SkipTable (α : Type) where
  list : SkipList α
  coins : Coins

/-- What became of an entry offered to a table. -/
inductive Addition (α : Type)
  | unique
  /-- The key is there already, and the entry is handed back. -/
  | duplicate (key : Bytes) (data : α)
  deriving DecidableEq, Repr

namespace SkipTable
variable {α : Type}

def empty (coins : Coins) : SkipTable α := ⟨{}, coins⟩

/-- Coins are used for new keys only. -/
def add (t : SkipTable α) (key : Bytes) (data : α) : Addition α × SkipTable α :=
  match t.list.insert? t.coins.height key data with
  | some list => (.unique, ⟨list, t.coins.afterHeight⟩)
  | none => (.duplicate key data, t)

def size (t : SkipTable α) : Nat := t.list.size

def find? (t : SkipTable α) (key : Bytes) : Option (Bytes × α) := t.list.find? key

def contains (t : SkipTable α) (key : Bytes) : Bool := t.list.contains key

def modify (t : SkipTable α) (key : Bytes) (f : α → α) : SkipTable α :=
  { t with list := t.list.modify key f }

def toList (t : SkipTable α) : List (Bytes × α) := t.list.toList

def intoList (t : SkipTable α) : List (Bytes × α) := t.list.intoList

end SkipTable
end TableTalk
