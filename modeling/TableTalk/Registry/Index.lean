import Std.Data.HashMap
import TableTalk.Breach
import TableTalk.Bytes
import TableTalk.Failure
import TableTalk.Memory

/-! Indexes: tables that are filled once, then only read. -/
namespace TableTalk

/-- Entries that wait to be indexed, in the order they came. -/
structure Entries (α : Type) where
  items : Array (Bytes × α) := #[]
  deriving DecidableEq, Repr

namespace Entries
variable {α : Type}

/-- The bytes of one waiting entry. -/
def itemWidth : Nat := 24

def size (e : Entries α) : Nat := e.items.size

/-- Whether there can be room for at least `minimum` entries in all. -/
def atLeast (e : Entries α) (minimum : Nat) : Except Failure Unit :=
  if minimum ≤ e.size ∨ Memory.Fits itemWidth minimum then .ok () else .error ⟨.capacity, none⟩

def add (e : Entries α) (key : Bytes) (data : α) : Entries α := ⟨e.items.push (key, data)⟩

end Entries

structure Index (α : Type) where
  table : Std.HashMap Bytes α

namespace Index
variable {α : Type}

/-- The bytes of one entry in the table. -/
def slotWidth : Nat := 25

/-- An empty index with room for `keys` entries, unless they are more than `limit` or more than
there can be room for. -/
def reserve? (keys : Nat) (limit : Option Nat) : Option (Index α) :=
  if limit.all (keys ≤ ·) ∧ Memory.Fits slotWidth keys then some ⟨∅⟩ else none

def insert (t : Index α) (key : Bytes) (data : α) : Except Breach (Index α) :=
  if t.table.contains key then .error .repeatedKey else .ok ⟨t.table.insert key data⟩

def insertAll (t : Index α) (entries : List (Bytes × α)) : Except Breach (Index α) :=
  entries.foldlM (fun t entry => t.insert entry.1 entry.2) t

/-- Indexes all entries, or refuses and leaves them to the caller. -/
def build (e : Entries α) (limit : Option Nat) : Except Breach (Option (Index α)) :=
  match reserve? e.size limit with
  | none => .ok none
  | some t => some <$> t.insertAll e.items.toList

def size (t : Index α) : Nat := t.table.size

def contains (t : Index α) (key : Bytes) : Bool := t.table.contains key

def find? (t : Index α) (key : Bytes) : Option (Bytes × α) := t.table[key]?.map (key, ·)

/-- In no order that means anything. -/
def toList (t : Index α) : List (Bytes × α) := t.table.toList

/-- In key order. -/
def sorted (t : Index α) : List (Bytes × α) :=
  t.toList.mergeSort fun a b => (compare a.1 b.1).isLE

end Index
end TableTalk
