import TableTalk.Registry.Index
import TableTalk.Registry.Name
import TableTalk.SkipTable

/-! The registry of names. Names gather in an ordered table, from where they can be moved into an
index; a key is in one of the two only, and whoever comes first keeps it. -/
namespace TableTalk

structure Registry where
  /-- The names that are not indexed. -/
  loose : SkipTable Name
  index : Option (Index Name) := none
  /-- The most keys that the index will take. -/
  limit : Option Nat := none
  /-- Spellings with one key are spellings of one name. -/
  orthography : Orthography := .standard

namespace Registry

def empty (coins : Coins) (limit : Option Nat) (orthography : Orthography := .standard) :
    Registry :=
  { loose := .empty coins, limit, orthography }

def looseSize (r : Registry) : Nat := r.loose.size

def indexSize (r : Registry) : Nat := r.index.elim 0 (·.size)

def size (r : Registry) : Nat := r.indexSize + r.looseSize

def isIndexed (r : Registry) : Bool := r.index.isSome

/-- Registers a name, unless one with its key is registered. -/
def enter (r : Registry) (name : Name) : Bool × Registry :=
  let key := Utf8.encode name.key
  if r.index.any (·.contains key) then (false, r)
  else
    match r.loose.add key name with
    | (.unique, loose) => (true, { r with loose })
    | (.duplicate _ _, loose) => (false, { r with loose })

/-- Registers a spelling, unless some spelling of the same name is registered. -/
def add (r : Registry) (spelling : String) (kind : NameKind) (owner : Handle) : Bool × Registry :=
  r.enter (r.orthography.name spelling kind owner)

def findKey? (r : Registry) (key : Bytes) : Option Name :=
  ((r.index.bind (·.find? key)).or (r.loose.find? key)).map (·.2)

/-- The name that was typed. -/
def find? (r : Registry) (typed : Bytes) : Option Name :=
  (r.orthography.canonicalBytes? typed).bind fun key => r.findKey? (Utf8.encode key)

def findSpelling? (r : Registry) (spelling : String) : Option Name :=
  r.findKey? (Utf8.encode (r.orthography.canonical spelling))

/-- The indexed names, then the others in key order. -/
def toList (r : Registry) : List Name :=
  ((r.index.elim [] (·.toList)) ++ r.loose.toList).map (·.2)

def shortText (r : Registry) : String :=
  "NameSet \x7b compiled: " ++ toString r.indexSize ++ ", uncompiled: " ++ toString r.looseSize
    ++ " \x7d"

end Registry
end TableTalk
