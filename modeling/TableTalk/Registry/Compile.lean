import TableTalk.Registry.Basic

/-! Moving every name into a new index, or, where no index can be had, into a balanced table. -/
namespace TableTalk.Registry

/-- Where all names are afterwards, and how many. -/
inductive Compiled
  | indexed (keys : Nat)
  | rebuilt (keys : Nat)
  deriving DecidableEq, Repr

/-- Why a compilation stops short. -/
inductive Halt
  | failure (f : Failure)
  | breach (b : Breach)
  deriving DecidableEq, Repr

def Halt.message : Halt → String
  | failure f => f.message
  | breach b => b.message

/-- All names in key order: both parts are in order, so they are merged. -/
def inOrder (r : Registry) : List (Bytes × Name) :=
  List.merge r.loose.intoList (r.index.elim [] (·.sorted)) fun a b => (compare b.1 a.1).isGE

/-- The coins that are left go with the table that is rebuilt, or with the empty one. -/
def compile (r : Registry) : Except Halt (Compiled × Registry) := do
  let total := r.size
  match Index.reserve? total r.limit with
  | some t =>
    let t ← (t.insertAll r.inOrder).mapError .breach
    return (.indexed t.size, { r with loose := .empty r.loose.coins, index := some t })
  | none =>
    let b ← (SkipList.Builder.new total).mapError .failure
    let list ← ((b.addAll r.inOrder).bind (·.finish)).mapError .breach
    return (.rebuilt total, { r with loose := ⟨list, r.loose.coins⟩, index := none })

end TableTalk.Registry
